import LiveMarkdown.Document.Builder
import LiveMarkdown.Document.Writer
import LiveMarkdown.Fragment.Program
import LiveMarkdown.Fragment.Walk
import LiveMarkdown.Metadata.FrontMatter
import LiveMarkdown.Prose.Extension
import LiveMarkdown.Prose.Setup

/-!
Pages from their source. The metadata are taken off, the rest is rendered, the fragments of what was
rendered are run, and the document is written as they left it.
-/

namespace LiveMarkdown

open Document (NodeId Forest)
open Script (Machine Value Run)

namespace Page

/-- The markup of a page and its metadata. Without a choice the default extensions are used. -/
def render (m : Machine) (source : String) (asked : Option (List Prose.Asked)) :
    Run (String × Value) := do
  let (metadata, body) ← Metadata.FrontMatter.read m source
  let asked := asked.getD (Prose.Extension.defaults.map .name)
  match Prose.Setup.loadAll asked with
  | .ok features =>
    match Prose.render features body with
    | .ok html => return (html, metadata)
    | .error fault => Run.raise "TypeError" fault.message
  | .error fault =>
    let (className, message) := Prose.Setup.explain asked fault
    Run.raise className message

/-- Adds the document of a markup text. -/
def readDocument (html : String) : Run NodeId := do
  match Forest.read (← Run.forest) true html with
  | .ok (root, f) =>
    Run.setForest f
    return root
  | .error e => Run.raise "ParserRejectedMarkup" e.message

/-- What became of a page. -/
structure Result where
  root : NodeId
  html : String
  run : DocumentRun
  metadata : Value

/-- Renders a page and runs its fragments. -/
def run (m : Machine) (config : Config) (source : String) (asked : Option (List Prose.Asked))
    (options : RunOptions) : Engine Result := do
  let (html, metadata) ← Engine.lift (render m source asked)
  let root ← Engine.lift (readDocument html)
  let evaluator := Program.evaluator m config.filename
  let run ← DocumentRun.process evaluator m config root metadata
    { options with source := some source }
  let html ← Engine.lift (Script.Markup.text m root)
  return { root, html, run, metadata }

end Page

end LiveMarkdown
