import LiveMarkdown.Text.Blank
import LiveMarkdown.Text.Case

/-!
Extensions of the markup: what it can know beyond its core, and their names. Names are compared without
regard to case, and the first spelling of a name wins.
-/

namespace LiveMarkdown.Prose

inductive Feature where
  | fencedCode
  | attributeLists
  | abbreviations
  | notices
  | definitions
  | footnotes
  | markupContent
  | tables
  | contents
  | lineBreaks
  | strictLists
  | metadata
  | plainEmphasis
  | pageLinks
  | typography
  | listings
  deriving BEq, Repr, DecidableEq

namespace Feature

/-- The names of extensions that come with the markup, and what each one adds. -/
def table : List (String × List Feature) :=
  [("fenced_code", [.fencedCode]), ("attr_list", [.attributeLists]), ("abbr", [.abbreviations]),
    ("admonition", [.notices]), ("def_list", [.definitions]), ("footnotes", [.footnotes]),
    ("md_in_html", [.markupContent]), ("tables", [.tables]), ("toc", [.contents]),
    ("nl2br", [.lineBreaks]), ("sane_lists", [.strictLists]), ("meta", [.metadata]),
    ("legacy_em", [.plainEmphasis]), ("wikilinks", [.pageLinks]), ("smarty", [.typography]),
    ("codehilite", [.listings]), ("legacy_attrs", []),
    ("extra", [.fencedCode, .footnotes, .attributeLists, .definitions, .tables, .abbreviations,
      .markupContent])]

def ofName? (name : String) : Option (List Feature) := table.lookup name

end Feature

namespace Extension

/-- The extensions that are enabled unless others are asked for. -/
def defaults : List String :=
  ["fenced_code", "attr_list", "abbr", "admonition", "def_list", "footnotes", "md_in_html",
    "tables"]

/-- Blanks and commas stand between names. -/
def isSeparator (c : Char) : Bool := c == ',' || Text.isBlank c

/-- The names in a text. -/
def names (s : String) : List String := (Text.pieces isSeparator s.toList).map String.ofList

/-- The names in several texts, in their order. -/
def splitNames (texts : List String) : List String := texts.flatMap names

/-- Adds names that are not there in another spelling and are not dropped. -/
def addNames (dropped : List String) (acc : List String) : List String → List String
  | [] => acc
  | n :: ns =>
    let key := Text.lower n
    if dropped.contains key || (acc.map Text.lower).contains key then addNames dropped acc ns
    else addNames dropped (acc ++ [n]) ns

/-- The default extensions and those that are enabled, without those that are disabled. -/
def resolve (enabled disabled : List String) : List String :=
  addNames ((splitNames disabled).map Text.lower) [] (defaults ++ splitNames enabled)

end Extension

end LiveMarkdown.Prose
