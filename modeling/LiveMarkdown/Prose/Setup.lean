import LiveMarkdown.Prose.Contents
import LiveMarkdown.Prose.Extension
import LiveMarkdown.Prose.Fence
import LiveMarkdown.Prose.Footnote
import LiveMarkdown.Prose.RawBlock
import LiveMarkdown.Prose.Typography
import LiveMarkdown.Text.Blank
import LiveMarkdown.Text.Cut

/-!
Prose from its source to markup: the source is cut into blocks, their text is read, and the document
is laid out and written, under the extensions that are asked for.
-/

namespace LiveMarkdown.Prose

/-- Drops the spaces of lines that hold nothing else. The first line keeps them. -/
def clearBlankLines (ls : List (List Char)) : List (List Char) :=
  match ls with
  | [] => []
  | first :: rest =>
    let n := rest.length
    first :: rest.zipIdx.map fun (l, i) => if i + 1 < n && l.all (· == ' ') then [] else l

/-- The lines of a source, with an empty line at their end and spaces for tabs. -/
def sourceLines (source : String) : List (List Char) :=
  let kept := source.toList.filter fun c => c.toNat != 2 && c.toNat != 3
  let text := (Text.normaliseNewlines (String.ofList kept)).toList ++ ['\n', '\n']
  clearBlankLines (Text.linesAtFeeds (Text.expandTabs Block.width 0 text))

/-- Whether a line names a value of the document: a word, a colon and the value. -/
def isMetadataLine (l : List Char) : Bool :=
  let blanks := (l.takeWhile (· == ' ')).length
  let body := l.drop blanks
  let name := body.takeWhile fun c => c.isAlphanum || c == '_' || c == '-'
  blanks ≤ 3 && !name.isEmpty && (body.drop name.length).head? == some ':'

/-- Whether a line is a fence of the metadata: three marks, with a blank after them. -/
def isMetadataFence (marks : List String) (l : List Char) : Bool :=
  marks.any fun m =>
    m.toList.isPrefixOf l && ((l.drop m.length).head?.map Text.isBlank).getD true

/-- The lines after the values of the document; `named` says whether there was a value. -/
def afterMetadata (named : Bool) : List (List Char) → List (List Char)
  | [] => []
  | l :: ls =>
    if l.all Text.isBlank || isMetadataFence ["---", "..."] l then ls
    else if isMetadataLine l then afterMetadata true ls
    else if named && (l.take 4).length = 4 && (l.take 4).all (· == ' ') then afterMetadata named ls
    else l :: ls

/-- The lines of the document without the values at its start. -/
def dropMetadata (ls : List (List Char)) : List (List Char) :=
  match ls with
  | l :: rest => afterMetadata false (if isMetadataFence ["---"] l then rest else ls)
  | [] => []

/-- The text of a document with what needs no reading finished. -/
def prepare (fs : List Feature) (source : String) : Except Fence.Fault Passage := do
  let lines := sourceLines source
  let lines := if fs.contains .metadata then dropMetadata lines else lines
  let lines ←
    if fs.contains .fencedCode then Fence.replace fs (lines.length + 1) lines
    else pure (lines.map Passage.ofChars)
  let text := Passage.unlines lines
  return if fs.contains .markupContent then Enclosed.extract text else RawBlock.extract text

/-- The content of a document, laid out but not yet written. -/
def read (fs : List Feature) (source : String) : Except Fence.Fault Passage := do
  let rs := Block.rules fs
  let prepared ← prepare fs source
  let blocks : StateM Block.Notes Passage := do
    let root ← Block.parseText rs { name := "div" } prepared
    if fs.contains .footnotes then Footnote.add rs root.content else return root.content
  let (content, notes) := blocks.run {}
  let content := Enclosed.settleAll content
  let content := if fs.contains .listings then IndentedCode.setAll content else content
  let fuel := 2 * Passage.depth content + 2 * source.length + 16
  let (content, marks) := ((Inline.readInside fuel content).run { features := fs, notes }).run {}
  let depth := Passage.depth content + 1
  let content :=
    if notes.footnotes.isEmpty then content
    else Footnote.arrange (notes.footnotes.map (·.1)) marks depth content
  let content := Layout.run content
  let content :=
    if fs.contains .attributeLists then AttributeList.assign depth content else content
  let content := Abbreviation.run notes.abbreviations depth content
  let content := if fs.contains .typography then Typography.set (depth + 1) content else content
  return if fs.contains .contents then Contents.run content else content

/-- The markup of a document. -/
def render (fs : List Feature) (source : String) : Except Fence.Fault String := do
  if source.toList.all Text.isBlank then return ""
  return Text.strip (Passage.write (← read fs source))

/-!
### Extensions by their names

A name is that of an extension that comes with the markup, or that of a module that makes one, with a
class of the module after a colon.
-/

/-- What an extension is asked for by: a name, nothing, or a value of another kind. -/
inductive Asked where
  | name (s : String)
  | nothing
  | other (kind : String)
  deriving Repr, BEq

/-- Why an extension is not loaded. -/
inductive SetupFault where
  | noModule (name : String) (outer : Option String)
  | relative (name : String)
  | emptyName
  | noFactory (name : String)
  | noClass (module name : String)
  | noExtension
  deriving Repr, BEq

namespace SetupFault

/-- The name that a module has for itself. -/
def ownName (module : String) : String := if module == "os.path" then "posixpath" else module

def message : SetupFault → String
  | .noModule name none => s!"No module named '{name}'"
  | .noModule name (some outer) => s!"No module named '{name}'; '{outer}' is not a package"
  | .relative name =>
    "the 'package' argument is required to perform a relative import for " ++ s!"'{name}'"
  | .emptyName => "Empty module name"
  | .noFactory name =>
    "Failed to initiate extension " ++ s!"'{name}': module '{ownName name}' has no attribute " ++
      "'makeExtension'"
  | .noClass module name => s!"module '{ownName module}' has no attribute '{name}'"
  | .noExtension => "Extension must be of another type"

/-- Whether the fault says that the extensions of the document cannot be had. -/
def isUnavailable : SetupFault → Bool
  | .noModule .. | .relative _ | .noExtension => true
  | _ => false

def className : SetupFault → String
  | .noModule .. => "ModuleNotFoundError"
  | .relative _ | .noExtension => "TypeError"
  | .emptyName => "ValueError"
  | .noFactory _ | .noClass .. => "AttributeError"

end SetupFault

namespace Setup

def words (s : String) : List String := s.splitOn " "

/-- Modules that hold further modules. -/
def packages : List String := words <|
  "asyncio collections concurrent ctypes curses dbm email encodings ensurepip html http idlelib " ++
  "importlib json lib2to3 logging multiprocessing pydoc_data re sqlite3 tkinter tomllib " ++
  "turtledemo unittest urllib venv wsgiref xml xmlrpc zoneinfo markdown yaml bs4 pydantic rich " ++
  "typer click"

/-- Modules that hold no modules. -/
def modules : List String := words <|
  "abc aifc antigravity argparse array ast asynchat asyncore atexit audioop base64 bdb binascii " ++
  "bisect builtins bz2 cProfile calendar cgi cgitb chunk cmath cmd code codecs codeop colorsys " ++
  "compileall configparser contextlib contextvars copy copyreg crypt csv dataclasses datetime " ++
  "decimal difflib dis distutils doctest enum errno faulthandler fcntl filecmp fileinput fnmatch " ++
  "fractions ftplib functools gc genericpath getopt getpass gettext glob graphlib grp gzip " ++
  "hashlib heapq hmac imaplib imghdr imp inspect io ipaddress itertools keyword linecache locale " ++
  "lzma mailbox mailcap marshal math mimetypes mmap modulefinder netrc nntplib ntpath " ++
  "nturl2path numbers opcode operator optparse os ossaudiodev pathlib pdb pickle pickletools " ++
  "pipes pkgutil platform plistlib poplib posix posixpath pprint profile pstats pty pwd " ++
  "py_compile pyclbr pydoc pyexpat queue quopri random readline reprlib resource rlcompleter " ++
  "runpy sched secrets select selectors shelve shlex shutil signal site smtpd smtplib sndhdr " ++
  "socket socketserver spwd sre_compile sre_constants sre_parse ssl stat statistics string " ++
  "stringprep struct subprocess sunau symtable sys sysconfig syslog tabnanny tarfile telnetlib " ++
  "tempfile termios textwrap this threading time timeit token tokenize trace traceback " ++
  "tracemalloc tty turtle types typing unicodedata uu uuid warnings wave weakref webbrowser " ++
  "xdrlib zipapp zipfile zipimport zlib os.path html.parser html.entities json.decoder " ++
  "json.encoder xml.etree xml.dom xml.sax urllib.parse urllib.request collections.abc " ++
  "importlib.util importlib.abc email.message concurrent.futures logging.config " ++
  "logging.handlers unittest.mock http.client http.server markdown.extensions markdown.util " ++
  "markdown.core markdown.inlinepatterns markdown.blockprocessors markdown.blockparser " ++
  "markdown.htmlparser markdown.postprocessors markdown.preprocessors markdown.serializers " ++
  "markdown.test_tools markdown.treeprocessors markdown.__main__ markdown.__meta__"

/-- Where the modules of the extensions of the markup are. -/
def home : String := "markdown.extensions."

/-- The function of a module that makes its extension. -/
def factory : String := "makeExtension"

/-- The classes of the extensions of the markup, by the names of the extensions. -/
def classes : List (String × String) :=
  [("fenced_code", "FencedCodeExtension"), ("attr_list", "AttrListExtension"),
    ("abbr", "AbbrExtension"), ("admonition", "AdmonitionExtension"),
    ("def_list", "DefListExtension"), ("footnotes", "FootnoteExtension"),
    ("md_in_html", "MarkdownInHtmlExtension"), ("tables", "TableExtension"),
    ("toc", "TocExtension"), ("nl2br", "Nl2BrExtension"), ("sane_lists", "SaneListExtension"),
    ("meta", "MetaExtension"), ("legacy_em", "LegacyEmExtension"),
    ("legacy_attrs", "LegacyAttrExtension"), ("wikilinks", "WikiLinkExtension"),
    ("smarty", "SmartyExtension"), ("codehilite", "CodeHiliteExtension"),
    ("extra", "ExtraExtension")]

/-- The extension that a module of the markup makes. -/
def ofModule? (module : String) : Option String :=
  (classes.find? fun (n, _) => home ++ n == module).map (·.1)

/-- Looks for a module through the modules around it. -/
def findModule (whole : String) : Option String → List String → Except SetupFault Unit
  | _, [] => .ok ()
  | outer, name :: rest =>
    if packages.contains name || modules.contains name || (ofModule? name).isSome then
      findModule whole (some name) rest
    else .error (.noModule name (outer.filter fun o => !packages.contains o && o != "xml.etree" &&
      o ++ "." != home && o != "xml.dom" && o != "xml.sax"))

/-- The names of the modules around a module, and its own. -/
def path (name : String) : List String :=
  let parts := name.splitOn "."
  (List.range parts.length).map fun i => ".".intercalate (parts.take (i + 1))

/-- What the extension of a name adds. -/
def load (name : String) : Except SetupFault (List Feature) := do
  match Feature.ofName? name with
  | some fs => return fs
  | none =>
    let (module, cls) := match name.splitOn ":" with
      | m :: c :: more => (m, ":".intercalate (c :: more))
      | _ => (name, "")
    if module == "" then throw .emptyName
    if module.startsWith "." then throw (.relative module)
    findModule module none (path module)
    let made := ofModule? module
    if cls == "" then
      match made with
      | some n => return (Feature.ofName? n).getD []
      | none => throw (.noFactory module)
    match made with
    | some n =>
      if classes.lookup n == some cls || cls == factory then return (Feature.ofName? n).getD []
      else throw (.noClass module cls)
    | none => throw (.noClass module cls)

/-- What extensions add, in their order; the first one that is not loaded decides. -/
def loadAll : List Asked → Except SetupFault (List Feature)
  | [] => .ok []
  | .nothing :: rest => loadAll rest
  | .other _ :: _ => .error .noExtension
  | .name s :: rest => do
    let fs ← load s
    return fs ++ (← loadAll rest)

/-- The first of some extensions that is no name, with the kind of the value. -/
def firstOther? : Nat → List Asked → Option (Nat × String)
  | _, [] => none
  | i, .name _ :: rest => firstOther? (i + 1) rest
  | i, .nothing :: _ => some (i, "NoneType")
  | i, .other kind :: _ => some (i, kind)

/-- Why a document is not rendered: the class of the error and its message. -/
def explain (asked : List Asked) (fault : SetupFault) : String × String :=
  if !fault.isUnavailable then (fault.className, fault.message)
  else
    match firstOther? 0 asked with
    | some (i, kind) =>
      ("TypeError", s!"sequence item {i}: expected str instance, {kind} found")
    | none =>
      let names := asked.filterMap fun a =>
        match a with
        | .name s => some s
        | _ => none
      ("MarkdownConversionError",
        "Cannot load Markdown extensions " ++ ", ".intercalate names ++ ": " ++ fault.message)

end Setup

end LiveMarkdown.Prose
