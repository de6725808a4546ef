import LiveMarkdown.Script.Machine

/-!
How documents are run: the key that switches execution on, the classes that mark code, and the name
under which code is compiled.
-/

namespace LiveMarkdown

open Script (Machine Value Run)

structure Config where
  enableKey : String := "python-elements"
  markers : List String := ["python", "language-python"]
  filename : String := "<fragment>"
deriving Repr, DecidableEq

/-- What is wrong with one setting. -/
inductive SettingFault where
  | notText
  | notUnicode
  | refused (reason : String)
  | unknown
  | frozen
deriving Repr, DecidableEq

namespace SettingFault

def kind : SettingFault → String
  | .notText => "string_type"
  | .notUnicode => "string_unicode"
  | .refused _ => "value_error"
  | .unknown => "extra_forbidden"
  | .frozen => "frozen_instance"

def message : SettingFault → String
  | .notText => "Input should be a valid string"
  | .notUnicode =>
    "Input should be a valid string, unable to parse raw data as a unicode string"
  | .refused reason => "Value error, " ++ reason
  | .unknown => "Extra inputs are not permitted"
  | .frozen => "Instance is frozen"

end SettingFault

namespace Config

/-- The names of the settings in the order in which they are checked. -/
def settingNames : List String := ["enable_key", "marker_classes", "filename"]

def readKey (s : String) : Except SettingFault String :=
  let key := Text.strip s
  if key == "" then .error (.refused "The enable key cannot be empty.") else .ok key

/-- Marker classes without blanks around them, each once. An entry that is blank is refused. -/
def readMarkers (entries : List String) : Except SettingFault (List String) :=
  let rec go (seen : List String) : List String → Except SettingFault (List String)
    | [] => .ok seen
    | e :: es =>
      let c := Text.strip e
      if c == "" then .error (.refused "Marker classes cannot contain empty entries.")
      else go (if seen.contains c then seen else seen ++ [c]) es
  match go [] entries with
  | .error e => .error e
  | .ok [] => .error (.refused "At least one marker class is required.")
  | .ok classes => .ok classes

/-- Marker classes in one text, with commas between them. -/
def readMarkerText (s : String) : Except SettingFault (List String) :=
  readMarkers (Text.splitAt "," s)

/-- The texts of entries up to the first blank one: those after it are not looked at. -/
def entryTexts (m : Machine) : List Value → Run (List String)
  | [] => return []
  | v :: vs => do
    let s ← m.text v
    if Text.strip s == "" then return [s]
    return s :: (← entryTexts m vs)

/-- Marker classes given as any value: a text, or a list whose entries are shown as texts. -/
def readMarkerValue (m : Machine) (v : Value) : Run (Except SettingFault (List String)) := do
  match ← Script.Kind.basic v with
  | .str s => return readMarkerText s
  | .tuple vs => return readMarkers (← entryTexts m vs)
  | c =>
    match ← Script.Run.deref c with
    | some (.list items) => return readMarkers (← entryTexts m items.toList)
    | some (.set _ items) => return readMarkers (← entryTexts m (Script.Show.setItems items))
    | _ => return .error (.refused "Marker classes must be a string or a sequence of strings.")

/-- A text, or the bytes of one. -/
def readText (v : Value) : Run (Except SettingFault String) := do
  match ← Script.Kind.basic v with
  | .str s => return .ok s
  | .bytes bs => return ofBytes bs
  | c =>
    match ← Script.Run.deref c with
    | some (.byteArray bs) => return ofBytes bs
    | _ => return .error .notText
where
  ofBytes (bs : List UInt8) : Except SettingFault String :=
    match Text.decodeBytes bs with
    | .ok s => .ok s
    | .error _ => .error .notUnicode

/-- Reads settings; all faults are told, those of known settings first. -/
def read (m : Machine) (given : List (String × Value)) :
    Run (Except (List (String × SettingFault)) Config) := do
  let value? (name : String) : Option Value := (given.find? fun p => p.1 == name).map (·.2)
  let plain : Config := {}
  let key ← match value? "enable_key" with
    | some v => do
      match ← readText v with
      | .ok s => pure (readKey s)
      | .error e => pure (.error e)
    | none => pure (.ok plain.enableKey)
  let markers ← match value? "marker_classes" with
    | some v => readMarkerValue m v
    | none => pure (.ok plain.markers)
  let filename ← match value? "filename" with
    | some v => readText v
    | none => pure (.ok plain.filename)
  let unknown := (given.filter fun p => !settingNames.contains p.1).map fun p =>
    (p.1, SettingFault.unknown)
  match key, markers, filename, unknown with
  | .ok enableKey, .ok markers, .ok filename, [] => return .ok { enableKey, markers, filename }
  | key, markers, filename, unknown =>
    let fault {α : Type} (name : String) (r : Except SettingFault α) :
        List (String × SettingFault) :=
      match r with
      | .ok _ => []
      | .error e => [(name, e)]
    return .error (fault "enable_key" key ++ fault "marker_classes" markers ++
      fault "filename" filename ++ unknown)

/-- What is said when a setting is changed after it was read. -/
def assign (name : String) : List (String × SettingFault) := [(name, .frozen)]

end Config

end LiveMarkdown
