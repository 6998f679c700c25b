import Steward.Markup.Datum
import Steward.Settings.Basic
import Steward.Settings.Variables

/-!
# Where settings come from

A setting is given by whoever asks for the settings, by a variable of the environment, or by a file of
variables; the first of these that gives it counts. Names are the same in any case. A configuration file is one
way to give settings. It is read piece by piece while its document is loaded; what loads documents and what validates
settings are not the program's own, and `Settings.fromFile` takes them as they come.

## Contents

* `Surroundings` — the environment and the file of variables;
* `Settings.resolve` — settings from what is given and the surroundings;
* `Feed`, `ConfigFile`, `ConfigFile.opened` — files that are opened and read;
* `Settings.fromFile` — settings from a configuration file, with any loader and any validation;
* `Settings.documentIn`, `resolveData`, `Settings.ofFile` — settings from a configuration file with a loader and a
  validation that are at hand.
-/

namespace Steward

/-- The variables of the environment, and the content of the file of variables, if there is one. -/
structure Surroundings where
  environment : List (String × String)
  file : Option String
  deriving Inhabited

/-- What a variable's name for a setting starts with. -/
def variablePrefix : String := "foundry_sync_"

namespace Settings

/-- The last entry whose name is the given one in any case. -/
def anyCase (entries : List (String × α)) (name : String) : Option α :=
  (entries.reverse.find? fun e => Text.lower e.1 = name).map (·.2)

/-- A setting among those given: under its own name, or under the same name in another case. -/
def givenAs (given : List (String × Value)) (name : String) : Option Value :=
  (given.lookup name).or (anyCase given name)

/-- A setting among variables. -/
def variableFor (vars : List (String × String)) (name : String) : Option Value :=
  (anyCase vars (variablePrefix ++ name)).map .text

/-- The variables that have a value. -/
def valued (vars : List (String × Option String)) : List (String × String) :=
  vars.filterMap fun (name, value) => value.map fun v => (name, v)

/-- The settings that any source gives. -/
def collected (given : List (String × Value)) (around : Surroundings) : List (String × Value) :=
  let fileVariables := (around.file.map (Variables.ofFile around.environment)).getD []
  names.filterMap fun name =>
    let value := (givenAs given name).or
      ((variableFor around.environment name).or (variableFor (valued fileVariables) name))
    value.map fun v => (name, v)

/-- The settings that are given, or that the surroundings give. -/
def resolve (given : List (String × Value)) (around : Surroundings) : Except Fault Settings :=
  schema.accept (.map (collected given around))

end Settings

/-! ## Configuration files -/

/-- What reading a file gives: its text in pieces, as far as it can be read, and why it cannot be read any further, unless
that is its end. -/
structure Feed where
  pieces : List String
  fault : Option Fault

/-- The text that was read. -/
def Feed.text (feed : Feed) : String :=
  String.join feed.pieces

/-- A configuration file. -/
inductive ConfigFile where
  | unreadable
  | bytes (content : ByteArray)

/-- Whether no file can have the path, whatever the system holds. -/
def isMalformedPath (path : String) : Bool :=
  path.toList.contains '\x00'

/-- Reads the content of a file. A text is read in one piece, and bytes that are no text in none. -/
def Feed.ofBytes (content : ByteArray) : Feed :=
  match String.fromUTF8? content with
  | some s => ⟨[String.ofList (Text.normalLines s.toList)], none⟩
  | none => ⟨[], some .notUnicode⟩

/-- Opens the file at a path. -/
def ConfigFile.opened (path : String) (file : ConfigFile) : Except Fault Feed :=
  if isMalformedPath path then .error .pathMalformed
  else
    match file with
    | .unreadable => .error .fileUnreadable
    | .bytes content => .ok (.ofBytes content)

namespace Markup.Datum

mutual

/-- Data as a document value. Of a map only the entries with a name are kept. -/
def toValue : Datum → Value
  | .null => .null
  | .truth b => .bool b
  | .integer n => .int n
  | .real x => .real x
  | .text s => .text s
  | .binary bs => .bytes bs
  | .moment written => .moment written
  | .list items => .list (itemValues items)
  | .map entries => .map (entryValues entries)
  | .set items => .list (itemValues items)

/-- The items of a list as document values. -/
def itemValues : List Datum → List Value
  | [] => []
  | d :: rest => toValue d :: itemValues rest

/-- The named entries of a map as document values. -/
def entryValues : List (Datum × Datum) → List (String × Value)
  | [] => []
  | (.text name, d) :: rest => (name, toValue d) :: entryValues rest
  | _ :: rest => entryValues rest

end

end Markup.Datum

namespace Settings

open Markup (Datum)

/-- The entries of a map as settings; every key has to be a name. A name that comes again has its last
value. -/
def givenBy : List (Datum × Datum) → Except Fault (List (String × Datum))
  | [] => .ok []
  | (.text name, d) :: rest => do
    let later ← givenBy rest
    return if Keyed.holds later name then later else (name, d) :: later
  | _ :: _ => .error .settingNotNamed

/-- What is made of a fault of opening, reading or loading a configuration file. -/
def configFault (path : String) (f : Fault) : Fault :=
  if f.isSystem then .configUnreadable path
  else if f.category = .markup then .configInvalid path
  else f

/-- The settings of a configuration file. -/
def fromFile (load : Feed → Except Fault Datum) (validate : List (String × Datum) → Except Fault Settings) (path : String)
    (opened : Except Fault Feed) : Except Fault Settings :=
  match opened >>= load with
  | .error f => .error (configFault path f)
  | .ok .null => validate []
  | .ok (.map entries) => givenBy entries >>= validate
  | .ok _ => .error (.configNotMapping path)

/-! ## The loader and the validation that are at hand -/

/-- The document of what was read, if that was everything. Where there is no document, there is no data. -/
def documentIn (feed : Feed) : Except Fault Datum :=
  match feed.fault with
  | some f => .error f
  | none => do
    let document ← Markup.load feed.text
    return document.getD .null

/-- The settings that are given as data, or that the surroundings give. -/
def resolveData (around : Surroundings) (given : List (String × Datum)) : Except Fault Settings :=
  resolve (given.map fun e => (e.1, e.2.toValue)) around

/-- The settings of a configuration file, where it is read to its end before its document is looked for. -/
def ofFile (path : String) (file : ConfigFile) (around : Surroundings) : Except Fault Settings :=
  fromFile documentIn (resolveData around) path (file.opened path)

end Settings

end Steward
