import CjkProse.Config.Load
import CjkProse.Toml.Document
import CjkProse.Yaml.Document

/-!
# Settings files

A settings file is written in YAML if its name says so, and else in TOML.  Lists and mappings that
nest too deeply are not read.

## Main definitions

* `suffix` — the ending of a file name.
* `Config.ofFile` — the settings that a file makes.
-/

namespace CjkProse

/-- The ending of a file name from its last point on.  A point at either end of the name starts no
ending. -/
def suffix (name : Text) : Text :=
  let ending := (name.reverse.takeWhile (· != '.')).reverse
  if ending.isEmpty || name.length ≤ ending.length + 1 then [] else '.' :: ending

/-- Whether a file name is that of a file in YAML. -/
def isYamlName (name : Text) : Bool :=
  suffix name == ".yaml".toList || suffix name == ".yml".toList

namespace Config

/-- The entries that a file in TOML holds. -/
def tomlEntries (text : Text) : Except LoadError (List (Value × Value)) :=
  match Toml.read text with
  | .ok entries => .ok entries
  | .error .malformed => .error (.refused .badToml)
  | .error .numberTooLong => .error (.badValue .notNumber)
  | .error .tooDeep => .error .tooDeep

/-- The entries that a file in YAML holds; a value that stands for nothing holds none. -/
def yamlEntries (text : Text) : Except LoadError (List (Value × Value)) :=
  match Yaml.read (Text.unifyNewlines text) with
  | .ok v =>
    if v.isVoid then .ok []
    else
      match v with
      | .map entries => .ok entries
      | _ => .error (.refused .notMapping)
  | .error .malformed => .error (.refused .badYaml)
  | .error (.value fault) => .error (.badValue fault)
  | .error .tooDeep => .error .tooDeep

/-- The settings that a file makes, by its name and its bytes. -/
def ofFile (name : Text) (bytes : List UInt8) : Except LoadError Config :=
  match Utf8.decode bytes with
  | .error fault => .error (.notUtf8 fault)
  | .ok text =>
    match (if isYamlName name then yamlEntries text else tomlEntries text) with
    | .error e => .error e
    | .ok entries => ofEntries entries

example : suffix "a.b.yml".toList = ".yml".toList ∧ suffix ".yaml".toList = [] := by decide

end Config

end CjkProse
