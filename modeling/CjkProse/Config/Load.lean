import CjkProse.Config.Basic
import CjkProse.Config.Value
import CjkProse.IgnoredSpans
import CjkProse.Text.Order
import CjkProse.Text.Utf8

/-!
# Settings from a mapping

A mapping names a preset and overrides some of its settings.  The preset is looked at first, then
the keys that are no setting, and last the values, in the order in which they are written.

A value of the wrong kind is refused in words that show it.  One that nests too deeply is not: where
the calls that may be open at a time come to an end is not told any closer than by `Text.maxDepth`.

## Main definitions

* `Refusal` — why a mapping makes no settings; `Refusal.message` tells it.
* `LoadError` — a refusal, or a mapping that cannot even be refused in these words.
* `Setting`, `settings` — the settings by name.
* `Config.ofEntries` — the settings that a mapping makes.
-/

namespace CjkProse

/-- Why a mapping makes no settings. -/
inductive Refusal
  /-- There is no preset of that name. -/
  | unknownPreset (shown : Text)
  /-- There are no settings of those names. -/
  | unknownSettings (names : List Text)
  /-- The value should be true or false. -/
  | notBool (name : String)
  /-- The value should be true, false or null. -/
  | notDemand (name : String)
  /-- The value should be a text. -/
  | notText (name : String)
  /-- The value should be a list of texts. -/
  | notTexts (name : String)
  /-- The value should be the name of a style. -/
  | notStyle (name : String)
  /-- The text is not written as a pattern. -/
  | badPattern (name : String) (pattern : Text)
  /-- The file is not written in its format. -/
  | badToml
  /-- The file is not written in its format. -/
  | badYaml
  /-- The file holds something else than a mapping. -/
  | notMapping
  deriving DecidableEq, Repr, Inhabited

/-- The wording of a refusal. -/
def Refusal.message : Refusal → Text
  | unknownPreset shown => "未知的 preset: ".toList ++ shown
  | unknownSettings names => "未知的配置项: ".toList ++ Text.join ", ".toList names
  | notBool name => name.toList ++ " 必须是布尔值".toList
  | notDemand name => name.toList ++ " 必须是布尔值或 null".toList
  | notText name => name.toList ++ " 必须是字符串".toList
  | notTexts name => name.toList ++ " 必须是字符串列表".toList
  | notStyle name => name.toList ++ " 只能是 simplified、traditional 或 none".toList
  | badPattern name pattern =>
    name.toList ++ " 中的正则无效 ".toList ++ Quoted.quote pattern ++ ": ".toList
  | badToml => "解析 TOML 失败: ".toList
  | badYaml => "解析 YAML 失败: ".toList
  | notMapping => "配置文件顶层必须是映射类型".toList

/-- Why settings could not be loaded. -/
inductive LoadError
  /-- They are refused. -/
  | refused (r : Refusal)
  /-- The preset is a list or a mapping, which is the name of nothing. -/
  | presetNotPlain
  /-- A key that is no setting is no text either. -/
  | keyNotText
  /-- A pattern has a fault of another kind than its wording. -/
  | faultyPattern (fault : Pattern.Fault)
  /-- The file is no text. -/
  | notUtf8 (fault : Utf8.Fault)
  /-- A value cannot be made, or a preset cannot be shown. -/
  | badValue (fault : ValueFault)
  /-- Something nests so deeply that it is not told whether it can be read or shown. -/
  | tooDeep
  deriving DecidableEq, Repr, Inhabited

/-- A setting: its name, and how it is read from settings and put into them. -/
structure Setting where
  /-- Its name. -/
  name : String
  /-- Its value in some settings. -/
  get : Config → Value
  /-- Puts a value into settings. -/
  put : Value → Except LoadError (Config → Config)

namespace Setting

/-- A setting that is on or off. -/
def ofBool (name : String) (get : Config → Bool) (put : Bool → Config → Config) : Setting where
  name
  get c := .bool (get c)
  put
    | .bool b => .ok (put b)
    | _ => .error (.refused (.notBool name))

/-- A setting that demands a space, demands none or is indifferent. -/
def ofDemand (name : String) (get : Config → Option Bool)
    (put : Option Bool → Config → Config) : Setting where
  name
  get c :=
    match get c with
    | some b => .bool b
    | none => .null
  put
    | .bool b => .ok (put (some b))
    | .null => .ok (put none)
    | _ => .error (.refused (.notDemand name))

/-- A setting that is a text. -/
def ofText (name : String) (get : Config → Text) (put : Text → Config → Config) : Setting where
  name
  get c := .text (get c)
  put
    | .text t => .ok (put t)
    | _ => .error (.refused (.notText name))

/-- A setting that is a list of texts, each of which is looked at by `check`. -/
def ofTexts (name : String) (check : Text → Except LoadError Unit) (get : Config → List Text)
    (put : List Text → Config → Config) : Setting where
  name
  get c := .list ((get c).map Value.text)
  put v :=
    match v.texts? with
    | none => .error (.refused (.notTexts name))
    | some ts => (ts.forM check).map fun _ => put ts

/-- The style of a name; the name for no style is `none`. -/
def styleOf? (t : Text) : Option (Option QuoteStyle) :=
  if t = "none".toList then some none
  else if t = QuoteStyle.simplified.name.toList then some (some .simplified)
  else if t = QuoteStyle.traditional.name.toList then some (some .traditional)
  else none

/-- A setting that is a style, or none. -/
def ofStyle (name : String) (get : Config → Option QuoteStyle)
    (put : Option QuoteStyle → Config → Config) : Setting where
  name
  get c :=
    match get c with
    | some s => .text s.name.toList
    | none => .null
  put
    | .null => .ok (put none)
    | .text t =>
      match styleOf? t with
      | some s => .ok (put s)
      | none => .error (.refused (.notStyle name))
    | v => .error (if v.isWithin Text.maxDepth then .refused (.notStyle name) else .tooDeep)

/-- Any text will do. -/
def anyText : Text → Except LoadError Unit := fun _ => .ok ()

/-- Only texts that are written as patterns will do. -/
def patternFor (name : String) (t : Text) : Except LoadError Unit :=
  match Pattern.read t with
  | .ok _ => .ok ()
  | .error .malformed => .error (.refused (.badPattern name t))
  | .error .tooDeep => .error .tooDeep
  | .error fault => .error (.faultyPattern fault)

end Setting

open Setting in
/-- All settings. -/
def settings : List Setting := [
  ofText "halfwidth_punctuation" (·.halfwidthPunctuation)
    fun v c => { c with halfwidthPunctuation := v },
  ofText "fullwidth_punctuation" (·.fullwidthPunctuation)
    fun v c => { c with fullwidthPunctuation := v },
  ofStyle "unified_punctuation" (·.unifiedPunctuation)
    fun v c => { c with unifiedPunctuation := v },
  ofTexts "skip_abbrs" anyText (·.skipAbbrs) fun v c => { c with skipAbbrs := v },
  ofBool "space_between_halfwidth_content" (·.spaceBetweenHalfwidth)
    fun v c => { c with spaceBetweenHalfwidth := v },
  ofBool "no_space_between_fullwidth_content" (·.noSpaceBetweenFullwidth)
    fun v c => { c with noSpaceBetweenFullwidth := v },
  ofDemand "space_between_mixedwidth_content" (·.spaceBetweenMixed)
    fun v c => { c with spaceBetweenMixed := v },
  ofTexts "skip_zh_units" anyText (·.skipZhUnits) fun v c => { c with skipZhUnits := v },
  ofBool "no_space_before_pause_or_stop" (·.noSpaceBeforePause)
    fun v c => { c with noSpaceBeforePause := v },
  ofDemand "space_after_halfwidth_pause_or_stop" (·.spaceAfterHalfwidthPause)
    fun v c => { c with spaceAfterHalfwidthPause := v },
  ofBool "no_space_after_fullwidth_pause_or_stop" (·.noSpaceAfterFullwidthPause)
    fun v c => { c with noSpaceAfterFullwidthPause := v },
  ofDemand "space_outside_halfwidth_quotation" (·.spaceOutsideHalfwidthQuote)
    fun v c => { c with spaceOutsideHalfwidthQuote := v },
  ofBool "no_space_outside_fullwidth_quotation" (·.noSpaceOutsideFullwidthQuote)
    fun v c => { c with noSpaceOutsideFullwidthQuote := v },
  ofBool "no_space_inside_quotation" (·.noSpaceInsideQuote)
    fun v c => { c with noSpaceInsideQuote := v },
  ofDemand "space_outside_halfwidth_bracket" (·.spaceOutsideHalfwidthBracket)
    fun v c => { c with spaceOutsideHalfwidthBracket := v },
  ofBool "no_space_outside_fullwidth_bracket" (·.noSpaceOutsideFullwidthBracket)
    fun v c => { c with noSpaceOutsideFullwidthBracket := v },
  ofBool "no_space_inside_bracket" (·.noSpaceInsideBracket)
    fun v c => { c with noSpaceInsideBracket := v },
  ofDemand "space_outside_code" (·.spaceOutsideCode) fun v c => { c with spaceOutsideCode := v },
  ofBool "no_space_inside_hyper_mark" (·.noSpaceInsideWrapper)
    fun v c => { c with noSpaceInsideWrapper := v },
  ofBool "trim_space" (·.trimSpace) fun v c => { c with trimSpace := v },
  ofTexts "ignores" (patternFor "ignores") (·.ignores) fun v c => { c with ignores := v }]

/-- The setting of a name. -/
def setting? (name : Text) : Option Setting := settings.find? fun s => s.name.toList == name

namespace Config

/-- The preset of a name. -/
def preset? (name : Text) : Option Config :=
  if name = "default".toList then some .default
  else if name = "empty".toList then some .empty
  else none

/-- The settings of the preset that a value names. -/
def ofPreset (v : Value) : Except LoadError Config :=
  if v.isVoid then .ok .default
  else if !v.isPlain then .error .presetNotPlain
  else
    match v.text?.bind preset? with
    | some c => .ok c
    | none =>
      if v.isShown then .error (.refused (.unknownPreset v.label))
      else .error (.badValue .notNumber)

/-- The key under which a mapping names its preset. -/
def presetKey : Text := "preset".toList

/-- Whether an entry of a mapping names a preset. -/
def namesPreset (entry : Value × Value) : Bool := entry.1.text? == some presetKey

/-- Whether an entry of a mapping is a setting. -/
def isSetting (entry : Value × Value) : Bool := (entry.1.text?.bind setting?).isSome

/-- Refuses entries that are no settings. -/
def checkKeys (entries : List (Value × Value)) : Except LoadError Unit :=
  let unknown := (entries.filter fun entry => !isSetting entry).map Prod.fst
  match unknown.mapM Value.text? with
  | none => .error .keyNotText
  | some [] => .ok ()
  | some names => .error (.refused (.unknownSettings (sortBy Text.le names)))

/-- Puts the values of entries into settings, one after the other. -/
def putAll (config : Config) : List (Value × Value) → Except LoadError Config
  | [] => .ok config
  | (key, v) :: entries =>
    match key.text?.bind setting? with
    | none => putAll config entries
    | some s =>
      match s.put v with
      | .error e => .error e
      | .ok change => putAll (change config) entries

/-- The settings that the entries of a mapping make. -/
def ofEntries (entries : List (Value × Value)) : Except LoadError Config := do
  let base ← ofPreset (((entries.find? namesPreset).map Prod.snd).getD .null)
  let others := entries.filter fun entry => !namesPreset entry
  checkKeys others
  putAll base others

/-- The entries that say all that is in some settings. -/
def toEntries (config : Config) : List (Value × Value) :=
  settings.map fun s => (.text s.name.toList, s.get config)

end Config

end CjkProse
