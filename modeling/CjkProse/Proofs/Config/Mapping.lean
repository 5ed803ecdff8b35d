import Mathlib.Data.List.Nodup
import CjkProse.Proofs.Config.Settings

/-!
# Settings from a mapping

A mapping is accepted if its preset is known, all its other keys are settings and each value can be
put.  None of this looks at the order of the entries.  The settings that it makes say what the
mapping says, and else what the preset says; this leaves nothing open.

## Main definitions

* `Config.textKeys` — the keys of a mapping that are texts.
* `Config.NamesPreset`, `Config.IsPresetOf` — the preset that a value, and a mapping, names.
* `Config.Overrides` — settings that say what a mapping says, and else what a preset says.

## Main results

* `Config.ofEntries_eq_ok_iff` — the mappings that are accepted.
* `Config.overrides_of_putAll` — what a run through the entries puts.
* `Config.ofEntries_perm` — the order of the entries does not matter.
* `Config.ofEntries_overrides` — **the round trip, and the law of overriding**.
-/

namespace CjkProse.Config

open Setting

/-- The keys of a mapping that are texts. -/
def textKeys (entries : List (Value × Value)) : List Text := entries.filterMap (·.1.text?)

/-- The preset that a value names.  A value that stands for nothing names the default one. -/
def NamesPreset (v : Value) (base : Config) : Prop :=
  (v.isVoid ∨ v = .text "default".toList) ∧ base = .default ∨
    v = .text "empty".toList ∧ base = .empty

/-- The preset that a mapping names.  One that names none has the default one. -/
def IsPresetOf (base : Config) (entries : List (Value × Value)) : Prop :=
  (∀ v, (.text presetKey, v) ∈ entries → NamesPreset v base) ∧
    ((∀ v, (.text presetKey, v) ∉ entries) → base = .default)

/-- The settings `r` say what `entries` say, and else what `base` says. -/
structure Overrides (base : Config) (entries : List (Value × Value)) (r : Config) : Prop where
  /-- What the entries say. -/
  get_of_mem : ∀ s ∈ settings, ∀ v, (.text s.name.toList, v) ∈ entries → s.get r = s.meant v
  /-- What they say nothing of. -/
  get_of_not_mem :
    ∀ s ∈ settings, (∀ v, (.text s.name.toList, v) ∉ entries) → s.get r = s.get base

variable {base config r : Config} {entries : List (Value × Value)}

/-! ### Keys -/

theorem text?_eq_some_iff {v : Value} {t : Text} : v.text? = some t ↔ v = .text t := by
  cases v <;> simp [Value.text?]

theorem mem_textKeys_iff {t : Text} : t ∈ textKeys entries ↔ ∃ v, (.text t, v) ∈ entries := by
  simp [textKeys, text?_eq_some_iff]

@[simp] theorem textKeys_cons_text (t : Text) (v : Value) (entries : List (Value × Value)) :
    textKeys ((.text t, v) :: entries) = t :: textKeys entries := rfl

theorem textKeys_nodup_of_cons {e : Value × Value} (h : (textKeys (e :: entries)).Nodup) :
    (textKeys entries).Nodup := h.sublist ((List.sublist_cons_self e entries).filterMap _)

/-- Where no key is repeated, a key has one value. -/
theorem eq_of_mem_of_nodup (hkeys : (textKeys entries).Nodup) {t : Text} {v w : Value}
    (hv : (.text t, v) ∈ entries) (hw : (.text t, w) ∈ entries) : v = w := by
  induction entries with
  | nil => cases hv
  | cons e entries ih =>
    have hhead {v w} (he : e = (.text t, v)) : (.text t, w) ∉ entries := by
      subst he
      exact fun hw => (List.nodup_cons.mp hkeys).1 (mem_textKeys_iff.mpr ⟨w, hw⟩)
    rcases List.mem_cons.mp hv with hv | hv <;> rcases List.mem_cons.mp hw with hw | hw
    · exact congrArg Prod.snd (hv.trans hw.symm)
    · exact absurd hw (hhead hv.symm)
    · exact absurd hv (hhead hw.symm)
    · exact ih (textKeys_nodup_of_cons hkeys) hv hw

/-! ### Overriding -/

/-- The settings that say what a mapping says, and else what a preset says, are told by both. -/
theorem Overrides.unique {r' : Config} (h : Overrides base entries r)
    (h' : Overrides base entries r') : r = r' := by
  refine eq_of_get_eq fun s hs => ?_
  by_cases hsaid : ∃ v, (.text s.name.toList, v) ∈ entries
  · obtain ⟨v, hv⟩ := hsaid
    rw [h.get_of_mem s hs v hv, h'.get_of_mem s hs v hv]
  · have hnot : ∀ v, (.text s.name.toList, v) ∉ entries := fun v hv => hsaid ⟨v, hv⟩
    rw [h.get_of_not_mem s hs hnot, h'.get_of_not_mem s hs hnot]

/-- One entry more at the head. -/
theorem Overrides.cons {s : Setting} {v : Value} {change : Config → Config} (hs : s ∈ settings)
    (hput : s.put v = .ok change) (hnew : s.name.toList ∉ textKeys entries)
    (h : Overrides (change config) entries r) :
    Overrides config ((.text s.name.toList, v) :: entries) r := by
  have hlaw := isLawful_of_mem_settings s hs
  have hkept : s.get r = s.meant v := by
    rw [h.get_of_not_mem s hs fun w hw => hnew (mem_textKeys_iff.mpr ⟨w, hw⟩), hlaw.get_put hput]
  constructor
  · intro t ht w hw
    rcases List.mem_cons.mp hw with heq | hw
    · obtain ⟨hname, rfl⟩ : t.name.toList = s.name.toList ∧ w = v := by simpa using heq
      have : t = s := Option.some_inj.mp <|
        (setting?_eq_some_iff.mpr ⟨ht, hname⟩).symm.trans (setting?_eq_some_iff.mpr ⟨hs, rfl⟩)
      rw [this, hkept]
    · exact h.get_of_mem t ht w hw
  · intro t ht hnot
    have hne : t.name ≠ s.name := fun hname => hnot v (by simp [hname])
    rw [h.get_of_not_mem t ht fun w hw => hnot w (List.mem_cons_of_mem _ hw),
      hlaw.get_put_of_ne hput config t ht hne]

/-- A run through the entries of settings puts what they say. -/
theorem overrides_of_putAll (hkeys : (textKeys entries).Nodup)
    (hset : ∀ e ∈ entries, isSetting e) (h : putAll config entries = .ok r) :
    Overrides config entries r := by
  induction entries generalizing config with
  | nil =>
    cases h
    exact ⟨fun _ _ _ hv => (List.not_mem_nil hv).elim, fun _ _ _ => rfl⟩
  | cons e entries ih =>
    obtain ⟨key, v⟩ := e
    obtain ⟨s, hfound⟩ := Option.isSome_iff_exists.mp (hset _ List.mem_cons_self)
    obtain ⟨t, ht, hs⟩ := Option.bind_eq_some_iff.mp hfound
    obtain ⟨hmem, rfl⟩ := setting?_eq_some_iff.mp hs
    obtain rfl := text?_eq_some_iff.mp ht
    obtain ⟨hnew, hrest⟩ := List.nodup_cons.mp hkeys
    simp only [putAll, hfound] at h
    cases hput : s.put v with
    | error e => simp [hput] at h
    | ok change =>
      rw [hput] at h
      exact .cons hmem hput hnew (ih hrest (fun e he => hset e (List.mem_cons_of_mem _ he)) h)

/-- A run through the entries ends if every value can be put. -/
theorem exists_putAll_iff :
    (∃ r, putAll config entries = .ok r) ↔
      ∀ e ∈ entries, ∀ s, e.1.text?.bind setting? = some s → ∃ change, s.put e.2 = .ok change := by
  induction entries generalizing config with
  | nil => simp [putAll]
  | cons e entries ih =>
    obtain ⟨key, v⟩ := e
    rw [List.forall_mem_cons]
    cases hfound : key.text?.bind setting? with
    | none => simp [putAll, hfound, ih]
    | some s =>
      cases hput : s.put v with
      | error e => simp [putAll, hfound, hput]
      | ok change => simp [putAll, hfound, hput, ih]

/-! ### The whole -/

theorem preset?_eq_some_iff {t : Text} :
    preset? t = some base ↔
      t = "default".toList ∧ base = .default ∨ t = "empty".toList ∧ base = .empty := by
  constructor
  · intro h
    unfold preset? at h
    split at h
    · exact .inl ⟨‹_›, (Option.some_inj.mp h).symm⟩
    · split at h
      · exact .inr ⟨‹_›, (Option.some_inj.mp h).symm⟩
      · cases h
  · rintro (⟨rfl, rfl⟩ | ⟨rfl, rfl⟩) <;> rfl

theorem ofPreset_eq_ok_iff {v : Value} : ofPreset v = .ok base ↔ NamesPreset v base := by
  by_cases hvoid : v.isVoid
  · rw [ofPreset, if_pos hvoid]
    constructor
    · intro h
      exact .inl ⟨.inl hvoid, (Except.ok.inj h).symm⟩
    · rintro (⟨-, rfl⟩ | ⟨rfl, -⟩)
      · rfl
      · cases hvoid
  · have hname : ofPreset v = .ok base ↔ ∃ t, v = .text t ∧ preset? t = some base := by
      rw [ofPreset, if_neg hvoid]
      cases v with
      | text t => cases h : preset? t <;> simp [Value.isPlain, Value.text?, Value.isShown, h]
      | _ => simp [Value.isPlain, Value.text?] <;> split <;> simp
    simp only [hname, preset?_eq_some_iff, NamesPreset, hvoid]
    constructor
    · rintro ⟨t, rfl, ⟨rfl, rfl⟩ | ⟨rfl, rfl⟩⟩
      · exact .inl ⟨.inr rfl, rfl⟩
      · exact .inr ⟨rfl, rfl⟩
    · rintro (⟨h | rfl, rfl⟩ | ⟨rfl, rfl⟩)
      · cases h
      · exact ⟨_, rfl, .inl ⟨rfl, rfl⟩⟩
      · exact ⟨_, rfl, .inr ⟨rfl, rfl⟩⟩

/-- The value under the key of the preset. -/
def presetOf (entries : List (Value × Value)) : Value :=
  ((entries.find? namesPreset).map Prod.snd).getD .null

theorem namesPreset_iff {e : Value × Value} : namesPreset e ↔ e.1 = .text presetKey := by
  simp [namesPreset, text?_eq_some_iff]

/-- The mappings that name a preset. -/
theorem ofPreset_presetOf (hkeys : (textKeys entries).Nodup) :
    ofPreset (presetOf entries) = .ok base ↔ IsPresetOf base entries := by
  rw [ofPreset_eq_ok_iff]
  unfold presetOf IsPresetOf
  cases hfound : entries.find? namesPreset with
  | none =>
    have hnot : ∀ v, (.text presetKey, v) ∉ entries := fun v hv =>
      List.find?_eq_none.mp hfound _ hv (namesPreset_iff.mpr rfl)
    simp [hnot, NamesPreset, Value.isVoid]
  | some e =>
    obtain ⟨key, v⟩ := e
    obtain rfl : key = .text presetKey := namesPreset_iff.mp (List.find?_some hfound)
    have hv := List.mem_of_find?_eq_some hfound
    constructor
    · intro h
      refine ⟨fun w hw => ?_, fun hnot => absurd hv (hnot v)⟩
      rwa [eq_of_mem_of_nodup hkeys hw hv]
    · exact fun h => h.1 v hv

/-- The keys of the entries that are no settings. -/
def unknownKeys (entries : List (Value × Value)) : List Value :=
  (entries.filter fun entry => !isSetting entry).map Prod.fst

theorem unknownKeys_eq :
    unknownKeys entries = (entries.filter fun entry => !isSetting entry).map Prod.fst :=
  rfl

theorem unknownKeys_eq_nil_iff : unknownKeys entries = [] ↔ ∀ e ∈ entries, isSetting e := by
  simp [unknownKeys]

theorem checkKeys_eq_ok_iff : checkKeys entries = .ok () ↔ ∀ e ∈ entries, isSetting e := by
  simp only [← unknownKeys_eq_nil_iff, checkKeys, ← unknownKeys_eq]
  cases hkeys : unknownKeys entries with
  | nil => simp
  | cons key keys =>
    cases hkey : key.text? <;> cases hrest : keys.mapM Value.text? <;> simp [hkey, hrest]

/-- The entries that do not name the preset. -/
def others (entries : List (Value × Value)) : List (Value × Value) :=
  entries.filter fun e => !namesPreset e

theorem ofEntries_eq_bind (entries : List (Value × Value)) :
    ofEntries entries = (ofPreset (presetOf entries)).bind fun base =>
      (checkKeys (others entries)).bind fun _ => putAll base (others entries) := rfl

theorem mem_others_iff {e : Value × Value} :
    e ∈ others entries ↔ e ∈ entries ∧ e.1 ≠ .text presetKey := by
  simp [others, ← namesPreset_iff]

/-- No setting is named like the key of the preset. -/
theorem name_ne_presetKey : ∀ s ∈ settings, s.name.toList ≠ presetKey := by
  have hnames : "preset" ∉ settings.map Setting.name := by decide
  exact fun s hs h => hnames (String.toList_inj.mp h ▸ List.mem_map_of_mem hs)

theorem mem_others_of_mem_settings {s : Setting} (hs : s ∈ settings) {v : Value} :
    (.text s.name.toList, v) ∈ others entries ↔ (.text s.name.toList, v) ∈ entries := by
  simp [mem_others_iff, name_ne_presetKey s hs]

theorem overrides_others_iff : Overrides base (others entries) r ↔ Overrides base entries r := by
  constructor <;> intro h <;> constructor
  · exact fun s hs v hv => h.get_of_mem s hs v ((mem_others_of_mem_settings hs).mpr hv)
  · exact fun s hs hnot => h.get_of_not_mem s hs fun v hv =>
      hnot v ((mem_others_of_mem_settings hs).mp hv)
  · exact fun s hs v hv => h.get_of_mem s hs v ((mem_others_of_mem_settings hs).mp hv)
  · exact fun s hs hnot => h.get_of_not_mem s hs fun v hv =>
      hnot v ((mem_others_of_mem_settings hs).mpr hv)

/-- An entry of a mapping that is accepted, other than that of the preset: it is a setting with a
value that can be put. -/
def CanBePut (e : Value × Value) : Prop :=
  ∃ s ∈ settings, e.1 = .text s.name.toList ∧ ∃ change, s.put e.2 = .ok change

theorem bind_setting?_eq_some_iff {v : Value} {s : Setting} :
    v.text?.bind setting? = some s ↔ s ∈ settings ∧ v = .text s.name.toList := by
  simp only [Option.bind_eq_some_iff, text?_eq_some_iff, setting?_eq_some_iff]
  constructor
  · rintro ⟨_, rfl, hs, rfl⟩
    exact ⟨hs, rfl⟩
  · rintro ⟨hs, rfl⟩
    exact ⟨_, rfl, hs, rfl⟩

/-- Entries can be put one by one if they are settings and a run through them ends. -/
theorem forall_canBePut_iff (config : Config) :
    (∀ e ∈ entries, CanBePut e) ↔
      (∀ e ∈ entries, isSetting e) ∧ ∃ r, putAll config entries = .ok r := by
  simp only [exists_putAll_iff, isSetting, Option.isSome_iff_exists, bind_setting?_eq_some_iff]
  constructor
  · intro h
    refine ⟨fun e he => ?_, fun e he s hs => ?_⟩
    · obtain ⟨s, hs, hkey, -⟩ := h e he
      exact ⟨s, hs, hkey⟩
    · obtain ⟨t, ht, hkey, hput⟩ := h e he
      have hst : s = t := Option.some_inj.mp <|
        (bind_setting?_eq_some_iff.mpr hs).symm.trans (bind_setting?_eq_some_iff.mpr ⟨ht, hkey⟩)
      exact hst ▸ hput
  · rintro ⟨hset, hput⟩ e he
    obtain ⟨s, hs, hkey⟩ := hset e he
    exact ⟨s, hs, hkey, hput e he s ⟨hs, hkey⟩⟩

/-- **The settings that a mapping makes**, without regard to the order of its entries. -/
theorem ofEntries_eq_ok_iff (hkeys : (textKeys entries).Nodup) :
    ofEntries entries = .ok r ↔
      ∃ base, IsPresetOf base entries ∧ (∀ e ∈ others entries, CanBePut e) ∧
        Overrides base entries r := by
  have hrun : ofEntries entries = .ok r ↔
      ∃ base, ofPreset (presetOf entries) = .ok base ∧ checkKeys (others entries) = .ok () ∧
        putAll base (others entries) = .ok r := by
    rw [ofEntries_eq_bind]
    cases ofPreset (presetOf entries) <;> cases checkKeys (others entries) <;> simp [Except.bind]
  have hothers : (textKeys (others entries)).Nodup :=
    hkeys.sublist (List.filter_sublist.filterMap _)
  simp only [hrun, checkKeys_eq_ok_iff, ofPreset_presetOf hkeys]
  refine exists_congr fun base => and_congr_right fun _ => ?_
  rw [forall_canBePut_iff base, ← overrides_others_iff]
  constructor
  · rintro ⟨hset, hput⟩
    exact ⟨⟨hset, r, hput⟩, overrides_of_putAll hothers hset hput⟩
  · rintro ⟨⟨hset, r', hput⟩, h⟩
    refine ⟨hset, ?_⟩
    rw [hput, (overrides_of_putAll hothers hset hput).unique h]

/-- The order of the entries does not matter. -/
theorem ofEntries_perm {entries' : List (Value × Value)} (hkeys : (textKeys entries).Nodup)
    (hperm : entries'.Perm entries) (h : ofEntries entries = .ok r) :
    ofEntries entries' = .ok r := by
  have hkeys' : (textKeys entries').Nodup := (hperm.filterMap _).nodup_iff.mpr hkeys
  obtain ⟨base, hpreset, hput, hover⟩ := (ofEntries_eq_ok_iff hkeys).mp h
  refine (ofEntries_eq_ok_iff hkeys').mpr ⟨base, ?_, ?_, ?_⟩
  · simpa only [IsPresetOf, hperm.mem_iff] using hpreset
  · simpa only [others, (hperm.filter _).mem_iff] using hput
  · exact ⟨by simpa only [hperm.mem_iff] using hover.get_of_mem,
      by simpa only [hperm.mem_iff] using hover.get_of_not_mem⟩

theorem toEntries_textKeys (c : Config) :
    textKeys c.toEntries = settings.map fun s => s.name.toList := by
  unfold textKeys toEntries
  induction settings <;> simp_all [Value.text?]

theorem mem_toEntries_iff {c : Config} {e : Value × Value} :
    e ∈ c.toEntries ↔ ∃ s ∈ settings, e = (.text s.name.toList, s.get c) := by
  simp [toEntries, eq_comm]

/-- The entries that say all that is in some settings make these settings. -/
theorem ofEntries_toEntries {c : Config} {preset : List (Value × Value)}
    (hread : ∀ t ∈ c.ignores, ∃ p, Pattern.read t = .ok p)
    (hpreset : preset = [] ∨ ∃ v base, preset = [(.text presetKey, v)] ∧ NamesPreset v base) :
    (textKeys (preset ++ c.toEntries)).Nodup ∧ ofEntries (preset ++ c.toEntries) = .ok c := by
  have hnames : (settings.map fun s => s.name.toList).Nodup := by
    simpa [Function.comp_def] using settings_nodup.map fun _ _ => String.toList_inj.mp
  have hnot : presetKey ∉ settings.map fun s => s.name.toList := by
    simpa using name_ne_presetKey
  have hmem {v : Value} : (.text presetKey, v) ∉ c.toEntries := fun hv =>
    hnot (toEntries_textKeys c ▸ mem_textKeys_iff.mpr ⟨v, hv⟩)
  have hothers : others (preset ++ c.toEntries) = c.toEntries := by
    have hall : c.toEntries.filter (fun e => !namesPreset e) = c.toEntries := by
      simp only [List.filter_eq_self, Bool.not_eq_true', ← Bool.not_eq_true, namesPreset_iff]
      rintro ⟨_, v⟩ he rfl
      exact hmem he
    rcases hpreset with rfl | ⟨v, base, rfl, -⟩ <;> exact hall
  have hkeys : (textKeys (preset ++ c.toEntries)).Nodup := by
    rcases hpreset with rfl | ⟨v, base, rfl, -⟩
    · simpa only [List.nil_append, toEntries_textKeys]
    · simpa only [List.singleton_append, textKeys_cons_text, toEntries_textKeys] using
        List.nodup_cons.mpr ⟨hnot, hnames⟩
  have hbase : ∃ base, IsPresetOf base (preset ++ c.toEntries) := by
    rcases hpreset with rfl | ⟨v, base, rfl, hv⟩
    · exact ⟨.default, by simp [IsPresetOf, hmem]⟩
    · refine ⟨base, fun w hw => ?_, fun hnot => absurd List.mem_cons_self (hnot v)⟩
      rcases List.mem_cons.mp hw with hw | hw
      · obtain rfl : w = v := congrArg Prod.snd hw
        exact hv
      · exact absurd hw hmem
  obtain ⟨base, hbase⟩ := hbase
  refine ⟨hkeys, (ofEntries_eq_ok_iff hkeys).mpr ⟨base, hbase, ?_, ?_⟩⟩
  · intro e he
    obtain ⟨s, hs, rfl⟩ := mem_toEntries_iff.mp (hothers ▸ he)
    exact ⟨s, hs, rfl, (takesBack_of_mem_settings hread s hs).1⟩
  · rw [← overrides_others_iff, hothers]
    constructor
    · intro s hs v hv
      have hget : (.text s.name.toList, s.get c) ∈ c.toEntries :=
        mem_toEntries_iff.mpr ⟨s, hs, rfl⟩
      rw [eq_of_mem_of_nodup (toEntries_textKeys c ▸ hnames) hv hget,
        (takesBack_of_mem_settings hread s hs).2]
    · exact fun s hs hno => absurd (mem_toEntries_iff.mpr ⟨s, hs, rfl⟩) (hno _)

/-- **The round trip, and the law of overriding.**  The entries that say all that is in some
settings, after any preset and in any order, make these settings.  And the settings that an accepted
mapping makes say what the mapping says and else what its preset says, which tells them, and any
order of the entries makes the same ones. -/
theorem ofEntries_overrides :
    (∀ (c : Config) (preset entries : List (Value × Value)),
      (∀ t ∈ c.ignores, ∃ p, Pattern.read t = .ok p) →
      (preset = [] ∨ ∃ v base, preset = [(.text presetKey, v)] ∧ NamesPreset v base) →
      entries.Perm (preset ++ c.toEntries) → ofEntries entries = .ok c) ∧
    ∀ (entries : List (Value × Value)) (r : Config), (textKeys entries).Nodup →
      ofEntries entries = .ok r →
      (∃ base, IsPresetOf base entries ∧ Overrides base entries r ∧
        ∀ r', Overrides base entries r' → r' = r) ∧
      ∀ entries' : List (Value × Value), entries'.Perm entries → ofEntries entries' = .ok r := by
  constructor
  · intro c preset entries hread hpreset hperm
    obtain ⟨hkeys, hmade⟩ := ofEntries_toEntries hread hpreset
    exact ofEntries_perm hkeys hperm hmade
  · intro entries r hkeys h
    obtain ⟨base, hbase, -, hover⟩ := (ofEntries_eq_ok_iff hkeys).mp h
    exact ⟨⟨base, hbase, hover, fun r' h' => h'.unique hover⟩,
      fun entries' hperm => ofEntries_perm hkeys hperm h⟩

/-- Settings with a pattern are made by their own entries after the empty preset; null, false and
the name for no style override the default one. -/
theorem ofEntries_overrides_null :
    (let c : Config :=
        { Config.empty with spaceOutsideCode := some false, ignores := ["a+".toList] }
     ofEntries (c.toEntries ++ [(.text presetKey, .text "empty".toList)]) = .ok c) ∧
    (let entries : List (Value × Value) :=
        [(.text "space_outside_code".toList, .null), (.text "trim_space".toList, .bool false),
          (.text "unified_punctuation".toList, .text "none".toList)]
     let r : Config :=
        { Config.default with
          spaceOutsideCode := none, trimSpace := false, unifiedPunctuation := none }
     (∃ base, IsPresetOf base entries ∧ Overrides base entries r ∧
        ∀ r', Overrides base entries r' → r' = r) ∧
      ∀ entries' : List (Value × Value), entries'.Perm entries → ofEntries entries' = .ok r) := by
  constructor
  · refine ofEntries_overrides.1 _ [(.text presetKey, .text "empty".toList)] _ ?_
      (.inr ⟨_, .empty, rfl, .inr ⟨rfl, rfl⟩⟩) List.perm_append_comm
    intro t ht
    obtain rfl := List.mem_singleton.mp ht
    exact ⟨_, rfl⟩
  · exact ofEntries_overrides.2 _ _ (by decide) rfl

end CjkProse.Config
