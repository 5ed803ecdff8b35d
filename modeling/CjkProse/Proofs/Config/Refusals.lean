import CjkProse.Config.File
import CjkProse.Proofs.Config.Mapping
import CjkProse.Proofs.Pattern.Depth

/-!
# Settings that are refused

What a mapping is refused for is told in words.  A few mappings come to nothing before that: one
whose preset is a list or a mapping, or an integer that is too long to be shown; one with a key that
is no text; and one with a pattern whose fault is not its wording.  As long as nothing nests so
deeply that the calls which may be open at a time are used up, there are no others; what becomes of
a mapping in which something does is not told.

## Main definitions

* `LoadError.IsRefusal` — the errors that are told in words.
* `LoadError.IsOther` — those that neither are nor say that something nests too deeply.
* `Config.Escapes` — the mappings that come to nothing, with what they come to instead.
* `Config.IsShallow` — the mappings in which nothing nests too deeply.
* `Config.fileEntries` — the entries that a file holds.

## Main results

* `Setting.put_eq_error_iff` — the values that a setting neither takes nor refuses.
* `Config.putAll_eq_error_iff` — a run through entries ends at the first that cannot be put.
* `Config.ofEntries_eq_error_iff` — **the mappings that are neither accepted nor refused**.
* `Config.ofEntries_ne_tooDeep` — a mapping in which nothing nests too deeply does not come to that.
* `Config.ofFile_eq_error_iff` — the files that are neither.
-/

namespace CjkProse

/-- Whether an error is told in words. -/
def LoadError.IsRefusal (e : LoadError) : Prop := ∃ r, e = .refused r

/-- Whether an error is neither told in words nor that something nests too deeply. -/
def LoadError.IsOther (e : LoadError) : Prop := ¬e.IsRefusal ∧ e ≠ .tooDeep

theorem LoadError.IsOther.faultyPattern (f : Pattern.Fault) : (LoadError.faultyPattern f).IsOther := by
  refine ⟨?_, fun h => ?_⟩
  · rintro ⟨r, ⟨⟩⟩
  · cases h

namespace Setting

/-- The first of some texts that is no pattern has a fault other than its wording and its depth. -/
inductive FirstFault (f : Pattern.Fault) : List Text → Prop
  /-- It is the first text of all. -/
  | here {t ts} : Pattern.read t = .error f → f ≠ .malformed → f ≠ .tooDeep →
    FirstFault f (t :: ts)
  /-- It comes after a pattern. -/
  | there {t ts p} : Pattern.read t = .ok p → FirstFault f ts → FirstFault f (t :: ts)

variable {name : String} {v : Value} {e : LoadError}

theorem patternFor_eq_ok_iff {t : Text} :
    patternFor name t = .ok () ↔ ∃ p, Pattern.read t = .ok p := by
  unfold patternFor
  cases Pattern.read t with
  | ok p => simp
  | error f => cases f <;> simp

theorem patternFor_eq_error_iff {t : Text} (he : e.IsOther) :
    patternFor name t = .error e ↔
      ∃ f, e = .faultyPattern f ∧ Pattern.read t = .error f ∧ f ≠ .malformed ∧ f ≠ .tooDeep := by
  unfold patternFor
  cases Pattern.read t with
  | ok p => simp
  | error f =>
    cases f with
    | malformed =>
      simp only [Except.error.injEq]
      constructor
      · rintro rfl
        exact absurd ⟨_, rfl⟩ he.1
      · rintro ⟨f, -, rfl, hf, -⟩
        exact absurd rfl hf
    | tooDeep =>
      simp only [Except.error.injEq]
      constructor
      · rintro rfl
        exact absurd rfl he.2
      · rintro ⟨f, -, rfl, -, hf⟩
        exact absurd rfl hf
    | _ => simp [eq_comm]

/-- Patterns are looked at in turn. -/
theorem forM_patternFor_eq_error_iff {ts : List Text} (he : e.IsOther) :
    ts.forM (patternFor name) = .error e ↔ ∃ f, e = .faultyPattern f ∧ FirstFault f ts := by
  induction ts with
  | nil =>
    constructor
    · intro h
      cases h
    · rintro ⟨f, -, h⟩
      cases h
  | cons t ts ih =>
    rw [show (t :: ts).forM (patternFor name) =
      (patternFor name t >>= fun _ => ts.forM (patternFor name)) from rfl]
    cases ht : patternFor name t with
    | error e' =>
      constructor
      · rintro ⟨⟩
        obtain ⟨f, rfl, hread, hf, hdeep⟩ := (patternFor_eq_error_iff he).mp ht
        exact ⟨f, rfl, .here hread hf hdeep⟩
      · rintro ⟨f, rfl, h⟩
        cases h with
        | here hread hf hdeep =>
          exact ht.symm.trans ((patternFor_eq_error_iff he).mpr ⟨f, rfl, hread, hf, hdeep⟩)
        | there hread h =>
          cases ht.symm.trans (patternFor_eq_ok_iff.mpr ⟨_, hread⟩)
    | ok u =>
      change ts.forM (patternFor name) = .error e ↔ _
      rw [ih]
      obtain ⟨p, hp⟩ := patternFor_eq_ok_iff.mp ht
      refine exists_congr fun f => and_congr_right fun _ => ⟨.there hp, fun h => ?_⟩
      cases h with
      | here hread => cases hp.symm.trans hread
      | there hread h => exact h

/-- Patterns are looked at in turn, and the first that nests too deeply ends this. -/
theorem exists_read_eq_tooDeep {ts : List Text}
    (h : ts.forM (patternFor name) = .error .tooDeep) :
    ∃ t ∈ ts, Pattern.read t = .error .tooDeep := by
  induction ts with
  | nil => cases h
  | cons t ts ih =>
    rw [show (t :: ts).forM (patternFor name) =
      (patternFor name t >>= fun _ => ts.forM (patternFor name)) from rfl] at h
    cases ht : patternFor name t with
    | error e' =>
      rw [ht] at h
      cases h
      refine ⟨t, List.mem_cons_self, ?_⟩
      unfold patternFor at ht
      split at ht <;> cases ht
      assumption
    | ok u =>
      rw [ht] at h
      obtain ⟨t', ht', hread⟩ := ih h
      exact ⟨t', List.mem_cons_of_mem t ht', hread⟩

/-! ### One setting -/

theorem ofBool_put_ne_error {get : Config → Bool} {put : Bool → Config → Config}
    (he : ¬e.IsRefusal) : (ofBool name get put).put v ≠ .error e := by
  intro h
  cases v <;> cases h <;> exact he ⟨_, rfl⟩

theorem ofDemand_put_ne_error {get : Config → Option Bool} {put : Option Bool → Config → Config}
    (he : ¬e.IsRefusal) : (ofDemand name get put).put v ≠ .error e := by
  intro h
  cases v <;> cases h <;> exact he ⟨_, rfl⟩

theorem ofText_put_ne_error {get : Config → Text} {put : Text → Config → Config}
    (he : ¬e.IsRefusal) : (ofText name get put).put v ≠ .error e := by
  intro h
  cases v <;> cases h <;> exact he ⟨_, rfl⟩

/-- A style is refused by showing it, which what nests too deeply is not. -/
theorem ofStyle_put_eq_error_iff {get : Config → Option QuoteStyle}
    {put : Option QuoteStyle → Config → Config} (he : ¬e.IsRefusal) :
    (ofStyle name get put).put v = .error e ↔ ¬v.isWithin Text.maxDepth ∧ e = .tooDeep := by
  have hput (h : ¬v.isWithin Text.maxDepth) : (ofStyle name get put).put v = .error .tooDeep := by
    cases v with
    | list items => exact congrArg Except.error (if_neg h)
    | set members => exact congrArg Except.error (if_neg h)
    | map entries => exact congrArg Except.error (if_neg h)
    | _ => exact absurd rfl h
  constructor
  · intro h
    by_cases hdeep : v.isWithin Text.maxDepth
    · cases v <;> simp only [ofStyle, if_pos hdeep] at h <;> try split at h
      all_goals cases h <;> exact absurd ⟨_, rfl⟩ he
    · exact ⟨hdeep, (Except.error.inj ((hput hdeep).symm.trans h)).symm⟩
  · rintro ⟨hdeep, rfl⟩
    exact hput hdeep

theorem ofTexts_put_eq_error_iff {check : Text → Except LoadError Unit} {get : Config → List Text}
    {put : List Text → Config → Config} (he : ¬e.IsRefusal) :
    (ofTexts name check get put).put v = .error e ↔
      ∃ ts : List Text, v = .list (ts.map Value.text) ∧ ts.forM check = .error e := by
  simp only [ofTexts]
  constructor
  · intro h
    split at h
    · cases h
      exact absurd ⟨_, rfl⟩ he
    · next ts hts =>
      refine ⟨ts, eq_list_of_texts? hts, ?_⟩
      cases hcheck : ts.forM check <;> rw [hcheck] at h <;> cases h
      rfl
  · rintro ⟨ts, rfl, h⟩
    simp only [texts?_list_map, h, Except.map]

theorem ofTexts_anyText_put_ne_error {get : Config → List Text}
    {put : List Text → Config → Config} (he : ¬e.IsRefusal) :
    (ofTexts name anyText get put).put v ≠ .error e := by
  intro h
  obtain ⟨ts, -, hts⟩ := (ofTexts_put_eq_error_iff he).mp h
  have hok : ts.forM anyText = .ok () := forM_eq_ok_iff.mpr fun _ _ => rfl
  cases hok.symm.trans hts

/-- Of all settings, only the style and the list of patterns have values that they neither take nor
refuse. -/
theorem put_eq_error_iff {s : Setting} (hs : s ∈ settings) (he : ¬e.IsRefusal) :
    s.put v = .error e ↔
      s.name = "unified_punctuation" ∧ ¬v.isWithin Text.maxDepth ∧ e = .tooDeep ∨
      s.name = "ignores" ∧ ∃ ts : List Text,
        v = .list (ts.map Value.text) ∧ ts.forM (patternFor "ignores") = .error e := by
  have never {s : Setting} (hname : s.name ≠ "unified_punctuation" ∧ s.name ≠ "ignores")
      (h : s.put v ≠ .error e) :
      s.put v = .error e ↔
        s.name = "unified_punctuation" ∧ ¬v.isWithin Text.maxDepth ∧ e = .tooDeep ∨
        s.name = "ignores" ∧ ∃ ts : List Text,
          v = .list (ts.map Value.text) ∧ ts.forM (patternFor "ignores") = .error e := by
    simp [hname, h]
  revert s
  rw [settings]
  simp only [List.forall_mem_cons, List.not_mem_nil, false_implies, implies_true, and_true]
  refine ⟨never (by decide) (ofText_put_ne_error he), never (by decide) (ofText_put_ne_error he),
    ?_,
    never (by decide) (ofTexts_anyText_put_ne_error he),
    never (by decide) (ofBool_put_ne_error he), never (by decide) (ofBool_put_ne_error he),
    never (by decide) (ofDemand_put_ne_error he),
    never (by decide) (ofTexts_anyText_put_ne_error he),
    never (by decide) (ofBool_put_ne_error he), never (by decide) (ofDemand_put_ne_error he),
    never (by decide) (ofBool_put_ne_error he), never (by decide) (ofDemand_put_ne_error he),
    never (by decide) (ofBool_put_ne_error he), never (by decide) (ofBool_put_ne_error he),
    never (by decide) (ofDemand_put_ne_error he), never (by decide) (ofBool_put_ne_error he),
    never (by decide) (ofBool_put_ne_error he), never (by decide) (ofDemand_put_ne_error he),
    never (by decide) (ofBool_put_ne_error he), never (by decide) (ofBool_put_ne_error he), ?_⟩
  · have hname : ¬"unified_punctuation" = "ignores" := by decide
    rw [ofStyle_put_eq_error_iff he]
    simp [ofStyle, hname]
  · have hname : ¬"ignores" = "unified_punctuation" := by decide
    rw [ofTexts_put_eq_error_iff he]
    simp [ofTexts, hname]

/-- Only the list of patterns has values that a setting neither takes nor refuses and that do not
nest too deeply. -/
theorem put_eq_error_iff_of_isOther {s : Setting} (hs : s ∈ settings) (he : e.IsOther) :
    s.put v = .error e ↔
      s.name = "ignores" ∧ ∃ (ts : List Text) (f : Pattern.Fault),
        v = .list (ts.map Value.text) ∧ e = .faultyPattern f ∧ FirstFault f ts := by
  simp only [put_eq_error_iff hs he.1, forM_patternFor_eq_error_iff he, he.2, and_false, false_or]
  refine and_congr_right fun _ => exists_congr fun ts => ?_
  constructor
  · rintro ⟨rfl, f, rfl, h⟩
    exact ⟨f, rfl, rfl, h⟩
  · rintro ⟨f, rfl, rfl, h⟩
    exact ⟨rfl, f, rfl, h⟩

end Setting

namespace Config

open Setting

variable {entries : List (Value × Value)} {e : LoadError}

/-! ### A run through entries -/

/-- The first of some entries that cannot be put has a pattern with a fault other than its wording
and its depth. -/
inductive FirstFaulty (f : Pattern.Fault) : List (Value × Value) → Prop
  /-- It is the first entry of all. -/
  | here {entry ts rest} : entry.1 = .text "ignores".toList →
    entry.2 = .list (ts.map Value.text) → FirstFault f ts → FirstFaulty f (entry :: rest)
  /-- It comes after an entry that can be put. -/
  | there {entry rest} : CanBePut entry → FirstFaulty f rest → FirstFaulty f (entry :: rest)

theorem canBePut_iff {s : Setting} (hs : s ∈ settings) {v : Value} :
    CanBePut (.text s.name.toList, v) ↔ ∃ change, s.put v = .ok change := by
  constructor
  · rintro ⟨t, ht, hkey, hput⟩
    have hname : t.name.toList = s.name.toList := (Value.text.inj hkey).symm
    have hts : t = s := Option.some_inj.mp <|
      (setting?_eq_some_iff.mpr ⟨ht, hname⟩).symm.trans (setting?_eq_some_iff.mpr ⟨hs, rfl⟩)
    exact hts ▸ hput
  · exact fun hput => ⟨s, hs, rfl, hput⟩

/-- One entry more at the head. -/
theorem firstFaulty_cons_iff {s : Setting} (hs : s ∈ settings) {v : Value} {f : Pattern.Fault} :
    FirstFaulty f ((.text s.name.toList, v) :: entries) ↔
      s.put v = .error (.faultyPattern f) ∨
        (∃ change, s.put v = .ok change) ∧ FirstFaulty f entries := by
  rw [put_eq_error_iff_of_isOther hs (LoadError.IsOther.faultyPattern f)]
  constructor
  · intro h
    cases h with
    | here hkey hv h => exact .inl ⟨String.toList_inj.mp (Value.text.inj hkey), _, f, hv, rfl, h⟩
    | there hcan h => exact .inr ⟨(canBePut_iff hs).mp hcan, h⟩
  · rintro (⟨hname, ts, f, rfl, ⟨⟩, h⟩ | ⟨hput, h⟩)
    · exact .here (by rw [hname]) rfl h
    · exact .there ((canBePut_iff hs).mpr hput) h

/-- A run through entries of settings ends at the first that cannot be put. -/
theorem putAll_eq_error_iff {config : Config} (hset : ∀ e ∈ entries, isSetting e)
    (he : e.IsOther) :
    putAll config entries = .error e ↔ ∃ f, e = .faultyPattern f ∧ FirstFaulty f entries := by
  induction entries generalizing config with
  | nil =>
    constructor
    · intro h
      cases h
    · rintro ⟨f, -, h⟩
      cases h
  | cons entry entries ih =>
    obtain ⟨key, v⟩ := entry
    obtain ⟨hhead, hrest⟩ := List.forall_mem_cons.mp hset
    obtain ⟨s, hfound⟩ := Option.isSome_iff_exists.mp hhead
    obtain ⟨hs, rfl⟩ := bind_setting?_eq_some_iff.mp hfound
    simp only [putAll, hfound, firstFaulty_cons_iff hs]
    cases hput : s.put v with
    | error e' =>
      constructor
      · rintro ⟨⟩
        obtain ⟨-, -, f, -, rfl, -⟩ := (put_eq_error_iff_of_isOther hs he).mp hput
        exact ⟨f, rfl, .inl rfl⟩
      · rintro ⟨f, rfl, h | ⟨⟨_, h⟩, -⟩⟩ <;> cases h
        rfl
    | ok change => simp [ih hrest]

/-! ### The whole -/

/-- A mapping that is neither accepted nor refused, with what it comes to instead. -/
inductive Escapes (entries : List (Value × Value)) : LoadError → Prop
  /-- Its preset is a list, a set or a mapping, and not empty. -/
  | nestedPreset : ¬(presetOf entries).isVoid → ¬(presetOf entries).isPlain →
    Escapes entries .presetNotPlain
  /-- Its preset is an integer that is too long to be shown. -/
  | longPreset : ¬(presetOf entries).isShown → Escapes entries (.badValue .notNumber)
  /-- Its preset is known, and one of the other keys is no text. -/
  | oddKey {base entry} : ofPreset (presetOf entries) = .ok base → entry ∈ others entries →
    entry.1.text? = none → Escapes entries .keyNotText
  /-- Its preset is known, all other keys are settings, and the first value that cannot be put is a
  list whose first text that is no pattern has a fault other than its wording and its depth. -/
  | faultyPattern {base f} : ofPreset (presetOf entries) = .ok base →
    (∀ entry ∈ others entries, isSetting entry) → FirstFaulty f (others entries) →
    Escapes entries (.faultyPattern f)

/-- Only an integer other than zero is too long to be shown. -/
theorem exists_int_of_not_isShown {v : Value} (h : ¬v.isShown) :
    (∃ n, v = .int n) ∧ ¬v.isVoid := by
  cases v with
  | int n =>
    refine ⟨⟨n, rfl⟩, fun hvoid => h ?_⟩
    obtain rfl : n = 0 := by simpa [Value.isVoid] using hvoid
    decide
  | _ => exact absurd rfl h

/-- What a value comes to that names no preset. -/
theorem ofPreset_eq_error_iff {v : Value} (he : ¬e.IsRefusal) :
    ofPreset v = .error e ↔
      ¬v.isVoid ∧ ¬v.isPlain ∧ e = .presetNotPlain ∨ ¬v.isShown ∧ e = .badValue .notNumber := by
  constructor
  · intro h
    unfold ofPreset at h
    split at h
    · cases h
    · next hvoid =>
      split at h
      · next hplain => exact .inl ⟨hvoid, by simpa using hplain, (Except.error.inj h).symm⟩
      · split at h
        · cases h
        · split at h
          · exact absurd ⟨_, (Except.error.inj h).symm⟩ he
          · next hshown => exact .inr ⟨hshown, (Except.error.inj h).symm⟩
  · rintro (⟨hvoid, hplain, rfl⟩ | ⟨hshown, rfl⟩)
    · rw [ofPreset, if_neg hvoid, if_pos (by simpa using hplain)]
    · obtain ⟨⟨n, rfl⟩, hvoid⟩ := exists_int_of_not_isShown hshown
      rw [ofPreset, if_neg hvoid]
      exact if_neg hshown

/-- The values that are not all texts. -/
theorem mapM_text?_eq_none_iff {vs : List Value} :
    vs.mapM Value.text? = none ↔ ∃ v ∈ vs, v.text? = none := by
  induction vs with
  | nil => simp
  | cons v vs ih =>
    cases hv : v.text? <;> cases hvs : vs.mapM Value.text? <;> simp_all

/-- What keys that are no settings come to. -/
theorem checkKeys_eq_error_iff (he : ¬e.IsRefusal) :
    checkKeys entries = .error e ↔
      e = .keyNotText ∧ ∃ entry ∈ entries, entry.1.text? = none := by
  have hmem : (∃ entry ∈ entries, entry.1.text? = none) ↔
      (unknownKeys entries).mapM Value.text? = none := by
    rw [mapM_text?_eq_none_iff]
    constructor
    · rintro ⟨entry, hentry, hkey⟩
      have hnot : !isSetting entry := by simp [isSetting, hkey]
      exact ⟨entry.1, List.mem_map_of_mem (List.mem_filter.mpr ⟨hentry, hnot⟩), hkey⟩
    · rintro ⟨v, hv, hkey⟩
      obtain ⟨entry, hentry, rfl⟩ := List.mem_map.mp hv
      exact ⟨entry, (List.mem_filter.mp hentry).1, hkey⟩
  simp only [hmem, checkKeys, ← unknownKeys_eq]
  split
  · next h => simp [h, eq_comm]
  · next h => simp [h]
  · next h =>
    constructor
    · rintro ⟨⟩
      exact absurd ⟨_, rfl⟩ he
    · rintro ⟨-, hnone⟩
      cases h.symm.trans hnone

/-- A mapping comes to the first error of three: that of its preset, that of its keys and that of its
values. -/
theorem ofEntries_eq_error_iff_of_steps :
    ofEntries entries = .error e ↔
      ofPreset (presetOf entries) = .error e ∨ ∃ base, ofPreset (presetOf entries) = .ok base ∧
        (checkKeys (others entries) = .error e ∨
          checkKeys (others entries) = .ok () ∧ putAll base (others entries) = .error e) := by
  rw [ofEntries_eq_bind]
  cases ofPreset (presetOf entries) <;> cases checkKeys (others entries) <;> simp [Except.bind]

/-- What escapes is not refused, and nothing in it nests too deeply. -/
theorem Escapes.isOther (h : Escapes entries e) : e.IsOther := by
  refine ⟨?_, ?_⟩
  · rintro ⟨r, rfl⟩
    cases h
  · rintro rfl
    cases h

/-- What a mapping comes to that is neither refused nor nests too deeply. -/
theorem ofEntries_eq_error_iff_of_isOther (he : e.IsOther) :
    ofEntries entries = .error e ↔ Escapes entries e := by
  rw [ofEntries_eq_error_iff_of_steps, ofPreset_eq_error_iff he.1, checkKeys_eq_error_iff he.1,
    checkKeys_eq_ok_iff]
  constructor
  · rintro ((⟨hvoid, hplain, rfl⟩ | ⟨hshown, rfl⟩) |
      ⟨base, hbase, ⟨rfl, entry, hentry, hkey⟩ | ⟨hset, hput⟩⟩)
    · exact .nestedPreset hvoid hplain
    · exact .longPreset hshown
    · exact .oddKey hbase hentry hkey
    · obtain ⟨f, rfl, h⟩ := (putAll_eq_error_iff hset he).mp hput
      exact .faultyPattern hbase hset h
  · intro h
    cases h with
    | nestedPreset hvoid hplain => exact .inl (.inl ⟨hvoid, hplain, rfl⟩)
    | longPreset hshown => exact .inl (.inr ⟨hshown, rfl⟩)
    | oddKey hbase hentry hkey => exact .inr ⟨_, hbase, .inl ⟨rfl, _, hentry, hkey⟩⟩
    | faultyPattern hbase hset h =>
      exact .inr ⟨_, hbase, .inr ⟨hset, (putAll_eq_error_iff hset he).mpr ⟨_, rfl, h⟩⟩⟩

/-- **The mappings that are neither accepted nor refused**, and what they come to, among those in
which nothing nests too deeply. -/
theorem ofEntries_eq_error_iff (he : ¬e.IsRefusal) (hdeep : ofEntries entries ≠ .error .tooDeep) :
    ofEntries entries = .error e ↔ Escapes entries e := by
  constructor
  · intro h
    have hother : e ≠ .tooDeep := by
      rintro rfl
      exact hdeep h
    exact (ofEntries_eq_error_iff_of_isOther ⟨he, hother⟩).mp h
  · exact fun h => (ofEntries_eq_error_iff_of_isOther h.isOther).mpr h

/-! ### Depth -/

/-- Whether neither the values of some entries nest too deeply nor the groups in their texts. -/
def IsShallow (entries : List (Value × Value)) : Prop :=
  ∀ entry ∈ entries, entry.2.isWithin Text.maxDepth ∧
    ∀ ts : List Text, entry.2 = .list (ts.map Value.text) →
      ∀ t ∈ ts, Pattern.IsShallow t

theorem putAll_ne_tooDeep {config : Config} (h : IsShallow entries) :
    putAll config entries ≠ .error .tooDeep := by
  have he : ¬LoadError.tooDeep.IsRefusal := by rintro ⟨r, ⟨⟩⟩
  induction entries generalizing config with
  | nil =>
    intro hput
    cases hput
  | cons entry entries ih =>
    obtain ⟨⟨hwithin, hpatterns⟩, hrest⟩ := List.forall_mem_cons.mp h
    rw [putAll]
    cases hkey : entry.1.text?.bind setting? with
    | none => exact ih hrest
    | some s =>
      obtain ⟨hs, -⟩ := bind_setting?_eq_some_iff.mp hkey
      cases hput : s.put entry.2 with
      | ok change => simpa only [hput] using ih hrest
      | error e =>
        simp only [hput]
        rintro ⟨⟩
        rcases (put_eq_error_iff hs he).mp hput with ⟨-, hdeep, -⟩ | ⟨-, ts, hts, hforM⟩
        · exact hdeep hwithin
        · obtain ⟨t, ht, hread⟩ := exists_read_eq_tooDeep hforM
          exact Pattern.read_ne_tooDeep (hpatterns ts hts t ht) hread

/-- Entries of which nothing nests too deeply do not come to that. -/
theorem ofEntries_ne_tooDeep (h : IsShallow entries) : ofEntries entries ≠ .error .tooDeep := by
  have he : ¬LoadError.tooDeep.IsRefusal := by rintro ⟨r, ⟨⟩⟩
  rw [Ne, ofEntries_eq_error_iff_of_steps, ofPreset_eq_error_iff he, checkKeys_eq_error_iff he]
  rintro ((⟨-, -, ⟨⟩⟩ | ⟨-, ⟨⟩⟩) | ⟨base, -, ⟨⟨⟩, -⟩ | ⟨-, hput⟩⟩)
  exact putAll_ne_tooDeep (fun entry hentry => h entry (mem_others_iff.mp hentry).1) hput

/-! ### Files -/

/-- The entries that a file holds, by its name. -/
def fileEntries (name text : Text) : Except LoadError (List (Value × Value)) :=
  if isYamlName name then yamlEntries text else tomlEntries text

theorem ofFile_eq_bind {name text : Text} {bytes : List UInt8} (h : Utf8.decode bytes = .ok text) :
    ofFile name bytes = (fileEntries name text).bind ofEntries := by
  unfold ofFile fileEntries
  rw [h]
  simp only
  cases (if isYamlName name then yamlEntries text else tomlEntries text) <;> rfl

/-- A file that holds no entries is refused, unless one of its values cannot be made or nests too
deeply. -/
theorem fileEntries_eq_error {name text : Text} (h : fileEntries name text = .error e) :
    e.IsRefusal ∨ (∃ fault, e = .badValue fault) ∨ e = .tooDeep := by
  unfold fileEntries yamlEntries tomlEntries at h
  repeat' split at h
  all_goals cases h
  all_goals first
    | exact .inl ⟨_, rfl⟩
    | exact .inr (.inl ⟨_, rfl⟩)
    | exact .inr (.inr rfl)

/-- The files that are neither accepted nor refused, among those whose values can be made and in
which nothing nests too deeply. -/
theorem ofFile_eq_error_iff {name text : Text} {bytes : List UInt8}
    (hdecode : Utf8.decode bytes = .ok text)
    (hmade : ∀ fault, fileEntries name text ≠ .error (.badValue fault)) (he : ¬e.IsRefusal)
    (hdeep : ofFile name bytes ≠ .error .tooDeep) :
    ofFile name bytes = .error e ↔
      ∃ entries, fileEntries name text = .ok entries ∧ Escapes entries e := by
  rw [ofFile_eq_bind hdecode] at hdeep ⊢
  cases hfile : fileEntries name text with
  | error e' =>
    rw [hfile] at hdeep
    constructor
    · rintro ⟨⟩
      rcases fileEntries_eq_error hfile with hrefused | ⟨fault, rfl⟩ | rfl
      · exact absurd hrefused he
      · exact absurd hfile (hmade fault)
      · exact absurd rfl hdeep
    · rintro ⟨entries, ⟨⟩, -⟩
  | ok entries =>
    rw [hfile] at hdeep
    have hiff : ofEntries entries = .error e ↔ Escapes entries e := ofEntries_eq_error_iff he hdeep
    simp [Except.bind, hiff]

end Config

end CjkProse
