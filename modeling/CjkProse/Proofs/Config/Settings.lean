import Mathlib.Data.List.Nodup
import CjkProse.Config.Load

/-!
# One setting

A setting is read from settings and put into them.  What has been put is read again, the other
settings stay as they are, and no part of some settings is missed by all of the settings by name.

## Main definitions

* `Setting.meant` — what a value comes to as the value of a setting.
* `Setting.IsLawful` — what reading and putting have to do with each other.
* `Setting.TakesBack` — a setting's own value can be put.

## Main results

* `setting?_eq_some_iff` — a setting is found by its name.
* `isLawful_of_mem_settings` — **all settings are lawful**.
* `Config.eq_of_get_eq` — settings are told by the values of all settings.
* `Config.takesBack_of_mem_settings` — each setting takes its own value back.
-/

namespace CjkProse

namespace Setting

/-- What a value comes to as the value of a setting.  The name for no style stands for no value; any
other value stands for itself. -/
def meant (s : Setting) (v : Value) : Value :=
  match v with
  | .text t => if s.name = "unified_punctuation" ∧ t = "none".toList then .null else .text t
  | v => v

/-- `get` and `put` are about one part of settings, which is that of the setting `name`. -/
structure IsPart {α : Type} (name : String) (get : Config → α) (put : α → Config → Config) :
    Prop where
  /-- What has been put is read. -/
  get_put : ∀ a c, get (put a c) = a
  /-- The other settings stay as they are. -/
  get_put_of_ne : ∀ a c, ∀ t ∈ settings, t.name ≠ name → t.get (put a c) = t.get c

/-- What reading a setting and putting it have to do with each other. -/
structure IsLawful (s : Setting) : Prop where
  /-- What has been put is read. -/
  get_put : ∀ {v change}, s.put v = .ok change → ∀ c, s.get (change c) = s.meant v
  /-- The other settings stay as they are. -/
  get_put_of_ne : ∀ {v change}, s.put v = .ok change →
    ∀ c, ∀ t ∈ settings, t.name ≠ s.name → t.get (change c) = t.get c

/-! ### The kinds of settings -/

section Kinds

variable {name : String}

theorem ofBool_isLawful {get : Config → Bool} {put : Bool → Config → Config}
    (hpart : IsPart name get put) :
    (ofBool name get put).IsLawful where
  get_put {v change} h c := by
    cases v <;> cases h
    exact congrArg Value.bool (hpart.get_put _ c)
  get_put_of_ne {v change} h := by
    cases v <;> cases h
    exact hpart.get_put_of_ne _

theorem ofDemand_isLawful {get : Config → Option Bool} {put : Option Bool → Config → Config}
    (hpart : IsPart name get put) :
    (ofDemand name get put).IsLawful where
  get_put {v change} h c := by
    cases v <;> cases h <;> simp [ofDemand, hpart.get_put, meant]
  get_put_of_ne {v change} h := by
    cases v <;> cases h <;> exact hpart.get_put_of_ne _

theorem ofText_isLawful {get : Config → Text} {put : Text → Config → Config}
    (hname : name ≠ "unified_punctuation") (hpart : IsPart name get put) :
    (ofText name get put).IsLawful where
  get_put {v change} h c := by
    cases v <;> cases h
    simp [ofText, hpart.get_put, meant, hname]
  get_put_of_ne {v change} h := by
    cases v <;> cases h
    exact hpart.get_put_of_ne _

/-- The texts that a list of texts consists of. -/
theorem texts?_list_map (ts : List Text) : (Value.list (ts.map Value.text)).texts? = some ts := by
  have h (ts : List Text) : (ts.map Value.text).mapM Value.text? = some ts := by
    induction ts with
    | nil => rfl
    | cons t ts ih => simp only [List.map_cons, List.mapM_cons, Value.text?, ih]; rfl
  exact h ts

/-- A value that consists of texts is the list of them. -/
theorem eq_list_of_texts? {v : Value} {ts : List Text} (h : v.texts? = some ts) :
    v = .list (ts.map Value.text) := by
  have hitems {items : List Value} {ts : List Text} (h : items.mapM Value.text? = some ts) :
      items = ts.map Value.text := by
    induction items generalizing ts with
    | nil => simp_all
    | cons v items ih =>
      simp only [List.mapM_cons, Option.bind_eq_bind, Option.bind_eq_some_iff] at h
      obtain ⟨t, ht, rest, hrest, hts⟩ := h
      cases v <;> cases ht
      cases hts
      rw [List.map_cons, ← ih hrest]
  cases v with
  | list items => exact congrArg Value.list (hitems h)
  | _ => cases h

theorem ofTexts_isLawful {check : Text → Except LoadError Unit} {get : Config → List Text}
    {put : List Text → Config → Config} (hpart : IsPart name get put) :
    (ofTexts name check get put).IsLawful := by
  -- Only the texts of a list that passes the check are put.
  have hput {v change} (h : (ofTexts name check get put).put v = .ok change) :
      ∃ ts, v = .list (ts.map Value.text) ∧ change = put ts := by
    simp only [ofTexts] at h
    split at h
    · cases h
    · next ts hts =>
      refine ⟨ts, eq_list_of_texts? hts, ?_⟩
      cases hcheck : ts.forM check <;> rw [hcheck] at h <;> cases h
      rfl
  constructor
  · intro v change h c
    obtain ⟨ts, rfl, rfl⟩ := hput h
    exact congrArg (fun ts => Value.list (ts.map Value.text)) (hpart.get_put ts c)
  · intro v change h
    obtain ⟨ts, rfl, rfl⟩ := hput h
    exact hpart.get_put_of_ne ts

/-- The styles by their names. -/
theorem styleOf?_name (s : QuoteStyle) : styleOf? s.name.toList = some (some s) := by
  cases s <;> decide

theorem styleOf?_eq_some_iff {t : Text} {s : Option QuoteStyle} :
    styleOf? t = some s ↔
      t = "none".toList ∧ s = none ∨ ∃ style, t = style.name.toList ∧ s = some style := by
  constructor
  · intro h
    unfold styleOf? at h
    split at h
    · exact .inl ⟨‹_›, by simpa using h.symm⟩
    · split at h
      · exact .inr ⟨.simplified, ‹_›, by simpa using h.symm⟩
      · split at h
        · exact .inr ⟨.traditional, ‹_›, by simpa using h.symm⟩
        · cases h
  · rintro (⟨rfl, rfl⟩ | ⟨style, rfl, rfl⟩)
    · decide
    · exact styleOf?_name style

theorem ofStyle_isLawful {get : Config → Option QuoteStyle}
    {put : Option QuoteStyle → Config → Config} (hname : name = "unified_punctuation")
    (hpart : IsPart name get put) :
    (ofStyle name get put).IsLawful := by
  have hput {v change} (h : (ofStyle name get put).put v = .ok change) :
      (v = .null ∧ change = put none) ∨
        ∃ t s, v = .text t ∧ styleOf? t = some s ∧ change = put s := by
    cases v <;> simp only [ofStyle] at h <;> try cases h
    · exact .inl ⟨rfl, rfl⟩
    · split at h
      · next t _ s hs => exact .inr ⟨_, s, rfl, hs, by simpa using h.symm⟩
      · cases h
  constructor
  · intro v change h c
    obtain ⟨rfl, rfl⟩ | ⟨t, s, rfl, hs, rfl⟩ := hput h
    · simp [ofStyle, hpart.get_put, meant]
    · obtain ⟨rfl, rfl⟩ | ⟨style, rfl, rfl⟩ := styleOf?_eq_some_iff.mp hs
      · simp [ofStyle, hpart.get_put, meant, hname]
      · cases style <;> simp [ofStyle, hpart.get_put, meant, hname, QuoteStyle.name]
  · intro v change h
    obtain ⟨rfl, rfl⟩ | ⟨t, s, rfl, -, rfl⟩ := hput h
    · exact hpart.get_put_of_ne none
    · exact hpart.get_put_of_ne s

end Kinds

/-! ### All settings -/

end Setting

open Setting

/-- Each setting is of one of the kinds and about a part of its own. -/
theorem isLawful_of_mem_settings : ∀ s ∈ settings, s.IsLawful := by
  rw [settings]
  simp only [List.forall_mem_cons, List.not_mem_nil, false_implies, implies_true, and_true]
  refine ⟨ofText_isLawful (by decide) ?_, ofText_isLawful (by decide) ?_, ofStyle_isLawful rfl ?_,
    ofTexts_isLawful ?_, ofBool_isLawful ?_, ofBool_isLawful ?_, ofDemand_isLawful ?_,
    ofTexts_isLawful ?_, ofBool_isLawful ?_, ofDemand_isLawful ?_, ofBool_isLawful ?_,
    ofDemand_isLawful ?_, ofBool_isLawful ?_, ofBool_isLawful ?_, ofDemand_isLawful ?_,
    ofBool_isLawful ?_, ofBool_isLawful ?_, ofDemand_isLawful ?_, ofBool_isLawful ?_,
    ofBool_isLawful ?_, ofTexts_isLawful ?_⟩
  all_goals
    refine ⟨fun _ _ => rfl, fun a c => ?_⟩
    rw [settings]
    simp only [List.forall_mem_cons, List.not_mem_nil, false_implies, implies_true, and_true]
    -- What is read of the setting itself does not matter; all others do not look at its part.
    and_intros
    all_goals first | exact fun _ => rfl | exact fun h => absurd rfl h

/-- No two settings have the same name. -/
theorem settings_nodup : (settings.map Setting.name).Nodup := by decide

/-- A setting is found by its name. -/
theorem setting?_eq_some_iff {name : Text} {s : Setting} :
    setting? name = some s ↔ s ∈ settings ∧ s.name.toList = name := by
  constructor
  · intro h
    exact ⟨List.mem_of_find?_eq_some h, by simpa using List.find?_some h⟩
  · rintro ⟨hs, rfl⟩
    cases hfound : setting? s.name.toList with
    | none => simpa using List.find?_eq_none.mp hfound s hs
    | some t =>
      have hname : t.name = s.name := String.toList_inj.mp (by simpa using List.find?_some hfound)
      exact congrArg some
        (List.inj_on_of_nodup_map settings_nodup (List.mem_of_find?_eq_some hfound) hs hname)

namespace Setting

section Kinds

variable {name : String} {c d : Config}

theorem ofBool_get_eq_iff {get : Config → Bool} {put : Bool → Config → Config} :
    (ofBool name get put).get c = (ofBool name get put).get d ↔ get c = get d := by
  simp [ofBool]

theorem ofDemand_get_eq_iff {get : Config → Option Bool} {put : Option Bool → Config → Config} :
    (ofDemand name get put).get c = (ofDemand name get put).get d ↔ get c = get d := by
  cases hc : get c <;> cases hd : get d <;> simp [ofDemand, hc, hd]

theorem ofText_get_eq_iff {get : Config → Text} {put : Text → Config → Config} :
    (ofText name get put).get c = (ofText name get put).get d ↔ get c = get d := by
  simp [ofText]

theorem ofTexts_get_eq_iff {check : Text → Except LoadError Unit} {get : Config → List Text}
    {put : List Text → Config → Config} :
    (ofTexts name check get put).get c = (ofTexts name check get put).get d ↔ get c = get d := by
  have hinj : Function.Injective Value.text := fun _ _ h => by cases h; rfl
  simp [ofTexts, List.map_inj_right hinj]

theorem ofStyle_get_eq_iff {get : Config → Option QuoteStyle}
    {put : Option QuoteStyle → Config → Config} :
    (ofStyle name get put).get c = (ofStyle name get put).get d ↔ get c = get d := by
  rcases hc : get c with _ | (_ | _) <;> rcases hd : get d with _ | (_ | _) <;>
    simp [ofStyle, hc, hd, QuoteStyle.name]

/-- A list of texts can be put if every one of them passes the check. -/
theorem forM_eq_ok_iff {check : Text → Except LoadError Unit} {ts : List Text} :
    ts.forM check = .ok () ↔ ∀ t ∈ ts, check t = .ok () := by
  induction ts with
  | nil => simp [pure, Except.pure]
  | cons t ts ih =>
    have hcons : (t :: ts).forM check = check t >>= fun _ => ts.forM check := rfl
    rw [hcons, List.forall_mem_cons, ← ih]
    cases ht : check t <;> simp [bind, Except.bind]

/-- A setting's own value can be put and stands for itself. -/
def TakesBack (s : Setting) (c : Config) : Prop :=
  (∃ change, s.put (s.get c) = .ok change) ∧ s.meant (s.get c) = s.get c

theorem ofBool_takesBack {get : Config → Bool} {put : Bool → Config → Config} :
    (ofBool name get put).TakesBack c := ⟨⟨_, rfl⟩, rfl⟩

theorem ofDemand_takesBack {get : Config → Option Bool} {put : Option Bool → Config → Config} :
    (ofDemand name get put).TakesBack c := by
  cases h : get c <;> simp [TakesBack, ofDemand, h, meant]

theorem ofText_takesBack {get : Config → Text} {put : Text → Config → Config}
    (hname : name ≠ "unified_punctuation") : (ofText name get put).TakesBack c :=
  ⟨⟨_, rfl⟩, by simp [ofText, meant, hname]⟩

theorem ofTexts_takesBack {check : Text → Except LoadError Unit} {get : Config → List Text}
    {put : List Text → Config → Config} (h : ∀ t ∈ get c, check t = .ok ()) :
    (ofTexts name check get put).TakesBack c := by
  have hcheck : (get c).forM check = .ok () := forM_eq_ok_iff.mpr h
  refine ⟨⟨put (get c), ?_⟩, rfl⟩
  simp only [ofTexts, texts?_list_map, hcheck, Except.map]

theorem ofStyle_takesBack {get : Config → Option QuoteStyle}
    {put : Option QuoteStyle → Config → Config} : (ofStyle name get put).TakesBack c := by
  cases h : get c with
  | none => simp [TakesBack, ofStyle, h, meant]
  | some style =>
    refine ⟨⟨put (some style), ?_⟩, ?_⟩
    · simp only [ofStyle, h, styleOf?_name]
    · cases style <;> simp [ofStyle, h, meant, QuoteStyle.name]

end Kinds

end Setting

namespace Config

/-- Settings are told by the values of all settings. -/
theorem eq_of_get_eq {c d : Config} (h : ∀ s ∈ settings, s.get c = s.get d) : c = d := by
  simp only [settings, List.forall_mem_cons, ofBool_get_eq_iff, ofDemand_get_eq_iff,
    ofText_get_eq_iff, ofTexts_get_eq_iff, ofStyle_get_eq_iff] at h
  cases c; cases d
  simp_all only

/-- Each setting takes its own value back, if the patterns can be read. -/
theorem takesBack_of_mem_settings {c : Config}
    (hread : ∀ t ∈ c.ignores, ∃ p, Pattern.read t = .ok p) : ∀ s ∈ settings, s.TakesBack c := by
  have hpatterns : ∀ t ∈ c.ignores, patternFor "ignores" t = .ok () := by
    intro t ht
    obtain ⟨p, hp⟩ := hread t ht
    simp [patternFor, hp]
  rw [settings]
  simp only [List.forall_mem_cons, List.not_mem_nil, false_implies, implies_true, and_true]
  exact ⟨ofText_takesBack (by decide), ofText_takesBack (by decide), ofStyle_takesBack,
    ofTexts_takesBack fun _ _ => rfl,
    ofBool_takesBack, ofBool_takesBack, ofDemand_takesBack,
    ofTexts_takesBack fun _ _ => rfl, ofBool_takesBack, ofDemand_takesBack, ofBool_takesBack,
    ofDemand_takesBack, ofBool_takesBack, ofBool_takesBack, ofDemand_takesBack, ofBool_takesBack,
    ofBool_takesBack, ofDemand_takesBack, ofBool_takesBack, ofBool_takesBack,
    ofTexts_takesBack hpatterns⟩

end Config

end CjkProse
