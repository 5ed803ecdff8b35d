import CjkProse.Proofs.Rule.Brackets
import CjkProse.Proofs.Rule.Demands
import CjkProse.Proofs.Rule.Glyphs

/-!
# The width of brackets

A bracket is brought to the width that the settings ask for, unless it is Western and stands
directly between two half-width runs or next to another Western mark.  Then it is *spared*.  Each
bracket of a pair is asked alone, when the pass comes to it, and what stands around one says nothing
about what stands around the other.  So a pair keeps one width just when both of its brackets are
spared or neither is, or when there is nothing to change.

## Main definitions

* `isSpared`, `sparedAt` — whether a mark keeps its width, in a list and when a pass comes to it.
* `Punct.brackets` — the brackets that belong together.
* `Config.PairsBrackets` — settings that ask for both brackets of a pair or for neither.

## Main results

* `Rules.markWidth_of_char` — the rule for the width of marks.
* `exists_char_polish` — the width of a bracket in the end.
* `mem_brackets_polish` — **when a pair keeps one width.**
* `not_mem_brackets_polish` — a pair need not keep one width.
-/

namespace CjkProse

open Neighbours

/-! ### Marks that keep their width -/

/-- Whether a mark keeps its width: a Western one directly between two half-width runs, and one next
to another Western mark. -/
def isSpared (nodes : List Node) (i : Nat) : Bool :=
  isTightHalfwidthPunctuation nodes i || isSuccessivePunctuation nodes i

/-- A mark that pauses or stops, or a bracket, is brought to its width unless it is spared. -/
theorem Rules.markWidth_of_char {config : Config} {nodes : List Node} {i : Nat}
    {v : Revisable Char} {a : Revisable Space} (here : nodes[i]? = some (.char v a))
    (sort : (isPause v.value || isBracket v.value) = true) :
    Rules.markWidth config nodes i =
      nodes.set i (.char (if isSpared nodes i then v else config.resizeMark v) a) := by
  have hpunct : isPunctuation v.value = true := by
    unfold isPause isBracket at sort
    unfold isPunctuation isChinesePunctuation isWesternPunctuation
    cases hk : CharKind.of v.value <;> rw [hk] at sort <;>
      first | rfl | exact absurd sort (by decide)
  have hside : (isSingle v.value || isBracket v.value) = true := by
    rcases (Bool.or_eq_true _ _).mp sort with hpause | hbracket
    · rw [isSingle, hpause, Bool.true_or, Bool.true_or]
    · rw [hbracket, Bool.or_true]
  unfold Rules.markWidth isSpared
  rw [here]
  dsimp only
  rw [hpunct, hside]
  cases isTightHalfwidthPunctuation nodes i with
  | true => simp [set_eq_self here]
  | false =>
    cases isSuccessivePunctuation nodes i with
    | true => simp [set_eq_self here]
    | false => simp

theorem value_resizeMark_eq (config : Config) (v : Revisable Char) :
    (config.resizeMark v).value = config.resize v.value := by
  unfold Config.resizeMark Config.resize
  dsimp only
  split
  · rw [Revisable.value_revise]
    split
    · rw [Revisable.value_revise]
    · rw [Revisable.value_revise]
  · split
    · rw [Revisable.value_revise]
    · rfl

/-! ### Brackets that belong together -/

namespace Punct

/-- The Western brackets, each opening one with the one that closes it. -/
def westernBrackets : List (Char × Char) := westernLeftBracket.zip westernRightBracket

/-- The brackets of either set, each opening one with the closing one of its sort and width. -/
def brackets : List (Char × Char) :=
  chineseLeftBracket.zip chineseRightBracket ++ westernBrackets

theorem isBracket_of_mem_brackets {p : Char × Char} (h : p ∈ brackets) :
    isBracket p.1 = true ∧ isBracket p.2 = true := by
  have hall : ∀ p ∈ brackets, isBracket p.1 = true ∧ isBracket p.2 = true := by decide
  exact hall p h

/-- Each bracket belongs to one other. -/
theorem fst_eq_iff_snd_eq {p q : Char × Char} (hp : p ∈ brackets) (hq : q ∈ brackets) :
    p.1 = q.1 ↔ p.2 = q.2 := by
  have hall : ∀ p ∈ brackets, ∀ q ∈ brackets, p.1 = q.1 ↔ p.2 = q.2 := by decide
  exact hall p hp q hq

/-- The brackets that belong together have a form of each width, or none does. -/
theorem forms_of_mem_brackets {p : Char × Char} (h : p ∈ brackets) :
    (∃ w ∈ westernBrackets, p = w ∨ p = (fullwidth w.1, fullwidth w.2)) ∨
      halfwidth p.1 = p.1 ∧ fullwidth p.1 = p.1 ∧ halfwidth p.2 = p.2 ∧ fullwidth p.2 = p.2 := by
  have hall : ∀ p ∈ brackets,
      (∃ w ∈ westernBrackets, p = w ∨ p = (fullwidth w.1, fullwidth w.2)) ∨
        halfwidth p.1 = p.1 ∧ fullwidth p.1 = p.1 ∧ halfwidth p.2 = p.2 ∧ fullwidth p.2 = p.2 := by
    decide
  exact hall p h

theorem mem_brackets_of_mem_westernBrackets {w : Char × Char} (h : w ∈ westernBrackets) :
    w ∈ brackets ∧ (fullwidth w.1, fullwidth w.2) ∈ brackets := by
  have hall : ∀ w ∈ westernBrackets, w ∈ brackets ∧ (fullwidth w.1, fullwidth w.2) ∈ brackets := by
    decide
  exact hall w h

/-- The forms of a Western bracket are told from either of them. -/
theorem forms_of_mem_westernBrackets {w : Char × Char} (h : w ∈ westernBrackets) {c : Char}
    (hc : c = w.1 ∨ c = w.2) :
    halfwidth c = c ∧ halfwidth (fullwidth c) = c ∧ fullwidth (fullwidth c) = fullwidth c := by
  have hw : w = ('(', ')') ∨ w = ('[', ']') ∨ w = ('{', '}') := by
    simpa [westernBrackets, westernLeftBracket, westernRightBracket] using h
  rcases hw with rfl | rfl | rfl <;> rcases hc with rfl | rfl <;> exact ⟨rfl, rfl, rfl⟩

end Punct

/-- The settings ask for both brackets of a pair or for neither, in half width and in full width. -/
structure Config.PairsBrackets (config : Config) : Prop where
  /-- In half width. -/
  half : ∀ w ∈ Punct.westernBrackets,
    config.halfwidthPunctuation.contains w.1 = config.halfwidthPunctuation.contains w.2
  /-- In full width. -/
  full : ∀ p ∈ Punct.brackets,
    config.fullwidthPunctuation.contains (fullwidth p.1) =
      config.fullwidthPunctuation.contains (fullwidth p.2)

section Pairs

variable {config : Config} {p : Char × Char}

/-- Both brackets of a pair in their width belong together again. -/
theorem exists_resize_eq (pairs : config.PairsBrackets) (h : p ∈ Punct.brackets) :
    ∃ q ∈ Punct.brackets, config.resize p.1 = q.1 ∧ config.resize p.2 = q.2 := by
  obtain ⟨w, hw, hform⟩ | ⟨hhalf, hfull, hhalf', hfull'⟩ := Punct.forms_of_mem_brackets h
  · -- both take the same one of their two forms
    have hresize : ∀ c d, (c = w.1 ∨ c = w.2) → (d = c ∨ d = fullwidth c) → config.resize d =
        if config.fullwidthPunctuation.contains (fullwidth c) then fullwidth c
        else if config.halfwidthPunctuation.contains c then c else d := by
      intro c d hc hd
      obtain ⟨hnarrow, hnarrow', hwide⟩ := Punct.forms_of_mem_westernBrackets hw hc
      rcases hd with rfl | rfl
      · exact resize_of_forms hnarrow rfl rfl
      · exact resize_of_forms hnarrow' hwide rfl
    have hleft := hresize w.1 p.1 (.inl rfl) (by rcases hform with rfl | rfl <;> simp)
    have hright := hresize w.2 p.2 (.inr rfl) (by rcases hform with rfl | rfl <;> simp)
    obtain ⟨hnarrow, hwide⟩ := Punct.mem_brackets_of_mem_westernBrackets hw
    rw [← pairs.full w hnarrow, ← pairs.half w hw] at hright
    rw [hleft, hright]
    by_cases hasked : config.fullwidthPunctuation.contains (fullwidth w.1) = true
    · exact ⟨_, hwide, by rw [if_pos hasked], by rw [if_pos hasked]⟩
    by_cases hasked' : config.halfwidthPunctuation.contains w.1 = true
    · refine ⟨w, hnarrow, ?_, ?_⟩
      · rw [if_neg hasked, if_pos hasked']
      · rw [if_neg hasked, if_pos hasked']
    · exact ⟨p, h, by rw [if_neg hasked, if_neg hasked'], by rw [if_neg hasked, if_neg hasked']⟩
  · exact ⟨p, h, by simp [Config.resize, hhalf, hfull], by simp [Config.resize, hhalf', hfull']⟩

/-- What is left of a pair of which each bracket takes its width or is spared. -/
theorem mem_brackets_resize (pairs : config.PairsBrackets) (h : p ∈ Punct.brackets)
    (s t : Bool) :
    (if s then p.1 else config.resize p.1, if t then p.2 else config.resize p.2) ∈ Punct.brackets ↔
      s = t ∨ config.resize p.1 = p.1 := by
  obtain ⟨q, hq, hleft, hright⟩ := exists_resize_eq pairs h
  have hiff := Punct.fst_eq_iff_snd_eq h hq
  rw [hleft, hright]
  cases s with
  | true =>
    cases t with
    | true => simpa using h
    | false =>
      -- only the right bracket has changed
      constructor
      · intro hmem
        exact .inr ((Punct.fst_eq_iff_snd_eq hq hmem).mpr rfl)
      · intro hsame
        have hq1 : q.1 = p.1 := by simpa using hsame
        have hpq : (p.1, q.2) = p := by rw [← hiff.mp hq1.symm]
        simpa [hpq] using h
  | false =>
    cases t with
    | true =>
      -- only the left one has
      constructor
      · intro hmem
        exact .inr ((Punct.fst_eq_iff_snd_eq hmem h).mpr rfl)
      · intro hsame
        have hq1 : q.1 = p.1 := by simpa using hsame
        have hqp : (q.1, p.2) = p := by rw [hq1]
        simpa [hqp] using h
    | false => simpa using hq

end Pairs

/-! ### A pass -/

/-- Whether the mark at an index keeps its width when the rules run over a list, after they have run
inside of its quotations. -/
def sparedAt (config : Config) (nodes : List Node) (i : Nat) : Bool :=
  isSpared (Rule.stateAt config (sweepInside Rule.all config nodes) i) i

section Pass

variable {config : Config} {nodes : List Node} {i : Nat} {v : Revisable Char} {a : Revisable Space}

/-- What all rules at a bracket make of it. -/
theorem map_body_applyAllAt_of_isBracket (class_ : ∀ n ∈ nodes, n.KeepsClass)
    (here : nodes[i]? = some (.char v a)) (hv : isBracket v.value = true) :
    (Rule.applyAllAt Rule.all config nodes i)[i]?.map Node.body =
      some (.char (if isSpared nodes i then v else config.resizeMark v) default) := by
  -- a bracket is no mark that pauses or stops, so three rules are left
  have hpause : isPause v.value = false := by
    unfold isBracket at hv
    unfold isPause
    cases hk : CharKind.of v.value <;> simp_all [CharKind.isBracket, CharKind.isPause]
  have hlt := (List.getElem?_eq_some_iff.mp here).1
  rw [applyAllAt_of_char class_ here hpause]
  rw [sameBodies_wrapperSpace.map_getElem?, sameBodies_bracketSpace.map_getElem?]
  rw [Rules.markWidth_of_char here (by rw [hv, Bool.or_true]), List.getElem?_set_self hlt]
  rfl

/-- A bracket in the end. -/
theorem exists_char_applyAll (class_ : ∀ n ∈ nodes, n.KeepsClass)
    (here : nodes[i]? = some (.char v a)) (hv : isBracket v.value = true) :
    ∃ b, (Rule.applyAll Rule.all config nodes)[i]? = some (.char
      (if isSpared (Rule.stateAt config nodes i) i then v else config.resizeMark v) b) := by
  have hlt := (List.getElem?_eq_some_iff.mp here).1
  have hseen : isWrapperAt nodes i = false := isWrapperAt_eq_false here rfl
  -- the bracket is as it has been at first when the pass comes to it
  have hstate : (Rule.stateAt config nodes i)[i]? = some (.char v a) := by
    rw [Rule.getElem?_stateAt (Nat.le_refl i) hseen, here]
  have hlast := @Rule.map_body_stateAt config nodes (i + 1) nodes.length i (Nat.lt_succ_self i) hlt
  rw [Rule.stateAt_length, Rule.stateAt_succ,
    map_body_applyAllAt_of_isBracket (Rule.lasts_stateAt class_ i).keepsClass hstate hv] at hlast
  exact exists_of_map_body (n := .char _ default) hlast

theorem keepsClass_sweepInside (class_ : ∀ n ∈ nodes, n.KeepsClass) :
    ∀ n ∈ sweepInside Rule.all config nodes, n.KeepsClass := by
  intro n hn
  rw [sweepInside_eq_map] at hn
  obtain ⟨m, hm, rfl⟩ := List.mem_map.mp hn
  cases m with
  | char w b =>
    rw [Node.sweep]
    exact class_ _ hm
  | half w b => rw [Node.sweep]; trivial
  | full w b => rw [Node.sweep]; trivial
  | event e s b => rw [Node.sweep]; trivial
  | group o inner ns c b => rw [Node.sweep]; trivial

/-- A bracket takes its width in a pass, unless it is spared when the pass comes to it. -/
theorem exists_char_polish (class_ : ∀ n ∈ nodes, n.KeepsClass)
    (here : nodes[i]? = some (.char v a)) (hv : isBracket v.value = true) :
    ∃ w b, (polish config nodes)[i]? = some (.char w b) ∧
      w.value = if sparedAt config nodes i then v.value else config.resize v.value := by
  have hsweep : (sweepInside Rule.all config nodes)[i]? = some (.char v a) := by
    rw [sweepInside_eq_map, List.getElem?_map, here, Option.map_some, Node.sweep]
  obtain ⟨b, hb⟩ := exists_char_applyAll (keepsClass_sweepInside class_) hsweep hv
  refine ⟨_, b, hb, ?_⟩
  rw [apply_ite Revisable.value, value_resizeMark_eq]
  rfl

end Pass

/-- **The width of a pair of brackets.**  The settings ask for both brackets of a pair or for
neither.  Then two brackets that belong together in a list do so again when the rules have run over
it, just when both of them have been spared or neither has, or when they have that width already. -/
theorem mem_brackets_polish (config : Config) (pairs : config.PairsBrackets) {nodes : List Node}
    (class_ : ∀ n ∈ nodes, n.KeepsClass) {i j : Nat} {v v' : Revisable Char}
    {a a' : Revisable Space} (left : nodes[i]? = some (.char v a))
    (right : nodes[j]? = some (.char v' a')) (pair : (v.value, v'.value) ∈ Punct.brackets) :
    ∃ w w' b b', (polish config nodes)[i]? = some (.char w b) ∧
      (polish config nodes)[j]? = some (.char w' b') ∧
        ((w.value, w'.value) ∈ Punct.brackets ↔
          sparedAt config nodes i = sparedAt config nodes j ∨
            config.resize v.value = v.value) := by
  obtain ⟨hbracket, hbracket'⟩ := Punct.isBracket_of_mem_brackets pair
  obtain ⟨w, b, hw, hvalue⟩ := @exists_char_polish config nodes i v a class_ left hbracket
  obtain ⟨w', b', hw', hvalue'⟩ := @exists_char_polish config nodes j v' a' class_ right hbracket'
  refine ⟨w, w', b, b', hw, hw', ?_⟩
  rw [hvalue, hvalue']
  exact mem_brackets_resize pairs pair _ _

/-- Settings that ask for wide round brackets. -/
def Config.wideBrackets : Config := { Config.empty with fullwidthPunctuation := ['（', '）'] }

theorem Config.pairsBrackets_wideBrackets : Config.wideBrackets.PairsBrackets where
  half := by decide
  full := by decide

/-- The conclusion of `mem_brackets_polish` where a gap keeps the right bracket apart from the run
before it: neither bracket is spared, and both become wide. -/
theorem mem_brackets_polish_apart :
    ∃ w w' b b', (polish .wideBrackets (bracketed [' ']))[1]? = some (.char w b) ∧
      (polish .wideBrackets (bracketed [' ']))[3]? = some (.char w' b') ∧
        (w.value, w'.value) ∈ Punct.brackets := by
  have hclass : ∀ n ∈ bracketed [' '], n.KeepsClass :=
    fun n hn => (isUnrevised_bracketed [' '] n hn).keepsClass
  obtain ⟨w, w', b, b', hw, hw', hiff⟩ := mem_brackets_polish .wideBrackets
    Config.pairsBrackets_wideBrackets hclass (i := 1) (j := 3) rfl rfl (by decide)
  exact ⟨w, w', b, b', hw, hw', hiff.mpr (.inl (by decide +kernel))⟩

/-- Without the gap the right bracket stands directly between two half-width runs and is spared.  So
the left one becomes wide and the right one does not. -/
theorem not_mem_brackets_polish :
    ¬ ∀ (config : Config) (nodes : List Node) (i j : Nat) (v v' : Revisable Char)
      (a a' : Revisable Space), config.PairsBrackets → (∀ n ∈ nodes, n.IsUnrevised) →
      nodes[i]? = some (.char v a) → matchingRight? nodes i = some j →
      nodes[j]? = some (.char v' a') → (v.original, v'.original) ∈ Punct.brackets →
        ∃ w w' b b', (polish config nodes)[i]? = some (.char w b) ∧
          (polish config nodes)[j]? = some (.char w' b') ∧
            (w.value, w'.value) ∈ Punct.brackets := by
  intro h
  obtain ⟨w, w', b, b', hw, hw', hpair⟩ := h .wideBrackets (bracketed []) 1 3 _ _ _ _
    Config.pairsBrackets_wideBrackets (isUnrevised_bracketed []) rfl (by decide) rfl (by decide)
  have hleft : (polish .wideBrackets (bracketed []))[1]?.any (Node.isCharAnd (· == '（')) := by
    decide +kernel
  have hright : (polish .wideBrackets (bracketed []))[3]?.any (Node.isCharAnd (· == ')')) := by
    decide +kernel
  rw [hw] at hleft
  rw [hw'] at hright
  have hw1 : w.value = '（' := by simpa [Node.isCharAnd] using hleft
  have hw2 : w'.value = ')' := by simpa [Node.isCharAnd] using hright
  rw [hw1, hw2] at hpair
  exact absurd hpair (by decide)

end CjkProse
