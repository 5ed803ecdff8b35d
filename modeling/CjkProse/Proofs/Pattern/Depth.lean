import Mathlib
import CjkProse.Pattern.Read

/-!
# The depth of patterns

Groups nest no more deeply than there are parentheses to open them.  So a text with few of them is
not refused for its depth, whatever else may be wrong with it.

Reading makes room for a group only where it has passed such a parenthesis.  What every step keeps
is that the room is as it was and that no more parentheses are to come than before; once one of them
has been passed there is more room than that.

## Main definitions

* `Pattern.opens` — the parentheses among some units that may open a group.
* `Pattern.Allowance` — room for groups and a bound on these parentheses.
* `Pattern.Keeps` — the readers that keep within an allowance.
* `Pattern.IsShallow` — the texts with few parentheses.

## Main results

* `Pattern.keeps_readAlternatives`, `Pattern.keeps_readParts` — reading keeps within an allowance.
* `Pattern.read_ne_tooDeep` — **a text with few parentheses is not refused for its depth**.
-/

namespace CjkProse.Pattern

open Std.Do

set_option mvcgen.warning false

/-- The number of units that may open a group. -/
def opens (ls : List Lexeme) : Nat := ls.count (.plain '(')

theorem opens_tail_le (ls : List Lexeme) : opens ls.tail ≤ opens ls :=
  (List.tail_sublist ls).count_le _

/-- Room for groups, of which no more may be to come. -/
structure Allowance where
  /-- How many more groups may be opened within one another. -/
  room : Nat
  /-- How many units may be to come that open a group. -/
  most : Nat
  /-- There is room for all of them. -/
  most_le : most ≤ room

/-- Whether a state keeps within an allowance. -/
def State.IsWithin (a : Allowance) (s : State) : Prop := s.room = a.room ∧ opens s.rest ≤ a.most

variable {α : Type} {a : Allowance}

/-- A reader keeps within an allowance: it leads from a state within it to another, unless it
refuses the text, and then not for its depth. -/
abbrev Keeps (a : Allowance) (x : Reader α) : Prop :=
  ⦃fun s => ⌜s.IsWithin a⌝⦄ x ⦃post⟨fun _ s => ⌜s.IsWithin a⌝, fun f => ⌜f ≠ .tooDeep⌝⟩⦄

/-! ### Units

Each reader has its specification here, from those of the readers that it is made of. -/

theorem throw_spec (f : Fault) : ⦃fun _ => ⌜f ≠ .tooDeep⌝⦄ (throw f : Reader α)
    ⦃post⟨fun _ s => ⌜s.IsWithin a⌝, fun f => ⌜f ≠ .tooDeep⌝⟩⦄ := fun _ h => h

@[spec]
theorem keeps_refuse : Keeps a (refuse : Reader α) := by
  unfold refuse
  mvcgen [-Spec.throw_MonadExcept, throw_spec]

@[spec]
theorem keeps_peek : Keeps a peek := by
  mvcgen [peek]

@[spec]
theorem keeps_skip : Keeps a skip := by
  mvcgen [skip]
  next s h _ => exact ⟨h.1, (opens_tail_le _).trans h.2⟩

@[spec]
theorem keeps_take : Keeps a take := by
  mvcgen [take]
  next s h l rest hrest _ =>
    refine ⟨h.1, ?_⟩
    calc opens rest ≤ opens s.rest := by rw [hrest]; exact opens_tail_le (l :: rest)
      _ ≤ a.most := h.2

@[spec]
theorem keeps_takePlain : Keeps a takePlain := by
  mvcgen [takePlain]

@[spec]
theorem keeps_accept (c : Char) : Keeps a (accept c) := by
  mvcgen [accept]

@[spec]
theorem keeps_expect (c : Char) : Keeps a (expect c) := by
  mvcgen [expect]

@[spec]
theorem keeps_takeWhile (p : Char → Bool) (n : Nat) : Keeps a (takeWhile p n) := by
  induction n with
  | zero => mvcgen [takeWhile]
  | succ n ih => mvcgen [takeWhile, ih]

@[spec]
theorem keeps_takeUntil (stop : Char) : Keeps a (takeUntil stop) := by
  mvcgen [takeUntil]

@[spec]
theorem keeps_remaining : Keeps a remaining := by
  mvcgen [remaining]

/-! ### Numbers, groups and flags -/

@[spec]
theorem keeps_readCount (digits : Text) : Keeps a (readCount digits) := by
  mvcgen [readCount, -Spec.throw_MonadExcept, throw_spec]

@[spec]
theorem keeps_groupCount : Keeps a groupCount := by
  mvcgen [groupCount]

@[spec]
theorem keeps_closedGroup (n : Nat) : Keeps a (closedGroup? n) := by
  mvcgen [closedGroup?]

@[spec]
theorem keeps_checkLimit (n : Nat) : Keeps a (checkLimit n) := by
  mvcgen [checkLimit]

@[spec]
theorem keeps_reference (flags : Flags) (n : Nat) : Keeps a (reference flags n) := by
  mvcgen [reference]

@[spec]
theorem keeps_openGroup (name : Option Text) : Keeps a (openGroup name) := by
  mvcgen [openGroup]

@[spec]
theorem keeps_widthOf (p : Pattern) : Keeps a (widthOf p) := by
  mvcgen [widthOf]

@[spec]
theorem keeps_closeGroup (n : Nat) (p : Pattern) : Keeps a (closeGroup n p) := by
  mvcgen [closeGroup]

@[spec]
theorem keeps_globalFlags : Keeps a globalFlags := by
  mvcgen [globalFlags]

@[spec]
theorem keeps_readSetFlags (n : Nat) (letters : List Char) (c : Char) :
    Keeps a (readSetFlags n letters c) := by
  induction n generalizing letters c with
  | zero => mvcgen [readSetFlags]
  | succ n ih => mvcgen [readSetFlags, ih]

@[spec]
theorem keeps_readClearedFlags (n : Nat) (letters : List Char) (c : Char) :
    Keeps a (readClearedFlags n letters c) := by
  induction n generalizing letters c with
  | zero => mvcgen [readClearedFlags]
  | succ n ih => mvcgen [readClearedFlags, ih]

@[spec]
theorem keeps_readFlags (c : Char) : Keeps a (readFlags c) := by
  mvcgen [readFlags]

/-! ### Escapes and sets -/

@[spec]
theorem keeps_readHex (count : Nat) : Keeps a (readHex count) := by
  mvcgen [readHex]

@[spec]
theorem keeps_readNamed : Keeps a readNamed := by
  mvcgen [readNamed]

@[spec]
theorem keeps_readCodeEscape (c : Char) : Keeps a (readCodeEscape c) := by
  mvcgen [readCodeEscape]

@[spec]
theorem keeps_readSetEscape (c : Char) : Keeps a (readSetEscape c) := by
  mvcgen [readSetEscape]

@[spec]
theorem keeps_readNumberEscape (flags : Flags) (c : Char) :
    Keeps a (readNumberEscape flags c) := by
  mvcgen [readNumberEscape]

@[spec]
theorem keeps_readEscape (flags : Flags) (c : Char) : Keeps a (readEscape flags c) := by
  mvcgen [readEscape]

@[spec]
theorem keeps_readSetItem (l : Lexeme) : Keeps a (readSetItem l) := by
  cases l <;> mvcgen [readSetItem]

@[spec]
theorem keeps_rangeOf (i j : SetItem) : Keeps a (rangeOf i j) := by
  mvcgen [rangeOf]

@[spec]
theorem keeps_readSetItems (n : Nat) (items : List SetItem) : Keeps a (readSetItems n items) := by
  induction n generalizing items with
  | zero => mvcgen [readSetItems]
  | succ n ih => mvcgen [readSetItems, ih]

@[spec]
theorem keeps_readSet (flags : Flags) : Keeps a (readSet flags) := by
  mvcgen [readSet]

/-! ### Repetition -/

-- Where no braces are read, the units to come are again those at the start.
@[spec]
theorem keeps_readBraces : Keeps a readBraces := by
  mvcgen [readBraces]
  all_goals grind [State.IsWithin]

@[spec]
theorem keeps_readCounts (c : Char) : Keeps a (readCounts c) := by
  mvcgen [readCounts]

@[spec]
theorem keeps_readGreed : Keeps a readGreed := by
  mvcgen [readGreed]

@[spec]
theorem keeps_repeatLast (least : Nat) (most : Option Nat) (parts : Parts) :
    Keeps a (repeatLast least most parts) := by
  mvcgen [repeatLast]

/-! ### How a group begins -/

@[spec]
theorem keeps_skipComment (stop : Char) (atEnd : Bool) (n : Nat) :
    Keeps a (skipComment stop atEnd n) := by
  induction n with
  | zero => mvcgen [skipComment]
  | succ n ih => mvcgen [skipComment, ih]

@[spec]
theorem keeps_readName (stop : Char) : Keeps a (readName stop) := by
  mvcgen [readName]

@[spec]
theorem keeps_lookUp (name : Text) : Keeps a (lookUp name) := by
  mvcgen [lookUp]

@[spec]
theorem keeps_readCondition : Keeps a readCondition := by
  mvcgen [readCondition]

@[spec]
theorem keeps_readHead (flags : Flags) : Keeps a (readHead flags) := by
  mvcgen [readHead]

@[spec]
theorem keeps_lookBack (negated : Bool) (p : Pattern) : Keeps a (lookBack negated p) := by
  mvcgen [lookBack]

@[spec]
theorem keeps_readSingle (flags : Flags) (c : Char) : Keeps a (readSingle flags c) := by
  mvcgen [readSingle]

/-! ### Groups within groups -/

/-- What is allowed within a group. -/
def Allowance.inside (a : Allowance) (ha : a.most < a.room) : Allowance :=
  ⟨a.room - 1, a.most, Nat.le_sub_one_of_lt ha⟩

theorem keeps_within {x : Reader α} (ha : a.most < a.room) (h : Keeps (a.inside ha) x) :
    Keeps a (within x) := by
  mvcgen [within, h, -Spec.throw_MonadExcept, throw_spec]
  all_goals grind [State.IsWithin, Allowance.inside]

/-- What is allowed after a parenthesis that may open a group. -/
def Allowance.opened (a : Allowance) : Allowance :=
  ⟨a.room, a.most - 1, (Nat.sub_le _ _).trans a.most_le⟩

theorem State.IsWithin.of_opened {s : State} (h : s.IsWithin a.opened) : s.IsWithin a :=
  ⟨h.1, h.2.trans (Nat.sub_le _ _)⟩

theorem skip_spec_of_open : ⦃fun s => ⌜s.IsWithin a ∧ s.rest.head? = some (.plain '(')⌝⦄ skip
    ⦃post⟨fun _ s => ⌜0 < a.most ∧ s.IsWithin a.opened⌝, fun f => ⌜f ≠ .tooDeep⌝⟩⦄ := by
  rintro s ⟨⟨hroom, hopens⟩, hhead⟩
  obtain ⟨rest, hrest⟩ := List.head?_eq_some_iff.mp hhead
  have hcount : opens s.rest = opens rest + 1 := by rw [hrest]; exact List.count_cons_self
  refine ⟨by omega, hroom, ?_⟩
  show opens s.rest.tail ≤ a.most - 1
  rw [hrest, List.tail_cons]
  omega

/-- After a parenthesis that may open a group there is room for the group. -/
theorem triple_of_opened {x : Reader α} (h : ∀ a : Allowance, a.most < a.room → Keeps a x) :
    ⦃fun s => ⌜0 < a.most ∧ s.IsWithin a.opened⌝⦄ x
    ⦃post⟨fun _ s => ⌜s.IsWithin a⌝, fun f => ⌜f ≠ .tooDeep⌝⟩⦄ := by
  by_cases hpos : 0 < a.most
  · have hlt : a.opened.most < a.opened.room := (Nat.sub_lt hpos one_pos).trans_le a.most_le
    have hx := h a.opened hlt
    mvcgen [hx]
    · next s hs => exact hs.2
    · exact State.IsWithin.of_opened
  · exact fun s hs => absurd hs.1 hpos

/-- The unit that has been looked at is the next one. -/
theorem keeps_peek_bind {k : Option Lexeme → Reader α}
    (h : ∀ l, ⦃fun s => ⌜s.IsWithin a ∧ s.rest.head? = l⌝⦄ k l
      ⦃post⟨fun _ s => ⌜s.IsWithin a⌝, fun f => ⌜f ≠ .tooDeep⌝⟩⦄) :
    Keeps a (peek >>= k) := fun s hs => h s.rest.head? s ⟨hs, rfl⟩

mutual

theorem keeps_readAlternatives (n : Nat) (a : Allowance) (flags : Flags) (top first : Bool) :
    Keeps a (readAlternatives n flags top first) := by
  cases n with
  | zero =>
    rw [readAlternatives]
    exact keeps_refuse
  | succ n =>
    rw [readAlternatives]
    have halternatives := keeps_readAlternatives n a
    have hparts := keeps_readParts n a
    mvcgen [halternatives, hparts]

theorem keeps_readParts (n : Nat) (a : Allowance) (flags : Flags) (first : Bool) (parts : Parts) :
    Keeps a (readParts n flags first parts) := by
  cases n with
  | zero =>
    rw [readParts]
    exact keeps_refuse
  | succ n =>
    rw [readParts]
    have hparts := keeps_readParts n a
    refine keeps_peek_bind fun l => ?_
    match l with
    | none =>
      mvcgen
      next s h => exact h.1
    | some .dangling =>
      mvcgen
      next s h => exact h.1
    | some (.escaped c) =>
      mvcgen [hparts]
      next s h => exact h.1
    | some (.plain c) =>
      dsimp only
      split
      · mvcgen
        next s h => exact h.1
      · by_cases hc : c = '('
        · subst hc
          refine Triple.bind _ _ skip_spec_of_open fun _ => triple_of_opened ?_
          clear hparts a
          intro a ha
          have hparts := keeps_readParts n a
          have hinner (flags) := keeps_within ha (keeps_readParts n _ flags false [])
          have halternatives (flags) :=
            keeps_within ha (keeps_readAlternatives n _ flags false false)
          mvcgen [hparts, hinner, halternatives]
        · have hopen : (c == '(') = false := beq_eq_false_iff_ne.mpr hc
          simp only [hopen, Bool.false_eq_true, if_false]
          mvcgen [hparts]
          all_goals next s h => exact h.1

end

/-! ### Whole patterns -/

/-- A reader that keeps within an allowance does not refuse a text for its depth. -/
theorem Keeps.run_ne_tooDeep {x : Reader α} {s : State} (h : Keeps a x)
    (hs : s.IsWithin a) : x.run s ≠ .error .tooDeep := by
  refine Except.of_wp_eq rfl (· ≠ .error Fault.tooDeep) ?_
  rw [WP.StateT_run]
  mvcgen [h]
  · exact fun _ => nofun
  · exact fun hf => hf ∘ Except.error.inj

theorem checkWhole_ne_tooDeep (s : State) : checkWhole s ≠ .error .tooDeep := by
  unfold checkWhole
  repeat' split
  all_goals exact nofun

theorem bind_ne_error {β : Type} {f : Fault} {x : Except Fault α} {k : α → Except Fault β}
    (hx : x ≠ .error f) (hk : ∀ a, k a ≠ .error f) : x >>= k ≠ .error f := by
  cases x with
  | error g => exact fun h => hx (congrArg Except.error (Except.error.inj h))
  | ok a => exact hk a

/-- Whether a text has so few parentheses that its groups cannot nest too deeply. -/
def IsShallow (text : Text) : Prop := opens (lexemes text) ≤ Text.maxDepth

/-- **A text with few parentheses is not refused for its depth.** -/
theorem read_ne_tooDeep {text : Text} (h : IsShallow text) : read text ≠ .error .tooDeep :=
  have hkeeps := keeps_readAlternatives (2 * (lexemes text).length + 2) ⟨Text.maxDepth, _, h⟩
    (Flags.ofLetters []) true true
  bind_ne_error (hkeeps.run_ne_tooDeep ⟨rfl, le_rfl⟩) fun out =>
    bind_ne_error (checkWhole_ne_tooDeep out.2) fun _ => nofun

end CjkProse.Pattern
