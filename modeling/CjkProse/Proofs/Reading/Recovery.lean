import CjkProse.Proofs.Reading.Blocks
import CjkProse.Proofs.Reading.Leaves

/-!
# Recovery from errors

A stream may as well be read in one pass, without cutting it into blocks first.  The reader then has
one place in the whole stream, and an error leaves it wherever it has come to: at the mark at fault,
however deep in quotations, or at the end of the block, which is then still to come.  It recovers by
going on to the first end of a block and past it.

Within a block no reading ever passes its end, so this is the end of the block that the error is in,
and reading in one pass gives what reading block by block gives.

## Main definitions

* `Attempt` — what comes of reading: nodes or an error, and the place of the reader in both cases.
* `Node.tryFuel`, `Node.tryAllFuel` — reading nodes from a stream of blocks.
* `skipBlock`, `readStream` — recovery, and the paragraphs of a stream read in one pass.
* `outerStarts` — the stream from each start of a block that is outside of all blocks.

## Main results

* `Node.agrees_tryAllFuel` — within a block, reading does not depend on what follows the block, and
  stops before its end.
* `readStream_eq` — **reading in one pass is reading block by block.**
* `parseParagraphs_append` — **no paragraph depends on what comes before its block.**
-/

namespace CjkProse

/-! ### Reading in one pass -/

/-- What has been read, or why it could not be, and the place at which the reader has stopped. -/
abbrev Attempt (α : Type) := Except ParseError α × Reader

namespace Node

/-- A quotation, given what has been read inside of it; the mark that closes it stands next. -/
def closeGroup (opener : Revisable Char) (inner : Revisable Space) :
    Attempt (List Node) → Attempt Node
  | (.error e, r) => (.error e, r)
  | (.ok nodes, r) =>
    match r.rest with
    | .char d t :: rest =>
      let (after, r) := Reader.takeSpace t.stop ⟨some (.char d t), rest⟩
      (.ok (.group opener inner nodes { original := d, span := t } after), r)
    | _ => (.error (.unspecified none), r)

mutual

/-- Reads one node.  The first argument bounds the number of calls. -/
def tryFuel : Nat → Reader → Attempt Node
  | 0, r => (.error (.unspecified none), r)
  | fuel + 1, r =>
    match r.rest with
    | [] => (.error (.unexpectedEnd none), r)
    | .event e s :: rest =>
      if e.isBlockEnd then (.error (.unexpectedEnd (some s)), r)
      else
        let (after, r) := Reader.takeSpace s.stop ⟨some (.event e s), rest⟩
        (.ok (.event e s after), r)
    | .char c s :: rest =>
      if (CharKind.of c).isLetter then
        let (node, r) := readRun (CharKind.of c) s.start r
        (.ok node, r)
      else
        match closerOf c r with
        | some closer =>
          let (inner, r) := Reader.takeSpace s.stop ⟨some (.char c s), rest⟩
          closeGroup { original := c, span := s } inner (tryAllFuel fuel (some closer) s r)
        | none =>
          if Punct.chineseRightQuote.contains c then (.error (.unclosedQuote [c] (some s)), r)
          else
            let (after, r) := Reader.takeSpace s.stop ⟨some (.char c s), rest⟩
            (.ok (.char { original := c, span := s } after), r)

/-- Reads nodes up to the mark `closer`, or to the end of the block when there is none.  What was
opened at `opener` is left open if a closing mark does not come. -/
def tryAllFuel : Nat → Option Char → Span → Reader → Attempt (List Node)
  | 0, _, _, r => (.error (.unspecified none), r)
  | fuel + 1, closer, opener, r =>
    if atClose closer r then (.ok [], r)
    else
      match r.rest with
      | [] =>
        if closer.isNone then (.ok [], r) else (.error (.unexpectedEnd (some opener)), r)
      | a :: _ =>
        if a.isBlockEnd then
          if closer.isNone then (.ok [], r) else (.error (.unexpectedEnd (some opener)), r)
        else
          match tryFuel fuel r with
          | (.error e, r) => (.error e, r)
          | (.ok node, r) =>
            match tryAllFuel fuel closer opener r with
            | (.error e, r) => (.error e, r)
            | (.ok nodes, r) => (.ok (node :: nodes), r)

end

end Node

/-- The atoms after the first end of a block. -/
def skipBlock : List Atom → List Atom
  | [] => []
  | a :: as => if a.isBlockEnd then as else skipBlock as

/-- The paragraph of the block that the event `e` has started, and the atoms after that block. -/
def readBlock (e : Event) (s : Span) (rest : List Atom) :
    Except ParseError Paragraph × List Atom :=
  match Node.tryAllFuel (2 * rest.length + 2) none s ⟨some (.event e s), rest⟩ with
  | (.error err, r) => (.error err, skipBlock r.rest)
  | (.ok nodes, r) =>
    match r.rest with
    | [] => (.error (.unexpectedEnd (some s)), [])
    | _ :: rest => (.ok nodes, rest)

/-- Reads the paragraphs of a stream in one pass.  The first argument bounds the number of steps. -/
def readStreamFuel : Nat → List Atom → List (Except ParseError Paragraph)
  | 0, _ => []
  | _, [] => []
  | fuel + 1, .char _ _ :: atoms => readStreamFuel fuel atoms
  | fuel + 1, .event e s :: atoms =>
    if e.isBlockStart then
      let (result, rest) := readBlock e s atoms
      result :: readStreamFuel fuel rest
    else readStreamFuel fuel atoms

/-- The paragraphs of a stream of atoms, read in one pass. -/
def readStream (atoms : List Atom) : List (Except ParseError Paragraph) :=
  readStreamFuel atoms.length atoms

/-- The stream from each start of a block on that is met outside of blocks.  The first argument
tells whether a block has been started. -/
def outerStarts : Bool → List Atom → List (List Atom)
  | _, [] => []
  | true, a :: atoms => outerStarts (!a.isBlockEnd) atoms
  | false, a :: atoms =>
    if a.isBlockStart then (a :: atoms) :: outerStarts true atoms else outerStarts false atoms

/-! ### What follows a block -/

namespace Reader

/-- A reader to which more atoms come. -/
def append (r : Reader) (more : List Atom) : Reader := ⟨r.prev, r.rest ++ more⟩

@[simp] theorem append_nil (r : Reader) : r.append [] = r := by
  rw [append, List.append_nil]

/-- What may follow the atoms of a block: nothing, or the end of the block and whatever comes
then. -/
def EndsBlock (more : List Atom) : Prop := ∀ a ∈ more.head?, a.isBlockEnd = true

theorem endsBlock_nil : EndsBlock [] := by simp [EndsBlock]

theorem endsBlock_cons {stop : Atom} (hstop : stop.isBlockEnd = true) (rest : List Atom) :
    EndsBlock (stop :: rest) := by simpa [EndsBlock] using hstop

/-- The end of a block is an event. -/
theorem EndsBlock.eq_nil_or_event {more : List Atom} (h : EndsBlock more) :
    more = [] ∨ ∃ e s rest, more = .event e s :: rest ∧ e.isBlockEnd = true := by
  cases more with
  | nil => exact .inl rfl
  | cons a rest =>
    have ha : a.isBlockEnd = true := h a rfl
    cases a with
    | char c s => cases ha
    | event e s => exact .inr ⟨e, s, rest, rfl, ha⟩

section Append

variable {more : List Atom} (hmore : EndsBlock more)

include hmore

theorem takeKind_go_append (k : CharKind) : ∀ (rest : List Atom) (prev : Option Atom),
    takeKind.go k prev (rest ++ more) =
      ((takeKind.go k prev rest).1, (takeKind.go k prev rest).2.append more) := by
  intro rest
  induction rest with
  | nil =>
    intro prev
    rcases hmore.eq_nil_or_event with rfl | ⟨e, s, rest, rfl, -⟩ <;> rfl
  | cons a rest ih =>
    intro prev
    cases a with
    | event e s => rfl
    | char c s =>
      rw [List.cons_append, takeKind.go, takeKind.go, ih]
      split <;> rfl

/-- A run ends with its block. -/
theorem takeKind_append (k : CharKind) (r : Reader) :
    (r.append more).takeKind k = ((r.takeKind k).1, (r.takeKind k).2.append more) :=
  takeKind_go_append hmore k r.rest r.prev

theorem takeSpace_append (anchor : Int) (r : Reader) :
    (r.append more).takeSpace anchor =
      ((r.takeSpace anchor).1, (r.takeSpace anchor).2.append more) := by
  simp only [takeSpace, takeKind_append hmore]

theorem isHalfLetter_head?_append (rest : List Atom) :
    isHalfLetter (rest ++ more).head? = isHalfLetter rest.head? := by
  cases rest with
  | cons a rest => rfl
  | nil => rcases hmore.eq_nil_or_event with rfl | ⟨e, s, rest, rfl, -⟩ <;> rfl

/-- The end of a block is no letter, so it makes no apostrophe of a mark before it. -/
theorem atContraction_append (r : Reader) : (r.append more).atContraction = r.atContraction := by
  obtain ⟨prev, rest⟩ := r
  cases rest with
  | nil => rcases hmore.eq_nil_or_event with rfl | ⟨e, s, rest, rfl, -⟩ <;> rfl
  | cons a rest =>
    cases a with
    | event e s => rfl
    | char c s =>
      by_cases hc : c = '\''
      · subst hc
        change (_ && isHalfLetter (rest ++ more).head?) = (_ && isHalfLetter rest.head?)
        rw [isHalfLetter_head?_append hmore]
        rfl
      · simp [atContraction, append, hc]

end Append

end Reader

namespace Node

open Reader (EndsBlock)

section Append

variable {more : List Atom} (hmore : EndsBlock more)

include hmore

theorem atClose_append (closer : Option Char) (r : Reader) :
    atClose closer (r.append more) = atClose closer r := by
  have hcontraction := Reader.atContraction_append hmore r
  obtain ⟨prev, rest⟩ := r
  cases closer with
  | none => rfl
  | some c =>
    cases rest with
    | nil => rcases hmore.eq_nil_or_event with rfl | ⟨e, s, rest, rfl, -⟩ <;> rfl
    | cons a rest =>
      cases a with
      | event e s => rfl
      | char d s =>
        change (_ && !Reader.atContraction _) = (_ && !Reader.atContraction _)
        rw [hcontraction]

theorem closerOf_append (c : Char) (r : Reader) : closerOf c (r.append more) = closerOf c r := by
  rw [closerOf, closerOf, Reader.atContraction_append hmore]

theorem readRun_append (k : CharKind) (start : Int) (r : Reader) :
    readRun k start (r.append more) =
      ((readRun k start r).1, (readRun k start r).2.append more) := by
  simp only [readRun, Reader.takeKind_append hmore, Reader.takeSpace_append hmore]

end Append

/-! ### The head of a stream -/

section Head

variable {fuel : Nat} {r : Reader} {c : Char} {s : Span} {rest : List Atom}

theorem tryFuel_event {e : Event} (head : r.rest = .event e s :: rest)
    (inside : e.isBlockEnd = false) :
    tryFuel (fuel + 1) r =
      (.ok (.event e s (Reader.takeSpace s.stop ⟨some (.event e s), rest⟩).1),
        (Reader.takeSpace s.stop ⟨some (.event e s), rest⟩).2) := by
  simp only [tryFuel, head, inside, Bool.false_eq_true, if_false]

theorem tryFuel_letter (head : r.rest = .char c s :: rest)
    (letter : (CharKind.of c).isLetter = true) :
    tryFuel (fuel + 1) r =
      (.ok (readRun (CharKind.of c) s.start r).1, (readRun (CharKind.of c) s.start r).2) := by
  simp only [tryFuel, head, letter, if_true]

theorem tryFuel_group (fuel : Nat) {closer : Char} (head : r.rest = .char c s :: rest)
    (letter : (CharKind.of c).isLetter = false) (opens : closerOf c r = some closer) :
    tryFuel (fuel + 1) r =
      closeGroup { original := c, span := s }
        (Reader.takeSpace s.stop ⟨some (.char c s), rest⟩).1
        (tryAllFuel fuel (some closer) s (Reader.takeSpace s.stop ⟨some (.char c s), rest⟩).2) := by
  simp only [tryFuel, head, letter, opens, Bool.false_eq_true, if_false]

theorem tryFuel_fault (head : r.rest = .char c s :: rest)
    (letter : (CharKind.of c).isLetter = false) (opens : closerOf c r = none)
    (fault : Punct.chineseRightQuote.contains c = true) :
    tryFuel (fuel + 1) r = (.error (.unclosedQuote [c] (some s)), r) := by
  simp only [tryFuel, head, letter, opens, fault, Bool.false_eq_true, if_false, if_true]

theorem tryFuel_mark (head : r.rest = .char c s :: rest)
    (letter : (CharKind.of c).isLetter = false) (opens : closerOf c r = none)
    (closes : Punct.chineseRightQuote.contains c = false) :
    tryFuel (fuel + 1) r =
      (.ok (.char { original := c, span := s }
          (Reader.takeSpace s.stop ⟨some (.char c s), rest⟩).1),
        (Reader.takeSpace s.stop ⟨some (.char c s), rest⟩).2) := by
  simp only [tryFuel, head, letter, opens, closes, Bool.false_eq_true, if_false]

end Head

/-! ### Reading within a block -/

/-- Reading in one pass from `r`, to which more atoms come, goes as reading does without these: it
gives the same, and if it fails it has not passed more than the atoms of `r`. -/
def Agrees {α : Type} (more : List Atom) (r : Reader) (x : Except ParseError (α × Reader))
    (y : Attempt α) : Prop :=
  match x with
  | .ok (a, r') => y = (.ok a, r'.append more)
  | .error e => ∃ r' : Reader, r'.rest <:+ r.rest ∧ y = (.error e, r'.append more)

theorem suffix_of_passes {r r' : Reader} {as : List Atom} (h : r.Passes as r') :
    r'.rest <:+ r.rest := ⟨as, h.rest.symm⟩

theorem length_lt_of_passes {r r' : Reader} {a : Atom} {as : List Atom}
    (h : r.Passes (a :: as) r') : r'.rest.length < r.rest.length := by
  rw [h.rest, List.length_append, List.length_cons]
  omega

section Agrees

variable {more : List Atom} (hmore : EndsBlock more) {fuel fuel' : Nat} {r : Reader}
  (nested : ∀ closer opener r₀, r₀.rest.length < r.rest.length → r₀.rest <:+ r.rest →
    Agrees more r₀ (readAllFuel fuel closer opener r₀)
      (tryAllFuel fuel' closer opener (r₀.append more)))

include hmore nested

/-- What one step reads, reading in one pass reads as well. -/
theorem tryFuel_of_step {r' : Reader} {n : Node} (h : Step fuel r n r') :
    tryFuel (fuel' + 1) (r.append more) = (.ok n, r'.append more) := by
  have happend : ∀ {a rest}, r.rest = a :: rest → (r.append more).rest = a :: (rest ++ more) :=
    fun head => by rw [Reader.append, head, List.cons_append]
  have hspace := fun anchor a rest => Reader.takeSpace_append hmore anchor ⟨some a, rest⟩
  simp only [Reader.append] at hspace
  cases h with
  | @event e s rest head inside =>
    rw [tryFuel_event (happend head) inside, hspace]
    rfl
  | @run c s rest k head kind letter =>
    rw [tryFuel_letter (happend head) (by rcases letter with rfl | rfl <;> rw [kind] <;> rfl),
      readRun_append hmore, kind]
  | @char c s rest head letter opens closes =>
    rw [tryFuel_mark (happend head) letter (by rw [closerOf_append hmore, opens]) closes, hspace]
    rfl
  | @group c d closer s t rest rest' ns r₁ head letter opens inside close =>
    have hpass := (Reader.Passes.head head).trans
      (Reader.takeSpace_passes s.stop ⟨some (.char c s), rest⟩)
    have hin := nested (some closer) s _ (length_lt_of_passes hpass) (suffix_of_passes hpass)
    rw [inside] at hin
    rw [tryFuel_group fuel' (happend head) letter (by rw [closerOf_append hmore, opens]), hspace]
    obtain ⟨prev, rest₁⟩ := r₁
    cases close
    change closeGroup _ _ (tryAllFuel fuel' (some closer) s (Reader.append _ more)) = _
    rw [show tryAllFuel fuel' (some closer) s (Reader.append _ more) = _ from hin]
    simp only [closeGroup, Reader.append, List.cons_append, hspace]

/-- Where a step fails, reading in one pass fails as well, within the block. -/
theorem tryFuel_of_error {e : ParseError} (hrest : r.rest ≠ [])
    (inside : ∀ a ∈ r.rest, a.isBlockEnd = false) (h : readFuel (fuel + 1) r = .error e) :
    ∃ r' : Reader, r'.rest <:+ r.rest ∧
      tryFuel (fuel' + 1) (r.append more) = (.error e, r'.append more) := by
  have happend : ∀ {a rest}, r.rest = a :: rest → (r.append more).rest = a :: (rest ++ more) :=
    fun head => by rw [Reader.append, head, List.cons_append]
  rw [readFuel] at h
  split at h
  · next hnil => exact absurd hnil hrest
  · next ev s rest head =>
    have hev : ev.isBlockEnd = false := inside (.event ev s) (by simp [head])
    rw [hev] at h
    cases h
  · next c s rest head =>
    split at h
    · cases h
    · cases h
    · next half full =>
      have letter : (CharKind.of c).isLetter = false := CharKind.isLetter_eq_false half full
      split at h
      · next closer opens =>
        have hpass := (Reader.Passes.head head).trans
          (Reader.takeSpace_passes s.stop ⟨some (.char c s), rest⟩)
        have hin := nested (some closer) s _ (length_lt_of_passes hpass) (suffix_of_passes hpass)
        have hgroup := tryFuel_group fuel' (happend head) letter
          (by rw [closerOf_append hmore, opens])
        have hspace := Reader.takeSpace_append hmore s.stop ⟨some (.char c s), rest⟩
        simp only [Reader.append] at hspace
        rw [hgroup, hspace]
        split at h
        next inner r₀ space =>
        rw [space] at hin hpass
        split at h
        · next hread =>
          -- the error stems from the nodes inside of the quotation
          cases h
          rw [hread] at hin
          obtain ⟨r', hr', hin⟩ := hin
          refine ⟨r', hr'.trans (suffix_of_passes hpass), ?_⟩
          rw [space, show tryAllFuel fuel' (some closer) s ⟨_, _⟩ = _ from hin]
          rfl
        · next ns r₁ hread =>
          obtain ⟨t, rest', hr₁⟩ :=
            exists_of_atClose ((close_of_readAllFuel hread).resolve_right (by simp))
          rw [hr₁] at h
          cases h
      · next opens =>
        split at h
        · next fault =>
          cases h
          exact ⟨r, List.suffix_refl _,
            tryFuel_fault (happend head) letter (by rw [closerOf_append hmore, opens]) fault⟩
        · cases h

end Agrees

/-- A node comes before those that are read after it. -/
theorem Agrees.cons {more : List Atom} {r r₁ : Reader} {x : Except ParseError (List Node × Reader)}
    {y : Attempt (List Node)} (hsuffix : r₁.rest <:+ r.rest) (n : Node) :
    Agrees more r₁ x y →
    Agrees more r
      (match x with
        | .error e => .error e
        | .ok (nodes, r') => .ok (n :: nodes, r'))
      (match y with
        | (.error e, r') => (.error e, r')
        | (.ok nodes, r') => (.ok (n :: nodes), r')) := by
  intro h
  cases x with
  | error e =>
    obtain ⟨r', hr', rfl⟩ := h
    exact ⟨r', hr'.trans hsuffix, rfl⟩
  | ok result =>
    obtain rfl : y = _ := h
    rfl

/-- **Within a block, reading does not depend on what follows the block, and stops before its
end**, whether it succeeds or fails. -/
theorem agrees_tryAllFuel {more : List Atom} (hmore : EndsBlock more) : ∀ (fuel fuel' : Nat)
    (closer : Option Char) (opener : Span) (r : Reader), 2 * r.rest.length + 1 ≤ fuel →
    2 * r.rest.length + 1 ≤ fuel' → (∀ a ∈ r.rest, a.isBlockEnd = false) →
      Agrees more r (readAllFuel fuel closer opener r)
        (tryAllFuel fuel' closer opener (r.append more)) := by
  intro fuel
  induction fuel using Nat.strongRecOn with
  | ind fuel ih =>
    intro fuel' closer opener r hfuel hfuel' inside
    obtain _ | fuel := fuel
    · omega
    obtain _ | fuel' := fuel'
    · omega
    rw [readAllFuel, tryAllFuel, atClose_append hmore]
    split
    · rfl
    · split
      · next hnil =>
        -- reading has come to the end of the block
        have hrest : (r.append more).rest = more := by rw [Reader.append, hnil, List.nil_append]
        rw [hrest]
        rcases hmore.eq_nil_or_event with rfl | ⟨e, s, rest, rfl, he⟩
        · split
          · rfl
          · exact ⟨r, List.suffix_refl _, rfl⟩
        · simp only [Atom.isBlockEnd, he, if_true]
          split
          · rfl
          · exact ⟨r, List.suffix_refl _, rfl⟩
      · next a rest head =>
        have hne : r.rest ≠ [] := by simp [head]
        have hlen : 0 < r.rest.length := List.length_pos_iff.mpr hne
        have hrest : (r.append more).rest = a :: (rest ++ more) := by
          rw [Reader.append, head, List.cons_append]
        rw [hrest]
        simp only [inside a (by simp [head]), Bool.false_eq_true, if_false]
        obtain _ | fuel := fuel
        · omega
        obtain _ | fuel' := fuel'
        · omega
        have nested : ∀ closer opener r₀, r₀.rest.length < r.rest.length → r₀.rest <:+ r.rest →
            Agrees more r₀ (readAllFuel fuel closer opener r₀)
              (tryAllFuel fuel' closer opener (r₀.append more)) :=
          fun closer opener r₀ hlt hr₀ =>
            ih fuel (by omega) fuel' closer opener r₀ (by omega) (by omega)
              fun b hb => inside b (hr₀.subset hb)
        cases hread : readFuel (fuel + 1) r with
        | error e =>
          obtain ⟨r', hr', htry⟩ := tryFuel_of_error hmore nested hne inside hread
          rw [htry]
          exact ⟨r', hr', rfl⟩
        | ok result =>
          obtain ⟨n, r₁⟩ := result
          have hstep := step_of_readFuel hread
          obtain ⟨b, as, hpass⟩ := hstep.passes
          have hlt := length_lt_of_passes hpass
          have hsuffix := suffix_of_passes hpass
          rw [tryFuel_of_step hmore nested hstep]
          have hothers := ih (fuel + 1) (by omega) (fuel' + 1) closer opener r₁ (by omega)
            (by omega) fun b hb => inside b (hsuffix.subset hb)
          exact .cons hsuffix n hothers

end Node

/-! ### Blocks -/

/-- Past the end of a block, going on to it leads to what comes after it. -/
theorem skipBlock_append {stop : Atom} (hstop : stop.isBlockEnd = true) (rest : List Atom) :
    ∀ {as : List Atom}, (∀ a ∈ as, a.isBlockEnd = false) → skipBlock (as ++ stop :: rest) = rest := by
  intro as
  induction as with
  | nil => intro _; simp [skipBlock, hstop]
  | cons a as ih =>
    intro has
    have ha := has a List.mem_cons_self
    rw [List.cons_append, skipBlock, ha]
    exact ih fun b hb => has b (List.mem_cons_of_mem _ hb)

theorem skipBlock_eq_nil : ∀ {as : List Atom}, (∀ a ∈ as, a.isBlockEnd = false) →
    skipBlock as = [] := by
  intro as
  induction as with
  | nil => intro _; rfl
  | cons a as ih =>
    intro has
    have ha := has a List.mem_cons_self
    rw [skipBlock, ha]
    exact ih fun b hb => has b (List.mem_cons_of_mem _ hb)

section ReadBlock

variable {e : Event} {s : Span} {body : List Atom}
  (inside : ∀ a ∈ body, a.isBlockEnd = false)

include inside

/-- A block whose end is met is read on its own, and the reader gets past that end. -/
theorem readBlock_closed {stop : Atom} (hstop : stop.isBlockEnd = true) (rest : List Atom) :
    readBlock e s (body ++ stop :: rest) = (Block.parse ⟨s, e, body, true⟩, rest) := by
  have hagrees := Node.agrees_tryAllFuel (Reader.endsBlock_cons hstop rest) (2 * body.length + 2)
    (2 * (body ++ stop :: rest).length + 2) none s ⟨some (.event e s), body⟩ (by simp)
    (by simp; omega) inside
  rw [Block.parse]
  dsimp only
  split
  · next err hread =>
    rw [hread] at hagrees
    obtain ⟨r', hr', htry⟩ := hagrees
    rw [readBlock, show Node.tryAllFuel _ none s ⟨_, _⟩ = _ from htry]
    dsimp only [Reader.append]
    rw [skipBlock_append hstop rest fun a ha => inside a (hr'.subset ha)]
  · next ns r' hread =>
    rw [hread] at hagrees
    rw [readBlock, show Node.tryAllFuel _ none s ⟨_, _⟩ = _ from hagrees]
    dsimp only [Reader.append]
    rw [Node.rest_eq_nil_of_readAllFuel hread]
    rfl

/-- A block without an end takes in the whole stream. -/
theorem readBlock_open : readBlock e s body = (Block.parse ⟨s, e, body, false⟩, []) := by
  have hagrees := Node.agrees_tryAllFuel Reader.endsBlock_nil (2 * body.length + 2)
    (2 * body.length + 2) none s ⟨some (.event e s), body⟩ (by simp) (by simp) inside
  rw [Reader.append_nil] at hagrees
  rw [Block.parse]
  dsimp only
  split
  · next err hread =>
    rw [hread] at hagrees
    obtain ⟨r', hr', htry⟩ := hagrees
    rw [readBlock, htry]
    dsimp only [Reader.append_nil]
    rw [Reader.append_nil, skipBlock_eq_nil fun a ha => inside a (hr'.subset ha)]
  · next ns r' hread =>
    rw [hread] at hagrees
    rw [readBlock, show Node.tryAllFuel _ none s ⟨_, _⟩ = _ from hagrees]
    dsimp only
    rw [Reader.append_nil, Node.rest_eq_nil_of_readAllFuel hread]
    rfl

end ReadBlock

/-! ### Streams -/

theorem readStreamFuel_eq : ∀ {fuel : Nat} {atoms : List Atom}, atoms.length ≤ fuel →
    readStreamFuel fuel atoms = parseParagraphs atoms := by
  intro fuel
  induction fuel with
  | zero =>
    intro atoms hfuel
    obtain rfl := List.length_eq_zero_iff.mp (Nat.le_zero.mp hfuel)
    rfl
  | succ fuel ih =>
    intro atoms hfuel
    cases atoms with
    | nil => rfl
    | cons a atoms =>
      rw [List.length_cons] at hfuel
      cases a with
      | char c s => exact ih (by omega)
      | event e s =>
        rw [readStreamFuel]
        split
        · next start =>
          rcases Block.exists_body atoms with inside | ⟨body, stop, rest, rfl, inside, hstop⟩
          · rw [readBlock_open inside, parseParagraphs, Block.ofAtoms, Block.split, if_pos start,
              Block.split_some_open _ _ inside]
            dsimp only
            rw [ih (Nat.zero_le _)]
            rfl
          · rw [List.length_append, List.length_cons] at hfuel
            rw [readBlock_closed inside hstop, parseParagraphs_cons start s inside stop hstop]
            dsimp only
            rw [ih (by omega)]
        · next start =>
          rw [ih (by omega), parseParagraphs, parseParagraphs, Block.ofAtoms, Block.ofAtoms,
            Block.split, if_neg start]

/-- **Reading in one pass is reading block by block.** -/
theorem readStream_eq (atoms : List Atom) : readStream atoms = parseParagraphs atoms :=
  readStreamFuel_eq (Nat.le_refl _)

/-- Within a block no start counts. -/
theorem outerStarts_true (atoms : List Atom) :
    outerStarts true atoms = outerStarts false (skipBlock atoms) := by
  induction atoms with
  | nil => rfl
  | cons a atoms ih =>
    rw [outerStarts, skipBlock]
    cases a.isBlockEnd
    · exact ih
    · rfl

/-- Each start of a block that is met outside of blocks gives one paragraph or error, in order. -/
theorem map_some_parseParagraphs (atoms : List Atom) :
    (parseParagraphs atoms).map some =
      (outerStarts false atoms).map fun rest => (parseParagraphs rest).head? := by
  induction hlen : atoms.length using Nat.strongRecOn generalizing atoms with
  | ind n ih =>
    cases atoms with
    | nil => rfl
    | cons a atoms =>
      rw [List.length_cons] at hlen
      cases a with
      | char c s => exact ih _ (by omega) atoms rfl
      | event e s =>
        cases start : e.isBlockStart with
        | true =>
          rw [outerStarts, if_pos (by exact start), outerStarts_true, List.map_cons]
          rcases Block.exists_body atoms with inside | ⟨body, stop, rest, rfl, inside, hstop⟩
          · rw [skipBlock_eq_nil inside, parseParagraphs, Block.ofAtoms, Block.split, if_pos start,
              Block.split_some_open _ _ inside]
            rfl
          · rw [List.length_append, List.length_cons] at hlen
            rw [skipBlock_append hstop rest inside,
              parseParagraphs_cons start s inside stop hstop, List.map_cons,
              ih _ (by omega) rest rfl]
            rfl
        | false =>
          have hpass : parseParagraphs (.event e s :: atoms) = parseParagraphs atoms := by
            simp [parseParagraphs, Block.ofAtoms, Block.split, start]
          rw [outerStarts, if_neg (by simp [Atom.isBlockStart, start]), hpass]
          exact ih _ (by omega) atoms rfl

/-- **No paragraph depends on what comes before its block.**  After the end of a block a stream is
read as if it started there, whatever has been wrong before; this holds of reading in one pass, which
has to recover from its errors, since that is the same as reading block by block; and each start of
a block outside of blocks gives one result, in order. -/
theorem parseParagraphs_append {xs : List Atom} (stops : xs.getLast?.any Atom.isBlockEnd = true)
    (ys : List Atom) :
    parseParagraphs (xs ++ ys) = parseParagraphs xs ++ parseParagraphs ys ∧
      (∀ atoms, readStream atoms = parseParagraphs atoms) ∧
      ∀ atoms, (parseParagraphs atoms).map some =
        (outerStarts false atoms).map fun rest => (parseParagraphs rest).head? := by
  refine ⟨?_, readStream_eq, map_some_parseParagraphs⟩
  obtain ⟨stop, hlast, hstop⟩ := (Option.any_eq_true _ _).mp stops
  obtain ⟨front, rfl⟩ := List.getLast?_eq_some_iff.mp hlast
  simp only [parseParagraphs, Block.ofAtoms, List.append_assoc, List.singleton_append]
  rw [Block.split_append_cons hstop ys front none, List.map_append, Block.ofAtoms]

/-- The conclusion of `parseParagraphs_append` after a block with a mark at fault in a quotation in
a quotation. -/
theorem parseParagraphs_append_fault :
    let block (t : Text) : List Atom :=
      .event ⟨.opening, "paragraph", []⟩ (Span.point 0) ::
        (Atom.ofText 0 t ++ [.event ⟨.closing, "paragraph", []⟩ (Span.point 12)])
    parseParagraphs (block ['“', '‘', 'a', '”', '中'] ++ block ['中']) =
      [.error (.unclosedQuote ['”'] (some ⟨7, 10⟩)),
        .ok [.full { original := ['中'], span := ⟨0, 3⟩ } { original := [], span := ⟨3, 3⟩ }]] := by
  intro block
  have h := (@parseParagraphs_append (block ['“', '‘', 'a', '”', '中']) rfl (block ['中'])).1
  rw [h]
  rfl

end CjkProse
