import CjkProse.Proofs.Reading.Runs

/-!
# The leaves of a tree

Cut at its values, a tree is a list of leaves in document order: marks, runs of letters, spaces and
events.  What a tree has been read from is told leaf by leaf: a leaf is *spelt* by the atoms it was
made of, and every atom that was passed spells a part of exactly one leaf.

## Main definitions

* `Leaf`, `Node.leaves`, `Paragraph.leaves` — the leaves of a tree.
* `Leaf.Spelt`, `Spells` — which atoms a leaf, and a list of leaves, are read from.
* `Node.Step` — what one step of the reader can give.

## Main results

* `Node.step_of_readFuel`, `Node.readFuel_of_step` — the nodes that are read are those that come
  from these steps.
* `Node.readAllFuel_induction` — what is read is nothing, or a step and what is read after it.
* `Node.Step.spells`, `Node.spells_of_readAllFuel` — the atoms that are passed spell the leaves of
  what is read.
* `Node.close_of_readAllFuel` — reading stops at the closing mark, or at the end if none is asked
  for.
-/

namespace CjkProse

open Reader (runStop)

/-- A value of a tree, or one of its events. -/
inductive Leaf
  /-- A mark, a quotation mark included. -/
  | mark (value : Revisable Char)
  /-- A run of letters. -/
  | run (value : Revisable Text)
  /-- The space after a node, or the one after an opening quotation mark. -/
  | space (value : Revisable Space)
  /-- An event of the markup. -/
  | event (event : Event) (span : Span)
  deriving DecidableEq, Repr, Inhabited

namespace Leaf

/-- The source that a leaf covers. -/
def span : Leaf → Span
  | mark v => v.span
  | run v => v.span
  | space v => v.span
  | event _ s => s

/-- The text that a leaf has in the source; an event is told by no text. -/
def original : Leaf → Text
  | mark v => [v.original]
  | run v => v.original
  | space v => v.original
  | event _ _ => []

/-- The atoms that a leaf is read from, when each takes up as many bytes as it is encoded in. -/
def atoms : Leaf → List Atom
  | mark v => [.char v.original v.span]
  | run v => Atom.ofText v.span.start v.original
  | space v => Atom.ofText v.span.start v.original
  | event e s => [.event e s]

end Leaf

mutual

/-- The leaves of a node, in document order. -/
def Node.leaves : Node → List Leaf
  | .char v a => [.mark v, .space a]
  | .half v a => [.run v, .space a]
  | .full v a => [.run v, .space a]
  | .event e s a => [.event e s, .space a]
  | .group o inner ns c a =>
    .mark o :: .space inner :: (Paragraph.leaves ns ++ [.mark c, .space a])

/-- The leaves of a list of nodes, in document order. -/
def Paragraph.leaves : List Node → List Leaf
  | [] => []
  | n :: ns => Node.leaves n ++ Paragraph.leaves ns

end

@[simp] theorem Paragraph.leaves_nil : Paragraph.leaves [] = [] := by rw [Paragraph.leaves]

@[simp] theorem Paragraph.leaves_cons (n : Node) (ns : List Node) :
    Paragraph.leaves (n :: ns) = n.leaves ++ Paragraph.leaves ns := by rw [Paragraph.leaves]

/-- The leaves of a node of a paragraph are leaves of the paragraph. -/
theorem Paragraph.mem_leaves {n : Node} {l : Leaf} (hl : l ∈ n.leaves) :
    ∀ {ns : List Node}, n ∈ ns → l ∈ Paragraph.leaves ns := by
  intro ns
  induction ns with
  | nil =>
    intro hn
    cases hn
  | cons m ns ih =>
    intro hn
    rw [leaves_cons]
    rcases List.mem_cons.mp hn with rfl | hn
    · exact List.mem_append_left _ hl
    · exact List.mem_append_right _ (ih hn)

/-- The atoms of a tree, in document order: its values character by character, and its events. -/
def Paragraph.flatten (ns : List Node) : List Atom := (Paragraph.leaves ns).flatMap Leaf.atoms

/-! ### Spelling -/

/-- The atoms `as` spell a leaf, the leaf before it ending at `stop`.  A mark and an event are told
by their own span, a run from the start of its first character to the end of its last one, and a
space from the end of the leaf before it. -/
def Leaf.Spelt (stop : Int) : Leaf → List Atom → Prop
  | .mark v, as => ∃ c s, as = [.char c s] ∧ v = { original := c, span := s }
  | .run v, as => ∃ c s run, as = Atom.ofRun ((c, s) :: run) ∧
      v = { original := c :: run.map Prod.fst, span := ⟨s.start, runStop s.stop run⟩ }
  | .space v, as => ∃ run, as = Atom.ofRun run ∧ (∀ p ∈ run, CharKind.of p.1 = .space) ∧
      v = { original := run.map Prod.fst, span := ⟨stop, runStop stop run⟩ }
  | .event e s, as => as = [.event e s]

/-- The atoms `as` spell some leaves one after the other, the leaf before them ending at `stop`. -/
inductive Spells : Int → List Leaf → List Atom → Prop
  /-- No atoms spell no leaves. -/
  | nil {stop : Int} : Spells stop [] []
  /-- The atoms of the first leaf come before those of the others. -/
  | cons {stop : Int} {l : Leaf} {ls : List Leaf} {as bs : List Atom} (head : l.Spelt stop as)
      (tail : Spells l.span.stop ls bs) : Spells stop (l :: ls) (as ++ bs)

/-- What spells the later leaves must do so wherever the earlier ones end. -/
theorem Spells.append {stop : Int} {ls ms : List Leaf} {as bs : List Atom}
    (h : Spells stop ls as) (h' : ∀ stop, Spells stop ms bs) :
    Spells stop (ls ++ ms) (as ++ bs) := by
  induction h with
  | nil => exact h' _
  | cons head _ ih =>
    rw [List.cons_append, List.append_assoc]
    exact .cons head ih

/-- The space that `takeSpace` reads is spelt by the atoms that it passes. -/
theorem Spells.space (stop : Int) (r : Reader) :
    Spells stop [.space (r.takeSpace stop).1] (Atom.ofRun r.spaceRun) := by
  have h : Leaf.Spelt stop (.space (r.takeSpace stop).1) (Atom.ofRun r.spaceRun) :=
    ⟨r.spaceRun, rfl, fun _ hp => Reader.isSpace_of_mem_spaceRun hp, r.takeSpace_fst stop⟩
  simpa using Spells.cons h .nil

/-- A mark and the space after it. -/
theorem Spells.mark (stop : Int) (c : Char) (s : Span) (r : Reader) :
    Spells stop [.mark { original := c, span := s }, .space (r.takeSpace s.stop).1]
      (.char c s :: Atom.ofRun r.spaceRun) := by
  have h : Leaf.Spelt stop (.mark { original := c, span := s }) [.char c s] := ⟨c, s, rfl, rfl⟩
  exact .cons h (Spells.space s.stop r)

/-- An event and the space after it. -/
theorem Spells.event (stop : Int) (e : Event) (s : Span) (r : Reader) :
    Spells stop [.event e s, .space (r.takeSpace s.stop).1]
      (.event e s :: Atom.ofRun r.spaceRun) := by
  have h : Leaf.Spelt stop (.event e s) [.event e s] := rfl
  exact .cons h (Spells.space s.stop r)

/-! ### Steps of the reader -/

theorem CharKind.isLetter_eq_false {k : CharKind} (half : k ≠ .letterHalf)
    (full : k ≠ .letterFull) : k.isLetter = false := by
  cases k <;> first | rfl | contradiction

namespace Node

/-- One step of the reader, from `r` to the reader in the last place.  The first argument is the
number of calls that the nodes inside of a quotation may take. -/
inductive Step (fuel : Nat) (r : Reader) : Node → Reader → Prop
  /-- An event that does not end a block. -/
  | event {e : Event} {s : Span} {rest : List Atom} (head : r.rest = .event e s :: rest)
      (inside : e.isBlockEnd = false) :
      Step fuel r (.event e s (Reader.takeSpace s.stop ⟨some (.event e s), rest⟩).1)
        (Reader.takeSpace s.stop ⟨some (.event e s), rest⟩).2
  /-- A run of letters of one width. -/
  | run {c : Char} {s : Span} {rest : List Atom} {k : CharKind}
      (head : r.rest = .char c s :: rest) (kind : CharKind.of c = k)
      (letter : k = .letterHalf ∨ k = .letterFull) :
      Step fuel r (readRun k s.start r).1 (readRun k s.start r).2
  /-- A quotation. -/
  | group {c d closer : Char} {s t : Span} {rest rest' : List Atom} {ns : List Node} {r' : Reader}
      (head : r.rest = .char c s :: rest) (kind : (CharKind.of c).isLetter = false)
      (opens : closerOf c r = some closer)
      (inside : readAllFuel fuel (some closer) s
        (Reader.takeSpace s.stop ⟨some (.char c s), rest⟩).2 = .ok (ns, r'))
      (close : r'.rest = .char d t :: rest') :
      Step fuel r
        (.group { original := c, span := s }
          (Reader.takeSpace s.stop ⟨some (.char c s), rest⟩).1 ns { original := d, span := t }
          (Reader.takeSpace t.stop ⟨some (.char d t), rest'⟩).1)
        (Reader.takeSpace t.stop ⟨some (.char d t), rest'⟩).2
  /-- A mark that opens nothing and closes nothing. -/
  | char {c : Char} {s : Span} {rest : List Atom} (head : r.rest = .char c s :: rest)
      (kind : (CharKind.of c).isLetter = false) (opens : closerOf c r = none)
      (closes : Punct.chineseRightQuote.contains c = false) :
      Step fuel r (.char { original := c, span := s }
          (Reader.takeSpace s.stop ⟨some (.char c s), rest⟩).1)
        (Reader.takeSpace s.stop ⟨some (.char c s), rest⟩).2

/-- Every node that is read comes from one step. -/
theorem step_of_readFuel {fuel : Nat} {r r' : Reader} {n : Node}
    (h : readFuel (fuel + 1) r = .ok (n, r')) : Step fuel r n r' := by
  rw [readFuel] at h
  split at h
  · cases h
  · next e s rest head =>
    split at h
    · cases h
    · next inside =>
      cases h
      exact .event head (by simpa using inside)
  · next c s rest head =>
    split at h
    · next kind => cases h; exact .run head kind (.inl rfl)
    · next kind => cases h; exact .run head kind (.inr rfl)
    · next half full =>
      have kind : (CharKind.of c).isLetter = false := CharKind.isLetter_eq_false half full
      split at h
      · next closer opens =>
        -- the nodes inside of the quotation come first, and then the mark that closes it
        split at h
        next inner r₀ space =>
        split at h
        · cases h
        · next ns r₁ inside =>
          split at h
          · next d t rest' close =>
            have hstep := Step.group head kind opens (by rw [space]; exact inside) close
            rw [space] at hstep
            cases h
            exact hstep
          · cases h
      · next opens =>
        split at h
        · cases h
        · next closes => cases h; exact .char head kind opens (by simpa using closes)

/-- Every step is one that reads a node. -/
theorem readFuel_of_step {fuel : Nat} {r r' : Reader} {n : Node} (h : Step fuel r n r') :
    readFuel (fuel + 1) r = .ok (n, r') := by
  cases h with
  | event head inside =>
    simp only [readFuel, head, inside, Bool.false_eq_true, if_false]
  | run head kind letter =>
    rcases letter with rfl | rfl
    · simp only [readFuel, head, kind]
    · simp only [readFuel, head, kind]
  | group head kind opens inside close =>
    simp only [readFuel, head, opens, inside, close]
    split
    · next half => rw [half] at kind; cases kind
    · next full => rw [full] at kind; cases kind
    · rfl
  | char head kind opens closes =>
    simp only [readFuel, head, opens, closes, Bool.false_eq_true, if_false]
    split
    · next half => rw [half] at kind; cases kind
    · next full => rw [full] at kind; cases kind
    · rfl

/-- What is read after a step comes after its node. -/
theorem readAllFuel_of_step {fuel : Nat} {closer : Option Char} {opener : Span} {r r₁ r₂ : Reader}
    {n : Node} {ns : List Node} (hclose : atClose closer r = false) (h : Step fuel r n r₁)
    (hread : readAllFuel (fuel + 1) closer opener r₁ = .ok (ns, r₂)) :
    readAllFuel (fuel + 2) closer opener r = .ok (n :: ns, r₂) := by
  have hfirst := readFuel_of_step h
  have hhead : ∃ a rest, r.rest = a :: rest ∧ a.isBlockEnd = false := by
    cases h with
    | event head inside => exact ⟨_, _, head, inside⟩
    | run head _ _ => exact ⟨_, _, head, rfl⟩
    | group head _ _ _ _ => exact ⟨_, _, head, rfl⟩
    | char head _ _ _ => exact ⟨_, _, head, rfl⟩
  obtain ⟨a, rest, head, inside⟩ := hhead
  rw [readAllFuel]
  simp only [hclose, head, inside, hfirst, hread, Bool.false_eq_true, if_false]

/-- Induction on what is read: nothing where reading stops, or else a step and what is read after
it.  The claim may be used of the nodes inside of a quotation that a step reads. -/
theorem readAllFuel_induction {P : Option Char → Span → Reader → List Node → Reader → Prop}
    (stop : ∀ closer opener r, atClose closer r = true ∨ closer = none ∧ r.rest = [] →
      P closer opener r [] r)
    (step : ∀ fuel closer opener r n r₁ ns r', atClose closer r = false → Step fuel r n r₁ →
      (∀ closer opener r ns r', readAllFuel fuel closer opener r = .ok (ns, r') →
        P closer opener r ns r') →
      P closer opener r₁ ns r' → P closer opener r (n :: ns) r') :
    ∀ {fuel : Nat} {closer : Option Char} {opener : Span} {r : Reader} {ns : List Node}
      {r' : Reader}, readAllFuel fuel closer opener r = .ok (ns, r') →
        P closer opener r ns r' := by
  intro fuel
  -- two calls down: a quotation is read by `readFuel`, which reads its inside with less fuel again
  induction fuel using Nat.strongRecOn with
  | ind fuel ih =>
    intro closer opener r ns r' h
    cases fuel with
    | zero => simp [readAllFuel] at h
    | succ fuel =>
      rw [readAllFuel] at h
      split at h
      · next close =>
        cases h
        exact stop _ _ _ (.inl close)
      · next close =>
        split at h
        · next hrest =>
          split at h
          · next hnone =>
            cases h
            exact stop _ _ _ (.inr ⟨by simpa using hnone, hrest⟩)
          · cases h
        · split at h
          · cases h
          · split at h
            · cases h
            · next n r₁ first =>
              split at h
              · cases h
              · next ms r₂ others =>
                cases h
                have hothers := ih fuel (by omega) others
                cases fuel with
                | zero => simp [readFuel] at first
                | succ fuel =>
                  exact step fuel _ _ _ _ _ _ _ (by simpa using close) (step_of_readFuel first)
                    (fun _ _ _ _ _ h => ih fuel (by omega) h) hothers

/-! ### What is read is spelt by what is passed -/

/-- The leaves of a run of letters are the run and the space after it. -/
theorem leaves_readRun (k : CharKind) (start : Int) (r : Reader) :
    (readRun k start r).1.leaves =
      [.run { original := (r.takeKind k).1.map Prod.fst,
              span := ⟨start, runStop start (r.takeKind k).1⟩ },
        .space ((r.takeKind k).2.takeSpace (runStop start (r.takeKind k).1)).1] := by
  simp only [readRun]
  split <;> rfl

theorem readRun_passes (k : CharKind) (start : Int) (r : Reader) :
    r.Passes (Atom.ofRun (r.takeKind k).1 ++ Atom.ofRun (r.takeKind k).2.spaceRun)
      (readRun k start r).2 :=
  (Reader.takeKind_passes k r).trans (Reader.takeSpace_passes (runStop start (r.takeKind k).1) _)

/-- A run of letters is spelt by its letters and the spaces after it. -/
theorem spells_readRun (stop : Int) {r : Reader} {c : Char} {s : Span} {rest : List Atom}
    {k : CharKind} (head : r.rest = .char c s :: rest) (kind : CharKind.of c = k) :
    Spells stop (readRun k s.start r).1.leaves
      (Atom.ofRun (r.takeKind k).1 ++ Atom.ofRun (r.takeKind k).2.spaceRun) := by
  obtain ⟨prev, rest'⟩ := r
  cases head
  rw [leaves_readRun, Reader.takeKind_cons kind]
  exact .cons ⟨c, s, _, rfl, rfl⟩ (Spells.space _ _)

/-- What is read of a step is spelt by what it passes, given that this is so for the nodes inside of
a quotation. -/
theorem Step.spells {fuel : Nat} {r r' : Reader} {n : Node} (h : Step fuel r n r')
    (inside : ∀ closer opener r ns r', readAllFuel fuel closer opener r = .ok (ns, r') →
      ∃ as, r.Passes as r' ∧ ∀ stop, Spells stop (Paragraph.leaves ns) as) :
    ∃ a as, r.Passes (a :: as) r' ∧ ∀ stop, Spells stop n.leaves (a :: as) := by
  cases h with
  | event head _ =>
    exact ⟨_, _, (Reader.Passes.head head).trans (Reader.takeSpace_passes _ _),
      fun stop => Spells.event stop _ _ _⟩
  | @run c s rest k head kind _ =>
    obtain ⟨prev, rest'⟩ := r
    cases head
    have hpass := readRun_passes k s.start ⟨prev, .char c s :: rest⟩
    have hspell := fun stop =>
      spells_readRun (r := ⟨prev, .char c s :: rest⟩) stop rfl kind
    rw [Reader.takeKind_cons kind] at hpass hspell
    exact ⟨_, _, hpass, hspell⟩
  | @group c d closer s t rest rest' ns r₁ head _ _ hin close =>
    -- the opening mark and its space, what is inside, and the closing mark and its space
    obtain ⟨as, hpass, hspell⟩ := inside _ _ _ _ _ hin
    have hopen := (Reader.Passes.head head).trans (Reader.takeSpace_passes s.stop _)
    have hclose := (Reader.Passes.head close).trans (Reader.takeSpace_passes t.stop _)
    refine ⟨_, _, hopen.trans (hpass.trans hclose), fun stop => ?_⟩
    exact (Spells.mark stop c s _).append fun stop' =>
      (hspell stop').append fun stop => Spells.mark stop d t _
  | char head _ _ _ =>
    exact ⟨_, _, (Reader.Passes.head head).trans (Reader.takeSpace_passes _ _),
      fun stop => Spells.mark stop _ _ _⟩

/-- The nodes that are read up to a closing mark, or to the end, are spelt by the atoms that are
passed. -/
theorem spells_of_readAllFuel {fuel : Nat} {closer : Option Char} {opener : Span} {r r' : Reader}
    {ns : List Node} (h : readAllFuel fuel closer opener r = .ok (ns, r')) :
    ∃ as, r.Passes as r' ∧ ∀ stop, Spells stop (Paragraph.leaves ns) as := by
  refine readAllFuel_induction (P := fun _ _ r ns r' =>
    ∃ as, r.Passes as r' ∧ ∀ stop, Spells stop (Paragraph.leaves ns) as) ?_ ?_ h
  · intro closer opener r _
    exact ⟨[], .refl r, fun _ => .nil⟩
  · intro fuel closer opener r n r₁ ns r' _ hstep inside others
    obtain ⟨a, as, hpass, hspell⟩ := hstep.spells inside
    obtain ⟨bs, hpass', hspell'⟩ := others
    refine ⟨_, hpass.trans hpass', fun stop => ?_⟩
    rw [Paragraph.leaves_cons]
    exact (hspell stop).append hspell'

/-- A step passes some atoms. -/
theorem Step.passes {fuel : Nat} {r r' : Reader} {n : Node} (h : Step fuel r n r') :
    ∃ a as, r.Passes (a :: as) r' := by
  obtain ⟨a, as, hpass, -⟩ := h.spells fun _ _ _ _ _ h => spells_of_readAllFuel h
  exact ⟨a, as, hpass⟩

/-- Where a reader is at the closing mark, this mark stands next. -/
theorem exists_of_atClose {c : Char} {r : Reader} (h : atClose (some c) r = true) :
    ∃ s rest, r.rest = .char c s :: rest := by
  obtain ⟨prev, atoms⟩ := r
  cases atoms with
  | nil => simp [atClose] at h
  | cons a rest =>
    cases a with
    | event e s => simp [atClose] at h
    | char d s =>
      have hcd : c = d := by
        simp only [atClose, Bool.and_eq_true, beq_iff_eq] at h
        exact h.1
      exact ⟨s, rest, by rw [hcd]⟩

/-- The nodes that are read are followed by the closing mark, or by nothing when none is asked
for. -/
theorem close_of_readAllFuel {fuel : Nat} {closer : Option Char} {opener : Span} {r r' : Reader}
    {ns : List Node} (h : readAllFuel fuel closer opener r = .ok (ns, r')) :
    atClose closer r' = true ∨ closer = none ∧ r'.rest = [] := by
  refine readAllFuel_induction (P := fun closer _ _ _ r' =>
    atClose closer r' = true ∨ closer = none ∧ r'.rest = []) ?_ ?_ h
  · intro closer opener r hstop
    exact hstop
  · intro fuel closer opener r n r₁ ns r' _ _ _ others
    exact others

theorem rest_eq_nil_of_readAllFuel {fuel : Nat} {opener : Span} {r : Reader} {ns : List Node}
    {r' : Reader} (h : readAllFuel fuel none opener r = .ok (ns, r')) : r'.rest = [] := by
  rcases close_of_readAllFuel h with hclose | ⟨-, hrest⟩
  · simp [atClose] at hclose
  · exact hrest

end Node

end CjkProse
