import CjkProse.Node.OfAtoms

/-!
# The blocks of a stream

A block reaches from an atom that starts one to the first atom after it that ends one, whatever
stands in between, and the blocks of a stream are found one after the other.

## Main results

* `Block.ofAtoms_cons_block` — a block at the head of a stream, and the blocks after it.
* `Block.split_append_cons` — after the end of a block, a stream is cut as if it started there.
* `parseParagraphs_cons` — its paragraph, and the paragraphs after it.
-/

namespace CjkProse

/-- What ends a block starts none. -/
theorem Event.isBlockStart_of_isBlockEnd {e : Event} (h : e.isBlockEnd = true) :
    e.isBlockStart = false := by
  simp only [Event.isBlockEnd, Bool.and_eq_true, beq_iff_eq] at h
  simp [Event.isBlockStart, h.2]

namespace Block

/-- A block that has been started takes in everything up to the first end of a block. -/
theorem split_some_append {e : Event} {s : Span} {stop : Atom} (hstop : stop.isBlockEnd = true)
    (rest : List Atom) : ∀ (body acc : List Atom), (∀ a ∈ body, a.isBlockEnd = false) →
      split (some (e, s, acc)) (body ++ stop :: rest) =
        ⟨s, e, acc.reverse ++ body, true⟩ :: ofAtoms rest := by
  intro body
  induction body with
  | nil => intro acc _; simp [split, hstop, ofAtoms]
  | cons a body ih =>
    intro acc hbody
    have ha : a.isBlockEnd = false := hbody a List.mem_cons_self
    have hrest := ih (a :: acc) fun b hb => hbody b (List.mem_cons_of_mem _ hb)
    rw [List.cons_append, split, ha]
    simpa using hrest

/-- A block that has been started takes in the whole stream if no block ends there. -/
theorem split_some_open {e : Event} {s : Span} : ∀ (body acc : List Atom),
    (∀ a ∈ body, a.isBlockEnd = false) →
      split (some (e, s, acc)) body = [⟨s, e, acc.reverse ++ body, false⟩] := by
  intro body
  induction body with
  | nil => intro acc _; simp [split]
  | cons a body ih =>
    intro acc hbody
    have ha : a.isBlockEnd = false := hbody a List.mem_cons_self
    have hrest := ih (a :: acc) fun b hb => hbody b (List.mem_cons_of_mem _ hb)
    rw [split, ha]
    simpa using hrest

/-- After the end of a block no block is open, whatever has come before. -/
theorem split_append_cons {stop : Atom} (hstop : stop.isBlockEnd = true) (ys : List Atom) :
    ∀ (xs : List Atom) (state : Option (Event × Span × List Atom)),
      split state (xs ++ stop :: ys) = split state (xs ++ [stop]) ++ ofAtoms ys := by
  intro xs
  induction xs with
  | nil =>
    rintro (_ | ⟨e, s, body⟩)
    · cases stop with
      | char c s => cases hstop
      | event e s =>
        have hstart : e.isBlockStart = false := Event.isBlockStart_of_isBlockEnd hstop
        simp [split, hstart, ofAtoms]
    · simp [split, hstop, ofAtoms]
  | cons a xs ih =>
    rintro (_ | ⟨e, s, body⟩)
    · cases a with
      | char c s => exact ih none
      | event e s =>
        rw [List.cons_append, List.cons_append, split, split]
        split
        · exact ih _
        · exact ih none
    · rw [List.cons_append, List.cons_append, split, split]
      split
      · rw [ih none, List.cons_append]
      · exact ih _

/-- What comes before the first end of a block, if there is one. -/
theorem exists_body (atoms : List Atom) :
    (∀ a ∈ atoms, a.isBlockEnd = false) ∨
      ∃ body stop rest, atoms = body ++ stop :: rest ∧ (∀ a ∈ body, a.isBlockEnd = false) ∧
        stop.isBlockEnd = true := by
  induction atoms with
  | nil => exact .inl (by simp)
  | cons a atoms ih =>
    cases ha : a.isBlockEnd with
    | true => exact .inr ⟨[], a, atoms, rfl, by simp, ha⟩
    | false =>
      rcases ih with hinside | ⟨body, stop, rest, rfl, hinside, hstop⟩
      · exact .inl (List.forall_mem_cons.mpr ⟨ha, hinside⟩)
      · exact .inr ⟨a :: body, stop, rest, rfl, List.forall_mem_cons.mpr ⟨ha, hinside⟩, hstop⟩

/-- **A block at the head of a stream holds what comes before the first end.** -/
theorem ofAtoms_cons_block {e : Event} (start : e.isBlockStart = true) (s : Span)
    {body : List Atom} (inside : ∀ a ∈ body, a.isBlockEnd = false) (stop : Atom)
    (hstop : stop.isBlockEnd = true) (rest : List Atom) :
    ofAtoms (.event e s :: (body ++ stop :: rest)) = ⟨s, e, body, true⟩ :: ofAtoms rest := by
  rw [ofAtoms, split, if_pos start, split_some_append hstop rest body [] inside,
    List.reverse_nil, List.nil_append]

end Block

/-- The paragraph of a block at the head of a stream comes first. -/
theorem parseParagraphs_cons {e : Event} (start : e.isBlockStart = true) (s : Span)
    {body : List Atom} (inside : ∀ a ∈ body, a.isBlockEnd = false) (stop : Atom)
    (hstop : stop.isBlockEnd = true) (rest : List Atom) :
    parseParagraphs (.event e s :: (body ++ stop :: rest)) =
      (Block.mk s e body true).parse :: parseParagraphs rest := by
  rw [parseParagraphs, Block.ofAtoms_cons_block start s inside stop hstop rest, List.map_cons,
    parseParagraphs]

end CjkProse
