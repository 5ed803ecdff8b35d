import CjkProse.Proofs.Reading.QuoteScan

/-!
# How quotations nest

The pairs of quotation marks of a paragraph, told in the order in which they are closed and with the
number of atoms before each mark, tell how the quotations are nested: one is in another if it is
closed earlier and opened later.  So two paragraphs with the same pairs have the same quotations.

## Main definitions

* `Quotation`, `Paragraph.quotations` — the quotations of a paragraph, and those in them.
* `QuotePair.marks` — a pair of marks, wherever these stand in the source.
* `nestOf` — the quotations that have some pairs of marks.

## Main results

* `Paragraph.nestOf_quotePairs` — the pairs of a paragraph have its quotations.
* `Paragraph.quotations_eq_of_marks` — **the same pairs make the same quotations.**
-/

namespace CjkProse

/-- A quotation: the marks around it, and the quotations in it. -/
inductive Quotation
  /-- The two marks and what stands between them. -/
  | mk (opener closer : Char) (inner : List Quotation)
  deriving Repr, Inhabited

mutual

/-- The quotation that a node is, if it is one.  Which form of a mark counts is told by `form`. -/
def Node.quotations (form : Revisable Char → Char) : Node → List Quotation
  | .group o _ ns c _ => [.mk (form o) (form c) (Paragraph.quotations form ns)]
  | .char _ _ | .half _ _ | .full _ _ | .event _ _ _ => []

/-- The quotations of a list of nodes. -/
def Paragraph.quotations (form : Revisable Char → Char) : List Node → List Quotation
  | [] => []
  | n :: ns => n.quotations form ++ Paragraph.quotations form ns

end

/-- The marks of a pair, each with the number of atoms before it. -/
def QuotePair.marks (p : QuotePair) : (Nat × Char) × (Nat × Char) :=
  ((p.opener.index, p.opener.mark), (p.closer.index, p.closer.mark))

/-- Closes a quotation.  Those that have been closed before, the last one first, are in it if they
have been opened after it; each has the number of atoms before its opening mark beside it. -/
def nestStep (done : List (Nat × Quotation)) (m : (Nat × Char) × (Nat × Char)) :
    List (Nat × Quotation) :=
  let inner := (done.takeWhile fun q => m.1.1 < q.1).reverse
  (m.1.1, .mk m.1.2 m.2.2 (inner.map Prod.snd)) :: done.dropWhile fun q => m.1.1 < q.1

/-- The quotations that have the given pairs of marks. -/
def nestOf (marks : List ((Nat × Char) × (Nat × Char))) : List Quotation :=
  (marks.foldl nestStep []).reverse.map Prod.snd

/-- Closing a quotation in which all of `inner` and none of `done` stand. -/
theorem nestStep_append {inner done : List (Nat × Quotation)} {m : (Nat × Char) × (Nat × Char)}
    (hinner : ∀ q ∈ inner, m.1.1 < q.1) (hdone : ∀ q ∈ done, q.1 < m.1.1) :
    nestStep (inner ++ done) m =
      (m.1.1, .mk m.1.2 m.2.2 (inner.reverse.map Prod.snd)) :: done := by
  have hstop : done.takeWhile (fun q => m.1.1 < q.1) = [] ∧
      done.dropWhile (fun q => m.1.1 < q.1) = done := by
    cases done with
    | nil => exact ⟨rfl, rfl⟩
    | cons q done =>
      have hq : ¬ m.1.1 < q.1 := Nat.lt_asymm (hdone q List.mem_cons_self)
      simp [hq]
  have htake : (inner ++ done).takeWhile (fun q => m.1.1 < q.1) =
      inner ++ done.takeWhile (fun q => m.1.1 < q.1) :=
    List.takeWhile_append_of_pos (by simpa using hinner)
  have hdrop : (inner ++ done).dropWhile (fun q => m.1.1 < q.1) =
      done.dropWhile (fun q => m.1.1 < q.1) :=
    List.dropWhile_append_of_pos (by simpa using hinner)
  rw [nestStep, htake, hdrop, hstop.1, hstop.2, List.append_nil]

mutual

/-- The pairs of a node make its quotation of what has been closed in it, and leave alone what has
been closed before it. -/
theorem Node.foldl_nestStep {done : List (Nat × Quotation)} {i : Nat}
    (hdone : ∀ q ∈ done, q.1 < i) : ∀ n : Node,
    ∃ new : List (Nat × Quotation),
      ((n.quotePairs i).map QuotePair.marks).foldl nestStep done = new.reverse ++ done ∧
      new.map Prod.snd = n.quotations Revisable.original ∧ ∀ q ∈ new, i ≤ q.1 ∧ q.1 < i + n.size
  | .group o inner ns c a => by
    have hdone' : ∀ q ∈ done, q.1 < i + 1 + inner.original.length := by
      intro q hq
      have := hdone q hq
      omega
    obtain ⟨new, hfold, hnew, hindex⟩ := Paragraph.foldl_nestStep hdone' ns
    refine ⟨[(i, .mk o.original c.original (Paragraph.quotations Revisable.original ns))], ?_, ?_, ?_⟩
    · have hinner : ∀ q ∈ new.reverse, i < q.1 := fun q hq => by
        have := (hindex q (List.mem_reverse.mp hq)).1
        omega
      rw [Node.quotePairs, List.map_append, List.foldl_append, hfold]
      simp only [List.map_cons, List.map_nil, List.foldl_cons, List.foldl_nil]
      rw [nestStep_append (m := QuotePair.marks _) hinner hdone, List.reverse_reverse, hnew]
      rfl
    · rw [Node.quotations]
      rfl
    · rw [List.forall_mem_singleton, Node.size_group]
      omega
  | .char v a => ⟨[], by rw [Node.quotePairs]; rfl, by rw [Node.quotations]; rfl, nofun⟩
  | .half v a => ⟨[], by rw [Node.quotePairs]; rfl, by rw [Node.quotations]; rfl, nofun⟩
  | .full v a => ⟨[], by rw [Node.quotePairs]; rfl, by rw [Node.quotations]; rfl, nofun⟩
  | .event e s a => ⟨[], by rw [Node.quotePairs]; rfl, by rw [Node.quotations]; rfl, nofun⟩

/-- The pairs of some nodes make their quotations. -/
theorem Paragraph.foldl_nestStep {done : List (Nat × Quotation)} {i : Nat}
    (hdone : ∀ q ∈ done, q.1 < i) : ∀ ns : List Node,
    ∃ new : List (Nat × Quotation),
      ((Paragraph.quotePairs i ns).map QuotePair.marks).foldl nestStep done = new.reverse ++ done ∧
      new.map Prod.snd = Paragraph.quotations Revisable.original ns ∧
      ∀ q ∈ new, i ≤ q.1 ∧ q.1 < i + Paragraph.size ns
  | [] => ⟨[], by rw [Paragraph.quotePairs]; rfl, by rw [Paragraph.quotations]; rfl, nofun⟩
  | n :: ns => by
    obtain ⟨new, hfold, hnew, hindex⟩ := Node.foldl_nestStep hdone n
    have hdone' : ∀ q ∈ new.reverse ++ done, q.1 < i + n.size := by
      intro q hq
      rcases List.mem_append.mp hq with hq | hq
      · exact (hindex q (List.mem_reverse.mp hq)).2
      · have := hdone q hq
        omega
    obtain ⟨new', hfold', hnew', hindex'⟩ := Paragraph.foldl_nestStep hdone' ns
    refine ⟨new ++ new', ?_, ?_, ?_⟩
    · rw [Paragraph.quotePairs, List.map_append, List.foldl_append, hfold, hfold',
        List.reverse_append, List.append_assoc]
    · rw [Paragraph.quotations, List.map_append, hnew, hnew']
    · rw [Paragraph.size_cons]
      refine List.forall_mem_append.mpr ⟨fun q hq => ?_, fun q hq => ?_⟩
      · have := hindex q hq
        omega
      · have := hindex' q hq
        omega

end

namespace Paragraph

/-- The pairs of a paragraph have its quotations. -/
theorem nestOf_quotePairs (ns : List Node) :
    nestOf ((quotePairs 0 ns).map QuotePair.marks) = quotations Revisable.original ns := by
  obtain ⟨new, hfold, hnew, -⟩ := @foldl_nestStep [] 0 nofun ns
  rw [nestOf, hfold, List.append_nil, List.reverse_reverse, hnew]

/-- **The same pairs make the same quotations.** -/
theorem quotations_eq_of_marks {ns ms : List Node}
    (h : (quotePairs 0 ns).map QuotePair.marks = (quotePairs 0 ms).map QuotePair.marks) :
    quotations Revisable.original ns = quotations Revisable.original ms := by
  rw [← nestOf_quotePairs, h, nestOf_quotePairs]

end Paragraph

end CjkProse
