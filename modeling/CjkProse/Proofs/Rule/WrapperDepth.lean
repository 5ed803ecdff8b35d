import CjkProse.Format
import CjkProse.Proofs.Rule.Gaps
import Mathlib.Data.List.Perm.Subperm

/-!
# How deep a space is inside of wrappers

A gap between two nodes that are seen has a place after each of the nodes that it is made up of, and
these places differ in how many wrappers are open there.  A rule puts its space after the ends of
wrappers that come first in the gap.  That is the least depth in the gap if the wrappers there end
first and start then.  But in well nested text there may also be an empty wrapper in the gap, and
where the end of another one comes after it, the least depth is further right.  It is then a wrapper
around the left neighbour alone that the space is put into.

## Main definitions

* `wrapperDepth` — how many wrappers are open in front of an index.
* `openBefore` — the wrappers that are open there.
* `WellNested` — every end has a start before it, and every start an end after it.

## Main results

* `WellNested.length_openBefore` — the depth is the number of open wrappers.
* `suffix_openBefore` — wrappers stay open as long as the depth is not less than their number.
* `spaceHolder_depth` — **a space is put where the depth is least just if it is put into no wrapper
  that leaves a neighbour out, and so it is if no wrapper in the gap is empty.**
* `not_spaceHolder_depth` — if one is, this may fail.
-/

namespace CjkProse

open Neighbours

/-! ### Depth -/

/-- How many wrappers are open in front of an index: the starts before it, without the ends. -/
def wrapperDepth (nodes : List Node) (k : Nat) : Int :=
  ((nodes.take k).countP Node.isOpening : Int) - (nodes.take k).countP Node.isClosing

/-- The starts of the wrappers that are open in front of an index, by their indexes.  The innermost
one comes first. -/
def openBefore (nodes : List Node) : Nat → List Nat
  | 0 => []
  | k + 1 =>
    if nodes[k]?.any Node.isOpening then k :: openBefore nodes k
    else if nodes[k]?.any Node.isClosing then (openBefore nodes k).tail
    else openBefore nodes k

/-- The wrappers of a list are well nested: every end has a start before it, and every start an end
after it. -/
structure WellNested (nodes : List Node) : Prop where
  /-- Where a wrapper ends one is open. -/
  ends : ∀ k < nodes.length, nodes[k]?.any Node.isClosing = true → openBefore nodes k ≠ []
  /-- None is open at the end. -/
  closed : openBefore nodes nodes.length = []

instance (nodes : List Node) : Decidable (WellNested nodes) :=
  decidable_of_iff
    ((∀ k < nodes.length, nodes[k]?.any Node.isClosing = true → openBefore nodes k ≠ []) ∧
      openBefore nodes nodes.length = [])
    ⟨fun h => ⟨h.1, h.2⟩, fun h => ⟨h.ends, h.closed⟩⟩

section Depth

variable {nodes : List Node} {k p q s : Nat}

theorem not_isClosing_of_isOpening {n : Node} (h : n.isOpening = true) : n.isClosing = false := by
  cases n with
  | event e s a =>
    have hkind : e.kind = .opening := by simpa [Node.isOpening, Node.isEventOf] using h
    simp [Node.isClosing, Node.isEventOf, hkind]
  | char v a => cases h
  | half v a => cases h
  | full v a => cases h
  | group o inner ns c a => cases h

theorem openBefore_of_isOpening (h : nodes[k]?.any Node.isOpening = true) :
    openBefore nodes (k + 1) = k :: openBefore nodes k := if_pos h

theorem openBefore_of_isClosing (h : nodes[k]?.any Node.isClosing = true) :
    openBefore nodes (k + 1) = (openBefore nodes k).tail := by
  have hopening : ¬ nodes[k]?.any Node.isOpening = true := by
    obtain ⟨n, hn, hclosing⟩ := (Option.any_eq_true _ _).mp h
    rw [hn, Option.any_some]
    intro hopening
    rw [not_isClosing_of_isOpening hopening] at hclosing
    cases hclosing
  rw [openBefore, if_neg hopening, if_pos h]

theorem openBefore_of_seen (h : isWrapperAt nodes k = false) :
    openBefore nodes (k + 1) = openBefore nodes k := by
  have hnot : ∀ p : Node → Bool, (∀ n, p n = true → n.isWrapper = true) →
      ¬ nodes[k]?.any p = true := by
    intro p hp hany
    obtain ⟨n, hn, hpn⟩ := (Option.any_eq_true _ _).mp hany
    rw [isWrapperAt, hn, Option.any_some, hp n hpn] at h
    cases h
  rw [openBefore, if_neg (hnot _ fun n hn => by rw [Node.isWrapper, hn, Bool.true_or]),
    if_neg (hnot _ fun n hn => by rw [Node.isWrapper, hn, Bool.or_true])]

/-- The wrappers that are open start before. -/
theorem lt_of_mem_openBefore (h : s ∈ openBefore nodes k) : s < k := by
  induction k with
  | zero => cases h
  | succ k ih =>
    rw [openBefore] at h
    split at h
    · rcases List.mem_cons.mp h with rfl | h
      · exact Nat.lt_succ_self s
      · exact Nat.lt_succ_of_lt (ih h)
    · split at h
      · exact Nat.lt_succ_of_lt (ih (List.mem_of_mem_tail h))
      · exact Nat.lt_succ_of_lt (ih h)

theorem nodup_openBefore (nodes : List Node) (k : Nat) : (openBefore nodes k).Nodup := by
  induction k with
  | zero => exact List.nodup_nil
  | succ k ih =>
    rw [openBefore]
    split
    · refine List.nodup_cons.mpr ⟨fun hmem => ?_, ih⟩
      exact Nat.lt_irrefl k (lt_of_mem_openBefore hmem)
    · split
      · exact ih.tail
      · exact ih

/-- A wrapper that is open further right and starts before an index is open at the index. -/
theorem mem_openBefore_of_lt (hpq : p ≤ q) (h : s ∈ openBefore nodes q) (hs : s < p) :
    s ∈ openBefore nodes p := by
  induction hpq with
  | refl => exact h
  | @step q hpq ih =>
    rw [openBefore] at h
    split at h
    · rcases List.mem_cons.mp h with rfl | h
      · exact absurd hs (Nat.not_lt.mpr hpq)
      · exact ih h
    · split at h
      · exact ih (List.mem_of_mem_tail h)
      · exact ih h

/-- Wrappers stay open as long as not fewer are. -/
theorem suffix_openBefore {t : List Nat} (hpq : p ≤ q) (h : t <:+ openBefore nodes p)
    (le : ∀ k, p ≤ k → k ≤ q → t.length ≤ (openBefore nodes k).length) :
    t <:+ openBefore nodes q := by
  induction hpq with
  | refl => exact h
  | @step q hpq ih =>
    have ih := ih fun k hpk hkq => le k hpk (Nat.le_succ_of_le hkq)
    have hle := le (q + 1) (Nat.le_succ_of_le hpq) (Nat.le_refl _)
    rw [openBefore] at hle ⊢
    split
    · exact ih.trans (List.suffix_cons _ _)
    · next hopening =>
      rw [if_neg hopening] at hle
      split
      · next hclosing =>
        rw [if_pos hclosing] at hle
        exact List.suffix_of_suffix_length_le ih (List.tail_suffix _) hle
      · exact ih

/-- The depth from one index to the next. -/
theorem wrapperDepth_succ (hk : k < nodes.length) :
    wrapperDepth nodes (k + 1) = wrapperDepth nodes k +
      (if nodes[k]?.any Node.isOpening then 1 else 0) -
        (if nodes[k]?.any Node.isClosing then 1 else 0) := by
  have hcount : ∀ p : Node → Bool, ((nodes.take (k + 1)).countP p : Int) =
      (nodes.take k).countP p + if nodes[k]?.any p then 1 else 0 := by
    intro p
    rw [List.take_add_one, List.countP_append, List.getElem?_eq_getElem hk, Option.toList_some,
      List.countP_singleton, Option.any_some]
    split <;> simp
  rw [wrapperDepth, wrapperDepth, hcount, hcount]
  omega

/-- **The depth is the number of open wrappers.** -/
theorem WellNested.length_openBefore (nested : WellNested nodes) (hk : k ≤ nodes.length) :
    ((openBefore nodes k).length : Int) = wrapperDepth nodes k := by
  induction k with
  | zero => rfl
  | succ k ih =>
    have ih := ih (Nat.le_of_succ_le hk)
    rw [wrapperDepth_succ hk, ← ih]
    cases hopening : nodes[k]?.any Node.isOpening with
    | true =>
      have hclosing : nodes[k]?.any Node.isClosing = false := by
        obtain ⟨n, hn, hopening⟩ := (Option.any_eq_true _ _).mp hopening
        rw [hn, Option.any_some, not_isClosing_of_isOpening hopening]
      rw [openBefore_of_isOpening hopening, hclosing]
      simp
    | false =>
      cases hclosing : nodes[k]?.any Node.isClosing with
      | true =>
        -- the end has a start before it
        have hpos := List.length_pos_iff.mpr (nested.ends k hk hclosing)
        rw [openBefore_of_isClosing hclosing, List.length_tail]
        simp
        omega
      | false => simp [openBefore, hopening, hclosing]

end Depth

/-! ### The depth of a gap -/

section Gap

variable {nodes : List Node} {l h r p q : Nat}

/-- From the left node to the place of the space wrappers only end. -/
theorem Gap.suffix_openBefore (gap : Gap nodes l h r) (hlp : l ≤ p) (hpq : p ≤ q)
    (hq : q ≤ h + 1) : openBefore nodes q <:+ openBefore nodes p := by
  induction hpq with
  | refl => exact List.suffix_refl _
  | @step q hpq ih =>
    have ih := ih (Nat.le_of_succ_le hq)
    rcases Nat.eq_or_lt_of_le (Nat.le_trans hlp hpq) with rfl | hlq
    · rw [openBefore_of_seen gap.left]
      exact ih
    · have hclosing := isClosing_of_le_gapHolder (Nat.le_of_lt gap.lt_length) hlq
        (gap.holder ▸ Nat.le_of_succ_le_succ hq)
      rw [openBefore_of_isClosing hclosing]
      exact (List.tail_suffix _).trans ih

/-- If no wrapper in the gap is empty, wrappers only start from there to the right node. -/
theorem Gap.isOpening_of_not_empty (gap : Gap nodes l h r)
    (full : ∀ k, l < k → k + 1 < r → nodes[k]?.any Node.isOpening = true →
      nodes[k + 1]?.any Node.isClosing = false) (hhp : h < p) (hpr : p < r) :
    nodes[p]?.any Node.isOpening = true := by
  -- a wrapper that does not end starts
  have hopening : ∀ k, l < k → k < r → nodes[k]?.any Node.isClosing = false →
      nodes[k]?.any Node.isOpening = true := by
    intro k hlk hkr hclosing
    obtain ⟨n, hn, hwrapper⟩ := (Option.any_eq_true _ _).mp (gap.between hlk hkr)
    rw [hn, Option.any_some] at hclosing ⊢
    rwa [Node.isWrapper, hclosing, Bool.or_false] at hwrapper
  induction hhp with
  | refl =>
    apply hopening (h + 1) (Nat.lt_succ_of_le gap.le_holder) hpr
    have hstop := not_isClosing_after_gapHolder (Nat.le_of_lt gap.lt_length) (gap.holder ▸ hpr)
    rwa [gap.holder] at hstop
  | @step p hhp ih =>
    have hlp : l < p := Nat.lt_of_le_of_lt gap.le_holder hhp
    exact hopening (p + 1) (Nat.lt_succ_of_lt hlp) hpr
      (full p hlp hpr (ih (Nat.lt_of_succ_lt hpr)))

/-- So the depth grows from there to the right node. -/
theorem Gap.suffix_of_not_empty (gap : Gap nodes l h r)
    (full : ∀ k, l < k → k + 1 < r → nodes[k]?.any Node.isOpening = true →
      nodes[k + 1]?.any Node.isClosing = false) (hhp : h < p) (hpr : p ≤ r) :
    openBefore nodes (h + 1) <:+ openBefore nodes p := by
  induction hhp with
  | refl => exact List.suffix_refl _
  | @step p hhp ih =>
    rw [openBefore_of_isOpening (gap.isOpening_of_not_empty full hhp hpr)]
    exact (ih (Nat.le_of_succ_le hpr)).trans (List.suffix_cons _ _)

/-- The depth at the place of the space is the least one just if all wrappers that are open there
are open at the right node. -/
theorem Gap.forall_wrapperDepth_le_iff (gap : Gap nodes l h r) (nested : WellNested nodes) :
    (∀ p, l < p → p ≤ r → wrapperDepth nodes (h + 1) ≤ wrapperDepth nodes p) ↔
      ∀ s ∈ openBefore nodes (h + 1), s ∈ openBefore nodes r := by
  have hlength : ∀ {p}, p ≤ r → ((openBefore nodes p).length : Int) = wrapperDepth nodes p :=
    fun hp => nested.length_openBefore (Nat.le_trans hp (Nat.le_of_lt gap.lt_length))
  have hplace : h + 1 ≤ r := gap.holder_lt
  constructor
  · intro hleast s hs
    refine (CjkProse.suffix_openBefore hplace (List.suffix_refl _) fun p hhp hpr => ?_).subset hs
    have hle := hleast p (Nat.lt_of_le_of_lt gap.le_holder hhp) hpr
    rw [← hlength hplace, ← hlength hpr] at hle
    exact Int.ofNat_le.mp hle
  · intro hopen p hlp hpr
    rw [← hlength hplace, ← hlength hpr, Int.ofNat_le]
    rcases Nat.lt_or_ge h p with hhp | hph
    · -- the wrappers that are open at the place are open all along
      have hsub : openBefore nodes (h + 1) ⊆ openBefore nodes p := fun s hs =>
        mem_openBefore_of_lt hpr (hopen s hs) (Nat.lt_of_lt_of_le (lt_of_mem_openBefore hs) hhp)
      exact (List.subperm_of_subset (nodup_openBefore nodes (h + 1)) hsub).length_le
    · exact (gap.suffix_openBefore (Nat.le_of_lt hlp) (Nat.le_succ_of_le hph)
        (Nat.le_refl _)).length_le

end Gap

/-- **Where a space is put.**  In a list with well nested wrappers, both neighbours of a gap have the
same owner for it.  The depth after this owner is the least one in the gap just if no wrapper is
open there that leaves a neighbour out; and so it is if no wrapper in the gap is empty. -/
theorem spaceHolder_depth {nodes : List Node} (nested : WellNested nodes) {i j : Nat} (hij : i < j)
    (hj : j < nodes.length) (left : isWrapperAt nodes i = false)
    (right : isWrapperAt nodes j = false)
    (between : ∀ k, i < k → k < j → isWrapperAt nodes k = true) :
    ∃ h, spaceAfterHolder? nodes i = some h ∧ spaceBeforeHolder? nodes j = some h ∧
      ((∀ p, i < p → p ≤ j → wrapperDepth nodes (h + 1) ≤ wrapperDepth nodes p) ↔
        ∀ s ∈ openBefore nodes (h + 1), s ∈ openBefore nodes i ∧ s ∈ openBefore nodes j) ∧
      ((∀ k, i < k → k + 1 < j → nodes[k]?.any Node.isOpening = true →
          nodes[k + 1]?.any Node.isClosing = false) →
        ∀ p, i < p → p ≤ j → wrapperDepth nodes (h + 1) ≤ wrapperDepth nodes p) := by
  have gap : Gap nodes i (gapHolder nodes i j) j :=
    ⟨left, visibleAfter?_eq_some hij hj right between, rfl⟩
  refine ⟨_, gap.spaceAfterHolder?, gap.spaceBeforeHolder?, ?_, fun full => ?_⟩
  · rw [gap.forall_wrapperDepth_le_iff nested]
    refine forall₂_congr fun s hs => (and_iff_right ?_).symm
    exact (gap.suffix_openBefore (Nat.le_refl i) (Nat.le_succ_of_le gap.le_holder)
      (Nat.le_refl _)).subset hs
  · rw [gap.forall_wrapperDepth_le_iff nested]
    exact fun s hs => (gap.suffix_of_not_empty full gap.holder_lt (Nat.le_refl j)).subset hs

/-- The nodes of `**a**[中](u)`. -/
def strongThenLink : List Node :=
  [.event ⟨.opening, "strong", []⟩ ⟨0, 2⟩ ⟨[], ⟨2, 2⟩, none⟩,
    .half ⟨['a'], ⟨2, 3⟩, none⟩ ⟨[], ⟨3, 3⟩, none⟩,
    .event ⟨.closing, "strong", []⟩ ⟨3, 5⟩ ⟨[], ⟨5, 5⟩, none⟩,
    .event ⟨.opening, "link", []⟩ ⟨5, 6⟩ ⟨[], ⟨6, 6⟩, none⟩,
    .full ⟨['中'], ⟨6, 9⟩, none⟩ ⟨[], ⟨9, 9⟩, none⟩,
    .event ⟨.closing, "link", []⟩ ⟨9, 13⟩ ⟨[], ⟨13, 13⟩, none⟩]

/-- The conclusion of `spaceHolder_depth` where one wrapper ends and another starts.  A space is put
between the two. -/
theorem spaceHolder_depth_between :
    spaceAfterHolder? strongThenLink 1 = some 2 ∧
      ∀ p, 1 < p → p ≤ 4 → wrapperDepth strongThenLink 3 ≤ wrapperDepth strongThenLink p := by
  obtain ⟨h, hafter, -, -, hleast⟩ :=
    @spaceHolder_depth strongThenLink (by decide) 1 4 (by decide) (by decide) rfl rfl
      (fun k hk hk' => by
        have : k = 2 ∨ k = 3 := by omega
        rcases this with rfl | rfl <;> rfl)
  obtain rfl : 2 = h := Option.some.inj hafter
  refine ⟨rfl, hleast fun k hk hk' hopening => ?_⟩
  obtain rfl : k = 2 := by omega
  cases hopening

/-- If a wrapper in the gap is empty, a space may be put where the depth is not the least one.
Below an empty link comes before the end of the emphasis, and the space before the code is put into
the emphasis, which the code is not in. -/
theorem not_spaceHolder_depth :
    let source : Text := ['*', '*', 'a', '[', ']', '(', 'u', ')', '*', '*', '`', 'b', '`']
    (∃ nodes ∈ paragraphsOf (readEvents (markupEvents source (Markdown.parse source))),
        WellNested nodes ∧ nodes.length = 6 ∧
          (∀ k < 6, isWrapperAt nodes k = !(k == 1 || k == 5)) ∧
          spaceAfterHolder? nodes 1 = some 1 ∧ spaceBeforeHolder? nodes 5 = some 1 ∧
          wrapperDepth nodes 5 < wrapperDepth nodes 2 ∧
          0 ∈ openBefore nodes 2 ∧ 0 ∉ openBefore nodes 5) ∧
      (formatText source .default).toOption =
        some ['*', '*', 'a', ' ', '[', ']', '(', 'u', ')', '*', '*', '`', 'b', '`'] := by
  intro source
  exact ⟨by decide +kernel, by decide +kernel⟩

end CjkProse
