import CjkProse.Proofs.Rule.Matching
import CjkProse.Proofs.Rule.Writes

/-!
# Pairs of brackets

The right bracket of a left one is looked for from the left, and the left bracket of a right one from
the right.  Both scans are about the nodes in between, and those nest: what the counts call balanced
is what the grammar of brackets derives.

## Main definitions

* `WellBracketed` — the lists of nodes in which every bracket has its other one, by their grammar.
* `Pairs` — a left bracket and a right one with nested brackets between them.
* `Laminar` — two pairs that are equal, apart, or one inside the other.

## Main results

* `balanced_iff_wellBracketed` — counting agrees with the grammar.
* `Pairs.laminar` — no two pairs cross.
* `matching_inverse` — **the two scans find the same pairs, with nested brackets in between, whether
  or not all brackets of a list have their other one.**
-/

namespace CjkProse

/-- Lists of nodes in which every bracket has its other one, and pairs of brackets do not cross. -/
inductive WellBracketed : List Node → Prop
  /-- No brackets. -/
  | nil : WellBracketed []
  /-- One more node that is no bracket. -/
  | plain {n : Node} {ns : List Node} (side : n.side? = none) (rest : WellBracketed ns) :
      WellBracketed (n :: ns)
  /-- A left bracket and its right one around some nodes, and more nodes after them. -/
  | pair {l r : Node} {ns ms : List Node} (left : l.side? = some .left)
      (right : r.side? = some .right) (inside : WellBracketed ns) (rest : WellBracketed ms) :
      WellBracketed (l :: ns ++ r :: ms)

/-- A left bracket and a right one are a pair: what stands between them is nested. -/
structure Pairs (nodes : List Node) (i j : Nat) : Prop where
  lt : i < j
  left : nodes[i]?.any (Node.isCharAnd isLeftBracket) = true
  right : nodes[j]?.any (Node.isCharAnd isRightBracket) = true
  inside : WellBracketed (between nodes i j)

/-- Two pairs of indexes are equal, one comes before the other, or one is inside the other. -/
def Laminar (i j i' j' : Nat) : Prop :=
  (i = i' ∧ j = j') ∨ j < i' ∨ j' < i ∨ (i < i' ∧ j' < j) ∨ (i' < i ∧ j < j')

/-! ### The count and the grammar -/

section Count

variable {depth d : Nat} {ns ms : List Node}

theorem openAfter_append :
    openAfter depth (ns ++ ms) = (openAfter depth ns).bind fun d => openAfter d ms := by
  unfold openAfter
  rw [List.map_append, List.foldlM_append]
  rfl

/-- More open brackets in front of a list stay open behind it. -/
theorem openAfter_add {k : Nat} (h : openAfter depth ns = some d) :
    openAfter (depth + k) ns = some (d + k) := by
  induction ns generalizing depth with
  | nil =>
    obtain rfl := Option.some.inj h
    rfl
  | cons n ns ih =>
    rw [openAfter_cons] at h ⊢
    cases hside : n.side? with
    | none =>
      rw [hside] at h
      exact ih h
    | some side =>
      rw [hside] at h
      cases side with
      | left =>
        have hstep : depth + k + 1 = depth + 1 + k := by omega
        rw [bracketStep, Option.bind_some, hstep]
        exact ih h
      | right =>
        cases depth with
        | zero => cases h
        | succ depth =>
          have hstep : depth + 1 + k = depth + k + 1 := by omega
          rw [hstep]
          exact ih h

/-- The bracket that closes what was open in front of a list splits the list. -/
theorem exists_append_of_openAfter (h : openAfter (depth + 1) ns = some 0) :
    ∃ as r bs, ns = as ++ r :: bs ∧ r.side? = some .right ∧ openAfter depth as = some 0 ∧
      Balanced bs := by
  induction ns generalizing depth with
  | nil => cases h
  | cons n ns ih =>
    rw [openAfter_cons] at h
    cases hside : n.side? with
    | none =>
      rw [hside] at h
      obtain ⟨as, r, bs, rfl, hr, has, hbs⟩ := ih h
      refine ⟨n :: as, r, bs, rfl, hr, ?_, hbs⟩
      rw [openAfter_cons, hside]
      exact has
    | some side =>
      rw [hside] at h
      cases side with
      | left =>
        obtain ⟨as, r, bs, rfl, hr, has, hbs⟩ := ih h
        refine ⟨n :: as, r, bs, rfl, hr, ?_, hbs⟩
        rw [openAfter_cons, hside]
        exact has
      | right =>
        cases depth with
        | zero => exact ⟨[], n, ns, rfl, hside, rfl, h⟩
        | succ depth =>
          obtain ⟨as, r, bs, rfl, hr, has, hbs⟩ := ih h
          refine ⟨n :: as, r, bs, rfl, hr, ?_, hbs⟩
          rw [openAfter_cons, hside]
          exact has

/-- Nested brackets leave the count as it was. -/
theorem WellBracketed.openAfter_eq (h : WellBracketed ns) : openAfter depth ns = some depth := by
  induction h generalizing depth with
  | nil => rfl
  | plain side _ ih =>
    rw [openAfter_cons, side]
    exact ih
  | pair left right _ _ ihInside ihRest =>
    rw [List.cons_append, openAfter_cons, left, bracketStep, Option.bind_some, openAfter_append,
      ihInside, Option.bind_some, openAfter_cons, right]
    exact ihRest

/-- Brackets that are balanced in number and order are nested: induction on the length, since the
first left bracket and its right one leave two shorter lists. -/
theorem wellBracketed_of_balanced : ∀ (ns : List Node), Balanced ns → WellBracketed ns
  | [], _ => .nil
  | n :: ns, h => by
    rw [Balanced, openAfter_cons] at h
    cases hside : n.side? with
    | none =>
      rw [hside] at h
      exact .plain hside (wellBracketed_of_balanced ns h)
    | some side =>
      rw [hside] at h
      cases side with
      | left =>
        obtain ⟨as, r, bs, rfl, hr, has, hbs⟩ := exists_append_of_openAfter h
        exact .pair hside hr (wellBracketed_of_balanced as has) (wellBracketed_of_balanced bs hbs)
      | right => cases h
  termination_by ns => ns.length
  decreasing_by all_goals subst_vars; simp; try omega

theorem balanced_iff_wellBracketed : Balanced ns ↔ WellBracketed ns :=
  ⟨wellBracketed_of_balanced ns, WellBracketed.openAfter_eq⟩

end Count

/-! ### Two pairs -/

section Pairs

variable {nodes : List Node} {i j k i' j' : Nat}

/-- The nodes between two indexes, cut at an index in between. -/
theorem between_append (hij : i < k) (hkj : k < j) (hk : k < nodes.length) :
    between nodes i j = between nodes i k ++ nodes[k] :: between nodes k j := by
  have hlen : k < (nodes.take j).length := by
    rw [List.length_take]
    omega
  have htake : nodes.take j = nodes.take k ++ nodes[k] :: (nodes.take j).drop (k + 1) := by
    have hcut := List.take_append_drop k (nodes.take j)
    rw [List.take_take, Nat.min_eq_left (Nat.le_of_lt hkj), List.drop_eq_getElem_cons hlen,
      List.getElem_take] at hcut
    exact hcut.symm
  have hle : i + 1 ≤ (nodes.take k).length := by
    rw [List.length_take]
    omega
  have hdrop := congrArg (List.drop (i + 1)) htake
  rw [List.drop_append_of_le_length hle] at hdrop
  exact hdrop

theorem matchingRight?_eq_some_iff_pairs
    (h : nodes[i]?.any (Node.isCharAnd isLeftBracket) = true) :
    matchingRight? nodes i = some j ↔ Pairs nodes i j := by
  rw [matchingRight?_eq_some_iff, balanced_iff_wellBracketed]
  exact ⟨fun ⟨lt, right, inside⟩ => ⟨lt, h, right, inside⟩,
    fun pair => ⟨pair.lt, pair.right, pair.inside⟩⟩

theorem matchingLeft?_eq_some_iff_pairs
    (h : nodes[j]?.any (Node.isCharAnd isRightBracket) = true) :
    matchingLeft? nodes j = some i ↔ Pairs nodes i j := by
  rw [matchingLeft?_eq_some_iff (Nat.le_of_lt (lt_length_of_any h)), balanced_iff_wellBracketed]
  exact ⟨fun ⟨lt, left, inside⟩ => ⟨lt, left, h, inside⟩,
    fun pair => ⟨pair.lt, pair.left, pair.inside⟩⟩

namespace Pairs

/-- Inside of a pair some brackets may be open, but none is closed that was open before. -/
theorem openAfter_of_le (h : Pairs nodes i j) (hi : i < k) (hk : k ≤ j) :
    ∃ d, openAfter 0 (between nodes i k) = some d := by
  rcases Nat.lt_or_eq_of_le hk with hlt | rfl
  · have hlen := Nat.lt_trans hlt (lt_length_of_any h.right)
    have hopen : openAfter 0 (between nodes i j) = some 0 := h.inside.openAfter_eq
    rw [between_append hi hlt hlen, openAfter_append, Option.bind_eq_some_iff] at hopen
    obtain ⟨d, hd, -⟩ := hopen
    exact ⟨d, hd⟩
  · exact ⟨0, h.inside.openAfter_eq⟩

/-- A pair that begins inside of another one ends there too: else its left bracket were still open
where the outer pair ends. -/
theorem lt_of_lt (h : Pairs nodes i j) (h' : Pairs nodes i' j') (hi : i < i') (hj : i' < j) :
    j' < j := by
  refine Nat.lt_of_not_le fun hle => ?_
  obtain ⟨d, hd⟩ := h'.openAfter_of_le hj hle
  have hlen := lt_length_of_any h'.left
  have hside : nodes[i'].side? = some .left := by
    have hleft := h'.left
    rw [List.getElem?_eq_getElem hlen] at hleft
    exact Node.side?_eq_left.mpr hleft
  have hopen : openAfter 0 (between nodes i j) = some 0 := h.inside.openAfter_eq
  rw [between_append hi hj hlen, openAfter_append, Option.bind_eq_some_iff] at hopen
  obtain ⟨e, -, he⟩ := hopen
  rw [openAfter_cons, hside, bracketStep, Option.bind_some] at he
  have hadd := openAfter_add (k := e + 1) hd
  rw [Nat.zero_add, he] at hadd
  have hzero := Option.some.inj hadd
  omega

/-- The left bracket of a pair is not the right one of another. -/
theorem ne_right (h : Pairs nodes i j) (h' : Pairs nodes i' j') : j ≠ i' := by
  rintro rfl
  obtain ⟨n, hn, hright⟩ := (Option.any_eq_true _ _).mp h.right
  obtain ⟨m, hm, hleft⟩ := (Option.any_eq_true _ _).mp h'.left
  obtain rfl := Option.some.inj (hn.symm.trans hm)
  rw [Node.isRightBracket_of_left hleft] at hright
  cases hright

/-- No two pairs cross. -/
theorem laminar (h : Pairs nodes i j) (h' : Pairs nodes i' j') : Laminar i j i' j' := by
  rcases Nat.lt_trichotomy i i' with hlt | rfl | hgt
  · rcases Nat.lt_or_gt_of_ne (h.ne_right h') with hbefore | hinside
    · exact .inr (.inl hbefore)
    · exact .inr (.inr (.inr (.inl ⟨hlt, h.lt_of_lt h' hlt hinside⟩)))
  · have hj := (matchingRight?_eq_some_iff_pairs h.left).mpr h
    rw [(matchingRight?_eq_some_iff_pairs h.left).mpr h'] at hj
    exact .inl ⟨rfl, (Option.some.inj hj).symm⟩
  · rcases Nat.lt_or_gt_of_ne (h'.ne_right h) with hbefore | hinside
    · exact .inr (.inr (.inl hbefore))
    · exact .inr (.inr (.inr (.inr ⟨hgt, h'.lt_of_lt h hgt hinside⟩)))

end Pairs

/-- Bracket matching is mutually inverse, for every list of nodes, whether or not all brackets of it
have their other one.  Both scans find the pairs with nested brackets in between: a bracket that
belongs to no pair has no match, and no two pairs cross. -/
theorem matching_inverse (nodes : List Node) :
    (∀ i j, nodes[i]?.any (Node.isCharAnd isLeftBracket) = true →
      nodes[j]?.any (Node.isCharAnd isRightBracket) = true →
        (matchingRight? nodes i = some j ↔ matchingLeft? nodes j = some i)) ∧
    (∀ i, nodes[i]?.any (Node.isCharAnd isLeftBracket) = true →
      (∀ j, matchingRight? nodes i = some j ↔ Pairs nodes i j) ∧
      (matchingRight? nodes i = none ↔ ∀ j, ¬ Pairs nodes i j)) ∧
    (∀ j, nodes[j]?.any (Node.isCharAnd isRightBracket) = true →
      (∀ i, matchingLeft? nodes j = some i ↔ Pairs nodes i j) ∧
      (matchingLeft? nodes j = none ↔ ∀ i, ¬ Pairs nodes i j)) ∧
    ∀ i j i' j', Pairs nodes i j → Pairs nodes i' j' → Laminar i j i' j' := by
  refine ⟨fun i j hi hj => ?_, fun i hi => ⟨fun j => matchingRight?_eq_some_iff_pairs hi, ?_⟩,
    fun j hj => ⟨fun i => matchingLeft?_eq_some_iff_pairs hj, ?_⟩,
    fun i j i' j' h h' => h.laminar h'⟩
  · rw [matchingRight?_eq_some_iff_pairs hi, matchingLeft?_eq_some_iff_pairs hj]
  · simp only [Option.eq_none_iff_forall_ne_some, ne_eq, matchingRight?_eq_some_iff_pairs hi]
  · simp only [Option.eq_none_iff_forall_ne_some, ne_eq, matchingLeft?_eq_some_iff_pairs hj]

end Pairs

/-- The brackets of `)（[)](`: the first and the last one have no other one, and the widths and
shapes of the others do not agree. -/
def unevenBrackets : List Node :=
  [.char ⟨')', ⟨0, 1⟩, none⟩ ⟨[], ⟨1, 1⟩, none⟩, .char ⟨'（', ⟨1, 4⟩, none⟩ ⟨[], ⟨4, 4⟩, none⟩,
    .char ⟨'[', ⟨4, 5⟩, none⟩ ⟨[], ⟨5, 5⟩, none⟩, .char ⟨')', ⟨5, 6⟩, none⟩ ⟨[], ⟨6, 6⟩, none⟩,
    .char ⟨']', ⟨6, 7⟩, none⟩ ⟨[], ⟨7, 7⟩, none⟩, .char ⟨'(', ⟨7, 8⟩, none⟩ ⟨[], ⟨8, 8⟩, none⟩]

/-- The conclusion of `matching_inverse` at those brackets: two nested pairs, found from both sides,
and two brackets without a match. -/
theorem matching_inverse_uneven :
    matchingLeft? unevenBrackets 4 = some 1 ∧ matchingLeft? unevenBrackets 3 = some 2 ∧
      Pairs unevenBrackets 1 4 ∧ Pairs unevenBrackets 2 3 ∧ Laminar 1 4 2 3 ∧
      (∀ i, ¬ Pairs unevenBrackets i 0) ∧ ∀ j, ¬ Pairs unevenBrackets 5 j := by
  obtain ⟨hinverse, hright, hleft, hlaminar⟩ := matching_inverse unevenBrackets
  have houter := ((hright 1 (by decide)).1 4).mp (by decide)
  have hinner := ((hright 2 (by decide)).1 3).mp (by decide)
  exact ⟨(hinverse 1 4 (by decide) (by decide)).mp (by decide),
    (hinverse 2 3 (by decide) (by decide)).mp (by decide), houter, hinner,
    hlaminar 1 4 2 3 houter hinner, (hleft 0 (by decide)).2.mp (by decide),
    (hright 5 (by decide)).2.mp (by decide)⟩

end CjkProse
