import CjkProse.Rule.Enclosures

/-!
# Matching brackets

The other bracket of a pair is found by counting, from the left or from the right.  Both counts are
about the nodes in between: a left and a right bracket are a pair when the brackets between them are
balanced.

## Main definitions

* `Node.side?` — the side of a bracket.
* `bracketStep` — the number of open brackets after one more node.
* `between` — the nodes strictly between two indexes.
* `Balanced` — every bracket has its other one.
* `OpensAt` — the brackets that are open somewhere.

## Main results

* `matchingRight?_eq_some_iff`, `matchingLeft?_eq_some_iff` — the other bracket of a pair, by what
  stands between them.
* `balanced_between_of_map_side?` — only the brackets of a list matter.
-/

namespace CjkProse

/-- The sides of brackets. -/
inductive Side
  /-- It opens. -/
  | left
  /-- It closes. -/
  | right
  deriving DecidableEq, Repr

/-- The side of a bracket. -/
def Node.side? (n : Node) : Option Side :=
  if n.isCharAnd isLeftBracket then some .left
  else if n.isCharAnd isRightBracket then some .right
  else none

/-- How many brackets are open after one more node, if `depth` are open before it. -/
def bracketStep (depth : Nat) : Option Side → Option Nat
  | some .left => some (depth + 1)
  | some .right =>
    match depth with
    | 0 => none
    | d + 1 => some d
  | none => some depth

/-- How many brackets are open after some nodes, if `depth` are open before them. -/
def openAfter (depth : Nat) (ns : List Node) : Option Nat :=
  (ns.map Node.side?).foldlM bracketStep depth

/-- Each bracket among some nodes has its other one among them. -/
def Balanced (ns : List Node) : Prop := openAfter 0 ns = some 0

/-- The nodes strictly between two indexes. -/
def between (nodes : List Node) (i j : Nat) : List Node := (nodes.take j).drop (i + 1)

/-! ### Sides -/

/-- No bracket closes what it opens. -/
theorem isRightBracket_of_isLeftBracket {c : Char} (h : isLeftBracket c = true) :
    isRightBracket c = false := by
  unfold isLeftBracket isBracket isLeft at h
  unfold isRightBracket isBracket isRight
  cases hc : CharKind.of c with
  | chineseLeftBracket => rfl
  | westernLeftBracket => rfl
  | _ => simp [hc, CharKind.isBracket, CharKind.isLeft] at h

namespace Node

variable {n : Node}

theorem isRightBracket_of_left (h : n.isCharAnd isLeftBracket = true) :
    n.isCharAnd isRightBracket = false := by
  cases n with
  | char v a => exact isRightBracket_of_isLeftBracket h
  | half v a => rfl
  | full v a => rfl
  | event e s a => rfl
  | group o inner ns c a => rfl

theorem side?_eq_left : n.side? = some .left ↔ n.isCharAnd isLeftBracket = true := by
  unfold side?
  split
  · next h => simp [h]
  · next h => split <;> simp [h]

theorem side?_eq_right : n.side? = some .right ↔ n.isCharAnd isRightBracket = true := by
  unfold side?
  split
  · next h => simp [isRightBracket_of_left h]
  · split
    · next h => simp [h]
    · next h => simp [h]

theorem side?_eq_none :
    n.side? = none ↔ n.isCharAnd isLeftBracket = false ∧ n.isCharAnd isRightBracket = false := by
  unfold side?
  split
  · next h => simp [h]
  · split
    · next h => simp [h]
    · next h h' => simp [h, h']

end Node

/-! ### Counting -/

theorem openAfter_cons (depth : Nat) (n : Node) (ns : List Node) :
    openAfter depth (n :: ns) = (bracketStep depth n.side?).bind fun d => openAfter d ns := rfl

theorem openAfter_concat (depth : Nat) (ns : List Node) (n : Node) :
    openAfter depth (ns ++ [n]) = (openAfter depth ns).bind fun d => bracketStep d n.side? := by
  unfold openAfter
  rw [List.map_append, List.foldlM_append]
  simp

section RightScan

variable {n : Node} {ns : List Node} {depth : Nat}

theorem matchingRightIn_of_left (h : n.side? = some .left) :
    matchingRightIn depth (n :: ns) = (matchingRightIn (depth + 1) ns).map (· + 1) := by
  rw [matchingRightIn.eq_def]
  exact if_pos (Node.side?_eq_left.mp h)

theorem matchingRightIn_of_right (h : n.side? = some .right) :
    matchingRightIn 0 (n :: ns) = some 0 ∧
      matchingRightIn (depth + 1) (n :: ns) = (matchingRightIn depth ns).map (· + 1) := by
  have hright := Node.side?_eq_right.mp h
  have hleft : ¬ n.isCharAnd isLeftBracket = true := by
    rw [← Node.side?_eq_left, h]
    simp
  constructor
  · rw [matchingRightIn.eq_def]
    dsimp only
    rw [if_neg hleft, if_pos hright]
  · rw [matchingRightIn.eq_def]
    dsimp only
    rw [if_neg hleft, if_pos hright]

theorem matchingRightIn_of_none (h : n.side? = none) :
    matchingRightIn depth (n :: ns) = (matchingRightIn depth ns).map (· + 1) := by
  obtain ⟨hleft, hright⟩ := Node.side?_eq_none.mp h
  rw [matchingRightIn.eq_def]
  dsimp only
  rw [hleft, hright]
  rfl

end RightScan

/-- The right bracket that is looked for is the first one that finds no other bracket open. -/
theorem matchingRightIn_eq_some_iff {ns : List Node} : ∀ {depth k : Nat},
    matchingRightIn depth ns = some k ↔
      ns[k]?.any (Node.isCharAnd isRightBracket) = true ∧ openAfter depth (ns.take k) = some 0 := by
  induction ns with
  | nil =>
    intro depth k
    simp [matchingRightIn]
  | cons n ns ih =>
    intro depth k
    cases hside : n.side? with
    | none =>
      rw [matchingRightIn_of_none hside]
      obtain ⟨-, hright⟩ := Node.side?_eq_none.mp hside
      cases k with
      | zero => simp [hright]
      | succ k => simp [ih, openAfter_cons, hside, bracketStep]
    | some side =>
      cases side with
      | left =>
        rw [matchingRightIn_of_left hside]
        have hright := Node.isRightBracket_of_left (Node.side?_eq_left.mp hside)
        cases k with
        | zero => simp [hright]
        | succ k => simp [ih, openAfter_cons, hside, bracketStep]
      | right =>
        have hright := Node.side?_eq_right.mp hside
        cases depth with
        | zero =>
          rw [(@matchingRightIn_of_right n ns 0 hside).1]
          cases k with
          | zero => simp [hright, openAfter]
          | succ k => simp [openAfter_cons, hside, bracketStep]
        | succ depth =>
          rw [(matchingRightIn_of_right hside).2]
          cases k with
          | zero => simp [openAfter]
          | succ k => simp [ih, openAfter_cons, hside, bracketStep]

section Between

variable {nodes : List Node} {i j : Nat}

theorem between_succ (hj : j < nodes.length) (hij : i < j) :
    between nodes i (j + 1) = between nodes i j ++ [nodes[j]] := by
  unfold between
  rw [List.take_add_one, List.getElem?_eq_getElem hj, Option.toList_some, List.drop_append,
    List.length_take]
  have hdrop : i + 1 - min j nodes.length = 0 := by omega
  rw [hdrop, List.drop_zero]

theorem between_self : between nodes i (i + 1) = [] := by
  unfold between
  rw [List.drop_eq_nil_iff, List.length_take]
  omega

/-- A left bracket at index `i` is open at index `j`, and so are `depth` later ones. -/
def OpensAt (nodes : List Node) (depth i j : Nat) : Prop :=
  i < j ∧ nodes[i]?.any (Node.isCharAnd isLeftBracket) = true ∧
    openAfter 0 (between nodes i j) = some depth

/-- What is open after one more node: a bracket that it opens, or one that it does not close. -/
theorem opensAt_succ {depth : Nat} (hj : j < nodes.length) :
    OpensAt nodes depth i (j + 1) ↔
      (i = j ∧ nodes[j].side? = some .left ∧ depth = 0) ∨
        ∃ d, OpensAt nodes d i j ∧ bracketStep d nodes[j].side? = some depth := by
  unfold OpensAt
  rcases Nat.lt_trichotomy i j with hlt | rfl | hgt
  · rw [between_succ hj hlt, openAfter_concat, Option.bind_eq_some_iff]
    constructor
    · rintro ⟨-, hleft, d, hopen, hstep⟩
      exact .inr ⟨d, ⟨hlt, hleft, hopen⟩, hstep⟩
    · rintro (⟨rfl, -⟩ | ⟨d, ⟨-, hleft, hopen⟩, hstep⟩)
      · exact absurd hlt (Nat.lt_irrefl i)
      · exact ⟨Nat.lt_succ_of_lt hlt, hleft, d, hopen, hstep⟩
  · rw [between_self, List.getElem?_eq_getElem hj, Option.any_some, ← Node.side?_eq_left]
    constructor
    · rintro ⟨-, hleft, hopen⟩
      exact .inl ⟨rfl, hleft, (Option.some.inj hopen).symm⟩
    · rintro (⟨-, hleft, rfl⟩ | ⟨d, ⟨hlt, -⟩, -⟩)
      · exact ⟨Nat.lt_succ_self i, hleft, rfl⟩
      · exact absurd hlt (Nat.lt_irrefl i)
  · constructor
    · rintro ⟨hlt, -⟩
      omega
    · rintro (⟨rfl, -⟩ | ⟨d, ⟨hlt, -⟩, -⟩)
      · exact absurd hgt (Nat.lt_irrefl i)
      · omega

/-- The left bracket that is looked for is open where the scan starts, and `depth` later ones
are. -/
theorem matchingLeftFrom_eq_some_iff (hj : j ≤ nodes.length) : ∀ {depth : Nat},
    matchingLeftFrom nodes depth j = some i ↔ OpensAt nodes depth i j := by
  induction j with
  | zero =>
    intro depth
    simp [matchingLeftFrom, OpensAt]
  | succ j ih =>
    intro depth
    have hlt : j < nodes.length := hj
    have ih := fun d => @ih (Nat.le_of_lt hlt) d
    rw [matchingLeftFrom.eq_def, opensAt_succ hlt]
    dsimp only
    rw [List.getElem?_eq_getElem hlt]
    dsimp only
    cases hside : nodes[j].side? with
    | none =>
      obtain ⟨hleft, hright⟩ := Node.side?_eq_none.mp hside
      simp [hleft, hright, ih, bracketStep]
    | some side =>
      cases side with
      | left =>
        have hleft := Node.side?_eq_left.mp hside
        rw [Node.isRightBracket_of_left hleft, hleft]
        cases depth with
        | zero => simp [bracketStep, eq_comm]
        | succ depth => simp [bracketStep, ih]
      | right =>
        rw [Node.side?_eq_right.mp hside]
        have hstep : ∀ d, bracketStep d (some .right) = some depth ↔ d = depth + 1 := by
          intro d
          cases d with
          | zero => simp [bracketStep]
          | succ d => simp [bracketStep]
        simp [hstep, ih]

/-! ### Pairs -/

/-- The brackets between a left one and the right one that it matches are balanced. -/
theorem matchingRight?_eq_some_iff :
    matchingRight? nodes i = some j ↔
      i < j ∧ nodes[j]?.any (Node.isCharAnd isRightBracket) = true ∧
        Balanced (between nodes i j) := by
  have hbetween : ∀ k, between nodes i (i + 1 + k) = (nodes.drop (i + 1)).take k := by
    intro k
    unfold between
    rw [List.drop_take, Nat.add_sub_cancel_left]
  unfold matchingRight? Balanced
  rw [Option.map_eq_some_iff]
  constructor
  · rintro ⟨k, hk, rfl⟩
    obtain ⟨hright, hopen⟩ := matchingRightIn_eq_some_iff.mp hk
    rw [List.getElem?_drop] at hright
    rw [hbetween]
    exact ⟨by omega, hright, hopen⟩
  · rintro ⟨hlt, hright, hopen⟩
    obtain ⟨k, rfl⟩ := Nat.exists_eq_add_of_le (Nat.succ_le_of_lt hlt)
    rw [hbetween] at hopen
    refine ⟨k, matchingRightIn_eq_some_iff.mpr ⟨?_, hopen⟩, rfl⟩
    rwa [List.getElem?_drop]

/-- A right bracket directly after a left one is its own. -/
theorem matchingRight?_of_next (h : nodes[i + 1]?.any (Node.isCharAnd isRightBracket) = true) :
    matchingRight? nodes i = some (i + 1) := by
  refine matchingRight?_eq_some_iff.mpr ⟨Nat.lt_succ_self i, h, ?_⟩
  rw [Balanced, between_self]
  rfl

/-- The brackets between a right one and the left one that it matches are balanced. -/
theorem matchingLeft?_eq_some_iff (hj : j ≤ nodes.length) :
    matchingLeft? nodes j = some i ↔
      i < j ∧ nodes[i]?.any (Node.isCharAnd isLeftBracket) = true ∧
        Balanced (between nodes i j) :=
  matchingLeftFrom_eq_some_iff hj

/-- Only the brackets of a list matter for what is balanced. -/
theorem balanced_between_of_map_side? {nodes' : List Node}
    (h : nodes'.map Node.side? = nodes.map Node.side?) :
    Balanced (between nodes' i j) ↔ Balanced (between nodes i j) := by
  have hmap : ∀ ns : List Node,
      (between ns i j).map Node.side? = ((ns.map Node.side?).take j).drop (i + 1) := by
    intro ns
    unfold between
    rw [List.map_drop, List.map_take]
  unfold Balanced openAfter
  rw [hmap, hmap, h]

end Between

end CjkProse
