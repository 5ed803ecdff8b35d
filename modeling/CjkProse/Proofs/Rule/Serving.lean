import CjkProse.Proofs.Rule.Local

/-!
# Which rules serve a node

A rule is made for nodes of some sort and does nothing at any other one.  No rule makes a node of
one sort one of another, so which rules there are to run at a node is known before the first of them
runs.

## Main definitions

* `Rule.serves` — whether a rule is made for a node.

## Main results

* `Rule.applyAt_of_not_serves` — a rule does nothing at a node that it is not made for.
* `Rule.applyAllAt_filter` — **rules that do not serve a node may be left out there.**
* `applyAllAt_of_isContent`, `applyAllAt_of_isGroup`, … — what is left at a node of a sort.
-/

namespace CjkProse

/-! ### Sorts of node last -/

theorem lasting_isGroup : Node.Lasting Node.isGroup where
  mapAfter g n := by cases n <;> rfl
  group _ _ _ _ _ _ _ _ _ _ := rfl
  char _ _ _ _ _ := rfl

theorem lasting_isCode : Node.Lasting Node.isCode := lasting_isEventOf .code

theorem lasting_isNumber : Node.Lasting Rules.isNumber where
  mapAfter g n := by cases n <;> rfl
  group _ _ _ _ _ _ _ _ _ _ := rfl
  char _ _ _ _ _ := rfl

theorem isPause_canonical (c : Char) : isPause (canonical c) = isPause c := by
  unfold canonical halfwidth
  split
  case h_5 => split <;> rfl
  all_goals rfl

theorem lasting_isPause : Node.Lasting (Node.isCharAnd isPause) :=
  lasting_isCharAnd isPause_canonical

namespace Rule

/-- Whether a rule is made for a node. -/
def serves (r : Rule) (n : Node) : Bool :=
  match r with
  | .markWidth => n.isGroup || n.isCharAnd fun _ => true
  | .quoteStyle => n.isGroup
  | .letterSpace => n.isContent
  | .pauseSpace => n.isCharAnd isPause
  | .quoteSpace => n.isGroup
  | .bracketSpace => n.isCharAnd isBracket
  | .codeSpace => n.isCode
  | .wrapperSpace => true
  | .abbreviation => n.isCharAnd isPause
  | .numberUnit => Rules.isNumber n

/-- Which rules serve a node lasts. -/
theorem lasting_serves (r : Rule) : Node.Lasting r.serves := by
  cases r with
  | markWidth =>
    exact ⟨fun g n => by cases n <;> rfl, fun _ _ _ _ _ _ _ _ _ _ => rfl, fun _ _ _ _ _ => rfl⟩
  | quoteStyle => exact lasting_isGroup
  | letterSpace => exact lasting_isContent
  | pauseSpace => exact lasting_isPause
  | quoteSpace => exact lasting_isGroup
  | bracketSpace => exact lasting_isBracket
  | codeSpace => exact lasting_isCode
  | wrapperSpace => exact ⟨fun _ _ => rfl, fun _ _ _ _ _ _ _ _ _ _ => rfl, fun _ _ _ _ _ => rfl⟩
  | abbreviation => exact lasting_isPause
  | numberUnit => exact lasting_isNumber

variable {config : Config} {nodes : List Node} {i : Nat} {n : Node}

/-- A rule does nothing at a node that it is not made for. -/
theorem applyAt_of_not_serves (here : nodes[i]? = some n) (class_ : n.KeepsClass) {r : Rule}
    (idle : r.serves n = false) : r.applyAt config nodes i = nodes := by
  cases n with
  | char v a =>
    -- a mark that is a full stop in the source is one that stops
    have hstop : isPause v.value = false → v.original ≠ '.' := by
      intro hpause hstop
      have hclass : canonical v.value = canonical v.original := class_
      rw [← isPause_canonical, hclass, hstop] at hpause
      exact absurd hpause (by decide)
    cases r with
    | markWidth => cases idle
    | quoteStyle => simp [applyAt, Rules.quoteStyle, here]
    | letterSpace =>
      simp only [applyAt, Rules.letterSpace, here]
      cases Neighbours.nodeAfter? nodes i <;> simp [Node.isHalf, Node.isFull, Node.isContent]
    | pauseSpace =>
      have hpause : isPause v.value = false := idle
      simp [applyAt, Rules.pauseSpace, here, hpause]
    | quoteSpace => simp [applyAt, Rules.quoteSpace, here]
    | bracketSpace =>
      have hbracket : isBracket v.value = false := idle
      simp [applyAt, Rules.bracketSpace, here, hbracket]
    | codeSpace => simp [applyAt, Rules.codeSpace, here, Node.isCode, Node.isEventOf]
    | wrapperSpace => cases idle
    | abbreviation => simp [applyAt, Rules.abbreviation, here, hstop idle]
    | numberUnit => simp [applyAt, Rules.numberUnit, here, Rules.isNumber]
  | half v a =>
    cases r with
    | letterSpace | wrapperSpace => cases idle
    | numberUnit =>
      have hnumber : Rules.isNumber (.half v a) = false := idle
      simp [applyAt, Rules.numberUnit, here, hnumber]
    | _ => simp [applyAt, Rules.markWidth, Rules.quoteStyle, Rules.pauseSpace, Rules.quoteSpace,
        Rules.bracketSpace, Rules.codeSpace, Rules.abbreviation, here, Node.isCode, Node.isEventOf]
  | full v a =>
    cases r with
    | letterSpace | wrapperSpace => cases idle
    | _ => simp [applyAt, Rules.markWidth, Rules.quoteStyle, Rules.pauseSpace, Rules.quoteSpace,
        Rules.bracketSpace, Rules.codeSpace, Rules.abbreviation, Rules.numberUnit, here,
        Rules.isNumber, Node.isCode, Node.isEventOf]
  | event e s a =>
    cases r with
    | letterSpace =>
      simp only [applyAt, Rules.letterSpace, here]
      cases Neighbours.nodeAfter? nodes i <;> simp [Node.isHalf, Node.isFull, Node.isContent]
    | codeSpace =>
      have hcode : (Node.event e s a).isCode = false := idle
      simp [applyAt, Rules.codeSpace, here, hcode]
    | wrapperSpace => cases idle
    | _ => simp [applyAt, Rules.markWidth, Rules.quoteStyle, Rules.pauseSpace, Rules.quoteSpace,
        Rules.bracketSpace, Rules.abbreviation, Rules.numberUnit, here, Rules.isNumber]
  | group o inner ns c a =>
    cases r with
    | markWidth | quoteStyle | quoteSpace | wrapperSpace => cases idle
    | letterSpace =>
      simp only [applyAt, Rules.letterSpace, here]
      cases Neighbours.nodeAfter? nodes i <;> simp [Node.isHalf, Node.isFull, Node.isContent]
    | _ => simp [applyAt, Rules.pauseSpace, Rules.bracketSpace, Rules.codeSpace, Rules.abbreviation,
        Rules.numberUnit, here, Rules.isNumber, Node.isCode, Node.isEventOf]

/-- **Rules that do not serve a node may be left out there.** -/
theorem applyAllAt_filter (class_ : ∀ m ∈ nodes, m.KeepsClass) (here : nodes[i]? = some n)
    {served : List Rule} (h : ∀ r, r.serves n = true → r ∈ served) (rules : List Rule) :
    applyAllAt rules config nodes i = applyAllAt (rules.filter (· ∈ served)) config nodes i := by
  -- whatever has run so far leaves alone which rules serve the node
  suffices hfold : ∀ ns, Lasts nodes ns →
      applyAllAt rules config ns i = applyAllAt (rules.filter (· ∈ served)) config ns i from
    hfold nodes (.refl class_)
  induction rules with
  | nil =>
    intro ns _
    rfl
  | cons r rules ih =>
    intro ns hlasts
    have hothers := ih _ (hlasts.applyAt r config i)
    by_cases hr : r ∈ served
    · rw [List.filter_cons_of_pos (by simpa using hr)]
      exact hothers
    · have hserves : ns[i]?.any r.serves = false := by
        rw [hlasts.any_eq (lasting_serves r), here]
        simpa using mt (h r) hr
      have hidle : r.applyAt config ns i = ns := by
        cases hn : ns[i]? with
        | none =>
          have hlt := (List.getElem?_eq_some_iff.mp here).1
          rw [List.getElem?_eq_none_iff, hlasts.length_eq] at hn
          omega
        | some m =>
          rw [hn] at hserves
          exact applyAt_of_not_serves hn (hlasts.keepsClass m (List.mem_of_getElem? hn)) hserves
      rw [hidle] at hothers
      rw [List.filter_cons_of_neg (by simpa using hr), ← hothers]
      show applyAllAt rules config (r.applyAt config ns i) i = _
      rw [hidle]

end Rule

/-! ### What is left at a node of a sort -/

section Sorts

variable {config : Config} {nodes : List Node} {i : Nat} {n : Node}

/-- At a run three rules do anything. -/
theorem applyAllAt_of_isContent (class_ : ∀ m ∈ nodes, m.KeepsClass) (here : nodes[i]? = some n)
    (content : n.isContent = true) :
    Rule.applyAllAt Rule.all config nodes i =
      Rules.numberUnit config
        (Rules.wrapperSpace config (Rules.letterSpace config nodes i) i) i := by
  have hserved : ∀ r, Rule.serves r n = true →
      r ∈ [Rule.letterSpace, .wrapperSpace, .numberUnit] := by
    intro r
    cases n with
    | half v a => cases r <;> simp [Rule.serves, Node.isGroup, Node.isCharAnd, Node.isCode,
        Node.isEventOf]
    | full v a => cases r <;> simp [Rule.serves, Node.isGroup, Node.isCharAnd, Node.isCode,
        Node.isEventOf]
    | char v a => cases content
    | event e s a => cases content
    | group o inner ns c a => cases content
  rw [Rule.applyAllAt_filter class_ here hserved]
  rfl

/-- At code two. -/
theorem applyAllAt_of_isCode (class_ : ∀ m ∈ nodes, m.KeepsClass) (here : nodes[i]? = some n)
    (code : n.isCode = true) :
    Rule.applyAllAt Rule.all config nodes i =
      Rules.wrapperSpace config (Rules.codeSpace config nodes i) i := by
  have hserved : ∀ r, Rule.serves r n = true → r ∈ [Rule.codeSpace, .wrapperSpace] := by
    intro r
    cases n with
    | event e s a => cases r <;> simp [Rule.serves, Node.isGroup, Node.isCharAnd, Node.isContent,
        Node.isHalf, Node.isFull, Rules.isNumber]
    | half v a => cases code
    | full v a => cases code
    | char v a => cases code
    | group o inner ns c a => cases code
  rw [Rule.applyAllAt_filter class_ here hserved]
  rfl

/-- At any other event one. -/
theorem applyAllAt_of_event (class_ : ∀ m ∈ nodes, m.KeepsClass) {e : Event} {s : Span}
    {a : Revisable Space} (here : nodes[i]? = some (.event e s a))
    (code : (Node.event e s a).isCode = false) :
    Rule.applyAllAt Rule.all config nodes i = Rules.wrapperSpace config nodes i := by
  have hserved : ∀ r, Rule.serves r (.event e s a) = true → r ∈ [Rule.wrapperSpace] := by
    intro r
    cases r <;> simp [Rule.serves, Node.isGroup, Node.isCharAnd, Node.isContent, Node.isHalf,
      Node.isFull, Rules.isNumber, code]
  rw [Rule.applyAllAt_filter class_ here hserved]
  rfl

/-- So at the start and the end of a wrapper. -/
theorem applyAllAt_of_isWrapper (class_ : ∀ m ∈ nodes, m.KeepsClass) (here : nodes[i]? = some n)
    (wrapper : n.isWrapper = true) :
    Rule.applyAllAt Rule.all config nodes i = Rules.wrapperSpace config nodes i := by
  cases n with
  | event e s a =>
    refine applyAllAt_of_event class_ here ?_
    cases hk : e.kind <;>
      simp_all [Node.isWrapper, Node.isOpening, Node.isClosing, Node.isCode, Node.isEventOf]
  | half v a => cases wrapper
  | full v a => cases wrapper
  | char v a => cases wrapper
  | group o inner ns c a => cases wrapper

/-- At a quotation four. -/
theorem applyAllAt_of_isGroup (class_ : ∀ m ∈ nodes, m.KeepsClass) (here : nodes[i]? = some n)
    (group : n.isGroup = true) :
    Rule.applyAllAt Rule.all config nodes i =
      Rules.wrapperSpace config (Rules.quoteSpace config
        (Rules.quoteStyle config (Rules.markWidth config nodes i) i) i) i := by
  have hserved : ∀ r, Rule.serves r n = true →
      r ∈ [Rule.markWidth, .quoteStyle, .quoteSpace, .wrapperSpace] := by
    intro r
    cases n with
    | group o inner ns c a => cases r <;> simp [Rule.serves, Node.isCharAnd, Node.isContent,
        Node.isHalf, Node.isFull, Rules.isNumber, Node.isCode, Node.isEventOf]
    | half v a => cases group
    | full v a => cases group
    | char v a => cases group
    | event e s a => cases group
  rw [Rule.applyAllAt_filter class_ here hserved]
  rfl

/-- At a mark that pauses or stops four. -/
theorem applyAllAt_of_isPause (class_ : ∀ m ∈ nodes, m.KeepsClass) (here : nodes[i]? = some n)
    (pause : n.isCharAnd isPause = true) :
    Rule.applyAllAt Rule.all config nodes i =
      Rules.abbreviation config (Rules.wrapperSpace config
        (Rules.pauseSpace config (Rules.markWidth config nodes i) i) i) i := by
  have hserved : ∀ r, Rule.serves r n = true →
      r ∈ [Rule.markWidth, .pauseSpace, .wrapperSpace, .abbreviation] := by
    intro r
    cases n with
    | char v a =>
      -- it is no bracket
      have hbracket : (Node.char v a).isCharAnd isBracket = false := by
        have hv : (CharKind.of v.value).isPause = true := pause
        show (CharKind.of v.value).isBracket = false
        cases hk : CharKind.of v.value <;> simp_all [CharKind.isPause, CharKind.isBracket]
      cases r <;> simp [Rule.serves, Node.isGroup, Node.isContent, Node.isHalf, Node.isFull,
        Rules.isNumber, Node.isCode, Node.isEventOf, hbracket]
    | half v a => cases pause
    | full v a => cases pause
    | event e s a => cases pause
    | group o inner ns c a => cases pause
  rw [Rule.applyAllAt_filter class_ here hserved]
  rfl

/-- At any other mark three. -/
theorem applyAllAt_of_char (class_ : ∀ m ∈ nodes, m.KeepsClass) {v : Revisable Char}
    {a : Revisable Space} (here : nodes[i]? = some (.char v a)) (pause : isPause v.value = false) :
    Rule.applyAllAt Rule.all config nodes i =
      Rules.wrapperSpace config
        (Rules.bracketSpace config (Rules.markWidth config nodes i) i) i := by
  have hserved : ∀ r, Rule.serves r (.char v a) = true →
      r ∈ [Rule.markWidth, .bracketSpace, .wrapperSpace] := by
    intro r
    cases r <;> simp [Rule.serves, Node.isGroup, Node.isCharAnd, Node.isContent, Node.isHalf,
      Node.isFull, Rules.isNumber, Node.isCode, Node.isEventOf, pause]
  rw [Rule.applyAllAt_filter class_ here hserved]
  rfl

end Sorts

end CjkProse
