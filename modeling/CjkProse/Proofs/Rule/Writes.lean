import CjkProse.Proofs.Rule.Pass
import Mathlib.Logic.Relation

/-!
# What a rule may write

Whatever a rule does at a node is a sequence of single writes.  A gap between two nodes is emptied,
filled or given back; the inside of a quotation is closed; a mark gets another form.  What holds of a
paragraph as long as it is only written to in these ways holds after a pass, whatever the rules look
at.

A gap belongs to a node that has another one after it, so the space at the end of a list is never
written to except from the outside.  A gap is filled only between nodes that take a space, which most
marks do not.

## Main definitions

* `Node.takesSpace` — the nodes beside which a space may be put.
* `Write` — one write of a rule at a node, one case for each way to write.
* `Paragraph.EndsFresh` — the space at the end of a list has not been written to.

## Main results

* `Rule.writes_applyAt` — **a rule at a node is a sequence of writes.**
* `Rule.applyAll_writes` — what every write preserves, some rules over a list preserve.
* `endsFresh_polish` — a pass does not write to the space at the end of a paragraph.
-/

namespace CjkProse

open Relation (ReflTransGen)
open Neighbours

/-- Nodes beside which a space may be put: wrappers, letters, quotations, code, and the marks that
pause, are brackets or open something. -/
def Node.takesSpace (n : Node) : Bool :=
  n.isWrapper || n.isContent || n.isGroup || n.isCode || n.isCharAnd isPause ||
    n.isCharAnd isBracket || n.isCharAnd isLeft

/-- One write of a rule at index `i`. -/
inductive Write (config : Config) (i : Nat) : List Node → List Node → Prop
  /-- A gap is emptied. -/
  | close {nodes : List Node} {j : Nat} (inside : j + 1 < nodes.length) :
      Write config i nodes (nodes.modify j (Node.setAfter Space.empty))
  /-- One space is put in a gap. -/
  | fill {nodes : List Node} {j : Nat} {m n : Node} (left : nodes[j]? = some m)
      (right : nodes[j + 1]? = some n) (hm : m.takesSpace) (hn : n.takesSpace) :
      Write config i nodes (nodes.modify j (Node.setAfter Space.one))
  /-- A gap is given back the space of the source. -/
  | restore {nodes : List Node} {j : Nat} (inside : j + 1 < nodes.length) :
      Write config i nodes (nodes.modify j Node.revertAfter)
  /-- The spaces directly inside of a quotation are emptied. -/
  | closeInside {nodes : List Node} : Write config i nodes (nodes.modify i Rules.closeInside)
  /-- A mark that stands alone, or a bracket, is brought to its width. -/
  | resizeMark {nodes : List Node} {v : Revisable Char} {a : Revisable Space}
      (here : nodes[i]? = some (.char v a)) (hv : isSingle v.value || isBracket v.value) :
      Write config i nodes (nodes.set i (.char (config.resizeMark v) a))
  /-- The marks of a quotation are brought to their width. -/
  | resizeQuote {nodes ns : List Node} {o c : Revisable Char} {inner a : Revisable Space}
      (here : nodes[i]? = some (.group o inner ns c a)) :
      Write config i nodes (nodes.set i
        (.group (config.resizeQuote '“' '‘' o) inner ns (config.resizeQuote '”' '’' c) a))
  /-- The marks of a quotation are brought to their style. -/
  | restyleQuote {nodes ns : List Node} {o c : Revisable Char} {inner a : Revisable Space}
      (here : nodes[i]? = some (.group o inner ns c a)) :
      Write config i nodes
        (nodes.set i (.group (config.restyleQuote o) inner ns (config.restyleQuote c) a))
  /-- A full stop and the space after it are given back. -/
  | restoreStop {nodes : List Node} {v : Revisable Char} {a : Revisable Space}
      (here : nodes[i]? = some (.char v a)) (stop : v.original = '.') :
      Write config i nodes (nodes.set i (.char v.revert a.revert))

/-- A sequence of writes. -/
abbrev Writes (config : Config) (i : Nat) : List Node → List Node → Prop :=
  ReflTransGen (Write config i)

/-! ### Gaps -/

namespace Neighbours

variable {nodes : List Node}

/-- Before the left neighbour that is seen come wrappers only. -/
theorem visibleBefore?_spec {l : Nat} : ∀ {i : Nat}, visibleBefore? nodes i = some l →
    l < i ∧ isWrapperAt nodes l = false ∧ ∀ k, l < k → k < i → isWrapperAt nodes k = true := by
  intro i
  induction i with
  | zero => intro h; cases h
  | succ i ih =>
    intro h
    rw [visibleBefore?] at h
    split at h
    · next hi =>
      obtain ⟨hlt, hl, hbetween⟩ := ih h
      refine ⟨by omega, hl, fun k hlk hki => ?_⟩
      rcases Nat.lt_succ_iff_lt_or_eq.mp hki with hlt | rfl
      · exact hbetween k hlk hlt
      · exact hi
    · next hi =>
      cases h
      exact ⟨Nat.lt_succ_self _, by simpa using hi, fun k hlk hki => by omega⟩

/-- After the right neighbour that is seen come wrappers only. -/
theorem visibleAfter?_spec {i r : Nat} (h : visibleAfter? nodes i = some r) :
    i < r ∧ r < nodes.length ∧ isWrapperAt nodes r = false ∧
      ∀ k, i < k → k < r → isWrapperAt nodes k = true := by
  rw [visibleAfter?, Option.map_eq_some_iff] at h
  obtain ⟨d, hd, rfl⟩ := h
  obtain ⟨hlt, hseen, hbetween⟩ := List.findIdx?_eq_some_iff_getElem.mp hd
  rw [List.length_drop] at hlt
  rw [List.getElem_drop] at hseen
  refine ⟨by omega, by omega, ?_, fun k hik hkr => ?_⟩
  · rw [isWrapperAt, List.getElem?_eq_getElem (by omega)]
    simpa using hseen
  · have hk := hbetween (k - (i + 1)) (by omega)
    rw [List.getElem_drop] at hk
    have hidx : i + 1 + (k - (i + 1)) = k := by omega
    simp only [hidx] at hk
    rw [isWrapperAt, List.getElem?_eq_getElem (by omega)]
    simpa using hk

/-- The node that owns a gap is not further right than the gap. -/
theorem gapHolder_spec {l r : Nat} (h : l < r) : l ≤ gapHolder nodes l r ∧ gapHolder nodes l r < r := by
  have hle : (((nodes.drop (l + 1)).take (r - l - 1)).takeWhile Node.isClosing).length ≤ r - l - 1 :=
    Nat.le_trans (List.takeWhile_sublist _).length_le (List.length_take_le _ _)
  rw [gapHolder]
  omega

end Neighbours

/-! ### Setting gaps -/

/-- Whether a node takes a space does not depend on the space after it. -/
@[simp] theorem Node.takesSpace_mapAfter (f : Revisable Space → Revisable Space) (n : Node) :
    (n.mapAfter f).takesSpace = n.takesSpace := by cases n <;> rfl

/-- Whether a quotation takes a space does not depend on what stands in it. -/
theorem Rules.takesSpace_closeInside (n : Node) : (closeInside n).takesSpace = n.takesSpace := by
  cases n <;> rfl

/-- What changing a node leaves alone holds of the same nodes of a list after one is changed. -/
theorem any_modify {p : Node → Bool} {f : Node → Node} (h : ∀ n, p (f n) = p n)
    (nodes : List Node) (j k : Nat) : (nodes.modify j f)[k]?.any p = nodes[k]?.any p := by
  rw [List.getElem?_modify]
  cases nodes[k]? with
  | none => rfl
  | some n =>
    by_cases hjk : j = k
    · simp [hjk, h]
    · simp [hjk]

theorem lt_length_of_any {p : Node → Bool} {nodes : List Node} {k : Nat}
    (h : nodes[k]?.any p = true) : k < nodes.length := by
  obtain ⟨n, hn, -⟩ := (Option.any_eq_true _ _).mp h
  exact (List.getElem?_eq_some_iff.mp hn).1

/-- Writes that leave alone which nodes take a space. -/
structure SetsGaps (config : Config) (i : Nat) (nodes nodes' : List Node) : Prop where
  /-- They are writes. -/
  writes : Writes config i nodes nodes'
  /-- The same nodes take a space. -/
  takes : ∀ k : Nat, nodes'[k]?.any Node.takesSpace = nodes[k]?.any Node.takesSpace

namespace SetsGaps

variable {config : Config} {i k : Nat} {nodes nodes' nodes'' : List Node}

theorem refl : SetsGaps config i nodes nodes := ⟨.refl, fun _ => rfl⟩

theorem trans (h : SetsGaps config i nodes nodes') (h' : SetsGaps config i nodes' nodes'') :
    SetsGaps config i nodes nodes'' :=
  ⟨h.writes.trans h'.writes, fun k => (h'.takes k).trans (h.takes k)⟩

theorem ite {p : Prop} [Decidable p] (h : p → SetsGaps config i nodes nodes')
    (h' : SetsGaps config i nodes nodes'') :
    SetsGaps config i nodes (if p then nodes' else nodes'') := by
  split
  · next hp => exact h hp
  · exact h'

theorem closeGap {holder : Option Nat} (inside : ∀ j ∈ holder, j + 1 < nodes.length)
    (asked : Bool) : SetsGaps config i nodes (closeGap nodes holder asked) := by
  cases asked with
  | false => exact refl
  | true =>
    cases holder with
    | none => exact refl
    | some j =>
      exact ⟨.single (.close (inside j rfl)), any_modify (fun n => n.takesSpace_mapAfter _) nodes j⟩

/-- The gap between two neighbours that are seen may be filled if both take a space. -/
theorem fill {l r : Nat} (hlt : l < r) (hl : nodes[l]?.any Node.takesSpace)
    (hr : nodes[r]?.any Node.takesSpace)
    (between : ∀ j, l < j → j < r → isWrapperAt nodes j = true) :
    SetsGaps config i nodes (setGap nodes (some (gapHolder nodes l r)) Space.one) := by
  obtain ⟨hle, hgt⟩ := @gapHolder_spec nodes l r hlt
  -- all nodes of the gap take a space, since wrappers do
  have htakes : ∀ j, l ≤ j → j ≤ r → ∃ n, nodes[j]? = some n ∧ n.takesSpace = true := by
    intro j hlj hjr
    have hany : nodes[j]?.any Node.takesSpace = true := by
      rcases Nat.eq_or_lt_of_le hlj with rfl | hlj
      · exact hl
      rcases Nat.eq_or_lt_of_le hjr with rfl | hjr
      · exact hr
      obtain ⟨n, hn, hwrapper⟩ := (Option.any_eq_true _ _).mp (between j hlj hjr)
      simp [hn, Node.takesSpace, hwrapper]
    exact (Option.any_eq_true _ _).mp hany
  obtain ⟨m, hm, hm'⟩ := htakes _ hle (Nat.le_of_lt hgt)
  obtain ⟨n, hn, hn'⟩ := htakes (gapHolder nodes l r + 1) (by omega) (by omega)
  exact ⟨.single (.fill hm hn hm' hn'), any_modify (fun n => n.takesSpace_mapAfter _) nodes _⟩

/-- The gap before a node belongs to a node that has another one after it. -/
theorem inside_before (hk : k < nodes.length) :
    ∀ j ∈ spaceBeforeHolder? nodes k, j + 1 < nodes.length := by
  intro j hj
  obtain ⟨l, hl, rfl⟩ := Option.map_eq_some_iff.mp hj
  obtain ⟨-, hgt⟩ := @gapHolder_spec nodes l k (visibleBefore?_spec hl).1
  exact Nat.lt_of_le_of_lt hgt hk

/-- The gap after a node belongs to a node that has another one after it. -/
theorem inside_after : ∀ j ∈ spaceAfterHolder? nodes k, j + 1 < nodes.length := by
  intro j hj
  obtain ⟨r, hr, rfl⟩ := Option.map_eq_some_iff.mp hj
  obtain ⟨hlt, hlength, -, -⟩ := visibleAfter?_spec hr
  obtain ⟨-, hgt⟩ := @gapHolder_spec nodes k r hlt
  exact Nat.lt_of_le_of_lt hgt hlength

theorem closeBefore (hk : nodes[k]?.any Node.takesSpace) (asked : Bool) :
    SetsGaps config i nodes (CjkProse.closeGap nodes (spaceBeforeHolder? nodes k) asked) :=
  closeGap (inside_before (lt_length_of_any hk)) asked

theorem closeAfter (asked : Bool) :
    SetsGaps config i nodes (CjkProse.closeGap nodes (spaceAfterHolder? nodes k) asked) :=
  closeGap inside_after asked

/-- The gap before a node may be set as demanded, if it and the neighbour there take a space. -/
theorem demandBefore (hk : nodes[k]?.any Node.takesSpace)
    (neighbour : (nodeBefore? nodes k).any Node.takesSpace) (demand : Option Bool) :
    SetsGaps config i nodes (demandGap nodes (spaceBeforeHolder? nodes k) demand) := by
  cases demand with
  | none => exact refl
  | some present =>
    cases present with
    | false => exact closeBefore hk true
    | true =>
      rw [demandGap, spaceBeforeHolder?]
      rw [nodeBefore?] at neighbour
      cases h : visibleBefore? nodes k with
      | none => exact refl
      | some l =>
        rw [h] at neighbour
        obtain ⟨hlt, -, hbetween⟩ := visibleBefore?_spec h
        exact fill hlt neighbour hk hbetween

/-- The gap after a node may be set as demanded, if it and the neighbour there take a space. -/
theorem demandAfter (hk : nodes[k]?.any Node.takesSpace)
    (neighbour : (nodeAfter? nodes k).any Node.takesSpace) (demand : Option Bool) :
    SetsGaps config i nodes (demandGap nodes (spaceAfterHolder? nodes k) demand) := by
  cases demand with
  | none => exact refl
  | some present =>
    cases present with
    | false => exact closeAfter true
    | true =>
      rw [demandGap, spaceAfterHolder?]
      rw [nodeAfter?] at neighbour
      cases h : visibleAfter? nodes k with
      | none => exact refl
      | some r =>
        rw [h] at neighbour
        obtain ⟨hlt, -, -, hbetween⟩ := visibleAfter?_spec h
        exact fill hlt hk neighbour hbetween

end SetsGaps

theorem writes_revertGap {config : Config} {i : Nat} {nodes : List Node} {holder : Option Nat}
    (inside : ∀ j ∈ holder, j + 1 < nodes.length) :
    Writes config i nodes (revertGap nodes holder) := by
  cases holder with
  | none => exact .refl
  | some j => exact .single (.restore (inside j rfl))

/-! ### The rules -/

/-- What holds of all nodes with a property holds of a node that is found to have it. -/
theorem any_takesSpace {p : Node → Bool} (h : ∀ n, p n = true → n.takesSpace = true)
    {found : Option Node} (hfound : found.any p = true) : found.any Node.takesSpace = true := by
  cases found with
  | none => cases hfound
  | some n => exact h n hfound

namespace Rules

theorem takesSpace_of_isContent {n : Node} (h : n.isContent = true) : n.takesSpace = true := by
  simp [Node.takesSpace, h]

theorem takesSpace_of_startsPhrase (n : Node) (h : startsPhrase n = true) :
    n.takesSpace = true := by
  simp only [startsPhrase, Bool.or_eq_true] at h
  rcases h with ((h | h) | h) | h
  all_goals simp [Node.takesSpace, h]

theorem takesSpace_of_facesEnclosure (n : Node) (h : facesEnclosure n = true) :
    n.takesSpace = true := by
  simp only [facesEnclosure, Bool.or_eq_true] at h
  rcases h with (h | h) | h
  all_goals simp [Node.takesSpace, h]

variable {config : Config} {nodes : List Node} {i : Nat}

theorem writes_markWidth : Writes config i nodes (markWidth config nodes i) := by
  rw [markWidth]
  split
  · next here => exact .single (.resizeQuote here)
  · next v a here =>
    split
    · next h =>
      simp only [Bool.and_eq_true] at h
      exact .single (.resizeMark here h.2)
    · exact .refl
  · exact .refl

theorem writes_quoteStyle : Writes config i nodes (quoteStyle config nodes i) := by
  rw [quoteStyle]
  split
  · next here => exact .single (.restyleQuote here)
  · exact .refl

theorem setsGaps_letterSpace : SetsGaps config i nodes (letterSpace config nodes i) := by
  rw [letterSpace]
  split
  · next current next hcurrent hnext =>
    have hdemand : current.isContent = true → next.isContent = true → ∀ demand,
        SetsGaps config i nodes (demandGap nodes (spaceAfterHolder? nodes i) demand) :=
      fun hc hn => .demandAfter (by simp [hcurrent, takesSpace_of_isContent hc])
        (by simp [hnext, takesSpace_of_isContent hn])
    dsimp only
    refine .ite (fun h => ?_) (.ite (fun _ => .closeAfter _) (.ite (fun h => ?_) .refl))
    · simp only [Bool.and_eq_true] at h
      refine .ite (fun _ => ?_) .refl
      exact hdemand (by simp [Node.isContent, h.1]) (by simp [Node.isContent, h.2]) (some true)
    · simp only [Bool.and_eq_true] at h
      exact .ite (fun _ => .refl) (hdemand h.1 h.2 _)
  · exact .refl

theorem setsGaps_pauseSpace : SetsGaps config i nodes (pauseSpace config nodes i) := by
  rw [pauseSpace]
  split
  · next v a here =>
    refine .ite (fun hv => ?_) .refl
    simp only [Bool.and_eq_true] at hv
    have htakes : nodes[i]?.any Node.takesSpace = true := by
      simp [here, Node.takesSpace, Node.isCharAnd, hv.1.1]
    have hbefore : SetsGaps config i nodes (closeGap nodes (spaceBeforeHolder? nodes i)
        (config.noSpaceBeforePause && (nodeBefore? nodes i).any endsPhrase)) := .closeBefore htakes _
    refine hbefore.trans (.ite (fun hnext => ?_) .refl)
    have htakes' := (hbefore.takes i).trans htakes
    exact .ite (fun _ => .closeAfter _)
      (.demandAfter htakes' (any_takesSpace takesSpace_of_startsPhrase hnext) _)
  · exact .refl

theorem setsGaps_codeSpace : SetsGaps config i nodes (codeSpace config nodes i) := by
  have hfaces : ∀ n : Node, (n.isContent || n.isCode) = true → n.takesSpace = true := by
    intro n h
    rcases (Bool.or_eq_true _ _).mp h with h | h
    all_goals simp [Node.takesSpace, h]
  rw [codeSpace]
  dsimp only
  refine .ite (fun hcode => ?_) .refl
  have htakes : nodes[i]?.any Node.takesSpace = true :=
    any_takesSpace (fun n h => hfaces n (by simp [h])) hcode
  have hbefore : SetsGaps config i nodes
      (if (nodeBefore? nodes i).any (fun n => n.isContent || n.isCode) then
        demandGap nodes (spaceBeforeHolder? nodes i) config.spaceOutsideCode else nodes) :=
    .ite (fun h => .demandBefore htakes (any_takesSpace hfaces h) _) .refl
  refine hbefore.trans (.ite (fun h => ?_) .refl)
  exact .demandAfter ((hbefore.takes i).trans htakes) (any_takesSpace hfaces h) _

theorem setsGaps_wrapperSpace : SetsGaps config i nodes (wrapperSpace config nodes i) := by
  rw [wrapperSpace]
  split
  · next current next _ hnext =>
    refine .closeGap (fun j hj => ?_) _
    cases hj
    exact (List.getElem?_eq_some_iff.mp hnext).1
  · exact .refl

/-! ### Quotations and brackets -/

/-- The gap on the left of a quotation, against the neighbour there. -/
theorem setsGaps_facingBefore (htakes : nodes[i]?.any Node.takesSpace) (wide : Node → Bool) :
    SetsGaps config i nodes
      (match nodeBefore? nodes i with
      | some b =>
        if facesEnclosure b then outsideQuote config nodes (spaceBeforeHolder? nodes i) (wide b)
        else nodes
      | none => nodes) := by
  cases h : nodeBefore? nodes i with
  | none => exact .refl
  | some b =>
    refine .ite (fun hb => .ite (fun _ => .closeBefore htakes _) (.demandBefore htakes ?_ _)) .refl
    rw [h]
    exact takesSpace_of_facesEnclosure b hb

/-- The gap on the right of a quotation, against the neighbour there. -/
theorem setsGaps_facingAfter (htakes : nodes[i]?.any Node.takesSpace) (wide : Node → Bool) :
    SetsGaps config i nodes
      (match nodeAfter? nodes i with
      | some b =>
        if facesEnclosure b then outsideQuote config nodes (spaceAfterHolder? nodes i) (wide b)
        else nodes
      | none => nodes) := by
  cases h : nodeAfter? nodes i with
  | none => exact .refl
  | some b =>
    refine .ite (fun hb => .ite (fun _ => .closeAfter _) (.demandAfter htakes ?_ _)) .refl
    rw [h]
    exact takesSpace_of_facesEnclosure b hb

theorem setsGaps_quoteSpace : SetsGaps config i nodes (quoteSpace config nodes i) := by
  rw [quoteSpace]
  split
  · next o inner ns c a here =>
    have htakes : nodes[i]?.any Node.takesSpace = true := by
      simp [here, Node.takesSpace, Node.isGroup]
    have hinside : SetsGaps config i nodes
        (if config.noSpaceInsideQuote then nodes.modify i closeInside else nodes) :=
      .ite (fun _ => ⟨.single .closeInside, any_modify takesSpace_closeInside nodes i⟩) .refl
    have hbefore := hinside.trans (setsGaps_facingBefore ((hinside.takes i).trans htakes)
      fun b => isWideOrChinese o.value || isWideSide closerOf b)
    exact hbefore.trans (setsGaps_facingAfter ((hbefore.takes i).trans htakes)
      fun b => isWideOrChinese c.value || isWideSide openerOf b)
  · exact .refl

/-- A bracket takes a space. -/
theorem takesSpace_of_bracket {p : Char → Bool} (hp : ∀ c, p c = true → isBracket c = true)
    (n : Node) (h : (facesEnclosure n || n.isCharAnd p) = true) : n.takesSpace = true := by
  rcases (Bool.or_eq_true _ _).mp h with h | h
  · exact takesSpace_of_facesEnclosure n h
  · cases n with
    | char v a =>
      have hv : isBracket v.value = true := hp _ h
      simp [Node.takesSpace, Node.isCharAnd, hv]
    | half v a => cases h
    | full v a => cases h
    | event e s a => cases h
    | group o inner ns c a => cases h

theorem setsGaps_bracketSpace : SetsGaps config i nodes (bracketSpace config nodes i) := by
  have hleft : ∀ c, isLeftBracket c = true → isBracket c = true := fun c h => by
    simp only [isLeftBracket, Bool.and_eq_true] at h
    exact h.1
  have hright : ∀ c, isRightBracket c = true → isBracket c = true := fun c h => by
    simp only [isRightBracket, Bool.and_eq_true] at h
    exact h.1
  rw [bracketSpace]
  split
  · next v a here =>
    refine .ite (fun hv => ?_) .refl
    have htakes : nodes[i]?.any Node.takesSpace = true := by
      simp [here, Node.takesSpace, Node.isCharAnd, hv]
    have hinside : SetsGaps config i nodes (closeGap nodes
        (if isLeft v.value then spaceAfterHolder? nodes i else spaceBeforeHolder? nodes i)
        config.noSpaceInsideBracket) := by
      split
      · exact .closeAfter _
      · exact .closeBefore htakes _
    have htakes' := (hinside.takes i).trans htakes
    refine hinside.trans (.ite (fun _ => .refl) (.ite (fun _ => ?_) ?_))
    · refine .ite (fun h => ?_) .refl
      exact .ite (fun _ => .closeBefore htakes' _)
        (.demandBefore htakes' (any_takesSpace (takesSpace_of_bracket hright) h) _)
    · refine .ite (fun h => ?_) .refl
      exact .ite (fun _ => .closeAfter _)
        (.demandAfter htakes' (any_takesSpace (takesSpace_of_bracket hleft) h) _)
  · exact .refl

/-! ### Exceptions -/

theorem writes_abbreviation : Writes config i nodes (abbreviation config nodes i) := by
  rw [abbreviation]
  split
  · next v a here =>
    split
    · next h =>
      simp only [Bool.and_eq_true, beq_iff_eq] at h
      exact .single (.restoreStop here h.1.1)
    · exact .refl
  · exact .refl

theorem writes_numberUnit : Writes config i nodes (numberUnit config nodes i) := by
  rw [numberUnit]
  split
  · next h =>
    simp only [Bool.and_eq_true] at h
    have hlt := lt_length_of_any h.1
    exact (writes_revertGap (SetsGaps.inside_before hlt)).trans
      (writes_revertGap SetsGaps.inside_after)
  · exact .refl

end Rules

/-! ### A pass -/

namespace Rule

/-- **A rule at a node is a sequence of writes.** -/
theorem writes_applyAt (r : Rule) (config : Config) (nodes : List Node) (i : Nat) :
    Writes config i nodes (r.applyAt config nodes i) := by
  cases r with
  | markWidth => exact Rules.writes_markWidth
  | quoteStyle => exact Rules.writes_quoteStyle
  | letterSpace => exact Rules.setsGaps_letterSpace.writes
  | pauseSpace => exact Rules.setsGaps_pauseSpace.writes
  | quoteSpace => exact Rules.setsGaps_quoteSpace.writes
  | bracketSpace => exact Rules.setsGaps_bracketSpace.writes
  | codeSpace => exact Rules.setsGaps_codeSpace.writes
  | wrapperSpace => exact Rules.setsGaps_wrapperSpace.writes
  | abbreviation => exact Rules.writes_abbreviation
  | numberUnit => exact Rules.writes_numberUnit

/-- What every write preserves, a rule at a node preserves. -/
theorem applyAt_writes {P : List Node → Prop} {config : Config} {i : Nat}
    (write : ∀ nodes nodes', Write config i nodes nodes' → P nodes → P nodes') (r : Rule)
    {nodes : List Node} (h : P nodes) : P (r.applyAt config nodes i) := by
  have hwrites := r.writes_applyAt config nodes i
  generalize r.applyAt config nodes i = nodes' at hwrites
  induction hwrites with
  | refl => exact h
  | tail _ hwrite ih => exact write _ _ hwrite ih

/-- What every write preserves, some rules over a list preserve. -/
theorem applyAll_writes {P : List Node → Prop} {config : Config}
    (write : ∀ i nodes nodes', Write config i nodes nodes' → P nodes → P nodes')
    (rules : List Rule) {nodes : List Node} (h : P nodes) : P (applyAll rules config nodes) :=
  applyAll_induction (fun r _ _ i => r.applyAt_writes (write i)) h

end Rule

/-! ### The space at the end -/

/-- The space at the end of a list is as it is in the source. -/
def Paragraph.EndsFresh (nodes : List Node) : Prop := ∀ n ∈ nodes.getLast?, n.after.modified = none

section EndsFresh

variable {nodes : List Node} {f : Node → Node} {i j : Nat}

/-- A paragraph as it is read ends with a space that is as it is in the source. -/
theorem endsFresh_of_isFresh (h : ∀ l ∈ Paragraph.leaves nodes, l.IsFresh) :
    Paragraph.EndsFresh nodes := by
  intro n hn
  have hspace : Leaf.space n.after ∈ n.leaves := by cases n <;> simp [Node.leaves, Node.after]
  exact (h _ (Paragraph.mem_leaves hspace (List.mem_of_getLast? hn))).1

theorem endsFresh_modify (h : ∀ n : Node, n.after.modified = none → (f n).after.modified = none)
    (hends : Paragraph.EndsFresh nodes) : Paragraph.EndsFresh (nodes.modify j f) := by
  intro n hn
  rw [List.getLast?_eq_getElem?, List.length_modify, List.getElem?_modify] at hn
  obtain ⟨m, hm, rfl⟩ := Option.map_eq_some_iff.mp hn
  have hfresh := hends m (by rw [List.getLast?_eq_getElem?]; exact hm)
  split
  · exact h m hfresh
  · exact hfresh

/-- A gap is not at the end. -/
theorem endsFresh_modify_of_lt (inside : j + 1 < nodes.length) (hends : Paragraph.EndsFresh nodes) :
    Paragraph.EndsFresh (nodes.modify j f) := by
  intro n hn
  have hne : j ≠ nodes.length - 1 := by omega
  rw [List.getLast?_eq_getElem?, List.length_modify, List.getElem?_modify_ne _ _ hne] at hn
  exact hends n (by rw [List.getLast?_eq_getElem?]; exact hn)

theorem endsFresh_set {n n' : Node} (here : nodes[i]? = some n)
    (h : n.after.modified = none → n'.after.modified = none) (hends : Paragraph.EndsFresh nodes) :
    Paragraph.EndsFresh (nodes.set i n') := by
  intro m hm
  rw [List.getLast?_eq_getElem?, List.length_set, List.getElem?_set] at hm
  split at hm
  · next hi =>
    split at hm
    · cases hm
      exact h (hends n (by rw [List.getLast?_eq_getElem?, ← hi]; exact here))
    · cases hm
  · exact hends m (by rw [List.getLast?_eq_getElem?]; exact hm)

/-- No write is to the space at the end. -/
theorem Write.endsFresh {config : Config} {nodes' : List Node} (h : Write config i nodes nodes')
    (hends : Paragraph.EndsFresh nodes) : Paragraph.EndsFresh nodes' := by
  cases h with
  | close inside => exact endsFresh_modify_of_lt inside hends
  | fill _ right _ _ =>
    exact endsFresh_modify_of_lt (List.getElem?_eq_some_iff.mp right).1 hends
  | restore inside => exact endsFresh_modify_of_lt inside hends
  | closeInside => exact endsFresh_modify (fun n h => by cases n <;> exact h) hends
  | resizeMark here _ => exact endsFresh_set here (fun h => h) hends
  | resizeQuote here => exact endsFresh_set here (fun h => h) hends
  | restyleQuote here => exact endsFresh_set here (fun h => h) hends
  | restoreStop here _ => exact endsFresh_set here (fun _ => rfl) hends

theorem Node.after_sweep (rules : List Rule) (config : Config) (n : Node) :
    (n.sweep rules config).after = n.after := by
  cases n with
  | group o inner ns c a => rw [Node.sweep]; rfl
  | char v a => rw [Node.sweep]
  | half v a => rw [Node.sweep]
  | full v a => rw [Node.sweep]
  | event e s a => rw [Node.sweep]

theorem sweepInside_eq_map (rules : List Rule) (config : Config) (nodes : List Node) :
    sweepInside rules config nodes = nodes.map (Node.sweep rules config) := by
  induction nodes with
  | nil => rw [sweepInside, List.map_nil]
  | cons n nodes ih => rw [sweepInside, ih, List.map_cons]

/-- A pass leaves the space at the end of a paragraph as it is. -/
theorem endsFresh_polish (config : Config) (hends : Paragraph.EndsFresh nodes) :
    Paragraph.EndsFresh (polish config nodes) := by
  refine Rule.applyAll_writes (fun _ _ _ h => h.endsFresh) Rule.all fun n hn => ?_
  rw [sweepInside_eq_map, List.getLast?_map] at hn
  obtain ⟨m, hm, rfl⟩ := Option.map_eq_some_iff.mp hn
  rw [Node.after_sweep]
  exact hends m hm

end EndsFresh

end CjkProse
