import CjkProse.Proofs.Rule.Brackets
import CjkProse.Proofs.Rule.Gaps

/-!
# What stands in quotations

A pass goes over the list in a quotation before it goes over the list that holds it.  What it does
to the quotation later on, from the outside, reaches the space at the end of the inner list and
nothing else in it.  So every list of a paragraph that has been polished is itself a polished list
of the paragraph as it was, but for this space.

## Main definitions

* `NodesWithin` — the lists of a paragraph, at any depth.
* `SameButEnd` — lists that differ in the space at their end only.
* `Node.Quotes` — what a quotation holds has a property.
* `Polished` — a list of which a pass over some nodes has made another.
* `EndsClosed` — the space at the end is that of the source or has been emptied.

## Main results

* `exists_nodesWithin_polish` — **every list of a polished paragraph has been polished.**
* `exists_polished` — so has every one of a paragraph that has only been read before.
* `endsFresh_or_endsClosed` — **only the end of a quotation loses its space.**
-/

namespace CjkProse

open Neighbours

/-! ### Lists within lists -/

/-- The nodes in a quotation. -/
def Node.quoted? : Node → Option (List Node)
  | .group _ _ ns _ _ => some ns
  | _ => none

/-- A list of nodes is a list itself or stands in one of its quotations, at any depth. -/
inductive NodesWithin : List Node → List Node → Prop
  /-- The list itself. -/
  | whole (nodes : List Node) : NodesWithin nodes nodes
  /-- A list in a quotation. -/
  | inside {nodes ns ms : List Node} {n : Node} (mem : n ∈ nodes) (quoted : n.quoted? = some ns)
      (within : NodesWithin ns ms) : NodesWithin nodes ms

/-- Two lists differ at most in the space at their end. -/
def SameButEnd (nodes nodes' : List Node) : Prop :=
  ∃ g, nodes' = Rules.mapLast (Node.mapAfter g) nodes

namespace SameButEnd

variable {nodes nodes' nodes'' : List Node}

theorem refl (nodes : List Node) : SameButEnd nodes nodes := by
  refine ⟨id, ?_⟩
  have hid : Node.mapAfter id = id := by
    funext n
    cases n <;> rfl
  rw [hid, Rules.mapLast, List.modify_id]

theorem trans (h : SameButEnd nodes nodes') (h' : SameButEnd nodes' nodes'') :
    SameButEnd nodes nodes'' := by
  obtain ⟨g, rfl⟩ := h
  obtain ⟨g', rfl⟩ := h'
  refine ⟨g' ∘ g, ?_⟩
  have hcomp : Node.mapAfter g' ∘ Node.mapAfter g = Node.mapAfter (g' ∘ g) := by
    funext n
    cases n <;> rfl
  rw [Rules.mapLast, Rules.mapLast, Rules.mapLast, List.length_modify, List.modify_modify_eq, hcomp]

theorem sameBodies (h : SameButEnd nodes nodes') : SameBodies nodes nodes' := by
  obtain ⟨g, rfl⟩ := h
  exact .modify (Node.body_mapAfter g) _

/-- A node that is not the last one. -/
theorem getElem? (h : SameButEnd nodes nodes') {k : Nat} (hk : k + 1 < nodes.length) :
    nodes'[k]? = nodes[k]? := by
  obtain ⟨g, rfl⟩ := h
  have hne : nodes.length - 1 ≠ k := by omega
  exact List.getElem?_modify_ne _ _ hne

theorem length_eq (h : SameButEnd nodes nodes') : nodes'.length = nodes.length := by
  obtain ⟨g, rfl⟩ := h
  exact List.length_modify _ _ _

/-- The same lists stand in the quotations. -/
theorem exists_of_mem (h : SameButEnd nodes nodes') {n : Node} (mem : n ∈ nodes') :
    ∃ m ∈ nodes, m.quoted? = n.quoted? := by
  obtain ⟨g, rfl⟩ := h
  refine forall_mem_modify (P := fun n => ∃ m ∈ nodes, m.quoted? = n.quoted?)
    (fun m hm => ⟨m, hm, rfl⟩) ?_ n mem
  rintro n ⟨m, hm, hquoted⟩
  refine ⟨m, hm, hquoted.trans ?_⟩
  cases n <;> rfl

end SameButEnd

/-! ### What a pass does to the lists in quotations -/

/-- What a quotation holds has a property. -/
def Node.Quotes (Q : List Node → Prop) (n : Node) : Prop := ∀ ns, n.quoted? = some ns → Q ns

section Quotes

variable {Q : List Node → Prop} {n n' : Node}

theorem Node.Quotes.of_quoted? (h : n.Quotes Q) (quoted : n'.quoted? = n.quoted?) :
    n'.Quotes Q := fun ns hns => h ns (quoted ▸ hns)

theorem Node.Quotes.mapAfter (h : n.Quotes Q) (g : Revisable Space → Revisable Space) :
    (n.mapAfter g).Quotes Q := h.of_quoted? (by cases n <;> rfl)

/-- Of the nodes in a quotation at most the last one has its space emptied. -/
theorem Node.Quotes.closeInside (h : n.Quotes Q)
    (closed : ∀ ns, Q ns → Q (Rules.mapLast (Node.setAfter Space.empty) ns)) :
    (Rules.closeInside n).Quotes Q := by
  cases n with
  | group o inner ns c a =>
    intro ns' hns'
    cases hns'
    split
    · exact h ns rfl
    · exact closed ns (h ns rfl)
  | char v a => exact h
  | half v a => exact h
  | full v a => exact h
  | event e s a => exact h

/-- One write. -/
theorem Write.quotes {config : Config} {i : Nat} {nodes nodes' : List Node}
    (h : Write config i nodes nodes')
    (closed : ∀ ns, Q ns → Q (Rules.mapLast (Node.setAfter Space.empty) ns))
    (quotes : ∀ n ∈ nodes, n.Quotes Q) : ∀ n ∈ nodes', n.Quotes Q := by
  cases h with
  | close inside => exact forall_mem_modify quotes fun n hn => hn.mapAfter _
  | fill left right hm hn => exact forall_mem_modify quotes fun n hn => hn.mapAfter _
  | restore inside => exact forall_mem_modify quotes fun n hn => hn.mapAfter _
  | closeInside => exact forall_mem_modify quotes fun n hn => hn.closeInside closed
  | resizeMark here hv => exact forall_mem_set quotes fun ns hns => by cases hns
  | resizeQuote here =>
    exact forall_mem_set quotes ((quotes _ (List.mem_of_getElem? here)).of_quoted? rfl)
  | restyleQuote here =>
    exact forall_mem_set quotes ((quotes _ (List.mem_of_getElem? here)).of_quoted? rfl)
  | restoreStop here stop => exact forall_mem_set quotes fun ns hns => by cases hns

/-- A pass. -/
theorem quotes_applyAll {config : Config} {nodes : List Node}
    (closed : ∀ ns, Q ns → Q (Rules.mapLast (Node.setAfter Space.empty) ns))
    (quotes : ∀ n ∈ nodes, n.Quotes Q) :
    ∀ n ∈ Rule.applyAll Rule.all config nodes, n.Quotes Q :=
  Rule.applyAll_writes (P := fun ns => ∀ n ∈ ns, n.Quotes Q)
    (fun _ _ _ hwrite => hwrite.quotes closed) Rule.all quotes

end Quotes

/-- A quotation of some list holds what one of another list holds, but for the space at the end. -/
def Node.Holds (nodes : List Node) (n : Node) : Prop :=
  ∀ ns, n.quoted? = some ns → ∃ m ∈ nodes, ∃ ms, m.quoted? = some ms ∧ SameButEnd ms ns

/-- A pass over a list changes what its quotations hold at most at the end. -/
theorem holds_applyAll (config : Config) (nodes : List Node) :
    ∀ n ∈ Rule.applyAll Rule.all config nodes, n.Holds nodes := by
  refine quotes_applyAll (Q := fun ns => ∃ m ∈ nodes, ∃ ms, m.quoted? = some ms ∧ SameButEnd ms ns)
    ?_ fun n hn ns hns => ⟨n, hn, ns, hns, .refl ns⟩
  rintro ns ⟨m, hm, ms, hms, hsame⟩
  exact ⟨m, hm, ms, hms, hsame.trans ⟨fun a => a.revise Space.empty, rfl⟩⟩

/-- What a quotation holds when its inside has been done. -/
theorem quoted?_sweep (config : Config) (n : Node) :
    (n.sweep Rule.all config).quoted? = n.quoted?.map (polish config) := by
  cases n with
  | group o inner ns c a => rw [Node.sweep]; rfl
  | char v a => rw [Node.sweep]; rfl
  | half v a => rw [Node.sweep]; rfl
  | full v a => rw [Node.sweep]; rfl
  | event e s a => rw [Node.sweep]; rfl

/-- **Every list of a polished paragraph has been polished,** but for the space at its end. -/
theorem exists_nodesWithin_polish {config : Config} {nodes ns : List Node}
    (within : NodesWithin nodes ns) : ∀ {src : List Node}, SameButEnd (polish config src) nodes →
      ∃ ms, NodesWithin src ms ∧ SameButEnd (polish config ms) ns := by
  induction within with
  | whole nodes =>
    intro src hsame
    exact ⟨src, .whole src, hsame⟩
  | @inside nodes ns ms n mem quoted _ ih =>
    intro src hsame
    -- the quotation holds what one of the list has held when its inside has been done
    obtain ⟨m, hm, hquoted⟩ := hsame.exists_of_mem mem
    obtain ⟨m', hm', ns', hns', hsame'⟩ := holds_applyAll config _ m hm ns (hquoted.trans quoted)
    rw [sweepInside_eq_map] at hm'
    obtain ⟨q, hq, rfl⟩ := List.mem_map.mp hm'
    rw [quoted?_sweep] at hns'
    obtain ⟨qs, hqs, rfl⟩ := Option.map_eq_some_iff.mp hns'
    obtain ⟨ms', hwithin, hlast⟩ := ih hsame'
    exact ⟨ms', .inside hq hqs hwithin, hlast⟩

/-! ### Paragraphs that have been read -/

/-- The leaves of the lists in a paragraph are leaves of the paragraph. -/
theorem NodesWithin.leaves {nodes ns : List Node} (within : NodesWithin nodes ns) :
    ∀ l ∈ Paragraph.leaves ns, l ∈ Paragraph.leaves nodes := by
  induction within with
  | whole nodes => exact fun _ hl => hl
  | @inside nodes ns ms n mem quoted _ ih =>
    intro l hl
    have hnode : l ∈ n.leaves := by
      cases n with
      | group o inner ns' c a =>
        cases quoted
        rw [Node.leaves]
        simp [ih l hl]
      | char v a => cases quoted
      | half v a => cases quoted
      | full v a => cases quoted
      | event e s a => cases quoted
    exact Paragraph.mem_leaves hnode mem

/-- A pass over some nodes has made another list of them, but for the space at the end.  The nodes
had not been revised. -/
structure Polished (config : Config) (nodes ns : List Node) : Prop where
  /-- The nodes had not been revised. -/
  unrevised : ∀ n ∈ nodes, n.IsUnrevised
  /-- Neither had the marks of their quotations. -/
  quotes : ∀ o inner ms c a, Node.group o inner ms c a ∈ nodes →
    o.modified = none ∧ c.modified = none
  /-- The pass. -/
  pass : SameButEnd (Rule.applyAll Rule.all config nodes) ns

namespace Polished

variable {config : Config} {nodes ns : List Node} {l k r : Nat}

theorem keepsClass (h : Polished config nodes ns) : ∀ n ∈ nodes, n.KeepsClass :=
  fun n hn => (h.unrevised n hn).keepsClass

/-- What lasts of the nodes is there in the end. -/
theorem lasts (h : Polished config nodes ns) : Lasts nodes ns := by
  have hlasts := @Rule.lasts_stateAt config nodes h.keepsClass nodes.length
  rw [Rule.stateAt_length] at hlasts
  -- the space at the end is no lasting trait
  refine hlasts.trans ⟨?_, h.pass.sameBodies.map_eq⟩
  obtain ⟨g, hg⟩ := h.pass
  rw [hg]
  exact forall_mem_modify hlasts.keepsClass fun n hn => hn.mapAfter g

/-- It is there all along. -/
theorem lasts_stateAt (h : Polished config nodes ns) (i : Nat) :
    Lasts ns (Rule.stateAt config nodes i) :=
  (h.lasts.symm h.keepsClass).trans (Rule.lasts_stateAt h.keepsClass i)

/-- Once the pass has been at a node its body is as it is in the end. -/
theorem map_body (h : Polished config nodes ns) {i : Nat} (hki : k < i) (hi : i ≤ nodes.length) :
    ns[k]?.map Node.body = (Rule.stateAt config nodes i)[k]?.map Node.body := by
  rw [h.pass.sameBodies.map_getElem?, ← Rule.stateAt_length, Rule.map_body_stateAt hki hi]

/-- The gaps are the same as at first. -/
theorem gap (h : Polished config nodes ns) (gap : Gap ns l k r) : Gap nodes l k r :=
  gap.congr (h.lasts.map_eq lasting_isWrapper).symm
    (h.lasts.map_eq (lasting_isEventOf .closing)).symm

/-- A gap is in the end as the rules have left it at the right node. -/
theorem spaceAt (h : Polished config nodes ns) (gap : Gap nodes l k r) :
    CjkProse.spaceAt ns k =
      CjkProse.spaceAt (Rule.applyAllAt Rule.all config (Rule.stateAt config nodes r) r) k := by
  have hlt : k + 1 < (Rule.applyAll Rule.all config nodes).length := by
    rw [← h.pass.length_eq, h.lasts.length_eq]
    exact Nat.lt_of_le_of_lt gap.holder_lt gap.lt_length
  rw [← gap.spaceAt_applyAll, CjkProse.spaceAt, h.pass.getElem? hlt, CjkProse.spaceAt]

/-- A node that owns no gap is in the end as the rules have left it. -/
theorem getElem?_of_apart (h : Polished config nodes ns) {i : Nat} (hi : i + 1 < ns.length)
    (apart : ∀ l r, ¬ Gap ns l i r) :
    ns[i]? = (Rule.applyAllAt Rule.all config (Rule.stateAt config nodes i) i)[i]? := by
  have hlt : i + 1 < (Rule.applyAll Rule.all config nodes).length := h.pass.length_eq ▸ hi
  have hapart : ∀ l r, ¬ Gap nodes l i r := fun l r gap => apart l r (gap.lasts h.lasts)
  have hpass : (Rule.stateAt config nodes nodes.length)[i]? =
      (Rule.stateAt config nodes (i + 1))[i]? :=
    Rule.getElem?_stateAt_of_apart h.keepsClass hapart (Nat.lt_succ_self i)
      (Nat.le_of_lt (h.lasts.length_eq ▸ hi)) (Nat.le_refl nodes.length)
  rw [Rule.stateAt_length, Rule.stateAt_succ] at hpass
  rw [h.pass.getElem? hlt, hpass]

/-- A gap is at first as it is in the source. -/
theorem exists_spaceAt (h : Polished config nodes ns) (gap : Gap nodes l k r) :
    ∃ a, CjkProse.spaceAt nodes k = some a ∧ a.value = a.original := by
  have hlt := Nat.lt_trans gap.holder_lt gap.lt_length
  have hfresh := (h.unrevised _ (List.getElem_mem hlt)).after
  refine ⟨nodes[k].after, ?_, ?_⟩
  · rw [CjkProse.spaceAt, List.getElem?_eq_getElem hlt, Option.map_some]
  · rw [Revisable.value, hfresh, Option.getD_none]

/-- What is in a gap in the end, by what the rules do to it at the left node and at the right. -/
theorem exists_space (h : Polished config nodes ns) (gap : Gap nodes l k r)
    {f g : Revisable Space → Revisable Space}
    (left : CjkProse.spaceAt
      (Rule.applyAllAt Rule.all config (Rule.stateAt config nodes l) l) k =
        (CjkProse.spaceAt (Rule.stateAt config nodes l) k).map f)
    (right : CjkProse.spaceAt
      (Rule.applyAllAt Rule.all config (Rule.stateAt config nodes r) r) k =
        (CjkProse.spaceAt (Rule.stateAt config nodes r) k).map g) :
    ∃ a, a.value = a.original ∧ CjkProse.spaceAt ns k = some (g (f a)) := by
  obtain ⟨a, ha, hvalue⟩ := h.exists_spaceAt gap
  refine ⟨a, hvalue, ?_⟩
  rw [h.spaceAt gap, right, gap.spaceAt_stateAt_right h.keepsClass, left, gap.spaceAt_stateAt_left,
    ha, Option.map_some, Option.map_some]

end Polished

/-- **Every list of a paragraph has been made by a pass.** -/
theorem exists_polished {config : Config} {b : Block} {p : Paragraph} (parsed : b.parse = .ok p)
    {ns : List Node} (within : NodesWithin (polish config p) ns) :
    ∃ nodes, Polished config nodes ns := by
  obtain ⟨ms, hms, hsame⟩ := exists_nodesWithin_polish within (.refl (polish config p))
  have hfresh : ∀ l ∈ Paragraph.leaves ms, l.IsFresh :=
    fun l hl => (Block.spells_of_parse parsed 0).isFresh l (hms.leaves l hl)
  refine ⟨sweepInside Rule.all config ms, ?_, ?_, hsame⟩
  · exact isUnrevised_sweepInside (isUnrevised_of_fresh hfresh)
  · intro o inner ns' c a mem
    rw [sweepInside_eq_map] at mem
    obtain ⟨n, hn, hgroup⟩ := List.mem_map.mp mem
    have hleaves : ∀ l ∈ n.leaves, l.IsFresh := fun l hl => hfresh l (Paragraph.mem_leaves hl hn)
    cases n with
    | group o' inner' ns'' c' a' =>
      rw [Node.sweep] at hgroup
      cases hgroup
      exact ⟨hleaves (.mark o) (by simp [Node.leaves]), hleaves (.mark c) (by simp [Node.leaves])⟩
    | char v b => rw [Node.sweep] at hgroup; cases hgroup
    | half v b => rw [Node.sweep] at hgroup; cases hgroup
    | full v b => rw [Node.sweep] at hgroup; cases hgroup
    | event e s b => rw [Node.sweep] at hgroup; cases hgroup

/-! ### The end of a list -/

/-- The space at the end of a list is that of the source or has been emptied. -/
def EndsClosed (nodes : List Node) : Prop := ∀ n ∈ nodes.getLast?, n.OnlyCloses

theorem endsClosed_of_endsFresh {nodes : List Node} (h : Paragraph.EndsFresh nodes) :
    EndsClosed nodes := fun n hn => .inl (h n hn)

theorem endsClosed_closeLast (nodes : List Node) :
    EndsClosed (Rules.mapLast (Node.setAfter Space.empty) nodes) := by
  intro n hn
  rw [Rules.mapLast, List.getLast?_eq_getElem?, List.length_modify, List.getElem?_modify_eq] at hn
  obtain ⟨m, -, rfl⟩ := Option.map_eq_some_iff.mp hn
  exact m.onlyCloses_setAfter_empty

/-- The lists in the quotations of a list, when it has been polished. -/
theorem quotes_polish (config : Config) {nodes : List Node}
    (fresh : ∀ l ∈ Paragraph.leaves nodes, l.IsFresh) :
    ∀ n ∈ polish config nodes, n.Quotes EndsClosed := by
  refine quotes_applyAll (fun ns _ => endsClosed_closeLast ns) ?_
  intro n hn ns hns
  rw [sweepInside_eq_map] at hn
  obtain ⟨q, hq, rfl⟩ := List.mem_map.mp hn
  rw [quoted?_sweep] at hns
  obtain ⟨qs, hqs, rfl⟩ := Option.map_eq_some_iff.mp hns
  have hwithin : NodesWithin nodes qs := .inside hq hqs (.whole qs)
  apply endsClosed_of_endsFresh
  exact endsFresh_polish config (endsFresh_of_isFresh fun l hl => fresh l (hwithin.leaves l hl))

/-- A list in a paragraph is the paragraph itself or stands in a quotation there. -/
theorem NodesWithin.eq_or_exists_quoted {nodes ns : List Node} (within : NodesWithin nodes ns) :
    ns = nodes ∨ ∃ ms, NodesWithin nodes ms ∧ ∃ n ∈ ms, n.quoted? = some ns := by
  induction within with
  | whole nodes => exact .inl rfl
  | @inside nodes ns ms n mem quoted _ ih =>
    right
    rcases ih with rfl | ⟨ms', hwithin, hquoted⟩
    · exact ⟨nodes, .whole nodes, n, mem, quoted⟩
    · exact ⟨ms', .inside mem quoted hwithin, hquoted⟩

/-- **The space at the end of a paragraph is that of the source, and at the end of a quotation it
may have been emptied.** -/
theorem endsFresh_or_endsClosed {config : Config} {b : Block} {p : Paragraph}
    (parsed : b.parse = .ok p) {ns : List Node} (within : NodesWithin (polish config p) ns) :
    Paragraph.EndsFresh ns ∨ EndsClosed ns ∧
      ∃ ms, NodesWithin (polish config p) ms ∧ ∃ n ∈ ms, n.quoted? = some ns := by
  have hfresh := (Block.spells_of_parse parsed 0).isFresh
  rcases within.eq_or_exists_quoted with rfl | ⟨ms, hms, n, hn, hquoted⟩
  · exact .inl (endsFresh_polish config (endsFresh_of_isFresh hfresh))
  · refine .inr ⟨?_, ms, hms, n, hn, hquoted⟩
    obtain ⟨qs, hqs, hsame⟩ := exists_nodesWithin_polish hms (.refl (polish config p))
    obtain ⟨m, hm, hsame'⟩ := hsame.exists_of_mem hn
    exact quotes_polish config (fun l hl => hfresh l (hqs.leaves l hl)) m hm ns
      (hsame'.trans hquoted)

end CjkProse
