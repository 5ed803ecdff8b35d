import CjkProse.Proofs.Rule.Serving

/-!
# Nodes without their spaces

Most of what is asked about a node does not depend on the space that follows it, and most of what a
rule does is to set such spaces.  So the nodes of a list are looked at without their spaces, the
*bodies*.  Where a gap is and who owns it is told by the bodies.

## Main definitions

* `Node.body` — a node without its space.
* `SameBodies` — lists of nodes that differ in their spaces only.

## Main results

* `Node.Lasting.body` — a lasting trait is one of the body.
* `Rule.map_body_stateAt` — **a body stays as it is once the pass has been at the node.**
-/

namespace CjkProse

open Neighbours

/-! ### Nodes without their spaces -/

/-- A node without the space that follows it. -/
def Node.body (n : Node) : Node := n.mapAfter fun _ => default

@[simp] theorem Node.body_mapAfter (g : Revisable Space → Revisable Space) (n : Node) :
    (n.mapAfter g).body = n.body := by cases n <;> rfl

@[simp] theorem Node.body_setAfter (s : Space) (n : Node) : (n.setAfter s).body = n.body :=
  n.body_mapAfter _

@[simp] theorem Node.body_revertAfter (n : Node) : n.revertAfter.body = n.body := n.body_mapAfter _

/-- A lasting trait is one of the body. -/
theorem Node.Lasting.body {α : Type} {f : Node → α} (hf : Node.Lasting f) (n : Node) :
    f n.body = f n := hf.mapAfter _ n

/-- Two nodes with one body differ in their spaces only. -/
theorem Node.mapAfter_of_body {n n' : Node} (h : n'.body = n.body) :
    n.mapAfter (fun _ => n'.after) = n' := by
  cases n <;> cases n' <;> simp_all [body, mapAfter, after]

/-- A node of which the body is known. -/
theorem exists_of_map_body {found : Option Node} {n : Node}
    (h : found.map Node.body = some n.body) : ∃ a, found = some (n.mapAfter fun _ => a) := by
  obtain ⟨n', rfl, hbody⟩ := Option.map_eq_some_iff.mp h
  exact ⟨n'.after, by rw [Node.mapAfter_of_body hbody]⟩

/-- What lasts is the same when bodies are. -/
theorem map_eq_of_map_body {α : Type} {f : Node → α} (hf : Node.Lasting f)
    {nodes nodes' : List Node} (h : nodes'.map Node.body = nodes.map Node.body) :
    nodes'.map f = nodes.map f := by
  have hmap : ∀ ns : List Node, ns.map f = (ns.map Node.body).map f := by
    intro ns
    rw [List.map_map]
    exact List.map_congr_left fun n _ => (hf.body n).symm
  rw [hmap, h, ← hmap]

/-- A lasting trait of one node. -/
theorem Lasts.eq_of_getElem? {nodes nodes' : List Node} (h : Lasts nodes nodes') {α : Type}
    {f : Node → α} (hf : Node.Lasting f) {k : Nat} {n n' : Node} (here : nodes[k]? = some n)
    (here' : nodes'[k]? = some n') : f n' = f n := by
  have hget := congrArg (·[k]?) (h.map_eq hf)
  simpa [here, here'] using hget

theorem Lasts.exists_getElem? {nodes nodes' : List Node} (h : Lasts nodes nodes') {k : Nat}
    {n : Node} (here : nodes[k]? = some n) : ∃ n', nodes'[k]? = some n' := by
  have hlt := (List.getElem?_eq_some_iff.mp here).1
  rw [← h.length_eq] at hlt
  exact ⟨nodes'[k], List.getElem?_eq_getElem hlt⟩

theorem Lasts.symm {nodes nodes' : List Node} (h : Lasts nodes nodes')
    (class_ : ∀ n ∈ nodes, n.KeepsClass) : Lasts nodes' nodes :=
  ⟨class_, fun hf => (h.map_eq hf).symm⟩

/-! ### Lists with the same bodies -/

/-- Lists with the same nodes but for their spaces. -/
structure SameBodies (nodes nodes' : List Node) : Prop where
  /-- The bodies are the same. -/
  map_body : nodes'.map Node.body = nodes.map Node.body

namespace SameBodies

variable {nodes nodes' nodes'' : List Node}

theorem refl : SameBodies nodes nodes := ⟨rfl⟩

theorem trans (h : SameBodies nodes nodes') (h' : SameBodies nodes' nodes'') :
    SameBodies nodes nodes'' := ⟨h'.map_body.trans h.map_body⟩

theorem ite {p : Prop} [Decidable p] (h : SameBodies nodes nodes')
    (h' : SameBodies nodes nodes'') : SameBodies nodes (if p then nodes' else nodes'') := by
  split
  · exact h
  · exact h'

theorem modify {g : Node → Node} (hg : ∀ n, (g n).body = n.body) (j : Nat) :
    SameBodies nodes (nodes.modify j g) := ⟨map_modify_eq hg nodes j⟩

theorem map_eq (h : SameBodies nodes nodes') {α : Type} {f : Node → α} (hf : Node.Lasting f) :
    nodes'.map f = nodes.map f := map_eq_of_map_body hf h.map_body

theorem visibleAfter? (h : SameBodies nodes nodes') (i : Nat) :
    Neighbours.visibleAfter? nodes' i = Neighbours.visibleAfter? nodes i :=
  visibleAfter?_congr (h.map_eq lasting_isWrapper)

theorem spaceAfterHolder? (h : SameBodies nodes nodes') (i : Nat) :
    Neighbours.spaceAfterHolder? nodes' i = Neighbours.spaceAfterHolder? nodes i := by
  unfold Neighbours.spaceAfterHolder?
  rw [h.visibleAfter?]
  simp only [gapHolder_congr (h.map_eq (lasting_isEventOf .closing))]

/-- The body of a node at an index. -/
theorem map_getElem? (h : SameBodies nodes nodes') (k : Nat) :
    nodes'[k]?.map Node.body = nodes[k]?.map Node.body := by
  rw [← List.getElem?_map, ← List.getElem?_map, h.map_body]

theorem map_nodeAfter? (h : SameBodies nodes nodes') (i : Nat) :
    (nodeAfter? nodes' i).map Node.body = (nodeAfter? nodes i).map Node.body := by
  unfold nodeAfter?
  rw [h.visibleAfter?]
  cases Neighbours.visibleAfter? nodes i with
  | none => rfl
  | some r => exact h.map_getElem? r

end SameBodies

/-- What is told by the body of a node. -/
theorem any_map_body {p : Node → Bool} (hp : ∀ n, p n.body = p n) (found : Option Node) :
    (found.map Node.body).any p = found.any p := by
  cases found with
  | none => rfl
  | some n => exact hp n

theorem any_of_map_body {p : Node → Bool} (hp : ∀ n, p n.body = p n) {found found' : Option Node}
    (h : found'.map Node.body = found.map Node.body) : found'.any p = found.any p := by
  rw [← any_map_body hp, h, any_map_body hp]

/-! ### Where bodies are written to -/

/-- A write at an index leaves the bodies of the other nodes alone. -/
theorem Write.map_body {config : Config} {i : Nat} {nodes nodes' : List Node}
    (h : Write config i nodes nodes') {k : Nat} (hk : i ≠ k) :
    nodes'[k]?.map Node.body = nodes[k]?.map Node.body := by
  -- a write to a space may be at another index, but leaves all bodies alone
  have hspace : ∀ (g : Revisable Space → Revisable Space) (j : Nat),
      (nodes.modify j (Node.mapAfter g))[k]?.map Node.body = nodes[k]?.map Node.body :=
    fun g j => (SameBodies.modify (Node.body_mapAfter g) j).map_getElem? k
  cases h with
  | close inside => exact hspace _ _
  | fill left right hm hn => exact hspace _ _
  | restore inside => exact hspace _ _
  | closeInside => rw [List.getElem?_modify_ne _ _ hk]
  | resizeMark here hv => rw [List.getElem?_set_ne hk]
  | resizeQuote here => rw [List.getElem?_set_ne hk]
  | restyleQuote here => rw [List.getElem?_set_ne hk]
  | restoreStop here stop => rw [List.getElem?_set_ne hk]

namespace Rule

variable {config : Config} {nodes : List Node}

/-- All rules at an index leave the bodies of the other nodes alone. -/
theorem map_body_applyAllAt {rules : List Rule} {i k : Nat} (hk : i ≠ k) :
    (applyAllAt rules config nodes i)[k]?.map Node.body = nodes[k]?.map Node.body := by
  unfold applyAllAt
  induction rules generalizing nodes with
  | nil => rfl
  | cons r rules ih =>
    rw [List.foldl_cons, ih]
    exact r.applyAt_writes (P := fun ns => ns[k]?.map Node.body = nodes[k]?.map Node.body)
      (fun _ _ hwrite h => (hwrite.map_body hk).trans h) rfl

/-- The body of a node stays as it is once the pass has been at the node. -/
theorem map_body_stateAt {i i' k : Nat} (hki : k < i) (hi : i ≤ i') :
    (stateAt config nodes i')[k]?.map Node.body = (stateAt config nodes i)[k]?.map Node.body := by
  induction hi with
  | refl => rfl
  | @step m hm ih =>
    rw [stateAt_succ, map_body_applyAllAt (Nat.ne_of_gt (Nat.lt_of_lt_of_le hki hm)), ih]

end Rule

end CjkProse
