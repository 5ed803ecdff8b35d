import CjkProse.Proofs.Rule.Blank
import CjkProse.Proofs.Rule.Directed
import CjkProse.Proofs.Rule.Matching
import CjkProse.Proofs.Rule.Writes

/-!
# What lasts of a node

Whatever is written to a node, a run of letters stays what it is, a mark stays one of its class, and
no wrapper comes or goes.  So the brackets of a list match in the same way all along.

## Main definitions

* `Node.Lasting` — traits of nodes that no write changes.
* `Node.IsUnrevised` — nodes that have not been written to.
* `Lasts` — what lasts of a list while it is written to.

## Main results

* `Write.lasts`, `Lasts.applyAllAt` — every write, and so every rule, leaves what lasts.
* `Node.Lasting.map₂` — what is told by lasting traits lasts.
* `lasting_isCharAnd` — what is the same for all marks of a class lasts.
* `Lasts.matchingRight?`, `Lasts.matchingLeft?` — the brackets that match last.
-/

namespace CjkProse

open Neighbours

/-- A trait of nodes that no write changes.  It depends on no space and on nothing about a quotation
but that it is one, and marks of one class have it alike. -/
structure Node.Lasting {α : Type} (f : Node → α) : Prop where
  /-- It does not depend on the space after a node. -/
  mapAfter : ∀ g n, f (n.mapAfter g) = f n
  /-- It is the same for all quotations. -/
  group : ∀ o inner ns c a o' inner' ns' c' a',
    f (.group o inner ns c a) = f (.group o' inner' ns' c' a')
  /-- It is the same for all marks of a class. -/
  char : ∀ v w a b, canonical v.value = canonical w.value → f (.char v a) = f (.char w b)

/-- What is told by two lasting traits lasts. -/
theorem Node.Lasting.map₂ {α β γ : Type} (op : α → β → γ) {f : Node → α} {g : Node → β}
    (hf : Node.Lasting f) (hg : Node.Lasting g) : Node.Lasting fun n => op (f n) (g n) where
  mapAfter k n := by rw [hf.mapAfter, hg.mapAfter]
  group o inner ns c a o' inner' ns' c' a' := by
    rw [hf.group o inner ns c a o' inner' ns' c' a', hg.group o inner ns c a o' inner' ns' c' a']
  char v w a b h := by rw [hf.char v w a b h, hg.char v w a b h]

/-- A mark is, by now, one of the class that it has in the source. -/
def Node.KeepsClass : Node → Prop
  | .char v _ => canonical v.value = canonical v.original
  | _ => True

theorem Node.KeepsClass.mapAfter {n : Node} (h : n.KeepsClass)
    (g : Revisable Space → Revisable Space) : (n.mapAfter g).KeepsClass := by
  cases n <;> exact h

theorem map_modify_eq {α : Type} {f : Node → α} {g : Node → Node} (h : ∀ n, f (g n) = f n)
    (nodes : List Node) (j : Nat) : (nodes.modify j g).map f = nodes.map f := by
  refine List.ext_getElem? fun k => ?_
  rw [List.getElem?_map, List.getElem?_map, List.getElem?_modify]
  cases nodes[k]? with
  | none => rfl
  | some n =>
    show some (f (if j = k then g n else n)) = some (f n)
    split
    · rw [h]
    · rfl

theorem any_eq_of_map_eq {p : Node → Bool} {nodes nodes' : List Node}
    (h : nodes'.map p = nodes.map p) (k : Nat) : nodes'[k]?.any p = nodes[k]?.any p := by
  have hany : ∀ ns : List Node, ns[k]?.any p = (ns.map p)[k]?.any id := by
    intro ns
    rw [List.getElem?_map]
    cases ns[k]? <;> rfl
  rw [hany, h, ← hany]

theorem set_eq_self {α : Type} {xs : List α} {i : Nat} {x : α} (h : xs[i]? = some x) :
    xs.set i x = xs := by
  obtain ⟨hi, rfl⟩ := List.getElem?_eq_some_iff.mp h
  exact List.set_getElem_self hi

theorem map_set_eq {α : Type} {f : Node → α} {nodes : List Node} {i : Nat} {n n' : Node}
    (here : nodes[i]? = some n) (h : f n' = f n) : (nodes.set i n').map f = nodes.map f := by
  rw [List.map_set, h]
  apply set_eq_self
  rw [List.getElem?_map, here, Option.map_some]

theorem forall_mem_set {P : Node → Prop} {nodes : List Node} {i : Nat} {n : Node}
    (h : ∀ m ∈ nodes, P m) (hn : P n) : ∀ m ∈ nodes.set i n, P m := by
  intro m hm
  rcases List.mem_or_eq_of_mem_set hm with hm | rfl
  · exact h m hm
  · exact hn

/-- A node whose space, or whose mark, has not been revised. -/
structure Node.IsUnrevised (n : Node) : Prop where
  /-- The space after it is that of the source. -/
  after : n.after.modified = none
  /-- A mark is that of the source. -/
  mark : ∀ v a, n = .char v a → v.modified = none

theorem Node.IsUnrevised.keepsClass {n : Node} (h : n.IsUnrevised) : n.KeepsClass := by
  cases n with
  | char v a => rw [Node.KeepsClass, Revisable.value, h.mark v a rfl, Option.getD_none]
  | half v a => trivial
  | full v a => trivial
  | event e s a => trivial
  | group o inner ns c a => trivial

/-- The spaces and marks of a list of nodes that has only been read have no revisions. -/
theorem isUnrevised_of_fresh {nodes : List Node} (fresh : ∀ l ∈ Paragraph.leaves nodes, l.IsFresh) :
    ∀ n ∈ nodes, n.IsUnrevised := by
  intro n hn
  have hleaves : ∀ l ∈ n.leaves, l.IsFresh := fun l hl => fresh l (Paragraph.mem_leaves hl hn)
  constructor
  · have hspace : Leaf.space n.after ∈ n.leaves := by cases n <;> simp [Node.leaves, Node.after]
    exact (hleaves _ hspace).1
  · rintro v a rfl
    exact hleaves (.mark v) (by simp [Node.leaves])

/-- What lasts of a list while it is written to. -/
structure Lasts (nodes nodes' : List Node) : Prop where
  /-- Its marks stay in the classes that they have in the source. -/
  keepsClass : ∀ n ∈ nodes', n.KeepsClass
  /-- Its lasting traits stay. -/
  map_eq : ∀ {α : Type} {f : Node → α}, Node.Lasting f → nodes'.map f = nodes.map f

/-- One write. -/
theorem Write.lasts {config : Config} {i : Nat} {nodes nodes' : List Node}
    (h : Write config i nodes nodes') (class_ : ∀ n ∈ nodes, n.KeepsClass) :
    Lasts nodes nodes' := by
  cases h with
  | close inside =>
    exact ⟨forall_mem_modify class_ fun n hn => hn.mapAfter _,
      fun hf => map_modify_eq (fun n => hf.mapAfter _ n) nodes _⟩
  | fill left right hm hn =>
    exact ⟨forall_mem_modify class_ fun n hn => hn.mapAfter _,
      fun hf => map_modify_eq (fun n => hf.mapAfter _ n) nodes _⟩
  | restore inside =>
    exact ⟨forall_mem_modify class_ fun n hn => hn.mapAfter _,
      fun hf => map_modify_eq (fun n => hf.mapAfter _ n) nodes _⟩
  | closeInside =>
    refine ⟨forall_mem_modify class_ fun n hn => ?_, fun hf => map_modify_eq (fun n => ?_) nodes _⟩
    · cases n <;> exact hn
    · cases n with
      | group o inner ns c a => exact hf.group ..
      | char v a => rfl
      | half v a => rfl
      | full v a => rfl
      | event e s a => rfl
  | resizeMark here hv =>
    have hclass := class_ _ (List.mem_of_getElem? here)
    refine ⟨forall_mem_set class_ ?_, fun hf => map_set_eq here ?_⟩
    · rw [Node.KeepsClass, Config.canonical_resizeMark, hclass,
        (revised_resizeMark config _).original_mark]
    · exact hf.char _ _ _ _ Config.canonical_resizeMark
  | resizeQuote here =>
    exact ⟨forall_mem_set class_ trivial, fun hf => map_set_eq here (hf.group ..)⟩
  | restyleQuote here =>
    exact ⟨forall_mem_set class_ trivial, fun hf => map_set_eq here (hf.group ..)⟩
  | restoreStop here stop =>
    have hclass := class_ _ (List.mem_of_getElem? here)
    exact ⟨forall_mem_set class_ rfl, fun hf => map_set_eq here (hf.char _ _ _ _ hclass.symm)⟩

namespace Lasts

variable {src nodes nodes' : List Node}

theorem refl (class_ : ∀ n ∈ nodes, n.KeepsClass) : Lasts nodes nodes := ⟨class_, fun _ => rfl⟩

theorem trans (h : Lasts src nodes) (h' : Lasts nodes nodes') : Lasts src nodes' :=
  ⟨h'.keepsClass, fun hf => (h'.map_eq hf).trans (h.map_eq hf)⟩

/-- A lasting trait of the node at an index. -/
theorem any_eq (h : Lasts nodes nodes') {p : Node → Bool} (hp : Node.Lasting p) (k : Nat) :
    nodes'[k]?.any p = nodes[k]?.any p := any_eq_of_map_eq (h.map_eq hp) k

theorem length_eq (h : Lasts nodes nodes') : nodes'.length = nodes.length := by
  have hmap := congrArg List.length (@h.map_eq Unit (fun _ => ()) ⟨by simp, by simp, by simp⟩)
  rwa [List.length_map, List.length_map] at hmap

/-- A rule at a node leaves what lasts. -/
theorem applyAt (h : Lasts src nodes) (r : Rule) (config : Config) (i : Nat) :
    Lasts src (r.applyAt config nodes i) :=
  r.applyAt_writes (fun _ _ hwrite h => h.trans (hwrite.lasts h.keepsClass)) h

/-- So do some rules. -/
theorem applyAllAt (h : Lasts src nodes) (rules : List Rule) (config : Config) (i : Nat) :
    Lasts src (Rule.applyAllAt rules config nodes i) := by
  unfold Rule.applyAllAt
  induction rules generalizing nodes with
  | nil => exact h
  | cons r rules ih => exact ih (h.applyAt r config i)

end Lasts

/-! ### Brackets and other sorts of node -/

theorem isLeftBracket_canonical (c : Char) : isLeftBracket (canonical c) = isLeftBracket c := by
  unfold canonical halfwidth
  split
  case h_5 => split <;> rfl
  all_goals rfl

theorem isRightBracket_canonical (c : Char) : isRightBracket (canonical c) = isRightBracket c := by
  unfold canonical halfwidth
  split
  case h_5 => split <;> rfl
  all_goals rfl

theorem isBracket_eq (c : Char) : isBracket c = (isLeftBracket c || isRightBracket c) := by
  unfold isLeftBracket isRightBracket isBracket isLeft isRight
  cases CharKind.of c <;> rfl

/-- What is the same for all marks of a class lasts. -/
theorem lasting_isCharAnd {p : Char → Bool} (hp : ∀ c, p (canonical c) = p c) :
    Node.Lasting (Node.isCharAnd p) where
  mapAfter g n := by cases n <;> rfl
  group _ _ _ _ _ _ _ _ _ _ := rfl
  char v w _ _ h := by
    show p v.value = p w.value
    rw [← hp, h, hp]

theorem lasting_isLeftBracket : Node.Lasting (Node.isCharAnd isLeftBracket) :=
  lasting_isCharAnd isLeftBracket_canonical

theorem lasting_isRightBracket : Node.Lasting (Node.isCharAnd isRightBracket) :=
  lasting_isCharAnd isRightBracket_canonical

theorem isBracket_canonical (c : Char) : isBracket (canonical c) = isBracket c := by
  rw [isBracket_eq, isBracket_eq, isLeftBracket_canonical, isRightBracket_canonical]

theorem lasting_isBracket : Node.Lasting (Node.isCharAnd isBracket) :=
  lasting_isCharAnd isBracket_canonical

theorem lasting_side? : Node.Lasting Node.side? where
  mapAfter g n := by
    unfold Node.side?
    rw [lasting_isLeftBracket.mapAfter, lasting_isRightBracket.mapAfter]
  group _ _ _ _ _ _ _ _ _ _ := rfl
  char v w a b h := by
    unfold Node.side?
    rw [lasting_isLeftBracket.char v w a b h, lasting_isRightBracket.char v w a b h]

theorem lasting_isHalf : Node.Lasting Node.isHalf where
  mapAfter g n := by cases n <;> rfl
  group _ _ _ _ _ _ _ _ _ _ := rfl
  char _ _ _ _ _ := rfl

theorem lasting_isFull : Node.Lasting Node.isFull where
  mapAfter g n := by cases n <;> rfl
  group _ _ _ _ _ _ _ _ _ _ := rfl
  char _ _ _ _ _ := rfl

theorem lasting_isContent : Node.Lasting Node.isContent := lasting_isHalf.map₂ or lasting_isFull

theorem lasting_isEventOf (k : EventKind) : Node.Lasting (Node.isEventOf k) where
  mapAfter g n := by cases n <;> rfl
  group _ _ _ _ _ _ _ _ _ _ := rfl
  char _ _ _ _ _ := rfl

theorem lasting_isWrapper : Node.Lasting Node.isWrapper :=
  (lasting_isEventOf .opening).map₂ or (lasting_isEventOf .closing)

/-- A node that is some mark. -/
theorem exists_char {p : Char → Bool} {nodes : List Node} {i : Nat}
    (h : nodes[i]?.any (Node.isCharAnd p) = true) :
    ∃ v a, nodes[i]? = some (.char v a) ∧ p v.value = true := by
  obtain ⟨n, hn, hp⟩ := (Option.any_eq_true _ _).mp h
  cases n with
  | char v a => exact ⟨v, a, hn, hp⟩
  | half v a => cases hp
  | full v a => cases hp
  | event e s a => cases hp
  | group o inner ns c a => cases hp

section Lasts

variable {nodes nodes' : List Node}

theorem Lasts.setGap (h : Lasts nodes nodes') (holder : Option Nat) (s : Space) :
    Lasts nodes (setGap nodes' holder s) := by
  cases holder with
  | none => exact h
  | some j =>
    exact ⟨forall_mem_modify h.keepsClass fun n hn => hn.mapAfter _,
      fun hf => (map_modify_eq (fun n => hf.mapAfter _ n) nodes' j).trans (h.map_eq hf)⟩

theorem Lasts.closeGap (h : Lasts nodes nodes') (holder : Option Nat) (asked : Bool) :
    Lasts nodes (closeGap nodes' holder asked) := by
  cases asked with
  | false => exact h
  | true => exact h.setGap holder Space.empty

theorem Lasts.demandGap (h : Lasts nodes nodes') (holder : Option Nat) (demand : Option Bool) :
    Lasts nodes (demandGap nodes' holder demand) := by
  cases demand with
  | none => exact h
  | some present => exact h.setGap holder _

/-- The brackets that match last. -/
theorem Lasts.matchingRight? (h : Lasts nodes nodes') {i j : Nat}
    (pair : CjkProse.matchingRight? nodes i = some j) :
    CjkProse.matchingRight? nodes' i = some j := by
  rw [matchingRight?_eq_some_iff] at pair ⊢
  rw [h.any_eq lasting_isRightBracket,
    balanced_between_of_map_side? (h.map_eq lasting_side?)]
  exact pair

theorem Lasts.matchingLeft? (h : Lasts nodes nodes') {i j : Nat}
    (left : nodes[i]?.any (Node.isCharAnd isLeftBracket) = true)
    (pair : CjkProse.matchingRight? nodes i = some j) :
    CjkProse.matchingLeft? nodes' j = some i := by
  obtain ⟨hlt, hright, hbalanced⟩ := matchingRight?_eq_some_iff.mp pair
  have hj : j ≤ nodes'.length := by
    rw [h.length_eq]
    exact Nat.le_of_lt (lt_length_of_any hright)
  rw [matchingLeft?_eq_some_iff hj, h.any_eq lasting_isLeftBracket,
    balanced_between_of_map_side? (h.map_eq lasting_side?)]
  exact ⟨hlt, left, hbalanced⟩

end Lasts

end CjkProse
