import CjkProse.Proofs.Reading.Anchored
import CjkProse.Rule.Pass

/-!
# Revising a tree

A rule revises values of a tree and leaves its shape alone.  What it may revise them to is bounded:
a mark stays one of its class, a run of letters stays as it is, and a space stays made up of spaces.
All of it is told leaf by leaf, so that it does not matter where in a tree a value is.

## Main definitions

* `canonical` — one representative of the marks that are forms of each other.
* `Leaf.IsSound` — a leaf is revised within these bounds.
* `Leaf.bare` — a leaf without its revision.
* `Revised` — leaves become others by being revised within the bounds.

## Main results

* `canonical_halfwidth`, `canonical_fullwidth`, … — the forms of a mark are of one class.
* `revised_modify`, `revised_set` — revising one node of a list.
* `revised_setGap`, `revised_revertGap` — revising a gap.
-/

namespace CjkProse

/-! ### Classes of marks -/

/-- The representative of the class of a mark: its half-width form, corner quotation marks counting
as curly ones. -/
def canonical : Char → Char
  | '「' => '"'
  | '」' => '"'
  | '『' => '\''
  | '』' => '\''
  | c => halfwidth c

theorem canonical_halfwidth (c : Char) : canonical (halfwidth c) = canonical c := by
  unfold halfwidth
  split
  all_goals rfl

theorem canonical_fullwidth (c : Char) : canonical (fullwidth c) = canonical c := by
  unfold fullwidth
  split
  all_goals rfl

theorem canonical_of_curly? {c d : Char} (h : curly? c = some d) : canonical d = canonical c := by
  unfold curly? at h
  split at h
  all_goals cases h
  all_goals rfl

theorem canonical_of_corner? {c d : Char} (h : corner? c = some d) : canonical d = canonical c := by
  unfold corner? at h
  split at h
  all_goals cases h
  all_goals rfl

/-! ### Leaves -/

namespace Leaf

/-- A leaf is revised within bounds, if at all: a mark to one of its class, a space to spaces. -/
def IsSound : Leaf → Prop
  | mark v => ∀ m, v.modified = some m → m ≠ v.original ∧ canonical m = canonical v.original
  | run v => v.modified = none
  | space v => (∀ c ∈ v.original, isSpace c = true) ∧
      ∀ m, v.modified = some m → m ≠ v.original ∧ ∀ c ∈ m, isSpace c = true
  | event _ _ => True

theorem IsFresh.isSound {l : Leaf} (h : l.IsFresh) : l.IsSound := by
  cases l with
  | mark v =>
    intro m hm
    rw [show v.modified = none from h] at hm
    cases hm
  | run v => exact h
  | space v =>
    obtain ⟨hfresh, hspace⟩ := h
    refine ⟨hspace, fun m hm => ?_⟩
    rw [hfresh] at hm
    cases hm
  | event e s => trivial

/-- A leaf without its revision. -/
def bare : Leaf → Leaf
  | mark v => mark v.revert
  | run v => run v.revert
  | space v => space v.revert
  | event e s => event e s

@[simp] theorem span_bare (l : Leaf) : l.bare.span = l.span := by cases l <;> rfl

theorem stands_bare {text : Text} {l : Leaf} : l.bare.Stands text ↔ l.Stands text := by
  cases l <;> exact Iff.rfl

end Leaf

/-- The leaves `ls` become `ls'` by being revised within bounds. -/
structure Revised (ls ls' : List Leaf) : Prop where
  /-- Only revisions differ. -/
  bare : ls'.map Leaf.bare = ls.map Leaf.bare
  /-- The bounds are kept. -/
  sound : (∀ l ∈ ls, l.IsSound) → ∀ l ∈ ls', l.IsSound

namespace Revised

theorem refl (ls : List Leaf) : Revised ls ls := ⟨rfl, fun h => h⟩

theorem trans {ls ms ns : List Leaf} (h : Revised ls ms) (h' : Revised ms ns) : Revised ls ns :=
  ⟨h'.bare.trans h.bare, fun hs => h'.sound (h.sound hs)⟩

theorem append {ls ls' ms ms' : List Leaf} (h : Revised ls ls') (h' : Revised ms ms') :
    Revised (ls ++ ms) (ls' ++ ms') := by
  refine ⟨?_, fun hs => ?_⟩
  · rw [List.map_append, List.map_append, h.bare, h'.bare]
  · obtain ⟨hs₁, hs₂⟩ := List.forall_mem_append.mp hs
    exact List.forall_mem_append.mpr ⟨h.sound hs₁, h'.sound hs₂⟩

theorem cons {l l' : Leaf} {ls ls' : List Leaf} (h : Revised [l] [l']) (h' : Revised ls ls') :
    Revised (l :: ls) (l' :: ls') := h.append h'

/-- Only revisions differ, so the spans are the same. -/
theorem map_span {ls ls' : List Leaf} (h : Revised ls ls') :
    ls'.map Leaf.span = ls.map Leaf.span := by
  have hspan : ∀ ls : List Leaf, ls.map Leaf.span = (ls.map Leaf.bare).map Leaf.span := by
    intro ls
    rw [List.map_map]
    exact List.map_congr_left fun l _ => (Leaf.span_bare l).symm
  rw [hspan, h.bare, ← hspan]

/-- Only revisions differ, so the leaves stand in the source as before. -/
theorem stands {ls ls' : List Leaf} (h : Revised ls ls') {text : Text}
    (hs : ∀ l ∈ ls, l.Stands text) : ∀ l ∈ ls', l.Stands text := by
  intro l hl
  have hmem : l.bare ∈ ls.map Leaf.bare := by
    rw [← h.bare]
    exact List.mem_map_of_mem hl
  obtain ⟨l₀, hl₀, heq⟩ := List.mem_map.mp hmem
  rw [← Leaf.stands_bare, ← heq, Leaf.stands_bare]
  exact hs l₀ hl₀

end Revised

/-! ### Single values -/

/-- A mark may be revised to one of its class. -/
theorem revised_mark {v : Revisable Char} {m : Char} (h : canonical m = canonical v.value) :
    Revised [.mark v] [.mark (v.revise m)] := by
  refine ⟨rfl, fun hs => List.forall_mem_singleton.mpr ?_⟩
  have hv : Leaf.IsSound (.mark v) := hs _ List.mem_cons_self
  -- what is in force is of the class of the source
  have hvalue : canonical v.value = canonical v.original := by
    rw [Revisable.value]
    cases hm : v.modified with
    | none => rfl
    | some m => exact (hv m hm).2
  intro m' hm'
  simp only [Revisable.revise] at hm'
  split at hm'
  · cases hm'
  · next hne =>
    cases hm'
    exact ⟨hne, h.trans hvalue⟩

theorem revised_revert_mark (v : Revisable Char) : Revised [.mark v] [.mark v.revert] := by
  refine ⟨rfl, fun _ => List.forall_mem_singleton.mpr ?_⟩
  intro m hm
  cases hm

/-- A space may be revised to any other space. -/
theorem revised_space (a : Revisable Space) {s : Space} (h : ∀ c ∈ s, isSpace c = true) :
    Revised [.space a] [.space (a.revise s)] := by
  refine ⟨rfl, fun hs => List.forall_mem_singleton.mpr ?_⟩
  have ha : Leaf.IsSound (.space a) := hs _ List.mem_cons_self
  refine ⟨ha.1, fun m hm => ?_⟩
  simp only [Revisable.revise] at hm
  split at hm
  · cases hm
  · next hne =>
    cases hm
    exact ⟨hne, h⟩

theorem revised_revert_space (a : Revisable Space) : Revised [.space a] [.space a.revert] := by
  refine ⟨rfl, fun hs => List.forall_mem_singleton.mpr ?_⟩
  have ha : Leaf.IsSound (.space a) := hs _ List.mem_cons_self
  exact ⟨ha.1, fun m hm => by cases hm⟩

/-! ### Spaces that are set -/

theorem isSpace_of_mem_empty : ∀ c ∈ Space.empty, isSpace c = true := by
  intro c hc
  cases hc

theorem isSpace_of_mem_one : ∀ c ∈ Space.one, isSpace c = true :=
  List.forall_mem_singleton.mpr (by decide)

theorem isSpace_of_mem_ofBool {b : Bool} : ∀ c ∈ Space.ofBool b, isSpace c = true := by
  cases b with
  | false => exact isSpace_of_mem_empty
  | true => exact isSpace_of_mem_one

/-! ### Nodes -/

/-- Revising one node of a list. -/
theorem revised_modify {f : Node → Node} (h : ∀ n, Revised n.leaves (f n).leaves) :
    ∀ (ns : List Node) (i : Nat), Revised (Paragraph.leaves ns) (Paragraph.leaves (ns.modify i f))
    := by
  intro ns
  induction ns with
  | nil => intro i; cases i <;> exact .refl _
  | cons n ns ih =>
    intro i
    cases i with
    | zero =>
      rw [List.modify_zero_cons, Paragraph.leaves_cons, Paragraph.leaves_cons]
      exact (h n).append (.refl _)
    | succ i =>
      rw [List.modify_succ_cons, Paragraph.leaves_cons, Paragraph.leaves_cons]
      exact (Revised.refl _).append (ih i)

/-- Putting a revised node in the place of a node. -/
theorem revised_set {n n' : Node} (h : Revised n.leaves n'.leaves) : ∀ {ns : List Node} {i : Nat},
    ns[i]? = some n → Revised (Paragraph.leaves ns) (Paragraph.leaves (ns.set i n')) := by
  intro ns
  induction ns with
  | nil => intro i hi; simp at hi
  | cons m ns ih =>
    intro i hi
    cases i with
    | zero =>
      cases hi
      rw [List.set_cons_zero, Paragraph.leaves_cons, Paragraph.leaves_cons]
      exact h.append (.refl _)
    | succ i =>
      rw [List.set_cons_succ, Paragraph.leaves_cons, Paragraph.leaves_cons]
      exact (Revised.refl _).append (ih hi)

/-- Revising the space after a node. -/
theorem revised_mapAfter {f : Revisable Space → Revisable Space}
    (h : ∀ a, Revised [.space a] [.space (f a)]) (n : Node) :
    Revised n.leaves (n.mapAfter f).leaves := by
  cases n with
  | char v a => exact (Revised.refl [.mark v]).append (h a)
  | half v a => exact (Revised.refl [.run v]).append (h a)
  | full v a => exact (Revised.refl [.run v]).append (h a)
  | event e s a => exact (Revised.refl [.event e s]).append (h a)
  | group o inner ns c a =>
    have hrest := (Revised.refl (Paragraph.leaves ns ++ [.mark c])).append (h a)
    simp only [List.append_assoc, List.singleton_append] at hrest
    exact (Revised.refl [.mark o, .space inner]).append hrest

/-! ### Gaps -/

theorem revised_setAfter {s : Space} (h : ∀ c ∈ s, isSpace c = true) (n : Node) :
    Revised n.leaves (n.setAfter s).leaves :=
  revised_mapAfter (fun a => revised_space a h) n

theorem revised_setGap {s : Space} (h : ∀ c ∈ s, isSpace c = true) (nodes : List Node)
    (holder : Option Nat) :
    Revised (Paragraph.leaves nodes) (Paragraph.leaves (setGap nodes holder s)) := by
  cases holder with
  | none => exact .refl _
  | some j => exact revised_modify (revised_setAfter h) nodes j

theorem revised_revertGap (nodes : List Node) (holder : Option Nat) :
    Revised (Paragraph.leaves nodes) (Paragraph.leaves (revertGap nodes holder)) := by
  cases holder with
  | none => exact .refl _
  | some j => exact revised_modify (revised_mapAfter revised_revert_space) nodes j

theorem revised_demandGap (nodes : List Node) (holder : Option Nat) (demand : Option Bool) :
    Revised (Paragraph.leaves nodes) (Paragraph.leaves (demandGap nodes holder demand)) := by
  cases demand with
  | none => exact .refl _
  | some present => exact revised_setGap isSpace_of_mem_ofBool nodes holder

theorem revised_closeGap (nodes : List Node) (holder : Option Nat) (asked : Bool) :
    Revised (Paragraph.leaves nodes) (Paragraph.leaves (closeGap nodes holder asked)) := by
  cases asked with
  | false => exact .refl _
  | true => exact revised_setGap isSpace_of_mem_empty nodes holder

end CjkProse
