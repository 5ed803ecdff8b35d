import CjkProse.Proofs.Reading.QuoteStack
import Mathlib.Data.List.Chain

/-!
# Spaces are taken whole

All spaces after a piece of prose are given to it, so what comes next is visible.  Two spaces of a
tree are never next to each other, and something visible stands between them.

## Main definitions

* `Leaf.IsVisible`, `Leaf.IsSpace` — a leaf in which there is more than spaces, and a space.
* `Leaf.Follows` — a leaf that may come after another one.
* `Leaf.FollowFrom` — leaves that follow each other so, as they are read.

## Main results

* `Leaf.FollowFrom.append` — leaves that are read one after the other.
* `Block.isChain_follows_of_parse` — **what comes after a space of a paragraph is visible.**
-/

namespace CjkProse

/-- A leaf in which there is more than spaces. -/
def Leaf.IsVisible : Leaf → Prop
  | .mark v => isSpace v.original = false
  | .run v => ∃ c ∈ v.original, isSpace c = false
  | .space _ => False
  | .event _ _ => True

/-- A leaf that is a space, be there one or not. -/
def Leaf.IsSpace : Leaf → Prop
  | .space _ => True
  | _ => False

/-- A leaf that may come after another one: after a space, one that is visible. -/
def Leaf.Follows (l m : Leaf) : Prop := l.IsSpace → m.IsVisible

/-- Nothing that is read at the head starts with a space. -/
def Reader.IsPastSpace (r : Reader) : Prop := r.rest.head?.any (Atom.isKind .space) = false

theorem Reader.isPastSpace_takeSpace (anchor : Int) (r : Reader) :
    (r.takeSpace anchor).2.IsPastSpace := takeKind_maximal .space r

/-- What comes after a space in some leaves is visible, and so is the first of them unless `r` is at
a space. -/
structure Leaf.FollowFrom (r : Reader) (ls : List Leaf) : Prop where
  /-- After a space comes something visible. -/
  chain : ls.IsChain Follows
  /-- The first leaf is visible. -/
  head : r.IsPastSpace → ∀ l ∈ ls.head?, l.IsVisible

/-- Leaves after others, where no space is left over in between. -/
theorem Leaf.FollowFrom.append {r r' : Reader} {ls ms : List Leaf} (h : FollowFrom r ls)
    (h' : FollowFrom r' ms) (past : r'.IsPastSpace) : FollowFrom r (ls ++ ms) := by
  refine ⟨List.isChain_append.mpr ⟨h.chain, h'.chain, fun l _ m hm => ?_⟩, fun hr l hl => ?_⟩
  · exact fun _ => h'.head past m hm
  · cases ls with
    | nil => exact h'.head past l hl
    | cons k ls => exact h.head hr l hl

/-- A leaf that is visible, and a space after it. -/
theorem Leaf.followFrom_pair {r : Reader} {l : Leaf} {a : Revisable Space}
    (h : r.IsPastSpace → l.IsVisible) (hne : ¬ l.IsSpace) : FollowFrom r [l, .space a] := by
  refine ⟨List.isChain_pair.mpr fun hl => absurd hl hne, fun hr m hm => ?_⟩
  cases hm
  exact h hr

namespace Node

/-- A mark that opens a quotation is no space. -/
theorem isSpace_of_closerOf {c d : Char} {r : Reader} (h : closerOf c r = some d) :
    isSpace c = false := by
  by_contra hspace
  have hkind : CharKind.of c = .space := by simpa [isSpace] using hspace
  rw [closerOf_of_isPlain (isPlain_of_kind (.inl hkind))] at h
  cases h

/-- A mark that closes a quotation is no space. -/
theorem isSpace_of_isClosingMark {c : Char} (h : isClosingMark c = true) : isSpace c = false := by
  by_contra hspace
  have hkind : CharKind.of c = .space := by simpa [isSpace] using hspace
  have hplain := isPlain_of_kind (.inl hkind)
  simp [isPlain, h] at hplain

/-- What a step reads, given that this is so for the nodes inside of a quotation. -/
theorem Step.followFrom {fuel : Nat} {r r' : Reader} {n : Node} (h : Step fuel r n r')
    (inside : ∀ closer opener r ns r', readAllFuel fuel closer opener r = .ok (ns, r') →
      Leaf.FollowFrom r (Paragraph.leaves ns)) :
    Leaf.FollowFrom r n.leaves ∧ r'.IsPastSpace := by
  cases h with
  | event head _ =>
    rw [leaves]
    exact ⟨Leaf.followFrom_pair (fun _ => trivial) not_false,
      Reader.isPastSpace_takeSpace _ _⟩
  | @run c s rest k head kind letter =>
    obtain ⟨prev, rest'⟩ := r
    cases head
    have hpast : (readRun k s.start ⟨prev, .char c s :: rest⟩).2.IsPastSpace :=
      Reader.takeKind_maximal .space (Reader.takeKind k ⟨prev, .char c s :: rest⟩).2
    refine ⟨?_, hpast⟩
    rw [leaves_readRun, Reader.takeKind_cons kind]
    refine Leaf.followFrom_pair (fun _ => ⟨c, List.mem_cons_self, ?_⟩) not_false
    rw [isSpace, kind]
    rcases letter with rfl | rfl
    all_goals rfl
  | @group c d closer s t rest rest' ns r₁ head _ opens hin close =>
    have hc : isSpace c = false := isSpace_of_closerOf opens
    have hd : isSpace d = false := by
      rcases close_of_readAllFuel hin with hclose | ⟨hnone, -⟩
      · obtain ⟨u, rest₂, hrest⟩ := exists_of_atClose hclose
        rw [close] at hrest
        cases hrest
        exact isSpace_of_isClosingMark (isClosingMark_of_closerOf opens)
      · cases hnone
    have hpast : r₁.IsPastSpace := by
      rw [Reader.IsPastSpace, close]
      exact hd
    -- the opening mark and its space, what is inside, and the closing mark and its space
    have hopen : Leaf.FollowFrom r [.mark { original := c, span := s },
        .space (Reader.takeSpace s.stop ⟨some (.char c s), rest⟩).1] :=
      Leaf.followFrom_pair (fun _ => hc) not_false
    have hclose : Leaf.FollowFrom r₁ [.mark { original := d, span := t },
        .space (Reader.takeSpace t.stop ⟨some (.char d t), rest'⟩).1] :=
      Leaf.followFrom_pair (fun _ => hd) not_false
    refine ⟨?_, Reader.isPastSpace_takeSpace _ _⟩
    rw [leaves]
    exact hopen.append ((inside _ _ _ _ _ hin).append hclose hpast)
      (Reader.isPastSpace_takeSpace _ _)
  | @char c s rest head _ _ _ =>
    rw [leaves]
    refine ⟨Leaf.followFrom_pair (fun hr => ?_) not_false,
      Reader.isPastSpace_takeSpace _ _⟩
    rw [Reader.IsPastSpace, head] at hr
    exact hr

/-- What is read, up to a closing mark or to the end. -/
theorem followFrom_of_readAllFuel {fuel : Nat} {closer : Option Char} {opener : Span} {r r' : Reader}
    {ns : List Node} (h : readAllFuel fuel closer opener r = .ok (ns, r')) :
    Leaf.FollowFrom r (Paragraph.leaves ns) := by
  refine readAllFuel_induction (P := fun _ _ r ns _ => Leaf.FollowFrom r (Paragraph.leaves ns)) ?_ ?_
    h
  · intro closer opener r _
    exact ⟨.nil, fun _ l hl => by cases hl⟩
  · intro fuel closer opener r n r₁ ns r' _ hstep inside others
    obtain ⟨hnode, hpast⟩ := hstep.followFrom inside
    rw [Paragraph.leaves_cons]
    exact hnode.append others hpast

end Node

/-- **What comes after a space of a paragraph is visible.** -/
theorem Block.isChain_follows_of_parse {b : Block} {ns : Paragraph} (h : b.parse = .ok ns) :
    (Paragraph.leaves ns).IsChain Leaf.Follows := by
  obtain ⟨fuel, opener, r, hread⟩ := Block.readAllFuel_of_parse h
  exact (Node.followFrom_of_readAllFuel hread).chain

end CjkProse
