import CjkProse.Proofs.Report.Markup
import Mathlib.Algebra.Ring.Int.Defs

/-!
# Where the rest of a text comes to stand

What no change touches comes out as it went in, at the place it had, moved by as many bytes as the
changes before it make the text longer.

## Main definitions

* `Diagnostic.growth` — by how many bytes a change makes a text longer.
* `growthUpTo` — by how many bytes some changes move what stands at an offset.
* `Span.moved` — where a span comes to stand.

## Main results

* `Rewrites.slice` — **what no change touches is kept, at its place.**
-/

namespace CjkProse

/-- By how many bytes a change makes a text longer. -/
def Diagnostic.growth (d : Diagnostic) : Int :=
  Text.byteLength d.modified - Text.byteLength d.original

/-- By how many bytes the changes that end at or before an offset make the text before it longer. -/
def growthUpTo (ds : List Diagnostic) (offset : Int) : Int :=
  ((ds.filter fun d => d.span.stop ≤ offset).map Diagnostic.growth).sum

/-- Where a span stands after some changes, none of which touches it. -/
def Span.moved (s : Span) (ds : List Diagnostic) : Span :=
  ⟨s.start + growthUpTo ds s.start, s.stop + growthUpTo ds s.start⟩

theorem growthUpTo_cons_of_le {d : Diagnostic} {ds : List Diagnostic} {offset : Int}
    (h : d.span.stop ≤ offset) :
    growthUpTo (d :: ds) offset = d.growth + growthUpTo ds offset := by
  simp [growthUpTo, h]

theorem growthUpTo_eq_zero {ds : List Diagnostic} {offset : Int}
    (h : ∀ d ∈ ds, offset < d.span.stop) : growthUpTo ds offset = 0 := by
  rw [growthUpTo, List.filter_eq_nil_iff.mpr fun d hd => by simpa using h d hd]
  rfl

/-- The order in which the changes are told does not matter. -/
theorem growthUpTo_reverse (ds : List Diagnostic) (offset : Int) :
    growthUpTo ds.reverse offset = growthUpTo ds offset := by
  rw [growthUpTo, List.filter_reverse, List.map_reverse, List.sum_reverse, growthUpTo]

theorem Span.moved_reverse (s : Span) (ds : List Diagnostic) :
    s.moved ds.reverse = s.moved ds := by
  rw [Span.moved, growthUpTo_reverse, Span.moved]

namespace Rewrites

variable {pos : Int} {t out : Text} {ds : List Diagnostic}

/-- The changes come after the place where the text starts. -/
theorem within (h : Rewrites pos t ds out) :
    ∀ d ∈ ds, pos ≤ d.span.start ∧ d.span.start ≤ d.span.stop := by
  induction h with
  | nil => intro d hd; cases hd
  | cons start stop _ ih =>
    intro e he
    rcases List.mem_cons.mp he with rfl | he
    · omega
    · have := ih e he
      omega

/-- What no change touches is kept, after what the changes before it make of the rest. -/
theorem exists_append_of_apart (h : Rewrites pos t ds out) : ∀ {pre u post : Text} {s : Span},
    t = pre ++ u ++ post → s.start = pos + Text.byteLength pre →
    s.stop = s.start + Text.byteLength u → (∀ d ∈ ds, s.Apart d.span) →
      ∃ pre' post', out = pre' ++ u ++ post' ∧
        (Text.byteLength pre' : Int) = Text.byteLength pre + growthUpTo ds s.start := by
  induction h with
  | nil =>
    intro pre u post s ht _ _ _
    exact ⟨pre, post, ht, by simp [growthUpTo]⟩
  | @cons pos kept rest out d ds start stop tail ih =>
    intro pre u post s ht hstart hstop hapart
    obtain ⟨hd, hds⟩ := List.forall_mem_cons.mp hapart
    by_cases hbefore : d.span.stop ≤ s.start
    · -- the change comes first, so the piece stands in what is left after it
      have hcut : kept ++ d.original ++ rest = pre ++ (u ++ post) := by rw [ht, List.append_assoc]
      obtain ⟨mid, rfl⟩ := Text.exists_append_of_byteLength_le hcut (by
        simp only [Text.byteLength_append]
        omega)
      have hrest : rest = mid ++ u ++ post := by simpa using hcut
      obtain ⟨pre', post', rfl, hlen⟩ := ih hrest (by
        simp only [Text.byteLength_append] at hstart
        omega) hstop hds
      refine ⟨kept ++ d.modified ++ pre', post', by simp, ?_⟩
      rw [growthUpTo_cons_of_le hbefore, Diagnostic.growth]
      simp only [Text.byteLength_append]
      omega
    · -- the piece stands in what is kept before the change, and all changes come later
      have hafter : s.stop ≤ d.span.start := hd.resolve_right hbefore
      have hcut : (pre ++ u) ++ post = kept ++ (d.original ++ rest) := by
        rw [← ht, List.append_assoc]
      obtain ⟨mid, rfl⟩ := Text.exists_append_of_byteLength_le hcut (by
        simp only [Text.byteLength_append]
        omega)
      refine ⟨pre, mid ++ d.modified ++ out, by simp, ?_⟩
      rw [growthUpTo_eq_zero fun e he => ?_]
      · omega
      · rcases List.mem_cons.mp he with rfl | he
        · omega
        · have := tail.within e he
          omega

/-- **What no change touches is kept, at its place.** -/
theorem slice {text : Text} (h : Rewrites 0 text ds out) {s : Span} {u : Text}
    (hu : Slice text s u) (hapart : ∀ d ∈ ds, s.Apart d.span) : Slice out (s.moved ds) u := by
  obtain ⟨before, after, htext, hspan⟩ := hu
  obtain ⟨pre, post, hout, hlen⟩ := h.exists_append_of_apart htext (s := s) (by simp [hspan])
    (by simp [hspan]) hapart
  refine ⟨pre, post, hout, ?_⟩
  have hstart : s.start = Text.byteLength before := by rw [hspan]
  have hstop : s.stop = Text.byteLength before + Text.byteLength u := by rw [hspan]
  rw [Span.moved, Span.mk.injEq]
  omega

end Rewrites

end CjkProse
