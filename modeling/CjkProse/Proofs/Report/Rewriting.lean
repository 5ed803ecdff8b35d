import CjkProse.Proofs.Source.Slices
import CjkProse.Proofs.Text.Utf8
import CjkProse.Report

/-!
# Rewriting a text

Changes that are told in document order and do not overlap cut a text into what they replace and
what is kept.  Making them one by one, the last place first, gives the same as making them all at
once: the kept pieces with the new ones in between.

## Main definitions

* `Diagnostic.IsAt` — a change is about what the text holds at its span.
* `replaceAll` — the bytes with all changes made at once.
* `Rewrites` — a text becomes another by some changes, told piece by piece.

## Main results

* `exists_rewrites` — changes in document order that do not overlap rewrite a text.
* `Rewrites.foldr_splice`, `Rewrites.replaceAll` — making the changes one by one, and all at once.
* `Draft.applyAll_eq` — the changes that are not kept out are made, and told.
-/

namespace CjkProse

/-- A change is about what `text` holds at its span. -/
def Diagnostic.IsAt (text : Text) (d : Diagnostic) : Prop := Slice text d.span d.original

/-- The bytes with all changes made at once, which come in document order.  The bytes start at the
offset `pos`. -/
def replaceAll (pos : Int) : List Diagnostic → List UInt8 → List UInt8
  | [], bytes => bytes
  | d :: ds, bytes =>
    bytes.take (d.span.start - pos).toNat ++ Utf8.encode d.modified ++
      replaceAll d.span.stop ds (bytes.drop (d.span.stop - pos).toNat)

/-- The text that starts at the offset `pos` becomes another one by some changes in document
order. -/
inductive Rewrites : Int → Text → List Diagnostic → Text → Prop
  /-- Without a change a text stays as it is. -/
  | nil {pos : Int} {t : Text} : Rewrites pos t [] t
  /-- What comes before the first change is kept. -/
  | cons {pos : Int} {kept rest out : Text} {d : Diagnostic} {ds : List Diagnostic}
      (start : d.span.start = pos + Text.byteLength kept)
      (stop : d.span.stop = pos + Text.byteLength kept + Text.byteLength d.original)
      (tail : Rewrites d.span.stop rest ds out) :
      Rewrites pos (kept ++ d.original ++ rest) (d :: ds) (kept ++ d.modified ++ out)

/-- Changes in document order that do not overlap rewrite a text. -/
theorem exists_rewrites {text : Text} : ∀ {ds : List Diagnostic} {before t : Text},
    text = before ++ t → (∀ d ∈ ds, d.IsAt text) →
    (∀ d ∈ ds, (Text.byteLength before : Int) ≤ d.span.start) →
    (ds.Pairwise fun d e => d.span.stop ≤ e.span.start) →
      ∃ out, Rewrites (Text.byteLength before) t ds out := by
  intro ds
  induction ds with
  | nil => intro before t _ _ _ _; exact ⟨t, .nil⟩
  | cons d ds ih =>
    intro before t htext hat hstart hpairs
    obtain ⟨before', after, heq, hspan⟩ := hat d List.mem_cons_self
    have hle := hstart d List.mem_cons_self
    obtain ⟨hd, hds⟩ := List.pairwise_cons.mp hpairs
    simp only [hspan] at hle hd
    -- what is kept stands between the place reached and the change
    have hpre : before ++ t = before' ++ (d.original ++ after) := by
      rw [← htext, heq, List.append_assoc]
    obtain ⟨kept, rfl⟩ := Text.exists_append_of_byteLength_le hpre (by omega)
    have ht : t = kept ++ d.original ++ after := by
      rw [List.append_assoc before] at hpre
      rw [List.append_cancel_left hpre, List.append_assoc]
    subst ht
    have hbefore : text = (before ++ kept ++ d.original) ++ after := by
      rw [heq]
    obtain ⟨out, hout⟩ := ih hbefore (fun e he => hat e (List.mem_cons_of_mem _ he))
      (fun e he => by
        have := hd e he
        simp only [Text.byteLength_append] at this ⊢
        omega) hds
    refine ⟨_, @Rewrites.cons _ kept after out d ds ?_ ?_ ?_⟩
    · simp [hspan]
    · simp [hspan]
    · rw [hspan]
      simpa [Int.add_assoc] using hout

/-! ### Making changes -/

theorem clampOffset_of_le {length : Nat} {n : Nat} (h : n ≤ length) : clampOffset length n = n := by
  rw [clampOffset, if_neg (by omega)]
  omega

/-- Splicing replaces what stands at the span. -/
theorem splice_append {a o r m : List UInt8} {span : Span} (start : span.start = a.length)
    (stop : span.stop = a.length + o.length) : splice (a ++ o ++ r) span m = a ++ m ++ r := by
  have hlen : (a ++ o ++ r).length = a.length + o.length + r.length := by
    rw [List.length_append, List.length_append]
  have hstart : clampOffset (a ++ o ++ r).length span.start = a.length := by
    rw [start]
    refine clampOffset_of_le ?_
    omega
  have hstop : clampOffset (a ++ o ++ r).length span.stop = (a ++ o).length := by
    rw [stop, ← Int.natCast_add, ← List.length_append]
    refine clampOffset_of_le ?_
    rw [List.length_append]
    omega
  have hle : a.length ≤ (a ++ o).length := by
    rw [List.length_append]
    omega
  rw [splice, hstart, hstop, Nat.max_eq_right hle, List.drop_left, List.append_assoc a o r,
    List.take_left]

/-- Splicing over the whole and more leaves nothing. -/
theorem splice_all {bytes : List UInt8} {stop : Nat} (h : bytes.length ≤ stop) :
    splice bytes ⟨0, stop⟩ [] = [] := by
  have hstart : clampOffset bytes.length 0 = 0 := clampOffset_of_le (Nat.zero_le _)
  have hstop : clampOffset bytes.length stop = bytes.length := by
    rw [clampOffset, if_neg (by omega)]
    omega
  simp [splice, hstart, hstop]

namespace Rewrites

variable {pos : Int} {t out : Text} {ds : List Diagnostic}

/-- Making the changes one by one, the last place first. -/
theorem foldr_splice (h : Rewrites pos t ds out) : ∀ {before : Text},
    pos = Text.byteLength before →
      ds.foldr (fun d bytes => splice bytes d.span (Utf8.encode d.modified))
        (Utf8.encode (before ++ t)) = Utf8.encode (before ++ out) := by
  induction h with
  | nil => intro before _; rfl
  | @cons pos kept rest out d ds start stop _ ih =>
    intro before hpos
    -- the later places have been dealt with already when this change is made
    have hrest := @ih (before ++ kept ++ d.original) (by
      simp only [Text.byteLength_append, Int.natCast_add]
      omega)
    rw [List.foldr_cons, show before ++ (kept ++ d.original ++ rest) =
      before ++ kept ++ d.original ++ rest by simp, hrest]
    have hsplice := @splice_append (Utf8.encode (before ++ kept)) (Utf8.encode d.original)
      (Utf8.encode out) (Utf8.encode d.modified) d.span
      (by rw [Utf8.length_encode, Text.byteLength_append]; omega)
      (by rw [Utf8.length_encode, Utf8.length_encode, Text.byteLength_append]; omega)
    simpa using hsplice

/-- Making the changes at once. -/
theorem replaceAll (h : Rewrites pos t ds out) :
    CjkProse.replaceAll pos ds (Utf8.encode t) = Utf8.encode out := by
  induction h with
  | nil => rfl
  | @cons pos kept rest out d ds start stop _ ih =>
    have hstart : (d.span.start - pos).toNat = (Utf8.encode kept).length := by
      rw [Utf8.length_encode]
      omega
    have hstop : (d.span.stop - pos).toNat = (Utf8.encode (kept ++ d.original)).length := by
      rw [Utf8.length_encode, Text.byteLength_append]
      omega
    rw [CjkProse.replaceAll, hstart, hstop, Utf8.encode_append _ rest, List.drop_left, ih,
      Utf8.encode_append kept, List.append_assoc (Utf8.encode kept), List.take_left,
      Utf8.encode_append, Utf8.encode_append]

/-- What each of the changes preserves, all of them preserve. -/
theorem eq_of_append {α : Type} [Append α] {f : Text → α} (hf : ∀ s t, f (s ++ t) = f s ++ f t)
    (h : Rewrites pos t ds out) (hds : ∀ d ∈ ds, f d.modified = f d.original) : f out = f t := by
  induction h with
  | nil => rfl
  | cons _ _ _ ih =>
    obtain ⟨hd, hds⟩ := List.forall_mem_cons.mp hds
    rw [hf, hf, hf, hf, hd, ih hds]

/-- Changes that only remove something make a text no longer. -/
theorem byteLength_le (h : Rewrites pos t ds out) (hds : ∀ d ∈ ds, d.modified = []) :
    Text.byteLength out ≤ Text.byteLength t := by
  induction h with
  | nil => exact Nat.le_refl _
  | cons _ _ _ ih =>
    obtain ⟨hd, hds⟩ := List.forall_mem_cons.mp hds
    have := ih hds
    simp only [Text.byteLength_append, hd, Text.byteLength_nil]
    omega

end Rewrites

/-! ### Changes that are kept out -/

/-- The changes that are not kept out are made, and the others are not told. -/
theorem Draft.applyAll_eq (ignored : List Span) : ∀ (edits : List Diagnostic) (draft : Draft),
    draft.applyAll ignored edits =
      ⟨(edits.filter fun d => !isIgnored ignored d.span).foldl
          (fun bytes d => splice bytes d.span (Utf8.encode d.modified)) draft.bytes,
        draft.diagnostics ++ edits.filter fun d => !isIgnored ignored d.span⟩ := by
  intro edits
  induction edits with
  | nil => intro draft; simp [applyAll]
  | cons d edits ih =>
    intro draft
    have hstep : draft.applyAll ignored (d :: edits) =
        (draft.apply ignored d).applyAll ignored edits := rfl
    rw [hstep, ih, Draft.apply]
    cases hd : isIgnored ignored d.span with
    | true => simp [hd]
    | false => simp [hd]

end CjkProse
