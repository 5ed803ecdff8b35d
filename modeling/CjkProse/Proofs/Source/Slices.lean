import CjkProse.Span
import CjkProse.Text.Basic

/-!
# Slices of a text

A span may lie anywhere; a *slice* of a text is one that starts and ends between two characters, and
then it has a text of its own.  Spans that follow each other without a gap *tile* the range from the
start of the first one to the end of the last one.

## Main definitions

* `Tiles` — spans that cover a range, each starting where the one before it ends.
* `Slice text span t` — the span `span` of `text` holds the text `t`.

## Main results

* `tiles_append` — tilings are cut and joined at the end of a span.
* `Tiles.ordered` — the spans of a tiling follow each other.
* `Slice.sub`, `Slice.uncons`, `Slice.append` — slices of slices, and slices that touch.
* `Slice.unique` — a span holds one text only.
* `Slice.mem_of_within` — what stands in a part of a slice stands in the slice.
-/

namespace CjkProse

/-! ### Tilings -/

/-- The spans cover the offsets from `a` to `b`, each of them starting where the one before it
ends. -/
def Tiles : Int → List Span → Int → Prop
  | a, [], b => a = b
  | a, s :: ss, b => s.start = a ∧ Tiles s.stop ss b

@[simp] theorem tiles_nil {a b : Int} : Tiles a [] b ↔ a = b := Iff.rfl

@[simp] theorem tiles_cons {a b : Int} {s : Span} {ss : List Span} :
    Tiles a (s :: ss) b ↔ s.start = a ∧ Tiles s.stop ss b := Iff.rfl

theorem tiles_append {ss ts : List Span} : ∀ {a b : Int},
    Tiles a (ss ++ ts) b ↔ ∃ m, Tiles a ss m ∧ Tiles m ts b := by
  induction ss with
  | nil => intro a b; simp
  | cons s ss ih =>
    intro a b
    simp only [List.cons_append, tiles_cons, ih]
    constructor
    · rintro ⟨h, m, h₁, h₂⟩; exact ⟨m, ⟨h, h₁⟩, h₂⟩
    · rintro ⟨m, ⟨h, h₁⟩, h₂⟩; exact ⟨h, m, h₁, h₂⟩

/-- The spans of a tiling follow each other within its range, when none of them ends before it
starts. -/
theorem Tiles.ordered {ss : List Span} : ∀ {a b : Int}, Tiles a ss b →
    (∀ s ∈ ss, s.start ≤ s.stop) →
      a ≤ b ∧ (∀ s ∈ ss, a ≤ s.start ∧ s.stop ≤ b) ∧ ss.Pairwise fun s t => s.stop ≤ t.start := by
  induction ss with
  | nil => intro a b h _; simp only [tiles_nil] at h; simp [h]
  | cons s ss ih =>
    intro a b h hle
    rw [tiles_cons] at h
    have hs := hle s List.mem_cons_self
    obtain ⟨hab, hin, hord⟩ := ih h.2 fun t ht => hle t (List.mem_cons_of_mem _ ht)
    refine ⟨by omega, ?_, List.pairwise_cons.mpr ⟨fun t ht => (hin t ht).1, hord⟩⟩
    intro t ht
    rcases List.mem_cons.mp ht with rfl | ht
    · omega
    · have := hin t ht
      omega

/-! ### Beginnings of a text -/

/-- A text with a character in it takes up some bytes. -/
theorem Text.byteLength_pos_of_mem {c : Char} {t : Text} (h : c ∈ t) : 0 < Text.byteLength t := by
  cases t with
  | nil => cases h
  | cons d t =>
    have := d.utf8Size_pos
    rw [Text.byteLength_cons]
    omega

/-- Two beginnings of one text that take up the same number of bytes are the same. -/
theorem Text.eq_of_append_eq_append : ∀ {s t s' t' : Text}, s ++ s' = t ++ t' →
    Text.byteLength s = Text.byteLength t → s = t ∧ s' = t' := by
  intro s
  induction s with
  | nil =>
    intro t s' t' h hlen
    cases t with
    | nil => exact ⟨rfl, h⟩
    | cons c t =>
      have := c.utf8Size_pos
      simp only [Text.byteLength_nil, Text.byteLength_cons] at hlen
      omega
  | cons c s ih =>
    intro t s' t' h hlen
    cases t with
    | nil =>
      have := c.utf8Size_pos
      simp only [Text.byteLength_nil, Text.byteLength_cons] at hlen
      omega
    | cons d t =>
      simp only [List.cons_append, List.cons.injEq] at h
      obtain ⟨rfl, h⟩ := h
      simp only [Text.byteLength_cons, Nat.add_left_cancel_iff] at hlen
      obtain ⟨rfl, rfl⟩ := ih h hlen
      exact ⟨rfl, rfl⟩

/-- Of two beginnings of one text the one with fewer bytes is a beginning of the other. -/
theorem Text.exists_append_of_byteLength_le : ∀ {s t s' t' : Text}, s ++ s' = t ++ t' →
    Text.byteLength s ≤ Text.byteLength t → ∃ u, t = s ++ u := by
  intro s
  induction s with
  | nil => intro t _ _ _ _; exact ⟨t, rfl⟩
  | cons c s ih =>
    intro t s' t' h hlen
    cases t with
    | nil =>
      have := c.utf8Size_pos
      simp only [Text.byteLength_nil, Text.byteLength_cons] at hlen
      omega
    | cons d t =>
      simp only [List.cons_append, List.cons.injEq] at h
      obtain ⟨rfl, h⟩ := h
      simp only [Text.byteLength_cons] at hlen
      obtain ⟨u, rfl⟩ := ih h (by omega)
      exact ⟨u, rfl⟩

/-! ### Slices -/

/-- The span `span` of `text` holds the text `t`: it starts after some characters, and ends before
some. -/
def Slice (text : Text) (span : Span) (t : Text) : Prop :=
  ∃ before after : Text, text = before ++ t ++ after ∧
    span = ⟨Text.byteLength before, Text.byteLength before + Text.byteLength t⟩

namespace Slice

variable {text t u : Text} {span : Span}

theorem stop_eq (h : Slice text span t) : span.stop = span.start + Text.byteLength t := by
  obtain ⟨_, _, _, rfl⟩ := h
  rfl

theorem start_nonneg (h : Slice text span t) : 0 ≤ span.start := by
  obtain ⟨before, _, _, rfl⟩ := h
  exact Int.natCast_nonneg _

theorem start_le_stop (h : Slice text span t) : span.start ≤ span.stop := by
  rw [h.stop_eq]
  omega

/-- A slice with a character in it is not empty. -/
theorem start_lt_stop (h : Slice text span t) {c : Char} (hc : c ∈ t) : span.start < span.stop := by
  have hpos := Text.byteLength_pos_of_mem hc
  rw [h.stop_eq]
  omega

theorem stop_le (h : Slice text span t) : span.stop ≤ Text.byteLength text := by
  obtain ⟨before, after, rfl, rfl⟩ := h
  simp only [Text.byteLength_append]
  omega

/-- The characters of a slice are characters of the text. -/
theorem mem (h : Slice text span t) {c : Char} (hc : c ∈ t) : c ∈ text := by
  obtain ⟨before, after, rfl, -⟩ := h
  exact List.mem_append_left _ (List.mem_append_right _ hc)

/-- The whole of a text. -/
theorem whole (text : Text) : Slice text ⟨0, Text.byteLength text⟩ text :=
  ⟨[], [], by simp, by simp⟩

/-- A part of a slice is a slice. -/
theorem sub {a b c : Text} (h : Slice text span (a ++ b ++ c)) :
    Slice text ⟨span.start + Text.byteLength a,
      span.start + Text.byteLength a + Text.byteLength b⟩ b := by
  obtain ⟨before, after, rfl, rfl⟩ := h
  refine ⟨before ++ a, c ++ after, by simp, ?_⟩
  simp

/-- A slice is its first character and the slice after it. -/
theorem uncons {c : Char} {cs : Text} {start : Int}
    (h : Slice text ⟨start, start + Text.byteLength (c :: cs)⟩ (c :: cs)) :
    Slice text ⟨start, start + c.utf8Size⟩ [c] ∧
      Slice text ⟨start + c.utf8Size, start + c.utf8Size + Text.byteLength cs⟩ cs := by
  have hhead : Slice text ⟨start, start + Text.byteLength (c :: cs)⟩ ([] ++ [c] ++ cs) := h
  have htail : Slice text ⟨start, start + Text.byteLength (c :: cs)⟩ ([c] ++ cs ++ []) := by
    rw [List.append_nil]
    exact h
  exact ⟨by simpa using hhead.sub, by simpa using htail.sub⟩

/-- The place before a slice. -/
theorem atStart (h : Slice text span t) : Slice text ⟨span.start, span.start⟩ [] := by
  have h' : Slice text span ([] ++ [] ++ t) := by simpa using h
  simpa using h'.sub

/-- The place after a slice. -/
theorem atStop (h : Slice text span t) : Slice text ⟨span.stop, span.stop⟩ [] := by
  have h' : Slice text span (t ++ [] ++ []) := by simpa using h
  rw [h.stop_eq]
  simpa using h'.sub

/-- A span holds one text only. -/
theorem unique (h : Slice text span t) (h' : Slice text span u) : t = u := by
  obtain ⟨before, after, heq, rfl⟩ := h
  obtain ⟨before', after', heq', hspan⟩ := h'
  simp only [Span.mk.injEq] at hspan
  obtain ⟨hstart, hstop⟩ := hspan
  have hlen : Text.byteLength before = Text.byteLength before' := by omega
  rw [heq, List.append_assoc, List.append_assoc] at heq'
  obtain ⟨rfl, hrest⟩ := Text.eq_of_append_eq_append heq' hlen
  exact (Text.eq_of_append_eq_append hrest (by omega)).1

/-- Two slices that touch make up one slice. -/
theorem append {a b c : Int} (h : Slice text ⟨a, b⟩ t) (h' : Slice text ⟨b, c⟩ u) :
    Slice text ⟨a, c⟩ (t ++ u) := by
  obtain ⟨before, after, heq, hspan⟩ := h
  obtain ⟨before', after', heq', hspan'⟩ := h'
  simp only [Span.mk.injEq] at hspan hspan'
  obtain ⟨rfl, hb⟩ := hspan
  obtain ⟨hb', rfl⟩ := hspan'
  -- the first slice ends where the second one starts, so both cut the text at one place
  have hlen : Text.byteLength (before ++ t) = Text.byteLength before' := by
    simp only [Text.byteLength_append]
    omega
  have heq'' : (before ++ t) ++ after = before' ++ (u ++ after') := by
    rw [← heq, heq', List.append_assoc]
  obtain ⟨rfl, rfl⟩ := Text.eq_of_append_eq_append heq'' hlen
  refine ⟨before, after', by rw [heq]; simp, ?_⟩
  simp only [Text.byteLength_append, Span.mk.injEq, Int.natCast_add, true_and]
  omega

/-- No slice starts within a character. -/
theorem stop_le_start {s : Span} {c : Char} (h : Slice text span [c]) (h' : Slice text s u)
    (hlt : span.start < s.start) : span.stop ≤ s.start := by
  obtain ⟨before, after, heq, rfl⟩ := h
  obtain ⟨before', after', heq', rfl⟩ := h'
  dsimp only at hlt ⊢
  rw [heq, List.append_assoc, List.append_assoc] at heq'
  obtain ⟨mid, rfl⟩ := Text.exists_append_of_byteLength_le heq' (by omega)
  cases mid with
  | nil => simp at hlt
  | cons d mid =>
    obtain ⟨rfl, -⟩ : c = d ∧ after = mid ++ (u ++ after') := by simpa using heq'
    simp only [Text.byteLength_append, Text.byteLength_cons, Text.byteLength_nil]
    omega

/-- What stands in a part of a slice stands in the slice. -/
theorem mem_of_within {s s' : Span} {u : Text} (h : Slice text s t) (h' : Slice text s' u)
    (start : s.start ≤ s'.start) (stop : s'.stop ≤ s.stop) {c : Char} (hc : c ∈ u) : c ∈ t := by
  obtain ⟨before, after, heq, rfl⟩ := h
  obtain ⟨before', after', heq', rfl⟩ := h'
  dsimp only at start stop
  rw [heq, List.append_assoc, List.append_assoc] at heq'
  obtain ⟨mid, rfl⟩ := Text.exists_append_of_byteLength_le heq' (by omega)
  have hrest : (mid ++ u) ++ after' = t ++ after := by simpa using heq'.symm
  obtain ⟨rest, rfl⟩ := Text.exists_append_of_byteLength_le hrest (by
    simp only [Text.byteLength_append] at stop ⊢
    omega)
  simp [hc]

end Slice

/-- Slices that tile a range end between two characters. -/
theorem Tiles.atStop {text : Text} {ss : List Span} : ∀ {a b : Int}, Tiles a ss b →
    Slice text ⟨a, a⟩ [] → (∀ s ∈ ss, ∃ u, Slice text s u) → Slice text ⟨b, b⟩ [] := by
  induction ss with
  | nil => intro a b h here _; rwa [tiles_nil.mp h] at here
  | cons s ss ih =>
    intro a b h _ hslices
    obtain ⟨u, hu⟩ := hslices s List.mem_cons_self
    exact ih h.2 hu.atStop fun t ht => hslices t (List.mem_cons_of_mem _ ht)

end CjkProse
