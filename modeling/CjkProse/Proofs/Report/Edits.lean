import CjkProse.Proofs.Reading.Paragraphs
import CjkProse.Proofs.Report.Rewriting
import CjkProse.Proofs.Rule.Pass

/-!
# The changes of a document

The changes of a paragraph are those of its leaves, from the last one to the first one.  After a
pass the leaves still cover their block and stand in the source, so the changes of a document come
in reverse document order without overlapping, each of them about what the source holds at its span.

## Main definitions

* `Text.content` — a text up to spaces and the form of marks.
* `Diagnostic.IsSound` — a change that changes something, but no content.
* `Leaf.edits` — the change of a leaf.
* `paragraphEdits` — the changes of the paragraphs that some blocks are read as.

## Main results

* `Paragraph.edits_eq` — the changes of a paragraph, leaf by leaf.
* `PlacedBlock.Fits.edits` — what the changes of a paragraph are like.
* `paragraphEdits_spec` — **the changes of a document come in reverse document order.**
-/

namespace CjkProse

/-! ### Content -/

/-- The content of a text: its characters other than spaces, each mark in the form that stands for
its class. -/
def Text.content (t : Text) : Text := (t.filter fun c => !isSpace c).map canonical

@[simp] theorem Text.content_nil : Text.content [] = [] := rfl

@[simp] theorem Text.content_append (s t : Text) : content (s ++ t) = content s ++ content t := by
  simp [content]

theorem Text.content_eq_nil {t : Text} : content t = [] ↔ ∀ c ∈ t, isSpace c = true := by
  simp [content, List.map_eq_nil_iff, List.filter_eq_nil_iff]

theorem isSpace_canonical (c : Char) : isSpace (canonical c) = isSpace c := by
  unfold canonical
  split
  · rfl
  · rfl
  · rfl
  · rfl
  · unfold halfwidth
    split
    all_goals rfl

/-- A change that changes something, but no content, and no run of letters. -/
structure Diagnostic.IsSound (d : Diagnostic) : Prop where
  /-- Something is changed. -/
  changes : d.modified ≠ d.original
  /-- The content stays. -/
  content : Text.content d.modified = Text.content d.original
  /-- No run of letters is changed. -/
  kind : d.kind ≠ .string

/-! ### Leaf by leaf -/

/-- The change of a leaf, if it has been revised. -/
def Leaf.edits : Leaf → List Diagnostic
  | .mark v => v.charEdit
  | .run v => v.edit .string
  | .space v => v.edit .space
  | .event _ _ => []

mutual

theorem Node.edits_eq : ∀ n : Node, n.edits = n.leaves.reverse.flatMap Leaf.edits
  | .char v a => by simp [Node.edits, Node.leaves, Leaf.edits]
  | .half v a => by simp [Node.edits, Node.leaves, Leaf.edits]
  | .full v a => by simp [Node.edits, Node.leaves, Leaf.edits]
  | .event e s a => by simp [Node.edits, Node.leaves, Leaf.edits]
  | .group o inner ns c a => by
    simp [Node.edits, Node.leaves, Leaf.edits, Paragraph.edits_eq ns]

/-- The changes of a paragraph are those of its leaves, the last one first. -/
theorem Paragraph.edits_eq : ∀ ns : List Node,
    Paragraph.edits ns = (Paragraph.leaves ns).reverse.flatMap Leaf.edits
  | [] => by simp [Paragraph.edits]
  | n :: ns => by simp [Paragraph.edits, Node.edits_eq n, Paragraph.edits_eq ns]

end

/-- A leaf has one change at most, and this is at its span. -/
theorem Leaf.edits_cases (l : Leaf) : l.edits = [] ∨ ∃ d, l.edits = [d] ∧ d.span = l.span := by
  cases l with
  | mark v => cases h : v.modified <;> simp [edits, Revisable.charEdit, h, Leaf.span]
  | run v => cases h : v.modified <;> simp [edits, Revisable.edit, h, Leaf.span]
  | space v => cases h : v.modified <;> simp [edits, Revisable.edit, h, Leaf.span]
  | event e s => exact .inl rfl

theorem Leaf.span_of_mem_edits {l : Leaf} {d : Diagnostic} (h : d ∈ l.edits) : d.span = l.span := by
  rcases l.edits_cases with hnone | ⟨d', hd', hspan⟩
  · rw [hnone] at h
    cases h
  · rw [hd', List.mem_singleton] at h
    rw [h, hspan]

/-- The change of a leaf that is revised within bounds is sound, and about what the leaf stands
for. -/
theorem Leaf.IsSound.edits {l : Leaf} (h : l.IsSound) {d : Diagnostic} (hd : d ∈ l.edits) :
    d.IsSound ∧ ∀ text, l.Stands text → d.IsAt text := by
  cases l with
  | mark v =>
    rw [Leaf.edits, Revisable.charEdit] at hd
    split at hd
    · cases hd
    · next m hm =>
      obtain rfl := List.mem_singleton.mp hd
      obtain ⟨hne, hcanonical⟩ := h m hm
      refine ⟨⟨by simpa using hne, ?_, by simp⟩, fun text hs => hs⟩
      have hspace : isSpace m = isSpace v.original := by
        rw [← isSpace_canonical, hcanonical, isSpace_canonical]
      rw [Text.content, Text.content, List.filter_cons, List.filter_cons, hspace]
      split
      · simp [hcanonical]
      · rfl
  | run v =>
    rw [Leaf.edits, Revisable.edit, show v.modified = none from h] at hd
    cases hd
  | space v =>
    rw [Leaf.edits, Revisable.edit] at hd
    split at hd
    · cases hd
    · next m hm =>
      obtain rfl := List.mem_singleton.mp hd
      obtain ⟨hne, hspace⟩ := h.2 m hm
      refine ⟨⟨hne, ?_, by simp⟩, fun text hs => hs⟩
      rw [Text.content_eq_nil.mpr hspace, Text.content_eq_nil.mpr h.1]
  | event e s => cases hd

/-! ### Paragraph by paragraph -/

/-- The changes of leaves that cover a range, last one first, do not overlap. -/
theorem pairwise_edits {ls : List Leaf} {a b : Int} (htiles : Tiles a (ls.map Leaf.span) b)
    (hle : ∀ l ∈ ls, l.span.start ≤ l.span.stop) :
    (ls.reverse.flatMap Leaf.edits).Pairwise (fun d e => e.span.stop ≤ d.span.start) ∧
      ∀ d ∈ ls.reverse.flatMap Leaf.edits, a ≤ d.span.start ∧ d.span.stop ≤ b := by
  obtain ⟨-, hwithin, hpairs⟩ := htiles.ordered (List.forall_mem_map.mpr hle)
  refine ⟨?_, ?_⟩
  · rw [List.pairwise_flatMap]
    -- a leaf has one change at most, so it is enough to compare different leaves
    refine ⟨fun l _ => ?_, ?_⟩
    · rcases l.edits_cases with hnone | ⟨d, hd, -⟩
      · rw [hnone]; exact .nil
      · rw [hd]; exact List.pairwise_singleton _ _
    · rw [List.pairwise_reverse]
      refine (List.pairwise_map.mp hpairs).imp fun hlm d hd e he => ?_
      rw [Leaf.span_of_mem_edits hd, Leaf.span_of_mem_edits he]
      exact hlm
  · intro d hd
    obtain ⟨l, hl, hd⟩ := List.mem_flatMap.mp hd
    rw [Leaf.span_of_mem_edits hd]
    exact hwithin _ (List.mem_map_of_mem (List.mem_reverse.mp hl))

/-- What is known of the changes within a range of a text. -/
structure EditsWithin (text : Text) (a b : Int) (edits : List Diagnostic) : Prop where
  /-- The last place comes first, and they do not overlap. -/
  ordered : edits.Pairwise fun d e => e.span.stop ≤ d.span.start
  /-- They are within the range. -/
  within : ∀ d ∈ edits, a ≤ d.span.start ∧ d.span.stop ≤ b
  /-- They are about what the source holds. -/
  isAt : ∀ d ∈ edits, d.IsAt text
  /-- They change something, but no content. -/
  sound : ∀ d ∈ edits, d.IsSound

theorem EditsWithin.nil (text : Text) (a b : Int) : EditsWithin text a b [] :=
  ⟨.nil, by simp, by simp, by simp⟩

/-- Changes within one range come after those within a later one. -/
theorem EditsWithin.append {text : Text} {a b c d : Int} {es fs : List Diagnostic}
    (h : EditsWithin text c d es) (h' : EditsWithin text a b fs) (hbc : b ≤ c) (hac : a ≤ c)
    (hbd : b ≤ d) : EditsWithin text a d (es ++ fs) := by
  refine ⟨?_, ?_, ?_, ?_⟩
  · refine List.pairwise_append.mpr ⟨h.ordered, h'.ordered, fun e he f hf => ?_⟩
    have := (h.within e he).1
    have := (h'.within f hf).2
    omega
  · refine List.forall_mem_append.mpr ⟨fun e he => ?_, fun f hf => ?_⟩
    · have := h.within e he
      omega
    · have := h'.within f hf
      omega
  · exact List.forall_mem_append.mpr ⟨h.isAt, h'.isAt⟩
  · exact List.forall_mem_append.mpr ⟨h.sound, h'.sound⟩

theorem EditsWithin.mono {text : Text} {a b a' b' : Int} {es : List Diagnostic}
    (h : EditsWithin text a b es) (ha : a' ≤ a) (hb : b ≤ b') : EditsWithin text a' b' es :=
  ⟨h.ordered, fun d hd => ⟨Int.le_trans ha (h.within d hd).1, Int.le_trans (h.within d hd).2 hb⟩,
    h.isAt, h.sound⟩

/-- The changes of the paragraph of a block. -/
theorem PlacedBlock.Fits.edits {text : Text} {b : PlacedBlock} (h : b.Fits text) (config : Config)
    {ns : Paragraph} (hparse : b.block.parse = .ok ns) :
    EditsWithin text b.start b.stop (Paragraph.edits (polish config ns)) := by
  obtain ⟨htiles, hstands, hfresh⟩ := h.leaves hparse
  have hrevised := revised_polish config ns
  have hsound := hrevised.sound fun l hl => (hfresh l hl).isSound
  have hstands' := hrevised.stands hstands
  rw [← hrevised.map_span] at htiles
  obtain ⟨hordered, hwithin⟩ := pairwise_edits htiles fun l hl => (hstands' l hl).start_le_stop
  rw [Paragraph.edits_eq]
  refine ⟨hordered, hwithin, fun d hd => ?_, fun d hd => ?_⟩
  · obtain ⟨l, hl, hd⟩ := List.mem_flatMap.mp hd
    rw [List.mem_reverse] at hl
    exact ((hsound l hl).edits hd).2 text (hstands' l hl)
  · obtain ⟨l, hl, hd⟩ := List.mem_flatMap.mp hd
    rw [List.mem_reverse] at hl
    exact ((hsound l hl).edits hd).1

/-! ### Block by block -/

/-- The changes of the paragraphs that some blocks are read as. -/
def paragraphEdits (config : Config) (bs : List PlacedBlock) : List Diagnostic :=
  ((paragraphsOf (bs.map fun b => b.block.parse)).map (polish config)).reverse.flatMap
    Paragraph.edits

theorem paragraphEdits_cons (config : Config) (b : PlacedBlock) (bs : List PlacedBlock) :
    paragraphEdits config (b :: bs) = paragraphEdits config bs ++
      match b.block.parse with
      | .ok ns => Paragraph.edits (polish config ns)
      | .error _ => [] := by
  rw [paragraphEdits, paragraphEdits, List.map_cons]
  cases b.block.parse with
  | ok ns => simp [paragraphsOf]
  | error e => simp [paragraphsOf]

/-- **The changes of a document come in reverse document order**, within the range of its blocks. -/
theorem paragraphEdits_spec {text : Text} (config : Config) {stop : Int} :
    ∀ {bs : List PlacedBlock} {start : Int}, (∀ b ∈ bs, b.Fits text) →
      (bs.Pairwise fun b c => b.stop ≤ c.start) →
      (∀ b ∈ bs, start ≤ b.start ∧ b.stop ≤ stop) →
        EditsWithin text start stop (paragraphEdits config bs) := by
  intro bs
  induction bs with
  | nil => intro start _ _ _; exact .nil text start stop
  | cons b bs ih =>
    intro start hfits horder hwithin
    have hb := hfits b List.mem_cons_self
    obtain ⟨hstart, hstop⟩ := hwithin b List.mem_cons_self
    obtain ⟨hafter, horder'⟩ := List.pairwise_cons.mp horder
    -- the changes of the other blocks are within what comes after this one
    have hrest := @ih b.stop (fun c hc => hfits c (List.mem_cons_of_mem _ hc)) horder'
      fun c hc => ⟨hafter c hc, (hwithin c (List.mem_cons_of_mem _ hc)).2⟩
    have hhead : EditsWithin text b.start b.stop
        (match b.block.parse with
        | .ok ns => Paragraph.edits (polish config ns)
        | .error _ => []) := by
      split
      · next ns hparse => exact hb.edits config hparse
      · exact .nil _ _ _
    rw [paragraphEdits_cons]
    exact (hrest.append hhead (Int.le_refl _) hb.start_le_stop hstop).mono hstart (Int.le_refl _)

end CjkProse
