import CjkProse.Format
import CjkProse.Proofs.Reading.Anchored
import CjkProse.Proofs.Reading.Blocks
import CjkProse.Proofs.Source.Aligned

/-!
# The paragraphs of a document

Each block of events with the tag of a block of prose is read as a block of atoms; the others are
passed over.  The leaves of the paragraph that comes out cover the block without a gap, and each of
them stands in the source.

## Main definitions

* `PlacedBlock.isProse`, `PlacedBlock.block` — the blocks that are read, and what they are read as.
* `Encloses` — a span of the source encloses some blocks.

## Main results

* `readEvents_placedBlocks` — **a document is read block by block.**
* `PlacedBlock.Fits.leaves` — the leaves of a paragraph cover its block, and stand in the source.
* `blockEdges_placedBlocks` — the edges of the prose enclose it.
-/

namespace CjkProse

/-! ### The atoms of a block -/

/-- The atoms within a block stand in the source and cover it without a gap. -/
theorem stands_ofText {text : Text} : ∀ {t : Text} {start : Int},
    Slice text ⟨start, start + Text.byteLength t⟩ t →
      Tiles start ((Atom.ofText start t).map Atom.span) (start + Text.byteLength t) ∧
        ∀ a ∈ Atom.ofText start t, a.Stands text := by
  intro t
  induction t with
  | nil => intro start _; exact ⟨by simp, by simp⟩
  | cons c cs ih =>
    intro start h
    have hlen : start + Text.byteLength (c :: cs) = start + c.utf8Size + Text.byteLength cs := by
      simp only [Text.byteLength_cons, Int.natCast_add]
      omega
    obtain ⟨hhead, htail⟩ := h.uncons
    obtain ⟨htiles, hstands⟩ := ih htail
    rw [hlen, Atom.ofText_cons]
    exact ⟨⟨rfl, htiles⟩, List.forall_mem_cons.mpr ⟨hhead, hstands⟩⟩

/-- The atoms of an event that fits cover it without a gap. -/
theorem PlacedEvent.Fits.ofEvent {text : Text} {e : PlacedEvent} (h : e.Fits text) :
    Tiles e.span.start ((Atom.ofEvent e).map Atom.span) e.span.stop ∧
      ∀ a ∈ Atom.ofEvent e, a.Stands text := by
  obtain ⟨u, hu, htext, -⟩ := h.covers
  rw [Atom.ofEvent]
  split
  · next hkind =>
    obtain rfl := htext hkind
    have hstop := hu.stop_eq
    rw [hstop]
    refine stands_ofText ?_
    rw [← hstop]
    exact hu
  · refine ⟨⟨rfl, rfl⟩, ?_⟩
    intro a ha
    obtain rfl := List.mem_singleton.mp ha
    exact ⟨u, hu⟩

theorem Tiles.ofEvents {text : Text} {b : Int} : ∀ {events : List PlacedEvent} {a : Int},
    Tiles a (events.map PlacedEvent.span) b → (∀ e ∈ events, e.Fits text) →
      Tiles a ((Atom.ofEvents events).map Atom.span) b ∧
        ∀ x ∈ Atom.ofEvents events, x.Stands text := by
  intro events
  induction events with
  | nil => intro a h _; exact ⟨h, by simp [Atom.ofEvents]⟩
  | cons e events ih =>
    intro a h hfits
    obtain ⟨hstart, htail⟩ := h
    obtain ⟨htiles, hstands⟩ := (hfits e List.mem_cons_self).ofEvent
    obtain ⟨htiles', hstands'⟩ := ih htail fun e' he' => hfits e' (List.mem_cons_of_mem _ he')
    rw [Atom.ofEvents, List.flatMap_cons, List.map_append, ← hstart]
    refine ⟨tiles_append.mpr ⟨_, htiles, htiles'⟩, fun x hx => ?_⟩
    rcases List.mem_append.mp hx with hx | hx
    · exact hstands x hx
    · exact hstands' x hx

/-- The atoms of a text are its characters. -/
theorem Atom.exists_of_mem_ofText {a : Atom} {t : Text} : ∀ {start : Int},
    a ∈ Atom.ofText start t → ∃ c ∈ t, ∃ s, a = .char c s := by
  induction t with
  | nil => intro start h; simp at h
  | cons d t ih =>
    intro start h
    rw [Atom.ofText_cons, List.mem_cons] at h
    rcases h with rfl | h
    · exact ⟨d, List.mem_cons_self, _, rfl⟩
    · obtain ⟨c, hc, s, rfl⟩ := ih h
      exact ⟨c, List.mem_cons_of_mem _ hc, s, rfl⟩

/-- No atom within a block starts or ends one. -/
theorem not_block_of_mem_ofEvents {events : List PlacedEvent}
    (h : ∀ e ∈ events, e.event.isBlock = false) {a : Atom} (ha : a ∈ Atom.ofEvents events) :
    a.isBlockStart = false ∧ a.isBlockEnd = false := by
  obtain ⟨e, he, ha⟩ := List.mem_flatMap.mp ha
  rw [Atom.ofEvent] at ha
  split at ha
  · obtain ⟨c, -, s, rfl⟩ := Atom.exists_of_mem_ofText ha
    exact ⟨rfl, rfl⟩
  · obtain rfl := List.mem_singleton.mp ha
    simp [Atom.isBlockStart, Atom.isBlockEnd, Event.isBlockStart, Event.isBlockEnd, h e he]

/-! ### Reading block by block -/

/-- What starts no block is passed over between two blocks. -/
theorem Block.split_none_append {rest : List Atom} : ∀ {as : List Atom},
    (∀ a ∈ as, a.isBlockStart = false) → split none (as ++ rest) = split none rest := by
  intro as
  induction as with
  | nil => intro _; rfl
  | cons a as ih =>
    intro h
    have hrest := ih fun b hb => h b (List.mem_cons_of_mem _ hb)
    have ha := h a List.mem_cons_self
    cases a with
    | char c s => exact hrest
    | event e s =>
      have he : e.isBlockStart = false := ha
      rw [List.cons_append, split, he]
      exact hrest

namespace PlacedBlock

/-- Whether a block is one of prose. -/
def isProse (b : PlacedBlock) : Bool := Event.blockTags.contains b.tag

/-- The block of atoms that a block of events is read as. -/
def block (b : PlacedBlock) : Block :=
  ⟨Span.point b.start, b.opening, Atom.ofEvents b.inner, true⟩

theorem ofEvents_events (b : PlacedBlock) (rest : List PlacedEvent) :
    Atom.ofEvents (b.events ++ rest) =
      .event b.opening (Span.point b.start) :: (Atom.ofEvents b.inner ++
        .event b.closing (Span.point b.stop) :: Atom.ofEvents rest) := by
  have hopen : Atom.ofEvent ⟨b.opening, Span.point b.start⟩ =
      [.event b.opening (Span.point b.start)] := rfl
  have hclose : Atom.ofEvent ⟨b.closing, Span.point b.stop⟩ =
      [.event b.closing (Span.point b.stop)] := rfl
  simp only [Atom.ofEvents, events, List.cons_append, List.flatMap_cons, List.flatMap_append,
    hopen, hclose, List.append_assoc, List.nil_append]

theorem isBlockStart_opening (b : PlacedBlock) : b.opening.isBlockStart = b.isProse := by
  simp [opening, Event.isBlockStart, Event.isBlock, isProse]

theorem isBlockEnd_closing (b : PlacedBlock) : b.closing.isBlockEnd = b.isProse := by
  simp [closing, Event.isBlockEnd, Event.isBlock, isProse]

end PlacedBlock

/-- **A document is read block by block.** -/
theorem readEvents_placedBlocks : ∀ {bs : List PlacedBlock},
    (∀ b ∈ bs, ∀ e ∈ b.inner, e.event.isBlock = false) →
      readEvents (bs.flatMap PlacedBlock.events) =
        (bs.filter PlacedBlock.isProse).map fun b => b.block.parse := by
  intro bs
  induction bs with
  | nil => intro _; rfl
  | cons b bs ih =>
    intro h
    have hrest := ih fun c hc => h c (List.mem_cons_of_mem _ hc)
    have hinner := fun a ha => not_block_of_mem_ofEvents (a := a) (h b List.mem_cons_self) ha
    rw [List.flatMap_cons, readEvents, PlacedBlock.ofEvents_events]
    cases hprose : b.isProse with
    | true =>
      rw [List.filter_cons_of_pos hprose, List.map_cons, ← hrest, readEvents]
      exact parseParagraphs_cons (by rw [b.isBlockStart_opening, hprose]) _
        (fun a ha => (hinner a ha).2) (.event b.closing (Span.point b.stop))
        (by rw [Atom.isBlockEnd, b.isBlockEnd_closing, hprose]) _
    | false =>
      -- the events of the block start none of prose
      have hopen : b.opening.isBlockStart = false := by rw [b.isBlockStart_opening, hprose]
      have hclose : b.closing.isBlockStart = false := by
        simp [PlacedBlock.closing, Event.isBlockStart]
      rw [List.filter_cons_of_neg (by simp [hprose]), ← hrest, readEvents, parseParagraphs,
        parseParagraphs, Block.ofAtoms, Block.split, hopen]
      simp only [Bool.false_eq_true, if_false]
      rw [Block.split_none_append fun a ha => (hinner a ha).1, Block.split, hclose]
      rfl

/-! ### The leaves of a block -/

namespace PlacedBlock

variable {text : Text} {b : PlacedBlock}

/-- No event in a block that fits starts or ends a block. -/
theorem Fits.inside (h : b.Fits text) : ∀ e ∈ b.inner, e.event.isBlock = false :=
  fun e he => (h.inner e he).inside

/-- The leaves of the paragraph of a block cover the block without a gap, stand in the source, and
are fresh. -/
theorem Fits.leaves (h : b.Fits text) {ns : Paragraph} (hparse : b.block.parse = .ok ns) :
    Tiles b.start ((Paragraph.leaves ns).map Leaf.span) b.stop ∧
      (∀ l ∈ Paragraph.leaves ns, l.Stands text) ∧ ∀ l ∈ Paragraph.leaves ns, l.IsFresh := by
  have hspell : Spells b.start (Paragraph.leaves ns) (Atom.ofEvents b.inner) :=
    Block.spells_of_parse hparse b.start
  obtain ⟨htiles, hstands⟩ := h.tiles.ofEvents h.inner
  exact ⟨hspell.tiles htiles, hspell.stands h.here htiles hstands, hspell.isFresh⟩

theorem Fits.slices (h : b.Fits text) :
    ∀ s ∈ b.inner.map PlacedEvent.span, ∃ u, Slice text s u := by
  intro s hs
  obtain ⟨e, he, rfl⟩ := List.mem_map.mp hs
  obtain ⟨u, hu, -⟩ := (h.inner e he).covers
  exact ⟨u, hu⟩

theorem Fits.atStop (h : b.Fits text) : Slice text ⟨b.stop, b.stop⟩ [] :=
  h.tiles.atStop h.here h.slices

theorem Fits.start_le_stop (h : b.Fits text) : b.start ≤ b.stop := by
  refine (h.tiles.ordered fun s hs => ?_).1
  obtain ⟨u, hu⟩ := h.slices s hs
  exact hu.start_le_stop

end PlacedBlock

/-! ### The edges of the prose -/

theorem filter_isBlock_events {b : PlacedBlock} (h : ∀ e ∈ b.inner, e.event.isBlock = false) :
    (b.events.filter fun e => e.event.isBlock).map PlacedEvent.span =
      if b.isProse then [Span.point b.start, Span.point b.stop] else [] := by
  have hinner : (b.inner.filter fun e => e.event.isBlock) = [] := by
    rw [List.filter_eq_nil_iff]
    intro e he
    simp [h e he]
  have hopen : b.opening.isBlock = b.isProse := rfl
  have hclose : b.closing.isBlock = b.isProse := rfl
  rw [PlacedBlock.events, List.cons_append, List.filter_cons, List.filter_append, hinner]
  cases hprose : b.isProse <;> simp [hopen, hclose, hprose]

theorem filter_isBlock_placedBlocks : ∀ {bs : List PlacedBlock},
    (∀ b ∈ bs, ∀ e ∈ b.inner, e.event.isBlock = false) →
      ((bs.flatMap PlacedBlock.events).filter fun e => e.event.isBlock).map PlacedEvent.span =
        (bs.filter PlacedBlock.isProse).flatMap
          fun b => [Span.point b.start, Span.point b.stop] := by
  intro bs
  induction bs with
  | nil => intro _; rfl
  | cons b bs ih =>
    intro h
    have hrest := ih fun c hc => h c (List.mem_cons_of_mem _ hc)
    rw [List.flatMap_cons, List.filter_append, List.map_append, hrest,
      filter_isBlock_events (h b List.mem_cons_self)]
    cases hprose : b.isProse with
    | true => rw [List.filter_cons_of_pos hprose, List.flatMap_cons]; rfl
    | false => rw [List.filter_cons_of_neg (by simp [hprose])]; rfl

/-- A span from one place of the source to another encloses some blocks. -/
structure Encloses (text : Text) (e : Span) (bs : List PlacedBlock) : Prop where
  /-- It starts between two characters. -/
  start : Slice text ⟨e.start, e.start⟩ []
  /-- It stops between two characters. -/
  stop : Slice text ⟨e.stop, e.stop⟩ []
  /-- It starts before it stops. -/
  le : e.start ≤ e.stop
  /-- The blocks are within. -/
  within : ∀ b ∈ bs, e.start ≤ b.start ∧ b.stop ≤ e.stop

/-- Blocks in order are enclosed by the first and the last of them. -/
theorem encloses_of_ordered {text : Text} {first last : PlacedBlock} {rest init : List PlacedBlock}
    (hlast : first :: rest = init ++ [last]) (hfits : ∀ b ∈ first :: rest, b.Fits text)
    (horder : (first :: rest).Pairwise fun b c => b.stop ≤ c.start) :
    Encloses text ⟨first.start, last.stop⟩ (first :: rest) := by
  have hle : ∀ b ∈ first :: rest, b.start ≤ b.stop := fun b hb => (hfits b hb).start_le_stop
  have hlastMem : last ∈ first :: rest := by rw [hlast]; simp
  have hafter : ∀ b ∈ first :: rest, first.start ≤ b.start := by
    intro b hb
    rcases List.mem_cons.mp hb with rfl | hb
    · exact Int.le_refl _
    · have := (List.pairwise_cons.mp horder).1 b hb
      have := hle first List.mem_cons_self
      omega
  have hbefore : ∀ b ∈ first :: rest, b.stop ≤ last.stop := by
    intro b hb
    rw [hlast] at hb horder
    rcases List.mem_append.mp hb with hb | hb
    · have := (List.pairwise_append.mp horder).2.2 b hb last List.mem_cons_self
      have := hle last hlastMem
      omega
    · obtain rfl := List.mem_singleton.mp hb
      exact Int.le_refl _
  exact ⟨(hfits first List.mem_cons_self).here, (hfits last hlastMem).atStop,
    Int.le_trans (hafter last hlastMem) (hle last hlastMem),
    fun b hb => ⟨hafter b hb, hbefore b hb⟩⟩

/-- The edges of the prose enclose it, when the blocks are in order. -/
theorem blockEdges_placedBlocks {text : Text} {bs : List PlacedBlock}
    (hfits : ∀ b ∈ bs, b.Fits text) (horder : bs.Pairwise fun b c => b.stop ≤ c.start) :
    (blockEdges (bs.flatMap PlacedBlock.events) = none ∧ bs.filter PlacedBlock.isProse = []) ∨
      ∃ e, blockEdges (bs.flatMap PlacedBlock.events) = some e ∧
        Encloses text e (bs.filter PlacedBlock.isProse) := by
  have hspans := filter_isBlock_placedBlocks fun b hb => (hfits b hb).inside
  have hfits' : ∀ b ∈ bs.filter PlacedBlock.isProse, b.Fits text :=
    fun b hb => hfits b (List.mem_filter.mp hb).1
  have horder' := horder.filter PlacedBlock.isProse
  rw [blockEdges, hspans]
  generalize bs.filter PlacedBlock.isProse = ps at hfits' horder' ⊢
  rcases List.eq_nil_or_concat ps with rfl | ⟨init, last, hlast⟩
  · exact .inl ⟨rfl, rfl⟩
  · rw [List.concat_eq_append] at hlast
    cases ps with
    | nil => cases init <;> cases hlast
    | cons first rest =>
      refine .inr ⟨_, ?_, encloses_of_ordered hlast hfits' horder'⟩
      have hget : ((first :: rest).flatMap fun b =>
          [Span.point b.start, Span.point b.stop]).getLast? = some (Span.point last.stop) := by
        rw [hlast]
        simp [List.getLast?_append]
      rw [hget]
      rfl

end CjkProse
