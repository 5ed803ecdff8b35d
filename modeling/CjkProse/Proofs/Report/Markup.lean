import CjkProse.Proofs.Report.Content

/-!
# Markup is kept

No change touches the source of a piece of markup, so all of it comes out as it went in, in the same
order, and no content moves from one side of it to the other.  That does not make it markup again:
whether a mark starts an emphasis, or a label names a link, depends on the prose beside it or in it,
and that may change.

## Main definitions

* `Event.isMarkup` — the events that neither are text nor start or end a block.
* `KeepsMarkup` — two texts hold the same pieces of markup, and the same content between them.
* `readAs` — what a document is read as: its events apart from its text, each with its source.

## Main results

* `Rewrites.keepsMarkup` — changes that keep apart from the markup keep it.
* `formatTokens_markup` — **formatting keeps the markup of a text.**
* `not_readAs_formatText` — it need not be read as the same markup again.
-/

namespace CjkProse

open Markdown (Token)

/-- Whether an event is a piece of markup within a block: the start or the end of a wrapper, the end
of a line, or something in which no prose is looked for. -/
def Event.isMarkup (e : Event) : Bool := !e.isBlock && e.kind != .text

/-- Two spans share no byte. -/
def Span.Apart (s t : Span) : Prop := s.stop ≤ t.start ∨ t.stop ≤ s.start

/-- Of two different members of a list in order, one comes before the other. -/
theorem Span.apart_of_pairwise {α : Type} {span : α → Span} {xs : List α}
    (h : xs.Pairwise fun x y => (span x).stop ≤ (span y).start) {x y : α} (hx : x ∈ xs)
    (hy : y ∈ xs) (hne : x ≠ y) : (span x).Apart (span y) := by
  have hsymm : Std.Symm fun x y : α => (span x).Apart (span y) := ⟨fun _ _ => Or.symm⟩
  have hpairs : xs.Pairwise fun x y => (span x).Apart (span y) := h.imp Or.inl
  exact hpairs.forall hx hy hne

/-! ### Keeping the markup of a text -/

/-- The pieces of markup `es` stand in the text that starts at the offset `pos`, and so they do in the
other one, with the same content before, between and after them. -/
inductive KeepsMarkup : Int → List PlacedEvent → Text → Text → Prop
  /-- Without markup the content is the same. -/
  | nil {pos : Int} {t out : Text} (content : Text.content out = Text.content t) :
      KeepsMarkup pos [] t out
  /-- The first piece comes after some content. -/
  | cons {pos : Int} {t out u rest later : Text} {e : PlacedEvent} {es : List PlacedEvent}
      (start : e.span.start = pos + Text.byteLength t)
      (stop : e.span.stop = e.span.start + Text.byteLength u)
      (content : Text.content out = Text.content t)
      (tail : KeepsMarkup e.span.stop es rest later) :
      KeepsMarkup pos (e :: es) (t ++ u ++ rest) (out ++ u ++ later)

namespace KeepsMarkup

variable {pos : Int} {t out t' out' : Text} {es fs : List PlacedEvent}

/-- Content may be put before. -/
theorem prepend (h : KeepsMarkup (pos + Text.byteLength t) fs t' out')
    (content : Text.content out = Text.content t) :
    KeepsMarkup pos fs (t ++ t') (out ++ out') := by
  cases h with
  | nil content' => exact .nil (by rw [Text.content_append, Text.content_append, content, content'])
  | @cons _ s sout u rest later e es start stop content' tail =>
    have hstart : e.span.start = pos + Text.byteLength (t ++ s) := by
      rw [start, Text.byteLength_append]
      omega
    have hcontent : Text.content (out ++ sout) = Text.content (t ++ s) := by
      rw [Text.content_append, Text.content_append, content, content']
    simpa using KeepsMarkup.cons hstart stop hcontent tail

theorem append (h : KeepsMarkup pos es t out)
    (h' : KeepsMarkup (pos + Text.byteLength t) fs t' out') :
    KeepsMarkup pos (es ++ fs) (t ++ t') (out ++ out') := by
  induction h with
  | nil content => exact h'.prepend content
  | @cons pos s sout u rest later e es start stop content _ ih =>
    have htail := ih (by
      have hpos : pos + Text.byteLength (s ++ u ++ rest) =
          e.span.stop + Text.byteLength rest := by
        rw [stop, start]
        simp only [Text.byteLength_append]
        omega
      rwa [hpos] at h')
    simpa using KeepsMarkup.cons start stop content htail

/-- Every text keeps the markup that stands in it. -/
theorem refl {text : Text} : ∀ {es : List PlacedEvent} {before t after : Text},
    text = before ++ t ++ after → (∀ e ∈ es, ∃ u, Slice text e.span u) →
    (∀ e ∈ es, (Text.byteLength before : Int) ≤ e.span.start ∧
      e.span.stop ≤ Text.byteLength before + Text.byteLength t) →
    (es.Pairwise fun e f => e.span.stop ≤ f.span.start) →
      KeepsMarkup (Text.byteLength before) es t t := by
  intro es
  induction es with
  | nil => intro before t after _ _ _ _; exact .nil rfl
  | cons e es ih =>
    intro before t after htext hslice hwithin hpairs
    obtain ⟨u, before', after', heq, hspan⟩ := hslice e List.mem_cons_self
    obtain ⟨hle, hge⟩ := hwithin e List.mem_cons_self
    obtain ⟨he, hes⟩ := List.pairwise_cons.mp hpairs
    simp only [hspan] at hle hge he
    -- the piece stands within the text, after some of it and before the rest
    have hpre : before ++ (t ++ after) = before' ++ (u ++ after') := by
      rw [← List.append_assoc, ← htext, heq, List.append_assoc]
    obtain ⟨s, rfl⟩ := Text.exists_append_of_byteLength_le hpre (by omega)
    rw [List.append_assoc before, List.append_cancel_left_eq, ← List.append_assoc s] at hpre
    obtain ⟨rest, rfl⟩ := Text.exists_append_of_byteLength_le hpre.symm (by
      simp only [Text.byteLength_append] at hge ⊢
      omega)
    have htext' : text = (before ++ s ++ u) ++ rest ++ after := by simp [htext]
    have htail := ih htext' (fun f hf => hslice f (List.mem_cons_of_mem _ hf))
      (fun f hf => by
        have hafter := he f hf
        have hbefore := (hwithin f (List.mem_cons_of_mem _ hf)).2
        simp only [Text.byteLength_append] at hafter hbefore ⊢
        omega) hes
    refine .cons ?_ ?_ rfl ?_
    · simp [hspan]
    · simp [hspan]
    · rw [hspan]
      simpa [Int.add_assoc] using htail

end KeepsMarkup

/-- Spans in order, all of which keep apart from a given one, come before it or after it. -/
theorem exists_append_of_apart {s : Span} : ∀ {es : List PlacedEvent},
    (∀ e ∈ es, e.span.start ≤ e.span.stop ∧ e.span.Apart s) →
    (es.Pairwise fun e f => e.span.stop ≤ f.span.start) →
      ∃ fs gs, es = fs ++ gs ∧ (∀ e ∈ fs, e.span.stop ≤ s.start) ∧
        ∀ e ∈ gs, s.stop ≤ e.span.start := by
  intro es
  induction es with
  | nil => intro _ _; exact ⟨[], [], rfl, by simp, by simp⟩
  | cons e es ih =>
    intro hes hpairs
    obtain ⟨he, hpairs'⟩ := List.pairwise_cons.mp hpairs
    obtain ⟨hle, hapart⟩ := hes e List.mem_cons_self
    rcases hapart with hbefore | hafter
    · obtain ⟨fs, gs, rfl, hfs, hgs⟩ := ih (fun f hf => hes f (List.mem_cons_of_mem _ hf)) hpairs'
      exact ⟨e :: fs, gs, rfl, List.forall_mem_cons.mpr ⟨hbefore, hfs⟩, hgs⟩
    · refine ⟨[], e :: es, rfl, by simp, List.forall_mem_cons.mpr ⟨hafter, fun f hf => ?_⟩⟩
      have := he f hf
      omega

/-- Changes that keep apart from the markup, and keep the content, keep the markup where it is among
the content. -/
theorem Rewrites.keepsMarkup {text : Text} {pos : Int} {t out : Text} {ds : List Diagnostic}
    (h : Rewrites pos t ds out) : ∀ {before : Text} {es : List PlacedEvent}, text = before ++ t →
    pos = Text.byteLength before → (∀ e ∈ es, ∃ u, Slice text e.span u) →
    (∀ e ∈ es, pos ≤ e.span.start) → (es.Pairwise fun e f => e.span.stop ≤ f.span.start) →
    (∀ d ∈ ds, Text.content d.modified = Text.content d.original) →
    (∀ d ∈ ds, ∀ e ∈ es, e.span.Apart d.span) → KeepsMarkup pos es t out := by
  induction h with
  | @nil pos t =>
    intro before es htext hpos hslice hstart hpairs _ _
    have htext' : text = before ++ t ++ [] := by rw [List.append_nil, htext]
    rw [hpos] at hstart ⊢
    refine .refl htext' hslice (fun e he => ⟨hstart e he, ?_⟩) hpairs
    obtain ⟨u, hu⟩ := hslice e he
    have hstop := hu.stop_le
    rwa [htext, Text.byteLength_append, Int.natCast_add] at hstop
  | @cons pos kept rest out d ds start stop _ ih =>
    intro before es htext hpos hslice hstart hpairs hcontent hapart
    obtain ⟨hd, hds⟩ := List.forall_mem_cons.mp hcontent
    obtain ⟨hapartd, hapartds⟩ := List.forall_mem_cons.mp hapart
    -- some of the markup stands in what is kept before the change, and the rest after it
    have hle : ∀ e ∈ es, e.span.start ≤ e.span.stop ∧ e.span.Apart d.span := fun e he =>
      let ⟨_, hu⟩ := hslice e he
      ⟨hu.start_le_stop, hapartd e he⟩
    obtain ⟨fs, gs, rfl, hfs, hgs⟩ := exists_append_of_apart hle hpairs
    obtain ⟨hpairsf, hpairsg, -⟩ := List.pairwise_append.mp hpairs
    obtain ⟨hslicef, hsliceg⟩ := List.forall_mem_append.mp hslice
    have hkept : KeepsMarkup pos fs kept kept := by
      have htext' : text = before ++ kept ++ (d.original ++ rest) := by rw [htext]; simp
      have hwithin : ∀ e ∈ fs, (Text.byteLength before : Int) ≤ e.span.start ∧
          e.span.stop ≤ Text.byteLength before + Text.byteLength kept := fun e he => by
        have hfirst := hstart e (List.mem_append_left _ he)
        have hlast := hfs e he
        omega
      rw [hpos]
      exact .refl htext' hslicef hwithin hpairsf
    have hrest : KeepsMarkup d.span.stop gs rest out := by
      have htext' : text = (before ++ kept ++ d.original) ++ rest := by rw [htext]; simp
      refine ih htext' ?_ hsliceg hgs hpairsg hds
        fun d' hd' e he => hapartds d' hd' e (List.mem_append_right _ he)
      rw [stop, hpos]
      simp only [Text.byteLength_append, Int.natCast_add]
    rw [stop] at hrest
    simpa using hkept.append (hrest.prepend hd)

/-! ### The markup of a document -/

/-- Every event of a block is one of the leaves that it is read as. -/
theorem Spells.event_mem {stop : Int} {ls : List Leaf} {as : List Atom} (h : Spells stop ls as)
    {e : Event} {s : Span} : Atom.event e s ∈ as → Leaf.event e s ∈ ls := by
  induction h with
  | nil => intro he; cases he
  | @cons stop l ls as bs head _ ih =>
    intro he
    rcases List.mem_append.mp he with he | he
    · cases l with
      | mark v => obtain ⟨c, t, rfl, -⟩ := head; simp at he
      | run v => obtain ⟨c, t, run, rfl, -⟩ := head; simp [Atom.ofRun] at he
      | space v => obtain ⟨run, rfl, -⟩ := head; simp [Atom.ofRun] at he
      | event e' t =>
        obtain rfl := head
        cases List.mem_singleton.mp he
        exact List.mem_cons_self
    · exact List.mem_cons_of_mem _ (ih he)

/-- No event is revised. -/
theorem Revised.event_mem {ls ls' : List Leaf} (h : Revised ls ls') {e : Event} {s : Span}
    (he : Leaf.event e s ∈ ls) : Leaf.event e s ∈ ls' := by
  have hmem : Leaf.event e s ∈ ls'.map Leaf.bare := by
    rw [h.bare]
    exact List.mem_map.mpr ⟨_, he, rfl⟩
  obtain ⟨l, hl, hbare⟩ := List.mem_map.mp hmem
  cases l with
  | event e' s' => cases hbare; exact hl
  | mark v => cases hbare
  | run v => cases hbare
  | space v => cases hbare

theorem kind_ne_text_of_isMarkup {e : Event} (h : e.isMarkup = true) : e.kind ≠ .text := by
  simp only [Event.isMarkup, Bool.and_eq_true, bne_iff_ne] at h
  exact h.2

namespace PlacedBlock

variable {text : Text} {b : PlacedBlock}

/-- The pieces of markup in a block. -/
def markup (b : PlacedBlock) : List PlacedEvent := b.inner.filter fun e => e.event.isMarkup

theorem mem_inner_of_mem_markup {e : PlacedEvent} (he : e ∈ b.markup) : e ∈ b.inner :=
  (List.mem_filter.mp he).1

/-- The events in a block come in order, within its range. -/
theorem Fits.ordered (h : b.Fits text) :
    (∀ e ∈ b.inner, b.start ≤ e.span.start ∧ e.span.stop ≤ b.stop) ∧
      b.inner.Pairwise fun e f => e.span.stop ≤ f.span.start := by
  obtain ⟨-, hwithin, hpairs⟩ := h.tiles.ordered fun s hs => by
    obtain ⟨u, hu⟩ := h.slices s hs
    exact hu.start_le_stop
  exact ⟨fun e he => hwithin _ (List.mem_map_of_mem he), List.pairwise_map.mp hpairs⟩

/-- The changes of a paragraph keep apart from the markup in its block. -/
theorem Fits.apart (h : b.Fits text) (config : Config) {ns : Paragraph}
    (hparse : b.block.parse = .ok ns) :
    ∀ d ∈ Paragraph.edits (polish config ns), ∀ e ∈ b.markup, e.span.Apart d.span := by
  obtain ⟨htiles, hstands, -⟩ := h.leaves hparse
  have hrevised := revised_polish config ns
  have hspell : Spells b.start (Paragraph.leaves ns) (Atom.ofEvents b.inner) :=
    Block.spells_of_parse hparse b.start
  rw [← hrevised.map_span] at htiles
  have hstands' := hrevised.stands hstands
  have hpairs := List.pairwise_map.mp (htiles.ordered (List.forall_mem_map.mpr
    fun l hl => (hstands' l hl).start_le_stop)).2.2
  intro d hd e he
  obtain ⟨hinner, hmarkup⟩ := List.mem_filter.mp he
  have hkind := kind_ne_text_of_isMarkup hmarkup
  have hatom : Atom.event e.event e.span ∈ Atom.ofEvents b.inner := by
    refine List.mem_flatMap.mpr ⟨e, hinner, ?_⟩
    rw [Atom.ofEvent]
    split
    · next h => exact absurd h hkind
    · exact List.mem_singleton_self _
  have hleaf := hrevised.event_mem (hspell.event_mem hatom)
  rw [Paragraph.edits_eq] at hd
  obtain ⟨l, hl, hd⟩ := List.mem_flatMap.mp hd
  rw [List.mem_reverse] at hl
  rw [Leaf.span_of_mem_edits hd]
  -- a piece of markup is a leaf of its own, which is never changed
  refine Span.apart_of_pairwise hpairs hleaf hl ?_
  rintro rfl
  cases hd

/-- In a blank text no markup can be shown. -/
theorem IsShown.markup_eq_nil (h : b.IsShown text) (hblank : text.IsBlank) : b.markup = [] := by
  refine List.filter_eq_nil_iff.mpr fun e he hmarkup => ?_
  obtain ⟨u, hu, c, hc, hvisible⟩ := h e he (kind_ne_text_of_isMarkup hmarkup)
  rw [hblank c (hu.mem hc)] at hvisible
  cases hvisible

end PlacedBlock

section Document

variable {text : Text} {tokens : List Token} {bs : List PlacedBlock}

/-- The markup of a document is that of its blocks. -/
theorem filter_isMarkup_placedBlocks (h : ∀ b ∈ bs, b.isProse = true) :
    ((bs.flatMap PlacedBlock.events).filter fun e => e.event.isMarkup) =
      bs.flatMap PlacedBlock.markup := by
  rw [List.filter_flatMap]
  refine List.flatMap_congr fun b hb => ?_
  have hopening : b.opening.isBlock = true := h b hb
  have hclosing : b.closing.isBlock = true := h b hb
  simp [PlacedBlock.events, PlacedBlock.markup, Event.isMarkup, hopening, hclosing]

/-- The markup of a document comes in document order. -/
theorem pairwise_markup (hfits : ∀ b ∈ bs, b.Fits text)
    (horder : bs.Pairwise fun b c => b.stop ≤ c.start) :
    (bs.flatMap PlacedBlock.markup).Pairwise fun e f => e.span.stop ≤ f.span.start := by
  refine List.pairwise_flatMap.mpr ⟨fun b hb => (hfits b hb).ordered.2.filter _, ?_⟩
  refine List.Pairwise.imp_of_mem (fun {b c} hb hc hbc e he f hf => ?_) horder
  have hstop := ((hfits b hb).ordered.1 e (PlacedBlock.mem_inner_of_mem_markup he)).2
  have hstart := ((hfits c hc).ordered.1 f (PlacedBlock.mem_inner_of_mem_markup hf)).1
  omega

/-- The changes of a document keep apart from its markup, unless the text is blank. -/
theorem Prose.apart (h : Prose text tokens bs) (hblank : ¬ text.IsBlank) (config : Config) :
    ∀ d ∈ changes text config bs (blockEdges (markupEvents text tokens)),
      ∀ e ∈ bs.flatMap PlacedBlock.markup, e.span.Apart d.span := by
  intro d hd e he
  obtain ⟨b, hb, he⟩ := List.mem_flatMap.mp he
  obtain ⟨hstart, hstop⟩ :=
    (h.fits b hb).ordered.1 e (PlacedBlock.mem_inner_of_mem_markup he)
  obtain ⟨-, rfl⟩ | ⟨edges, hedges, hencloses⟩ := h.edges
  · cases hb
  obtain ⟨hend, hfront⟩ := (trimEdits_spec hblank config _).2 edges hedges
  obtain ⟨hafter, hbefore⟩ := hencloses.within b hb
  rw [changes, List.mem_append, List.mem_append] at hd
  rcases hd with (hd | hd) | hd
  · have := (hend.within d hd).1
    exact .inl (by omega)
  · revert d
    refine forall_mem_paragraphEdits fun c hc ns hparse d hd => ?_
    by_cases hbc : c = b
    · subst hbc
      exact (h.fits c hc).apart config hparse d hd e he
    · -- the changes of another block are within its range, which comes before or after
      have hapart : Span.Apart ⟨b.start, b.stop⟩ ⟨c.start, c.stop⟩ :=
        @Span.apart_of_pairwise _ (fun b => ⟨b.start, b.stop⟩) _ h.ordered _ _ hb hc (Ne.symm hbc)
      obtain ⟨hfirst, hlast⟩ := ((h.fits c hc).edits config hparse).within d hd
      rcases hapart with hapart | hapart
      · exact .inl (Int.le_trans hstop (Int.le_trans hapart hfirst))
      · exact .inr (Int.le_trans hlast (Int.le_trans hapart hstart))
  · have := (hfront.within d hd).2
    exact .inr (by omega)

end Document

/-- **Formatting keeps the markup of a text.**  Each piece of it, in document order, comes out as it
is in the source, and the content between two pieces is the same. -/
theorem formatTokens_markup (text : Text) {tokens : List Token} (config : Config)
    (ignored : List Span) (order : Markdown.InOrder tokens) (tagged : ∀ t ∈ tokens, t.IsTagged)
    (plain : ∀ t ∈ tokens, t.IsPlain) (shown : ∀ t ∈ tokens, t.IsShown) :
    ∃ report, formatTokens text tokens config ignored = .ok report ∧
      KeepsMarkup 0 ((markupEvents text tokens).filter fun e => e.event.isMarkup) text
        report.text := by
  obtain ⟨bs, h⟩ := exists_blocksOf text tokens
  have hall : ∀ b ∈ bs, b.isProse = true := fun b hb => by
    simpa [PlacedBlock.isProse] using h.tag_mem tagged b hb
  have hprose := h.prose order plain
  rw [List.filter_eq_self.mpr hall] at hprose
  have hmarkup : ((markupEvents text tokens).filter fun e => e.event.isMarkup) =
      bs.flatMap PlacedBlock.markup := by
    rw [h.markupEvents_eq, filter_isMarkup_placedBlocks hall]
  rw [hmarkup]
  by_cases hblank : text.IsBlank
  · obtain ⟨out, hout, hfold, -⟩ := exists_of_blank hprose hblank config ignored
      (blockEdges (markupEvents text tokens))
    have hnone : bs.flatMap PlacedBlock.markup = [] :=
      List.flatMap_eq_nil_iff.mpr fun b hb => (hprose.shown shown b hb).markup_eq_nil hblank
    refine ⟨_, formatTokens_eq_ok hprose config ignored hfold, ?_⟩
    rw [hnone]
    exact .nil (by rw [Text.content_eq_nil.mpr hblank, Text.content_eq_nil.mpr hout])
  · have hadmitted := (editsWithin_changes hprose hblank config).admitted ignored
    obtain ⟨out, hout, hfold⟩ := exists_rewrites_of_editsWithin hadmitted
    refine ⟨_, formatTokens_eq_ok hprose config ignored hfold, ?_⟩
    have hslice : ∀ e ∈ bs.flatMap PlacedBlock.markup, ∃ u, Slice text e.span u := fun e he => by
      obtain ⟨b, hb, he⟩ := List.mem_flatMap.mp he
      obtain ⟨u, hu, -⟩ := ((hprose.fits b hb).inner e (b.mem_inner_of_mem_markup he)).covers
      exact ⟨u, hu⟩
    refine hout.keepsMarkup (List.nil_append text).symm rfl hslice
      (fun e he => (hslice e he).choose_spec.start_nonneg)
      (pairwise_markup hprose.fits hprose.ordered) (fun d hd => ?_) fun d hd => ?_
    · exact (hadmitted.sound d (List.mem_reverse.mp hd)).content
    · exact hprose.apart hblank config d (List.mem_filter.mp (List.mem_reverse.mp hd)).1

/-- The conclusion of `formatTokens_markup` at an emphasis after a gap that is closed. -/
theorem formatTokens_markup_emphasis :
    let opening : PlacedEvent := ⟨⟨.opening, "emphasis", []⟩, ⟨4, 5⟩⟩
    let closing : PlacedEvent := ⟨⟨.closing, "emphasis", []⟩, ⟨8, 9⟩⟩
    ∃ report,
      formatTokens ['中', ' ', '_', '文', '_'] [.inline ['中', ' ', '_', '文', '_']
        [.text ['中', ' '], .wrapperOpen .emphasis ['_'], .text ['文'],
          .wrapperClose .emphasis ['_']] (some 0)] .default [] = .ok report ∧
      report.text = ['中', '_', '文', '_'] ∧
      KeepsMarkup 0 [opening, closing] ['中', ' ', '_', '文', '_'] report.text := by
  intro opening closing
  let children : List Markdown.Inline :=
    [.text ['中', ' '], .wrapperOpen .emphasis ['_'], .text ['文'], .wrapperClose .emphasis ['_']]
  let tokens : List Token := [.inline ['中', ' ', '_', '文', '_'] children (some 0)]
  have horder : Markdown.InOrder tokens := List.pairwise_singleton _ _
  have htagged : ∀ t ∈ tokens, t.IsTagged := List.forall_mem_singleton.mpr trivial
  have hplain : ∀ t ∈ tokens, t.IsPlain :=
    List.forall_mem_singleton.mpr (by simp [Token.IsPlain, children])
  have hshown : ∀ t ∈ tokens, t.IsShown := by
    refine List.forall_mem_singleton.mpr fun pieces h => ?_
    have hpieces : placeInline ['中', ' ', '_', '文', '_'] children =
        .ok [⟨⟨.text, "", ['中', ' ']⟩, 2⟩, ⟨opening.event, 1⟩, ⟨⟨.text, "", ['文']⟩, 1⟩,
          ⟨closing.event, 1⟩] := rfl
    rw [hpieces] at h
    cases h
    refine ⟨fun hkind => absurd rfl hkind, fun _ => ⟨'_', List.mem_cons_self, by decide⟩,
      fun hkind => absurd rfl hkind, fun _ => ⟨'_', List.mem_cons_self, by decide⟩, trivial⟩
  obtain ⟨report, hreport, hkeeps⟩ := formatTokens_markup ['中', ' ', '_', '文', '_'] .default []
    horder htagged hplain hshown
  have hrun : formatTokens ['中', ' ', '_', '文', '_'] tokens .default [] =
      .ok ⟨['中', '_', '文', '_'], [⟨.space, [' '], [], ⟨3, 4⟩⟩], []⟩ :=
    Except.eq_ok_of_toOption (by decide +kernel)
  rw [hrun] at hreport
  cases hreport
  exact ⟨_, hrun, rfl, hkeeps⟩

/-! ### Reading the result -/

/-- What a document is read as: its events apart from its text, each with its source. -/
def readAs (text : Text) : List (EventKind × String × List UInt8) :=
  ((markupEvents text (Markdown.parse text)).filter fun e => e.event.kind != .text).map fun e =>
    (e.event.kind, e.event.tag,
      ((Utf8.encode text).drop e.span.start.toNat).take (e.span.stop - e.span.start).toNat)

/-- Markup that is kept need not be read as markup again.  An underscore right after a letter starts
no emphasis, so closing the gap before an emphasis undoes it. -/
theorem not_readAs_formatText :
    ¬ ∀ text out, formatText text .default = .ok out → readAs out = readAs text := by
  intro h
  have hrun : formatText ['中', ' ', '_', '文', '_'] .default = .ok ['中', '_', '文', '_'] :=
    Except.eq_ok_of_toOption (by decide +kernel)
  have hread : readAs ['中', '_', '文', '_'] ≠ readAs ['中', ' ', '_', '文', '_'] := by
    decide +kernel
  exact hread (h _ _ hrun)

end CjkProse
