import CjkProse.Proofs.Report.Frame

/-!
# Changes are confined to prose

A change other than those at the ends of the text stands in a block that has been read, apart from
everything in it that is not text.  So whatever is no prose comes out as it went in: markup, code,
blocks that cannot be read, and what stands outside of all blocks.

A block that cannot be placed in the source has no place of its own, and what stands where it comes
from is kept only as far as no other block is placed there.  This may happen in a table: the content
of a cell is looked for from where the last cell that has been placed ends, and a cell is found in
the one before it when that one could not be placed.

## Main definitions

* `Span.IsKept` — a span in which there is no prose.

## Main results

* `Prose.exists_of_mem_paragraphEdits` — the block in which a change is made.
* `Span.IsKept.apart` — all changes keep apart from what is no prose.
* `formatTokens_confined` — **changes are confined to prose.**
* `not_kept_of_skipped_cell` — the source of a cell that cannot be placed need not be kept.
-/

namespace CjkProse

open Markdown (Token)

/-- A span in which there is no prose, given the blocks of a text. -/
inductive Span.IsKept (text : Text) (bs : List PlacedBlock) (s : Span) : Prop
  /-- It lies within the source of an event other than text. -/
  | markup {b : PlacedBlock} {e : PlacedEvent} (hb : b ∈ bs) (he : e ∈ b.events)
      (kind : e.event.kind ≠ .text) (start : e.span.start ≤ s.start) (stop : s.stop ≤ e.span.stop)
  /-- It lies within a block that cannot be read. -/
  | unread {b : PlacedBlock} {fault : ParseError} (hb : b ∈ bs)
      (fails : b.block.parse = .error fault) (start : b.start ≤ s.start) (stop : s.stop ≤ b.stop)
  /-- It lies outside of all blocks, and something visible stands there. -/
  | outside {u : Text} {c : Char} (holds : Slice text s u) (hc : c ∈ u) (visible : isSpace c = false)
      (apart : ∀ b ∈ bs, s.Apart ⟨b.start, b.stop⟩)

/-- Parts of spans that share no byte share none. -/
theorem Span.Apart.mono {s t s' t' : Span} (h : s.Apart t) (hs : s.start ≤ s'.start)
    (hs' : s'.stop ≤ s.stop) (ht : t.start ≤ t'.start) (ht' : t'.stop ≤ t.stop) : s'.Apart t' := by
  rw [Span.Apart] at h ⊢
  omega

namespace PlacedBlock.Fits

variable {text : Text} {b : PlacedBlock}

/-- The events of a block come within its range. -/
theorem events_within (h : b.Fits text) :
    ∀ e ∈ b.events, b.start ≤ e.span.start ∧ e.span.stop ≤ b.stop := by
  have hle := h.start_le_stop
  intro e he
  simp only [events, List.cons_append, List.mem_cons, List.mem_append, List.not_mem_nil,
    or_false] at he
  rcases he with rfl | he | rfl
  · exact ⟨Int.le_refl _, hle⟩
  · exact h.ordered.1 e he
  · exact ⟨hle, Int.le_refl _⟩

/-- The changes of a paragraph keep apart from the events of its block, except for text. -/
theorem apart_events (h : b.Fits text) (config : Config) {ns : Paragraph}
    (hparse : b.block.parse = .ok ns) {d : Diagnostic}
    (hd : d ∈ Paragraph.edits (polish config ns)) :
    ∀ e ∈ b.events, e.event.kind ≠ .text → e.span.Apart d.span := by
  obtain ⟨hstart, hstop⟩ := (h.edits config hparse).within d hd
  intro e he hkind
  simp only [events, List.cons_append, List.mem_cons, List.mem_append, List.not_mem_nil,
    or_false] at he
  rcases he with rfl | he | rfl
  · exact .inl hstart
  · refine h.apart config hparse d hd e (List.mem_filter.mpr ⟨he, ?_⟩)
    rw [Event.isMarkup, h.inside e he]
    simpa using hkind
  · exact .inr hstop

end PlacedBlock.Fits

section Document

variable {text : Text} {tokens : List Token} {bs : List PlacedBlock}

/-- A change of the prose is made in a block that is read, apart from all other blocks. -/
theorem Prose.exists_of_mem_paragraphEdits (h : Prose text tokens bs) (config : Config) :
    ∀ d ∈ paragraphEdits config bs, ∃ b ∈ bs, ∃ ns, b.block.parse = .ok ns ∧
      d ∈ Paragraph.edits (polish config ns) ∧ b.start ≤ d.span.start ∧ d.span.stop ≤ b.stop ∧
      ∀ c ∈ bs, c ≠ b → Span.Apart ⟨c.start, c.stop⟩ d.span := by
  refine forall_mem_paragraphEdits fun b hb ns hparse d hd => ?_
  obtain ⟨hstart, hstop⟩ := ((h.fits b hb).edits config hparse).within d hd
  refine ⟨b, hb, ns, hparse, hd, hstart, hstop, fun c hc hne => ?_⟩
  have hapart : Span.Apart ⟨c.start, c.stop⟩ ⟨b.start, b.stop⟩ :=
    @Span.apart_of_pairwise _ (fun b => ⟨b.start, b.stop⟩) _ h.ordered _ _ hc hb hne
  exact hapart.mono (Int.le_refl _) (Int.le_refl _) hstart hstop

/-- The changes of the prose keep apart from all events but text. -/
theorem Prose.apart_events (h : Prose text tokens bs) (config : Config) :
    ∀ d ∈ paragraphEdits config bs, ∀ e ∈ bs.flatMap PlacedBlock.events,
      e.event.kind ≠ .text → e.span.Apart d.span := by
  intro d hd e he hkind
  obtain ⟨b, hb, ns, hparse, hd, -, -, hothers⟩ := h.exists_of_mem_paragraphEdits config d hd
  obtain ⟨c, hc, he⟩ := List.mem_flatMap.mp he
  by_cases hcb : c = b
  · subst hcb
    exact (h.fits c hc).apart_events config hparse hd e he hkind
  · obtain ⟨hstart, hstop⟩ := (h.fits c hc).events_within e he
    exact (hothers c hc hcb).mono hstart hstop (Int.le_refl _) (Int.le_refl _)

/-- The first block starts where the prose does, and the last one stops where it does. -/
theorem exists_of_blockEdges (hinside : ∀ b ∈ bs, ∀ e ∈ b.inner, e.event.isBlock = false)
    {e : Span} (h : blockEdges (bs.flatMap PlacedBlock.events) = some e) :
    (∃ b ∈ bs, b.start = e.start) ∧ ∃ b ∈ bs, b.stop = e.stop := by
  have hspans := filter_isBlock_placedBlocks hinside
  have hsub : ∀ b ∈ bs.filter PlacedBlock.isProse, b ∈ bs := fun b hb => (List.mem_filter.mp hb).1
  rw [blockEdges, hspans] at h
  generalize bs.filter PlacedBlock.isProse = ps at h hsub
  rcases List.eq_nil_or_concat ps with rfl | ⟨init, last, rfl⟩
  · cases h
  · have hlast : last ∈ bs := hsub last (by simp)
    cases init with
    | nil =>
      cases h
      exact ⟨⟨last, hlast, rfl⟩, last, hlast, rfl⟩
    | cons first rest =>
      have hget : (((first :: rest).concat last).flatMap fun b =>
          [Span.point b.start, Span.point b.stop]).getLast? = some (Span.point last.stop) := by
        rw [List.concat_eq_append, List.flatMap_append, List.getLast?_append]
        rfl
      rw [hget] at h
      cases h
      exact ⟨⟨first, hsub first (by simp), rfl⟩, last, hlast, rfl⟩

/-- The changes of the prose keep apart from what is no prose. -/
theorem Span.IsKept.apart_prose {s : Span} (hs : s.IsKept text bs) (h : Prose text tokens bs)
    (config : Config) : ∀ d ∈ paragraphEdits config bs, s.Apart d.span := by
  intro d hd
  obtain ⟨b, hb, ns, hparse, -, hstart, hstop, hothers⟩ := h.exists_of_mem_paragraphEdits config d hd
  cases hs with
  | @markup c e hc he kind start stop =>
    have hapart := h.apart_events config d hd e (List.mem_flatMap.mpr ⟨c, hc, he⟩) kind
    exact hapart.mono start stop (Int.le_refl _) (Int.le_refl _)
  | @unread c fault hc fails start stop =>
    have hne : c ≠ b := by
      rintro rfl
      rw [hparse] at fails
      cases fails
    exact (hothers c hc hne).mono start stop (Int.le_refl _) (Int.le_refl _)
  | outside _ _ _ apart => exact (apart b hb).mono (Int.le_refl _) (Int.le_refl _) hstart hstop

/-- Where something visible stands, the leading spaces of a text have ended. -/
theorem Slice.lt_stop_of_visible {lead rest u : Text} {s : Span} {c : Char}
    (h : Slice (lead ++ rest) s u) (hlead : lead.IsBlank) (hc : c ∈ u) (visible : isSpace c = false) :
    Text.byteLength lead < s.stop := by
  by_contra hle
  have hspaces : Slice (lead ++ rest) ⟨0, Text.byteLength lead⟩ lead := ⟨[], rest, rfl, by simp⟩
  have hmem := hspaces.mem_of_within h h.start_nonneg (Int.not_lt.mp hle) hc
  rw [hlead c hmem] at visible
  cases visible

/-- Where something visible stands, the trailing spaces of a text have not started. -/
theorem Slice.start_lt_of_visible {rest trail u : Text} {s : Span} {c : Char}
    (h : Slice (rest ++ trail) s u) (htrail : trail.IsBlank) (hc : c ∈ u)
    (visible : isSpace c = false) : s.start < Text.byteLength rest := by
  by_contra hle
  have hspaces : Slice (rest ++ trail)
      ⟨Text.byteLength rest, Text.byteLength rest + Text.byteLength trail⟩ trail :=
    ⟨rest, [], by simp, rfl⟩
  have hstop := h.stop_le
  rw [Text.byteLength_append, Int.natCast_add] at hstop
  have hmem := hspaces.mem_of_within h (Int.not_lt.mp hle) hstop hc
  rw [htrail c hmem] at visible
  cases visible

/-- What is no prose lies within a block, or outside of all blocks with something visible in it. -/
theorem Span.IsKept.cases {s : Span} (hs : s.IsKept text bs) (hfits : ∀ b ∈ bs, b.Fits text) :
    (∃ b ∈ bs, b.start ≤ s.start ∧ s.stop ≤ b.stop) ∨
      ∃ u c, Slice text s u ∧ c ∈ u ∧ isSpace c = false ∧ ∀ b ∈ bs, s.Apart ⟨b.start, b.stop⟩ := by
  cases hs with
  | @markup b e hb he kind start stop =>
    obtain ⟨hstart, hstop⟩ := (hfits b hb).events_within e he
    exact .inl ⟨b, hb, Int.le_trans hstart start, Int.le_trans stop hstop⟩
  | @unread b fault hb fails start stop => exact .inl ⟨b, hb, start, stop⟩
  | @outside u c holds hc visible apart => exact .inr ⟨u, c, holds, hc, visible, apart⟩

/-- The changes at the ends of the text keep apart from what is no prose, unless the text is
blank. -/
theorem Span.IsKept.apart_trims {s : Span} (hs : s.IsKept text bs) (hfits : ∀ b ∈ bs, b.Fits text)
    {e : Span} (hedges : blockEdges (bs.flatMap PlacedBlock.events) = some e)
    (hencloses : Encloses text e bs) (hblank : ¬ text.IsBlank) :
    (e.start = Text.byteLength (edgeSpaces text).1 → e.start ≤ s.start) ∧
      (e.stop = (Text.byteLength text : Int) - Text.byteLength (edgeSpaces text).2 →
        s.stop ≤ e.stop) := by
  obtain ⟨core, -, htext, hlead, htrail⟩ := edgeSpaces_spec hblank
  obtain ⟨⟨first, hfirst, hstart⟩, last, hlast, hstop⟩ :=
    exists_of_blockEdges (fun b hb => (hfits b hb).inside) hedges
  rcases hs.cases hfits with ⟨b, hb, hle, hge⟩ | ⟨u, c, holds, hc, visible, apart⟩
  · obtain ⟨hb, hb'⟩ := hencloses.within b hb
    exact ⟨fun _ => Int.le_trans hb hle, fun _ => Int.le_trans hge hb'⟩
  · generalize edgeSpaces text = spaces at htext hlead htrail ⊢
    have hfirst' : s.stop ≤ first.start ∨ first.stop ≤ s.start := apart first hfirst
    have hlast' : s.stop ≤ last.start ∨ last.stop ≤ s.start := apart last hlast
    have hle := (hfits first hfirst).start_le_stop
    have hge := (hfits last hlast).start_le_stop
    constructor
    · -- before the first block there are spaces only
      intro hlen
      rw [htext, List.append_assoc] at holds
      have := holds.lt_stop_of_visible hlead hc visible
      omega
    · -- after the last block there are spaces only
      intro hlen
      have hbytes := congrArg (fun t => (Text.byteLength t : Int)) htext
      rw [htext] at holds
      have := holds.start_lt_of_visible htrail hc visible
      simp only [Text.byteLength_append] at this hbytes
      omega

/-- All changes keep apart from what is no prose, unless the text is blank. -/
theorem Span.IsKept.apart {s : Span} (hs : s.IsKept text bs) (h : Prose text tokens bs)
    (hevents : markupEvents text tokens = bs.flatMap PlacedBlock.events)
    (hblank : ¬ text.IsBlank) (config : Config) :
    ∀ d ∈ changes text config bs (blockEdges (markupEvents text tokens)), s.Apart d.span := by
  intro d hd
  rw [changes, List.mem_append, List.mem_append] at hd
  rcases hd with (hd | hd) | hd
  · obtain ⟨e, hedges, hstop, rfl⟩ := (exists_of_mem_trimEdits hblank).1 hd
    obtain ⟨hnone, -⟩ | ⟨e', hedges', hencloses⟩ := h.edges
    · rw [hnone] at hedges
      cases hedges
    · cases hedges'.symm.trans hedges
      rw [hevents] at hedges
      exact .inl ((hs.apart_trims h.fits hedges hencloses hblank).2 hstop)
  · exact hs.apart_prose h config d hd
  · obtain ⟨e, hedges, hstart, rfl⟩ := (exists_of_mem_trimEdits hblank).2 hd
    obtain ⟨hnone, -⟩ | ⟨e', hedges', hencloses⟩ := h.edges
    · rw [hnone] at hedges
      cases hedges
    · cases hedges'.symm.trans hedges
      rw [hevents] at hedges
      exact .inr ((hs.apart_trims h.fits hedges hencloses hblank).1 hstart)

end Document

/-- **Changes are confined to prose.**  Those that are not made at the ends of the text stand each in
a block that is read as a paragraph, and keep apart from every event that is not text.  Unless the
text is blank, what is no prose comes out as it went in, moved by what the changes before it make the
text longer. -/
theorem formatTokens_confined (text : Text) {tokens : List Token} (config : Config)
    (ignored : List Span) (order : Markdown.InOrder tokens) (tagged : ∀ t ∈ tokens, t.IsTagged)
    (plain : ∀ t ∈ tokens, t.IsPlain) :
    ∃ bs mid report, markupEvents text tokens = bs.flatMap PlacedBlock.events ∧
      readEvents (markupEvents text tokens) = bs.map (fun b => b.block.parse) ∧
      formatTokens text tokens config ignored = .ok report ∧
      report.diagnostics =
        admitted ignored (trimEdits text config (blockEdges (markupEvents text tokens))).1 ++ mid ++
          admitted ignored (trimEdits text config (blockEdges (markupEvents text tokens))).2 ∧
      (∀ d ∈ mid,
        (∃ b ∈ bs, ∃ ns, b.block.parse = .ok ns ∧ b.start ≤ d.span.start ∧ d.span.stop ≤ b.stop) ∧
        ∀ e ∈ markupEvents text tokens, e.event.kind ≠ .text → e.span.Apart d.span) ∧
      (¬ text.IsBlank → ∀ s u, Slice text s u → s.IsKept text bs →
        Slice report.text (s.moved report.diagnostics) u) := by
  obtain ⟨bs, h⟩ := exists_blocksOf text tokens
  have hall : ∀ b ∈ bs, b.isProse = true := fun b hb => by
    simpa [PlacedBlock.isProse] using h.tag_mem tagged b hb
  have hprose := h.prose order plain
  rw [List.filter_eq_self.mpr hall] at hprose
  have hevents := h.markupEvents_eq
  -- where the changes are made does not depend on whether the text is blank
  have hmid : ∀ d ∈ admitted ignored (paragraphEdits config bs),
      (∃ b ∈ bs, ∃ ns, b.block.parse = .ok ns ∧ b.start ≤ d.span.start ∧ d.span.stop ≤ b.stop) ∧
      ∀ e ∈ markupEvents text tokens, e.event.kind ≠ .text → e.span.Apart d.span := by
    intro d hd
    have hd' := (List.mem_filter.mp hd).1
    obtain ⟨b, hb, ns, hparse, -, hstart, hstop, -⟩ :=
      hprose.exists_of_mem_paragraphEdits config d hd'
    refine ⟨⟨b, hb, ns, hparse, hstart, hstop⟩, ?_⟩
    rw [hevents]
    exact hprose.apart_events config d hd'
  have hdiagnostics :
      admitted ignored (changes text config bs (blockEdges (markupEvents text tokens))) =
        admitted ignored (trimEdits text config (blockEdges (markupEvents text tokens))).1 ++
          admitted ignored (paragraphEdits config bs) ++
          admitted ignored (trimEdits text config (blockEdges (markupEvents text tokens))).2 := by
    simp only [changes, admitted, List.filter_append]
  by_cases hblank : text.IsBlank
  · obtain ⟨out, -, hfold, -⟩ := exists_of_blank hprose hblank config ignored
      (blockEdges (markupEvents text tokens))
    exact ⟨bs, _, _, hevents, hprose.results, formatTokens_eq_ok hprose config ignored hfold,
      hdiagnostics, hmid, fun hnot => absurd hblank hnot⟩
  · obtain ⟨out, hout, hfold⟩ := exists_rewrites_of_editsWithin
      ((editsWithin_changes hprose hblank config).admitted ignored)
    refine ⟨bs, _, _, hevents, hprose.results, formatTokens_eq_ok hprose config ignored hfold,
      hdiagnostics, hmid, fun _ s u hu hs => ?_⟩
    have hslice := hout.slice hu fun d hd =>
      hs.apart hprose hevents hblank config d (List.mem_filter.mp (List.mem_reverse.mp hd)).1
    rwa [Span.moved_reverse] at hslice

/-- The conclusion of `formatTokens_confined` at code after a gap: it comes out one byte later. -/
theorem formatTokens_confined_code :
    ∃ report,
      formatTokens ['a', '中', '`', 'b', '`'] [.inline ['a', '中', '`', 'b', '`']
        [.text ['a', '中'], .code ['b'] ['`']] (some 0)] .default [] = .ok report ∧
      report.text = ['a', ' ', '中', ' ', '`', 'b', '`'] ∧
      Slice report.text ⟨6, 9⟩ ['`', 'b', '`'] := by
  let source : Text := ['a', '中', '`', 'b', '`']
  let tokens : List Token :=
    [.inline source [.text ['a', '中'], .code ['b'] ['`']] (some 0)]
  have horder : Markdown.InOrder tokens := List.pairwise_singleton _ _
  have htagged : ∀ t ∈ tokens, t.IsTagged := List.forall_mem_singleton.mpr trivial
  have hplain : ∀ t ∈ tokens, t.IsPlain :=
    List.forall_mem_singleton.mpr (by simp [Token.IsPlain])
  obtain ⟨bs, mid, report, hevents, -, hreport, -, -, hkept⟩ :=
    formatTokens_confined source .default [] horder htagged hplain
  have hrun : formatTokens source tokens .default [] =
      .ok ⟨['a', ' ', '中', ' ', '`', 'b', '`'], [⟨.space, [], [' '], ⟨4, 4⟩⟩,
        ⟨.space, [], [' '], ⟨1, 1⟩⟩], []⟩ :=
    Except.eq_ok_of_toOption (by decide +kernel)
  have hcode : ⟨⟨.code, "", ['b']⟩, ⟨4, 7⟩⟩ ∈ markupEvents source tokens := by decide +kernel
  have hblank : ¬ Text.IsBlank source := fun h => by
    have := h 'a' List.mem_cons_self
    revert this
    decide
  rw [hrun] at hreport
  cases hreport
  rw [hevents] at hcode
  obtain ⟨b, hb, he⟩ := List.mem_flatMap.mp hcode
  exact ⟨_, hrun, rfl, hkept hblank ⟨4, 7⟩ ['`', 'b', '`'] ⟨['a', '中'], [], rfl, rfl⟩
    (.markup hb he (by decide) (Int.le_refl _) (Int.le_refl _))⟩

/-- The content of a cell that cannot be placed need not be kept.  The first cell below has the
content `中a|b`, which does not stand in the source as such, since its bar is escaped there.  The
second cell is then found in the first one, where a space is put in, and its own source is left as it
is. -/
theorem not_kept_of_skipped_cell :
    let source : Text :=
      ['|', '中', 'a', '\\', '|', 'b', '|', '中', 'a', '|', '\n', '|', '-', '|', '-', '|', '\n']
    Markdown.rowCells ['|', '中', 'a', '\\', '|', 'b', '|', '中', 'a', '|'] =
        [['中', 'a', '|', 'b'], ['中', 'a']] ∧
      skippedOf (alignBlocks source (Markdown.parse source)) = [⟨0, .contentNotFound 0⟩] ∧
      formatText source .default = .ok
        ['|', '中', ' ', 'a', '\\', '|', 'b', '|', '中', 'a', '|', '\n', '|', '-', '|', '-', '|',
          '\n'] := by
  intro source
  exact ⟨by decide +kernel, by decide +kernel, Except.eq_ok_of_toOption (by decide +kernel)⟩

end CjkProse
