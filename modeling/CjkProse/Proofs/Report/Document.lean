import CjkProse.Proofs.Report.Trims
import CjkProse.Proofs.Rule.Blank

/-!
# The report on a document

A document is formatted by making the changes of its paragraphs and those at its ends, apart from
the ones that are kept out.  Here these changes are told apart from the way they are found.

## Main results

* `exists_prose` — a document is a list of blocks of prose, and its changes are those of the blocks
  and those at its ends.
* `formatTokens_eq_ok` — a report, given what making the changes comes to.
* `editsWithin_changes` — **all changes come in reverse document order**, unless the text is blank.
* `editsWithin_changes_of_shown` — in a blank text they do when everything in the tokens is shown.
* `modified_eq_nil_of_blank_text`, `paragraphEdits_eq_nil_of_blank_text` — the changes of the prose
  in a blank text.
-/

namespace CjkProse

open Markdown (Token)

/-- The changes of some blocks of prose and at the ends of the text. -/
def changes (text : Text) (config : Config) (bs : List PlacedBlock) (edges : Option Span) :
    List Diagnostic :=
  (trimEdits text config edges).1 ++ paragraphEdits config bs ++ (trimEdits text config edges).2

/-- The changes that none of the ignored spans keeps out. -/
def admitted (ignored : List Span) (edits : List Diagnostic) : List Diagnostic :=
  edits.filter fun d => !isIgnored ignored d.span

/-- The blocks of prose of a document. -/
structure Prose (text : Text) (tokens : List Token) (bs : List PlacedBlock) : Prop where
  /-- The blocks fit. -/
  fits : ∀ b ∈ bs, b.Fits text
  /-- They come in document order. -/
  ordered : bs.Pairwise fun b c => b.stop ≤ c.start
  /-- The edges of the prose enclose them. -/
  edges : blockEdges (markupEvents text tokens) = none ∧ bs = [] ∨
    ∃ e, blockEdges (markupEvents text tokens) = some e ∧ Encloses text e bs
  /-- Everything in the blocks is visible if everything in the tokens is. -/
  shown : (∀ t ∈ tokens, t.IsShown) → ∀ b ∈ bs, b.IsShown text
  /-- The document is read block by block. -/
  results : readEvents (markupEvents text tokens) = bs.map fun b => b.block.parse

/-- Of the blocks of a document that fit those of prose are read. -/
theorem BlocksOf.prose_of_fits {text : Text} {tokens : List Token} {bs : List PlacedBlock}
    (h : BlocksOf text tokens bs) (order : Markdown.InOrder tokens)
    (hfits : ∀ b ∈ bs, b.Fits text) : Prose text tokens (bs.filter PlacedBlock.isProse) := by
  have horder := h.pairwise order
  refine ⟨fun b hb => hfits b (List.mem_filter.mp hb).1, horder.filter _, ?_,
    fun shown b hb => h.isShown shown b (List.mem_filter.mp hb).1, ?_⟩
  · rw [h.markupEvents_eq]
    exact blockEdges_placedBlocks hfits horder
  · rw [h.markupEvents_eq]
    exact readEvents_placedBlocks fun b hb => (hfits b hb).inside

/-- Of the blocks of a document those of prose are read. -/
theorem BlocksOf.prose {text : Text} {tokens : List Token} {bs : List PlacedBlock}
    (h : BlocksOf text tokens bs) (order : Markdown.InOrder tokens)
    (plain : ∀ t ∈ tokens, t.IsPlain) : Prose text tokens (bs.filter PlacedBlock.isProse) :=
  h.prose_of_fits order (h.fits plain)

/-- A document is a list of blocks of prose. -/
theorem exists_prose (text : Text) {tokens : List Token} (order : Markdown.InOrder tokens)
    (plain : ∀ t ∈ tokens, t.IsPlain) : ∃ bs, Prose text tokens bs := by
  obtain ⟨bs, h⟩ := exists_blocksOf text tokens
  exact ⟨_, h.prose order plain⟩

/-- A report, given what making the changes comes to. -/
theorem formatTokens_eq_ok {text out : Text} {tokens : List Token} {bs : List PlacedBlock}
    (h : Prose text tokens bs) (config : Config) (ignored : List Span)
    (hout :
      (admitted ignored (changes text config bs (blockEdges (markupEvents text tokens)))).foldl
        (fun bytes d => splice bytes d.span (Utf8.encode d.modified)) (Utf8.encode text) =
          Utf8.encode out) :
    formatTokens text tokens config ignored = .ok
      ⟨out, admitted ignored (changes text config bs (blockEdges (markupEvents text tokens))),
        parseErrorsOf (readEvents (markupEvents text tokens))⟩ := by
  rw [formatTokens, h.results, buildReport]
  have hedits : allEdits text ((paragraphsOf (bs.map fun b => b.block.parse)).map (polish config))
      config (blockEdges (markupEvents text tokens)) =
        changes text config bs (blockEdges (markupEvents text tokens)) := rfl
  rw [hedits, Draft.applyAll_eq]
  rw [admitted] at hout
  dsimp only [Draft.ofText]
  rw [hout, Utf8.decode_encode]
  rfl

/-- The changes of the prose, wherever it is. -/
theorem Prose.editsWithin {text : Text} {tokens : List Token} {bs : List PlacedBlock}
    (h : Prose text tokens bs) (config : Config) :
    EditsWithin text 0 (Text.byteLength text) (paragraphEdits config bs) := by
  rcases h.edges with ⟨-, rfl⟩ | ⟨e, -, hencloses⟩
  · exact .nil text 0 _
  · exact (paragraphEdits_spec config h.fits h.ordered hencloses.within).mono
      hencloses.start.start_nonneg hencloses.stop.stop_le

/-! ### A text that is not blank -/

/-- **All changes come in reverse document order**, unless the text is blank. -/
theorem editsWithin_changes {text : Text} {tokens : List Token} {bs : List PlacedBlock}
    (h : Prose text tokens bs) (hblank : ¬ text.IsBlank) (config : Config) :
    EditsWithin text 0 (Text.byteLength text)
      (changes text config bs (blockEdges (markupEvents text tokens))) := by
  obtain ⟨hnone, hsome⟩ := trimEdits_spec hblank config (blockEdges (markupEvents text tokens))
  rcases h.edges with ⟨hedges, rfl⟩ | ⟨e, hedges, hencloses⟩
  · rw [changes, hnone hedges]
    exact .nil text 0 _
  · -- those at the end of the text, those of the prose, and those at the start of the text
    obtain ⟨hend, hstart⟩ := hsome e hedges
    have hmid := paragraphEdits_spec config h.fits h.ordered hencloses.within
    have hfirst : 0 ≤ e.start := hencloses.start.start_nonneg
    have hlast : e.stop ≤ Text.byteLength text := hencloses.stop.stop_le
    have hprose := hend.append hmid (Int.le_refl _) hencloses.le hlast
    exact hprose.append hstart (Int.le_refl _) hfirst (Int.le_trans hencloses.le hlast)

/-! ### A blank text -/

/-- What holds of the changes of every paragraph holds of all of them. -/
theorem forall_mem_paragraphEdits {P : Diagnostic → Prop} {config : Config} :
    ∀ {bs : List PlacedBlock}, (∀ b ∈ bs, ∀ ns, b.block.parse = .ok ns →
      ∀ d ∈ Paragraph.edits (polish config ns), P d) → ∀ d ∈ paragraphEdits config bs, P d := by
  intro bs
  induction bs with
  | nil => intro _ d hd; cases hd
  | cons b bs ih =>
    intro h d hd
    rw [paragraphEdits_cons, List.mem_append] at hd
    rcases hd with hd | hd
    · exact ih (fun c hc => h c (List.mem_cons_of_mem _ hc)) d hd
    · split at hd
      · next ns hparse => exact h b List.mem_cons_self ns hparse d hd
      · cases hd

namespace PlacedBlock

variable {text : Text} {b : PlacedBlock}

/-- In a blank text a paragraph is read from spaces and events. -/
theorem Fits.blankFrom (h : b.Fits text) (hblank : text.IsBlank) {ns : Paragraph}
    (hparse : b.block.parse = .ok ns) : ∀ n ∈ ns, n.BlankFrom (Atom.ofEvents b.inner) := by
  refine blankFrom_of_parse hparse fun c s hc => ?_
  have hslice : Slice text s [c] := (h.tiles.ofEvents h.inner).2 _ hc
  exact hblank c (hslice.mem List.mem_cons_self)

/-- An event among the atoms of a block is one of its events, and no text. -/
theorem exists_of_event_mem {e : Event} {s : Span} (h : .event e s ∈ Atom.ofEvents b.inner) :
    ∃ p ∈ b.inner, p.event = e ∧ e.kind ≠ .text := by
  obtain ⟨p, hp, hatom⟩ := List.mem_flatMap.mp h
  rw [Atom.ofEvent] at hatom
  split at hatom
  · obtain ⟨c, -, t, heq⟩ := Atom.exists_of_mem_ofText hatom
    cases heq
  · next hkind =>
    cases List.mem_singleton.mp hatom
    exact ⟨p, hp, rfl, hkind⟩

/-- In a blank text there is no code. -/
theorem Fits.kind_ne_code (h : b.Fits text) (hblank : text.IsBlank) {e : Event} {s : Span}
    (he : .event e s ∈ Atom.ofEvents b.inner) : e.kind ≠ .code := by
  obtain ⟨p, hp, rfl, -⟩ := exists_of_event_mem he
  intro hcode
  obtain ⟨u, hu, -, hvisible⟩ := (h.inner p hp).covers
  obtain ⟨c, hc, hspace⟩ := hvisible hcode
  rw [hblank c (hu.mem hc)] at hspace
  cases hspace

/-- In a blank text nothing but text can be shown. -/
theorem IsShown.event_not_mem (h : b.IsShown text) (hblank : text.IsBlank) (e : Event) (s : Span) :
    Atom.event e s ∉ Atom.ofEvents b.inner := by
  intro he
  obtain ⟨p, hp, rfl, hkind⟩ := exists_of_event_mem he
  obtain ⟨u, hu, c, hc, hspace⟩ := h p hp hkind
  rw [hblank c (hu.mem hc)] at hspace
  cases hspace

end PlacedBlock

/-- In a blank text a change of the prose can only remove spaces. -/
theorem modified_eq_nil_of_blank_text {text : Text} {bs : List PlacedBlock}
    (hfits : ∀ b ∈ bs, b.Fits text) (hblank : text.IsBlank) (config : Config) :
    ∀ d ∈ paragraphEdits config bs, d.modified = [] :=
  forall_mem_paragraphEdits fun b hb _ hparse =>
    modified_eq_nil_of_blank ((hfits b hb).blankFrom hblank hparse)
      fun _ _ he => (hfits b hb).kind_ne_code hblank he

/-- In a blank text in which everything is shown, there is no change of the prose. -/
theorem paragraphEdits_eq_nil_of_blank_text {text : Text} {bs : List PlacedBlock}
    (hfits : ∀ b ∈ bs, b.Fits text) (hshown : ∀ b ∈ bs, b.IsShown text) (hblank : text.IsBlank)
    (config : Config) : paragraphEdits config bs = [] := by
  rw [List.eq_nil_iff_forall_not_mem]
  refine forall_mem_paragraphEdits fun b hb ns hparse d hd => ?_
  rw [edits_eq_nil_of_spaces ((hfits b hb).blankFrom hblank hparse)
    ((hshown b hb).event_not_mem hblank)] at hd
  cases hd

/-- All changes come in reverse document order, when everything in the tokens is shown. -/
theorem editsWithin_changes_of_shown {text : Text} {tokens : List Token} {bs : List PlacedBlock}
    (h : Prose text tokens bs) (shown : ∀ t ∈ tokens, t.IsShown) (config : Config) :
    EditsWithin text 0 (Text.byteLength text)
      (changes text config bs (blockEdges (markupEvents text tokens))) := by
  by_cases hblank : text.IsBlank
  · -- a blank text has one change at most
    obtain ⟨hend, hstart⟩ := trimEdits_of_blank hblank config (blockEdges (markupEvents text tokens))
    have hnone : paragraphEdits config bs = [] :=
      paragraphEdits_eq_nil_of_blank_text h.fits (h.shown shown) hblank config
    rw [changes, hend, hnone]
    rcases hstart with hstart | hstart
    · rw [hstart]
      exact .nil text 0 _
    · rw [hstart]
      exact editsWithin_trimEdit hblank fun _ => ⟨Slice.whole text, Int.le_refl _, Int.le_refl _⟩
  · exact editsWithin_changes h hblank config

end CjkProse
