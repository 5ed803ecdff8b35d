import CjkProse.Proofs.Report.Changed
import CjkProse.Proofs.Report.Confined
import CjkProse.Proofs.Source.FrontMatter

/-!
# Front matter is left alone

No block of prose starts before the end of the front matter, so every change of the prose is made
behind it, whatever the tokens of a document are: their lines need not be in order, and the text in
them may hold line ends.  Front matter starts with a hyphen, so no space is removed in front of it
either, and the spaces at the end of the text are removed only where the prose stops.

## Main results

* `isPrefix_foldl_splice` — changes behind the first bytes keep these.
* `PlacedBlock.Stands.le_start_of_mem_edits` — the changes of a block are made behind its start.
* `le_start_of_mem_changes` — **all changes are made behind the front matter.**
* `formatParsed_frontMatter` — **front matter comes out as it went in.**
* `not_format_frontMatter` — a pattern that cannot be used keeps a text with front matter from being
  formatted.
-/

namespace CjkProse

open Markdown (Token)
open Reader (runStop)

/-! ### Bytes in front of all changes -/

/-- A change behind the first bytes keeps these. -/
theorem isPrefix_splice {first bytes replacement : List UInt8} {span : Span}
    (h : first <+: bytes) (hstart : (first.length : Int) ≤ span.start) :
    first <+: splice bytes span replacement := by
  have hclamp : first.length ≤ clampOffset bytes.length span.start := by
    have := h.length_le
    rw [clampOffset, if_neg (by omega)]
    omega
  rw [splice, List.append_assoc]
  refine List.IsPrefix.trans ?_ (List.prefix_append _ _)
  exact List.prefix_take_iff.mpr ⟨h, hclamp⟩

/-- Changes behind the first bytes keep these. -/
theorem isPrefix_foldl_splice {first : List UInt8} {ds : List Diagnostic}
    (hds : ∀ d ∈ ds, (first.length : Int) ≤ d.span.start) :
    ∀ {bytes : List UInt8}, first <+: bytes →
      first <+: ds.foldl (fun bytes d => splice bytes d.span (Utf8.encode d.modified)) bytes := by
  induction ds with
  | nil => intro bytes h; exact h
  | cons d ds ih =>
    intro bytes h
    obtain ⟨hd, hds⟩ := List.forall_mem_cons.mp hds
    exact ih hds (isPrefix_splice h hd)

/-- A text starts with another one if its bytes do. -/
theorem Utf8.isPrefix_of_encode {s : Text} : ∀ {t : Text}, encode s <+: encode t → s <+: t := by
  induction s with
  | nil => intro t _; exact List.nil_prefix
  | cons c s ih =>
    intro t h
    obtain ⟨rest, hrest⟩ := h
    rw [encode_cons, List.append_assoc] at hrest
    have hread := decode_encode t
    rw [← hrest, decode, decodeFrom_utf8EncodeChar] at hread
    obtain ⟨t', ht', rfl⟩ := exists_of_cons_map hread
    have hbytes := encode_of_decodeFrom ht'
    exact List.cons_prefix_cons.mpr ⟨rfl, ih ⟨rest, hbytes.symm⟩⟩

/-! ### Places behind which everything is -/

/-- The span starts and stops at the place `p` or behind it. -/
def Span.Behind (p : Int) (s : Span) : Prop := p ≤ s.start ∧ p ≤ s.stop

theorem Atom.behind_of_mem_ofText {p : Int} {a : Atom} {t : Text} : ∀ {start : Int}, p ≤ start →
    a ∈ Atom.ofText start t → a.span.Behind p := by
  induction t with
  | nil => intro start _ h; cases h
  | cons c t ih =>
    intro start hp h
    rcases List.mem_cons.mp h with rfl | h
    · exact ⟨hp, by simp only [Atom.span]; omega⟩
    · exact ih (by omega) h

/-- The atoms of a block that stands in the source are behind its start. -/
theorem PlacedBlock.Stands.atoms_behind {text : Text} {b : PlacedBlock} (h : b.Stands text) :
    ∀ a ∈ Atom.ofEvents b.inner, a.span.Behind b.start := by
  have hinner : ∀ s ∈ b.inner.map PlacedEvent.span, s.start ≤ s.stop := by
    intro s hs
    obtain ⟨e, he, rfl⟩ := List.mem_map.mp hs
    exact Int.le_of_lt (h.inner e he).nonempty
  intro a ha
  obtain ⟨e, he, ha⟩ := List.mem_flatMap.mp ha
  obtain ⟨hstart, -⟩ := (h.tiles.ordered hinner).2.1 _ (List.mem_map_of_mem he)
  have hle := (h.inner e he).nonempty
  rw [Atom.ofEvent] at ha
  split at ha
  · exact Atom.behind_of_mem_ofText hstart ha
  · obtain rfl := List.mem_singleton.mp ha
    exact ⟨hstart, by simp only [Atom.span]; omega⟩

theorem le_runStop {p : Int} : ∀ {run : List (Char × Span)} {start : Int}, p ≤ start →
    (∀ a ∈ Atom.ofRun run, a.span.Behind p) → p ≤ runStop start run := by
  intro run
  induction run with
  | nil => intro start hp _; exact hp
  | cons x run ih =>
    intro start hp h
    obtain ⟨hx, hrun⟩ := List.forall_mem_cons.mp h
    exact ih hx.2 hrun

/-- A leaf is behind what all of its atoms, and the leaf before it, are behind. -/
theorem Leaf.Spelt.behind {p stop : Int} {l : Leaf} {as : List Atom} (h : l.Spelt stop as)
    (hstop : p ≤ stop) (has : ∀ a ∈ as, a.span.Behind p) : l.span.Behind p := by
  cases l with
  | mark v =>
    obtain ⟨c, s, rfl, rfl⟩ := h
    exact has _ List.mem_cons_self
  | run v =>
    obtain ⟨c, s, run, rfl, rfl⟩ := h
    obtain ⟨hs, hrun⟩ := List.forall_mem_cons.mp has
    exact ⟨hs.1, le_runStop hs.2 hrun⟩
  | space v =>
    obtain ⟨run, rfl, -, rfl⟩ := h
    exact ⟨hstop, le_runStop hstop has⟩
  | event e s =>
    obtain rfl := h
    exact has _ List.mem_cons_self

/-- So are all the leaves that some atoms spell. -/
theorem Spells.behind {p stop : Int} {ls : List Leaf} {as : List Atom} (h : Spells stop ls as)
    (hstop : p ≤ stop) (has : ∀ a ∈ as, a.span.Behind p) : ∀ l ∈ ls, l.span.Behind p := by
  induction h with
  | nil => intro l hl; cases hl
  | cons head _ ih =>
    obtain ⟨hhead, htail⟩ := List.forall_mem_append.mp has
    have hl := head.behind hstop hhead
    exact List.forall_mem_cons.mpr ⟨hl, ih hl.2 htail⟩

/-! ### Changes -/

/-- The changes of a block are made behind its start, even if it has line ends in its texts. -/
theorem PlacedBlock.Stands.le_start_of_mem_edits {text : Text} {b : PlacedBlock}
    (h : b.Stands text) {config : Config} {ns : Paragraph} (hparse : b.block.parse = .ok ns) :
    ∀ d ∈ Paragraph.edits (polish config ns), b.start ≤ d.span.start := by
  have hbehind := (Block.spells_of_parse hparse b.start).behind (Int.le_refl _) h.atoms_behind
  intro d hd
  rw [Paragraph.edits_eq] at hd
  obtain ⟨l, hl, hd⟩ := List.mem_flatMap.mp hd
  have hspan := List.mem_map_of_mem (f := Leaf.span) (List.mem_reverse.mp hl)
  rw [(revised_polish config ns).map_span] at hspan
  obtain ⟨l', hl', hspan⟩ := List.mem_map.mp hspan
  rw [Leaf.span_of_mem_edits hd, ← hspan]
  exact (hbehind l' hl').1

section FrontMatter

variable {text w : Text} {tokens : List Token} {bs : List PlacedBlock}

/-- Front matter starts with a hyphen, so no spaces come before it. -/
theorem IsFrontMatter.not_isBlank (h : IsFrontMatter text w) :
    ¬ text.IsBlank ∧ (edgeSpaces text).1 = [] := by
  obtain ⟨_, ⟨_, feed, closing, last, rest, ⟨blanks, rfl, -⟩, -, -, -, rfl, rfl, -⟩, -⟩ := h
  have hspace : isSpace '-' = false := by decide
  constructor
  · intro hblank
    have := hblank '-' (by simp)
    rw [hspace] at this
    cases this
  · simp [edgeSpaces, hspace]

/-- **All changes are made behind the front matter** if a line feed ends that. -/
theorem le_start_of_mem_changes (hfront : IsFrontMatter text (w ++ ['\n']))
    (h : BlocksOf text tokens bs) (config : Config) {d : Diagnostic}
    (hd : d ∈ changes text config (bs.filter PlacedBlock.isProse)
      (blockEdges (markupEvents text tokens))) :
    (Text.byteLength (w ++ ['\n']) : Int) ≤ d.span.start := by
  obtain ⟨hblank, hleading⟩ := hfront.not_isBlank
  have hafter := h.after_frontMatter hfront
  rw [changes, List.mem_append, List.mem_append] at hd
  rcases hd with (hd | hd) | hd
  · -- the spaces at the end of the text start where some block stops
    obtain ⟨e, hedges, -, rfl⟩ := (exists_of_mem_trimEdits hblank).1 hd
    rw [h.markupEvents_eq] at hedges
    obtain ⟨-, last, hlast, hstop⟩ := exists_of_blockEdges
      (fun b hb e he => ((h.stands b hb).inner e he).inside) hedges
    have := hafter last hlast
    have := (h.stands last hlast).start_le_stop
    simp only
    omega
  · have hprose : ∀ d ∈ paragraphEdits config (bs.filter PlacedBlock.isProse),
        (Text.byteLength (w ++ ['\n']) : Int) ≤ d.span.start := by
      refine forall_mem_paragraphEdits fun b hb ns hparse d hd => ?_
      have hb := (List.mem_filter.mp hb).1
      exact Int.le_trans (hafter b hb) ((h.stands b hb).le_start_of_mem_edits hparse d hd)
    exact hprose d hd
  · -- there are no spaces at the start of the text
    obtain ⟨e, hedges, hstart, rfl⟩ := (exists_of_mem_trimEdits hblank).2 hd
    have hsound := ((trimEdits_spec hblank config _).2 e hedges).2.sound _ hd
    exact absurd hleading.symm hsound.changes

/-- The text of a report is what making the changes of the blocks comes to. -/
theorem encode_of_formatTokens (h : BlocksOf text tokens bs) {config : Config}
    {ignored : List Span} {r : Report} (hr : formatTokens text tokens config ignored = .ok r) :
    r.diagnostics = admitted ignored (changes text config (bs.filter PlacedBlock.isProse)
        (blockEdges (markupEvents text tokens))) ∧
      Utf8.encode r.text = r.diagnostics.foldl
        (fun bytes d => splice bytes d.span (Utf8.encode d.modified)) (Utf8.encode text) := by
  have hresults := readEvents_placedBlocks fun b hb e he => ((h.stands b hb).inner e he).inside
  rw [← h.markupEvents_eq] at hresults
  have hedits : allEdits text
      ((paragraphsOf (readEvents (markupEvents text tokens))).map (polish config)) config
      (blockEdges (markupEvents text tokens)) =
        changes text config (bs.filter PlacedBlock.isProse)
          (blockEdges (markupEvents text tokens)) := by
    rw [hresults]
    rfl
  rw [formatTokens, buildReport, hedits, Draft.applyAll_eq, ← admitted] at hr
  dsimp only [Draft.ofText] at hr
  rw [List.nil_append] at hr
  split at hr
  · cases hr
  · next out hout =>
    cases hr
    exact ⟨rfl, Utf8.encode_of_decode hout⟩

/-- A report keeps the front matter, and tells of changes behind it only. -/
theorem formatTokens_frontMatter (hfront : IsFrontMatter text (w ++ ['\n'])) {config : Config}
    {ignored : List Span} {r : Report} (hr : formatTokens text tokens config ignored = .ok r) :
    w ++ ['\n'] <+: r.text ∧
      ∀ d ∈ r.diagnostics, (Text.byteLength (w ++ ['\n']) : Int) ≤ d.span.start := by
  obtain ⟨bs, h⟩ := exists_blocksOf text tokens
  obtain ⟨hdiagnostics, htext⟩ := encode_of_formatTokens h hr
  have hbehind : ∀ d ∈ r.diagnostics, (Text.byteLength (w ++ ['\n']) : Int) ≤ d.span.start := by
    rw [hdiagnostics]
    exact fun d hd => le_start_of_mem_changes hfront h config (List.mem_filter.mp hd).1
  refine ⟨Utf8.isPrefix_of_encode ?_, hbehind⟩
  rw [htext]
  refine isPrefix_foldl_splice (by rwa [Utf8.length_encode]) ?_
  obtain ⟨rest, rfl⟩ := hfront.exists_append
  rw [Utf8.encode_append (w ++ ['\n'])]
  exact List.prefix_append _ _

/-- Tokens that are in order give a report. -/
theorem exists_formatTokens_eq_ok (hblank : ¬ text.IsBlank) (order : Markdown.InOrder tokens)
    (plain : ∀ t ∈ tokens, t.IsPlain) (config : Config) (ignored : List Span) :
    ∃ r, formatTokens text tokens config ignored = .ok r := by
  obtain ⟨bs, hprose⟩ := exists_prose text order plain
  obtain ⟨out, -, hfold⟩ := exists_rewrites_of_editsWithin
    ((editsWithin_changes hprose hblank config).admitted ignored)
  exact ⟨_, formatTokens_eq_ok hprose config ignored hfold⟩

/-- Spans to be left alone are missing only when some pattern has a fault that is not passed
over. -/
theorem exists_of_ignoredSpans_eq_error {patterns : List Text} {fault : Pattern.Fault}
    (h : ignoredSpans text patterns = .error fault) :
    fault ≠ .malformed ∧ ∃ p ∈ patterns, Pattern.read p = .error fault := by
  induction patterns with
  | nil => cases h
  | cons p patterns ih =>
    have hlater (h : ignoredSpans text patterns = .error fault) :
        fault ≠ .malformed ∧ ∃ q ∈ p :: patterns, Pattern.read q = .error fault := by
      obtain ⟨hfault, q, hq, hread⟩ := ih h
      exact ⟨hfault, q, List.mem_cons_of_mem _ hq, hread⟩
    rw [ignoredSpans] at h
    split at h
    · cases hspans : ignoredSpans text patterns with
      | ok spans =>
        rw [hspans] at h
        cases h
      | error fault' =>
        rw [hspans] at h
        cases h
        exact hlater hspans
    · exact hlater h
    · next fault' hne hread =>
      cases h
      exact ⟨hne, p, List.mem_cons_self, hread⟩

/-- **Front matter comes out as it went in.**  Whatever the settings and the tokens of a document
are, its report starts with the front matter, and tells of no change before the end of that.  There
is no report only when a pattern has a fault that is not passed over, or when the tokens are out of
order or hold line ends in their texts. -/
theorem formatParsed_frontMatter (hfront : IsFrontMatter text (w ++ ['\n'])) (tokens : List Token)
    (config : Config) :
    (∃ r, formatParsed text tokens config = .ok r ∧ w ++ ['\n'] <+: r.text ∧
      ∀ d ∈ r.diagnostics, (Text.byteLength (w ++ ['\n']) : Int) ≤ d.span.start) ∨
    (∃ fault, formatParsed text tokens config = .error (.pattern fault) ∧ fault ≠ .malformed ∧
      ∃ p ∈ (Directives.ofTokens tokens).patterns ++ config.ignores,
        Pattern.read p = .error fault) ∨
    ∃ fault, formatParsed text tokens config = .error (.encoding fault) ∧
      ¬ (Markdown.InOrder tokens ∧ ∀ t ∈ tokens, t.IsPlain) := by
  rw [formatParsed]
  split
  · refine .inl ⟨_, rfl, ?_, by simp⟩
    obtain ⟨rest, rfl⟩ := hfront.exists_append
    exact List.prefix_append _ _
  · split
    · next fault hfault =>
      exact .inr (.inl ⟨fault, rfl, exists_of_ignoredSpans_eq_error hfault⟩)
    · next ignored _ =>
      cases hr : formatTokens text tokens config ignored with
      | ok r => exact .inl ⟨r, rfl, formatTokens_frontMatter hfront hr⟩
      | error fault =>
        refine .inr (.inr ⟨fault, rfl, ?_⟩)
        rintro ⟨order, plain⟩
        obtain ⟨r, hok⟩ := exists_formatTokens_eq_ok hfront.not_isBlank.1 order plain config ignored
        cases hr.symm.trans hok

end FrontMatter

/-- An empty line between two fences. -/
theorem isFrontMatter_line (rest : Text) :
    IsFrontMatter ("---\n\n---\n".toList ++ rest) ("---\n\n---".toList ++ ['\n']) := by
  have hhyphens : IsHyphens ['-', '-', '-'] := ⟨[], rfl, by simp⟩
  refine ⟨['\n'], ⟨_, ['\n'], _, ['\n'], rest, hhyphens, .inl rfl, hhyphens, .inr ⟨[], rfl⟩, rfl,
    rfl, .inl (.inl rfl)⟩, fun front' body' _ hbody => ⟨by simp, ?_⟩⟩
  exact List.length_pos_iff.mpr hbody

/-- The conclusion of `formatParsed_frontMatter` at front matter with an empty line, in front of a
paragraph with a gap. -/
theorem formatParsed_frontMatter_line :
    ∃ r, formatParsed "---\n\n---\n中a".toList (Markdown.parse "---\n\n---\n中a".toList) .default =
        .ok r ∧
      "---\n\n---\n".toList <+: r.text ∧ r.text = "---\n\n---\n中 a".toList ∧
      ∀ d ∈ r.diagnostics, 9 ≤ d.span.start := by
  let source : Text := "---\n\n---\n中a".toList
  have hfront : IsFrontMatter source ("---\n\n---".toList ++ ['\n']) :=
    isFrontMatter_line ['中', 'a']
  have hrun : formatParsed source (Markdown.parse source) .default =
      .ok ⟨"---\n\n---\n中 a".toList, [⟨.space, [], [' '], ⟨12, 12⟩⟩], []⟩ :=
    Except.eq_ok_of_toOption (by decide +kernel)
  rcases formatParsed_frontMatter hfront (Markdown.parse source) .default with
    ⟨r, hr, hkept, hbehind⟩ | ⟨fault, hfault, -⟩ | ⟨fault, hfault, -⟩
  · rw [hrun] at hr
    cases hr
    exact ⟨_, hrun, hkept, rfl, hbehind⟩
  · rw [hrun] at hfault
    cases hfault
  · rw [hrun] at hfault
    cases hfault

/-- There need not be a report on a text with front matter.  In the one below a part of a pattern is
to be repeated more often than can be counted. -/
theorem not_format_frontMatter :
    ¬ ∀ (text w : Text) (config : Config), IsFrontMatter text (w ++ ['\n']) →
      ∃ r, format text config = .ok r ∧ w ++ ['\n'] <+: r.text := by
  intro h
  obtain ⟨r, hok, -⟩ := h _ _ .default
    (isFrontMatter_line "<!-- zhfmt ignore: a\x7b4294967296\x7d -->\n".toList)
  have hnone : (format ("---\n\n---\n".toList ++
      "<!-- zhfmt ignore: a\x7b4294967296\x7d -->\n".toList) .default).toOption = none := by
    decide +kernel
  rw [hok] at hnone
  cases hnone

end CjkProse
