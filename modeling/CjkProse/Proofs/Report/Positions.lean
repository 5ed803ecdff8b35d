import CjkProse.Console
import CjkProse.Proofs.Report.FrontMatter
import CjkProse.Proofs.Source.Order

/-!
# Where a report points

A change is told by the line and the column at which it starts.  A place between two characters has a
line and a column that name it, later places come later line by line, and so the rows of a report,
which are told from the start of the text to its end, come in the order of their places.

This takes texts that are read as they stand.  Deep in links within links no markup is read any more,
line ends neither; a text that goes on in the next line of a quote is then told as if the mark of the
quote were not there.

## Main definitions

* `Text.IsBoundary` — the offsets between two characters.
* `Position.Precedes` — one position comes before another, line by line.
* `Position.Follows` — the position right after the beginning of a text.

## Main results

* `Position.ofOffset_append` — the position of what stands behind the beginning of a text.
* `Position.precedes_of_lt` — later places between characters have later positions.
* `ordered_changes` — changes are told in the order of the offsets at which they start.
* `ordered_diagnostics` — the changes of a report, too, and each of them is about what stands there.
* `formatParsed_positions` — **the rows of a report are in document order, at true positions.**
* `format_positions` — the same for the markup that a text is read as.
* `not_formatParsed_positions` — but not if a line ends within a text.
-/

namespace CjkProse

open Markdown (Token)

/-! ### Positions -/

/-- The offsets between two characters of a text, and at its ends. -/
def Text.IsBoundary (text : Text) (offset : Int) : Prop :=
  ∃ before after : Text, text = before ++ after ∧ offset = Text.byteLength before

/-- The beginning of a text that fits into the bytes of a beginning is this beginning. -/
theorem Text.takeBytes_append (p r : Text) : (p ++ r).takeBytes p.byteLength = p := by
  induction p with
  | nil =>
    cases r with
    | nil => rfl
    | cons c r =>
      have hpos := c.utf8Size_pos
      rw [List.nil_append, Text.byteLength_nil, Text.takeBytes, if_neg (by omega)]
  | cons c p ih =>
    rw [List.cons_append, Text.byteLength_cons, Text.takeBytes,
      if_pos (Nat.le_add_right _ _), Nat.add_sub_cancel_left, ih]

namespace Position

/-- The position `p` comes before `q`: on an earlier line, or before it on the same line. -/
def Precedes (p q : Position) : Prop :=
  p.line < q.line ∨ p.line = q.line ∧ p.column < q.column

/-- The position `p` is the one right after `before`.  Line and column are counted from one: so many
line feeds less one come before it, and so many characters less one stand between the last of them
and it. -/
structure Follows (p : Position) (before : Text) : Prop where
  /-- The line feeds before it. -/
  line : p.line = before.count '\n' + 1
  /-- The characters before it on its line. -/
  column : ∃ lines last : Text, before = lines ++ last ∧ '\n' ∉ last ∧
    (lines = [] ∨ lines.getLast? = some '\n') ∧ p.column = last.length + 1

/-- The position right after the beginning of a text. -/
theorem ofOffset_append (p r : Text) : ofOffset (p ++ r) p.byteLength = after p := by
  have hle : p.byteLength ≤ (p ++ r).byteLength := by
    rw [Text.byteLength_append]
    omega
  rw [ofOffset, clampOffset_of_le hle, Text.takeBytes_append]

theorem follows_after (t : Text) : (after t).Follows t := by
  refine ⟨rfl, (t.reverse.dropWhile (· != '\n')).reverse, (t.reverse.takeWhile (· != '\n')).reverse,
    ?_, ?_, ?_, ?_⟩
  · rw [← List.reverse_append, List.takeWhile_append_dropWhile, List.reverse_reverse]
  · rw [List.mem_reverse]
    intro hmem
    have hne := List.all_eq_true.mp List.all_takeWhile _ hmem
    simp at hne
  · rw [List.getLast?_reverse, List.reverse_eq_nil_iff]
    cases hdrop : t.reverse.dropWhile (· != '\n') with
    | nil => exact .inl rfl
    | cons c rest =>
      have hhead := List.head?_dropWhile_not (· != '\n') t.reverse
      rw [hdrop] at hhead
      exact .inr (by simpa using hhead)
  · rw [after, List.length_reverse]

/-- What comes after more of a text has a later position. -/
theorem precedes_after_append (p : Text) {q : Text} (hq : q ≠ []) :
    (after p).Precedes (after (p ++ q)) := by
  by_cases hfeed : '\n' ∈ q
  · have hcount := List.count_pos_iff.mpr hfeed
    left
    show p.count '\n' + 1 < (p ++ q).count '\n' + 1
    rw [List.count_append]
    omega
  · have hlength := List.length_pos_iff.mpr hq
    have hall : ∀ c ∈ q.reverse, (c != '\n') = true := by
      intro c hc
      rw [bne_iff_ne]
      rintro rfl
      exact hfeed (List.mem_reverse.mp hc)
    right
    show p.count '\n' + 1 = (p ++ q).count '\n' + 1 ∧
      (p.reverse.takeWhile (· != '\n')).length + 1 <
        ((p ++ q).reverse.takeWhile (· != '\n')).length + 1
    rw [List.count_append, List.count_eq_zero.mpr hfeed, List.reverse_append,
      List.takeWhile_append_of_pos hall, List.length_append, List.length_reverse]
    omega

/-- **Later places between characters have later positions.** -/
theorem precedes_of_lt {text : Text} {a b : Int} (ha : text.IsBoundary a) (hb : text.IsBoundary b)
    (hab : a < b) : (ofOffset text a).Precedes (ofOffset text b) := by
  obtain ⟨p, r, htext, rfl⟩ := ha
  obtain ⟨p', r', rfl, rfl⟩ := hb
  obtain ⟨q, rfl⟩ := Text.exists_append_of_byteLength_le htext.symm (by omega)
  rw [ofOffset_append, htext, ofOffset_append]
  refine precedes_after_append p ?_
  rintro rfl
  rw [List.append_nil] at hab
  exact absurd hab (Int.lt_irrefl _)

end Position

/-! ### The changes of a document -/

/-- Changes are told in the order of the offsets at which they start, the last one first, and each of
them is about what the text holds there. -/
theorem ordered_changes {text : Text} {tokens : List Token} {bs : List PlacedBlock}
    (h : Prose text tokens bs) (config : Config) :
    ((changes text config bs (blockEdges (markupEvents text tokens))).Pairwise
        fun d e => e.span.start ≤ d.span.start) ∧
      ∀ d ∈ changes text config bs (blockEdges (markupEvents text tokens)), d.IsAt text := by
  have hstarts : ∀ {b : Int} {edits : List Diagnostic}, EditsWithin text 0 b edits →
      edits.Pairwise fun d e => e.span.start ≤ d.span.start := by
    intro b edits hwithin
    refine List.Pairwise.imp_of_mem ?_ hwithin.ordered
    intro d e _ he hle
    have := (hwithin.isAt e he).start_le_stop
    omega
  by_cases hblank : text.IsBlank
  · -- the change that empties the text starts where the text does
    obtain ⟨hend, hstart⟩ := trimEdits_of_blank hblank config (blockEdges (markupEvents text tokens))
    have hprose := h.editsWithin config
    have hwhole := editsWithin_trimEdit (b := text.byteLength) hblank fun _ =>
      ⟨Slice.whole text, Int.le_refl 0, Int.le_refl _⟩
    rw [changes, hend, List.nil_append]
    rcases hstart with hstart | hstart
    · rw [hstart, List.append_nil]
      exact ⟨hstarts hprose, hprose.isAt⟩
    · rw [hstart]
      refine ⟨List.pairwise_append.mpr ⟨hstarts hprose, hstarts hwhole, fun d hd e he => ?_⟩,
        List.forall_mem_append.mpr ⟨hprose.isAt, hwhole.isAt⟩⟩
      obtain ⟨-, rfl⟩ := mem_trimEdit.mp he
      exact (hprose.within d hd).1
  · have hwithin := editsWithin_changes h hblank config
    exact ⟨hstarts hwithin, hwithin.isAt⟩

/-- The texts of a document in which no text that is read holds a line end are read as they stand. -/
theorem BlocksOf.fits_of_events {text : Text} {tokens : List Token} {bs : List PlacedBlock}
    (h : BlocksOf text tokens bs) (plain : ∀ e ∈ markupEvents text tokens, e.IsPlain) :
    ∀ b ∈ bs, b.Fits text := by
  rw [h.markupEvents_eq] at plain
  intro b hb
  refine (h.stands b hb).fits fun e he => plain e (List.mem_flatMap.mpr ⟨b, hb, ?_⟩)
  exact List.mem_cons_of_mem _ (List.mem_append_left _ he)

/-- No line ends within a text that is read if none does in the texts of the tokens. -/
theorem isPlain_of_mem_markupEvents {text : Text} {tokens : List Token}
    (plain : ∀ t ∈ tokens, t.IsPlain) : ∀ e ∈ markupEvents text tokens, e.IsPlain := by
  obtain ⟨bs, h⟩ := exists_blocksOf text tokens
  rw [h.markupEvents_eq]
  intro e he
  obtain ⟨b, hb, he⟩ := List.mem_flatMap.mp he
  rw [PlacedBlock.events, List.mem_append, List.mem_cons, List.mem_singleton] at he
  rcases he with (rfl | he) | rfl
  · intro hkind
    cases hkind
  · obtain ⟨t, ht, hplain, -⟩ := h.origin b hb
    exact hplain (plain t ht) e he
  · intro hkind
    cases hkind

/-- The changes of a report are told in the order of the offsets at which they start, the last one
first, and each of them is about what the text holds there. -/
theorem ordered_diagnostics {text : Text} {tokens : List Token} {config : Config} {report : Report}
    (order : Markdown.InOrder tokens) (plain : ∀ e ∈ markupEvents text tokens, e.IsPlain)
    (h : formatParsed text tokens config = .ok report) :
    (report.diagnostics.Pairwise fun d e => e.span.start ≤ d.span.start) ∧
      ∀ d ∈ report.diagnostics, d.IsAt text := by
  rw [formatParsed] at h
  split at h
  · cases h
    exact ⟨.nil, by simp⟩
  · split at h
    · cases h
    · next ignored _ =>
      cases hreport : formatTokens text tokens config ignored with
      | error fault =>
        rw [hreport] at h
        cases h
      | ok r =>
        rw [hreport] at h
        cases h
        obtain ⟨bs, hblocks⟩ := exists_blocksOf text tokens
        have hprose := hblocks.prose_of_fits order (hblocks.fits_of_events plain)
        obtain ⟨hpairs, hat⟩ := ordered_changes hprose config
        rw [(encode_of_formatTokens hblocks hreport).1]
        exact ⟨hpairs.filter _, fun d hd => hat d (List.mem_filter.mp hd).1⟩

/-! ### The rows of a report -/

/-- The positions that the changes of a report are told at, from the first row to the last one. -/
def Report.places (text : Text) (r : Report) : List Position :=
  r.diagnostics.reverse.map fun d => Position.ofOffset text d.span.start

/-- **The rows of a report are in document order, at true positions**, when no line ends within a text
that is read.  Each row of a change begins with the position of the change, and the positions come
line by line.  The position of a change is that of the first character that it is about, and what
stands there is what the change is told to be about.  Of two places between characters the later one
has the later position. -/
theorem formatParsed_positions {text : Text} {tokens : List Token} {config : Config}
    {report : Report} (order : Markdown.InOrder tokens)
    (plain : ∀ e ∈ markupEvents text tokens, e.IsPlain)
    (h : formatParsed text tokens config = .ok report) (name : Text) :
    (∃ rows, report.table name text = .table (Markup.escape name) Report.heads
        (report.parseErrors.map (Report.errorRow text) ++ rows) ∧
      rows.map List.head? = (report.places text).map (fun p => some p.label) ∧
      (report.places text).Pairwise fun p q => p = q ∨ p.Precedes q) ∧
    (∀ d ∈ report.diagnostics, ∃ before after, text = before ++ d.original ++ after ∧
      d.span.start = Text.byteLength before ∧
      (Position.ofOffset text d.span.start).Follows before) ∧
    ∀ (t : Text) (a b : Int), t.IsBoundary a → t.IsBoundary b → a < b →
      (Position.ofOffset t a).Precedes (Position.ofOffset t b) := by
  obtain ⟨hpairs, hat⟩ := ordered_diagnostics order plain h
  have hboundary : ∀ d ∈ report.diagnostics, text.IsBoundary d.span.start := by
    intro d hd
    obtain ⟨before, after, htext, hspan⟩ := hat d hd
    exact ⟨before, d.original ++ after, by rw [htext, List.append_assoc], by rw [hspan]⟩
  refine ⟨⟨report.diagnostics.reverse.map (Report.changeRow text), rfl, ?_, ?_⟩, fun d hd => ?_,
    fun _ _ _ => Position.precedes_of_lt⟩
  · rw [Report.places, List.map_map, List.map_map]
    rfl
  · rw [Report.places, List.pairwise_map, List.pairwise_reverse]
    refine hpairs.imp_of_mem fun {d e} hd he hle => ?_
    rcases Int.lt_or_eq_of_le hle with hlt | heq
    · exact .inr (Position.precedes_of_lt (hboundary e he) (hboundary d hd) hlt)
    · rw [heq]
      exact .inl rfl
  · obtain ⟨before, after, htext, hspan⟩ := hat d hd
    refine ⟨before, after, htext, by rw [hspan], ?_⟩
    rw [hspan, htext, List.append_assoc, Position.ofOffset_append]
    exact Position.follows_after before

/-- The rows of a report are in document order, at true positions, for the markup that the text itself
is read as, when no line ends within a text that is read. -/
theorem format_positions {text : Text} {config : Config} {report : Report}
    (plain : ∀ e ∈ markupEvents text (Markdown.parse text), e.IsPlain)
    (h : format text config = .ok report) (name : Text) :
    (∃ rows, report.table name text = .table (Markup.escape name) Report.heads
        (report.parseErrors.map (Report.errorRow text) ++ rows) ∧
      rows.map List.head? = (report.places text).map (fun p => some p.label) ∧
      (report.places text).Pairwise fun p q => p = q ∨ p.Precedes q) ∧
    (∀ d ∈ report.diagnostics, ∃ before after, text = before ++ d.original ++ after ∧
      d.span.start = Text.byteLength before ∧
      (Position.ofOffset text d.span.start).Follows before) ∧
    ∀ (t : Text) (a b : Int), t.IsBoundary a → t.IsBoundary b → a < b →
      (Position.ofOffset t a).Precedes (Position.ofOffset t b) :=
  formatParsed_positions (Markdown.parse_inOrder text) plain h name

/-- The conclusion of `format_positions` at two lines with a gap to fill in each. -/
theorem format_positions_lines :
    let text : Text := "中a\n文b".toList
    ∃ report, format text .default = .ok report ∧
      report.places text = [⟨1, 2⟩, ⟨2, 2⟩] ∧
      ((report.places text).Pairwise fun p q => p = q ∨ p.Precedes q) ∧
      ∀ d ∈ report.diagnostics, ∃ before after, text = before ++ d.original ++ after ∧
        d.span.start = Text.byteLength before ∧
        (Position.ofOffset text d.span.start).Follows before := by
  intro text
  have hrun : format text .default =
      .ok ⟨"中 a\n文 b".toList, [⟨.space, [], [' '], ⟨8, 8⟩⟩, ⟨.space, [], [' '], ⟨3, 3⟩⟩], []⟩ :=
    Except.eq_ok_of_toOption (by decide +kernel)
  have hparse : Markdown.parse text =
      [.proseOpen "paragraph" (some 0),
        .inline text [.text ['中', 'a'], .lineBreak false, .text ['文', 'b']] (some 0)] := by
    decide +kernel
  have hplain : ∀ t ∈ Markdown.parse text, t.IsPlain := by
    rw [hparse]
    simp [Token.IsPlain]
  obtain ⟨⟨rows, -, -, hpairs⟩, hplaces, -⟩ :=
    format_positions (isPlain_of_mem_markupEvents hplain) hrun []
  exact ⟨_, hrun, by decide, hpairs, hplaces⟩

/-- A quote with links in links, as deep as markup is read.  A line ends within the innermost one. -/
def nestedLinks : Text :=
  "> ".toList ++ List.replicate 20 '[' ++ "中\n> 文　字".toList ++
    (List.replicate 19 "](a \"[y][n]".toList).flatten ++ "](u \"t".toList ++
    List.replicate 8 ')' ++ "\")[t](<w))[n]".toList ++
    (List.replicate 18 "]()[n]".toList).flatten ++ "]()[t](v>)\n\n[y]: /v".toList

/-- The inline token that is made of it, in which the line end is part of a text. -/
def nestedLinksToken : Token :=
  .inline
    (List.replicate 20 '[' ++ "中\n文　字".toList ++
      (List.replicate 19 "](a \"[y][n]".toList).flatten ++ "](u \"t".toList ++
      List.replicate 8 ')' ++ "\")[t](<w))[n]".toList ++
      (List.replicate 18 "]()[n]".toList).flatten ++ "]()[t](v>)".toList)
    (List.replicate 20 (.linkOpen false) ++ [.text "中\n文　字".toList] ++
      (List.replicate 19 [.linkClose, .text "[n]".toList]).flatten ++
      [.linkClose, .linkOpen false, .text ['t'], .linkClose])
    (some 0)

set_option maxRecDepth 4096 in
/-- A change does not always start where a character does: behind the line end of `nestedLinksToken`
the characters are told two bytes before the places at which they stand. -/
theorem not_formatParsed_positions :
    ¬ ∀ (text : Text) (tokens : List Token) (config : Config) (report : Report),
      Markdown.InOrder tokens → formatParsed text tokens config = .ok report →
        ∀ d ∈ report.diagnostics, ∃ before after, text = before ++ after ∧
          d.span.start = Text.byteLength before ∧
          (Position.ofOffset text d.span.start).Follows before := by
  intro h
  have hchange : ((formatParsed nestedLinks [nestedLinksToken]
      { Config.empty with noSpaceBetweenFullwidth := true }).toOption.map Report.diagnostics) =
        some [⟨.space, ['　'], [], ⟨29, 32⟩⟩] := by
    decide +kernel
  obtain ⟨report, hreport, hdiagnostics⟩ := Option.map_eq_some_iff.mp hchange
  obtain ⟨before, after, htext, hstart, -⟩ := h nestedLinks [nestedLinksToken] _ report
    (List.pairwise_singleton _ _) (Except.eq_ok_of_toOption hreport) ⟨.space, ['　'], [], ⟨29, 32⟩⟩
    (by rw [hdiagnostics]; exact List.mem_singleton_self _)
  have hlength : 29 = before.byteLength := Int.ofNat.inj hstart
  have hbytes : nestedLinks.takeBytes 29 = before := by
    rw [htext, hlength, Text.takeBytes_append]
  rw [← hbytes] at hlength
  exact absurd hlength (by decide +kernel)

end CjkProse
