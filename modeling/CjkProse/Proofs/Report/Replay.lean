import CjkProse.Proofs.Report.Document

/-!
# Replaying a report

The changes that a report tells come from the end of the text to its start and do not overlap, each
of them is about what the text holds at its span, and making all of them at once gives the text of
the report.

## Main results

* `exists_rewrites_of_editsWithin` — making changes one by one rewrites the text.
* `formatTokens_replay` — **a report tells what has been done.**
-/

namespace CjkProse

open Markdown (Token)

/-- Keeping some changes out leaves the others as they are. -/
theorem EditsWithin.admitted {text : Text} {a b : Int} {edits : List Diagnostic}
    (h : EditsWithin text a b edits) (ignored : List Span) :
    EditsWithin text a b (admitted ignored edits) :=
  ⟨h.ordered.filter _, fun d hd => h.within d (List.mem_filter.mp hd).1,
    fun d hd => h.isAt d (List.mem_filter.mp hd).1, fun d hd => h.sound d (List.mem_filter.mp hd).1⟩

/-- Making changes one by one, the last place first, rewrites the text. -/
theorem exists_rewrites_of_editsWithin {text : Text} {b : Int} {edits : List Diagnostic}
    (h : EditsWithin text 0 b edits) :
    ∃ out, Rewrites 0 text edits.reverse out ∧
      edits.foldl (fun bytes d => splice bytes d.span (Utf8.encode d.modified))
        (Utf8.encode text) = Utf8.encode out := by
  have hstart : ∀ d ∈ edits.reverse, (Text.byteLength [] : Int) ≤ d.span.start :=
    fun d hd => (h.within d (List.mem_reverse.mp hd)).1
  obtain ⟨out, hout⟩ := exists_rewrites (List.nil_append text).symm
    (fun d hd => h.isAt d (List.mem_reverse.mp hd)) hstart (List.pairwise_reverse.mpr h.ordered)
  refine ⟨out, hout, ?_⟩
  rw [List.foldl_eq_foldr_reverse]
  exact hout.foldr_splice rfl

/-- **A report tells what has been done.**  Its changes come in reverse document order without
overlapping, each of them is about what the text holds between the characters where it starts and
where it stops, and changes it; made at once, they give the text of the report. -/
theorem formatTokens_replay (text : Text) {tokens : List Token} (config : Config)
    (ignored : List Span) (order : Markdown.InOrder tokens) (plain : ∀ t ∈ tokens, t.IsPlain)
    (shown : ∀ t ∈ tokens, t.IsShown) :
    ∃ report, formatTokens text tokens config ignored = .ok report ∧
      (report.diagnostics.Pairwise fun d e => e.span.stop ≤ d.span.start) ∧
      (∀ d ∈ report.diagnostics, d.IsAt text ∧ d.modified ≠ d.original) ∧
      replaceAll 0 report.diagnostics.reverse (Utf8.encode text) = Utf8.encode report.text := by
  obtain ⟨bs, hprose⟩ := exists_prose text order plain
  have hwithin : EditsWithin text 0 (Text.byteLength text)
      (changes text config bs (blockEdges (markupEvents text tokens))) := by
    by_cases hblank : text.IsBlank
    · -- a blank text has one change at most
      obtain ⟨hend, hstart⟩ :=
        trimEdits_of_blank hblank config (blockEdges (markupEvents text tokens))
      rw [changes, hend,
        paragraphEdits_eq_nil_of_blank_text hprose.fits (hprose.shown shown) hblank]
      rcases hstart with hstart | hstart
      · rw [hstart]
        exact .nil text 0 _
      · rw [hstart]
        exact editsWithin_trimEdit hblank fun _ =>
          ⟨Slice.whole text, Int.le_refl _, Int.le_refl _⟩
    · exact editsWithin_changes hprose hblank config
  obtain ⟨out, hout, hfold⟩ := exists_rewrites_of_editsWithin (hwithin.admitted ignored)
  have hadmitted := hwithin.admitted ignored
  refine ⟨_, formatTokens_eq_ok hprose config ignored hfold, hadmitted.ordered,
    fun d hd => ⟨hadmitted.isAt d hd, (hadmitted.sound d hd).changes⟩, hout.replaceAll⟩

/-- The conclusion of `formatTokens_replay` at a text with a space at its end, which is trimmed, and
a gap within, which is filled. -/
theorem formatTokens_replay_trimmed :
    ∃ report,
      formatTokens ['中', 'a', ' '] [.inline ['中', 'a'] [.text ['中', 'a']] (some 0)]
        .default [] = .ok report ∧
      report.diagnostics = [⟨.space, [' '], [], ⟨4, 5⟩⟩, ⟨.space, [], [' '], ⟨3, 3⟩⟩] ∧
      replaceAll 0 report.diagnostics.reverse (Utf8.encode ['中', 'a', ' ']) =
        Utf8.encode report.text := by
  have hshown : Token.IsShown (.inline ['中', 'a'] [.text ['中', 'a']] (some 0)) := by
    intro pieces h
    have hpieces : placeInline ['中', 'a'] [.text ['中', 'a']] =
        .ok [⟨⟨.text, "", ['中', 'a']⟩, 2⟩] := rfl
    rw [hpieces] at h
    cases h
    exact ⟨fun h => absurd rfl h, trivial⟩
  have hplain : Token.IsPlain (.inline ['中', 'a'] [.text ['中', 'a']] (some 0)) := by
    simp [Token.IsPlain]
  have horder : Markdown.InOrder [.inline ['中', 'a'] [.text ['中', 'a']] (some 0)] :=
    List.pairwise_singleton _ _
  obtain ⟨report, hreport, -, -, hreplay⟩ :=
    formatTokens_replay ['中', 'a', ' '] .default [] horder
      (List.forall_mem_singleton.mpr hplain) (List.forall_mem_singleton.mpr hshown)
  have hrun : formatTokens ['中', 'a', ' ']
      [.inline ['中', 'a'] [.text ['中', 'a']] (some 0)] .default [] =
        .ok ⟨['中', ' ', 'a'], [⟨.space, [' '], [], ⟨4, 5⟩⟩, ⟨.space, [], [' '], ⟨3, 3⟩⟩], []⟩ :=
    rfl
  rw [hrun] at hreport
  cases hreport
  exact ⟨_, hrun, rfl, hreplay⟩

end CjkProse
