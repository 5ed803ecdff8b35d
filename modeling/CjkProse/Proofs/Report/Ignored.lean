import CjkProse.Proofs.Report.Frame

/-!
# Spans that are left alone

Formatting a text with some spans left alone makes the changes that it makes without them, apart from
those that overlap one of the spans.  The changes that are made keep apart from each of these spans,
so what stands there comes out as it went in.

## Main results

* `Span.apart_of_not_overlaps` — a change that does not overlap a span keeps apart from it.
* `formatTokens_ignored` — **spans that are left alone are kept, and change nothing else.**
-/

namespace CjkProse

open Markdown (Token)

/-- A change that does not overlap a span keeps apart from it. -/
theorem Span.apart_of_not_overlaps {s t : Span} (h : t.overlaps s = false) : s.Apart t := by
  rw [Span.overlaps] at h
  rw [Span.Apart]
  split at h
  · -- a change that only puts something in overlaps the spans that hold its place
    simp only [Bool.and_eq_false_iff, decide_eq_false_iff_not] at h
    omega
  · simp only [Bool.and_eq_false_iff, decide_eq_false_iff_not] at h
    omega

/-- The changes that are not kept out keep apart from the ignored spans. -/
theorem apart_of_mem_admitted {ignored : List Span} {edits : List Diagnostic} {d : Diagnostic}
    (hd : d ∈ admitted ignored edits) {s : Span} (hs : s ∈ ignored) :
    s.Apart d.span := by
  have hnot : isIgnored ignored d.span = false := by simpa using (List.mem_filter.mp hd).2
  rw [isIgnored, List.any_eq_false] at hnot
  exact Span.apart_of_not_overlaps (by simpa using hnot s hs)

@[simp] theorem admitted_nil (edits : List Diagnostic) : admitted [] edits = edits :=
  List.filter_eq_self.mpr fun _ _ => rfl

/-- **Spans that are left alone are kept, and change nothing else.**  The changes are those that are
made when nothing is left alone, in the same order, without those that overlap one of the spans.
What stands at one of them stands in the result too, moved by what the changes before it make the
text longer. -/
theorem formatTokens_ignored (text : Text) {tokens : List Token} (config : Config)
    (ignored : List Span) (order : Markdown.InOrder tokens) (plain : ∀ t ∈ tokens, t.IsPlain)
    (shown : ∀ t ∈ tokens, t.IsShown) :
    ∃ report free, formatTokens text tokens config ignored = .ok report ∧
      formatTokens text tokens config [] = .ok free ∧
      report.diagnostics = (free.diagnostics.filter fun d => !ignored.any d.span.overlaps) ∧
      report.parseErrors = free.parseErrors ∧
      ∀ s ∈ ignored, ∀ u, Slice text s u → Slice report.text (s.moved report.diagnostics) u := by
  obtain ⟨bs, hprose⟩ := exists_prose text order plain
  have hwithin := editsWithin_changes_of_shown hprose shown config
  obtain ⟨out, hout, hfold⟩ := exists_rewrites_of_editsWithin (hwithin.admitted ignored)
  obtain ⟨out', -, hfold'⟩ := exists_rewrites_of_editsWithin (hwithin.admitted [])
  refine ⟨_, _, formatTokens_eq_ok hprose config ignored hfold,
    formatTokens_eq_ok hprose config [] hfold', ?_, rfl, fun s hs u hu => ?_⟩
  · rw [admitted_nil]
    rfl
  · have hslice := hout.slice hu fun d hd =>
      apart_of_mem_admitted (List.mem_reverse.mp hd) hs
    rwa [Span.moved_reverse] at hslice

/-- The conclusion of `formatTokens_ignored` at a text with two gaps, the second of which comes right
before a span that is left alone. -/
theorem formatTokens_ignored_gap :
    ∃ report free,
      formatTokens ['a', '中', 'a', '中'] [.inline ['a', '中', 'a', '中'] [.text ['a', '中', 'a', '中']]
        (some 0)] .default [⟨4, 5⟩] = .ok report ∧
      formatTokens ['a', '中', 'a', '中'] [.inline ['a', '中', 'a', '中'] [.text ['a', '中', 'a', '中']]
        (some 0)] .default [] = .ok free ∧
      report.text = ['a', ' ', '中', 'a', ' ', '中'] ∧ free.text = ['a', ' ', '中', ' ', 'a', ' ', '中'] ∧
      Slice report.text ⟨5, 6⟩ ['a'] := by
  let tokens : List Token :=
    [.inline ['a', '中', 'a', '中'] [.text ['a', '中', 'a', '中']] (some 0)]
  have horder : Markdown.InOrder tokens := List.pairwise_singleton _ _
  have hplain : ∀ t ∈ tokens, t.IsPlain :=
    List.forall_mem_singleton.mpr (by simp [Token.IsPlain])
  have hshown : ∀ t ∈ tokens, t.IsShown := by
    refine List.forall_mem_singleton.mpr fun pieces h => ?_
    have hpieces : placeInline ['a', '中', 'a', '中'] [.text ['a', '中', 'a', '中']] =
        .ok [⟨⟨.text, "", ['a', '中', 'a', '中']⟩, 4⟩] := rfl
    rw [hpieces] at h
    cases h
    exact ⟨fun h => absurd rfl h, trivial⟩
  obtain ⟨report, free, hreport, hfree, -, -, hkept⟩ :=
    formatTokens_ignored ['a', '中', 'a', '中'] .default [⟨4, 5⟩] horder hplain hshown
  have hrun : formatTokens ['a', '中', 'a', '中'] tokens .default [⟨4, 5⟩] =
      .ok ⟨['a', ' ', '中', 'a', ' ', '中'], [⟨.space, [], [' '], ⟨5, 5⟩⟩, ⟨.space, [], [' '], ⟨1, 1⟩⟩],
        []⟩ := Except.eq_ok_of_toOption (by decide +kernel)
  have hrun' : formatTokens ['a', '中', 'a', '中'] tokens .default [] =
      .ok ⟨['a', ' ', '中', ' ', 'a', ' ', '中'], [⟨.space, [], [' '], ⟨5, 5⟩⟩,
        ⟨.space, [], [' '], ⟨4, 4⟩⟩, ⟨.space, [], [' '], ⟨1, 1⟩⟩], []⟩ :=
    Except.eq_ok_of_toOption (by decide +kernel)
  rw [hrun] at hreport
  rw [hrun'] at hfree
  cases hreport
  cases hfree
  exact ⟨_, _, hrun, hrun', rfl, rfl,
    hkept ⟨4, 5⟩ List.mem_cons_self ['a'] ⟨['a', '中'], ['中'], rfl, rfl⟩⟩

end CjkProse
