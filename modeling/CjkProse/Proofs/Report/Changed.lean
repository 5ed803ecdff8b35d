import CjkProse.Proofs.Report.Separated

/-!
# A text that is changed differs

The changes of a document do not cancel out.  The first of them replaces a visible mark by another
one, or some spaces by others, and in the latter case the spaces that follow stay as many as they
were, since something visible comes before the next change of spaces.

## Main results

* `Rewrites.takeWhile_isSpace` — separated changes keep the spaces in front of them.
* `Rewrites.ne` — **separated changes do not cancel out.**
* `formatTokens_changed`, `formatParsed_changed` — **a text is changed if and only if it differs.**
-/

namespace CjkProse

open Markdown (Token)

/-- What a text starts with stays in front of the rest when something visible is in it. -/
theorem takeWhile_append_of_visible {s t : Text} {c : Char} (hc : c ∈ s) (visible : isSpace c = false) :
    (s ++ t).takeWhile isSpace = s.takeWhile isSpace := by
  rw [List.takeWhile_append, if_neg]
  intro hlen
  have hall := Text.length_takeWhile_eq_iff.mp hlen c hc
  rw [visible] at hall
  cases hall

theorem takeWhile_append_of_isBlank {s t : Text} (h : s.IsBlank) :
    (s ++ t).takeWhile isSpace = s ++ t.takeWhile isSpace :=
  List.takeWhile_append_of_pos h

namespace Rewrites

variable {text : Text} {pos : Int} {t out : Text} {ds : List Diagnostic}

/-- Separated changes keep the spaces in front of them. -/
theorem takeWhile_isSpace {before : Text} (h : Rewrites pos t ds out) (htext : text = before ++ t)
    (hpos : pos = Text.byteLength before) (proper : ∀ d ∈ ds, d.IsProper)
    (apart : ∀ d ∈ ds, d.kind = .space → VisibleBetween text pos d.span.start) :
    t.takeWhile isSpace = out.takeWhile isSpace := by
  cases h with
  | nil => rfl
  | @cons _ kept rest out d ds start stop tail =>
    rw [List.append_assoc, List.append_assoc]
    cases proper d List.mem_cons_self with
    | @mark c m original modified hc hm _ _ =>
      rw [original, modified]
      by_cases hkept : Text.IsBlank kept
      · rw [takeWhile_append_of_isBlank hkept, takeWhile_append_of_isBlank hkept]
        simp [hc, hm]
      · obtain ⟨k, hk, visible⟩ : ∃ k ∈ kept, isSpace k = false := by
          simpa [Text.IsBlank] using hkept
        rw [takeWhile_append_of_visible hk visible, takeWhile_append_of_visible hk visible]
    | gap _ _ _ kind =>
      -- something visible is kept before the change
      obtain ⟨s, u, k, hu, hstart, hstop, hk, visible⟩ := apart d List.mem_cons_self kind
      have hslice : Slice text ⟨pos, d.span.start⟩ kept :=
        ⟨before, d.original ++ rest, by simp [htext], by rw [hpos, start, hpos]⟩
      have hmem := hslice.mem_of_within hu hstart hstop hk
      rw [takeWhile_append_of_visible hmem visible, takeWhile_append_of_visible hmem visible]

/-- **Separated changes do not cancel out.** -/
theorem ne {before : Text} (h : Rewrites pos t ds out) (htext : text = before ++ t)
    (hpos : pos = Text.byteLength before) (hne : ds ≠ []) (proper : ∀ d ∈ ds, d.IsProper)
    (apart : ds.Pairwise fun d e => d.kind = .space → e.kind = .space →
      VisibleBetween text d.span.stop e.span.start) : out ≠ t := by
  cases h with
  | nil => exact absurd rfl hne
  | @cons _ kept rest out d ds start stop tail =>
    intro heq
    rw [List.append_assoc, List.append_assoc, List.append_cancel_left_eq] at heq
    obtain ⟨hd, hds⟩ := List.pairwise_cons.mp apart
    cases proper d List.mem_cons_self with
    | mark original modified _ _ ne _ =>
      rw [original, modified] at heq
      exact ne (List.cons.inj heq).1
    | gap original modified ne kind =>
      have hrest : rest.takeWhile isSpace = out.takeWhile isSpace := by
        have htext' : text = (before ++ kept ++ d.original) ++ rest := by simp [htext]
        refine tail.takeWhile_isSpace htext' ?_ (fun e he => proper e (List.mem_cons_of_mem _ he))
          fun e he he' => hd e he kind he'
        rw [stop, hpos]
        simp only [Text.byteLength_append, Int.natCast_add]
      -- both texts start with the same spaces, of which the last ones are the same
      have hspaces := congrArg (List.takeWhile isSpace) heq
      rw [takeWhile_append_of_isBlank modified, takeWhile_append_of_isBlank original, hrest] at hspaces
      exact ne (List.append_cancel_right hspaces)

end Rewrites

/-- The report on a text tells of changes if and only if its text is another one. -/
theorem formatTokens_changed (text : Text) {tokens : List Token} (config : Config)
    (ignored : List Span) (order : Markdown.InOrder tokens) (plain : ∀ t ∈ tokens, t.IsPlain)
    (shown : ∀ t ∈ tokens, t.IsShown) :
    ∃ report, formatTokens text tokens config ignored = .ok report ∧
      (report.changed = true ↔ report.text ≠ text) := by
  obtain ⟨bs, hprose⟩ := exists_prose text order plain
  have hwithin := (editsWithin_changes_of_shown hprose shown config).admitted ignored
  obtain ⟨proper, apart⟩ := separated_changes hprose shown config
  obtain ⟨out, hout, hfold⟩ := exists_rewrites_of_editsWithin hwithin
  refine ⟨_, formatTokens_eq_ok hprose config ignored hfold, ?_⟩
  generalize changes text config bs (blockEdges (markupEvents text tokens)) = ds at hout proper apart
  rw [Report.changed, Bool.not_eq_true', List.isEmpty_eq_false_iff]
  constructor
  · intro hne
    refine hout.ne (List.nil_append text).symm rfl (by simpa using hne)
      (fun d hd => proper d (List.mem_filter.mp (List.mem_reverse.mp hd)).1)
      (List.pairwise_reverse.mpr (apart.filter _))
  · intro hne hnone
    dsimp only at hne hnone
    rw [hnone] at hout
    cases hout
    exact hne rfl

/-- **A text is changed if and only if it differs.**  Whatever the directives of a text and the
settings ask to be left alone, the report tells of changes exactly when its text is another one; there
is no report only when a pattern of theirs has a fault that is not passed over. -/
theorem formatParsed_changed (text : Text) {tokens : List Token} (config : Config)
    (order : Markdown.InOrder tokens) (plain : ∀ t ∈ tokens, t.IsPlain)
    (shown : ∀ t ∈ tokens, t.IsShown) :
    (∃ report, formatParsed text tokens config = .ok report ∧
      (report.changed = true ↔ report.text ≠ text)) ∨
    ∃ fault,
      ignoredSpans text ((Directives.ofTokens tokens).patterns ++ config.ignores) = .error fault ∧
        formatParsed text tokens config = .error (.pattern fault) := by
  rw [formatParsed]
  split
  · exact .inl ⟨_, rfl, by simp [Report.changed]⟩
  · split
    · next fault hfault => exact .inr ⟨fault, hfault, rfl⟩
    · next ignored _ =>
      obtain ⟨report, hreport, hchanged⟩ :=
        formatTokens_changed text config ignored order plain shown
      rw [hreport]
      exact .inl ⟨report, rfl, hchanged⟩

/-- The conclusion of `formatParsed_changed` at a text in which one space goes and another comes. -/
theorem formatParsed_changed_gaps :
    ∃ report,
      formatParsed ['中', ' ', '文', 'a'] [.inline ['中', ' ', '文', 'a']
        [.text ['中', ' ', '文', 'a']] (some 0)] .default = .ok report ∧
      report.diagnostics = [⟨.space, [], [' '], ⟨7, 7⟩⟩, ⟨.space, [' '], [], ⟨3, 4⟩⟩] ∧
      report.text ≠ ['中', ' ', '文', 'a'] := by
  let source : Text := ['中', ' ', '文', 'a']
  let tokens : List Token := [.inline source [.text source] (some 0)]
  have horder : Markdown.InOrder tokens := List.pairwise_singleton _ _
  have hplain : ∀ t ∈ tokens, t.IsPlain :=
    List.forall_mem_singleton.mpr (by simp [Token.IsPlain, source])
  have hshown : ∀ t ∈ tokens, t.IsShown := by
    refine List.forall_mem_singleton.mpr fun pieces h => ?_
    have hpieces : placeInline source [.text source] = .ok [⟨⟨.text, "", source⟩, 4⟩] := rfl
    rw [hpieces] at h
    cases h
    exact ⟨fun h => absurd rfl h, trivial⟩
  have hrun : formatParsed source tokens .default =
      .ok ⟨['中', '文', ' ', 'a'], [⟨.space, [], [' '], ⟨7, 7⟩⟩, ⟨.space, [' '], [], ⟨3, 4⟩⟩], []⟩ :=
    Except.eq_ok_of_toOption (by decide +kernel)
  rcases formatParsed_changed source .default horder hplain hshown with
    ⟨report, hreport, hchanged⟩ | ⟨fault, -, hfault⟩
  · rw [hrun] at hreport
    cases hreport
    exact ⟨_, hrun, rfl, hchanged.mp rfl⟩
  · rw [hrun] at hfault
    cases hfault

end CjkProse
