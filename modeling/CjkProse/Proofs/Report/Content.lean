import CjkProse.Proofs.Report.Replay

/-!
# Content is kept

Formatting a text changes spaces, and marks to other forms of the same marks.  Everything else comes
out as it went in, in the same order.

## Main results

* `exists_of_blank` — what comes of a blank text is blank.
* `formatTokens_content` — **formatting keeps the content of a text.**
-/

namespace CjkProse

open Markdown (Token)

/-- What comes of a blank text is blank: the changes of the prose leave no more than there was, and
then all of it is removed, or nothing. -/
theorem exists_of_blank {text : Text} {tokens : List Token} {bs : List PlacedBlock}
    (h : Prose text tokens bs) (hblank : text.IsBlank) (config : Config) (ignored : List Span)
    (edges : Option Span) :
    ∃ out : Text, out.IsBlank ∧
      (admitted ignored (changes text config bs edges)).foldl
        (fun bytes d => splice bytes d.span (Utf8.encode d.modified)) (Utf8.encode text) =
          Utf8.encode out ∧
      ∀ d ∈ admitted ignored (changes text config bs edges), d.kind ≠ .string := by
  have hmid := (h.editsWithin config).admitted ignored
  obtain ⟨out, hout, hfold⟩ := exists_rewrites_of_editsWithin hmid
  -- the changes of the prose keep the content, which is empty
  have houtBlank : out.IsBlank := by
    have hcontent := hout.eq_of_append Text.content_append fun d hd =>
      (hmid.sound d (List.mem_reverse.mp hd)).content
    rw [Text.content_eq_nil.mpr hblank] at hcontent
    exact Text.content_eq_nil.mp hcontent
  have hlen := hout.byteLength_le fun d hd =>
    modified_eq_nil_of_blank_text h.fits hblank config d
      (List.mem_filter.mp (List.mem_reverse.mp hd)).1
  have hkind : ∀ d ∈ admitted ignored (paragraphEdits config bs), d.kind ≠ .string :=
    fun d hd => (hmid.sound d hd).kind
  obtain ⟨hend, hstart⟩ := trimEdits_of_blank hblank config edges
  have hchanges : admitted ignored (changes text config bs edges) =
      admitted ignored (paragraphEdits config bs) ++
        admitted ignored (trimEdits text config edges).2 := by
    rw [changes, hend, List.nil_append, admitted, List.filter_append]
    rfl
  rw [hchanges]
  have hlast : admitted ignored (trimEdits text config edges).2 = [] ∨
      admitted ignored (trimEdits text config edges).2 =
        [⟨.space, text, Space.empty, ⟨0, Text.byteLength text⟩⟩] := by
    rcases hstart with hstart | hstart
    · exact .inl (by rw [hstart]; rfl)
    · rw [hstart, trimEdit]
      split
      · exact .inl rfl
      · rw [admitted, List.filter_cons, List.filter_nil]
        split
        · exact .inr rfl
        · exact .inl rfl
  rcases hlast with hlast | hlast
  · rw [hlast, List.append_nil]
    exact ⟨out, houtBlank, hfold, hkind⟩
  · rw [hlast, List.foldl_append, hfold]
    -- the last change covers as much as there was, and what is left of it is no more
    refine ⟨[], by simp [Text.IsBlank], ?_, ?_⟩
    · exact splice_all (by rw [Utf8.length_encode]; exact hlen)
    · exact List.forall_mem_append.mpr ⟨hkind, List.forall_mem_singleton.mpr (by simp)⟩

/-- **Formatting keeps the content of a text.**  Spaces aside, and with one representative for each
class of marks, the text of the report is that of the source; no run of letters is changed. -/
theorem formatTokens_content (text : Text) {tokens : List Token} (config : Config)
    (ignored : List Span) (order : Markdown.InOrder tokens) (plain : ∀ t ∈ tokens, t.IsPlain) :
    ∃ report, formatTokens text tokens config ignored = .ok report ∧
      Text.content report.text = Text.content text ∧
      ∀ d ∈ report.diagnostics, d.kind ≠ .string := by
  obtain ⟨bs, hprose⟩ := exists_prose text order plain
  by_cases hblank : text.IsBlank
  · obtain ⟨out, hout, hfold, hkind⟩ := exists_of_blank hprose hblank config ignored
      (blockEdges (markupEvents text tokens))
    refine ⟨_, formatTokens_eq_ok hprose config ignored hfold, ?_, hkind⟩
    rw [Text.content_eq_nil.mpr hblank, Text.content_eq_nil.mpr hout]
  · have hadmitted := (editsWithin_changes hprose hblank config).admitted ignored
    obtain ⟨out, hout, hfold⟩ := exists_rewrites_of_editsWithin hadmitted
    refine ⟨_, formatTokens_eq_ok hprose config ignored hfold, ?_,
      fun d hd => (hadmitted.sound d hd).kind⟩
    exact hout.eq_of_append Text.content_append fun d hd =>
      (hadmitted.sound d (List.mem_reverse.mp hd)).content

/-- The conclusion of `formatTokens_content` at a text in which a comma becomes wide and the space
after it goes. -/
theorem formatTokens_content_comma :
    ∃ report,
      formatTokens ['中', ',', ' ', 'a'] [.inline ['中', ',', ' ', 'a']
        [.text ['中', ',', ' ', 'a']] (some 0)] .default [] = .ok report ∧
      report.text = ['中', '，', 'a'] ∧ Text.content report.text = ['中', ',', 'a'] := by
  have horder : Markdown.InOrder
      [.inline ['中', ',', ' ', 'a'] [.text ['中', ',', ' ', 'a']] (some 0)] :=
    List.pairwise_singleton _ _
  have hplain : Token.IsPlain
      (.inline ['中', ',', ' ', 'a'] [.text ['中', ',', ' ', 'a']] (some 0)) := by
    simp [Token.IsPlain]
  obtain ⟨report, hreport, hcontent, -⟩ :=
    formatTokens_content ['中', ',', ' ', 'a'] .default [] horder
      (List.forall_mem_singleton.mpr hplain)
  have hrun : formatTokens ['中', ',', ' ', 'a'] [.inline ['中', ',', ' ', 'a']
      [.text ['中', ',', ' ', 'a']] (some 0)] .default [] =
        .ok ⟨['中', '，', 'a'],
          [⟨.space, [' '], [], ⟨4, 5⟩⟩, ⟨.char, [','], ['，'], ⟨3, 4⟩⟩], []⟩ := rfl
  have hsource : Text.content ['中', ',', ' ', 'a'] = ['中', ',', 'a'] := rfl
  rw [hrun] at hreport
  cases hreport
  exact ⟨_, hrun, rfl, hcontent.trans hsource⟩

end CjkProse
