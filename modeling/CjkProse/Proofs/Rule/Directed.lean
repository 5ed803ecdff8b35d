import CjkProse.Proofs.Reading.Legible
import CjkProse.Proofs.Rule.Pass

/-!
# The marks of quotations

Quotation marks are told by their class, so no other mark becomes one when it is revised.  Under
settings that bring straight marks of quotations to full width, and no marks to straight ones, the marks
of a quotation come to tell which way they point, and keep doing so in whatever style is asked for.

## Main definitions

* `Config.DirectsQuotes` — the settings under which straight marks of quotations become directed.

## Main results

* `isPlain_iff_canonical` — quotation marks are told by their class.
* `Config.DirectsQuotes.isDirected_resizeQuote` — **the marks of a quotation become directed.**
* `Config.isDirected_restyleQuote` — both marks of a quotation are brought to one style.
-/

namespace CjkProse

/-- Settings under which the straight marks of a quotation come to point to its inside: the directed
ones are wanted in full width, and the straight ones are not wanted in half width. -/
structure Config.DirectsQuotes (config : Config) : Prop where
  /-- The directed marks are wanted. -/
  full : ∀ c ∈ ['“', '”', '‘', '’'], c ∈ config.fullwidthPunctuation
  /-- The straight marks are not. -/
  half : ∀ c ∈ ['"', '\''], c ∉ config.halfwidthPunctuation

/-- The settings by default are such. -/
theorem Config.directsQuotes_default : Config.default.DirectsQuotes := by
  have hfull : ['“', '”', '‘', '’'].all Config.default.fullwidthPunctuation.contains = true := by
    decide
  have hhalf : ['"', '\''].any Config.default.halfwidthPunctuation.contains = false := by decide
  refine ⟨fun c hc => ?_, fun c hc hmem => ?_⟩
  · exact List.contains_iff_mem.mp (List.all_eq_true.mp hfull c hc)
  · exact List.any_eq_false.mp hhalf c hc (List.contains_iff_mem.mpr hmem)

/-! ### Classes of marks -/

theorem canonical_mem_westernQuote {c : Char} (h : canonical c ∈ Punct.westernQuote) :
    c ∈ Punct.chineseLeftQuote ++ (Punct.chineseRightQuote ++ Punct.westernQuote) := by
  unfold canonical at h
  split at h
  · decide
  · decide
  · decide
  · decide
  · unfold halfwidth at h
    split at h
    all_goals first | decide | (revert h; decide) | skip
    exact List.mem_append_right _ (List.mem_append_right _ h)

/-- Quotation marks are told by their class. -/
theorem isPlain_iff_canonical {c : Char} :
    isPlain c = true ↔ canonical c ∉ Punct.westernQuote := by
  have hall : (Punct.chineseLeftQuote ++ (Punct.chineseRightQuote ++ Punct.westernQuote)).all
      (fun d => !isPlain d && Punct.westernQuote.contains (canonical d)) = true := by decide
  by_cases hc : c ∈ Punct.chineseLeftQuote ++ (Punct.chineseRightQuote ++ Punct.westernQuote)
  · have := List.all_eq_true.mp hall c hc
    simp only [Bool.and_eq_true, Bool.not_eq_true', List.contains_iff_mem] at this
    simp [this]
  · exact ⟨fun _ h => hc (canonical_mem_westernQuote h), fun _ => isPlain_of_not_mem hc⟩

/-! ### Width and style -/

/-- Only the revision of a mark differs. -/
theorem Revised.original_mark {v v' : Revisable Char} (h : Revised [.mark v] [.mark v']) :
    v'.original = v.original := by
  have hbare : Leaf.mark v'.revert = .mark v.revert := List.head_eq_of_cons_eq h.bare
  have hrevert : v'.revert = v.revert := Leaf.mark.inj hbare
  rw [← Revisable.original_revert v', hrevert, Revisable.original_revert]

namespace Config

variable {config : Config} {v : Revisable Char}

/-- A mark stays in its class when it is brought to its width. -/
theorem canonical_resizeMark : canonical (config.resizeMark v).value = canonical v.value := by
  have hhalf : canonical (if config.halfwidthPunctuation.contains (halfwidth v.value) then
      v.revise (halfwidth v.value) else v).value = canonical v.value := by
    split
    · rw [Revisable.value_revise, canonical_halfwidth]
    · rfl
  rw [resizeMark]
  generalize (if config.halfwidthPunctuation.contains (halfwidth v.value) then
    v.revise (halfwidth v.value) else v) = w at hhalf ⊢
  split
  · rw [Revisable.value_revise, canonical_fullwidth, hhalf]
  · exact hhalf

/-- A mark with one form keeps it. -/
theorem value_resizeMark (half : halfwidth v.value = v.value ∨
      halfwidth v.value ∉ config.halfwidthPunctuation)
    (full : fullwidth v.value = v.value) : (config.resizeMark v).value = v.value := by
  have hhalf : (if config.halfwidthPunctuation.contains (halfwidth v.value) then
      v.revise (halfwidth v.value) else v).value = v.value := by
    split
    · next h =>
      rw [Revisable.value_revise]
      exact half.resolve_right fun hnot => hnot (List.contains_iff_mem.mp h)
    · rfl
  rw [resizeMark, hhalf, full]
  split
  · exact Revisable.value_revise _ _
  · exact hhalf

namespace DirectsQuotes

variable (h : config.DirectsQuotes) {o c : Revisable Char}

include h

/-- Directed marks keep their form. -/
theorem value_resizeQuote {double single : Char}
    (hv : v.value ∈ Punct.chineseLeftQuote ++ Punct.chineseRightQuote) :
    (config.resizeQuote double single v).value = v.value := by
  have hdirected : (Punct.chineseLeftQuote ++ Punct.chineseRightQuote).all (fun c =>
      c != '"' && c != '\'' && fullwidth c == c &&
        (halfwidth c == c || ['"', '\''].contains (halfwidth c))) = true := by decide
  have hmem := List.all_eq_true.mp hdirected _ hv
  simp only [Bool.and_eq_true, bne_iff_ne, ne_eq, beq_iff_eq, Bool.or_eq_true,
    List.contains_iff_mem] at hmem
  obtain ⟨⟨⟨hdouble, hsingle⟩, hfull⟩, hhalf⟩ := hmem
  rw [resizeQuote]
  simp only [hdouble, hsingle, beq_iff_eq, Bool.and_eq_true, false_and, if_false]
  exact value_resizeMark (hhalf.imp_right fun hstraight => h.half _ hstraight) hfull

/-- The marks of a quotation become directed. -/
theorem isDirected_resizeQuote (hpair : Punct.IsPair o.value c.value) :
    Punct.IsDirected (config.resizeQuote '“' '‘' o).value (config.resizeQuote '”' '’' c).value := by
  rcases hpair with hdirected | ⟨heq, hstraight⟩
  · have hmem := closing?_eq_some hdirected
    rw [h.value_resizeQuote (List.mem_append_left _ (List.mem_map.mpr ⟨_, hmem, rfl⟩)),
      h.value_resizeQuote (List.mem_append_right _ (List.mem_map.mpr ⟨_, hmem, rfl⟩))]
    exact hdirected
  · rw [resizeQuote, resizeQuote, heq]
    simp only [Punct.westernQuote, List.mem_cons, List.not_mem_nil, or_false] at hstraight
    have hfull := h.full
    simp only [List.forall_mem_cons] at hfull
    obtain ⟨hdouble, hdouble', hsingle, hsingle', -⟩ := hfull
    rcases hstraight with hc | hc
    · simp [hc, hdouble, hdouble']
      rfl
    · simp [hc, hsingle, hsingle']
      rfl

end DirectsQuotes

/-- The value of a mark that is brought to the style asked for. -/
theorem value_restyleQuote : (config.restyleQuote v).value =
    match config.unifiedPunctuation with
    | none => v.value
    | some .simplified => (curly? v.value).getD v.value
    | some .traditional => (corner? v.value).getD v.value := by
  rw [restyleQuote]
  cases config.unifiedPunctuation with
  | none => rfl
  | some style =>
    cases style with
    | simplified => dsimp only; cases curly? v.value <;> simp
    | traditional => dsimp only; cases corner? v.value <;> simp

/-- Both marks of a quotation are brought to one style. -/
theorem isDirected_restyleQuote {o c : Revisable Char} (h : Punct.IsDirected o.value c.value) :
    Punct.IsDirected (config.restyleQuote o).value (config.restyleQuote c).value := by
  have hstyles : Punct.chineseQuotes.all (fun q =>
      Punct.closing? ((curly? q.1).getD q.1) == some ((curly? q.2).getD q.2) &&
      Punct.closing? ((corner? q.1).getD q.1) == some ((corner? q.2).getD q.2)) = true := by decide
  have hmem := List.all_eq_true.mp hstyles _ (closing?_eq_some h)
  simp only [Bool.and_eq_true, beq_iff_eq] at hmem
  rw [value_restyleQuote, value_restyleQuote]
  cases config.unifiedPunctuation with
  | none => exact h
  | some style =>
    cases style with
    | simplified => exact hmem.1
    | traditional => exact hmem.2

/-- Straight marks have no style. -/
theorem isPair_restyleQuote {o c : Revisable Char} (h : Punct.IsPair o.value c.value) :
    Punct.IsPair (config.restyleQuote o).value (config.restyleQuote c).value := by
  refine h.imp isDirected_restyleQuote fun ⟨heq, hstraight⟩ => ?_
  have hstyles : Punct.westernQuote.all (fun c =>
      (curly? c).getD c == c && (corner? c).getD c == c) = true := by decide
  have hmem := List.all_eq_true.mp hstyles _ hstraight
  simp only [Bool.and_eq_true, beq_iff_eq] at hmem
  have hkeep : (config.restyleQuote c).value = c.value := by
    rw [value_restyleQuote]
    cases config.unifiedPunctuation with
    | none => rfl
    | some style =>
      cases style with
      | simplified => exact hmem.1
      | traditional => exact hmem.2
  have hkeep' : (config.restyleQuote o).value = o.value := by
    rw [value_restyleQuote, heq, ← value_restyleQuote, hkeep]
  exact ⟨by rw [hkeep, hkeep', heq], by rw [hkeep]; exact hstraight⟩

end Config

end CjkProse
