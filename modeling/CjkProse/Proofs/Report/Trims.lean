import CjkProse.Proofs.Report.Edits

/-!
# The changes at the ends of a text

Unless a text is blank, the spaces at its ends have something between them, and they are removed
only where the prose touches them.  So their changes stand before and after those of the prose.  A
blank text is emptied by one change that covers all of it.

## Main results

* `edgeSpaces_spec` — the spaces at the ends of a text that is not blank.
* `trimEdits_spec` — their changes keep out of the prose.
* `trimEdits_of_blank` — the change of a blank text.
-/

namespace CjkProse

/-- A text that is made up of spaces. -/
def Text.IsBlank (t : Text) : Prop := ∀ c ∈ t, isSpace c = true

theorem Text.takeWhile_isBlank (t : Text) : Text.IsBlank (t.takeWhile isSpace) :=
  List.all_eq_true.mp List.all_takeWhile

theorem Text.isBlank_reverse {t : Text} : Text.IsBlank t.reverse ↔ t.IsBlank := by
  simp [Text.IsBlank]

/-- A text is blank when there is nothing after its leading spaces. -/
theorem Text.isBlank_iff_dropWhile {t : Text} : t.IsBlank ↔ t.dropWhile isSpace = [] := by
  have hsplit : t.takeWhile isSpace ++ t.dropWhile isSpace = t := List.takeWhile_append_dropWhile
  constructor
  · intro h
    have htake : t.takeWhile isSpace = t := by
      simpa using @List.takeWhile_append_of_pos _ isSpace t [] h
    rw [htake] at hsplit
    simpa using hsplit
  · intro h
    rw [h, List.append_nil] at hsplit
    rw [← hsplit]
    exact takeWhile_isBlank t

theorem Text.length_takeWhile_eq_iff {t : Text} :
    (t.takeWhile isSpace).length = t.length ↔ t.IsBlank := by
  have hlen := congrArg List.length (@List.takeWhile_append_dropWhile _ isSpace t)
  rw [List.length_append] at hlen
  rw [isBlank_iff_dropWhile, ← List.length_eq_zero_iff]
  omega

/-- All spaces of a blank text stand at its start. -/
theorem edgeSpaces_of_blank {text : Text} (h : text.IsBlank) : edgeSpaces text = (text, []) := by
  rw [edgeSpaces]
  exact if_pos (Text.length_takeWhile_eq_iff.mpr h)

/-- A text that is not blank has something between the spaces at its ends. -/
theorem edgeSpaces_spec {text : Text} (h : ¬ text.IsBlank) :
    ∃ core, core ≠ [] ∧ text = (edgeSpaces text).1 ++ core ++ (edgeSpaces text).2 ∧
      Text.IsBlank (edgeSpaces text).1 ∧ Text.IsBlank (edgeSpaces text).2 := by
  have hsplit : text.takeWhile isSpace ++ text.dropWhile isSpace = text :=
    List.takeWhile_append_dropWhile
  have hlead := Text.takeWhile_isBlank text
  have hedges : edgeSpaces text =
      (text.takeWhile isSpace, (text.reverse.takeWhile isSpace).reverse) := by
    rw [edgeSpaces]
    exact if_neg (mt Text.length_takeWhile_eq_iff.mp h)
  generalize text.takeWhile isSpace = lead at hsplit hedges hlead
  generalize text.dropWhile isSpace = rest at hsplit
  -- the rest is not blank, so the trailing spaces do not reach back to the leading ones
  have hrest : ¬ Text.IsBlank rest.reverse := by
    rw [Text.isBlank_reverse]
    intro hblank
    rw [← hsplit] at h
    exact h (List.forall_mem_append.mpr ⟨hlead, hblank⟩)
  have htrail : text.reverse.takeWhile isSpace = rest.reverse.takeWhile isSpace := by
    rw [← hsplit, List.reverse_append, List.takeWhile_append]
    exact if_neg (mt Text.length_takeWhile_eq_iff.mp hrest)
  rw [hedges, htrail]
  refine ⟨(rest.reverse.dropWhile isSpace).reverse, ?_, ?_, hlead, ?_⟩
  · simpa using mt Text.isBlank_iff_dropWhile.mpr hrest
  · rw [List.append_assoc, ← List.reverse_append, List.takeWhile_append_dropWhile,
      List.reverse_reverse, hsplit]
  · exact Text.isBlank_reverse.mpr (Text.takeWhile_isBlank _)

/-- With or without trimming, the spaces that are considered leave something between them. -/
theorem exists_core_of_not_blank {text : Text} (h : ¬ text.IsBlank) (trim : Bool) :
    ∃ core, core ≠ [] ∧
      text = (if trim then edgeSpaces text else ([], [])).1 ++ core ++
        (if trim then edgeSpaces text else ([], [])).2 ∧
      Text.IsBlank (if trim then edgeSpaces text else ([], [])).1 ∧
      Text.IsBlank (if trim then edgeSpaces text else ([], [])).2 := by
  cases trim with
  | true => exact edgeSpaces_spec h
  | false =>
    refine ⟨text, ?_, by simp, by simp [Text.IsBlank], by simp [Text.IsBlank]⟩
    rintro rfl
    exact h (by simp [Text.IsBlank])

/-! ### Their changes -/

theorem editsWithin_trimEdit {text : Text} {space : Space} {span : Span} {a b : Int}
    (hblank : Text.IsBlank space)
    (h : space ≠ [] → Slice text span space ∧ a ≤ span.start ∧ span.stop ≤ b) :
    EditsWithin text a b (trimEdit space span) := by
  rw [trimEdit]
  split
  · exact .nil text a b
  · next hne =>
    obtain ⟨hslice, hwithin⟩ := h (by simpa using hne)
    have hsound : Diagnostic.IsSound ⟨.space, space, Space.empty, span⟩ := by
      refine ⟨?_, ?_, by simp⟩
      · intro heq
        have hnil : space = [] := heq.symm
        exact hne (by rw [hnil]; rfl)
      · exact (Text.content_eq_nil.mpr hblank).symm
    exact ⟨List.pairwise_singleton _ _, List.forall_mem_singleton.mpr hwithin,
      List.forall_mem_singleton.mpr hslice, List.forall_mem_singleton.mpr hsound⟩

/-- What is removed at the ends of a text that is not blank touches the prose and keeps out of
it. -/
theorem trimEdits_spec {text : Text} (h : ¬ text.IsBlank) (config : Config) (edges : Option Span) :
    (edges = none → trimEdits text config edges = ([], [])) ∧
    ∀ e, edges = some e →
      EditsWithin text e.stop (Text.byteLength text) (trimEdits text config edges).1 ∧
        EditsWithin text 0 e.start (trimEdits text config edges).2 := by
  have hspaces := exists_core_of_not_blank h config.trimSpace
  rw [trimEdits]
  generalize (if config.trimSpace then edgeSpaces text else ([], [])) = spaces at hspaces ⊢
  obtain ⟨leading, trailing⟩ := spaces
  obtain ⟨core, hcore, htext, hlead, htrail⟩ := hspaces
  dsimp only at htext hlead htrail
  have hne : leading ≠ text := by
    intro heq
    have hlen := congrArg List.length htext
    rw [heq, List.length_append, List.length_append] at hlen
    exact hcore (List.length_eq_zero_iff.mp (by omega))
  dsimp only
  rw [if_neg hne]
  constructor
  · rintro rfl
    rfl
  · rintro e rfl
    have hempty : Text.IsBlank [] := by simp [Text.IsBlank]
    have htotal : (Text.byteLength text : Int) = Text.byteLength (leading ++ core) +
        Text.byteLength trailing := by
      conv => lhs; rw [htext]
      rw [Text.byteLength_append, Int.natCast_add]
    refine ⟨?_, ?_⟩
    · -- the trailing spaces, if they start where the prose stops
      rw [touchingEdges]
      dsimp only
      split
      · next hstop =>
        refine editsWithin_trimEdit htrail fun _ => ⟨⟨leading ++ core, [], ?_, ?_⟩, ?_, ?_⟩
        · rw [List.append_nil]
          exact htext
        · rw [Span.mk.injEq]
          omega
        · exact Int.le_of_eq hstop
        · exact Int.le_refl _
      · exact editsWithin_trimEdit hempty fun hne => absurd rfl hne
    · -- the leading spaces, if they stop where the prose starts
      rw [touchingEdges]
      dsimp only
      split
      · next hstart =>
        refine editsWithin_trimEdit hlead fun _ => ⟨⟨[], core ++ trailing, ?_, ?_⟩, ?_, ?_⟩
        · rw [List.nil_append, ← List.append_assoc]
          exact htext
        · simp
        · exact Int.le_refl _
        · exact Int.le_of_eq hstart.symm
      · exact editsWithin_trimEdit hempty fun hne => absurd rfl hne

/-- A blank text is emptied by one change, or left as it is. -/
theorem trimEdits_of_blank {text : Text} (h : text.IsBlank) (config : Config)
    (edges : Option Span) :
    (trimEdits text config edges).1 = [] ∧
      ((trimEdits text config edges).2 = [] ∨
        (trimEdits text config edges).2 = trimEdit text ⟨0, Text.byteLength text⟩) := by
  cases htrim : config.trimSpace with
  | true =>
    have hspaces : (if config.trimSpace then edgeSpaces text else ([], [])) = (text, []) := by
      rw [if_pos htrim, edgeSpaces_of_blank h]
    rw [trimEdits, hspaces]
    dsimp only
    rw [if_pos rfl]
    exact ⟨rfl, .inr rfl⟩
  | false =>
    have hspaces : (if config.trimSpace then edgeSpaces text else ([], [])) = ([], []) := by
      rw [if_neg (by rw [htrim]; simp)]
    rw [trimEdits, hspaces]
    dsimp only
    split
    · exact ⟨rfl, .inl rfl⟩
    · cases edges with
      | none => exact ⟨rfl, .inl rfl⟩
      | some e =>
        rw [touchingEdges]
        dsimp only
        refine ⟨?_, .inl ?_⟩
        · split <;> rfl
        · split <;> rfl

/-! ### What stands beside them -/

/-- The leading spaces of a text that is not blank come before something visible. -/
theorem Text.exists_takeWhile {t : Text} (h : ¬ t.IsBlank) :
    ∃ c rest, t = t.takeWhile isSpace ++ c :: rest ∧ isSpace c = false := by
  have hsplit : t.takeWhile isSpace ++ t.dropWhile isSpace = t := List.takeWhile_append_dropWhile
  obtain ⟨c, rest, hdrop⟩ := List.exists_cons_of_ne_nil (mt Text.isBlank_iff_dropWhile.mpr h)
  have hhead := @List.head?_dropWhile_not _ isSpace t
  rw [hdrop] at hsplit hhead
  exact ⟨c, rest, hsplit.symm, by simpa using hhead⟩

/-- The spaces at the ends of a text that is not blank are all there are, so what stands beside them
is visible. -/
theorem edgeSpaces_maximal {text : Text} (h : ¬ text.IsBlank) :
    (∃ c rest, text = (edgeSpaces text).1 ++ c :: rest ∧ isSpace c = false) ∧
      ∃ c rest, text = rest ++ c :: (edgeSpaces text).2 ∧ isSpace c = false := by
  have hedges : edgeSpaces text =
      (text.takeWhile isSpace, (text.reverse.takeWhile isSpace).reverse) := by
    rw [edgeSpaces]
    exact if_neg (mt Text.length_takeWhile_eq_iff.mp h)
  rw [hedges]
  refine ⟨Text.exists_takeWhile h, ?_⟩
  obtain ⟨c, rest, hrev, hc⟩ := Text.exists_takeWhile (mt Text.isBlank_reverse.mp h)
  refine ⟨c, rest.reverse, ?_, hc⟩
  have htext := congrArg List.reverse hrev
  simpa using htext

/-- A removed space is not empty. -/
theorem mem_trimEdit {space : Space} {span : Span} {d : Diagnostic} :
    d ∈ trimEdit space span ↔ space ≠ [] ∧ d = ⟨.space, space, [], span⟩ := by
  cases space with
  | nil => simp [trimEdit]
  | cons c cs => simp [trimEdit, Space.empty]

/-- The changes at the ends of a text that is not blank remove all the spaces there, up to the
prose. -/
theorem exists_of_mem_trimEdits {text : Text} (h : ¬ text.IsBlank) {config : Config}
    {edges : Option Span} {d : Diagnostic} :
    (d ∈ (trimEdits text config edges).1 → ∃ e, edges = some e ∧
      e.stop = (Text.byteLength text : Int) - Text.byteLength (edgeSpaces text).2 ∧
      d = ⟨.space, (edgeSpaces text).2, [], ⟨e.stop, Text.byteLength text⟩⟩) ∧
    (d ∈ (trimEdits text config edges).2 → ∃ e, edges = some e ∧
      e.start = Text.byteLength (edgeSpaces text).1 ∧
      d = ⟨.space, (edgeSpaces text).1, [], ⟨0, e.start⟩⟩) := by
  obtain ⟨core, hcore, htext, -, -⟩ := exists_core_of_not_blank h config.trimSpace
  have hne : (if config.trimSpace then edgeSpaces text else ([], [])).1 ≠ text := by
    intro heq
    have hlen := congrArg List.length htext
    rw [heq, List.length_append, List.length_append] at hlen
    exact hcore (List.length_eq_zero_iff.mp (by omega))
  rw [trimEdits]
  dsimp only
  rw [if_neg hne]
  cases config.trimSpace with
  | false => cases edges <;> simp [touchingEdges, trimEdit]
  | true =>
    cases edges with
    | none => simp [touchingEdges, trimEdit]
    | some e =>
      simp only [touchingEdges, if_true, mem_trimEdit, Option.some.injEq, exists_eq_left']
      constructor
      · rintro ⟨hspace, rfl⟩
        split at hspace
        · next hstop => simp [hstop]
        · exact absurd rfl hspace
      · rintro ⟨hspace, rfl⟩
        split at hspace
        · next hstart => simp [hstart]
        · exact absurd rfl hspace

end CjkProse
