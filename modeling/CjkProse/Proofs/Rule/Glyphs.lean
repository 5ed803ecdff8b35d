import CjkProse.Proofs.Reading.Sentences
import CjkProse.Proofs.Rule.Revised

/-!
# Sentences character by character

What the rules make of a text in which nothing is enclosed can be told of each character from those
next to it, without any nodes: a mark takes another width unless it stands within a word or a row of
marks, and a space is set by what stands on its two sides.  This is how the pass is written down
here, and that it settles what it is given is shown here too.

## Main definitions

* `Glyph` — a character with the spaces after it.
* `Config.form` — the form that a character takes.
* `Config.pauses` — whether a mark has the spaces around it set.
* `Config.gapAfter` — the space that a character is given.
* `Config.settle` — a text with all of this done.

## Main results

* `settle_settle` — **what has been settled once stays as it is.**
-/

namespace CjkProse

/-! ### The width of a mark -/

/-- The form of a mark in the width that the settings ask for. -/
def Config.resize (config : Config) (c : Char) : Char :=
  let c := if config.halfwidthPunctuation.contains (halfwidth c) then halfwidth c else c
  if config.fullwidthPunctuation.contains (fullwidth c) then fullwidth c else c

/-- The marks that pause or stop and have two forms, the narrow one first. -/
def pausePairs : List (Char × Char) :=
  [(',', '，'), ('.', '。'), (';', '；'), (':', '：'), ('?', '？'), ('!', '！')]

/-- The two forms of a mark are told from either of them. -/
theorem forms_of_mem_pausePairs {p : Char × Char} (hp : p ∈ pausePairs) {c : Char}
    (hc : c = p.1 ∨ c = p.2) :
    halfwidth c = p.1 ∧ fullwidth c = p.2 ∧ isPause c = true ∧ isSentenceMark c = true := by
  have hall : pausePairs.all (fun p => [p.1, p.2].all fun c =>
      halfwidth c == p.1 && fullwidth c == p.2 && isPause c && isSentenceMark c) = true := by decide
  have h := List.all_eq_true.mp (List.all_eq_true.mp hall p hp) c (by simpa using hc)
  simp only [Bool.and_eq_true, beq_iff_eq] at h
  exact ⟨h.1.1.1, h.1.1.2, h.1.2, h.2⟩

section Resize

variable {config : Config} {c : Char}

/-- Of the marks of a sentence only some of those that pause or stop have two forms. -/
theorem forms_of_isSentenceMark (h : isSentenceMark c = true) :
    (halfwidth c = c ∧ fullwidth c = c) ∨ ∃ p ∈ pausePairs, c = p.1 ∨ c = p.2 := by
  cases hpair : pausePairs.any fun p => c == p.1 || c == p.2 with
  | true =>
    obtain ⟨p, hp, hc⟩ := List.any_eq_true.mp hpair
    exact .inr ⟨p, hp, by simpa using hc⟩
  | false =>
    refine .inl ⟨?_, ?_⟩
    · unfold halfwidth
      split <;> first | rfl | exact absurd h (by decide) | exact absurd hpair (by decide)
    · unfold fullwidth
      split <;> first | rfl | exact absurd h (by decide) | exact absurd hpair (by decide)

/-- Of the two forms of a mark the wide one comes first. -/
theorem resize_of_forms {narrow wide : Char} (hhalf : halfwidth c = narrow)
    (hfull : fullwidth c = wide) (hfull' : fullwidth narrow = wide) :
    config.resize c =
      if config.fullwidthPunctuation.contains wide then wide
      else if config.halfwidthPunctuation.contains narrow then narrow else c := by
  simp only [Config.resize, hhalf]
  split <;> simp [hfull, hfull']

/-- What the form of one of the paired marks is. -/
theorem resize_of_mem_pausePairs {p : Char × Char} (hp : p ∈ pausePairs) (hc : c = p.1 ∨ c = p.2) :
    config.resize c =
      if config.fullwidthPunctuation.contains p.2 then p.2
      else if config.halfwidthPunctuation.contains p.1 then p.1 else c := by
  obtain ⟨hhalf, hfull, -⟩ := forms_of_mem_pausePairs hp hc
  obtain ⟨-, hfull', -⟩ := forms_of_mem_pausePairs hp (.inl rfl)
  exact resize_of_forms hhalf hfull hfull'

/-- Taking another width, a mark of a sentence stays the same sort of mark, and it takes it once. -/
theorem resize_spec (h : isSentenceMark c = true) :
    isSentenceMark (config.resize c) = true ∧ isPause (config.resize c) = isPause c ∧
      config.resize (config.resize c) = config.resize c := by
  obtain ⟨hhalf, hfull⟩ | ⟨p, hp, hc⟩ := forms_of_isSentenceMark h
  · have hsame : config.resize c = c := by simp [Config.resize, hhalf, hfull]
    rw [hsame]
    exact ⟨h, rfl, hsame⟩
  · have hresize := @resize_of_mem_pausePairs config c p hp hc
    have hform : config.resize c = p.1 ∨ config.resize c = p.2 := by
      rw [hresize]
      split
      · exact .inr rfl
      · split
        · exact .inl rfl
        · exact hc
    obtain ⟨-, -, hpause, hmark⟩ := forms_of_mem_pausePairs hp hform
    refine ⟨hmark, by rw [hpause, (forms_of_mem_pausePairs hp hc).2.2.1], ?_⟩
    rw [resize_of_mem_pausePairs hp hform, hresize]
    split
    · rfl
    · split <;> rfl

end Resize

/-! ### Glyphs -/

/-- A character that is no space, with the spaces after it. -/
structure Glyph where
  /-- The character. -/
  char : Char
  /-- The spaces between it and the next character. -/
  gap : Space
  deriving DecidableEq, Repr, Inhabited

namespace Glyph

/-- A letter of either width. -/
def isLetter (g : Glyph) : Bool := CjkProse.isLetter g.char

/-- A half-width letter. -/
def isHalf (g : Glyph) : Bool := CharKind.of g.char == .letterHalf

/-- A full-width letter. -/
def isFull (g : Glyph) : Bool := CharKind.of g.char == .letterFull

/-- A Western mark. -/
def isWestern (g : Glyph) : Bool := isWesternPunctuation g.char

/-- What some glyphs spell. -/
def text (gs : List Glyph) : Text := gs.flatMap fun g => g.char :: g.gap

/-- A glyph of a sentence. -/
structure IsProse (g : Glyph) : Prop where
  /-- It is a letter or a mark that encloses nothing. -/
  char : g.isLetter = true ∨ isSentenceMark g.char = true
  /-- Spaces come after it, if anything. -/
  gap : ∀ c ∈ g.gap, isSpace c = true

/-- Whether a Western mark stands directly between two half-width letters. -/
def isTight (left : Option Glyph) (g : Glyph) (right : Option Glyph) : Bool :=
  g.isWestern && g.gap.isEmpty && left.any (fun l => l.isHalf && l.gap.isEmpty) &&
    right.any isHalf

/-- Whether a Western mark stands directly next to another one. -/
def isInRow (left : Option Glyph) (g : Glyph) (right : Option Glyph) : Bool :=
  g.isWestern &&
    (left.any (fun l => l.isWestern && l.gap.isEmpty) || (right.any isWestern && g.gap.isEmpty))

end Glyph

namespace Config

variable (config : Config)

/-- The form that a character takes.  A Western mark within a word or a row of marks keeps its own. -/
def form (left : Option Glyph) (g : Glyph) (right : Option Glyph) : Char :=
  if isPunctuation g.char && !g.isTight left right && !g.isInRow left right then
    config.resize g.char
  else g.char

/-- Whether a mark has the spaces around it set: one that pauses or stops, and stands neither within
a word nor in a row of marks. -/
def pauses (left : Option Glyph) (g : Glyph) (right : Option Glyph) : Bool :=
  let shown : Glyph := { g with char := config.form left g right }
  isPause shown.char && !shown.isTight left right && !g.isInRow left right

/-- The space that the settings ask for after a mark that pauses or stops, if it is `gap` in the
source. -/
def pauseGap (c : Char) (gap : Space) : Space :=
  if isWideOrChinese c then if config.noSpaceAfterFullwidthPause then Space.empty else gap
  else (config.spaceAfterHalfwidthPause.map Space.ofBool).getD gap

/-- The space that the settings ask for between two runs of letters, which are of full width or not,
if it is `gap` in the source. -/
def runGap (left right : Bool) (gap : Space) : Space :=
  if left && right then if config.noSpaceBetweenFullwidth then Space.empty else gap
  else if left || right then (config.spaceBetweenMixed.map Space.ofBool).getD gap
  else if config.spaceBetweenHalfwidth then Space.one else gap

/-- The space that the settings ask for between two letters.  Within a run there is none. -/
def letterGap (left right : Bool) (gap : Space) : Space :=
  if left == right && gap.isEmpty then gap else config.runGap left right gap

/-- The space that a character is given, those in the list coming after it. -/
def gapAfter (left : Option Glyph) (g : Glyph) : List Glyph → Space
  | [] => g.gap
  | next :: more =>
    match g.isLetter, next.isLetter with
    | true, true => config.letterGap g.isFull next.isFull g.gap
    | true, false =>
      if config.noSpaceBeforePause && config.pauses (some g) next more.head? then Space.empty
      else g.gap
    | false, true =>
      if config.pauses left g (some next) then
        config.pauseGap (config.form left g (some next)) g.gap
      else g.gap
    | false, false => g.gap

/-- What becomes of a character, those in `more` coming after it. -/
def settleGlyph (left : Option Glyph) (g : Glyph) (more : List Glyph) : Glyph :=
  ⟨config.form left g more.head?, config.gapAfter left g more⟩

/-- A text with its marks and spaces as the settings ask for. -/
def settle : Option Glyph → List Glyph → List Glyph
  | _, [] => []
  | left, g :: more => config.settleGlyph left g more :: settle (some g) more

end Config

variable {config : Config} {left : Option Glyph} {g : Glyph} {more : List Glyph}

theorem char_settleGlyph :
    (config.settleGlyph left g more).char = config.form left g more.head? := rfl

theorem gap_settleGlyph :
    (config.settleGlyph left g more).gap = config.gapAfter left g more := rfl

/-! ### Spaces -/

theorem runGap_runGap (l r : Bool) (gap : Space) :
    config.runGap l r (config.runGap l r gap) = config.runGap l r gap := by
  simp only [Config.runGap]
  split
  · split <;> rfl
  · split
    · cases config.spaceBetweenMixed <;> rfl
    · split <;> rfl

theorem letterGap_letterGap (l r : Bool) (gap : Space) :
    config.letterGap l r (config.letterGap l r gap) = config.letterGap l r gap := by
  simp only [Config.letterGap]
  split
  · rfl
  · rw [runGap_runGap, ite_self]

theorem pauseGap_pauseGap (c : Char) (gap : Space) :
    config.pauseGap c (config.pauseGap c gap) = config.pauseGap c gap := by
  simp only [Config.pauseGap]
  split
  · split <;> rfl
  · cases config.spaceAfterHalfwidthPause <;> rfl

section Spaces

variable {gap : Space} (h : ∀ c ∈ gap, isSpace c = true)

include h

theorem isSpace_of_mem_demanded {demand : Option Bool} :
    ∀ c ∈ (demand.map Space.ofBool).getD gap, isSpace c = true := by
  cases demand with
  | none => exact h
  | some present => exact isSpace_of_mem_ofBool

theorem isSpace_of_mem_closed {asked : Bool} :
    ∀ c ∈ (if asked then Space.empty else gap), isSpace c = true := by
  cases asked with
  | false => exact h
  | true => exact isSpace_of_mem_empty

theorem isSpace_of_mem_letterGap {l r : Bool} : ∀ c ∈ config.letterGap l r gap, isSpace c = true := by
  rw [Config.letterGap, Config.runGap]
  split
  · exact h
  · split
    · exact isSpace_of_mem_closed h
    · split
      · exact isSpace_of_mem_demanded h
      · split
        · exact isSpace_of_mem_one
        · exact h

theorem isSpace_of_mem_pauseGap {c : Char} : ∀ d ∈ config.pauseGap c gap, isSpace d = true := by
  rw [Config.pauseGap]
  split
  · exact isSpace_of_mem_closed h
  · exact isSpace_of_mem_demanded h

end Spaces

theorem isSpace_of_mem_gapAfter (h : ∀ c ∈ g.gap, isSpace c = true) :
    ∀ c ∈ config.gapAfter left g more, isSpace c = true := by
  cases more with
  | nil => exact h
  | cons next more =>
    rw [Config.gapAfter]
    split
    · exact isSpace_of_mem_letterGap h
    · exact isSpace_of_mem_closed h
    · split
      · exact isSpace_of_mem_pauseGap h
      · exact h
    · exact h

/-! ### Letters and marks -/

namespace Glyph

theorem isLetter_iff {g : Glyph} : g.isLetter = true ↔ g.isHalf = true ∨ g.isFull = true := by
  simp only [isLetter, CjkProse.isLetter, isHalf, isFull, beq_iff_eq]
  cases CharKind.of g.char <;> simp [CharKind.isLetter]

theorem isPunctuation_of_isLetter {g : Glyph} (h : g.isLetter = true) :
    isPunctuation g.char = false := by
  rcases isLetter_iff.mp h with h | h <;>
    simp only [isHalf, isFull, beq_iff_eq] at h <;>
    simp [isPunctuation, isChinesePunctuation, isWesternPunctuation, h, CharKind.isChinese,
      CharKind.isWestern]

theorem isLetter_of_isWestern {g : Glyph} (h : g.isWestern = true) : g.isLetter = false := by
  cases hl : g.isLetter with
  | false => rfl
  | true =>
    have hp := isPunctuation_of_isLetter hl
    rw [isWestern] at h
    simp [isPunctuation, h] at hp

theorem IsProse.isSentenceMark {g : Glyph} (h : g.IsProse) (hg : g.isLetter = false) :
    isSentenceMark g.char = true := by
  rcases h.char with hc | hc
  · rw [hg] at hc; cases hc
  · exact hc

end Glyph

/-- A letter keeps its form. -/
theorem form_of_isLetter (h : g.isLetter = true) (right : Option Glyph) :
    config.form left g right = g.char := by
  simp [Config.form, Glyph.isPunctuation_of_isLetter h]

/-- What comes before a letter is of no concern to the space after it. -/
theorem gapAfter_of_isLetter (h : g.isLetter = true) :
    config.gapAfter left g more = config.gapAfter none g more := by
  cases more with
  | nil => rfl
  | cons next more =>
    rw [Config.gapAfter, Config.gapAfter, h]
    cases next.isLetter <;> rfl

/-- No spaces are set around a letter. -/
theorem pauses_of_isLetter (h : g.isLetter = true) (right : Option Glyph) :
    config.pauses left g right = false := by
  have hpause : isPause g.char = false := by
    rcases Glyph.isLetter_iff.mp h with h | h <;>
      simp only [Glyph.isHalf, Glyph.isFull, beq_iff_eq] at h <;>
      simp [isPause, h, CharKind.isPause]
  simp [Config.pauses, form_of_isLetter h, hpause]

/-- A mark stays a mark. -/
theorem isSentenceMark_form (h : isSentenceMark g.char = true) (right : Option Glyph) :
    isSentenceMark (config.form left g right) = true := by
  rw [Config.form]
  split
  · exact (resize_spec h).1
  · exact h

theorem isProse_settleGlyph (h : g.IsProse) : (config.settleGlyph left g more).IsProse := by
  refine ⟨?_, isSpace_of_mem_gapAfter h.gap⟩
  rcases h.char with hc | hc
  · exact .inl (by rwa [Config.settleGlyph, Glyph.isLetter, form_of_isLetter hc])
  · exact .inr (isSentenceMark_form hc _)

@[simp] theorem isLetter_settleGlyph (h : g.IsProse) :
    (config.settleGlyph left g more).isLetter = g.isLetter := by
  cases hg : g.isLetter with
  | true => rwa [Config.settleGlyph, Glyph.isLetter, form_of_isLetter hg]
  | false => exact isLetter_of_isSentenceMark (isSentenceMark_form (h.isSentenceMark hg) _)

theorem isProse_of_mem_settle : ∀ {gs : List Glyph} {left : Option Glyph}, (∀ g ∈ gs, g.IsProse) →
    ∀ g ∈ config.settle left gs, g.IsProse := by
  intro gs
  induction gs with
  | nil => intro left _ g hg; cases hg
  | cons g gs ih =>
    intro left h
    obtain ⟨hg, hgs⟩ := List.forall_mem_cons.mp h
    exact List.forall_mem_cons.mpr ⟨isProse_settleGlyph hg, ih hgs⟩

/-! ### Settling once more -/

/-- A mark in a row keeps its form. -/
theorem form_of_isInRow {right : Option Glyph} (h : g.isInRow left right = true) :
    config.form left g right = g.char := by
  simp [Config.form, h]

/-- A mark within a word keeps its form. -/
theorem form_of_isTight {right : Option Glyph} (h : g.isTight left right = true) :
    config.form left g right = g.char := by
  simp [Config.form, h]

theorem pauses_of_isInRow {right : Option Glyph} (h : g.isInRow left right = true) :
    config.pauses left g right = false := by
  simp [Config.pauses, h]

theorem pauses_of_isTight {right : Option Glyph} (h : g.isTight left right = true) :
    config.pauses left g right = false := by
  simp [Config.pauses, form_of_isTight h, h]

/-- A mark that has no spaces set keeps the one after it. -/
theorem gapAfter_of_not_pauses (hg : g.isLetter = false)
    (h : config.pauses left g more.head? = false) : config.gapAfter left g more = g.gap := by
  cases more with
  | nil => rfl
  | cons next more =>
    rw [List.head?_cons] at h
    rw [Config.gapAfter, hg]
    cases next.isLetter <;> simp [h]

/-- A letter keeps the space before a mark that has no spaces set. -/
theorem settleGlyph_of_isLetter {l : Glyph} (hl : l.isLetter = true) (hg : g.isLetter = false)
    (h : config.pauses (some l) g more.head? = false) :
    config.settleGlyph left l (g :: more) = l := by
  simp [Config.settleGlyph, Config.gapAfter, form_of_isLetter hl, hl, hg, h]

/-- The first of what comes after a character, after it has been settled. -/
theorem head?_settle (before : Option Glyph) :
    (config.settle before more).head? =
      more.head?.map fun r => config.settleGlyph before r more.tail := by
  cases more <;> rfl

section Mark

variable {before : Option Glyph} (hg : g.isLetter = false)

include hg

/-- A mark in a row stays in it. -/
theorem isInRow_settle (h : g.isInRow left more.head? = true) :
    g.isInRow (left.map fun l => config.settleGlyph before l (g :: more))
      (config.settle (some g) more).head? = true := by
  simp only [Glyph.isInRow, Bool.and_eq_true, Bool.or_eq_true, Option.any_eq_true] at h ⊢
  obtain ⟨hwestern, ⟨l, rfl, hl, hgap⟩ | ⟨⟨r, hr, hwestern'⟩, hgap⟩⟩ := h
  · -- the mark before it is in the row as well, and keeps its form and its gap
    have hrow : l.isInRow before (some g) = true := by simp [Glyph.isInRow, hl, hwestern, hgap]
    have hsame : config.settleGlyph before l (g :: more) = l := by
      simp [Config.settleGlyph, Config.gapAfter, form_of_isInRow hrow, hg,
        Glyph.isLetter_of_isWestern hl]
    refine ⟨hwestern, .inl ⟨l, ?_, hl, hgap⟩⟩
    rw [Option.map_some, hsame]
  · have hrow : r.isInRow (some g) more.tail.head? = true := by
      simp [Glyph.isInRow, hwestern, hwestern', hgap]
    refine ⟨hwestern, .inr ⟨⟨_, by rw [head?_settle, hr]; rfl, ?_⟩, hgap⟩⟩
    rwa [Glyph.isWestern, char_settleGlyph, form_of_isInRow hrow]

/-- A mark within a word stays in it, if it has no spaces set. -/
theorem isTight_settle {c : Char} (hp : config.pauses left g more.head? = false)
    (h : Glyph.isTight left ⟨c, g.gap⟩ more.head? = true) :
    Glyph.isTight (left.map fun l => config.settleGlyph before l (g :: more)) ⟨c, g.gap⟩
      (config.settle (some g) more).head? = true := by
  simp only [Glyph.isTight, Bool.and_eq_true, Option.any_eq_true] at h ⊢
  obtain ⟨⟨hwestern, l, rfl, hl, hgap⟩, r, hr, hhalf⟩ := h
  refine ⟨⟨hwestern, l, ?_, hl, hgap⟩, _, by rw [head?_settle, hr]; rfl, ?_⟩
  · rw [Option.map_some, settleGlyph_of_isLetter (Glyph.isLetter_iff.mpr (.inl hl)) hg hp]
  · rwa [Glyph.isHalf, char_settleGlyph, form_of_isLetter (Glyph.isLetter_iff.mpr (.inl hhalf))]

/-- A mark takes its form once. -/
theorem form_settle (hprose : g.IsProse) :
    config.form (left.map fun l => config.settleGlyph before l (g :: more))
        (config.settleGlyph left g more) (config.settle (some g) more).head? =
      (config.settleGlyph left g more).char := by
  cases hrow : g.isInRow left more.head? with
  | true =>
    have hsame : config.settleGlyph left g more = g := by
      simp [Config.settleGlyph, form_of_isInRow hrow,
        gapAfter_of_not_pauses hg (pauses_of_isInRow hrow)]
    rw [hsame, form_of_isInRow (isInRow_settle hg hrow)]
  | false =>
    cases htight : g.isTight left more.head? with
    | true =>
      have hp := @pauses_of_isTight config _ _ _ htight
      have hsame : config.settleGlyph left g more = g := by
        simp [Config.settleGlyph, form_of_isTight htight, gapAfter_of_not_pauses hg hp]
      rw [hsame, form_of_isTight (isTight_settle hg hp htight)]
    | false =>
      have hform : config.form left g more.head? =
          if isPunctuation g.char then config.resize g.char else g.char := by
        simp [Config.form, hrow, htight]
      have hspec := @resize_spec config _ (hprose.isSentenceMark hg)
      rw [Config.form, char_settleGlyph, hform]
      cases hpunct : isPunctuation g.char with
      | true => simp [hspec.2.2]
      | false => simp [hpunct]

/-- A mark that has no spaces set once has none set later. -/
theorem pauses_settle (hprose : g.IsProse) (hp : config.pauses left g more.head? = false) :
    config.pauses (left.map fun l => config.settleGlyph before l (g :: more))
        (config.settleGlyph left g more) (config.settle (some g) more).head? = false := by
  have hform := @form_settle config left g more before hg hprose
  have hsettled : config.settleGlyph left g more = ⟨config.form left g more.head?, g.gap⟩ := by
    rw [Config.settleGlyph, gapAfter_of_not_pauses hg hp]
  rw [Config.pauses, hform, hsettled]
  -- it is no pause, or it stands within a word or in a row
  cases hpause : isPause (config.form left g more.head?) with
  | false => simp
  | true =>
    cases hrow : g.isInRow left more.head? with
    | true =>
      have hrow' := @isInRow_settle config left g more before hg hrow
      rw [form_of_isInRow hrow]
      simp [hrow']
    | false =>
      have htight : Glyph.isTight left ⟨config.form left g more.head?, g.gap⟩ more.head? = true := by
        simpa [Config.pauses, hpause, hrow] using hp
      have htight' := @isTight_settle config left g more before hg _ hp htight
      simp [htight']

end Mark

/-- The width of a letter does not change. -/
theorem isFull_settleGlyph (h : g.isLetter = true) :
    (config.settleGlyph left g more).isFull = g.isFull := by
  rw [Glyph.isFull, Glyph.isFull, char_settleGlyph, form_of_isLetter h]

/-- A character that has been settled takes no other form. -/
theorem form_settleGlyph (before : Option Glyph) (h : g.IsProse) :
    config.form (left.map fun l => config.settleGlyph before l (g :: more))
        (config.settleGlyph left g more) (config.settle (some g) more).head? =
      (config.settleGlyph left g more).char := by
  cases hg : g.isLetter with
  | true => exact form_of_isLetter (by rwa [isLetter_settleGlyph h]) _
  | false => exact form_settle hg h

/-- The space after a character that has been settled stays as it is. -/
theorem gapAfter_settleGlyph (before : Option Glyph) (h : ∀ m ∈ g :: more, m.IsProse) :
    config.gapAfter (left.map fun l => config.settleGlyph before l (g :: more))
        (config.settleGlyph left g more) (config.settle (some g) more) =
      (config.settleGlyph left g more).gap := by
  cases more with
  | nil => rfl
  | cons m more =>
    obtain ⟨hg, hmore⟩ := List.forall_mem_cons.mp h
    have hm := hmore m List.mem_cons_self
    rw [Config.settle, Config.gapAfter, isLetter_settleGlyph hg, isLetter_settleGlyph hm,
      gap_settleGlyph, Config.gapAfter]
    cases hgl : g.isLetter <;> cases hml : m.isLetter
    · rfl
    · -- a mark before a letter
      cases hp : config.pauses left g (some m) with
      | false =>
        have hp' := @pauses_settle config left g (m :: more) before hgl hg hp
        rw [Config.settle, List.head?_cons] at hp'
        simp [hp']
      | true =>
        have hform := @form_settleGlyph config left g (m :: more) before hg
        rw [Config.settle, List.head?_cons] at hform
        simp [hform, char_settleGlyph, pauseGap_pauseGap]
    · -- a letter before a mark
      cases hp : config.pauses (some g) m more.head? with
      | false =>
        have hp' := @pauses_settle config (some g) m more left hml hm hp
        rw [Option.map_some] at hp'
        simp [hp']
      | true => cases config.noSpaceBeforePause <;> simp
    · simp [isFull_settleGlyph hgl, isFull_settleGlyph hml, letterGap_letterGap]

/-- **What has been settled once stays as it is.**  Before the text comes the character `left`, and
before that `before`. -/
theorem settle_settle : ∀ {gs : List Glyph} {before left : Option Glyph}, (∀ g ∈ gs, g.IsProse) →
    config.settle (left.map fun l => config.settleGlyph before l gs) (config.settle left gs) =
      config.settle left gs := by
  intro gs
  induction gs with
  | nil => intro before left _; rfl
  | cons g more ih =>
    intro before left hprose
    obtain ⟨hg, hmore⟩ := List.forall_mem_cons.mp hprose
    have htail := @ih left (some g) hmore
    rw [Option.map_some] at htail
    rw [Config.settle, Config.settle, htail]
    congr 1
    rw [Config.settleGlyph, form_settleGlyph before hg, gapAfter_settleGlyph before hprose]

end CjkProse
