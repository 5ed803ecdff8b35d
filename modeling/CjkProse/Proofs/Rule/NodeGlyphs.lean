import CjkProse.Proofs.Rule.Sentences

/-!
# The glyphs of nodes

The nodes of a sentence spell a text, and so does a list of glyphs.  Here the nodes are taken apart
into glyphs: a mark is one, and a run of letters has one for each letter, of which the last holds the
space after the run.  A text is spelt by one list of glyphs only, so what is read from a text of
glyphs has these glyphs again.

## Main definitions

* `Node.glyphs`, `Paragraph.glyphs` — the glyphs of nodes.

## Main results

* `Glyph.settle_ofRun` — within a run nothing is set.
* `Glyph.text_injective` — what is spelt determines the glyphs.
* `Sentence.text_glyphs` — the glyphs of a sentence spell its text.
-/

namespace CjkProse

open Neighbours

/-! ### Glyphs -/

/-- The glyphs of a run of letters with the space after it. -/
def Glyph.ofRun (gap : Space) : Text → List Glyph
  | [] => []
  | [c] => [⟨c, gap⟩]
  | c :: d :: cs => ⟨c, []⟩ :: ofRun gap (d :: cs)

/-- The glyphs of a node, the values in force being taken.  Nothing else than runs and marks has
any. -/
def Node.glyphs : Node → List Glyph
  | .char v a => [⟨v.value, a.value⟩]
  | .half v a => Glyph.ofRun a.value v.value
  | .full v a => Glyph.ofRun a.value v.value
  | .event _ _ _ => []
  | .group _ _ _ _ _ => []

/-- The glyphs of a list of nodes. -/
def Paragraph.glyphs (ns : List Node) : List Glyph := ns.flatMap Node.glyphs

namespace Glyph

variable {config : Config} {letters gap gap' : Text} {full : Bool}

theorem text_append (gs hs : List Glyph) : text (gs ++ hs) = text gs ++ text hs :=
  List.flatMap_append

theorem text_ofRun (h : letters ≠ []) : text (ofRun gap letters) = letters ++ gap := by
  induction letters with
  | nil => exact absurd rfl h
  | cons c cs ih =>
    cases cs with
    | nil => simp [ofRun, text]
    | cons d cs =>
      have hcs := ih (by simp)
      rw [text] at hcs
      simp [ofRun, text, hcs]

theorem map_char_ofRun : (ofRun gap letters).map char = letters := by
  induction letters with
  | nil => rfl
  | cons c cs ih =>
    cases cs with
    | nil => rfl
    | cons d cs => simpa [ofRun] using ih

theorem length_ofRun : (ofRun gap letters).length = letters.length := by
  rw [← List.length_map char, map_char_ofRun]

/-- A run starts with its first letter. -/
theorem exists_ofRun_eq_cons (h : letters ≠ []) :
    ∃ g gs, ofRun gap letters = g :: gs ∧ g.char ∈ letters := by
  match letters with
  | [] => exact absurd rfl h
  | [c] => exact ⟨_, _, rfl, List.mem_cons_self⟩
  | c :: d :: cs => exact ⟨_, _, rfl, List.mem_cons_self⟩

theorem isProse_of_mem_ofRun (kind : ∀ c ∈ letters, CharKind.of c = .ofWidth full)
    (spaces : ∀ c ∈ gap, isSpace c = true) : ∀ g ∈ ofRun gap letters, g.IsProse := by
  induction letters with
  | nil => intro g hg; cases hg
  | cons c cs ih =>
    obtain ⟨hc, hcs⟩ := List.forall_mem_cons.mp kind
    have hletter := isLetter_of_kind hc
    cases cs with
    | nil => exact List.forall_mem_singleton.mpr ⟨.inl hletter, spaces⟩
    | cons d cs =>
      exact List.forall_mem_cons.mpr ⟨⟨.inl hletter, isSpace_of_mem_empty⟩, ih hcs⟩

theorem isFull_of_kind {g : Glyph} (h : CharKind.of g.char = .ofWidth full) : g.isFull = full := by
  rw [isFull, h]
  cases full <;> rfl

theorem isHalf_of_kind {g : Glyph} (h : CharKind.of g.char = .ofWidth full) : g.isHalf = !full := by
  rw [isHalf, h]
  cases full <;> rfl

theorem isWestern_of_kind {g : Glyph} (h : CharKind.of g.char = .ofWidth full) :
    g.isWestern = false := by
  rw [isWestern, isWesternPunctuation, h]
  cases full <;> rfl

/-- Within a run nothing is set, and after it what its last letter asks for. -/
theorem settle_ofRun (nonempty : letters ≠ [])
    (kind : ∀ c ∈ letters, CharKind.of c = .ofWidth full) (left : Option Glyph)
    (gs : List Glyph) : ∃ l : Glyph, CharKind.of l.char = .ofWidth full ∧ l.gap = gap ∧
      config.settle left (ofRun gap letters ++ gs) =
        ofRun (config.gapAfter none l gs) letters ++ config.settle (some l) gs := by
  induction letters generalizing left with
  | nil => exact absurd rfl nonempty
  | cons c cs ih =>
    obtain ⟨hc, hcs⟩ := List.forall_mem_cons.mp kind
    cases cs with
    | nil =>
      refine ⟨⟨c, gap⟩, hc, rfl, ?_⟩
      have hletter : isLetter ⟨c, gap⟩ = true := isLetter_of_kind hc
      simp [ofRun, Config.settle, Config.settleGlyph, form_of_isLetter hletter,
        gapAfter_of_isLetter hletter]
    | cons d cs =>
      obtain ⟨l, hl, hgap, hsettle⟩ := ih (by simp) hcs (some ⟨c, []⟩)
      refine ⟨l, hl, hgap, ?_⟩
      have hletter : isLetter ⟨c, []⟩ = true := isLetter_of_kind hc
      obtain ⟨g, hs, hrun, hmem⟩ := @exists_ofRun_eq_cons (d :: cs) gap (by simp)
      have hinside : config.gapAfter left ⟨c, []⟩ (ofRun gap (d :: cs) ++ gs) = [] := by
        have hg := hcs _ hmem
        rw [hrun, List.cons_append, Config.gapAfter, hletter, isLetter, isLetter_of_kind hg]
        simp [Config.letterGap, isFull_of_kind hg, isFull_of_kind (g := ⟨c, []⟩) hc]
      rw [ofRun, List.cons_append, Config.settle, hsettle, Config.settleGlyph,
        form_of_isLetter hletter, hinside]
      rfl

theorem not_isSpace_of_isProse {g : Glyph} (h : g.IsProse) : isSpace g.char = false := by
  rcases h.char with hc | hc
  · obtain ⟨full, hkind⟩ := exists_ofWidth hc
    exact isSpace_of_kind hkind
  · exact isSpace_of_isSentenceMark hc

/-- Glyphs spell a text in which nothing is enclosed. -/
theorem isSentence_text {gs : List Glyph} (h : ∀ g ∈ gs, g.IsProse) : (text gs).IsSentence := by
  refine ⟨fun c hc => ?_, fun c hc => ?_⟩
  · obtain ⟨g, hg, hc⟩ := List.mem_flatMap.mp hc
    have hprose := h g hg
    rcases List.mem_cons.mp hc with rfl | hc
    · rcases hprose.char with hletter | hmark
      · obtain ⟨full, hkind⟩ := exists_ofWidth hletter
        rw [isQuote, isBracket, hkind]
        cases full <;> exact ⟨rfl, rfl⟩
      · simp only [isSentenceMark, Bool.and_eq_true, Bool.not_eq_true'] at hmark
        exact ⟨hmark.1.2, hmark.2⟩
    · rw [isQuote, isBracket, kind_of_isSpace (hprose.gap c hc)]
      exact ⟨rfl, rfl⟩
  · cases gs with
    | nil => cases hc
    | cons g gs =>
      cases hc
      exact not_isSpace_of_isProse (h g List.mem_cons_self)

/-- The spaces before some glyphs are those at the head of the text. -/
theorem takeWhile_append_text {gs : List Glyph} (spaces : ∀ c ∈ gap, isSpace c = true)
    (h : ∀ g ∈ gs, g.IsProse) : (gap ++ text gs).takeWhile isSpace = gap := by
  rw [List.takeWhile_append_of_pos spaces]
  cases gs with
  | nil => simp [text]
  | cons g gs =>
    have hg := not_isSpace_of_isProse (h g List.mem_cons_self)
    simp [text, hg]

/-- A text is spelt by one list of glyphs only. -/
theorem text_injective : ∀ {gs hs : List Glyph}, (∀ g ∈ gs, g.IsProse) → (∀ h ∈ hs, h.IsProse) →
    text gs = text hs → gs = hs := by
  intro gs
  induction gs with
  | nil =>
    intro hs _ _ h
    cases hs with
    | nil => rfl
    | cons h hs => cases h
  | cons g gs ih =>
    intro hs hgs hhs h
    cases hs with
    | nil => cases h
    | cons k hs =>
      obtain ⟨hg, hgs⟩ := List.forall_mem_cons.mp hgs
      obtain ⟨hk, hhs⟩ := List.forall_mem_cons.mp hhs
      obtain ⟨hchar, hrest⟩ : g.char = k.char ∧ g.gap ++ text gs = k.gap ++ text hs := by
        simpa [text] using h
      have hgap : g.gap = k.gap := by
        rw [← takeWhile_append_text hg.gap hgs, hrest, takeWhile_append_text hk.gap hhs]
      rw [hgap, List.append_cancel_left_eq] at hrest
      rw [ih hgs hhs hrest]
      cases g
      cases k
      cases hchar
      cases hgap
      rfl

end Glyph

@[simp] theorem Revisable.value_mk {α : Type} (x : α) (s : Span) :
    ({ original := x, span := s } : Revisable α).value = x := rfl

@[simp] theorem Paragraph.glyphs_nil : Paragraph.glyphs [] = [] := rfl

@[simp] theorem Paragraph.glyphs_cons (n : Node) (ns : List Node) :
    Paragraph.glyphs (n :: ns) = n.glyphs ++ Paragraph.glyphs ns := rfl

@[simp] theorem Paragraph.glyphs_append (ns ms : List Node) :
    Paragraph.glyphs (ns ++ ms) = Paragraph.glyphs ns ++ Paragraph.glyphs ms :=
  List.flatMap_append

section Letters

variable {full : Bool} {letters gap : Text} {c : Char} {s s' : Span}

@[simp] theorem Node.glyphs_letters :
    (Node.letters full letters gap s s').glyphs = Glyph.ofRun gap letters := by
  cases full <;> rfl

@[simp] theorem Node.glyphs_setAfter_letters (space : Space) :
    ((Node.letters full letters gap s s').setAfter space).glyphs = Glyph.ofRun space letters := by
  cases full <;> simp [Node.letters, setAfter, mapAfter, glyphs]

@[simp] theorem Node.glyphs_mark : (Node.mark c gap s s').glyphs = [⟨c, gap⟩] := rfl

@[simp] theorem Node.after_letters :
    (Node.letters full letters gap s s').after = { original := gap, span := s' } := by
  cases full <;> rfl

@[simp] theorem Node.setAfter_letters :
    (Node.letters full letters gap s s').setAfter gap = Node.letters full letters gap s s' := by
  simpa using Node.setAfter_value (n := Node.letters full letters gap s s') (by simp)

@[simp] theorem Node.isFull_letters : (Node.letters full letters gap s s').isFull = full := by
  cases full <;> rfl

@[simp] theorem Node.isContent_letters :
    (Node.letters full letters gap s s').isContent = true := by
  cases full <;> rfl

theorem Node.isPiece_letters (nonempty : letters ≠ []) :
    (Node.letters full letters gap s s').IsPiece := by
  cases full with
  | false => exact .half _ nonempty
  | true => exact .full _ nonempty

/-- A run looks like each of its letters. -/
theorem Node.shows_letters {g : Glyph} (h : CharKind.of g.char = .ofWidth full) :
    (Node.letters full letters gap s s').Shows g := by
  refine ⟨?_, ?_, ?_⟩
  · rw [Glyph.isHalf_of_kind h]
    cases full <;> rfl
  · rw [Glyph.isFull_of_kind h, isFull_letters]
  · rw [Glyph.isWestern_of_kind h]
    cases full <;> rfl

/-- A mark looks like the glyph that it is in the source. -/
theorem Node.shows_char {v : Revisable Char} {a : Revisable Space} {g : Glyph}
    (mark : g.isLetter = false) (original : v.original = g.char) : (Node.char v a).Shows g := by
  rw [Bool.eq_false_iff, Ne, Glyph.isLetter_iff, not_or, Bool.not_eq_true, Bool.not_eq_true] at mark
  refine ⟨mark.1.symm, mark.2.symm, ?_⟩
  rw [Neighbours.isWesternInSource, original, Glyph.isWestern]

end Letters

/-- A node of a sentence is shown as its glyphs. -/
theorem Node.IsPiece.render {n : Node} (h : n.IsPiece) : n.render = Glyph.text n.glyphs := by
  cases h with
  | half a nonempty => rw [Node.render, Node.glyphs, Glyph.text_ofRun nonempty]
  | full a nonempty => rw [Node.render, Node.glyphs, Glyph.text_ofRun nonempty]
  | char a mark => simp [Node.render, Node.glyphs, Glyph.text]

theorem renderAll_eq_text {ns : List Node} (h : ∀ n ∈ ns, n.IsPiece) :
    Node.renderAll ns = Glyph.text (Paragraph.glyphs ns) := by
  induction ns with
  | nil => simp [Node.renderAll, Glyph.text]
  | cons n ns ih =>
    obtain ⟨hn, hns⟩ := List.forall_mem_cons.mp h
    rw [Node.renderAll, hn.render, ih hns, Paragraph.glyphs_cons, Glyph.text_append]

namespace Sentence

variable {t : Text} {ns : List Node}

/-- The glyphs of a sentence spell its text. -/
theorem text_glyphs (h : Sentence t ns) : Glyph.text (Paragraph.glyphs ns) = t := by
  induction h with
  | nil => rfl
  | run nonempty _ _ _ _ ih =>
    rw [Paragraph.glyphs_cons, Node.glyphs_letters, Glyph.text_append, Glyph.text_ofRun nonempty, ih]
  | mark _ _ _ ih =>
    rw [Paragraph.glyphs_cons, Node.glyphs_mark, Glyph.text_append, ih]
    simp [Glyph.text]

theorem isProse (h : Sentence t ns) : ∀ g ∈ Paragraph.glyphs ns, g.IsProse := by
  induction h with
  | nil => intro g hg; cases hg
  | run _ kind spaces _ _ ih =>
    rw [Paragraph.glyphs_cons, Node.glyphs_letters]
    exact List.forall_mem_append.mpr ⟨Glyph.isProse_of_mem_ofRun kind spaces, ih⟩
  | mark kind spaces _ ih =>
    rw [Paragraph.glyphs_cons, Node.glyphs_mark]
    exact List.forall_mem_cons.mpr ⟨⟨.inr kind, spaces⟩, ih⟩

theorem isPiece (h : Sentence t ns) : ∀ n ∈ ns, n.IsPiece := by
  induction h with
  | nil => intro n hn; cases hn
  | run nonempty _ _ _ _ ih => exact List.forall_mem_cons.mpr ⟨Node.isPiece_letters nonempty, ih⟩
  | mark kind _ _ ih => exact List.forall_mem_cons.mpr ⟨.char _ kind, ih⟩

/-- Nothing is revised in what is read. -/
theorem fresh (h : Sentence t ns) : ∀ n ∈ ns, n.after.modified = none := by
  induction h with
  | nil => intro n hn; cases hn
  | run _ _ _ _ _ ih => exact List.forall_mem_cons.mpr ⟨by simp, ih⟩
  | mark _ _ _ ih => exact List.forall_mem_cons.mpr ⟨rfl, ih⟩

theorem value_of_mem {v : Revisable Char} {a : Revisable Space} (h : Sentence t ns)
    (hmem : .char v a ∈ ns) : v.value = v.original := by
  induction h with
  | nil => cases hmem
  | @run full _ _ _ _ _ _ _ _ _ _ _ ih =>
    rcases List.mem_cons.mp hmem with hrun | hmem
    · cases full <;> cases hrun
    · exact ih hmem
  | mark _ _ _ ih =>
    rcases List.mem_cons.mp hmem with hmark | hmem
    · cases hmark
      rfl
    · exact ih hmem

theorem edits_eq_nil (h : Sentence t ns) : Paragraph.edits ns = [] := by
  induction h with
  | nil => simp [Paragraph.edits]
  | @run full letters gap rest s s' ns _ _ _ _ _ ih =>
    cases full <;> simp [Paragraph.edits, Node.edits, Node.letters, Revisable.edit, ih]
  | mark _ _ _ ih =>
    simp [Paragraph.edits, Node.edits, Node.mark, Revisable.edit, Revisable.charEdit, ih]

/-- What comes first in a sentence is the first glyph. -/
theorem ahead (h : Sentence t ns) : Ahead ns (Paragraph.glyphs ns).head? := by
  cases h with
  | nil => exact .nil
  | @run full letters gap rest s s' ns nonempty kind _ _ _ =>
    obtain ⟨g, gs, hrun, hmem⟩ := @Glyph.exists_ofRun_eq_cons letters gap nonempty
    rw [Paragraph.glyphs_cons, Node.glyphs_letters, hrun]
    exact .cons (Node.shows_letters (kind _ hmem))
  | @mark c gap rest s s' ns kind _ _ =>
    exact .cons (Node.shows_char (isLetter_of_isSentenceMark kind) rfl)

end Sentence

end CjkProse
