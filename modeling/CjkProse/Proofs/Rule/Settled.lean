import CjkProse.Format
import CjkProse.Proofs.Rule.NodeGlyphs
import CjkProse.Proofs.Source.Pieces

/-!
# Formatting again

The rules run once over a paragraph, and what they have made of it may be read in another way.  When
the gap between two wide runs is closed they are one run from then on.  If one of them was a unit, the
run is none any more, and the exemption for units, which kept a space away from it, is gone.  So there
are texts that are settled only by formatting them twice.

In a sentence it takes an exemption for that.  Without one, what a pass makes of the nodes is what is
said of each character by `Config.settle`, though a space is set when the rules are at the node
before it and may be taken away again when they are at the next.  What is settled in this way is read
as the same glyphs, and then no rule does anything.

## Main definitions

* `UnitFree`, `AbbrFree` — nodes to which no exception applies.
* `Text.IsUnitFree`, `Text.IsAbbrFree` — texts in which no unit and no abbreviation is written.

## Main results

* `applyAllAt_run`, `applyAllAt_mark` — what all rules do at one node.
* `glyphs_polish` — a pass over a sentence settles it.
* `polish_eq_self` — a pass over a settled sentence does nothing.
* `polish_polish` — **one pass settles a sentence in which no exempt unit and no abbreviation is
  written.**
* `not_formatText_formatText` — one pass need not settle a text with a unit.
-/

namespace CjkProse

open Neighbours

/-! ### A pass over a sentence -/

/-- No run of letters is a unit. -/
def UnitFree (config : Config) (ns : List Node) : Prop := ∀ n ∈ ns, Rules.isUnit config n = false

/-- No full stop ends an abbreviation, `pre` coming before the nodes. -/
def AbbrFree (config : Config) (pre ns : List Node) : Prop :=
  ∀ q v a rest, ns = q ++ .char v a :: rest → v.original = '.' → config.endsAbbr (pre ++ q) = false

section Pass

variable {config : Config} {pre rest : List Node} {n : Node}

/-- At a run all rules together set the space after it, if no unit comes or nothing changes. -/
theorem applyAllAt_run (hn : n.isContent = true) (hpieces : ∀ m ∈ pre ++ n :: rest, m.IsPiece)
    (fresh : n.after.modified = none)
    (h : (∀ m ∈ rest, Rules.isUnit config m = false) ∨
      config.ownGap n rest = n.after.value ∧ ∀ m ∈ pre ++ n :: rest, m.after.modified = none) :
    Rule.applyAllAt Rule.all config (pre ++ n :: rest) pre.length =
      pre ++ n.setAfter (config.ownGap n rest) :: rest := by
  obtain ⟨hpre, hrest⟩ := List.forall_mem_append.mp hpieces
  obtain ⟨hpiece, hrest⟩ := List.forall_mem_cons.mp hrest
  have hunit : Rule.numberUnit.applyAt config (pre ++ n.setAfter (config.ownGap n rest) :: rest)
      pre.length = pre ++ n.setAfter (config.ownGap n rest) :: rest := by
    refine numberUnit_append (fun m hm => (hrest m hm).isWrapper) ?_
    rcases h with hunits | ⟨hgap, hfresh⟩
    · exact .inl hunits
    · rw [hgap, Node.setAfter_value fresh]
      exact .inr hfresh
  have hletter : Rule.letterSpace.applyAt config (pre ++ n :: rest) pre.length =
      pre ++ n.setAfter (config.ownGap n rest) :: rest := letterSpace_append hn hrest fresh
  generalize config.ownGap n rest = s at hletter hunit ⊢
  have hcontent : (n.setAfter s).isContent = true := by cases n <;> exact hn
  have hpieces' : ∀ m ∈ pre ++ n.setAfter s :: rest, m.IsPiece :=
    List.forall_mem_append.mpr ⟨hpre, List.forall_mem_cons.mpr ⟨hpiece.setAfter s, hrest⟩⟩
  have hbefore : ∀ r, r ≠ Rule.letterSpace → r ≠ Rule.numberUnit →
      r.applyAt config (pre ++ n :: rest) pre.length = pre ++ n :: rest :=
    fun r hr hr' => Rule.applyAt_of_isContent hr hr' hpieces getElem?_append_cons hn
  have hafter : ∀ r, r ≠ Rule.letterSpace → r ≠ Rule.numberUnit →
      r.applyAt config (pre ++ n.setAfter s :: rest) pre.length = pre ++ n.setAfter s :: rest :=
    fun r hr hr' => Rule.applyAt_of_isContent hr hr' hpieces' getElem?_append_cons hcontent
  simp [Rule.applyAllAt, Rule.all, hbefore, hafter, hletter, hunit]

/-- At a mark all rules together set its form and the spaces around it, if it ends no abbreviation or
nothing about it changes. -/
theorem applyAllAt_mark {left : Option Glyph} {g : Glyph} {gs : List Glyph} {v : Revisable Char}
    {a : Revisable Space} (behind : Behind pre left) (ahead : Ahead rest gs.head?)
    (hpieces : ∀ m ∈ pre ++ .char v a :: rest, m.IsPiece) (hv : v.modified = none)
    (ha : a.modified = none) (hchar : v.value = g.char) (hgap : a.value = g.gap)
    (h : (v.original = '.' → config.endsAbbr pre = false) ∨
      config.form left g gs.head? = g.char ∧ config.gapAfter left g gs = g.gap) :
    Rule.applyAllAt Rule.all config (pre ++ .char v a :: rest) pre.length =
      closeLast (config.noSpaceBeforePause && left.any Glyph.isLetter &&
          config.pauses left g gs.head?) pre ++
        .char (v.revise (config.form left g gs.head?)) (a.revise (config.gapAfter left g gs)) ::
          rest := by
  obtain ⟨hpre, hrest⟩ := List.forall_mem_append.mp hpieces
  obtain ⟨hpiece, hrest⟩ := List.forall_mem_cons.mp hrest
  have mark : isSentenceMark v.value = true := by cases hpiece; assumption
  have horiginal : v.original = g.char := by simpa [Revisable.value, hv] using hchar
  have hletter : g.isLetter = false := by
    rw [Glyph.isLetter, ← hchar, isLetter_of_isSentenceMark mark]
  have hform : isSentenceMark (config.form left g gs.head?) = true :=
    isSentenceMark_form (by rwa [← hchar]) gs.head?
  -- first the mark takes its form, then the spaces around it are set
  have hwidth : Rule.markWidth.applyAt config (pre ++ .char v a :: rest) pre.length =
      pre ++ .char (v.revise (config.form left g gs.head?)) a :: rest := by
    have h := @markWidth_append config pre rest left gs.head? v a behind ahead mark hv
    rwa [hchar, hgap] at h
  have hpause := @pauseSpace_append config pre rest left a g gs
    (v.revise (config.form left g gs.head?)) behind ahead hpre hrest ha hgap horiginal
    (Revisable.value_revise _ _) hletter
  have hends : (v.original = '.' → config.endsAbbr pre = false) ∨
      (v.revise (config.form left g gs.head?)).modified = none ∧
        (a.revise (config.gapAfter left g gs)).modified = none := by
    rcases h with hends | ⟨hsame, hkeep⟩
    · exact .inl hends
    · rw [hsame, hkeep, ← hchar, ← hgap, Revisable.revise_value hv, Revisable.revise_value ha]
      exact .inr ⟨hv, ha⟩
  generalize config.form left g gs.head? = c at hform hwidth hpause hends ⊢
  generalize config.gapAfter left g gs = s at hpause hends ⊢
  generalize (config.noSpaceBeforePause && left.any Glyph.isLetter &&
    config.pauses left g gs.head?) = asked at hpause ⊢
  have hpieces₁ : ∀ m ∈ pre ++ .char (v.revise c) a :: rest, m.IsPiece :=
    List.forall_mem_append.mpr ⟨hpre, List.forall_mem_cons.mpr
      ⟨.char a (by rwa [Revisable.value_revise]), hrest⟩⟩
  have hpieces₂ : ∀ m ∈ closeLast asked pre ++ .char (v.revise c) (a.revise s) :: rest, m.IsPiece :=
    List.forall_mem_append.mpr ⟨isPiece_of_mem_closeLast hpre, List.forall_mem_cons.mpr
      ⟨.char _ (by rwa [Revisable.value_revise]), hrest⟩⟩
  have hget₂ : (closeLast asked pre ++ .char (v.revise c) (a.revise s) :: rest)[pre.length]? =
      some (.char (v.revise c) (a.revise s)) := by
    rw [← length_closeLast asked pre]
    exact getElem?_append_cons
  have hpause' : Rule.pauseSpace.applyAt config (pre ++ .char (v.revise c) a :: rest) pre.length =
      closeLast asked pre ++ .char (v.revise c) (a.revise s) :: rest := hpause
  have habbr : Rule.abbreviation.applyAt config
      (closeLast asked pre ++ .char (v.revise c) (a.revise s) :: rest) pre.length =
      closeLast asked pre ++ .char (v.revise c) (a.revise s) :: rest :=
    abbreviation_append asked hends
  have hbetween : ∀ r, r ≠ Rule.markWidth → r ≠ Rule.pauseSpace → r ≠ Rule.abbreviation →
      r.applyAt config (pre ++ .char (v.revise c) a :: rest) pre.length =
        pre ++ .char (v.revise c) a :: rest :=
    fun r h h' h'' => Rule.applyAt_of_char h h' h'' hpieces₁ getElem?_append_cons
  have hafter : ∀ r, r ≠ Rule.markWidth → r ≠ Rule.pauseSpace → r ≠ Rule.abbreviation →
      r.applyAt config (closeLast asked pre ++ .char (v.revise c) (a.revise s) :: rest)
        pre.length = closeLast asked pre ++ .char (v.revise c) (a.revise s) :: rest :=
    fun r h h' h'' => Rule.applyAt_of_char h h' h'' hpieces₂ hget₂
  simp [Rule.applyAllAt, Rule.all, hwidth, hpause', hbetween, hafter, habbr]

/-- Whether the space before some glyphs is taken away, `left` being the last one before it. -/
def Config.closes (config : Config) (left : Option Glyph) : List Glyph → Bool
  | [] => false
  | g :: more =>
    config.noSpaceBeforePause && left.any Glyph.isLetter && config.pauses left g more.head?

/-- A letter takes no space away. -/
theorem closes_ofRun {left : Option Glyph} {full : Bool} {letters gap : Text} {gs : List Glyph}
    (nonempty : letters ≠ []) (kind : ∀ c ∈ letters, CharKind.of c = .ofWidth full) :
    config.closes left (Glyph.ofRun gap letters ++ gs) = false := by
  obtain ⟨g, hs, hrun, hmem⟩ := @Glyph.exists_ofRun_eq_cons letters gap nonempty
  have hg : g.isLetter = true := isLetter_of_kind (kind _ hmem)
  simp [hrun, Config.closes, pauses_of_isLetter hg]

/-- Only the space after a letter is taken away. -/
theorem closes_of_not_isLetter {l : Glyph} (h : l.isLetter = false) (gs : List Glyph) :
    config.closes (some l) gs = false := by
  cases gs <;> simp [Config.closes, h]

variable {t : Text} {ns : List Node}

/-- Before another run the last letter of a run asks for the space between two runs. -/
theorem gapAfter_of_run {full : Bool} {l : Glyph} {m : Node} (h : Sentence t (m :: ns))
    (hm : m.isContent = true) (hl : CharKind.of l.char = .ofWidth full)
    (maximal : l.gap = [] → ∀ c, t.head? = some c → CharKind.of c ≠ .ofWidth full) :
    config.gapAfter none l (Paragraph.glyphs (m :: ns)) = config.runGap full m.isFull l.gap ∧
      config.closes (some l) (Paragraph.glyphs (m :: ns)) = false := by
  have hletter : l.isLetter = true := isLetter_of_kind hl
  cases h with
  | mark kind _ _ => cases hm
  | @run full' letters gap rest s s' _ nonempty kind _ _ _ =>
    obtain ⟨d, ds, rfl⟩ := List.exists_cons_of_ne_nil nonempty
    have hd := kind d List.mem_cons_self
    obtain ⟨g, gs, hrun, hmem⟩ := @Glyph.exists_ofRun_eq_cons (d :: ds) gap nonempty
    have hg : g.isLetter = true := isLetter_of_kind (kind _ hmem)
    -- two runs of one width have a space between them
    have hapart : (full == full' && l.gap.isEmpty) = false := by
      cases hsame : full == full' && l.gap.isEmpty with
      | false => rfl
      | true =>
        simp only [Bool.and_eq_true, beq_iff_eq, List.isEmpty_iff] at hsame
        exact absurd (hsame.1 ▸ hd) (maximal hsame.2 d rfl)
    rw [Paragraph.glyphs_cons, Node.glyphs_letters, hrun, List.cons_append, Config.gapAfter,
      hletter, hg, Config.closes, pauses_of_isLetter hg]
    simp [Config.letterGap, Glyph.isFull_of_kind hl, Glyph.isFull_of_kind (kind _ hmem), hapart]

/-- Before a mark the last letter of a run gives the space up if the mark asks for that. -/
theorem gapAfter_of_mark {l : Glyph} {m : Node} (h : Sentence t (m :: ns))
    (hm : m.isContent = false) (hl : l.isLetter = true) :
    config.gapAfter none l (Paragraph.glyphs (m :: ns)) =
      if config.closes (some l) (Paragraph.glyphs (m :: ns)) then Space.empty else l.gap := by
  cases h with
  | run _ _ _ _ _ => rw [Node.isContent_letters] at hm; cases hm
  | @mark c gap rest s s' _ kind _ _ =>
    have hg : Glyph.isLetter ⟨c, gap⟩ = false := isLetter_of_isSentenceMark kind
    rw [Paragraph.glyphs_cons, Node.glyphs_mark, List.singleton_append, Config.gapAfter, hl, hg]
    simp [Config.closes, hl]

/-- The space after a run is what its last letter asks for: it is set when the rules are at the run,
or taken away when they are at a mark after it. -/
theorem ownGap_eq {full : Bool} {l : Glyph} (h : Sentence t ns) (hfull : n.isFull = full)
    (hgap : n.after.value = l.gap) (hl : CharKind.of l.char = .ofWidth full)
    (maximal : l.gap = [] → ∀ c, t.head? = some c → CharKind.of c ≠ .ofWidth full)
    (units : UnitFree config (n :: ns)) :
    (if config.closes (some l) (Paragraph.glyphs ns) then Space.empty else config.ownGap n ns) =
      config.gapAfter none l (Paragraph.glyphs ns) := by
  cases ns with
  | nil => exact hgap
  | cons m ns =>
    cases hm : m.isContent with
    | true =>
      have hunit : Rules.isUnit config (if n.isFull then n else m) = false := by
        split
        · exact units _ List.mem_cons_self
        · exact units _ (List.mem_cons_of_mem _ List.mem_cons_self)
      obtain ⟨hrun, hopen⟩ := @gapAfter_of_run config t ns full l m h hm hl maximal
      rw [hrun, hopen, Config.ownGap, hm, hunit, hfull, hgap]
      simp
    | false =>
      have hown : config.ownGap n (m :: ns) = l.gap := by simp [Config.ownGap, hm, hgap]
      rw [hown, gapAfter_of_mark h hm (isLetter_of_kind hl)]

theorem AbbrFree.tail {src : List Node} (h : AbbrFree config src (n :: ns)) :
    AbbrFree config (src ++ [n]) ns := by
  intro q v a rest hns hstop
  have hends := h (n :: q) v a rest (by rw [hns, List.cons_append]) hstop
  rwa [List.append_assoc]

/-- The nodes in `pre` come before those in `ns`, and the rules have been at them.  They have been the
nodes of `src` at first, the last glyph of which is `left`.  If a mark comes next it still sees this
glyph, as the space before a mark is not set earlier. -/
structure Visited (src pre : List Node) (left : Option Glyph) (ns : List Node) : Prop where
  /-- They are runs and marks. -/
  isPiece : ∀ p ∈ pre, p.IsPiece
  /-- The same abbreviations end there. -/
  source : pre.map abbrPiece? = src.map abbrPiece?
  /-- A mark sees the last glyph. -/
  behind : ∀ n, ns.head? = some n → n.isContent = false → Behind pre left

section Visited

variable {src : List Node} {left : Option Glyph} {full : Bool} {c : Char} {letters gap : Text}
  {s s' : Span}

variable (config) in
/-- When the rules have been at a run. -/
theorem Visited.run (h : Visited src pre left (Node.letters full letters gap s s' :: ns))
    (nonempty : letters ≠ []) {l : Glyph} (hl : CharKind.of l.char = .ofWidth full)
    (hgap : l.gap = gap) :
    Visited (src ++ [Node.letters full letters gap s s'])
      (pre ++ [(Node.letters full letters gap s s').setAfter
        (config.ownGap (Node.letters full letters gap s s') ns)]) (some l) ns where
  isPiece := List.forall_mem_append.mpr ⟨h.isPiece,
    List.forall_mem_singleton.mpr ((Node.isPiece_letters nonempty).setAfter _)⟩
  source := by
    rw [List.map_append, List.map_append, h.source, List.map_singleton, List.map_singleton,
      abbrPiece?_setAfter]
  behind := by
    intro m hm hcontent
    obtain ⟨ms, rfl⟩ := List.head?_eq_some_iff.mp hm
    -- the space is set already only before another run
    have hkeep : config.ownGap (Node.letters full letters gap s s') (m :: ms) = gap := by
      simp [Config.ownGap, hcontent]
    rw [hkeep, Node.setAfter_letters]
    exact .snoc (Node.shows_letters hl) (by simp [Node.hasSpaceAfter, hgap])

/-- Between two marks no space is set. -/
theorem gapAfter_of_marks {g : Glyph} {m : Node} (h : Sentence t (m :: ns))
    (hm : m.isContent = false) (hg : g.isLetter = false) :
    config.gapAfter left g (Paragraph.glyphs (m :: ns)) = g.gap := by
  cases h with
  | run _ _ _ _ _ => rw [Node.isContent_letters] at hm; cases hm
  | @mark d gap rest s s' _ kind _ _ =>
    have hd : Glyph.isLetter ⟨d, gap⟩ = false := isLetter_of_isSentenceMark kind
    rw [Paragraph.glyphs_cons, Node.glyphs_mark, List.singleton_append, Config.gapAfter, hg, hd]

variable (config) in
/-- When the rules have been at a mark. -/
theorem Visited.mark (h : Visited src pre left (Node.mark c gap s s' :: ns))
    (kind : isSentenceMark c = true) (tail : Sentence t ns) (asked : Bool) :
    Visited (src ++ [Node.mark c gap s s'])
      (closeLast asked pre ++
        [.char (Revisable.revise { original := c, span := s }
            (config.form left ⟨c, gap⟩ (Paragraph.glyphs ns).head?))
          (Revisable.revise { original := gap, span := s' }
            (config.gapAfter left ⟨c, gap⟩ (Paragraph.glyphs ns)))]) (some ⟨c, gap⟩) ns where
  isPiece := by
    have hform := @isSentenceMark_form config left ⟨c, gap⟩ kind (Paragraph.glyphs ns).head?
    exact List.forall_mem_append.mpr ⟨isPiece_of_mem_closeLast h.isPiece,
      List.forall_mem_singleton.mpr (.char _ (by rwa [Revisable.value_revise]))⟩
  source := by
    rw [List.map_append, List.map_append, map_abbrPiece?_closeLast, h.source]
    rfl
  behind := by
    intro m hm hcontent
    obtain ⟨ms, rfl⟩ := List.head?_eq_some_iff.mp hm
    have hg : Glyph.isLetter ⟨c, gap⟩ = false := isLetter_of_isSentenceMark kind
    -- the space is set already only before a run
    rw [gapAfter_of_marks tail hcontent hg]
    exact .snoc (Node.shows_char hg rfl) (by simp [Node.hasSpaceAfter, Node.after])

end Visited

/-- Going over a sentence from some place on settles it from there on. -/
theorem glyphs_foldl (h : Sentence t ns) : ∀ {src pre : List Node} {left : Option Glyph},
    Visited src pre left ns → UnitFree config ns → AbbrFree config src ns →
      (∀ n ∈ (List.range' pre.length ns.length).foldl (Rule.applyAllAt Rule.all config) (pre ++ ns),
        n.IsPiece) ∧
      Paragraph.glyphs ((List.range' pre.length ns.length).foldl
        (Rule.applyAllAt Rule.all config) (pre ++ ns)) =
        Paragraph.glyphs (closeLast (config.closes left (Paragraph.glyphs ns)) pre) ++
          config.settle left (Paragraph.glyphs ns) := by
  induction h with
  | nil =>
    intro src pre left hpre _ _
    exact ⟨by simpa using hpre.isPiece, by simp [Config.closes, Config.settle, closeLast]⟩
  | @run full letters gap rest s s' ns nonempty kind spaces maximal tail ih =>
    intro src pre left hpre units abbrs
    obtain ⟨-, hunits⟩ := List.forall_mem_cons.mp units
    obtain ⟨l, hl, hgap, hsettle⟩ :=
      @Glyph.settle_ofRun config letters gap full nonempty kind left (Paragraph.glyphs ns)
    have hown := @ownGap_eq config (Node.letters full letters gap s s') rest ns full l tail
      Node.isFull_letters (by simp [hgap]) hl (by rwa [hgap]) units
    have hvisit := @applyAllAt_run config pre ns (Node.letters full letters gap s s')
      Node.isContent_letters
      (List.forall_mem_append.mpr ⟨hpre.isPiece,
        List.forall_mem_cons.mpr ⟨Node.isPiece_letters nonempty, tail.isPiece⟩⟩)
      (by simp) (.inl hunits)
    obtain ⟨hpieces, hglyphs⟩ := ih (hpre.run config nonempty hl hgap) hunits abbrs.tail
    rw [List.length_append, List.length_singleton, List.append_assoc, List.singleton_append]
      at hpieces hglyphs
    rw [List.length_cons, List.range'_succ, List.foldl_cons, hvisit]
    refine ⟨hpieces, ?_⟩
    -- the space that a mark takes away is that of the run
    have hnode : (if config.closes (some l) (Paragraph.glyphs ns) then
        ((Node.letters full letters gap s s').setAfter
          (config.ownGap (Node.letters full letters gap s s') ns)).setAfter Space.empty
        else (Node.letters full letters gap s s').setAfter
          (config.ownGap (Node.letters full letters gap s s') ns)).glyphs =
        Glyph.ofRun (config.gapAfter none l (Paragraph.glyphs ns)) letters := by
      rw [← hown]
      split <;> simp [Node.setAfter_setAfter]
    rw [hglyphs, closeLast_append_singleton, Paragraph.glyphs_append, Paragraph.glyphs_cons, hnode,
      Paragraph.glyphs_nil, List.append_nil, Paragraph.glyphs_cons, Node.glyphs_letters, hsettle,
      closes_ofRun nonempty kind, List.append_assoc]
    rfl
  | @mark c gap rest s s' ns kind spaces tail ih =>
    intro src pre left hpre units abbrs
    obtain ⟨-, hunits⟩ := List.forall_mem_cons.mp units
    have hg : Glyph.isLetter ⟨c, gap⟩ = false := isLetter_of_isSentenceMark kind
    have hends : c = '.' → config.endsAbbr pre = false := fun hstop => by
      have h := abbrs [] _ _ ns rfl hstop
      rwa [List.append_nil, ← endsAbbr_congr hpre.source] at h
    have hvisit : Rule.applyAllAt Rule.all config (pre ++ Node.mark c gap s s' :: ns) pre.length =
        _ := @applyAllAt_mark config pre ns left ⟨c, gap⟩ (Paragraph.glyphs ns)
      { original := c, span := s } { original := gap, span := s' } (hpre.behind _ rfl rfl)
      tail.ahead
      (List.forall_mem_append.mpr ⟨hpre.isPiece,
        List.forall_mem_cons.mpr ⟨.char _ kind, tail.isPiece⟩⟩)
      rfl rfl rfl rfl (.inl hends)
    obtain ⟨hpieces, hglyphs⟩ := ih (hpre.mark config kind tail (config.noSpaceBeforePause &&
      left.any Glyph.isLetter && config.pauses left ⟨c, gap⟩ (Paragraph.glyphs ns).head?))
      hunits abbrs.tail
    rw [List.length_append, List.length_singleton, length_closeLast, List.append_assoc,
      List.singleton_append] at hpieces hglyphs
    rw [List.length_cons, List.range'_succ, List.foldl_cons, hvisit]
    refine ⟨hpieces, ?_⟩
    rw [hglyphs, closes_of_not_isLetter hg, Paragraph.glyphs_cons, Node.glyphs_mark,
      List.singleton_append, Config.settle, Config.settleGlyph, Config.closes]
    simp [closeLast, Node.glyphs]

/-- If a run has the space that its last letter asks for, none of the rules sets another. -/
theorem ownGap_of_gapAfter {full : Bool} {l : Glyph} (h : Sentence t ns) (hfull : n.isFull = full)
    (hgap : n.after.value = l.gap) (hl : CharKind.of l.char = .ofWidth full)
    (maximal : l.gap = [] → ∀ c, t.head? = some c → CharKind.of c ≠ .ofWidth full)
    (hkeep : config.gapAfter none l (Paragraph.glyphs ns) = l.gap) :
    config.ownGap n ns = l.gap ∧
      (config.closes (some l) (Paragraph.glyphs ns) = true → l.gap = Space.empty) := by
  cases ns with
  | nil => exact ⟨hgap, fun hclose => by cases hclose⟩
  | cons m ns =>
    cases hm : m.isContent with
    | true =>
      obtain ⟨hrun, hopen⟩ := @gapAfter_of_run config t ns full l m h hm hl maximal
      rw [hrun] at hkeep
      exact ⟨by simp [Config.ownGap, hfull, hgap, hkeep], fun hclose => by
        rw [hopen] at hclose
        cases hclose⟩
    | false =>
      rw [gapAfter_of_mark h hm (isLetter_of_kind hl)] at hkeep
      exact ⟨by simp [Config.ownGap, hm, hgap], fun hclose => by rw [← hkeep, if_pos hclose]⟩

/-- Going over a sentence that is settled from some place on does nothing there, exempt or not. -/
theorem foldl_eq_self (h : Sentence t ns) : ∀ {pre : List Node} {left : Option Glyph},
    (∀ p ∈ pre, p.IsPiece) → (∀ p ∈ pre, p.after.modified = none) → Behind pre left →
    closeLast (config.closes left (Paragraph.glyphs ns)) pre = pre →
    config.settle left (Paragraph.glyphs ns) = Paragraph.glyphs ns →
      (List.range' pre.length ns.length).foldl (Rule.applyAllAt Rule.all config) (pre ++ ns) =
        pre ++ ns := by
  induction h with
  | nil => intro pre left _ _ _ _ _; rfl
  | @run full letters gap rest s s' ns nonempty kind spaces maximal tail ih =>
    intro pre left hpre fresh behind _ hsettled
    obtain ⟨l, hl, hgap, hsettle⟩ :=
      @Glyph.settle_ofRun config letters gap full nonempty kind left (Paragraph.glyphs ns)
    -- the run keeps its space, and what comes after it is settled as well
    rw [Paragraph.glyphs_cons, Node.glyphs_letters, hsettle] at hsettled
    obtain ⟨hrun, htail⟩ := List.append_inj hsettled (by simp only [Glyph.length_ofRun])
    have hkeep : config.gapAfter none l (Paragraph.glyphs ns) = l.gap := by
      have htext := congrArg Glyph.text hrun
      rw [Glyph.text_ofRun nonempty, Glyph.text_ofRun nonempty, List.append_cancel_left_eq] at htext
      rw [htext, hgap]
    obtain ⟨hown, hclose⟩ := @ownGap_of_gapAfter config (Node.letters full letters gap s s') rest ns
      full l tail Node.isFull_letters (by simp [hgap]) hl (by rwa [hgap]) hkeep
    rw [hgap] at hown hclose
    have hpieces : ∀ m ∈ pre ++ [Node.letters full letters gap s s'], m.IsPiece :=
      List.forall_mem_append.mpr
        ⟨hpre, List.forall_mem_singleton.mpr (Node.isPiece_letters nonempty)⟩
    have hfresh : ∀ m ∈ pre ++ [Node.letters full letters gap s s'], m.after.modified = none :=
      List.forall_mem_append.mpr ⟨fresh, List.forall_mem_singleton.mpr (by simp)⟩
    have hvisit := @applyAllAt_run config pre ns (Node.letters full letters gap s s')
      Node.isContent_letters
      (by rw [List.append_cons]; exact List.forall_mem_append.mpr ⟨hpieces, tail.isPiece⟩) (by simp)
      (.inr ⟨by simpa using hown,
        by rw [List.append_cons]; exact List.forall_mem_append.mpr ⟨hfresh, tail.fresh⟩⟩)
    have hothers := @ih (pre ++ [Node.letters full letters gap s s']) (some l) hpieces hfresh
      (.snoc (Node.shows_letters hl) (by simp [Node.hasSpaceAfter, hgap])) ?_ htail
    · rw [List.length_append, List.length_singleton, ← List.append_cons] at hothers
      rw [List.length_cons, List.range'_succ, List.foldl_cons, hvisit, hown,
        Node.setAfter_letters, hothers]
    · rw [closeLast_append_singleton]
      split
      · next hclosed => rw [← hclose hclosed, Node.setAfter_letters]
      · rfl
  | @mark c gap rest s s' ns kind spaces tail ih =>
    intro pre left hpre fresh behind hclose hsettled
    have hg : Glyph.isLetter ⟨c, gap⟩ = false := isLetter_of_isSentenceMark kind
    rw [Paragraph.glyphs_cons, Node.glyphs_mark, List.singleton_append, Config.settle,
      List.cons.injEq, Config.settleGlyph, Glyph.mk.injEq] at hsettled
    obtain ⟨⟨hform, hkeep⟩, htail⟩ := hsettled
    have hpieces : ∀ m ∈ pre ++ [Node.mark c gap s s'], m.IsPiece :=
      List.forall_mem_append.mpr ⟨hpre, List.forall_mem_singleton.mpr (.char _ kind)⟩
    have hvisit := @applyAllAt_mark config pre ns left ⟨c, gap⟩ (Paragraph.glyphs ns)
      { original := c, span := s } { original := gap, span := s' } behind tail.ahead
      (by
        rw [← Node.mark, List.append_cons]
        exact List.forall_mem_append.mpr ⟨hpieces, tail.isPiece⟩)
      rfl rfl rfl rfl (.inr ⟨hform, hkeep⟩)
    rw [Paragraph.glyphs_cons, Node.glyphs_mark, List.singleton_append, Config.closes] at hclose
    have hothers := @ih (pre ++ [Node.mark c gap s s']) (some ⟨c, gap⟩) hpieces
      (List.forall_mem_append.mpr ⟨fresh, List.forall_mem_singleton.mpr rfl⟩)
      (.snoc (Node.shows_char hg rfl) rfl) (by rw [closes_of_not_isLetter hg]; rfl) htail
    rw [List.length_append, List.length_singleton, ← List.append_cons] at hothers
    have hsame : Node.char (Revisable.revise { original := c, span := s } c)
        (Revisable.revise { original := gap, span := s' } gap) = Node.mark c gap s s' := by
      simp [Node.mark, Revisable.revise]
    rw [hclose, hform, hkeep, hsame, ← Node.mark] at hvisit
    rw [List.length_cons, List.range'_succ, List.foldl_cons, hvisit, hothers]

/-- **A pass over a sentence without exempt units and abbreviations settles it.** -/
theorem glyphs_polish (h : Sentence t ns) (units : UnitFree config ns)
    (abbrs : AbbrFree config [] ns) :
    (∀ n ∈ polish config ns, n.IsPiece) ∧
      Paragraph.glyphs (polish config ns) = config.settle none (Paragraph.glyphs ns) := by
  have hpass := @glyphs_foldl config t ns h [] [] none ⟨by simp, rfl, fun _ _ _ => .nil⟩ units abbrs
  rw [List.nil_append, List.length_nil, ← List.range_eq_range', closeLast_nil,
    Paragraph.glyphs_nil, List.nil_append] at hpass
  rwa [polish, sweep, sweepInside_of_not_isGroup fun n hn => (h.isPiece n hn).isGroup]

/-- **A pass over a settled sentence does nothing.** -/
theorem polish_eq_self (h : Sentence t ns)
    (settled : config.settle none (Paragraph.glyphs ns) = Paragraph.glyphs ns) :
    polish config ns = ns := by
  have hpass := @foldl_eq_self config t ns h [] none (by simp) (by simp) .nil (closeLast_nil _)
    settled
  rw [List.nil_append, List.length_nil, ← List.range_eq_range'] at hpass
  rwa [polish, sweep, sweepInside_of_not_isGroup fun n hn => (h.isPiece n hn).isGroup]

end Pass

/-! ### Units and abbreviations in a text -/

/-- What is written in a text, without the spaces. -/
def Text.solid (t : Text) : Text := t.filter fun c => !isSpace c

/-- No exempt unit is written in a text, spaces aside. -/
def Text.IsUnitFree (config : Config) (t : Text) : Prop :=
  ∀ u ∈ config.skipZhUnits, u ≠ [] → ¬ u <:+: t.solid

/-- No abbreviation is written in a text, spaces aside. -/
def Text.IsAbbrFree (config : Config) (t : Text) : Prop :=
  ∀ a ∈ config.skipAbbrs, a ≠ [] → ¬ withStop a <:+: t.solid

theorem Glyph.solid_text {gs : List Glyph} (h : ∀ g ∈ gs, g.IsProse) :
    (text gs).solid = gs.map char := by
  induction gs with
  | nil => rfl
  | cons g gs ih =>
    obtain ⟨hg, hgs⟩ := List.forall_mem_cons.mp h
    have hgap : Text.solid g.gap = [] :=
      List.filter_eq_nil_iff.mpr fun c hc => by simp [hg.gap c hc]
    have htext : text (g :: gs) = g.char :: (g.gap ++ text gs) := rfl
    have hgs := ih hgs
    rw [Text.solid] at hgap hgs
    rw [htext, Text.solid, List.filter_cons_of_pos (by simp [not_isSpace_of_isProse hg]),
      List.filter_append, hgap, hgs]
    rfl

namespace Sentence

variable {config : Config} {t : Text} {ns : List Node}

theorem solid (h : Sentence t ns) : t.solid = (Paragraph.glyphs ns).map Glyph.char := by
  rw [← Glyph.solid_text h.isProse, h.text_glyphs]

/-- The runs of a text in which no unit is written are no units. -/
theorem unitFree (h : Sentence t ns) (units : t.IsUnitFree config) : UnitFree config ns := by
  intro n hn
  have hpiece := h.isPiece n hn
  -- the letters of the node are a part of the text
  obtain ⟨ns₁, ns₂, rfl⟩ := List.append_of_mem hn
  have hpart : n.glyphs.map Glyph.char <:+: t.solid := by
    rw [h.solid, Paragraph.glyphs_append, Paragraph.glyphs_cons, List.map_append, List.map_append,
      ← List.append_assoc]
    exact List.infix_append _ _ _
  cases hunit : Rules.isUnit config n with
  | false => rfl
  | true =>
    cases hpiece with
    | char a mark => cases hunit
    | half a nonempty =>
      rw [Node.glyphs, Glyph.map_char_ofRun] at hpart
      exact absurd hpart (units _ (List.contains_iff_mem.mp hunit) nonempty)
    | full a nonempty =>
      rw [Node.glyphs, Glyph.map_char_ofRun] at hpart
      exact absurd hpart (units _ (List.contains_iff_mem.mp hunit) nonempty)

/-- The part of an abbreviation that a node can be is what is written there. -/
theorem eq_of_abbrPiece? (h : Sentence t ns) : ∀ n ∈ ns, ∀ piece, abbrPiece? n = some piece →
    piece = n.glyphs.map Glyph.char := by
  induction h with
  | nil => intro n hn; cases hn
  | @run full letters gap rest s s' ns _ _ _ _ _ ih =>
    refine List.forall_mem_cons.mpr ⟨fun piece hpiece => ?_, ih⟩
    rw [Node.glyphs_letters, Glyph.map_char_ofRun]
    cases full with
    | false =>
      have hsome : (if gap.isEmpty then some letters else none) = some piece := hpiece
      split at hsome
      · exact (Option.some.inj hsome).symm
      · cases hsome
    | true => cases hpiece
  | @mark c gap rest s s' ns _ _ _ ih =>
    refine List.forall_mem_cons.mpr ⟨fun piece hpiece => ?_, ih⟩
    have hsome : (if gap.isEmpty then some [c] else none) = some piece := hpiece
    split at hsome
    · exact (Option.some.inj hsome).symm
    · cases hsome

end Sentence

/-- If an abbreviation is found it is written at the end of what comes before its full stop. -/
theorem exists_suffix_of_collectAbbr {nodes : List Node} {targets : List Text}
    (hpieces : ∀ n ∈ nodes, ∀ piece, abbrPiece? n = some piece →
      piece = n.glyphs.map Glyph.char) : ∀ {i : Nat} {collected : Text}, i ≤ nodes.length →
      collectAbbr nodes targets i collected = true →
        ∃ w ∈ targets, w <:+ (Paragraph.glyphs (nodes.take i)).map Glyph.char ++ collected := by
  intro i
  induction i with
  | zero => intro collected _ h; cases h
  | succ i ih =>
    intro collected hi h
    have hget : nodes[i]? = some nodes[i] := List.getElem?_eq_getElem hi
    have hwritten := hpieces _ (List.getElem_mem hi)
    rw [collectAbbr, hget, Option.bind_some] at h
    rw [List.take_succ_eq_append_getElem hi, Paragraph.glyphs_append, List.map_append,
      Paragraph.glyphs_cons, Paragraph.glyphs_nil, List.append_nil, List.append_assoc]
    cases hpiece : abbrPiece? nodes[i] with
    | none => rw [hpiece] at h; cases h
    | some piece =>
      rw [hpiece] at h
      rw [← hwritten piece hpiece]
      rcases Bool.or_eq_true_iff.mp h with hfound | hmore
      · exact ⟨_, List.contains_iff_mem.mp hfound, List.suffix_append _ _⟩
      · exact ih (Nat.le_of_succ_le hi) hmore

/-- No full stop of a text in which no abbreviation is written ends one. -/
theorem Sentence.abbrFree {config : Config} {t : Text} {ns : List Node} (h : Sentence t ns)
    (abbrs : t.IsAbbrFree config) : AbbrFree config [] ns := by
  rintro q v a rest rfl hstop
  rw [List.nil_append]
  cases hends : config.endsAbbr q with
  | false => rfl
  | true =>
    obtain ⟨w, hw, hsuffix⟩ := exists_suffix_of_collectAbbr
      (fun n hn => h.eq_of_abbrPiece? n (List.mem_append_left _ hn)) (Nat.le_refl _) hends
    rw [List.take_length] at hsuffix
    obtain ⟨abbr, habbr, rfl⟩ := List.mem_map.mp hw
    obtain ⟨hmem, hne⟩ := List.mem_filter.mp habbr
    have hvalue := h.value_of_mem (List.mem_append_right _ List.mem_cons_self)
    have hchar : (Node.char v a).glyphs.map Glyph.char = ['.'] := by
      rw [Node.glyphs, hvalue, hstop]
      rfl
    have hpart : withStop abbr <:+: t.solid := by
      rw [h.solid, Paragraph.glyphs_append, Paragraph.glyphs_cons, List.map_append,
        List.map_append, hchar, ← List.append_assoc]
      exact hsuffix.isInfix.trans (List.prefix_append _ _).isInfix
    exact absurd hpart (abbrs abbr hmem (by simpa using hne))

/-! ### Formatting again -/

/-- **One pass settles a sentence in which neither an exempt unit nor an abbreviation is written.**
What a paragraph without quotation marks and brackets has become is such a paragraph, and reading it
again and running the rules over it once more changes nothing. -/
theorem polish_polish (config : Config) {t : Text} (sentence : t.IsSentence)
    (units : t.IsUnitFree config) (abbrs : t.IsAbbrFree config) :
    ∃ ns ns', (Block.ofText t).parse = .ok ns ∧
      (Block.ofText (Node.renderAll (polish config ns))).parse = .ok ns' ∧
      polish config ns' = ns' ∧ Paragraph.edits (polish config ns') = [] ∧
      Node.renderAll (polish config ns') = Node.renderAll (polish config ns) := by
  obtain ⟨ns, hparse, hns⟩ := exists_sentence sentence
  obtain ⟨hpieces, hglyphs⟩ := glyphs_polish hns (hns.unitFree units) (hns.abbrFree abbrs)
  have hprose : ∀ g ∈ config.settle none (Paragraph.glyphs ns), g.IsProse :=
    isProse_of_mem_settle hns.isProse
  have htext : Node.renderAll (polish config ns) =
      Glyph.text (config.settle none (Paragraph.glyphs ns)) := by
    rw [renderAll_eq_text hpieces, hglyphs]
  -- the same glyphs are read again
  obtain ⟨ns', hparse', hns'⟩ := exists_sentence (Glyph.isSentence_text hprose)
  have hsame : Paragraph.glyphs ns' = config.settle none (Paragraph.glyphs ns) :=
    Glyph.text_injective hns'.isProse hprose hns'.text_glyphs
  have hpolish : polish config ns' = ns' :=
    polish_eq_self hns' (by rw [hsame]; exact @settle_settle config _ none none hns.isProse)
  refine ⟨ns, ns', hparse, ?_, hpolish, ?_, ?_⟩
  · rw [htext]
    exact hparse'
  · rw [hpolish, hns'.edits_eq_nil]
  · rw [hpolish, htext, renderAll_eq_text hns'.isPiece, hsame]

/-- The conclusion of `polish_polish` at two wide runs, which become one, and a comma after them, which
becomes a wide one and takes the space after it along. -/
theorem polish_polish_merged :
    ∃ ns ns', (Block.ofText ['中', ' ', '文', ',', ' ', 'a']).parse = .ok ns ∧
      Node.renderAll (polish .default ns) = ['中', '文', '，', 'a'] ∧
      (Block.ofText ['中', '文', '，', 'a']).parse = .ok ns' ∧
      Paragraph.edits (polish .default ns') = [] := by
  have hsentence : Text.IsSentence ['中', ' ', '文', ',', ' ', 'a'] :=
    ⟨by simp; decide, by simp; decide⟩
  have hunits : Text.IsUnitFree .default ['中', ' ', '文', ',', ' ', 'a'] := by
    rw [Text.IsUnitFree]
    decide
  have habbrs : Text.IsAbbrFree .default ['中', ' ', '文', ',', ' ', 'a'] := by
    rw [Text.IsAbbrFree]
    decide
  obtain ⟨ns, ns', hparse, hparse', -, hedits, -⟩ :=
    polish_polish .default hsentence hunits habbrs
  have hrun : ((Block.ofText ['中', ' ', '文', ',', ' ', 'a']).parse.toOption.map fun ns =>
      Node.renderAll (polish .default ns)) = some ['中', '文', '，', 'a'] := by decide +kernel
  have hrender : Node.renderAll (polish .default ns) = ['中', '文', '，', 'a'] := by
    rw [hparse] at hrun
    exact Option.some.inj hrun
  exact ⟨ns, ns', hparse, hrender, hrender ▸ hparse', hedits⟩

/-- One pass need not settle a text with a unit.  The gap before the unit is closed, the run is no
unit any more when it is read again, and a space comes after it. -/
theorem not_formatText_formatText :
    ¬ ∀ text out, formatText text .default = .ok out → formatText out .default = .ok out := by
  intro h
  have hfirst : formatText ['中', ' ', '年', 'a'] .default = .ok ['中', '年', 'a'] :=
    Except.eq_ok_of_toOption (by decide +kernel)
  have hsecond : formatText ['中', '年', 'a'] .default = .ok ['中', '年', ' ', 'a'] :=
    Except.eq_ok_of_toOption (by decide +kernel)
  have hagain := h _ _ hfirst
  rw [hsecond] at hagain
  cases hagain

end CjkProse
