import CjkProse.Proofs.Reading.Visible
import CjkProse.Proofs.Report.Markup
import CjkProse.Proofs.Rule.Writes

/-!
# Changes of spaces keep apart

A change replaces one visible mark by another, or the spaces in one place by others.  Between two
places where spaces are changed something visible stands, in one paragraph, in different ones and at
the ends of the text, so no change of spaces touches another.

## Main definitions

* `Diagnostic.IsProper` — a change of one mark, or of the spaces in one place.
* `VisibleBetween` — something visible stands between two offsets.
* `Separated` — changes of spaces have something visible after them, up to an offset.

## Main results

* `PlacedBlock.Fits.separated` — the changes of a paragraph are separated.
* `separated_changes` — **all changes of a document are separated.**
-/

namespace CjkProse

open Markdown (Token)

/-- A change of one visible mark, or of the spaces in one place. -/
inductive Diagnostic.IsProper (d : Diagnostic) : Prop
  /-- A mark becomes another one. -/
  | mark {c m : Char} (original : d.original = [c]) (modified : d.modified = [m])
      (hc : isSpace c = false) (hm : isSpace m = false) (ne : m ≠ c) (kind : d.kind ≠ .space)
  /-- Spaces become others. -/
  | gap (original : d.original.IsBlank) (modified : d.modified.IsBlank)
      (ne : d.modified ≠ d.original) (kind : d.kind = .space)

/-- Something visible stands in `text` between two offsets. -/
def VisibleBetween (text : Text) (a b : Int) : Prop :=
  ∃ s u c, Slice text s u ∧ a ≤ s.start ∧ s.stop ≤ b ∧ c ∈ u ∧ isSpace c = false

theorem VisibleBetween.mono {text : Text} {a b a' b' : Int} (h : VisibleBetween text a b)
    (ha : a' ≤ a) (hb : b ≤ b') : VisibleBetween text a' b' := by
  obtain ⟨s, u, c, hu, hstart, hstop, hc, visible⟩ := h
  exact ⟨s, u, c, hu, Int.le_trans ha hstart, Int.le_trans hstop hb, hc, visible⟩

/-! ### The change of a leaf -/

/-- A space has no other form. -/
theorem canonical_of_isSpace {c : Char} (h : isSpace c = true) : canonical c = c := by
  unfold canonical
  split
  · revert h; decide
  · revert h; decide
  · revert h; decide
  · revert h; decide
  · unfold halfwidth
    split
    all_goals first | rfl | (revert h; decide)

theorem Leaf.IsSound.isProper {l : Leaf} (h : l.IsSound) {d : Diagnostic} (hd : d ∈ l.edits) :
    d.IsProper ∧ (d.kind = .space → l.IsSpace) := by
  cases l with
  | mark v =>
    rw [Leaf.edits, Revisable.charEdit] at hd
    split at hd
    · cases hd
    · next m hm =>
      obtain rfl := List.mem_singleton.mp hd
      obtain ⟨hne, hcanonical⟩ := h m hm
      have hspace : isSpace m = isSpace v.original := by
        rw [← isSpace_canonical, hcanonical, isSpace_canonical]
      -- a space would have to stay as it is
      have hvisible : isSpace v.original = false := by
        by_contra hv
        rw [Bool.not_eq_false] at hv
        rw [canonical_of_isSpace hv, canonical_of_isSpace (hspace.trans hv)] at hcanonical
        exact hne hcanonical
      have hkind : EditKind.char ≠ EditKind.space := by decide
      exact ⟨.mark rfl rfl hvisible (hspace.trans hvisible) hne hkind, fun h => absurd h hkind⟩
  | run v =>
    rw [Leaf.edits, Revisable.edit, show v.modified = none from h] at hd
    cases hd
  | space v =>
    rw [Leaf.edits, Revisable.edit] at hd
    split at hd
    · cases hd
    · next m hm =>
      obtain rfl := List.mem_singleton.mp hd
      obtain ⟨hne, hspace⟩ := h.2 m hm
      exact ⟨.gap h.1 hspace hne rfl, fun _ => trivial⟩
  | event e s => cases hd

/-! ### Leaves after a pass -/

namespace Revised

variable {ls ls' : List Leaf}

/-- What does not depend on revisions holds of revised leaves. -/
theorem forall_mem {P : Leaf → Prop} (h : Revised ls ls') (hP : ∀ l : Leaf, P l.bare ↔ P l)
    (hls : ∀ l ∈ ls, P l) : ∀ l ∈ ls', P l := by
  intro l hl
  have hmem : l.bare ∈ ls.map Leaf.bare := by
    rw [← h.bare]
    exact List.mem_map_of_mem hl
  obtain ⟨l₀, hl₀, heq⟩ := List.mem_map.mp hmem
  rw [← hP, ← heq, hP]
  exact hls l₀ hl₀

/-- What comes after a space is visible after a pass, too. -/
theorem isChain_follows (h : Revised ls ls') (hls : ls.IsChain Leaf.Follows) :
    ls'.IsChain Leaf.Follows := by
  have hbare : ∀ l m : Leaf, l.bare.Follows m.bare ↔ l.Follows m := fun l m => by
    cases l <;> cases m <;> exact Iff.rfl
  have hmap : ∀ ls : List Leaf, (ls.map Leaf.bare).IsChain Leaf.Follows ↔
      ls.IsChain Leaf.Follows := fun ls => by
    rw [List.isChain_map]
    exact ⟨fun h => h.imp fun l m => (hbare l m).mp, fun h => h.imp fun l m => (hbare l m).mpr⟩
  rw [← hmap, h.bare, hmap]
  exact hls

end Revised

/-- The leaves of a node end with the space after it. -/
theorem Node.getLast?_leaves (n : Node) : n.leaves.getLast? = some (.space n.after) := by
  cases n with
  | group o inner ns c a =>
    rw [leaves, ← List.cons_append, ← List.cons_append, List.getLast?_append]
    rfl
  | char v a => rfl
  | half v a => rfl
  | full v a => rfl
  | event e s a => rfl

namespace Paragraph

variable {ns : List Node}

/-- The leaves of a paragraph do not start with a space. -/
theorem not_isSpace_of_mem_head? : ∀ l ∈ (leaves ns).head?, ¬ l.IsSpace := by
  intro l hl
  cases ns with
  | nil => cases hl
  | cons n ns =>
    rw [leaves_cons] at hl
    cases n <;> (rw [Node.leaves] at hl; cases hl; exact not_false)

/-- The last leaf of a paragraph is the space at its end. -/
theorem getLast?_leaves : (leaves ns).getLast? = ns.getLast?.map fun n => .space n.after := by
  induction ns with
  | nil => rfl
  | cons n ns ih =>
    rw [leaves_cons, List.getLast?_append, ih, List.getLast?_cons]
    cases ns.getLast? <;> simp [Node.getLast?_leaves]

/-- The changes of a paragraph are those of its leaves but the last one, if the space at its end is as
it is in the source. -/
theorem edits_eq_dropLast (h : EndsFresh ns) :
    edits ns = (leaves ns).dropLast.reverse.flatMap Leaf.edits := by
  rw [edits_eq]
  cases hlast : ns.getLast? with
  | none =>
    rw [List.getLast?_eq_none_iff.mp hlast]
    rfl
  | some n =>
    have hleaf : Leaf.space n.after ∈ (leaves ns).getLast? := by rw [getLast?_leaves, hlast]; rfl
    have hfresh : Leaf.edits (.space n.after) = [] := by
      rw [Leaf.edits, Revisable.edit, h n hlast]
    conv => lhs; rw [← List.dropLast_append_getLast? _ hleaf]
    rw [List.reverse_append, List.flatMap_append, List.reverse_singleton, List.flatMap_singleton,
      hfresh, List.nil_append]

end Paragraph

/-! ### Leaves that keep apart -/

/-- What is known of the leaves of a paragraph that stands in a text, up to the offset `b`. -/
structure Leaf.Laid (text : Text) (a b : Int) (ls : List Leaf) : Prop where
  /-- What comes after a space is visible. -/
  chain : ls.IsChain Follows
  /-- What is visible stands in the text. -/
  visible : ∀ l ∈ ls, l.IsVisible → VisibleBetween text l.span.start l.span.stop
  /-- Leaves come in order. -/
  ordered : ls.Pairwise fun l m => l.span.stop ≤ m.span.start
  /-- They come within the range. -/
  within : ∀ l ∈ ls, a ≤ l.span.start ∧ l.span.stop ≤ b

/-- After a space of a paragraph that is not at its end, something visible comes, before the next
one. -/
theorem Leaf.Laid.visibleBetween {text : Text} {a b : Int} {ls : List Leaf}
    (h : Leaf.Laid text a b ls) :
    (ls.Pairwise fun l m => l.IsSpace → m.IsSpace →
      VisibleBetween text l.span.stop m.span.start) ∧
    ∀ l ∈ ls.dropLast, l.IsSpace → VisibleBetween text l.span.stop b := by
  obtain ⟨chain, visible, ordered, within⟩ := h
  induction ls with
  | nil => exact ⟨.nil, fun l hl => by cases hl⟩
  | cons l ls ih =>
    obtain ⟨hl, hordered⟩ := List.pairwise_cons.mp ordered
    cases ls with
    | nil => exact ⟨List.pairwise_singleton _ _, fun l hl => by cases hl⟩
    | cons m ls =>
      obtain ⟨hlm, hchain⟩ := List.isChain_cons_cons.mp chain
      obtain ⟨hpairs, hlast⟩ := ih hchain (fun k hk => visible k (List.mem_cons_of_mem _ hk))
        hordered fun k hk => within k (List.mem_cons_of_mem _ hk)
      have hmem : m ∈ l :: m :: ls := by simp
      -- the leaf after a space is visible, so it is not the next space
      have hbetween : l.IsSpace → ∀ c, m.span.stop ≤ c → VisibleBetween text l.span.stop c :=
        fun hspace c hc => (visible m hmem (hlm hspace)).mono (hl m List.mem_cons_self) hc
      refine ⟨List.pairwise_cons.mpr ⟨fun k hk hspace hk' => ?_, hpairs⟩, ?_⟩
      · rcases List.mem_cons.mp hk with rfl | hk
        · have hvisible := hlm hspace
          cases k <;> first | exact hvisible.elim | exact hk'.elim
        · exact hbetween hspace _ ((List.pairwise_cons.mp hordered).1 k hk)
      · rw [List.dropLast_cons_cons]
        exact List.forall_mem_cons.mpr
          ⟨fun hspace => hbetween hspace b (within m hmem).2, hlast⟩

/-! ### The leaves of a block -/

/-- Every event among the leaves of a block has been read from it. -/
theorem Spells.mem_of_event {stop : Int} {ls : List Leaf} {as : List Atom} (h : Spells stop ls as)
    {e : Event} {s : Span} : Leaf.event e s ∈ ls → Atom.event e s ∈ as := by
  induction h with
  | nil => intro he; cases he
  | @cons stop l ls as bs head _ ih =>
    intro he
    rcases List.mem_cons.mp he with rfl | he
    · obtain rfl := head
      exact List.mem_append_left _ List.mem_cons_self
    · exact List.mem_append_right _ (ih he)

/-- No run that has been read is empty. -/
theorem Spells.run_ne_nil {stop : Int} {ls : List Leaf} {as : List Atom} (h : Spells stop ls as)
    {v : Revisable Text} : Leaf.run v ∈ ls → v.original ≠ [] := by
  induction h with
  | nil => intro hv; cases hv
  | @cons stop l ls as bs head _ ih =>
    intro hv
    rcases List.mem_cons.mp hv with rfl | hv
    · obtain ⟨c, s, run, -, rfl⟩ := head
      exact List.cons_ne_nil _ _
    · exact ih hv

/-- An event among the atoms of some events is one of these, and no text. -/
theorem mem_of_event_mem_ofEvents {es : List PlacedEvent} {e : Event} {s : Span}
    (h : .event e s ∈ Atom.ofEvents es) : ⟨e, s⟩ ∈ es ∧ e.kind ≠ .text := by
  obtain ⟨p, hp, hatom⟩ := List.mem_flatMap.mp h
  rw [Atom.ofEvent] at hatom
  split at hatom
  · obtain ⟨c, -, t, heq⟩ := Atom.exists_of_mem_ofText hatom
    cases heq
  · next hkind =>
    cases List.mem_singleton.mp hatom
    exact ⟨hp, hkind⟩

theorem VisibleBetween.lt {text : Text} {a b : Int} (h : VisibleBetween text a b) : a < b := by
  obtain ⟨s, u, c, hu, hstart, hstop, hc, -⟩ := h
  exact Int.lt_of_le_of_lt hstart (Int.lt_of_lt_of_le (hu.start_lt_stop hc) hstop)

namespace PlacedBlock.Fits

variable {text : Text} {b : PlacedBlock} {ns : Paragraph}

/-- What is visible among the leaves of a block stands in the text. -/
theorem visibleBetween (h : b.Fits text) (shown : b.IsShown text) (hparse : b.block.parse = .ok ns) :
    ∀ l ∈ Paragraph.leaves ns, l.IsVisible → VisibleBetween text l.span.start l.span.stop := by
  obtain ⟨-, hstands, -⟩ := h.leaves hparse
  intro l hl hvisible
  cases l with
  | mark v =>
    exact ⟨v.span, _, v.original, hstands _ hl, Int.le_refl _, Int.le_refl _, List.mem_cons_self,
      hvisible⟩
  | run v =>
    obtain ⟨c, hc, hspace⟩ := hvisible
    exact ⟨v.span, _, c, hstands _ hl, Int.le_refl _, Int.le_refl _, hc, hspace⟩
  | space v => exact hvisible.elim
  | event e s =>
    obtain ⟨hmem, hkind⟩ :=
      mem_of_event_mem_ofEvents ((Block.spells_of_parse hparse b.start).mem_of_event hl)
    obtain ⟨u, hu, c, hc, hspace⟩ := shown _ hmem hkind
    exact ⟨s, u, c, hu, Int.le_refl _, Int.le_refl _, hc, hspace⟩

/-- Every leaf of a block takes up some of the text, except for spaces. -/
theorem start_lt_stop (h : b.Fits text) (shown : b.IsShown text) (hparse : b.block.parse = .ok ns) :
    ∀ l ∈ Paragraph.leaves ns, ¬ l.IsSpace → l.span.start < l.span.stop := by
  obtain ⟨-, hstands, -⟩ := h.leaves hparse
  intro l hl hspace
  cases l with
  | mark v =>
    have hslice : Slice text v.span [v.original] := hstands _ hl
    exact hslice.start_lt_stop List.mem_cons_self
  | run v =>
    have hslice : Slice text v.span v.original := hstands _ hl
    obtain ⟨c, hc⟩ := List.exists_mem_of_ne_nil _
      ((Block.spells_of_parse hparse b.start).run_ne_nil hl)
    exact hslice.start_lt_stop hc
  | space v => exact absurd trivial hspace
  | event e s => exact (h.visibleBetween shown hparse _ hl trivial).lt

/-- The leaves of a block after a pass. -/
theorem laid (h : b.Fits text) (shown : b.IsShown text) (hparse : b.block.parse = .ok ns)
    (config : Config) :
    Leaf.Laid text b.start b.stop (Paragraph.leaves (polish config ns)) := by
  obtain ⟨htiles, hstands, -⟩ := h.leaves hparse
  have hrevised := revised_polish config ns
  have hstands' := hrevised.stands hstands
  rw [← hrevised.map_span] at htiles
  obtain ⟨-, hwithin, hpairs⟩ := htiles.ordered (List.forall_mem_map.mpr
    fun l hl => (hstands' l hl).start_le_stop)
  have hbare : ∀ l : Leaf,
      (l.bare.IsVisible → VisibleBetween text l.bare.span.start l.bare.span.stop) ↔
        (l.IsVisible → VisibleBetween text l.span.start l.span.stop) := fun l => by
    cases l <;> exact Iff.rfl
  exact ⟨hrevised.isChain_follows (Block.isChain_follows_of_parse hparse),
    hrevised.forall_mem hbare (h.visibleBetween shown hparse), List.pairwise_map.mp hpairs,
    fun l hl => hwithin _ (List.mem_map_of_mem hl)⟩

/-- No space of a block is at its start. -/
theorem start_lt_of_isSpace (h : b.Fits text) (shown : b.IsShown text)
    (hparse : b.block.parse = .ok ns) (config : Config) :
    ∀ l ∈ Paragraph.leaves (polish config ns), l.IsSpace → b.start < l.span.start := by
  have hlaid := h.laid shown hparse config
  have hbare : ∀ l : Leaf, (¬ l.bare.IsSpace → l.bare.span.start < l.bare.span.stop) ↔
      (¬ l.IsSpace → l.span.start < l.span.stop) := fun l => by
    cases l <;> exact Iff.rfl
  have hlt := (revised_polish config ns).forall_mem hbare (h.start_lt_stop shown hparse)
  have hhead := @Paragraph.not_isSpace_of_mem_head? (polish config ns)
  intro l hl hspace
  generalize Paragraph.leaves (polish config ns) = ls at hl hlaid hlt hhead
  cases ls with
  | nil => cases hl
  | cons m ls =>
    -- the first leaf is no space and comes before this one
    have hm := hhead m rfl
    have hfirst := (hlaid.within m List.mem_cons_self).1
    have hnonempty := hlt m List.mem_cons_self hm
    rcases List.mem_cons.mp hl with rfl | hl
    · exact absurd hspace hm
    · have := (List.pairwise_cons.mp hlaid.ordered).1 l hl
      omega

end PlacedBlock.Fits

/-! ### Changes that keep apart -/

/-- Changes in reverse document order, those of spaces after the offset `a`, each with something
visible after it, before the next one and before the offset `b`. -/
structure Separated (text : Text) (a b : Int) (ds : List Diagnostic) : Prop where
  /-- Each of them changes one mark, or the spaces in one place. -/
  proper : ∀ d ∈ ds, d.IsProper
  /-- Something visible stands between two of them. -/
  apart : ds.Pairwise fun e d => d.kind = .space → e.kind = .space →
    VisibleBetween text d.span.stop e.span.start
  /-- They come after the start. -/
  start : ∀ d ∈ ds, d.kind = .space → a < d.span.start
  /-- Something visible comes after them. -/
  stop : ∀ d ∈ ds, d.kind = .space → VisibleBetween text d.span.stop b

theorem Separated.nil (text : Text) (a b : Int) : Separated text a b [] :=
  ⟨by simp, .nil, by simp, by simp⟩

/-- Changes within one range come after those within an earlier one. -/
theorem Separated.append {text : Text} {a b c d : Int} {es fs : List Diagnostic}
    (h : Separated text c d es) (h' : Separated text a b fs) (hbc : b ≤ c) (hac : a ≤ c)
    (hbd : b ≤ d) : Separated text a d (es ++ fs) := by
  refine ⟨List.forall_mem_append.mpr ⟨h.proper, h'.proper⟩, ?_,
    List.forall_mem_append.mpr ⟨fun e he hspace => ?_, h'.start⟩,
    List.forall_mem_append.mpr ⟨h.stop, fun f hf hspace => ?_⟩⟩
  · refine List.pairwise_append.mpr ⟨h.apart, h'.apart, fun e he f hf hf' he' => ?_⟩
    have := h.start e he he'
    exact (h'.stop f hf hf').mono (Int.le_refl _) (by omega)
  · have := h.start e he hspace
    omega
  · exact (h'.stop f hf hspace).mono (Int.le_refl _) hbd

theorem Separated.mono {text : Text} {a b a' b' : Int} {ds : List Diagnostic}
    (h : Separated text a b ds) (ha : a' ≤ a) (hb : b ≤ b') : Separated text a' b' ds :=
  ⟨h.proper, h.apart, fun d hd hspace => Int.lt_of_le_of_lt ha (h.start d hd hspace),
    fun d hd hspace => (h.stop d hd hspace).mono (Int.le_refl _) hb⟩

/-- **The changes of a paragraph are separated.** -/
theorem PlacedBlock.Fits.separated {text : Text} {b : PlacedBlock} (h : b.Fits text)
    (shown : b.IsShown text) (config : Config) {ns : Paragraph} (hparse : b.block.parse = .ok ns) :
    Separated text b.start b.stop (Paragraph.edits (polish config ns)) := by
  obtain ⟨-, -, hfresh⟩ := h.leaves hparse
  have hlaid := h.laid shown hparse config
  have hstart := h.start_lt_of_isSpace shown hparse config
  have hsound := (revised_polish config ns).sound fun l hl => (hfresh l hl).isSound
  rw [Paragraph.edits_eq_dropLast (endsFresh_polish config (endsFresh_of_isFresh hfresh))]
  generalize Paragraph.leaves (polish config ns) = ls at hlaid hstart hsound
  obtain ⟨hapart, hstop⟩ := hlaid.visibleBetween
  -- a change tells of which leaf it is
  have hleaf : ∀ d ∈ ls.dropLast.reverse.flatMap Leaf.edits, ∃ l ∈ ls.dropLast, d ∈ l.edits := by
    intro d hd
    obtain ⟨l, hl, hd⟩ := List.mem_flatMap.mp hd
    exact ⟨l, List.mem_reverse.mp hl, hd⟩
  have hproper : ∀ l ∈ ls.dropLast, ∀ d ∈ l.edits, d.IsProper ∧ (d.kind = .space → l.IsSpace) :=
    fun l hl d hd => (hsound l (List.dropLast_subset _ hl)).isProper hd
  refine ⟨fun d hd => ?_, ?_, fun d hd hspace => ?_, fun d hd hspace => ?_⟩
  · obtain ⟨l, hl, hd⟩ := hleaf d hd
    exact (hproper l hl d hd).1
  · rw [List.pairwise_flatMap]
    refine ⟨fun l _ => ?_, ?_⟩
    · rcases l.edits_cases with hnone | ⟨d, hd, -⟩
      · rw [hnone]; exact .nil
      · rw [hd]; exact List.pairwise_singleton _ _
    · rw [List.pairwise_reverse]
      have hpairs := hapart.sublist (List.dropLast_sublist ls)
      refine List.Pairwise.imp_of_mem (fun {l m} hl hm hlm e he d hd hd' he' => ?_) hpairs
      rw [Leaf.span_of_mem_edits hd, Leaf.span_of_mem_edits he]
      exact hlm ((hproper l hl d hd).2 hd') ((hproper m hm e he).2 he')
  · obtain ⟨l, hl, hd⟩ := hleaf d hd
    rw [Leaf.span_of_mem_edits hd]
    exact hstart l (List.dropLast_subset _ hl) ((hproper l hl d hd).2 hspace)
  · obtain ⟨l, hl, hd⟩ := hleaf d hd
    rw [Leaf.span_of_mem_edits hd]
    exact hstop l hl ((hproper l hl d hd).2 hspace)

/-- The changes of some blocks are separated. -/
theorem separated_paragraphEdits {text : Text} (config : Config) {stop : Int} :
    ∀ {bs : List PlacedBlock} {start : Int}, (∀ b ∈ bs, b.Fits text) →
      (∀ b ∈ bs, b.IsShown text) → (bs.Pairwise fun b c => b.stop ≤ c.start) →
      (∀ b ∈ bs, start ≤ b.start ∧ b.stop ≤ stop) →
        Separated text start stop (paragraphEdits config bs) := by
  intro bs
  induction bs with
  | nil => intro start _ _ _ _; exact .nil text start stop
  | cons b bs ih =>
    intro start hfits hshown horder hwithin
    have hb := hfits b List.mem_cons_self
    obtain ⟨hstart, hstop⟩ := hwithin b List.mem_cons_self
    obtain ⟨hafter, horder'⟩ := List.pairwise_cons.mp horder
    have hrest := @ih b.stop (fun c hc => hfits c (List.mem_cons_of_mem _ hc))
      (fun c hc => hshown c (List.mem_cons_of_mem _ hc)) horder'
      fun c hc => ⟨hafter c hc, (hwithin c (List.mem_cons_of_mem _ hc)).2⟩
    rw [paragraphEdits_cons]
    apply Separated.mono _ hstart (Int.le_refl _)
    apply hrest.append _ (Int.le_refl _) hb.start_le_stop hstop
    split
    · next ns hparse => exact hb.separated (hshown b List.mem_cons_self) config hparse
    · exact .nil _ _ _

/-- After the spaces at the start of a text that are removed something visible comes. -/
theorem visibleBetween_of_mem_trimEdits {text : Text} (hblank : ¬ text.IsBlank) {config : Config}
    {edges : Option Span} {d : Diagnostic} (hd : d ∈ (trimEdits text config edges).2) {s : Span}
    {u : Text} (hu : Slice text s u) (hlt : d.span.stop < s.start) :
    VisibleBetween text d.span.stop s.start := by
  obtain ⟨e, -, hstart, rfl⟩ := (exists_of_mem_trimEdits hblank).2 hd
  obtain ⟨c, rest, htext, hc⟩ := (edgeSpaces_maximal hblank).1
  have hslice : Slice text ⟨e.start, e.start + Text.byteLength [c]⟩ [c] :=
    ⟨(edgeSpaces text).1, rest, by simpa using htext, by rw [hstart]⟩
  exact ⟨_, _, c, hslice, Int.le_refl _, hslice.stop_le_start hu hlt, List.mem_cons_self, hc⟩

/-- Removing some spaces is a change of spaces. -/
theorem isProper_of_mem_trimEdit {space : Space} {span : Span} (hblank : Text.IsBlank space)
    {d : Diagnostic} (hd : d ∈ trimEdit space span) : d.IsProper := by
  obtain ⟨hne, rfl⟩ := mem_trimEdit.mp hd
  exact .gap hblank (by simp [Text.IsBlank]) hne.symm rfl

/-- At each end of a text there is one change at most. -/
theorem pairwise_trimEdits {R : Diagnostic → Diagnostic → Prop} (text : Text) (config : Config)
    (edges : Option Span) : (trimEdits text config edges).1.Pairwise R ∧
      (trimEdits text config edges).2.Pairwise R := by
  have hone : ∀ (space : Space) (span : Span), (trimEdit space span).Pairwise R := by
    intro space span
    rw [trimEdit]
    split
    · exact .nil
    · exact List.pairwise_singleton _ _
  exact ⟨hone _ _, hone _ _⟩

/-- What is removed at the ends of a text that is not blank starts and stops where the prose stops and
starts. -/
theorem exists_edges_of_trims {text : Text} (hblank : ¬ text.IsBlank) (config : Config) {e : Span}
    {edges : Option Span} (hedges : edges = some e) :
    (∀ d ∈ (trimEdits text config edges).1, d.IsProper ∧ d.span.start = e.stop ∧
      e.stop = (Text.byteLength text : Int) - Text.byteLength (edgeSpaces text).2) ∧
    ∀ d ∈ (trimEdits text config edges).2, d.IsProper ∧ d.span.stop = e.start ∧
      e.start = Text.byteLength (edgeSpaces text).1 := by
  obtain ⟨core, -, -, hlead, htrail⟩ := edgeSpaces_spec hblank
  obtain ⟨hend, hstart⟩ := (trimEdits_spec hblank config edges).2 e hedges
  constructor
  · intro d hd
    have hchanges := (hend.sound d hd).changes
    obtain ⟨e', hedges', hstop, rfl⟩ := (exists_of_mem_trimEdits hblank).1 hd
    cases hedges.symm.trans hedges'
    exact ⟨.gap htrail (by simp [Text.IsBlank]) hchanges rfl, rfl, hstop⟩
  · intro d hd
    have hchanges := (hstart.sound d hd).changes
    obtain ⟨e', hedges', hfirst, rfl⟩ := (exists_of_mem_trimEdits hblank).2 hd
    cases hedges.symm.trans hedges'
    exact ⟨.gap hlead (by simp [Text.IsBlank]) hchanges rfl, rfl, hfirst⟩

/-- The changes of a text that is not blank. -/
theorem separated_changes_of_not_blank {text : Text} {tokens : List Token} {bs : List PlacedBlock}
    (h : Prose text tokens bs) (shown : ∀ t ∈ tokens, t.IsShown) (hblank : ¬ text.IsBlank)
    (config : Config) :
    (∀ d ∈ changes text config bs (blockEdges (markupEvents text tokens)), d.IsProper) ∧
      (changes text config bs (blockEdges (markupEvents text tokens))).Pairwise fun e d =>
        d.kind = .space → e.kind = .space → VisibleBetween text d.span.stop e.span.start := by
  have hat := (editsWithin_changes h hblank config).isAt
  rw [changes] at hat ⊢
  obtain ⟨hedges, rfl⟩ | ⟨e, hedges, hencloses⟩ := h.edges
  · rw [(trimEdits_spec hblank config _).1 hedges]
    exact ⟨by simp [paragraphEdits, paragraphsOf], by simp [paragraphEdits, paragraphsOf]⟩
  have hmid := separated_paragraphEdits config h.fits (h.shown shown) h.ordered hencloses.within
  obtain ⟨hend, hstart⟩ := exists_edges_of_trims hblank config hedges
  obtain ⟨hpairsEnd, hpairsStart⟩ := @pairwise_trimEdits (fun e d => d.kind = .space →
    e.kind = .space → VisibleBetween text d.span.stop e.span.start) text config
    (blockEdges (markupEvents text tokens))
  refine ⟨?_, List.pairwise_append.mpr ⟨List.pairwise_append.mpr ⟨hpairsEnd, hmid.apart, ?_⟩,
    hpairsStart, ?_⟩⟩
  · simp only [List.forall_mem_append]
    exact ⟨⟨fun d hd => (hend d hd).1, hmid.proper⟩, fun d hd => (hstart d hd).1⟩
  · -- the prose and the end of the text
    intro t ht d hd hspace _
    rw [(hend t ht).2.1]
    exact hmid.stop d hd hspace
  · -- the start of the text and what comes later
    intro t ht d hd _ hspace
    refine visibleBetween_of_mem_trimEdits hblank hd (hat t (List.mem_append_left _ ht)) ?_
    obtain ⟨-, hstop, hfirst⟩ := hstart d hd
    rw [hstop]
    rcases List.mem_append.mp ht with ht | ht
    · obtain ⟨-, htstart, hlast⟩ := hend t ht
      obtain ⟨core, hcore, htext, -, -⟩ := edgeSpaces_spec hblank
      obtain ⟨c, hc⟩ := List.exists_mem_of_ne_nil _ hcore
      have hpos := Text.byteLength_pos_of_mem hc
      have hlength := congrArg Text.byteLength htext
      simp only [Text.byteLength_append] at hlength
      omega
    · exact hmid.start t ht hspace

/-- **All changes of a document are separated.** -/
theorem separated_changes {text : Text} {tokens : List Token} {bs : List PlacedBlock}
    (h : Prose text tokens bs) (shown : ∀ t ∈ tokens, t.IsShown) (config : Config) :
    (∀ d ∈ changes text config bs (blockEdges (markupEvents text tokens)), d.IsProper) ∧
      (changes text config bs (blockEdges (markupEvents text tokens))).Pairwise fun e d =>
        d.kind = .space → e.kind = .space → VisibleBetween text d.span.stop e.span.start := by
  by_cases hblank : text.IsBlank
  · -- a blank text has one change at most
    obtain ⟨hend, hstart⟩ := trimEdits_of_blank hblank config (blockEdges (markupEvents text tokens))
    have hnone : paragraphEdits config bs = [] :=
      paragraphEdits_eq_nil_of_blank_text h.fits (h.shown shown) hblank config
    rw [changes, hend, hnone, List.nil_append, List.nil_append]
    refine ⟨fun d hd => ?_, (pairwise_trimEdits text config _).2⟩
    rcases hstart with hstart | hstart
    · rw [hstart] at hd
      cases hd
    · rw [hstart] at hd
      exact isProper_of_mem_trimEdit hblank hd
  · exact separated_changes_of_not_blank h shown hblank config

end CjkProse
