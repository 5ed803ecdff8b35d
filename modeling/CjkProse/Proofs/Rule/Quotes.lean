import CjkProse.Proofs.Reading.Reread
import CjkProse.Proofs.Rule.Directed
import CjkProse.Proofs.Rule.Writes

/-!
# Quotations after a pass

A pass leaves each quotation where it is, and each apostrophe directly between its letters: no write
puts a space next to an apostrophe or revises one.  Under settings that make the marks of quotations
directed, what comes out of a pass is legible, so it is read again with the same quotations.

## Main definitions

* `Node.Kept`, `Paragraph.Kept` — what one write keeps of a node, and of a list.
* `Paragraph.Paired` — what is known of a list while the rules run over it.

## Main results

* `Write.kept` — what one write keeps.
* `Rule.isLegible_applyAll` — after the rules have run over a list, the marks of its quotations are
  directed.
* `isLegible_polish` — what comes out of a pass is legible.
* `parse_polish` — **a pass does not change how quotations nest.**
-/

namespace CjkProse

/-! ### What a write keeps -/

/-- What one write keeps of a node, with `next` after it. -/
structure Node.Kept (next : Option Node) (n n' : Node) : Prop where
  /-- A half-width run stays one. -/
  isHalf : n'.isHalf = n.isHalf
  /-- So does an apostrophe. -/
  isApostrophe : n'.IsApostrophe ↔ n.IsApostrophe
  /-- A space comes between two nodes only if both take one. -/
  tight : n.IsTight → n'.IsTight ∨ n.takesSpace = true ∧ ∃ m ∈ next, m.takesSpace = true
  /-- What stands in the node can still be told apart. -/
  legible : n.IsLegible Punct.IsDirected → n'.IsLegible Punct.IsDirected
  /-- A quotation stays between a pair of marks. -/
  pair : n.Delimited Punct.IsPair → n'.Delimited Punct.IsPair
  /-- Directed marks stay directed. -/
  directed : n.Delimited Punct.IsDirected → n'.Delimited Punct.IsDirected
  /-- The quotations of the source are the same. -/
  quotations : n'.quotations Revisable.original = n.quotations Revisable.original

/-- What one write keeps of a list of nodes. -/
inductive Paragraph.Kept : List Node → List Node → Prop
  /-- No nodes. -/
  | nil : Kept [] []
  /-- A node, and those after it. -/
  | cons {n n' : Node} {ns ns' : List Node} (head : n.Kept ns.head? n') (tail : Kept ns ns') :
      Kept (n :: ns) (n' :: ns')

theorem Node.Kept.refl (next : Option Node) (n : Node) : n.Kept next n :=
  ⟨rfl, Iff.rfl, .inl, id, id, id, rfl⟩

/-- An apostrophe that can be told from a quotation mark takes no space. -/
theorem Node.IsApostrophe.takesSpace {n : Node} (h : n.IsApostrophe) {q : Char → Char → Prop}
    (legible : n.IsLegible q) : n.takesSpace = false := by
  cases n with
  | char v a =>
    have hvalue : v.value = '\'' := by
      rcases legible.1 with ⟨hplain, -⟩ | ⟨horiginal, hfresh⟩
      · rw [show v.original = '\'' from h] at hplain
        exact absurd hplain (by decide)
      · rw [Revisable.value_of_modified hfresh, horiginal]
    have hmark : (isPause '\'' || isBracket '\'' || isLeft '\'') = false := by decide
    simpa [Node.takesSpace, Node.isWrapper, Node.isOpening, Node.isClosing, Node.isEventOf,
      Node.isContent, Node.isHalf, Node.isFull, Node.isGroup, Node.isCode, Node.isCharAnd,
      hvalue] using hmark
  | half v a => exact h.elim
  | full v a => exact h.elim
  | event e s a => exact h.elim
  | group o inner ns c a => exact h.elim

namespace Paragraph.Kept

variable {nodes nodes' : List Node}

theorem refl (nodes : List Node) : Kept nodes nodes := by
  induction nodes with
  | nil => exact .nil
  | cons n ns ih => exact .cons (.refl _ n) ih

/-- A write to one node. -/
theorem modify {f : Node → Node} {j : Nat}
    (h : ∀ n, nodes[j]? = some n → n.Kept nodes[j + 1]? (f n)) : Kept nodes (nodes.modify j f) := by
  induction nodes generalizing j with
  | nil => cases j <;> exact .nil
  | cons n ns ih =>
    cases j with
    | zero =>
      rw [List.modify_zero_cons]
      refine .cons ?_ (refl ns)
      rw [List.head?_eq_getElem?]
      exact h n rfl
    | succ j =>
      rw [List.modify_succ_cons]
      exact .cons (.refl _ n) (ih h)

/-- Putting another node in the place of a node. -/
theorem set {n n' : Node} {j : Nat} (here : nodes[j]? = some n) (h : n.Kept nodes[j + 1]? n') :
    Kept nodes (nodes.set j n') := by
  have hset : nodes.set j n' = nodes.modify j fun _ => n' := by
    refine List.ext_getElem? fun k => ?_
    rw [List.getElem?_set', List.getElem?_modify]
    split
    · rfl
    · simp
  rw [hset]
  refine modify fun m hm => ?_
  obtain rfl := Option.some.inj (here.symm.trans hm)
  exact h

theorem length (h : Kept nodes nodes') : nodes'.length = nodes.length := by
  induction h with
  | nil => rfl
  | cons _ _ ih => rw [List.length_cons, List.length_cons, ih]

/-- Each node comes from the one in its place. -/
theorem getElem? (h : Kept nodes nodes') {k : Nat} {n' : Node} (hk : nodes'[k]? = some n') :
    ∃ n next, nodes[k]? = some n ∧ n.Kept next n' := by
  induction h generalizing k with
  | nil => simp at hk
  | cons head tail ih =>
    cases k with
    | zero => cases hk; exact ⟨_, _, rfl, head⟩
    | succ k => exact ih hk

theorem head?_isHalf (h : Kept nodes nodes') :
    nodes'.head?.any Node.isHalf = nodes.head?.any Node.isHalf := by
  cases h with
  | nil => rfl
  | cons head _ => simpa using head.isHalf

theorem quotations (h : Kept nodes nodes') :
    Paragraph.quotations Revisable.original nodes' =
      Paragraph.quotations Revisable.original nodes := by
  induction h with
  | nil => rfl
  | cons head _ ih => rw [Paragraph.quotations, Paragraph.quotations, head.quotations, ih]

theorem exists_of_mem (h : Kept nodes nodes') {n' : Node} (hn' : n' ∈ nodes') :
    ∃ n ∈ nodes, ∃ next, n.Kept next n' := by
  obtain ⟨k, hk⟩ := List.mem_iff_getElem?.mp hn'
  obtain ⟨n, next, hn, hkept⟩ := h.getElem? hk
  exact ⟨n, List.mem_of_getElem? hn, next, hkept⟩

theorem forall_isLegible (h : Kept nodes nodes')
    (hlegible : ∀ n ∈ nodes, n.IsLegible Punct.IsDirected) :
    ∀ n ∈ nodes', n.IsLegible Punct.IsDirected := by
  intro n' hn'
  obtain ⟨n, hn, next, hkept⟩ := h.exists_of_mem hn'
  exact hkept.legible (hlegible n hn)

theorem isLegible (h : Kept nodes nodes') (hlegible : IsLegible Punct.IsDirected nodes) :
    IsLegible Punct.IsDirected nodes' := by
  rw [isLegible_iff] at hlegible ⊢
  intro n' hn'
  obtain ⟨n, hn, next, hkept⟩ := h.exists_of_mem hn'
  obtain ⟨hdirected, hinside⟩ := hlegible n hn
  exact ⟨hkept.directed hdirected, hkept.legible hinside⟩

/-- Apostrophes stay directly between half-width runs. -/
theorem flush (h : Kept nodes nodes')
    (hlegible : ∀ n ∈ nodes, n.IsLegible Punct.IsDirected) : ∀ {w w' : Prop},
    (∀ n ∈ nodes.head?, n.IsApostrophe → w → w') → Flush w nodes → Flush w' nodes' := by
  induction h with
  | nil => intro w w' _ _; trivial
  | @cons n n' ns ns' head tail ih =>
    intro w w' hw hflush
    obtain ⟨hn, hns⟩ := List.forall_mem_cons.mp hlegible
    refine ⟨fun hapostrophe => ?_, ih hns (fun m hm hapostrophe hword => ?_) hflush.2⟩
    · -- the apostrophe itself takes no space
      have hapostrophe := head.isApostrophe.mp hapostrophe
      obtain ⟨hword, htight, hnext⟩ := hflush.1 hapostrophe
      refine ⟨hw n rfl hapostrophe hword, (head.tight htight).resolve_right ?_, ?_⟩
      · rw [hapostrophe.takesSpace hn]
        exact fun h => Bool.false_ne_true h.1
      · rw [tail.head?_isHalf]
        exact hnext
    · -- nor does one that comes next
      obtain ⟨hhalf, htight⟩ := hword
      refine ⟨head.isHalf.trans hhalf, (head.tight htight).resolve_right ?_⟩
      rintro ⟨-, m', hm', htakes⟩
      obtain rfl := Option.mem_unique hm hm'
      rw [hapostrophe.takesSpace (hns m (List.mem_of_mem_head? hm))] at htakes
      cases htakes

end Paragraph.Kept

/-! ### What the writes keep -/

theorem Revisable.IsBlank.revise {a : Revisable Space} (h : a.IsBlank) {s : Space}
    (hs : ∀ c ∈ s, isSpace c = true) : (a.revise s).IsBlank :=
  ⟨h.1, by rw [Revisable.value_revise]; exact hs⟩

theorem Revisable.IsBlank.revert {a : Revisable Space} (h : a.IsBlank) : a.revert.IsBlank :=
  ⟨h.1, h.1⟩

/-- Writing to the space after a node. -/
theorem Node.kept_mapAfter {f : Revisable Space → Revisable Space} {next : Option Node} {n : Node}
    (blank : ∀ a : Revisable Space, a.IsBlank → (f a).IsBlank)
    (tight : n.IsTight →
      (n.mapAfter f).IsTight ∨ n.takesSpace = true ∧ ∃ m ∈ next, m.takesSpace = true) :
    n.Kept next (n.mapAfter f) := by
  cases n with
  | char v a => exact ⟨rfl, Iff.rfl, tight, fun h => ⟨h.1, blank a h.2⟩, id, id, rfl⟩
  | half v a =>
    exact ⟨rfl, Iff.rfl, tight, fun h => ⟨h.1, h.2.1, h.2.2.1, blank a h.2.2.2⟩, id, id, rfl⟩
  | full v a =>
    exact ⟨rfl, Iff.rfl, tight, fun h => ⟨h.1, h.2.1, blank a h.2.2⟩, id, id, rfl⟩
  | event e s a => exact ⟨rfl, Iff.rfl, tight, fun h => ⟨h.1, blank a h.2⟩, id, id, rfl⟩
  | group o inner ns c a =>
    refine ⟨rfl, Iff.rfl, tight, fun h => ?_, id, id, ?_⟩
    · rw [IsLegible] at h
      rw [mapAfter, IsLegible]
      exact ⟨h.1, h.2.1, h.2.2.1, blank a h.2.2.2⟩
    · rw [mapAfter, Node.quotations, Node.quotations]

theorem Node.kept_close (next : Option Node) (n : Node) :
    n.Kept next (n.setAfter Space.empty) := by
  refine kept_mapAfter (fun a h => h.revise isSpace_of_mem_empty) fun h => .inl ?_
  obtain ⟨horiginal, -⟩ := h
  refine ⟨?_, ?_⟩
  · rw [after_mapAfter, Revisable.original_revise, horiginal]
  · rw [after_mapAfter, Revisable.revise, horiginal]
    rfl

theorem Node.kept_restore (next : Option Node) (n : Node) : n.Kept next n.revertAfter := by
  refine kept_mapAfter (fun a h => h.revert) fun h => .inl ⟨?_, ?_⟩
  · rw [after_mapAfter, Revisable.original_revert, h.1]
  · rw [after_mapAfter]
    rfl

/-- Closing the inside of a quotation. -/
theorem Node.kept_closeInside (next : Option Node) (n : Node) :
    n.Kept next (Rules.closeInside n) := by
  cases n with
  | group o inner ns c a =>
    rw [Rules.closeInside]
    generalize hinner' : (if ns.head?.any (isCharAnd isRight) then inner else
      inner.revise Space.empty) = inner'
    generalize hns' : (if ns.getLast?.any (isCharAnd isLeft) then ns else
      Rules.mapLast (setAfter Space.empty) ns) = ns'
    have hblank : inner.IsBlank → inner'.IsBlank := by
      rw [← hinner']
      intro h
      split
      · exact h
      · exact h.revise isSpace_of_mem_empty
    have hkept : Paragraph.Kept ns ns' := by
      rw [← hns']
      split
      · exact .refl ns
      · exact .modify fun n _ => kept_close _ n
    refine ⟨rfl, Iff.rfl, .inl, fun h => ?_, id, id, ?_⟩
    · rw [IsLegible] at h ⊢
      obtain ⟨hinner, hflush, hlegible, ha⟩ := h
      have hinside := fun m hm => (Paragraph.isLegible_iff.mp hlegible m hm).2
      exact ⟨hblank hinner, hkept.flush hinside (fun _ _ _ => id) hflush, hkept.isLegible hlegible, ha⟩
    · rw [Node.quotations, Node.quotations, hkept.quotations]
  | char v a => exact .refl _ _
  | half v a => exact .refl _ _
  | full v a => exact .refl _ _
  | event e s a => exact .refl _ _

theorem Config.DirectsQuotes.kept_resizeQuote {config : Config} (h : config.DirectsQuotes)
    (next : Option Node) (o c : Revisable Char) (inner a : Revisable Space) (ns : List Node) :
    (Node.group o inner ns c a).Kept next
      (.group (config.resizeQuote '“' '‘' o) inner ns (config.resizeQuote '”' '’' c) a) := by
  refine ⟨rfl, Iff.rfl, .inl, fun hlegible => ?_, fun hpair => ?_, fun hdirected => ?_, ?_⟩
  · rw [Node.IsLegible] at hlegible ⊢
    exact hlegible
  · exact .inl (h.isDirected_resizeQuote hpair)
  · exact h.isDirected_resizeQuote (.inl hdirected)
  · rw [Node.quotations, Node.quotations,
      (revised_resizeQuote config rfl rfl o).original_mark,
      (revised_resizeQuote config rfl rfl c).original_mark]

theorem Node.kept_restyleQuote {config : Config} (next : Option Node) (o c : Revisable Char)
    (inner a : Revisable Space) (ns : List Node) :
    (Node.group o inner ns c a).Kept next
      (.group (config.restyleQuote o) inner ns (config.restyleQuote c) a) := by
  refine ⟨rfl, Iff.rfl, .inl, fun hlegible => ?_, Config.isPair_restyleQuote,
    Config.isDirected_restyleQuote, ?_⟩
  · rw [IsLegible] at hlegible ⊢
    exact hlegible
  · rw [Node.quotations, Node.quotations, (revised_restyleQuote config o).original_mark,
      (revised_restyleQuote config c).original_mark]

theorem Node.kept_resizeMark {config : Config} (next : Option Node) {v : Revisable Char}
    (a : Revisable Space) (hv : isSingle v.value || isBracket v.value) :
    (Node.char v a).Kept next (.char (config.resizeMark v) a) := by
  have horiginal := (revised_resizeMark config v).original_mark
  refine ⟨rfl, ?_, .inl, fun hlegible => ⟨?_, hlegible.2⟩, id, id, rfl⟩
  · change (config.resizeMark v).original = '\'' ↔ v.original = '\''
    rw [horiginal]
  · rcases hlegible.1 with ⟨hplain, hplain'⟩ | ⟨hquote, hfresh⟩
    · rw [Revisable.IsLegible, horiginal]
      refine .inl ⟨hplain, ?_⟩
      rw [isPlain_iff_canonical, Config.canonical_resizeMark]
      exact isPlain_iff_canonical.mp hplain'
    · -- an apostrophe is neither
      rw [Revisable.value_of_modified hfresh, hquote] at hv
      exact absurd hv (by decide)

theorem Node.kept_restoreStop (next : Option Node) {v : Revisable Char} (a : Revisable Space)
    (stop : v.original = '.') : (Node.char v a).Kept next (.char v.revert a.revert) := by
  have hplain : isPlain v.original = true := by
    rw [stop]
    decide
  exact ⟨rfl, Iff.rfl, fun h => .inl ⟨h.1, rfl⟩,
    fun h => ⟨.inl ⟨hplain, hplain⟩, h.2.revert⟩, id, id, rfl⟩

/-- What one write keeps. -/
theorem Write.kept {config : Config} (h : config.DirectsQuotes) {i : Nat} {nodes nodes' : List Node}
    (write : Write config i nodes nodes') : Paragraph.Kept nodes nodes' := by
  cases write with
  | close _ => exact .modify fun n _ => n.kept_close _
  | fill left right hm hn =>
    refine .modify fun n here => ?_
    obtain rfl := Option.some.inj (left.symm.trans here)
    exact Node.kept_mapAfter (fun a h => h.revise isSpace_of_mem_one) fun _ =>
      .inr ⟨hm, _, right, hn⟩
  | restore _ => exact .modify fun n _ => n.kept_restore _
  | closeInside => exact .modify fun n _ => n.kept_closeInside _
  | resizeMark here hv => exact .set here (Node.kept_resizeMark _ _ hv)
  | resizeQuote here => exact .set here (h.kept_resizeQuote _ _ _ _ _ _)
  | restyleQuote here => exact .set here (Node.kept_restyleQuote _ _ _ _ _ _)
  | restoreStop here stop => exact .set here (Node.kept_restoreStop _ _ stop)

/-! ### A list of nodes -/

/-- What is known of a list while the rules run over it.  The marks of the quotations at the indexes
in `directed` are directed already. -/
structure Paragraph.Paired (directed : Nat → Prop) (nodes : List Node) : Prop where
  /-- Apostrophes stand directly between half-width runs. -/
  flush : Flush False nodes
  /-- What stands in a node can be told apart. -/
  legible : ∀ n ∈ nodes, n.IsLegible Punct.IsDirected
  /-- Quotations stand between pairs of marks. -/
  pair : ∀ n ∈ nodes, n.Delimited Punct.IsPair
  /-- Some of these are directed. -/
  directed : ∀ k n, directed k → nodes[k]? = some n → n.Delimited Punct.IsDirected

section Pass

variable {config : Config} (h : config.DirectsQuotes) {directed : Nat → Prop} {nodes : List Node}

theorem Paragraph.Kept.paired {nodes' : List Node} (h : Kept nodes nodes')
    (hp : Paired directed nodes) : Paired directed nodes' := by
  refine ⟨h.flush hp.legible (fun _ _ _ => id) hp.flush, h.forall_isLegible hp.legible,
    fun n' hn' => ?_, fun k n' hk hn' => ?_⟩
  · obtain ⟨n, hn, next, hkept⟩ := h.exists_of_mem hn'
    exact hkept.pair (hp.pair n hn)
  · obtain ⟨n, next, hn, hkept⟩ := h.getElem? hn'
    exact hkept.directed (hp.directed k n hk hn)

include h

/-- The first rule makes the marks of the quotation at its index directed. -/
theorem Rules.paired_markWidth (hp : Paragraph.Paired directed nodes) (i : Nat) :
    Paragraph.Paired (fun k => directed k ∨ k = i) (markWidth config nodes i) := by
  have hkept : Paragraph.Paired directed (markWidth config nodes i) :=
    Rule.applyAt_writes (fun _ _ w => (w.kept h).paired) .markWidth hp
  refine ⟨hkept.flush, hkept.legible, hkept.pair, fun k n hk hn => ?_⟩
  rcases hk with hk | rfl
  · exact hkept.directed k n hk hn
  · rw [markWidth] at hn
    split at hn
    · next o inner ns c a here =>
      have hlt := (List.getElem?_eq_some_iff.mp here).1
      rw [List.getElem?_set_self hlt] at hn
      cases hn
      exact h.isDirected_resizeQuote (hp.pair _ (List.mem_of_getElem? here))
    · next v a here =>
      have hlt := (List.getElem?_eq_some_iff.mp here).1
      split at hn
      · rw [List.getElem?_set_self hlt] at hn
        cases hn
        trivial
      · rw [here] at hn
        cases hn
        trivial
    · next hgroup _ =>
      cases n with
      | group o inner ns c a => exact absurd hn (hgroup _ _ _ _ _)
      | char v a => trivial
      | half v a => trivial
      | full v a => trivial
      | event e s a => trivial

/-- All rules at one node. -/
theorem Rule.paired_applyAllAt (hp : Paragraph.Paired directed nodes) (i : Nat) :
    Paragraph.Paired (fun k => directed k ∨ k = i) (applyAllAt all config nodes i) := by
  have hrest : ∀ (rules : List Rule) {directed : Nat → Prop} {nodes : List Node},
      Paragraph.Paired directed nodes → Paragraph.Paired directed
        (rules.foldl (fun nodes r => r.applyAt config nodes i) nodes) := by
    intro rules
    induction rules with
    | nil => intro directed nodes hp; exact hp
    | cons r rules ih =>
      intro directed nodes hp
      exact ih (r.applyAt_writes (fun _ _ w => (w.kept h).paired) hp)
  rw [applyAllAt, all, List.foldl_cons]
  exact hrest _ (Rules.paired_markWidth h hp i)

/-- After the rules have run over a list, the marks of its quotations are directed. -/
theorem Rule.isLegible_applyAll (flush : Paragraph.Flush False nodes)
    (hnodes : ∀ n ∈ nodes, n.IsLegible Punct.IsDirected ∧ n.Delimited Punct.IsPair) :
    Paragraph.IsLegible Punct.IsDirected (applyAll all config nodes) ∧
      Paragraph.Flush False (applyAll all config nodes) := by
  have hrun : ∀ m, Paragraph.Paired (· < m)
      ((List.range m).foldl (applyAllAt all config) nodes) := by
    intro m
    induction m with
    | zero =>
      exact ⟨flush, fun n hn => (hnodes n hn).1, fun n hn => (hnodes n hn).2,
        fun k n hk => absurd hk (Nat.not_lt_zero k)⟩
    | succ m ih =>
      rw [List.range_succ, List.foldl_append, List.foldl_cons, List.foldl_nil]
      obtain ⟨flush, legible, pair, directed⟩ := Rule.paired_applyAllAt h ih m
      exact ⟨flush, legible, pair, fun k n hk => directed k n (Nat.lt_succ_iff_lt_or_eq.mp hk)⟩
  have hlength : (applyAll all config nodes).length = nodes.length :=
    applyAll_writes (P := fun ns => ns.length = nodes.length)
      (fun _ _ _ w hlen => (w.kept h).length.trans hlen) all rfl
  have hall : Paragraph.Paired (· < nodes.length) (applyAll all config nodes) := hrun nodes.length
  obtain ⟨flush, legible, -, directed⟩ := hall
  refine ⟨Paragraph.isLegible_iff.mpr fun n hn => ?_, flush⟩
  obtain ⟨k, hk⟩ := List.mem_iff_getElem?.mp hn
  have hlt : k < nodes.length := hlength ▸ (List.getElem?_eq_some_iff.mp hk).1
  exact ⟨directed k n hlt hk, legible n hn⟩

end Pass

/-! ### A tree -/

/-- A pass inside of a node leaves the node itself as it is. -/
theorem Node.kept_sweep (rules : List Rule) (config : Config) (n : Node) :
    (n.sweep rules config).isHalf = n.isHalf ∧
      ((n.sweep rules config).IsApostrophe ↔ n.IsApostrophe) ∧
      ((n.sweep rules config).IsTight ↔ n.IsTight) ∧
      ∀ q, (n.sweep rules config).Delimited q ↔ n.Delimited q := by
  cases n <;> (rw [Node.sweep]; exact ⟨rfl, Iff.rfl, Iff.rfl, fun _ => Iff.rfl⟩)

theorem Paragraph.flush_sweepInside (rules : List Rule) (config : Config) {ns : List Node} :
    ∀ {w : Prop}, Flush w ns → Flush w (sweepInside rules config ns) := by
  induction ns with
  | nil => intro w _; rw [sweepInside]; trivial
  | cons n ns ih =>
    intro w hflush
    obtain ⟨hhalf, hapostrophe, htight, -⟩ := n.kept_sweep rules config
    have hnext : (sweepInside rules config ns).head?.any Node.isHalf = ns.head?.any Node.isHalf := by
      cases ns with
      | nil => rw [sweepInside]
      | cons m ns =>
        rw [sweepInside]
        exact (m.kept_sweep rules config).1
    rw [sweepInside, Flush, hapostrophe, htight, hhalf, hnext]
    exact ⟨hflush.1, ih hflush.2⟩

mutual

/-- After a pass inside of a node, what stands in it is legible. -/
theorem Node.isLegible_sweep {config : Config} (h : config.DirectsQuotes) : ∀ n : Node,
    n.IsLegible Punct.IsPair → (n.sweep Rule.all config).IsLegible Punct.IsDirected
  | .group o inner ns c a, hlegible => by
    rw [Node.IsLegible] at hlegible
    obtain ⟨hinner, hflush, hns, ha⟩ := hlegible
    obtain ⟨hdirected, hflush'⟩ := Rule.isLegible_applyAll h
      (Paragraph.flush_sweepInside Rule.all config hflush)
      (Paragraph.forall_isLegible_sweepInside h ns hns)
    rw [Node.sweep, Node.IsLegible]
    exact ⟨hinner, hflush', hdirected, ha⟩
  | .char v a, hlegible => by rw [Node.sweep]; exact hlegible
  | .half v a, hlegible => by rw [Node.sweep]; exact hlegible
  | .full v a, hlegible => by rw [Node.sweep]; exact hlegible
  | .event e s a, hlegible => by rw [Node.sweep]; exact hlegible

/-- After a pass inside of nodes, what stands in them is legible. -/
theorem Paragraph.forall_isLegible_sweepInside {config : Config} (h : config.DirectsQuotes) :
    ∀ ns : List Node, Paragraph.IsLegible Punct.IsPair ns →
      ∀ n ∈ sweepInside Rule.all config ns,
        n.IsLegible Punct.IsDirected ∧ n.Delimited Punct.IsPair
  | [], _ => by rw [sweepInside]; nofun
  | n :: ns, hlegible => by
    obtain ⟨hpair, hn, hns⟩ := Paragraph.isLegible_cons.mp hlegible
    rw [sweepInside]
    exact List.forall_mem_cons.mpr
      ⟨⟨Node.isLegible_sweep h n hn, ((n.kept_sweep Rule.all config).2.2.2 _).mpr hpair⟩,
        Paragraph.forall_isLegible_sweepInside h ns hns⟩

end

/-- What comes out of a pass is legible. -/
theorem isLegible_polish {config : Config} (h : config.DirectsQuotes) {ns : Paragraph}
    (legible : Paragraph.IsLegible Punct.IsPair ns) (flush : Paragraph.Flush False ns) :
    Paragraph.IsLegible Punct.IsDirected (polish config ns) ∧
      Paragraph.Flush False (polish config ns) :=
  Rule.isLegible_applyAll h (Paragraph.flush_sweepInside Rule.all config flush)
    (Paragraph.forall_isLegible_sweepInside h ns legible)

theorem Rule.quotations_applyAll {config : Config} (h : config.DirectsQuotes) (nodes : List Node) :
    Paragraph.quotations Revisable.original (applyAll all config nodes) =
      Paragraph.quotations Revisable.original nodes :=
  applyAll_writes (P := fun ns => Paragraph.quotations Revisable.original ns =
    Paragraph.quotations Revisable.original nodes)
    (fun _ _ _ w hns => (w.kept h).quotations.trans hns) all rfl

mutual

theorem Node.quotations_sweep {config : Config} (h : config.DirectsQuotes) : ∀ n : Node,
    (n.sweep Rule.all config).quotations Revisable.original = n.quotations Revisable.original
  | .group o inner ns c a => by
    rw [Node.sweep, Node.quotations, Node.quotations, Rule.quotations_applyAll h,
      Paragraph.quotations_sweepInside h ns]
  | .char v a => by rw [Node.sweep]
  | .half v a => by rw [Node.sweep]
  | .full v a => by rw [Node.sweep]
  | .event e s a => by rw [Node.sweep]

theorem Paragraph.quotations_sweepInside {config : Config} (h : config.DirectsQuotes) :
    ∀ ns : List Node, Paragraph.quotations Revisable.original (sweepInside Rule.all config ns) =
      Paragraph.quotations Revisable.original ns
  | [] => by rw [sweepInside]
  | n :: ns => by
    rw [sweepInside, Paragraph.quotations, Paragraph.quotations, Node.quotations_sweep h n,
      Paragraph.quotations_sweepInside h ns]

end

/-- A pass leaves each quotation where it is. -/
theorem quotations_polish {config : Config} (h : config.DirectsQuotes) (ns : Paragraph) :
    Paragraph.quotations Revisable.original (polish config ns) =
      Paragraph.quotations Revisable.original ns :=
  (Rule.quotations_applyAll h _).trans (Paragraph.quotations_sweepInside h ns)

/-! ### A block -/

/-- **A pass does not change how quotations nest.**  A block is read, its paragraph goes through a
pass, and any atoms that spell what comes out, wherever they stand, are read again.  This gives no
error; the marks that are in force after the pass are paired as they were in the tree; so the
quotations are those of the tree, between the marks in force, and these are the quotations that there
were in the beginning. -/
theorem parse_polish {config : Config} (h : config.DirectsQuotes) {b : Block} {ns : Paragraph}
    (hparse : b.parse = .ok ns) {body : List Atom}
    (hbody : body.map Atom.content = Paragraph.content (Paragraph.accept (polish config ns))) :
    ∃ ms, Block.parse { b with body := body } = .ok ms ∧
      (Paragraph.quotePairs 0 ms).map QuotePair.marks =
        (Paragraph.quotePairs 0 (Paragraph.accept (polish config ns))).map QuotePair.marks ∧
      Paragraph.quotations Revisable.original ms =
        Paragraph.quotations Revisable.value (polish config ns) ∧
      Paragraph.quotations Revisable.original (polish config ns) =
        Paragraph.quotations Revisable.original ns := by
  obtain ⟨legible, flush⟩ := Block.isLegible_of_parse hparse
  obtain ⟨legible', flush'⟩ := isLegible_polish h legible flush
  have closed : b.closed = true := Block.closed_of_parse hparse
  obtain ⟨ms, hms, hpairs⟩ := Block.parse_of_isLegible (b := { b with body := body }) closed legible'
    flush' hbody
  refine ⟨ms, hms, hpairs, ?_, quotations_polish h ns⟩
  rw [Paragraph.quotations_eq_of_marks hpairs, Paragraph.quotations_accept]

/-- The conclusion of `parse_polish` at a straight quotation in a straight quotation: both come out
directed, the space before the inner one is gone, and the apostrophe belongs to neither. -/
theorem parse_polish_nested :
    let b : Block :=
      ⟨Span.point 0, ⟨.opening, "paragraph", []⟩,
        [.char '"' ⟨0, 1⟩, .char 'I' ⟨1, 2⟩, .char '\'' ⟨2, 3⟩, .char 'm' ⟨3, 4⟩, .char ' ' ⟨4, 5⟩,
          .char '\'' ⟨5, 6⟩, .char 'b' ⟨6, 7⟩, .char '\'' ⟨7, 8⟩, .char '"' ⟨8, 9⟩], true⟩
    ∃ ns ms, b.parse = .ok ns ∧
      (Atom.ofText 0 "“I'm‘b’”".toList).map Atom.content =
        Paragraph.content (Paragraph.accept (polish .default ns)) ∧
      Block.parse { b with body := Atom.ofText 0 "“I'm‘b’”".toList } = .ok ms ∧
      (Paragraph.quotePairs 0 ms).map QuotePair.marks =
        [((4, '‘'), (6, '’')), ((0, '“'), (7, '”'))] := by
  intro b
  let ns : Paragraph :=
    [.group { original := '"', span := ⟨0, 1⟩ } { original := [], span := ⟨1, 1⟩ }
      [.half { original := ['I'], span := ⟨1, 2⟩ } { original := [], span := ⟨2, 2⟩ },
        .char { original := '\'', span := ⟨2, 3⟩ } { original := [], span := ⟨3, 3⟩ },
        .half { original := ['m'], span := ⟨3, 4⟩ } { original := [' '], span := ⟨4, 5⟩ },
        .group { original := '\'', span := ⟨5, 6⟩ } { original := [], span := ⟨6, 6⟩ }
          [.half { original := ['b'], span := ⟨6, 7⟩ } { original := [], span := ⟨7, 7⟩ }]
          { original := '\'', span := ⟨7, 8⟩ } { original := [], span := ⟨8, 8⟩ }]
      { original := '"', span := ⟨8, 9⟩ } { original := [], span := ⟨9, 9⟩ }]
  have hparse : b.parse = .ok ns := rfl
  have hbody : (Atom.ofText 0 "“I'm‘b’”".toList).map Atom.content =
      Paragraph.content (Paragraph.accept (polish .default ns)) := by decide +kernel
  obtain ⟨ms, hms, hpairs, -⟩ := parse_polish Config.directsQuotes_default hparse hbody
  exact ⟨ns, ms, hparse, hbody, hms, hpairs.trans (by decide +kernel)⟩

end CjkProse
