import CjkProse.Diagnostic
import CjkProse.Proofs.Reading.QuoteScan
import CjkProse.Proofs.Rule.Pass

/-!
# Paragraphs without visible text

The atoms of a paragraph in a blank text are spaces and events.  The nodes read from them are the
same, one for each event and for each space that comes first, and the only rule that finds anything
to do there is the one that empties the spaces inside of wrappers.

## Main definitions

* `Node.BlankFrom` — a node read from spaces and events.
* `Node.IsBlank` — a space, or an event other than code.
* `Node.OnlyCloses` — the space after a node is emptied if it is revised at all.

## Main results

* `blankFrom_of_parse` — what is read from spaces and events.
* `Rule.applyAt_of_blank` — what the rules do there.
* `modified_eq_nil_of_blank`, `edits_eq_nil_of_spaces` — the changes that a pass makes there.
-/

namespace CjkProse

theorem kind_of_isSpace {c : Char} (h : isSpace c = true) : CharKind.of c = .space :=
  beq_iff_eq.mp h

/-! ### Reading spaces and events -/

/-- A node as it is read from atoms `as` that are spaces and events. -/
inductive Node.BlankFrom (as : List Atom) : Node → Prop
  /-- A space that no other node holds. -/
  | char {v : Revisable Char} {a : Revisable Space} (space : isSpace v.original = true)
      (fresh : v.modified = none) (after : a.modified = none) : BlankFrom as (.char v a)
  /-- An event. -/
  | event {e : Event} {s : Span} {a : Revisable Space} (mem : .event e s ∈ as)
      (after : a.modified = none) : BlankFrom as (.event e s a)

theorem Node.BlankFrom.mono {as bs : List Atom} (h : ∀ a ∈ as, a ∈ bs) {n : Node}
    (hn : n.BlankFrom as) : n.BlankFrom bs := by
  cases hn with
  | char space fresh after => exact .char space fresh after
  | event mem after => exact .event (h _ mem) after

theorem blankFrom_of_step {fuel : Nat} {r r' : Reader} {n : Node} (h : Node.Step fuel r n r')
    (hblank : ∀ c s, Atom.char c s ∈ r.rest → isSpace c = true) : n.BlankFrom r.rest := by
  cases h with
  | event head _ => exact .event (by simp [head]) rfl
  | @run c s rest k head kind letter =>
    -- a space is no letter
    have hspace := hblank c s (by simp [head])
    rw [isSpace, kind] at hspace
    rcases letter with rfl | rfl <;> cases hspace
  | @group c d closer s t rest rest' ns r₁ head _ opens _ _ =>
    -- a space opens nothing
    have hspace := hblank c s (by simp [head])
    have hplain : isPlain c = true := isPlain_of_kind (.inl (kind_of_isSpace hspace))
    rw [closerOf_of_isPlain hplain] at opens
    cases opens
  | @char c s rest head _ _ _ => exact .char (hblank c s (by simp [head])) rfl rfl

theorem blankFrom_of_readAllFuel {fuel : Nat} {closer : Option Char} {opener : Span}
    {r r' : Reader} {ns : List Node} (h : Node.readAllFuel fuel closer opener r = .ok (ns, r'))
    (hblank : ∀ c s, Atom.char c s ∈ r.rest → isSpace c = true) : ∀ n ∈ ns, n.BlankFrom r.rest := by
  refine Node.readAllFuel_induction (P := fun _ _ r ns _ =>
    (∀ c s, Atom.char c s ∈ r.rest → isSpace c = true) → ∀ n ∈ ns, n.BlankFrom r.rest) ?_ ?_ h
      hblank
  · intro closer opener r _ _ n hn
    cases hn
  · intro fuel closer opener r n r₁ ns r' _ hstep _ others hblank
    -- what is still to be read is a part of what was to be read before
    obtain ⟨a, as, hpass⟩ := hstep.passes
    have hmem : ∀ b ∈ r₁.rest, b ∈ r.rest := by
      intro b hb
      rw [hpass.rest]
      exact List.mem_append_right _ hb
    have hrest := others fun c s hc => hblank c s (hmem _ hc)
    exact List.forall_mem_cons.mpr ⟨blankFrom_of_step hstep hblank,
      fun m hm => (hrest m hm).mono hmem⟩

/-- What is read from a block of spaces and events. -/
theorem blankFrom_of_parse {b : Block} {ns : Paragraph} (h : b.parse = .ok ns)
    (hblank : ∀ c s, Atom.char c s ∈ b.body → isSpace c = true) :
    ∀ n ∈ ns, n.BlankFrom b.body := by
  obtain ⟨fuel, opener, r, hread⟩ := Block.readAllFuel_of_parse h
  exact blankFrom_of_readAllFuel hread hblank

/-! ### What the rules do there -/

/-- A space, or an event other than code. -/
def Node.IsBlank : Node → Prop
  | .char v _ => isSpace v.original = true ∧ v.modified = none
  | .event e _ _ => e.kind ≠ .code
  | _ => False

theorem Node.isBlank_mapAfter {f : Revisable Space → Revisable Space} {n : Node} :
    (n.mapAfter f).IsBlank ↔ n.IsBlank := by
  cases n <;> exact Iff.rfl

section Blank

variable {n : Node}

theorem Node.IsBlank.isContent (h : n.IsBlank) :
    n.isHalf = false ∧ n.isFull = false ∧ n.isContent = false := by
  cases n <;> first | exact ⟨rfl, rfl, rfl⟩ | exact h.elim

theorem Node.IsBlank.isGroup (h : n.IsBlank) : n.isGroup = false := by
  cases n <;> first | rfl | exact h.elim

theorem Node.IsBlank.isCode (h : n.IsBlank) : n.isCode = false := by
  cases n with
  | event e s a =>
    have hkind : e.kind ≠ .code := h
    simpa [Node.isCode, Node.isEventOf] using hkind
  | char v a => rfl
  | half v a => rfl
  | full v a => rfl
  | group o inner ns c a => rfl

end Blank

/-- A space is no mark. -/
theorem isMark_of_isSpace {c : Char} (h : isSpace c = true) :
    isPunctuation c = false ∧ isPause c = false ∧ isBracket c = false ∧ c ≠ '.' := by
  have hkind := kind_of_isSpace h
  refine ⟨?_, ?_, ?_, ?_⟩
  · simp [isPunctuation, isChinesePunctuation, isWesternPunctuation, hkind, CharKind.isChinese,
      CharKind.isWestern]
  · simp [isPause, hkind, CharKind.isPause]
  · simp [isBracket, hkind, CharKind.isBracket]
  · rintro rfl
    exact absurd h (by decide)

/-- Where everything is blank, only the rule about wrappers does anything. -/
theorem Rule.applyAt_of_blank {nodes : List Node} (h : ∀ n ∈ nodes, n.IsBlank) {r : Rule}
    (hr : r ≠ .wrapperSpace) (config : Config) (i : Nat) : r.applyAt config nodes i = nodes := by
  have hi : ∀ {n : Node}, nodes[i]? = some n → n.IsBlank := fun hn =>
    h _ (List.mem_of_getElem? hn)
  -- a mark at the place would be a space
  have hmark : ∀ {v : Revisable Char} {a : Revisable Space}, nodes[i]? = some (.char v a) →
      isPunctuation v.value = false ∧ isPause v.value = false ∧ isBracket v.value = false ∧
        v.original ≠ '.' := by
    intro v a hv
    obtain ⟨hspace, hfresh⟩ := hi hv
    have hvalue : v.value = v.original := by rw [Revisable.value, hfresh]; rfl
    rw [hvalue]
    exact isMark_of_isSpace hspace
  cases r with
  | markWidth =>
    rw [applyAt, Rules.markWidth]
    split
    · next hn => exact (hi hn).elim
    · next hn => simp [(hmark hn).1]
    · rfl
  | quoteStyle =>
    rw [applyAt, Rules.quoteStyle]
    split
    · next hn => exact (hi hn).elim
    · rfl
  | letterSpace =>
    rw [applyAt, Rules.letterSpace]
    split
    · next hn _ =>
      obtain ⟨hhalf, hfull, hcontent⟩ := (hi hn).isContent
      simp [hhalf, hfull, hcontent]
    · rfl
  | pauseSpace =>
    rw [applyAt, Rules.pauseSpace]
    split
    · next hn => simp [(hmark hn).2.1]
    · rfl
  | quoteSpace =>
    rw [applyAt, Rules.quoteSpace]
    split
    · next hn => exact (hi hn).elim
    · rfl
  | bracketSpace =>
    rw [applyAt, Rules.bracketSpace]
    split
    · next hn => simp [(hmark hn).2.2.1]
    · rfl
  | codeSpace =>
    rw [applyAt, Rules.codeSpace]
    cases hn : nodes[i]? with
    | none => rfl
    | some n => simp [(hi hn).isCode]
  | wrapperSpace => exact absurd rfl hr
  | abbreviation =>
    rw [applyAt, Rules.abbreviation]
    split
    · next hn => simp [(hmark hn).2.2.2]
    · rfl
  | numberUnit =>
    rw [applyAt, Rules.numberUnit]
    cases hn : nodes[i]? with
    | none => rfl
    | some n =>
      have hnumber : Rules.isNumber n = false := by
        cases n <;> first | rfl | exact (hi hn).elim
      simp [hnumber]

/-- Where there is no wrapper, the rule about wrappers does nothing. -/
theorem Rules.wrapperSpace_of_not_wrapper {nodes : List Node}
    (h : ∀ n ∈ nodes, n.isWrapper = false) (config : Config) (i : Nat) :
    wrapperSpace config nodes i = nodes := by
  rw [wrapperSpace]
  split
  · next current next hc hn =>
    have hcurrent := h current (List.mem_of_getElem? hc)
    have hnext := h next (List.mem_of_getElem? hn)
    simp only [Node.isWrapper, Bool.or_eq_false_iff] at hcurrent hnext
    have hinside : isInsideWrapper current next = false := by
      simp [isInsideWrapper, hcurrent, hnext]
    simp [hinside, closeGap]
  · rfl

/-! ### Passes -/

/-- The space after a node is emptied if it is revised at all. -/
def Node.OnlyCloses (n : Node) : Prop :=
  n.after.modified = none ∨ n.after.modified = some Space.empty

theorem Node.onlyCloses_setAfter_empty (n : Node) : (n.setAfter Space.empty).OnlyCloses := by
  rw [OnlyCloses, Node.setAfter, Node.after_mapAfter, Revisable.revise]
  split
  · exact .inl rfl
  · exact .inr rfl

theorem forall_mem_modify {P : Node → Prop} {f : Node → Node} {ns : List Node} {i : Nat}
    (h : ∀ n ∈ ns, P n) (hf : ∀ n, P n → P (f n)) : ∀ n ∈ ns.modify i f, P n := by
  intro n hn
  obtain ⟨k, hk⟩ := List.mem_iff_getElem?.mp hn
  rw [List.getElem?_modify] at hk
  obtain ⟨m, hm, rfl⟩ := Option.map_eq_some_iff.mp hk
  have hP := h m (List.mem_of_getElem? hm)
  split
  · exact hf m hP
  · exact hP

/-- Without quotations a pass has nothing to do inside of the nodes. -/
theorem sweepInside_of_not_isGroup {rules : List Rule} {config : Config} : ∀ {ns : List Node},
    (∀ n ∈ ns, n.isGroup = false) → sweepInside rules config ns = ns := by
  intro ns
  induction ns with
  | nil => intro _; rw [sweepInside]
  | cons n ns ih =>
    intro h
    rw [sweepInside, ih fun m hm => h m (List.mem_cons_of_mem _ hm)]
    have hn := h n List.mem_cons_self
    cases n with
    | group o inner ns c a => cases hn
    | char v a => rw [Node.sweep]
    | half v a => rw [Node.sweep]
    | full v a => rw [Node.sweep]
    | event e s a => rw [Node.sweep]

/-- A pass over blank nodes only empties spaces. -/
theorem onlyCloses_of_polish {config : Config} {ns : Paragraph}
    (h : ∀ n ∈ ns, n.IsBlank ∧ n.OnlyCloses) :
    ∀ n ∈ polish config ns, n.IsBlank ∧ n.OnlyCloses := by
  rw [polish, sweep, sweepInside_of_not_isGroup fun n hn => (h n hn).1.isGroup]
  refine Rule.applyAll_induction (P := fun ns => ∀ n ∈ ns, n.IsBlank ∧ n.OnlyCloses)
    (fun r _ nodes i hnodes => ?_) h
  by_cases hr : r = .wrapperSpace
  · subst hr
    rw [Rule.applyAt, Rules.wrapperSpace]
    split
    · -- it sets a space to nothing, or leaves the nodes as they are
      rw [closeGap]
      split
      · refine forall_mem_modify hnodes fun n hn => ⟨Node.isBlank_mapAfter.mpr hn.1, ?_⟩
        exact Node.onlyCloses_setAfter_empty n
      · exact hnodes
    · exact hnodes
  · rw [Rule.applyAt_of_blank (fun n hn => (hnodes n hn).1) hr]
    exact hnodes

/-- A pass leaves a list of nothing but spaces as it is. -/
theorem polish_of_spaces {config : Config} {ns : Paragraph}
    (h : ∀ n ∈ ns, n.IsBlank ∧ n.isWrapper = false) : polish config ns = ns := by
  rw [polish, sweep, sweepInside_of_not_isGroup fun n hn => (h n hn).1.isGroup]
  refine Rule.applyAll_induction (P := fun ms => ms = ns) (fun r _ nodes i hnodes => ?_) rfl
  subst hnodes
  by_cases hr : r = .wrapperSpace
  · subst hr
    exact Rules.wrapperSpace_of_not_wrapper (fun n hn => (h n hn).2) config i
  · exact Rule.applyAt_of_blank (fun n hn => (h n hn).1) hr config i

/-! ### Changes -/

/-- The only change of a blank node is that of the space after it. -/
theorem Node.IsBlank.edits {n : Node} (h : n.IsBlank) {d : Diagnostic} (hd : d ∈ n.edits) :
    n.after.modified = some d.modified := by
  cases n with
  | char v a =>
    rw [Node.edits, Revisable.charEdit, h.2, List.append_nil, Revisable.edit] at hd
    split at hd
    · cases hd
    · next m hm =>
      obtain rfl := List.mem_singleton.mp hd
      exact hm
  | event e s a =>
    rw [Node.edits, Revisable.edit] at hd
    split at hd
    · cases hd
    · next m hm =>
      obtain rfl := List.mem_singleton.mp hd
      exact hm
  | half v a => exact h.elim
  | full v a => exact h.elim
  | group o inner ns c a => exact h.elim

theorem Paragraph.exists_of_mem_edits {d : Diagnostic} : ∀ {ns : List Node},
    d ∈ Paragraph.edits ns → ∃ n ∈ ns, d ∈ n.edits := by
  intro ns
  induction ns with
  | nil => intro h; simp [Paragraph.edits] at h
  | cons n ns ih =>
    intro h
    rw [Paragraph.edits, List.mem_append] at h
    rcases h with h | h
    · obtain ⟨m, hm, hd⟩ := ih h
      exact ⟨m, List.mem_cons_of_mem _ hm, hd⟩
    · exact ⟨n, List.mem_cons_self, h⟩

/-- A pass over what has been read from spaces and events other than code removes some spaces. -/
theorem modified_eq_nil_of_blank {config : Config} {as : List Atom} {ns : Paragraph}
    (h : ∀ n ∈ ns, n.BlankFrom as) (hcode : ∀ e s, Atom.event e s ∈ as → e.kind ≠ .code) :
    ∀ d ∈ Paragraph.edits (polish config ns), d.modified = [] := by
  have hblank : ∀ n ∈ ns, n.IsBlank ∧ n.OnlyCloses := by
    intro n hn
    cases h n hn with
    | char space fresh after => exact ⟨⟨space, fresh⟩, .inl after⟩
    | event mem after => exact ⟨hcode _ _ mem, .inl after⟩
  intro d hd
  obtain ⟨n, hn, hd⟩ := Paragraph.exists_of_mem_edits hd
  obtain ⟨hn, hcloses⟩ := onlyCloses_of_polish hblank n hn
  have hafter := hn.edits hd
  rcases hcloses with hnone | hempty
  · rw [hnone] at hafter
    cases hafter
  · rw [hempty] at hafter
    exact (Option.some.inj hafter).symm

/-- A pass over what has been read from spaces alone changes nothing. -/
theorem edits_eq_nil_of_spaces {config : Config} {as : List Atom} {ns : Paragraph}
    (h : ∀ n ∈ ns, n.BlankFrom as) (hevent : ∀ e s, Atom.event e s ∉ as) :
    Paragraph.edits (polish config ns) = [] := by
  have hspaces : ∀ n ∈ ns, n.IsBlank ∧ n.isWrapper = false ∧ n.after.modified = none := by
    intro n hn
    cases h n hn with
    | char space fresh after => exact ⟨⟨space, fresh⟩, rfl, after⟩
    | event mem _ => exact absurd mem (hevent _ _)
  rw [polish_of_spaces fun n hn => ⟨(hspaces n hn).1, (hspaces n hn).2.1⟩,
    List.eq_nil_iff_forall_not_mem]
  intro d hd
  obtain ⟨n, hn, hd⟩ := Paragraph.exists_of_mem_edits hd
  obtain ⟨hblank, -, hfresh⟩ := hspaces n hn
  rw [hblank.edits hd] at hfresh
  cases hfresh

end CjkProse
