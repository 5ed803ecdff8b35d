import CjkProse.Proofs.Rule.Revised

/-!
# A pass revises within bounds

Every rule only revises values, and within bounds, wherever it runs.  So does a pass, which is a
sequence of rules at a sequence of nodes.

## Main results

* `Rule.revised_applyAt` — one rule at one node, one case for each rule.
* `Rule.revised_applyAll` — some rules at every node of a list.
* `revised_polish` — **a pass revises a paragraph within bounds.**
-/

namespace CjkProse

/-- Revising a mark and the space after it. -/
theorem revised_char {v v' : Revisable Char} {a a' : Revisable Space}
    (hv : Revised [.mark v] [.mark v']) (ha : Revised [.space a] [.space a']) :
    Revised (Node.char v a).leaves (Node.char v' a').leaves := by
  rw [Node.leaves, Node.leaves]
  exact hv.cons ha

/-- Revising the parts of a quotation. -/
theorem revised_group {o o' c c' : Revisable Char} {inner inner' a a' : Revisable Space}
    {ns ns' : List Node} (ho : Revised [.mark o] [.mark o'])
    (hinner : Revised [.space inner] [.space inner'])
    (hns : Revised (Paragraph.leaves ns) (Paragraph.leaves ns'))
    (hc : Revised [.mark c] [.mark c']) (ha : Revised [.space a] [.space a']) :
    Revised (Node.group o inner ns c a).leaves (Node.group o' inner' ns' c' a').leaves := by
  rw [Node.leaves, Node.leaves]
  exact ho.cons (hinner.cons (hns.append (hc.cons ha)))

theorem revised_ite {nodes a b : List Node} {p : Prop} [Decidable p]
    (ha : Revised (Paragraph.leaves nodes) (Paragraph.leaves a))
    (hb : Revised (Paragraph.leaves nodes) (Paragraph.leaves b)) :
    Revised (Paragraph.leaves nodes) (Paragraph.leaves (if p then a else b)) := by
  split
  · exact ha
  · exact hb

/-! ### Marks -/

theorem revised_resizeMark (config : Config) (v : Revisable Char) :
    Revised [.mark v] [.mark (config.resizeMark v)] := by
  have hhalf : Revised [.mark v] [.mark
      (if config.halfwidthPunctuation.contains (halfwidth v.value) then v.revise (halfwidth v.value)
        else v)] := by
    split
    · exact revised_mark (canonical_halfwidth _)
    · exact .refl _
  refine hhalf.trans ?_
  rw [Config.resizeMark]
  generalize (if config.halfwidthPunctuation.contains (halfwidth v.value) then
    v.revise (halfwidth v.value) else v) = w
  split
  · exact revised_mark (canonical_fullwidth _)
  · exact .refl _

theorem revised_resizeQuote (config : Config) {double single : Char} (hd : canonical double = '"')
    (hs : canonical single = '\'') (v : Revisable Char) :
    Revised [.mark v] [.mark (config.resizeQuote double single v)] := by
  rw [Config.resizeQuote]
  split
  · next h =>
    simp only [Bool.and_eq_true, beq_iff_eq] at h
    exact revised_mark (by rw [hd, h.1]; rfl)
  · split
    · next h =>
      simp only [Bool.and_eq_true, beq_iff_eq] at h
      exact revised_mark (by rw [hs, h.1]; rfl)
    · exact revised_resizeMark config v

theorem revised_restyleQuote (config : Config) (v : Revisable Char) :
    Revised [.mark v] [.mark (config.restyleQuote v)] := by
  rw [Config.restyleQuote]
  split
  · exact .refl _
  · cases h : curly? v.value with
    | none => exact .refl _
    | some d => exact revised_mark (canonical_of_curly? h)
  · cases h : corner? v.value with
    | none => exact .refl _
    | some d => exact revised_mark (canonical_of_corner? h)

namespace Rules

variable (config : Config) (nodes : List Node) (i : Nat)

theorem revised_markWidth :
    Revised (Paragraph.leaves nodes) (Paragraph.leaves (markWidth config nodes i)) := by
  rw [markWidth]
  split
  · next h =>
    exact revised_set (revised_group (revised_resizeQuote config rfl rfl _) (.refl _) (.refl _)
      (revised_resizeQuote config rfl rfl _) (.refl _)) h
  · next v a h =>
    split
    · exact revised_set (revised_char (revised_resizeMark config v) (.refl [.space a])) h
    · exact .refl _
  · exact .refl _

theorem revised_quoteStyle :
    Revised (Paragraph.leaves nodes) (Paragraph.leaves (quoteStyle config nodes i)) := by
  rw [quoteStyle]
  split
  · next h =>
    exact revised_set (revised_group (revised_restyleQuote config _) (.refl _) (.refl _)
      (revised_restyleQuote config _) (.refl _)) h
  · exact .refl _

/-! ### Spaces -/

theorem revised_letterSpace :
    Revised (Paragraph.leaves nodes) (Paragraph.leaves (letterSpace config nodes i)) := by
  rw [letterSpace]
  split
  · dsimp only
    split
    · split
      · exact revised_setGap isSpace_of_mem_one nodes _
      · exact .refl _
    · split
      · exact revised_closeGap nodes _ _
      · split
        · exact revised_ite (.refl _) (revised_demandGap nodes _ _)
        · exact .refl _
  · exact .refl _

theorem revised_pauseSpace :
    Revised (Paragraph.leaves nodes) (Paragraph.leaves (pauseSpace config nodes i)) := by
  rw [pauseSpace]
  split
  · split
    · refine (revised_closeGap nodes (Neighbours.spaceBeforeHolder? nodes i)
        (config.noSpaceBeforePause && (Neighbours.nodeBefore? nodes i).any endsPhrase)).trans ?_
      dsimp only
      generalize closeGap nodes _ _ = nodes
      exact revised_ite (revised_ite (revised_closeGap nodes _ _) (revised_demandGap nodes _ _))
        (.refl _)
    · exact .refl _
  · exact .refl _

theorem revised_codeSpace :
    Revised (Paragraph.leaves nodes) (Paragraph.leaves (codeSpace config nodes i)) := by
  rw [codeSpace]
  dsimp only
  split
  · exact (revised_ite (revised_demandGap nodes _ _) (.refl _)).trans
      (revised_ite (revised_demandGap _ _ _) (.refl _))
  · exact .refl _

theorem revised_wrapperSpace :
    Revised (Paragraph.leaves nodes) (Paragraph.leaves (wrapperSpace config nodes i)) := by
  rw [wrapperSpace]
  split
  · exact revised_closeGap nodes _ _
  · exact .refl _

/-! ### Quotations and brackets -/

theorem revised_closeInside (n : Node) : Revised n.leaves (closeInside n).leaves := by
  cases n with
  | group o inner ns c a =>
    rw [closeInside]
    refine revised_group (.refl _) ?_ ?_ (.refl _) (.refl _)
    · split
      · exact .refl _
      · exact revised_space inner isSpace_of_mem_empty
    · split
      · exact .refl _
      · exact revised_modify (revised_setAfter isSpace_of_mem_empty) ns _
  | char v a => exact .refl _
  | half v a => exact .refl _
  | full v a => exact .refl _
  | event e s a => exact .refl _

theorem revised_outsideQuote (holder : Option Nat) (wide : Bool) :
    Revised (Paragraph.leaves nodes)
      (Paragraph.leaves (outsideQuote config nodes holder wide)) := by
  rw [outsideQuote]
  split
  · exact revised_closeGap nodes _ _
  · exact revised_demandGap nodes _ _

/-- The space on one side of a quotation, against the visible neighbour there. -/
theorem revised_facing (neighbour : Option Node) (holder : Option Nat) (wide : Node → Bool) :
    Revised (Paragraph.leaves nodes) (Paragraph.leaves
      (match neighbour with
      | some b => if facesEnclosure b then outsideQuote config nodes holder (wide b) else nodes
      | none => nodes)) := by
  cases neighbour with
  | none => exact .refl _
  | some b => exact revised_ite (revised_outsideQuote config nodes _ _) (.refl _)

theorem revised_quoteSpace :
    Revised (Paragraph.leaves nodes) (Paragraph.leaves (quoteSpace config nodes i)) := by
  rw [quoteSpace]
  split
  · next o inner ns c a h =>
    have hinside := @revised_ite nodes (nodes.modify i closeInside) nodes
      (config.noSpaceInsideQuote = true) _ (revised_modify revised_closeInside nodes i) (.refl _)
    exact (hinside.trans (revised_facing config _ _ _
      fun b => isWideOrChinese o.value || isWideSide closerOf b)).trans
        (revised_facing config _ _ _ fun b => isWideOrChinese c.value || isWideSide openerOf b)
  · exact .refl _

theorem revised_outsideBracket (holder : Option Nat) (wide : Bool) :
    Revised (Paragraph.leaves nodes) (Paragraph.leaves (outsideBracket config nodes holder wide))
    := by
  rw [outsideBracket]
  split
  · exact revised_closeGap nodes _ _
  · exact revised_demandGap nodes _ _

theorem revised_bracketSpace :
    Revised (Paragraph.leaves nodes) (Paragraph.leaves (bracketSpace config nodes i)) := by
  rw [bracketSpace]
  split
  · next v a h =>
    split
    · refine (revised_closeGap nodes
        (if isLeft v.value then Neighbours.spaceAfterHolder? nodes i
          else Neighbours.spaceBeforeHolder? nodes i) config.noSpaceInsideBracket).trans ?_
      dsimp only
      generalize closeGap nodes _ _ = nodes
      refine revised_ite (.refl _) (revised_ite ?_ ?_)
      · exact revised_ite (revised_outsideBracket config nodes _ _) (.refl _)
      · exact revised_ite (revised_outsideBracket config nodes _ _) (.refl _)
    · exact .refl _
  · exact .refl _

/-! ### Exceptions -/

theorem revised_abbreviation :
    Revised (Paragraph.leaves nodes) (Paragraph.leaves (abbreviation config nodes i)) := by
  rw [abbreviation]
  split
  · next v a h =>
    split
    · exact revised_set (revised_char (revised_revert_mark v) (revised_revert_space a)) h
    · exact .refl _
  · exact .refl _

theorem revised_numberUnit :
    Revised (Paragraph.leaves nodes) (Paragraph.leaves (numberUnit config nodes i)) := by
  rw [numberUnit]
  split
  · exact (revised_revertGap nodes _).trans (revised_revertGap _ _)
  · exact .refl _

end Rules

/-! ### A pass -/

namespace Rule

/-- One rule at one node. -/
theorem revised_applyAt (r : Rule) (config : Config) (nodes : List Node) (i : Nat) :
    Revised (Paragraph.leaves nodes) (Paragraph.leaves (r.applyAt config nodes i)) := by
  cases r with
  | markWidth => exact Rules.revised_markWidth config nodes i
  | quoteStyle => exact Rules.revised_quoteStyle config nodes i
  | letterSpace => exact Rules.revised_letterSpace config nodes i
  | pauseSpace => exact Rules.revised_pauseSpace config nodes i
  | quoteSpace => exact Rules.revised_quoteSpace config nodes i
  | bracketSpace => exact Rules.revised_bracketSpace config nodes i
  | codeSpace => exact Rules.revised_codeSpace config nodes i
  | wrapperSpace => exact Rules.revised_wrapperSpace config nodes i
  | abbreviation => exact Rules.revised_abbreviation config nodes i
  | numberUnit => exact Rules.revised_numberUnit config nodes i

/-- What every rule preserves at every node of a list, some rules preserve over the whole list. -/
theorem applyAll_induction {P : List Node → Prop} {rules : List Rule} {config : Config}
    (step : ∀ r ∈ rules, ∀ nodes i, P nodes → P (r.applyAt config nodes i)) {nodes : List Node}
    (h : P nodes) : P (applyAll rules config nodes) := by
  -- first all rules at one node, then all nodes
  have hnode : ∀ {rs : List Rule}, (∀ r ∈ rs, r ∈ rules) → ∀ {nodes : List Node} (i : Nat),
      P nodes → P (applyAllAt rs config nodes i) := by
    intro rs
    induction rs with
    | nil => intro _ nodes i h; exact h
    | cons r rs ih =>
      intro hrs nodes i h
      exact ih (fun r' hr' => hrs r' (List.mem_cons_of_mem _ hr')) i
        (step r (hrs r List.mem_cons_self) nodes i h)
  rw [applyAll]
  generalize List.range nodes.length = is
  induction is generalizing nodes with
  | nil => exact h
  | cons i is ih => exact ih (hnode (fun _ hr => hr) i h)

/-- Some rules at every node of a list. -/
theorem revised_applyAll (rules : List Rule) (config : Config) (nodes : List Node) :
    Revised (Paragraph.leaves nodes) (Paragraph.leaves (applyAll rules config nodes)) :=
  applyAll_induction (P := fun ns => Revised (Paragraph.leaves nodes) (Paragraph.leaves ns))
    (fun r _ ns i h => h.trans (revised_applyAt r config ns i)) (.refl _)

end Rule

mutual

theorem revised_node_sweep (rules : List Rule) (config : Config) : ∀ n : Node,
    Revised n.leaves (n.sweep rules config).leaves
  | .group o inner ns c a => by
    rw [Node.sweep]
    exact revised_group (.refl _) (.refl _)
      ((revised_sweepInside rules config ns).trans (Rule.revised_applyAll rules config _))
      (.refl _) (.refl _)
  | .char v a => by rw [Node.sweep]; exact .refl _
  | .half v a => by rw [Node.sweep]; exact .refl _
  | .full v a => by rw [Node.sweep]; exact .refl _
  | .event e s a => by rw [Node.sweep]; exact .refl _

theorem revised_sweepInside (rules : List Rule) (config : Config) : ∀ ns : List Node,
    Revised (Paragraph.leaves ns) (Paragraph.leaves (sweepInside rules config ns))
  | [] => by rw [sweepInside]; exact .refl _
  | n :: ns => by
    rw [sweepInside, Paragraph.leaves_cons, Paragraph.leaves_cons]
    exact (revised_node_sweep rules config n).append (revised_sweepInside rules config ns)

end

/-- **A pass revises a paragraph within bounds.** -/
theorem revised_polish (config : Config) (ns : Paragraph) :
    Revised (Paragraph.leaves ns) (Paragraph.leaves (polish config ns)) :=
  (revised_sweepInside Rule.all config ns).trans (Rule.revised_applyAll Rule.all config _)

end CjkProse
