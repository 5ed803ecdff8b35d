import CjkProse.Proofs.Rule.AtBracket

/-!
# What a rule demands of the gaps beside a node

A rule for spaces looks at a node and its two neighbours, and asks for a space before the node and
for one after it, or does not care.  So these rules are told in one form, by two demands.

## Main definitions

* `meetGap`, `meetBeside` — gaps that are set as demanded.
* `Config.betweenLetters`, `Config.outsideQuotes`, … — what is demanded where.
* `Config.facing` — what a quotation demands against a neighbour.

## Main results

* `Rules.letterSpace_eq`, `Rules.codeSpace_eq`, `Rules.pauseSpace_eq`, `Rules.quoteSpace_eq` — **the
  rules for spaces, by their demands.**
-/

namespace CjkProse

open Neighbours

/-! ### Demands -/

/-- Revises a value to what is demanded, and leaves it alone if nothing is. -/
def Revisable.reviseTo {α : Type} [DecidableEq α] (r : Revisable α) (demand : Option α) :
    Revisable α := demand.elim r r.revise

namespace Revisable

variable {α : Type} [DecidableEq α] (r : Revisable α) (demand : Option α)

@[simp] theorem reviseTo_none : r.reviseTo none = r := rfl

@[simp] theorem value_reviseTo : (r.reviseTo demand).value = demand.getD r.value := by
  cases demand with
  | none => rfl
  | some s => exact value_revise r s

@[simp] theorem original_reviseTo : (r.reviseTo demand).original = r.original := by
  cases demand <;> rfl

@[simp] theorem revert_reviseTo : (r.reviseTo demand).revert = r.revert := by
  cases demand <;> rfl

end Revisable

/-- Sets a gap to the space that is demanded. -/
def meetGap (nodes : List Node) (holder : Option Nat) (demand : Option Space) : List Node :=
  demand.elim nodes (setGap nodes holder)

/-- Sets the gaps beside a node to the spaces that are demanded before and after it. -/
def meetBeside (nodes : List Node) (i : Nat) (before after : Option Space) : List Node :=
  meetGap (meetGap nodes (spaceBeforeHolder? nodes i) before) (spaceAfterHolder? nodes i) after

/-- No space is demanded if that is asked for. -/
def demandNone (asked : Bool) : Option Space := if asked then some Space.empty else none

/-- What is demanded of a gap if there is a neighbour of some sort. -/
def demandIf (found : Bool) (demand : Option Space) : Option Space := if found then demand else none

section Meet

variable {nodes : List Node}

theorem closeGap_eq (holder : Option Nat) (asked : Bool) :
    closeGap nodes holder asked = meetGap nodes holder (demandNone asked) := by
  cases asked <;> rfl

theorem demandGap_eq (holder : Option Nat) (demand : Option Bool) :
    demandGap nodes holder demand = meetGap nodes holder (demand.map Space.ofBool) := by
  cases demand <;> rfl

theorem meetGap_demandIf (found : Bool) (holder : Option Nat) (demand : Option Space) :
    (if found then meetGap nodes holder demand else nodes) =
      meetGap nodes holder (demandIf found demand) := by
  cases found <;> rfl

/-- Setting a gap leaves the bodies alone. -/
theorem sameBodies_meetGap (holder : Option Nat) (demand : Option Space) :
    SameBodies nodes (meetGap nodes holder demand) := by
  cases demand with
  | none => exact .refl
  | some s =>
    cases holder with
    | none => exact .refl
    | some j => exact .modify (Node.body_setAfter s) j

theorem sameBodies_meetBeside {i : Nat} {before after : Option Space} :
    SameBodies nodes (meetBeside nodes i before after) :=
  (sameBodies_meetGap _ _).trans (sameBodies_meetGap _ _)

theorem sameBodies_revertGap (holder : Option Nat) : SameBodies nodes (revertGap nodes holder) := by
  cases holder with
  | none => exact .refl
  | some j => exact .modify Node.body_revertAfter j

/-- So do the rules for brackets and wrappers. -/
theorem sameBodies_bracketSpace {config : Config} {i : Nat} :
    SameBodies nodes (Rules.bracketSpace config nodes i) := by
  have houtside : ∀ (ns : List Node) holder wide,
      SameBodies ns (Rules.outsideBracket config ns holder wide) := by
    intro ns holder wide
    unfold Rules.outsideBracket
    rw [closeGap_eq, demandGap_eq]
    exact .ite (sameBodies_meetGap _ _) (sameBodies_meetGap _ _)
  unfold Rules.bracketSpace
  split
  · dsimp only
    rw [closeGap_eq]
    refine .ite (.trans (sameBodies_meetGap _ _) (.ite .refl (.ite ?_ ?_))) .refl
    · exact .ite (houtside _ _ _) .refl
    · exact .ite (houtside _ _ _) .refl
  · exact .refl

theorem sameBodies_wrapperSpace {config : Config} {i : Nat} :
    SameBodies nodes (Rules.wrapperSpace config nodes i) := by
  unfold Rules.wrapperSpace
  split
  · rw [closeGap_eq]
    exact sameBodies_meetGap _ _
  · exact .refl

end Meet

namespace Config

/-- What is demanded between two runs of letters. -/
def betweenLetters (config : Config) (l r : Node) : Option Space :=
  if l.isHalf && r.isHalf then if config.spaceBetweenHalfwidth then some Space.one else none
  else if l.isFull && r.isFull then demandNone config.noSpaceBetweenFullwidth
  else if l.isContent && r.isContent then
    if Rules.isUnit config (if l.isFull then l else r) then none
    else config.spaceBetweenMixed.map Space.ofBool
  else none

/-- What is demanded around inline code. -/
def outsideCode (config : Config) : Option Space := config.spaceOutsideCode.map Space.ofBool

/-- What is demanded outside of quotations, by the width of the marks that face the gap. -/
def outsideQuotes (config : Config) (wide : Bool) : Option Space :=
  if wide then demandNone config.noSpaceOutsideFullwidthQuote
  else config.spaceOutsideHalfwidthQuote.map Space.ofBool

/-- What a quotation demands of the gap to a neighbour. -/
def facing (config : Config) (neighbour : Option Node) (wide : Node → Bool) : Option Space :=
  neighbour.bind fun b => demandIf (facesEnclosure b) (config.outsideQuotes (wide b))

/-- What is demanded after a mark that pauses or stops. -/
def afterPause (config : Config) (c : Char) : Option Space :=
  if isWideOrChinese c then demandNone config.noSpaceAfterFullwidthPause
  else config.spaceAfterHalfwidthPause.map Space.ofBool

end Config

/-! ### The rules -/

/-- Runs of letters and inline code. -/
def Node.isText (n : Node) : Bool := n.isContent || n.isCode

namespace Rules

variable {config : Config} {nodes nodes' : List Node} {i : Nat}

/-- The rule for letters sets the gap after a run. -/
theorem letterSpace_eq {l r : Node} (here : nodes[i]? = some l)
    (next : nodeAfter? nodes i = some r) :
    letterSpace config nodes i = meetBeside nodes i none (config.betweenLetters l r) := by
  unfold letterSpace Config.betweenLetters
  rw [here, next]
  dsimp only
  -- the cases are those of the rule, in its order
  by_cases hhalf : (l.isHalf && r.isHalf) = true
  · rw [if_pos hhalf, if_pos hhalf]
    cases config.spaceBetweenHalfwidth <;> rfl
  rw [if_neg hhalf, if_neg hhalf]
  by_cases hfull : (l.isFull && r.isFull) = true
  · rw [if_pos hfull, if_pos hfull]
    exact closeGap_eq _ _
  rw [if_neg hfull, if_neg hfull]
  by_cases hmixed : (l.isContent && r.isContent) = true
  · rw [if_pos hmixed, if_pos hmixed]
    by_cases hunit : isUnit config (if l.isFull then l else r) = true
    · rw [if_pos hunit, if_pos hunit]
      rfl
    · rw [if_neg hunit, if_neg hunit]
      exact demandGap_eq _ _
  · rw [if_neg hmixed, if_neg hmixed]
    rfl

/-- Sets the gap after a node by the neighbour there, the gap before it having been set. -/
theorem meetAfter_congr (h : SameBodies nodes nodes') {f : Option Node → Option Space}
    (hf : ∀ found, f (found.map Node.body) = f found) :
    meetGap nodes' (spaceAfterHolder? nodes' i) (f (nodeAfter? nodes' i)) =
      meetGap nodes' (spaceAfterHolder? nodes i) (f (nodeAfter? nodes i)) := by
  rw [← hf, h.map_nodeAfter?, hf, h.spaceAfterHolder?]

/-- The rule for code sets the gaps to letters and other code. -/
theorem codeSpace_eq (here : nodes[i]?.any Node.isCode = true) :
    codeSpace config nodes i =
      meetBeside nodes i (demandIf ((nodeBefore? nodes i).any Node.isText) config.outsideCode)
        (demandIf ((nodeAfter? nodes i).any Node.isText) config.outsideCode) := by
  -- the gap before the node has been set when the rule looks at the neighbour after it
  have hafter := @meetAfter_congr nodes _ i (sameBodies_meetGap (spaceBeforeHolder? nodes i)
    (demandIf ((nodeBefore? nodes i).any Node.isText) config.outsideCode))
    (fun found => demandIf (found.any Node.isText) config.outsideCode)
    (fun found => by rw [any_map_body fun n => by cases n <;> rfl])
  unfold codeSpace
  dsimp only
  rw [if_pos here]
  simp only [demandGap_eq, meetGap_demandIf]
  exact hafter

/-- The rule for marks that pause or stop closes the gap before such a mark, and sets the one after
it. -/
theorem pauseSpace_eq {v : Revisable Char} {a : Revisable Space}
    (here : nodes[i]? = some (.char v a)) (pause : isPause v.value = true)
    (loose : (isTightHalfwidthPunctuation nodes i || isSuccessivePunctuation nodes i) = false) :
    pauseSpace config nodes i =
      meetBeside nodes i
        (demandNone (config.noSpaceBeforePause && (nodeBefore? nodes i).any endsPhrase))
        (demandIf ((nodeAfter? nodes i).any startsPhrase) (config.afterPause v.value)) := by
  obtain ⟨htight, hrow⟩ := Bool.or_eq_false_iff.mp loose
  -- what is set after the mark depends on its width
  have hgap : ∀ ns holder, (if isWideOrChinese v.value = true then
      closeGap ns holder config.noSpaceAfterFullwidthPause
      else demandGap ns holder config.spaceAfterHalfwidthPause) =
        meetGap ns holder (config.afterPause v.value) := by
    intro ns holder
    unfold Config.afterPause
    split
    · exact closeGap_eq _ _
    · exact demandGap_eq _ _
  have hafter := @meetAfter_congr nodes _ i (sameBodies_meetGap (spaceBeforeHolder? nodes i)
    (demandNone (config.noSpaceBeforePause && (nodeBefore? nodes i).any endsPhrase)))
    (fun found => demandIf (found.any startsPhrase) (config.afterPause v.value))
    (fun found => by rw [any_map_body fun n => by cases n <;> rfl])
  unfold pauseSpace
  rw [here]
  dsimp only
  rw [if_pos (by simp [pause, htight, hrow])]
  rw [closeGap_eq (spaceBeforeHolder? nodes i)]
  simp only [hgap, meetGap_demandIf]
  exact hafter

/-- Empties the spaces inside of a quotation, if that is asked for. -/
def closeQuote (config : Config) (nodes : List Node) (i : Nat) : List Node :=
  if config.noSpaceInsideQuote then nodes.modify i closeInside else nodes

/-- Sets the gap outside of a quotation against a neighbour. -/
def faceGap (config : Config) (nodes : List Node) (holder : Option Nat) (neighbour : Option Node)
    (wide : Node → Bool) : List Node :=
  match neighbour with
  | some b => if facesEnclosure b then outsideQuote config nodes holder (wide b) else nodes
  | none => nodes

theorem faceGap_eq (holder : Option Nat) (neighbour : Option Node) (wide : Node → Bool) :
    faceGap config nodes holder neighbour wide =
      meetGap nodes holder (config.facing neighbour wide) := by
  cases neighbour with
  | none => rfl
  | some b =>
    have houtside : outsideQuote config nodes holder (wide b) =
        meetGap nodes holder (config.outsideQuotes (wide b)) := by
      unfold outsideQuote Config.outsideQuotes
      split
      · exact closeGap_eq _ _
      · exact demandGap_eq _ _
    unfold faceGap
    dsimp only
    rw [houtside, meetGap_demandIf]
    rfl

/-- The rule for quotations closes the gaps inside of one and sets those outside of it, by the marks
that it has by now and by the neighbours. -/
theorem quoteSpace_eq {o c : Revisable Char} {inner a : Revisable Space} {ns : List Node}
    (here : nodes[i]? = some (.group o inner ns c a)) :
    quoteSpace config nodes i =
      meetBeside (closeQuote config nodes i) i
        (config.facing (nodeBefore? (closeQuote config nodes i) i)
          fun b => isWideOrChinese o.value || isWideSide closerOf b)
        (config.facing (nodeAfter? (closeQuote config nodes i) i)
          fun b => isWideOrChinese c.value || isWideSide openerOf b) := by
  have hrule : quoteSpace config nodes i =
      (fun ns => faceGap config ns (spaceAfterHolder? ns i) (nodeAfter? ns i)
        fun b => isWideOrChinese c.value || isWideSide openerOf b)
        (faceGap config (closeQuote config nodes i)
          (spaceBeforeHolder? (closeQuote config nodes i) i)
          (nodeBefore? (closeQuote config nodes i) i)
          fun b => isWideOrChinese o.value || isWideSide closerOf b) := by
    unfold quoteSpace
    rw [here]
    rfl
  rw [hrule]
  dsimp only
  rw [faceGap_eq, faceGap_eq]
  generalize closeQuote config nodes i = ns
  refine @meetAfter_congr ns _ i (sameBodies_meetGap _ _)
    (fun found => config.facing found fun b => isWideOrChinese c.value || isWideSide openerOf b) ?_
  intro found
  cases found with
  | none => rfl
  | some n => cases n <;> rfl

end Rules

end CjkProse
