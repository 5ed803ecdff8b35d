import CjkProse.Rule.Spacing

/-!
# Spaces in and around quotations and brackets

A quotation is one node that holds what stands in it, so its inner spaces are its own and the outer
ones belong to its neighbours.  Brackets are single marks, and a left and a right one are matched by
counting.

## Main definitions

* `matchingLeft?`, `matchingRight?` — the other bracket of a pair.
* `isExempt` — the pairs whose outer spaces are left alone, such as those of `item(s)` and `f()`.
* `Rules.quoteSpace`, `Rule.bracketSpace` — the rules.
-/

namespace CjkProse

open Neighbours

/-- Nodes that the outer space of a quotation or bracket is measured against. -/
def facesEnclosure (n : Node) : Bool := n.isContent || n.isCode || n.isGroup

namespace Rules

/-- Whether a quotation has a wide mark at the side where `mark` is. -/
def isWideSide (mark : Node → Option Char) (n : Node) : Bool := (mark n).any isWideOrChinese

/-- The mark that opens a quotation, as it is by now. -/
def openerOf : Node → Option Char
  | .group o _ _ _ _ => some o.value
  | _ => none

/-- The mark that closes a quotation, as it is by now. -/
def closerOf : Node → Option Char
  | .group _ _ _ c _ => some c.value
  | _ => none

/-- Changes the last node of a list. -/
def mapLast (f : Node → Node) (ns : List Node) : List Node := ns.modify (ns.length - 1) f

/-- Empties the spaces directly inside of a quotation, except next to a mark that closes or opens
something itself. -/
def closeInside : Node → Node
  | .group o inner ns c a =>
    let inner := if ns.head?.any (Node.isCharAnd isRight) then inner else inner.revise Space.empty
    let ns :=
      if ns.getLast?.any (Node.isCharAnd isLeft) then ns
      else mapLast (Node.setAfter Space.empty) ns
    .group o inner ns c a
  | n => n

/-- Sets the gap outside of a quotation, by the width of the marks that face it. -/
def outsideQuote (config : Config) (nodes : List Node) (holder : Option Nat) (wide : Bool) :
    List Node :=
  if wide then closeGap nodes holder config.noSpaceOutsideFullwidthQuote
  else demandGap nodes holder config.spaceOutsideHalfwidthQuote

/-- The spaces inside and outside of a quotation.  Where two quotations face each other, one wide
mark is enough for the gap to count as wide. -/
def quoteSpace (config : Config) (nodes : List Node) (i : Nat) : List Node :=
  match nodes[i]? with
  | some (.group o _ _ c _) =>
    let nodes := if config.noSpaceInsideQuote then nodes.modify i closeInside else nodes
    let nodes :=
      match nodeBefore? nodes i with
      | some b =>
        if facesEnclosure b then
          outsideQuote config nodes (spaceBeforeHolder? nodes i)
            (isWideOrChinese o.value || isWideSide closerOf b)
        else nodes
      | none => nodes
    match nodeAfter? nodes i with
    | some b =>
      if facesEnclosure b then
        outsideQuote config nodes (spaceAfterHolder? nodes i)
          (isWideOrChinese c.value || isWideSide openerOf b)
      else nodes
    | none => nodes
  | _ => nodes

end Rules

/-! ### Matching brackets -/

/-- The index of the left bracket that matches a right one at the given index: the nearest one
before it that is not itself matched in between.  `depth` counts the right brackets passed that
still wait for their left one. -/
def matchingLeftFrom (nodes : List Node) : Nat → Nat → Option Nat
  | _, 0 => none
  | depth, i + 1 =>
    match nodes[i]? with
    | none => none
    | some n =>
      if n.isCharAnd isRightBracket then matchingLeftFrom nodes (depth + 1) i
      else if n.isCharAnd isLeftBracket then
        match depth with
        | 0 => some i
        | d + 1 => matchingLeftFrom nodes d i
      else matchingLeftFrom nodes depth i

/-- The index of the left bracket that matches a right one at index `i`. -/
def matchingLeft? (nodes : List Node) (i : Nat) : Option Nat := matchingLeftFrom nodes 0 i

/-- How many nodes of a list come before the right bracket that matches a left one in front of the
list.  `depth` counts the left brackets passed that still wait for their right one. -/
def matchingRightIn : Nat → List Node → Option Nat
  | _, [] => none
  | depth, n :: ns =>
    if n.isCharAnd isLeftBracket then (matchingRightIn (depth + 1) ns).map (· + 1)
    else if n.isCharAnd isRightBracket then
      match depth with
      | 0 => some 0
      | d + 1 => (matchingRightIn d ns).map (· + 1)
    else (matchingRightIn depth ns).map (· + 1)

/-- The index of the right bracket that matches a left one at index `i`. -/
def matchingRight? (nodes : List Node) (i : Nat) : Option Nat :=
  (matchingRightIn 0 (nodes.drop (i + 1))).map (i + 1 + ·)

/-- A half-width run without a space after it. -/
def isFlushHalf (n : Node) : Bool := n.isHalf && !n.hasSpaceAfter

/-- Whether a bracket stands directly between two half-width runs. -/
def isFlushBothSides (nodes : List Node) (i : Nat) : Bool :=
  nodes[i]?.any (fun n => !n.hasSpaceAfter) && (before? nodes i).any isFlushHalf &&
    (after? nodes i).any Node.isHalf

/-- Whether a left bracket stands directly after a half-width run and before another one, or before
the right bracket of an empty pair. -/
def isLeftExempt (nodes : List Node) (i : Nat) : Bool :=
  isFlushBothSides nodes i ||
    (nodes[i]?.any (fun n => !n.hasSpaceAfter) && (before? nodes i).any isFlushHalf &&
      (after? nodes i).any (Node.isCharAnd isRightBracket))

/-- Whether the outer spaces of a bracket are left alone.  A pair is exempt when either of its
brackets is, so both are asked. -/
def isExempt (nodes : List Node) (i : Nat) (left : Bool) : Bool :=
  if left then
    isLeftExempt nodes i || (matchingRight? nodes i).any (isFlushBothSides nodes)
  else isFlushBothSides nodes i || (matchingLeft? nodes i).any (isLeftExempt nodes)

namespace Rules

/-- Sets the gap outside of a bracket, by the width of the bracket. -/
def outsideBracket (config : Config) (nodes : List Node) (holder : Option Nat) (wide : Bool) :
    List Node :=
  if wide then closeGap nodes holder config.noSpaceOutsideFullwidthBracket
  else demandGap nodes holder config.spaceOutsideHalfwidthBracket

/-- The spaces inside and outside of a bracket. -/
def bracketSpace (config : Config) (nodes : List Node) (i : Nat) : List Node :=
  match nodes[i]? with
  | some (.char v _) =>
    if isBracket v.value then
      let left := isLeft v.value
      let nodes :=
        closeGap nodes (if left then spaceAfterHolder? nodes i else spaceBeforeHolder? nodes i)
          config.noSpaceInsideBracket
      if isExempt nodes i left then nodes
      else if left then
        if (nodeBefore? nodes i).any fun b => facesEnclosure b || b.isCharAnd isRightBracket then
          outsideBracket config nodes (spaceBeforeHolder? nodes i) (isWideOrChinese v.value)
        else nodes
      else if (nodeAfter? nodes i).any fun b => facesEnclosure b || b.isCharAnd isLeftBracket then
        outsideBracket config nodes (spaceAfterHolder? nodes i) (isWideOrChinese v.value)
      else nodes
    else nodes
  | _ => nodes

end Rules

end CjkProse
