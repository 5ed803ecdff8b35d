import CjkProse.Rule.Spacing

/-!
# Exceptions

The last rules take back what the others did: the full stop of a known abbreviation stays as it is,
and so do the spaces around a number that stands before a unit.

## Main definitions

* `Rules.abbreviation` — reverts the full stop of an abbreviation and the space after it.
* `Rules.numberUnit` — reverts the spaces before and after a number with a unit.
-/

namespace CjkProse.Rules

open Neighbours

/-- The full stop of an abbreviation, and the space after it, as they are in the source.  A full
stop within an abbreviation, with a half-width run right after it, is no end of one. -/
def abbreviation (config : Config) (nodes : List Node) (i : Nat) : List Node :=
  match nodes[i]? with
  | some (.char v a) =>
    if v.original == '.' && !((after? nodes i).any Node.isHalf && a.original.isEmpty) &&
        matchesAbbr nodes config.skipAbbrs i then
      nodes.set i (.char v.revert a.revert)
    else nodes
  | _ => nodes

/-- A half-width run that is a number. -/
def isNumber : Node → Bool
  | .half v _ => v.value.all fun c => Unicode.isNumeric c && !Unicode.isWide c
  | _ => false

/-- A full-width run that is a unit. -/
def isFullUnit (config : Config) (n : Node) : Bool := n.isFull && isUnit config n

/-- The spaces around a number that stands before a unit, as they are in the source. -/
def numberUnit (config : Config) (nodes : List Node) (i : Nat) : List Node :=
  if nodes[i]?.any isNumber && (nodeAfter? nodes i).any (isFullUnit config) then
    let nodes := revertGap nodes (spaceBeforeHolder? nodes i)
    revertGap nodes (spaceAfterHolder? nodes i)
  else nodes

end CjkProse.Rules
