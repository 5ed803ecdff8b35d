import CjkProse.Config.Basic
import CjkProse.Node.Neighbours

/-!
# Spaces between letters, marks, code and wrappers

Each rule looks at one node and its neighbours and sets the space in the gap between them.  A gap is
set through the node that owns it, so that spaces stay outside of wrappers.

## Main definitions

* `setGap` — sets the space of the gap that a node owns, if there is such a node.
* `Rules.letterSpace` — between two runs of letters.
* `Rules.pauseSpace` — around marks that pause or stop.
* `Rules.codeSpace` — around inline code.
* `Rules.wrapperSpace` — inside of wrappers.
-/

namespace CjkProse

/-- Makes `s` the space after the node at an index, if there is one. -/
def setGap (nodes : List Node) (holder : Option Nat) (s : Space) : List Node :=
  match holder with
  | none => nodes
  | some j => nodes.modify j (Node.setAfter s)

/-- Gives the gap after the node at an index, if there is one, the space of the source. -/
def revertGap (nodes : List Node) (holder : Option Nat) : List Node :=
  match holder with
  | none => nodes
  | some j => nodes.modify j Node.revertAfter

/-- Sets a gap to what is demanded, and leaves it alone if nothing is. -/
def demandGap (nodes : List Node) (holder : Option Nat) (demand : Option Bool) : List Node :=
  match demand with
  | none => nodes
  | some present => setGap nodes holder (Space.ofBool present)

/-- Empties a gap, if that is asked for. -/
def closeGap (nodes : List Node) (holder : Option Nat) (asked : Bool) : List Node :=
  if asked then setGap nodes holder Space.empty else nodes

namespace Rules

open Neighbours

/-- Whether a node is a run of letters equal to a unit. -/
def isUnit (config : Config) : Node → Bool
  | .half v _ => config.skipZhUnits.contains v.value
  | .full v _ => config.skipZhUnits.contains v.value
  | _ => false

/-- The space between two runs of letters: by width, and none is set next to a full-width run that
is a unit. -/
def letterSpace (config : Config) (nodes : List Node) (i : Nat) : List Node :=
  match nodes[i]?, nodeAfter? nodes i with
  | some current, some next =>
    let holder := spaceAfterHolder? nodes i
    if current.isHalf && next.isHalf then
      if config.spaceBetweenHalfwidth then setGap nodes holder Space.one else nodes
    else if current.isFull && next.isFull then
      closeGap nodes holder config.noSpaceBetweenFullwidth
    else if current.isContent && next.isContent then
      if isUnit config (if current.isFull then current else next) then nodes
      else demandGap nodes holder config.spaceBetweenMixed
    else nodes
  | _, _ => nodes

/-- Nodes after which a mark that pauses or stops stands without a space. -/
def endsPhrase (n : Node) : Bool :=
  n.isContent || n.isGroup || n.isCode || n.isCharAnd isRight

/-- Nodes with which prose goes on after a mark that pauses or stops. -/
def startsPhrase (n : Node) : Bool :=
  n.isContent || n.isGroup || n.isCode || n.isCharAnd isLeft

/-- The spaces around a mark that pauses or stops. -/
def pauseSpace (config : Config) (nodes : List Node) (i : Nat) : List Node :=
  match nodes[i]? with
  | some (.char v _) =>
    if isPause v.value && !isTightHalfwidthPunctuation nodes i &&
        !isSuccessivePunctuation nodes i then
      let nodes :=
        closeGap nodes (spaceBeforeHolder? nodes i)
          (config.noSpaceBeforePause && (nodeBefore? nodes i).any endsPhrase)
      if (nodeAfter? nodes i).any startsPhrase then
        let holder := spaceAfterHolder? nodes i
        if isWideOrChinese v.value then closeGap nodes holder config.noSpaceAfterFullwidthPause
        else demandGap nodes holder config.spaceAfterHalfwidthPause
      else nodes
    else nodes
  | _ => nodes

/-- The space between inline code and letters or other code. -/
def codeSpace (config : Config) (nodes : List Node) (i : Nat) : List Node :=
  let faces (n : Node) : Bool := n.isContent || n.isCode
  if nodes[i]?.any Node.isCode then
    let nodes :=
      if (nodeBefore? nodes i).any faces then
        demandGap nodes (spaceBeforeHolder? nodes i) config.spaceOutsideCode
      else nodes
    if (nodeAfter? nodes i).any faces then
      demandGap nodes (spaceAfterHolder? nodes i) config.spaceOutsideCode
    else nodes
  else nodes

/-- Whether the space between two adjacent nodes is inside of a wrapper: the second is no further
out than the first, or the first no further out than the second. -/
def isInsideWrapper (current next : Node) : Bool :=
  (current.isOpening && (next.isOpening || !next.isWrapper)) ||
    ((current.isClosing || !current.isWrapper) && next.isClosing)

/-- No space inside of wrappers. -/
def wrapperSpace (config : Config) (nodes : List Node) (i : Nat) : List Node :=
  match nodes[i]?, after? nodes i with
  | some current, some next =>
    closeGap nodes (some i) (config.noSpaceInsideWrapper && isInsideWrapper current next)
  | _, _ => nodes

end Rules

end CjkProse
