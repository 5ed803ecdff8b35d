import CjkProse.Node.Basic

/-!
# Neighbours

What stands around a node of a list.  A reader of the document does not see wrappers, so the
*visible* neighbours of a node are the nearest nodes that are not wrappers.  The gap between two
visible neighbours may hold several spaces, one after each wrapper; the one that a rule sets is that
after the last end of a wrapper which directly follows the left neighbour, or after this neighbour
itself, so that a space put there is outside of the wrappers.

Nodes are told by their index in the list.

## Main definitions

* `before?`, `after?` — the node next to index `i`.
* `visibleBefore?`, `visibleAfter?` — the indexes of the visible neighbours.
* `spaceBeforeHolder?`, `spaceAfterHolder?` — the indexes of the nodes that own the gaps.
* `isTightHalfwidthPunctuation` — a Western mark within a half-width word, as in `1,000`.
* `isSuccessivePunctuation` — a Western mark next to another, as in `...`.
* `matchesAbbr` — a full stop that ends an abbreviation.
-/

namespace CjkProse.Neighbours

variable (nodes : List Node)

/-- The node before index `i`. -/
def before? : Nat → Option Node
  | 0 => none
  | i + 1 => nodes[i]?

/-- The node after index `i`. -/
def after? (i : Nat) : Option Node := nodes[i + 1]?

/-- Whether the node at an index is a wrapper. -/
def isWrapperAt (i : Nat) : Bool := nodes[i]?.any Node.isWrapper

/-- The index of the nearest node before index `i` that is no wrapper. -/
def visibleBefore? : Nat → Option Nat
  | 0 => none
  | i + 1 => if isWrapperAt nodes i then visibleBefore? i else some i

/-- The index of the nearest node after index `i` that is no wrapper. -/
def visibleAfter? (i : Nat) : Option Nat :=
  ((nodes.drop (i + 1)).findIdx? fun n => !n.isWrapper).map (i + 1 + ·)

/-- The node that owns the gap between the visible neighbours `left` and `right`. -/
def gapHolder (left right : Nat) : Nat :=
  left + (((nodes.drop (left + 1)).take (right - left - 1)).takeWhile Node.isClosing).length

/-- The node that owns the gap before index `i`. -/
def spaceBeforeHolder? (i : Nat) : Option Nat :=
  (visibleBefore? nodes i).map fun left => gapHolder nodes left i

/-- The node that owns the gap after index `i`. -/
def spaceAfterHolder? (i : Nat) : Option Nat :=
  (visibleAfter? nodes i).map fun right => gapHolder nodes i right

/-- The nearest visible node before index `i`. -/
def nodeBefore? (i : Nat) : Option Node := (visibleBefore? nodes i).bind fun j => nodes[j]?

/-- The nearest visible node after index `i`. -/
def nodeAfter? (i : Nat) : Option Node := (visibleAfter? nodes i).bind fun j => nodes[j]?

/-- Whether a Western mark stands directly between two half-width runs. -/
def isTightHalfwidthPunctuation (i : Nat) : Bool :=
  match nodes[i]? with
  | some current =>
    current.isCharAnd isWesternPunctuation && !current.hasSpaceAfter &&
      (before? nodes i).any (fun b => b.isHalf && !b.hasSpaceAfter) &&
      (after? nodes i).any Node.isHalf
  | none => false

/-- A mark that is Western in the source, whatever it has become. -/
def isWesternInSource : Node → Bool
  | .char v _ => isWesternPunctuation v.original
  | _ => false

/-- Whether a mark that is Western in the source directly follows or precedes another such mark. -/
def isSuccessivePunctuation (i : Nat) : Bool :=
  match nodes[i]? with
  | some current =>
    isWesternInSource current &&
      ((before? nodes i).any (fun b => isWesternInSource b && !b.hasSpaceAfter) ||
        ((after? nodes i).any isWesternInSource && !current.hasSpaceAfter))
  | none => false

/-- The source text of a node of which an abbreviation may be made up. -/
def abbrPiece? : Node → Option Text
  | .char v a => if a.original.isEmpty then some [v.original] else none
  | .half v a => if a.original.isEmpty then some v.original else none
  | _ => none

/-- An abbreviation with the full stop that ends it. -/
def withStop (abbr : Text) : Text := if abbr.getLast? = some '.' then abbr else abbr ++ ['.']

/-- Whether the pieces before index `i`, put before `collected`, make up one of `targets`. -/
def collectAbbr (targets : List Text) : Nat → Text → Bool
  | 0, _ => false
  | i + 1, collected =>
    match nodes[i]?.bind abbrPiece? with
    | none => false
    | some piece =>
      targets.contains (piece ++ collected) || collectAbbr targets i (piece ++ collected)

variable {nodes} in
/-- Whether an abbreviation is found depends on the source of the nodes before its end. -/
theorem collectAbbr_congr {nodes' : List Node} {targets : List Text} :
    ∀ {i : Nat} {collected : Text},
      (∀ j < i, nodes[j]?.bind abbrPiece? = nodes'[j]?.bind abbrPiece?) →
        collectAbbr nodes targets i collected = collectAbbr nodes' targets i collected := by
  intro i
  induction i with
  | zero => intro collected _; rfl
  | succ i ih =>
    intro collected h
    rw [collectAbbr, collectAbbr, h i (Nat.lt_succ_self i)]
    split
    · rfl
    · rw [ih fun j hj => h j (Nat.lt_succ_of_lt hj)]

/-- Whether a full stop at index `i` ends one of the abbreviations `abbrs`. -/
def matchesAbbr (abbrs : List Text) (i : Nat) : Bool :=
  collectAbbr nodes ((abbrs.filter fun a => !a.isEmpty).map withStop) i ['.']

end CjkProse.Neighbours
