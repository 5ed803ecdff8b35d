import CjkProse.Event
import CjkProse.Revisable

/-!
# Nodes

A paragraph of prose is a list of nodes: runs of letters of one width, single marks, events of the
markup, and groups between quotation marks, which hold nodes of their own.  Every node keeps the
space that follows it, as a revisable value, so each gap between two nodes has exactly one owner.

## Main definitions

* `Node` — the five sorts of node.
* `Node.after`, `Node.mapAfter` — the space after a node.
* `Node.span` — the source of a node, its space left out.
* `Node.render` — the node as text, with the values in force.
* `Node.isWrapper`, `Node.isContent`, … — what sort of node it is.
-/

namespace CjkProse

/-- A piece of a paragraph, with the space that follows it. -/
inductive Node
  /-- A single mark, or another character that belongs to no run. -/
  | char (value : Revisable Char) (after : Revisable Space)
  /-- A run of half-width letters. -/
  | half (value : Revisable Text) (after : Revisable Space)
  /-- A run of full-width letters. -/
  | full (value : Revisable Text) (after : Revisable Space)
  /-- An event of the markup. -/
  | event (event : Event) (span : Span) (after : Revisable Space)
  /-- What stands between two quotation marks, and the marks. -/
  | group (opener : Revisable Char) (inner : Revisable Space) (nodes : List Node)
      (closer : Revisable Char) (after : Revisable Space)
  deriving Repr, Inhabited

/-- A paragraph is the list of its nodes. -/
abbrev Paragraph := List Node

namespace Node

/-- The space that follows a node. -/
def after : Node → Revisable Space
  | char _ a => a
  | half _ a => a
  | full _ a => a
  | event _ _ a => a
  | group _ _ _ _ a => a

/-- Changes the space that follows a node. -/
def mapAfter (f : Revisable Space → Revisable Space) : Node → Node
  | char v a => char v (f a)
  | half v a => half v (f a)
  | full v a => full v (f a)
  | event e s a => event e s (f a)
  | group o i ns c a => group o i ns c (f a)

@[simp] theorem after_mapAfter (f : Revisable Space → Revisable Space) (n : Node) :
    (n.mapAfter f).after = f n.after := by cases n <;> rfl

/-- Makes the space that follows a node `s`. -/
def setAfter (s : Space) (n : Node) : Node := n.mapAfter fun a => a.revise s

/-- Gives back the space of the source. -/
def revertAfter (n : Node) : Node := n.mapAfter Revisable.revert

/-- Whether a space follows. -/
def hasSpaceAfter (n : Node) : Bool := !n.after.value.isEmpty

/-- The source of a node, without the space that follows it. -/
def span : Node → Span
  | char v _ => v.span
  | half v _ => v.span
  | full v _ => v.span
  | event _ s _ => s
  | group o _ _ c _ => ⟨o.span.start, c.span.stop⟩

mutual

/-- A node as text, with the values in force; an event is shown by its label. -/
def render : Node → Text
  | char v a => v.value :: a.value
  | half v a => v.value ++ a.value
  | full v a => v.value ++ a.value
  | event e _ a => '<' :: e.label ++ '>' :: a.value
  | group o i ns c a => o.value :: i.value ++ renderAll ns ++ c.value :: a.value

/-- The nodes of a list as text. -/
def renderAll : List Node → Text
  | [] => []
  | n :: ns => render n ++ renderAll ns

end

/-! ### Sorts of node -/

/-- A mark whose value in force has the property `p`. -/
def isCharAnd (p : Char → Bool) : Node → Bool
  | char v _ => p v.value
  | _ => false

/-- A run of half-width letters. -/
def isHalf : Node → Bool
  | half _ _ => true
  | _ => false

/-- A run of full-width letters. -/
def isFull : Node → Bool
  | full _ _ => true
  | _ => false

/-- A run of letters. -/
def isContent (n : Node) : Bool := n.isHalf || n.isFull

/-- A quotation. -/
def isGroup : Node → Bool
  | group _ _ _ _ _ => true
  | _ => false

/-- An event of the given kind. -/
def isEventOf (k : EventKind) : Node → Bool
  | event e _ _ => e.kind == k
  | _ => false

/-- The start of a wrapper. -/
def isOpening (n : Node) : Bool := n.isEventOf .opening

/-- The end of a wrapper. -/
def isClosing (n : Node) : Bool := n.isEventOf .closing

/-- The start or the end of a wrapper.  A reader of the document does not see it. -/
def isWrapper (n : Node) : Bool := n.isOpening || n.isClosing

/-- Inline code. -/
def isCode (n : Node) : Bool := n.isEventOf .code

end Node

end CjkProse
