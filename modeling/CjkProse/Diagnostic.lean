import CjkProse.Node.Basic

/-!
# Diagnostics

Each change that is made to a text is told by a diagnostic: what stood there, what stands there now,
and where.  The changes of a paragraph are gathered from its nodes in reverse document order, so
that making one does not move the places of those still to be made.

## Main definitions

* `Diagnostic` — one change.
* `Node.edits`, `Paragraph.edits` — the changes recorded in a tree.
-/

namespace CjkProse

/-- What sort of thing is changed. -/
inductive EditKind
  /-- A mark. -/
  | char
  /-- A run of letters. -/
  | string
  /-- A space. -/
  | space
  deriving DecidableEq, Repr, Inhabited

/-- A change of a text. -/
structure Diagnostic where
  /-- What sort of thing is changed. -/
  kind : EditKind
  /-- What stands in the source. -/
  original : Text
  /-- What stands there after the change. -/
  modified : Text
  /-- The source that is replaced. -/
  span : Span
  deriving DecidableEq, Repr, Inhabited

namespace Diagnostic

/-- The wording of a diagnostic. -/
def message (d : Diagnostic) : String :=
  match d.kind with
  | .char => "char error."
  | .string => "string error."
  | .space => "space error."

/-- What a diagnostic asks for. -/
def label (d : Diagnostic) : Text :=
  match d.kind with
  | .char | .string => d.modified
  | .space => Space.demand d.modified

end Diagnostic

namespace Revisable

/-- The change that a revised value of text stands for, if it has been revised. -/
def edit (kind : EditKind) (r : Revisable Text) : List Diagnostic :=
  match r.modified with
  | none => []
  | some m => [⟨kind, r.original, m, r.span⟩]

/-- The change that a revised mark stands for, if it has been revised. -/
def charEdit (r : Revisable Char) : List Diagnostic :=
  match r.modified with
  | none => []
  | some m => [⟨.char, [r.original], [m], r.span⟩]

end Revisable

mutual

/-- The changes in a node, the last one first. -/
def Node.edits : Node → List Diagnostic
  | .char v a => a.edit .space ++ v.charEdit
  | .half v a => a.edit .space ++ v.edit .string
  | .full v a => a.edit .space ++ v.edit .string
  | .event _ _ a => a.edit .space
  | .group o inner ns c a =>
    a.edit .space ++ c.charEdit ++ Paragraph.edits ns ++ inner.edit .space ++ o.charEdit

/-- The changes in a list of nodes, the last one first. -/
def Paragraph.edits : List Node → List Diagnostic
  | [] => []
  | n :: ns => Paragraph.edits ns ++ Node.edits n

end

end CjkProse
