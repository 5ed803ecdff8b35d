import CjkProse.Span
import CjkProse.Text.Basic

/-!
# Markup events

A document with markup is a stream of events, each with the span of source that it covers: the
start and the end of blocks and of inline wrappers such as emphasis, runs of text, and pieces that
no rule looks into, such as code or an image.

## Main definitions

* `EventKind`, `Event` — an event: its kind, a tag that names the structure, and its text.
* `Event.isBlock` — the events around a paragraph, a heading or a table cell.
* `PlacedEvent` — an event with its span.
-/

namespace CjkProse

/-- What sort of event it is. -/
inductive EventKind
  /-- The start of a block or of a wrapper. -/
  | opening
  /-- The end of a block or of a wrapper. -/
  | closing
  /-- A run of text. -/
  | text
  /-- Inline code. -/
  | code
  /-- Inline HTML. -/
  | html
  /-- The end of a line within a block. -/
  | lineBreak
  /-- A piece taken as a whole: an image, a bare link, an escape, an entity. -/
  | whole
  deriving DecidableEq, Repr, Inhabited

/-- The name under which a kind is shown. -/
def EventKind.name : EventKind → String
  | .opening => "start"
  | .closing => "end"
  | .text => "text"
  | .code => "code"
  | .html => "html"
  | .lineBreak => "break"
  | .whole => "opaque"

/-- An event of the markup. -/
structure Event where
  /-- Its kind. -/
  kind : EventKind
  /-- The structure that starts or ends, or the sort of a line break or whole piece. -/
  tag : String
  /-- The text of a run, of code or of HTML. -/
  text : Text
  deriving DecidableEq, Repr, Inhabited

namespace Event

/-- The tags of blocks.  Each block holds one paragraph of prose. -/
def blockTags : List String := ["paragraph", "heading", "table_cell"]

/-- Whether an event starts or ends a block. -/
def isBlock (e : Event) : Bool :=
  match e.kind with
  | .opening | .closing => blockTags.contains e.tag
  | _ => false

/-- Whether an event starts a block. -/
def isBlockStart (e : Event) : Bool := e.isBlock && e.kind == .opening

/-- Whether an event ends a block. -/
def isBlockEnd (e : Event) : Bool := e.isBlock && e.kind == .closing

/-- An event as it is shown: its kind, and its tag if it has one. -/
def label (e : Event) : Text :=
  let tagged := e.kind.name.toList ++ ':' :: e.tag.toList
  match e.kind with
  | .opening | .closing => tagged
  | _ => if e.tag.isEmpty then e.kind.name.toList else tagged

end Event

/-- An event and the source that it covers. -/
structure PlacedEvent where
  /-- The event. -/
  event : Event
  /-- The source that it covers. -/
  span : Span
  deriving DecidableEq, Repr, Inhabited

end CjkProse
