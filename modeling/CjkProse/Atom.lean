import CjkProse.Event

/-!
# Atoms

The units that prose is read from: single characters of text, and all other events as they are.

## Main definitions

* `Atom` — a character or an event, with its span.
* `Atom.ofEvents` — the atoms of a stream of events.
-/

namespace CjkProse

/-- A character of text, or an event that is not text. -/
inductive Atom
  /-- A character. -/
  | char (value : Char) (span : Span)
  /-- An event of the markup. -/
  | event (event : Event) (span : Span)
  deriving DecidableEq, Repr, Inhabited

namespace Atom

/-- The source that an atom covers. -/
def span : Atom → Span
  | .char _ s => s
  | .event _ s => s

/-- Whether an atom is a character of the given kind. -/
def isKind (k : CharKind) : Atom → Bool
  | .char c _ => CharKind.of c == k
  | .event _ _ => false

/-- Whether an atom starts a block. -/
def isBlockStart : Atom → Bool
  | .char _ _ => false
  | .event e _ => e.isBlockStart

/-- Whether an atom ends a block. -/
def isBlockEnd : Atom → Bool
  | .char _ _ => false
  | .event e _ => e.isBlockEnd

/-- The characters of a text that starts at a byte offset. -/
def ofText (offset : Int) : Text → List Atom
  | [] => []
  | c :: cs => .char c ⟨offset, offset + c.utf8Size⟩ :: ofText (offset + c.utf8Size) cs

@[simp] theorem ofText_nil (offset : Int) : ofText offset [] = [] := rfl

@[simp] theorem ofText_cons (offset : Int) (c : Char) (cs : Text) :
    ofText offset (c :: cs) =
      .char c ⟨offset, offset + c.utf8Size⟩ :: ofText (offset + c.utf8Size) cs := rfl

/-- The atoms of one event: a text gives its characters, all else itself. -/
def ofEvent (e : PlacedEvent) : List Atom :=
  if e.event.kind = .text then ofText e.span.start e.event.text else [.event e.event e.span]

/-- The atoms of a stream of events. -/
def ofEvents (events : List PlacedEvent) : List Atom := events.flatMap ofEvent

end Atom

end CjkProse
