import CjkProse.Alignment.Inline
import CjkProse.FrontMatter

/-!
# Placing the blocks of a document

The content of a block is looked for on the lines of the source, from the line that its token tells.
Each line of the content must stand on the next line of the source, after what earlier blocks have
used up of it: the cells of a table share a line.  The marks that a container puts in front of a
line are passed over that way, so the places of a content jump at its line ends, and a line end
covers them together with the line feed.

A block that cannot be placed is left out, and what is used up by then stays so.

## Main definitions

* `SourceLine`, `Source` — the lines of a text, with how much of them is used up.
* `Source.locate` — where the characters of a content stand, in bytes.
* `BlockOutcome`, `alignBlocks` — the events of each block, or why it is left out.
* `markupEvents` — the events of a document.
-/

namespace CjkProse

open Markdown (Token Inline)

/-- A line of the source. -/
structure SourceLine where
  /-- The byte offset of its first character. -/
  offset : Nat
  /-- Its characters, without the line feed. -/
  text : Text
  /-- The number of characters used up by blocks. -/
  used : Nat
  deriving DecidableEq, Repr, Inhabited

/-- The lines of a source. -/
abbrev Source := List SourceLine

namespace Source

/-- Lines the first of which starts at a byte offset. -/
def ofLines (offset : Nat) : List Text → Source
  | [] => []
  | line :: lines => ⟨offset, line, 0⟩ :: ofLines (offset + Text.byteLength line + 1) lines

/-- The lines of a text, none of them used up. -/
def ofText (text : Text) : Source := ofLines 0 text.lines

/-- The byte offsets of the characters of a piece that starts at a byte offset, and of its end. -/
def offsets (start : Nat) : Text → List Nat
  | [] => [start]
  | c :: cs => start :: offsets (start + c.utf8Size) cs

/-- Where the lines of a content stand, the first of them on line `n` of the source: the byte offset
of each character, that of a line feed being the end of its line, and last the end of all.  The
lines that could be found are used up even if a later one cannot be. -/
def locateLines (source : Source) (n : Nat) : List Text → Except AlignError (List Nat) × Source
  | [] => (.ok [], source)
  | piece :: pieces =>
    match source[n]? with
    | none => (.error (.lineOutOfRange n), source)
    | some line =>
      match Text.findFrom? piece line.used line.text with
      | none => (.error (.contentNotFound n), source)
      | some col =>
        let here := offsets (line.offset + Text.byteLength (line.text.take col)) piece
        let source := source.modify n fun l => { l with used := col + piece.length }
        match locateLines source (n + 1) pieces with
        | (.error e, source) => (.error e, source)
        | (.ok later, source) => (.ok (here ++ later), source)

/-- Where a content stands whose first line is line `n` of the source. -/
def locate (source : Source) (n : Nat) (content : Text) : Except AlignError (List Nat) × Source :=
  locateLines source n content.lines

end Source

/-- The events of the pieces of a content whose characters stand at `places`. -/
def placePieces (places : List Nat) : List Piece → List PlacedEvent
  | [] => []
  | p :: ps =>
    ⟨p.event, ⟨places.headD 0, (places.drop p.length).headD 0⟩⟩ ::
      placePieces (places.drop p.length) ps

/-- A block that is left out: the line it should start on, and why. -/
structure Skipped where
  /-- The line, counted from zero. -/
  line : Nat
  /-- Why the block could not be placed. -/
  reason : AlignError
  deriving DecidableEq, Repr, Inhabited

/-- How a skipped block is told. -/
def Skipped.message (s : Skipped) : Text :=
  "跳过无法对齐的行内块 (第 ".toList ++ Text.ofNat (s.line + 1) ++ " 行): ".toList ++ s.reason.message

/-- What becomes of a block. -/
abbrev BlockOutcome := Except Skipped (List PlacedEvent)

/-- The events of a block with tag `tag` whose content starts on line `n`. -/
def alignBlock (source : Source) (tag : String) (n : Nat) (content : Text)
    (children : List Inline) : BlockOutcome × Source :=
  match source.locate n content with
  | (.error e, source) => (.error ⟨n, e⟩, source)
  | (.ok places, source) =>
    match placeInline content children with
    | .error e => (.error ⟨n, e⟩, source)
    | .ok pieces =>
      let start : Int := places.headD 0
      let stop : Int := places.getLastD 0
      (.ok (⟨⟨.opening, tag, []⟩, Span.point start⟩ :: placePieces places pieces ++
        [⟨⟨.closing, tag, []⟩, Span.point stop⟩]), source)

/-- What becomes of the blocks of a document.  Blocks that start on one of the first `skip` lines
are no prose.  A block without a line of its own starts on the line last told, `line`, and its tag
is the one last told, `tag`. -/
def alignFrom (skip : Nat) (source : Source) (tag : String) (line : Int) :
    List Token → List BlockOutcome
  | [] => []
  | .inline content children own :: tokens =>
    let first := own.getD line
    if first < skip then alignFrom skip source tag line tokens
    else
      let (outcome, source) := alignBlock source tag first.toNat content children
      outcome :: alignFrom skip source tag line tokens
  | .proseOpen tag own :: tokens => alignFrom skip source tag (own.getD line) tokens
  | .html _ own :: tokens => alignFrom skip source tag (own.getD line) tokens
  | .other own :: tokens => alignFrom skip source tag (own.getD line) tokens

/-- What becomes of the blocks of a document. -/
def alignBlocks (text : Text) (tokens : List Token) : List BlockOutcome :=
  alignFrom (frontMatterLines text) (Source.ofText text) "paragraph" 0 tokens

/-- The events of the blocks that could be placed. -/
def eventsOf : List BlockOutcome → List PlacedEvent
  | [] => []
  | .ok events :: rest => events ++ eventsOf rest
  | .error _ :: rest => eventsOf rest

/-- The blocks that are left out. -/
def skippedOf : List BlockOutcome → List Skipped
  | [] => []
  | .ok _ :: rest => skippedOf rest
  | .error s :: rest => s :: skippedOf rest

/-- The events of a document. -/
def markupEvents (text : Text) (tokens : List Token) : List PlacedEvent :=
  eventsOf (alignBlocks text tokens)

end CjkProse
