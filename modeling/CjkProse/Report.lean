import CjkProse.Config.Basic
import CjkProse.Diagnostic
import CjkProse.ParseError
import CjkProse.Text.Utf8

/-!
# Reports

A report is a text with the changes made, and a list of these.  The changes are spliced into the
bytes of the source one by one, the last place first.  A change that overlaps an ignored span is not
made.

Spaces at the two ends of a text are removed when they touch the first and the last block of prose:
the indentation of code and the end of an open code block stay.  A text of nothing but spaces is
emptied.

## Main definitions

* `Draft` — the bytes so far and the changes made; `Draft.apply` makes one more.
* `trimEdits` — the changes at the two ends of a text.
* `Report`, `buildReport` — the result.
-/

namespace CjkProse

/-! ### Splicing -/

/-- The bytes with those of a span replaced.  A span that ends before it starts is empty. -/
def splice (bytes : List UInt8) (span : Span) (replacement : List UInt8) : List UInt8 :=
  let start := clampOffset bytes.length span.start
  let stop := max start (clampOffset bytes.length span.stop)
  bytes.take start ++ replacement ++ bytes.drop stop

/-- Whether a change at `span` is kept out by one of the ignored spans. -/
def isIgnored (ignored : List Span) (span : Span) : Bool := ignored.any span.overlaps

/-- A text in the making. -/
structure Draft where
  /-- Its bytes. -/
  bytes : List UInt8
  /-- The changes made so far, the first one first. -/
  diagnostics : List Diagnostic
  deriving Repr

namespace Draft

/-- The source before any change. -/
def ofText (text : Text) : Draft := ⟨Utf8.encode text, []⟩

/-- Makes one change, unless it is kept out. -/
def apply (ignored : List Span) (draft : Draft) (d : Diagnostic) : Draft :=
  if isIgnored ignored d.span then draft
  else ⟨splice draft.bytes d.span (Utf8.encode d.modified), draft.diagnostics ++ [d]⟩

/-- Makes some changes in turn. -/
def applyAll (ignored : List Span) (draft : Draft) (edits : List Diagnostic) : Draft :=
  edits.foldl (apply ignored) draft

/-- The text, if the bytes are one. -/
def text? (draft : Draft) : Option Text := Utf8.decode? draft.bytes

end Draft

/-! ### The ends of a text -/

/-- The spaces at the start and at the end of a text.  Those of a text of nothing but spaces all
stand at its start. -/
def edgeSpaces (text : Text) : Space × Space :=
  let leading := text.takeWhile isSpace
  if leading.length = text.length then (text, [])
  else (leading, (text.reverse.takeWhile isSpace).reverse)

/-- Those of the spaces at the ends that touch the prose, which lies within `edges`. -/
def touchingEdges (text : Text) (edges : Option Span) : Space × Space → Space × Space
  | (leading, trailing) =>
    match edges with
    | none => ([], [])
    | some e =>
      (if e.start = leading.byteLength then leading else [],
        if e.stop = (text.byteLength : Int) - trailing.byteLength then trailing else [])

/-- The change that removes a space at the given place, if there is one. -/
def trimEdit (space : Space) (span : Span) : List Diagnostic :=
  if space.isEmpty then [] else [⟨.space, space, Space.empty, span⟩]

/-- The changes at the end and at the start of a text. -/
def trimEdits (text : Text) (config : Config) (edges : Option Span) :
    List Diagnostic × List Diagnostic :=
  let spaces := if config.trimSpace then edgeSpaces text else ([], [])
  let (leading, trailing) := if spaces.1 = text then spaces else touchingEdges text edges spaces
  let total : Int := text.byteLength
  (trimEdit trailing ⟨total - trailing.byteLength, total⟩,
    trimEdit leading ⟨0, leading.byteLength⟩)

/-! ### Reports -/

/-- The outcome for a text. -/
structure Report where
  /-- The text with the changes made. -/
  text : Text
  /-- The changes, the last place first. -/
  diagnostics : List Diagnostic
  /-- Why some paragraphs were left alone, in document order. -/
  parseErrors : List ParseError
  deriving DecidableEq, Repr, Inhabited

/-- Whether a text has been changed. -/
def Report.changed (r : Report) : Bool := !r.diagnostics.isEmpty

/-- All changes for a text, the last place first. -/
def allEdits (text : Text) (paragraphs : List Paragraph) (config : Config) (edges : Option Span) :
    List Diagnostic :=
  let (atEnd, atStart) := trimEdits text config edges
  atEnd ++ paragraphs.reverse.flatMap Paragraph.edits ++ atStart

/-- The report on a text, of which `paragraphs` are the paragraphs with their revisions, `ignored`
the spans to be left alone, and `edges` the extent of its prose. -/
def buildReport (text : Text) (paragraphs : List Paragraph) (config : Config)
    (ignored : List Span) (edges : Option Span) : Except Utf8.Fault Report :=
  let draft := (Draft.ofText text).applyAll ignored (allEdits text paragraphs config edges)
  match Utf8.decode draft.bytes with
  | .error fault => .error fault
  | .ok text => .ok ⟨text, draft.diagnostics, []⟩

end CjkProse
