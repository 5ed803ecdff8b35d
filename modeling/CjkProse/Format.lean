import CjkProse.Alignment.Document
import CjkProse.Directive
import CjkProse.IgnoredSpans
import CjkProse.Markdown.Block.Document
import CjkProse.Node.OfAtoms
import CjkProse.Report
import CjkProse.Rule.Pass

/-!
# Formatting a document

A document is read as markup, its blocks of prose are placed in the source and read as paragraphs,
the rules run over each paragraph, and what they have revised is written into the text, apart from
the spans that are to be left alone.  A paragraph that cannot be read stays as it is.

## Main definitions

* `readEvents` — the paragraphs of a stream of events, and why others could not be read.
* `formatTokens` — formatting, for given markup and ignored spans.
* `formatParsed`, `format`, `formatText` — formatting a text.
-/

namespace CjkProse

/-- Why a text could not be formatted. -/
inductive FormatError
  /-- A pattern of text to be left alone has a fault that is not passed over. -/
  | pattern (fault : Pattern.Fault)
  /-- The changes have left bytes that are no text. -/
  | encoding (fault : Utf8.Fault)
  deriving DecidableEq, Repr, Inhabited

/-- The results that are paragraphs. -/
def paragraphsOf : List (Except ParseError Paragraph) → List Paragraph
  | [] => []
  | .ok p :: rest => p :: paragraphsOf rest
  | .error _ :: rest => paragraphsOf rest

/-- The results that are errors. -/
def parseErrorsOf : List (Except ParseError Paragraph) → List ParseError
  | [] => []
  | .ok _ :: rest => parseErrorsOf rest
  | .error e :: rest => e :: parseErrorsOf rest

/-- The paragraphs that some events make up. -/
def readEvents (events : List PlacedEvent) : List (Except ParseError Paragraph) :=
  parseParagraphs (Atom.ofEvents events)

/-- From where the first block starts to where the last one ends. -/
def blockEdges (events : List PlacedEvent) : Option Span :=
  let spans := (events.filter fun e => e.event.isBlock).map PlacedEvent.span
  match spans.head?, spans.getLast? with
  | some first, some last => some ⟨first.start, last.stop⟩
  | _, _ => none

/-- The report on a text whose markup is given, the `ignored` spans being left alone. -/
def formatTokens (text : Text) (tokens : List Markdown.Token) (config : Config)
    (ignored : List Span) : Except Utf8.Fault Report :=
  let events := markupEvents text tokens
  let results := readEvents events
  (buildReport text ((paragraphsOf results).map (polish config)) config ignored
    (blockEdges events)).map fun report =>
      { report with parseErrors := parseErrorsOf results }

/-- The report on a text whose markup is given.  A text that asks for it is left as it is. -/
def formatParsed (text : Text) (tokens : List Markdown.Token) (config : Config) :
    Except FormatError Report :=
  let directives := Directives.ofTokens tokens
  if directives.disabled then .ok ⟨text, [], []⟩
  else
    match ignoredSpans text (directives.patterns ++ config.ignores) with
    | .error fault => .error (.pattern fault)
    | .ok ignored => (formatTokens text tokens config ignored).mapError .encoding

/-- The report on a text. -/
def format (text : Text) (config : Config) : Except FormatError Report :=
  formatParsed text (Markdown.parse text) config

/-- A text formatted. -/
def formatText (text : Text) (config : Config) : Except FormatError Text :=
  (format text config).map Report.text

end CjkProse
