import CjkProse.Format
import CjkProse.Log.Record

/-!
# Notes on formatting

What the log tells of the formatting of a text: patterns that are passed over, blocks that could not
be placed, paragraphs that could not be read, and a summary.

## Main definitions

* `patternNotes` — what is told of patterns.
* `formatNotes` — all that is told.
-/

namespace CjkProse

/-- The note that a pattern is passed over. -/
def patternNote (pattern : Text) : LogRecord :=
  ⟨.warning, "zhfmt.ignore".toList,
    "忽略无效的正则 ".toList ++ Quoted.quote pattern ++ ": ".toList⟩

/-- The note that a block is left out. -/
def skippedNote (s : Skipped) : LogRecord := ⟨.debug, "zhfmt.markup".toList, s.message⟩

/-- How the source at fault is shown. -/
def spanLabel (span : Span) : Text :=
  "Span(start=".toList ++ Text.ofInt span.start ++ ", end=".toList ++ Text.ofInt span.stop ++ [')']

/-- The note that a paragraph could not be read. -/
def parseErrorNote (e : ParseError) : LogRecord :=
  ⟨.debug, "zhfmt.parser".toList,
    "段落解析失败 (offset=".toList ++ (e.span?.map spanLabel).getD ['-'] ++ "): ".toList ++
      e.message.toList⟩

/-- The note that a text asks to be left as it is. -/
def disabledNote : LogRecord :=
  ⟨.debug, "zhfmt.engine".toList, "文档包含禁用指令，跳过处理".toList⟩

/-- The note that a text is done. -/
def doneNote (paragraphs : Nat) (r : Report) : LogRecord :=
  ⟨.debug, "zhfmt.engine".toList,
    "处理完成: ".toList ++ Text.ofNat paragraphs ++ " 个段落, ".toList ++
      Text.ofNat r.diagnostics.length ++ " 处改写, ".toList ++ Text.ofNat r.parseErrors.length ++
      " 个解析错误".toList⟩

/-- What is told of the patterns of a text. -/
def patternNotes (tokens : List Markdown.Token) (config : Config) : List LogRecord :=
  let directives := Directives.ofTokens tokens
  if directives.disabled then []
  else (malformedPatterns (directives.patterns ++ config.ignores)).map patternNote

/-- What is told of a text apart from its patterns, when `outcome` is that of formatting it. -/
def progressNotes (text : Text) (tokens : List Markdown.Token)
    (outcome : Except FormatError Report) : List LogRecord :=
  if (Directives.ofTokens tokens).disabled then [disabledNote]
  else
    let blocks := alignBlocks text tokens
    let results := readEvents (eventsOf blocks)
    match outcome with
    | .error (.pattern _) => []
    | .error (.encoding _) =>
      (skippedOf blocks).map skippedNote ++ (parseErrorsOf results).map parseErrorNote
    | .ok report =>
      (skippedOf blocks).map skippedNote ++ (parseErrorsOf results).map parseErrorNote ++
        [doneNote (paragraphsOf results).length report]

/-- What a log of some level is told of a text. -/
def formatNotes (level : LogLevel) (text : Text) (tokens : List Markdown.Token) (config : Config)
    (outcome : Except FormatError Report) : List LogRecord :=
  patternNotes tokens config ++
    if level.threshold ≤ LogLevel.debug then progressNotes text tokens outcome else []

end CjkProse
