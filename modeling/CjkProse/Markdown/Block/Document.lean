import CjkProse.Markdown.Block.Leaf
import CjkProse.Markdown.Inline.Content

/-!
# Documents

The block structure of a document, read line by line.  Quotes and lists hold blocks of their own,
up to a bounded depth; their lines are read again, as they look from within.  The definitions of
labels are gathered on the way, and when all are known the inline content is read.

## Main definitions

* `Blocks` — what has been read: tokens, labels, and the next line.
* `paragraphAt`, `tableAt`, `quoteAt`, `listAt`, … — the blocks.
* `blocksAt` — the blocks of a container.
* `parse` — the tokens of a document.
-/

namespace CjkProse.Markdown

/-- What has been read of a document. -/
structure Blocks where
  /-- The tokens, inline ones without their children. -/
  tokens : List Token
  /-- The labels that are defined, in the form for comparing. -/
  labels : List Text
  /-- The line after what has been read. -/
  line : Nat
  deriving Repr, Inhabited

/-- A block of one token. -/
def Blocks.single (token : Token) (line : Nat) : Blocks := ⟨[token], [], line⟩

/-- What is read from a line of a container up to its end. -/
abbrev ReadBlocks := Context → Nat → Nat → Blocks

/-! ### Blocks without blocks in them -/

/-- The tokens of a block of prose that starts on line `n`. -/
def prose (tag : String) (content : Text) (n : Nat) : List Token :=
  [.proseOpen tag (some n), .inline content [] (some n)]

/-- The line after indented code.  Empty lines are part of it if more code follows; `last` is the
line after the last one that is not empty.  The first argument bounds the number of lines. -/
def codeEnd (ctx : Context) (stop : Nat) : Nat → Nat → Nat → Nat
  | 0, _, last => last
  | fuel + 1, n, last =>
    if stop ≤ n then last
    else if (ctx.line n).isEmpty then codeEnd ctx stop fuel (n + 1) last
    else if ctx.isCode n then codeEnd ctx stop fuel (n + 1) (n + 1)
    else last

/-- The line after fenced code, from a line within it.  The first argument bounds the number of
lines. -/
def fenceEnd (ctx : Context) (fence : Char × Nat) (stop : Nat) : Nat → Nat → Nat
  | 0, n => n
  | fuel + 1, n =>
    if stop ≤ n || (!(ctx.line n).isEmpty && ctx.isOutside n) then n
    else if (ctx.content? n).any (closesFence fence) then n + 1
    else fenceEnd ctx fence stop fuel (n + 1)

/-- The line after a block of HTML, from a line within it.  The first argument bounds the number of
lines. -/
def htmlEnd (ctx : Context) (e : Html.BlockEnd) (stop : Nat) : Nat → Nat → Nat
  | 0, n => n
  | fuel + 1, n =>
    if stop ≤ n || ctx.isOutside n then n
    else if e.isMet (ctx.line n).content then if (ctx.line n).isEmpty then n else n + 1
    else htmlEnd ctx e stop fuel (n + 1)

/-- A block of HTML, of which the first line and what ends it are given. -/
def htmlAt (ctx : Context) (e : Html.BlockEnd) (n stop : Nat) : Blocks :=
  let last :=
    if e.isMet (ctx.line n).content then n + 1
    else htmlEnd ctx e stop (ctx.lines.length + 1) (n + 1)
  let text := ctx.join ctx.indent n last
  let text := if (ctx.line (last - 1)).ended then text ++ ['\n'] else text
  .single (.html text (some n)) last

/-- The line under a heading that starts on an earlier line, from line `n` on.  The first argument
bounds the number of lines. -/
def underlineAt? (ctx : Context) (stop : Nat) : Nat → Nat → Option Nat
  | 0, _ => none
  | fuel + 1, n =>
    let l := ctx.line n
    if stop ≤ n || l.isEmpty then none
    else if ctx.isCode n then underlineAt? ctx stop fuel (n + 1)
    else if !ctx.isOutside n && isUnderline l.content then some n
    else if l.indent < 0 then underlineAt? ctx stop fuel (n + 1)
    else if ctx.interrupts .paragraph n stop then none
    else underlineAt? ctx stop fuel (n + 1)

/-- The line after a paragraph, or after a part of a definition, from a line within it.  The first
argument bounds the number of lines. -/
def paragraphEnd (ctx : Context) (what : Interruption) : Nat → Nat → Nat
  | 0, n => n
  | fuel + 1, n =>
    let l := ctx.line n
    if ctx.lineMax ≤ n || l.isEmpty then n
    else if ctx.isCode n || l.indent < 0 then paragraphEnd ctx what fuel (n + 1)
    else if ctx.interrupts what n ctx.lineMax then n
    else paragraphEnd ctx what fuel (n + 1)

/-- The content of the lines of a heading or a paragraph. -/
def proseText (ctx : Context) (n stop : Nat) : Text :=
  Text.trimBlank (ctx.join ctx.indent n stop)

/-- A heading with a line under it, or a paragraph. -/
def paragraphAt (ctx : Context) (n stop : Nat) : Blocks :=
  match underlineAt? ctx stop (ctx.lines.length + 1) (n + 1) with
  | some m => ⟨prose "heading" (proseText ctx n m) n, [], m + 1⟩
  | none =>
    let m := paragraphEnd ctx .paragraph (ctx.lines.length + 1) (n + 1)
    ⟨prose "paragraph" (proseText ctx n m) n, [], m⟩

/-- A line with the line feed after it. -/
def wholeLine (l : Line) : Text := if l.ended then l.content ++ ['\n'] else l.content

/-- A definition of a label. -/
def definitionAt? (ctx : Context) (n : Nat) : Option Blocks :=
  if ctx.isCode n || (ctx.line n).content.head? != some '[' then none
  else
    let stop := paragraphEnd ctx .definition (ctx.lines.length + 1) (n + 1)
    let text := ((ctx.lines.drop n).take (stop - n)).flatMap wholeLine
    match definition? text with
    | none => none
    | some (label, length) => some ⟨[], [label], n + 1 + (text.take length).count '\n'⟩

/-! ### Tables -/

/-- The tokens of the cells of a row. -/
def cellTokens (n : Nat) (cells : List Text) : List Token :=
  cells.flatMap fun c =>
    [.proseOpen "table_cell" none, .inline (Text.trimBlank c) [] (some (n : Int))]

/-- The rows of a table after its first two lines, and the line after it.  `missing` is the number
of cells that had to be made up so far, which is limited.  The first argument bounds the number of
rows. -/
def tableRows (ctx : Context) (columns stop : Nat) : Nat → Nat → Int → List Token × Nat
  | 0, n, _ => ([], n)
  | fuel + 1, n, missing =>
    let row := Text.trimBlank (ctx.line n).content
    if stop ≤ n || ctx.isOutside n || ctx.interrupts .quote n stop || row.isEmpty ||
        ctx.isCode n then ([], n)
    else
      let cells := rowCells row
      let missing := missing + columns - cells.length
      if 0x10000 < missing then ([], n)
      else
        let cells := (cells ++ List.replicate (columns - cells.length) []).take columns
        let (rest, last) := tableRows ctx columns stop fuel (n + 1) missing
        (.other (some n) :: cellTokens n cells ++ rest, last)

/-- A table, of which the cells of the first row are given. -/
def tableAt (ctx : Context) (cells : List Text) (n stop : Nat) : Blocks :=
  let (rows, last) := tableRows ctx cells.length stop (ctx.lines.length + 1) (n + 2) 0
  ⟨.other (some n) :: cellTokens n cells ++ rows, [], last⟩

/-! ### Quotes -/

/-- A line of a quote as it looks from within, its mark and one blank after that left out.  Of a tab
only one column is left out. -/
def unquote (l : Line) : Line :=
  let rest := l.content.drop 1
  let column := l.indent.toNat + 1
  let (rest, width, adjust, spaced) :=
    match rest with
    | ' ' :: cs => (cs, 1, 0, true)
    | '\t' :: cs =>
      if (l.base + column) % 4 = 3 then (cs, 1, 0, true) else (rest, 0, 1, true)
    | _ => (rest, 0, 0, false)
  let start := column + width
  let (shift, stop) := indentation (l.base + adjust) start rest
  ⟨rest, shift, stop - start, l.indent.toNat + 1 + (if spaced then 1 else 0), l.ended⟩

/-- The lines of a quote from line `n` on, as they look from within; `blank` tells that the line
before is an empty line of the quote.  Returns as well the line after the quote, and whether it is
there because another block starts.  Lines that go on with a paragraph need no mark. -/
def quoteLines (ctx : Context) (stop : Nat) : Nat → Bool → List Line → List Line × Nat × Bool
  | n, _, [] => ([], n, false)
  | n, blank, l :: ls =>
    if stop ≤ n || l.isEmpty then ([], n, false)
    else if isQuoteStart l.content && !ctx.isOutside n then
      let inner := unquote l
      let (rest, last, hard) := quoteLines ctx stop (n + 1) inner.isEmpty ls
      (inner :: rest, last, hard)
    else if blank then ([], n, false)
    else if ctx.interrupts .quote n stop then
      ([{ l with indent := l.indent - ctx.indent }], n, true)
    else
      let (rest, last, hard) := quoteLines ctx stop (n + 1) blank ls
      ({ l with indent := -1 } :: rest, last, hard)

/-- A quote. -/
def quoteAt (inside : ReadBlocks) (ctx : Context) (n stop : Nat) : Blocks :=
  let (inner, last, hard) := quoteLines ctx stop n false (ctx.lines.drop n)
  let lines := ctx.lines.take n ++ inner ++ ctx.lines.drop (n + inner.length)
  let blocks :=
    inside { ctx with
      lines := lines
      lineMax := if hard then last else ctx.lineMax
      indent := 0 } n last
  { blocks with tokens := .other (some n) :: blocks.tokens }

/-! ### Lists -/

/-- An item of a list, with the given mark on line `n`.  Its content starts at the column of what
follows the mark; it starts one column after the mark if nothing follows or if code does. -/
def listItemAt (inside : ReadBlocks) (ctx : Context) (mark : ListMark) (n stop : Nat) : Blocks :=
  let l := ctx.line n
  let start := l.indent.toNat + mark.length
  let rest := l.content.drop mark.length
  let (blanks, column) := indentation l.base start rest
  let empty := rest.length ≤ blanks
  let width := if empty || 4 < column - start then 1 else column - start
  let inner := { l with shift := l.shift + mark.length + blanks, indent := column }
  let ctx' :=
    { ctx with
      lines := ctx.lines.set n inner
      listIndent := ctx.indent
      indent := start + width }
  if empty && (ctx.line (n + 1)).isEmpty then ⟨[], [], min (n + 2) stop⟩
  else inside ctx' n stop

/-- The items of a list from one on whose mark is given.  The list ends where no item with a mark of
the same sort starts.  The first argument bounds the number of items. -/
def listItems (inside : ReadBlocks) (ctx : Context) (stop : Nat) : Nat → ListMark → Nat → Blocks
  | 0, _, n => ⟨[], [], n⟩
  | fuel + 1, mark, n =>
    let item := listItemAt inside ctx mark n stop
    let next := item.line
    let more : Option ListMark :=
      if stop ≤ next || ctx.isOutside next || ctx.interrupts .listItem next stop then none
      else
        match (ctx.content? next).bind listMarkOf? with
        | none => none
        | some m =>
          if m.number.isSome == mark.number.isSome && m.char == mark.char then some m else none
    match more with
    | none => item
    | some m =>
      let rest := listItems inside ctx stop fuel m next
      ⟨item.tokens ++ rest.tokens, item.labels ++ rest.labels, rest.line⟩

/-- A list, of which the mark of the first item is given. -/
def listAt (inside : ReadBlocks) (ctx : Context) (mark : ListMark) (n stop : Nat) : Blocks :=
  let items := listItems inside ctx stop (ctx.lines.length + 1) mark n
  { items with tokens := .other (some n) :: items.tokens }

/-! ### All blocks -/

/-- The block that starts on a line which is not empty. -/
def blockAt (inQuote inList : ReadBlocks) (ctx : Context) (n stop : Nat) : Blocks :=
  match ctx.table? n stop with
  | some cells => tableAt ctx cells n stop
  | none =>
    match ctx.content? n with
    | none => .single (.other (some n)) (codeEnd ctx stop (ctx.lines.length + 1) (n + 1) (n + 1))
    | some t =>
      match fenceOf? t with
      | some fence =>
        .single (.other (some n)) (fenceEnd ctx fence stop (ctx.lines.length + 1) (n + 1))
      | none =>
        if isQuoteStart t then quoteAt inQuote ctx n stop
        else if isRule t then .single (.other (some n)) (n + 1)
        else
          match ctx.listMark? n false with
          | some mark => listAt inList ctx mark n stop
          | none =>
            match definitionAt? ctx n with
            | some blocks => blocks
            | none =>
              match Html.blockStart? t with
              | some (e, _) => htmlAt ctx e n stop
              | none =>
                match headingOf? t with
                | some content => ⟨prose "heading" content n, [], n + 1⟩
                | none => paragraphAt ctx n stop

/-- The blocks from line `n` up to the end of a container, or up to a line outside of it.  The
fourth argument bounds the number of blocks. -/
def blockLoop (inQuote inList : ReadBlocks) (ctx : Context) : Nat → Nat → Nat → Blocks
  | 0, n, _ => ⟨[], [], n⟩
  | fuel + 1, n, stop =>
    if stop ≤ n then ⟨[], [], n⟩
    else
      let n := ctx.skipEmpty (ctx.lines.length + 1) n
      if stop ≤ n || ctx.isOutside n then ⟨[], [], n⟩
      else
        let block := blockAt inQuote inList ctx n stop
        let next :=
          if block.line < stop && (ctx.line block.line).isEmpty then block.line + 1
          else block.line
        let rest := blockLoop inQuote inList ctx fuel next stop
        ⟨block.tokens ++ rest.tokens, block.labels ++ rest.labels, rest.line⟩

/-- What is read where no container may be nested any more: nothing, to the end. -/
def skipBlocks : ReadBlocks := fun ctx n stop =>
  let m := ctx.skipEmpty (ctx.lines.length + 1) n
  if stop ≤ n then ⟨[], [], n⟩
  else if stop ≤ m || ctx.isOutside m then ⟨[], [], m⟩
  else ⟨[], [], stop⟩

/-- The blocks of a container, in which containers may be nested to the given depth.  A quote takes
up one level, and a list takes up two, one of them for its items. -/
def blocksAt : Nat → ReadBlocks
  | 0 => skipBlocks
  | 1 => fun ctx n stop => blockLoop skipBlocks skipBlocks ctx (ctx.lines.length + 1) n stop
  | depth + 2 => fun ctx n stop =>
    blockLoop (blocksAt (depth + 1)) (blocksAt depth) ctx (ctx.lines.length + 1) n stop

/-! ### Documents -/

/-- A text with all line ends written as line feeds, and without the character NUL. -/
def normalize (text : Text) : Text :=
  (Text.unifyNewlines text).map fun c => if c.toNat = 0 then Char.ofNat 0xFFFD else c

/-- Gives an inline token its children. -/
def Token.withChildren (labels : List Text) : Token → Token
  | inline content _ line => inline content (inlineTokens labels content) line
  | t => t

/-- The tokens of a document. -/
def parse (text : Text) : List Token :=
  let lines := linesOf (normalize text)
  let blocks := blocksAt maxNesting ⟨lines, lines.length, 0, -1⟩ 0 lines.length
  blocks.tokens.map (Token.withChildren blocks.labels)

example : parse "a *b*\n".toList =
    [.proseOpen "paragraph" (some 0),
      .inline "a *b*".toList
        [.text "a ".toList, .wrapperOpen .emphasis ['*'], .text ['b'],
          .wrapperClose .emphasis ['*']] (some 0)] := by decide

end CjkProse.Markdown
