import CjkProse.Markdown.Block.Line
import CjkProse.Markdown.Html
import CjkProse.Markdown.Link

/-!
# How lines start blocks

Each sort of block is recognised by the line it starts on, given the columns at which the container
around it starts.  A line that is indented by four columns more is code and starts nothing else.

## Main definitions

* `Context` — the lines and the container that a block is in.
* `fenceAt?`, `isRule`, `headingAt?`, `listMarkAt?`, `tableAt?`, … — the starts of blocks.
* `Interruption`, `interrupts` — whether a line ends the block before it.
-/

namespace CjkProse.Markdown

/-- The lines of a document and the container that a block is in. -/
structure Context where
  /-- The lines, as they look from within the container. -/
  lines : List Line
  /-- The number of lines that paragraphs may go on to. -/
  lineMax : Nat
  /-- The column at which the content of the container starts. -/
  indent : Int
  /-- The column at which the content of the container around the innermost list starts; negative
  outside of lists. -/
  listIndent : Int

namespace Context

/-- The line of an index; beyond the last one there are empty lines. -/
def line (ctx : Context) (n : Nat) : Line := ctx.lines[n]?.getD ⟨[], 0, 0, 0, false⟩

/-- Whether a line is indented like code. -/
def isCode (ctx : Context) (n : Nat) : Bool := ctx.indent + 4 ≤ (ctx.line n).indent

/-- Whether a line is indented less than the container asks for. -/
def isOutside (ctx : Context) (n : Nat) : Bool := (ctx.line n).indent < ctx.indent

/-- What stands on a line that is not code. -/
def content? (ctx : Context) (n : Nat) : Option Text :=
  if ctx.isCode n then none else some (ctx.line n).content

/-- The lines from `n` up to `stop`, without the indentation of the container, joined. -/
def join (ctx : Context) (indent : Int) (n stop : Nat) : Text :=
  Text.join ['\n'] (((ctx.lines.drop n).take (stop - n)).map (Line.cut indent))

/-- The first line from `n` on that is not empty.  The first argument bounds the number of steps. -/
def skipEmpty (ctx : Context) : Nat → Nat → Nat
  | 0, n => n
  | fuel + 1, n =>
    if n < ctx.lineMax && (ctx.line n).isEmpty then skipEmpty ctx fuel (n + 1) else n

end Context

/-! ### Fences, rules, headings and quotes -/

/-- A fence that starts a block of code: its character and its length. -/
def fenceOf? (t : Text) : Option (Char × Nat) :=
  match t with
  | [] => none
  | c :: _ =>
    if c == '~' || c.toNat == 0x60 then
      let length := (t.takeWhile fun d => d == c).length
      if length < 3 || (c.toNat == 0x60 && (t.drop length).contains c) then none
      else some (c, length)
    else none

/-- Whether a text is a fence that ends a block of code which the given one started. -/
def closesFence (fence : Char × Nat) (t : Text) : Bool :=
  let length := (t.takeWhile fun d => d == fence.1).length
  fence.2 ≤ length && (t.drop length).all isSpaceOrTab

/-- Whether a text is a rule: three or more of one mark and nothing else but blanks. -/
def isRule (t : Text) : Bool :=
  match t with
  | [] => false
  | c :: cs =>
    (c == '*' || c == '-' || c == '_') && cs.all (fun d => d == c || isSpaceOrTab d) &&
      3 ≤ t.count c

/-- A text without some characters at its end. -/
def dropTail (p : Char → Bool) (t : Text) : Text := (t.reverse.dropWhile p).reverse

/-- What a heading says, its marks at the start and at the end left out. -/
def headingOf? (t : Text) : Option Text :=
  let level := (t.takeWhile fun c => c == '#').length
  let rest := t.drop level
  if level = 0 || 6 < level || !(rest.isEmpty || rest.head?.any isSpaceOrTab) then none
  else
    let body := dropTail isSpaceOrTab rest
    let bare := dropTail (fun c => c == '#') body
    some (Text.trimBlank (if bare.getLast?.any isSpaceOrTab then bare else body))

/-- Whether a text is a line under a heading. -/
def isUnderline (t : Text) : Bool :=
  match t with
  | [] => false
  | c :: _ => (c == '-' || c == '=') && (t.dropWhile fun d => d == c).all isSpaceOrTab

/-- Whether a text starts a quote. -/
def isQuoteStart (t : Text) : Bool := t.head? == some '>'

/-! ### Lists -/

/-- The mark of an item of a list. -/
structure ListMark where
  /-- Its number, if it has one. -/
  number : Option Nat
  /-- Its last character. -/
  char : Char
  /-- The number of characters it takes up. -/
  length : Nat
  deriving DecidableEq, Repr

/-- Whether a list mark may end before a text. -/
def endsMark (t : Text) : Bool := t.isEmpty || t.head?.any isSpaceOrTab

/-- The mark of an item at the head of a text. -/
def listMarkOf? (t : Text) : Option ListMark :=
  let digits := t.takeWhile Html.isAsciiDigit
  match digits, t.drop digits.length with
  | [], c :: rest =>
    if (c == '*' || c == '-' || c == '+') && endsMark rest then some ⟨none, c, 1⟩ else none
  | _ :: _, c :: rest =>
    if digits.length ≤ 9 && (c == ')' || c == '.') && endsMark rest then
      some ⟨some (numeral 10 decimalValue? digits), c, digits.length + 1⟩
    else none
  | _, [] => none

/-- The mark of an item on a line.  A list may interrupt a paragraph only if its first item is not
empty and, if numbered, has the number one; and what is indented too far to be an item of the list
around it, but not far enough to be in its last item, is no item. -/
def Context.listMark? (ctx : Context) (n : Nat) (inParagraph : Bool) : Option ListMark := do
  let t ← ctx.content? n
  let l := ctx.line n
  if 0 ≤ ctx.listIndent && ctx.listIndent + 4 ≤ l.indent && l.indent < ctx.indent then none
  else
    let mark ← listMarkOf? t
    let strict := inParagraph && ctx.indent ≤ l.indent
    if strict && (mark.number.any (· != 1) || (t.drop mark.length).all isSpaceOrTab) then none
    else some mark

/-! ### Tables -/

/-- The cells of a row.  A bar after a backslash is part of a cell, and the backslash is not.
`escaped` tells that a backslash is before the text, and `cell` is the cell so far, in reverse. -/
def splitCells (escaped : Bool) (cell : Text) : Text → List Text
  | [] => [cell.reverse]
  | c :: cs =>
    if c == '|' then
      if escaped then splitCells false ('|' :: cell.drop 1) cs
      else cell.reverse :: splitCells false [] cs
    else splitCells (c == '\\') (c :: cell) cs

/-- The cells of a row, without the empty ones outside of the bars at its ends. -/
def rowCells (t : Text) : List Text :=
  let cells := splitCells false [] t
  let cells := if cells.head? == some [] then cells.drop 1 else cells
  if cells.getLast? == some [] then cells.dropLast else cells

/-- Whether a text aligns a column. -/
def isAlignment (t : Text) : Bool :=
  let t := if t.head? == some ':' then t.drop 1 else t
  let t := if t.getLast? == some ':' then t.dropLast else t
  !t.isEmpty && t.all fun c => c == '-'

/-- The number of columns that the second line of a table tells, if the pieces between its bars all
align one; the first and the last piece may be empty. -/
def alignmentCount? (pieces : List Text) : Option Nat :=
  let pieces := pieces.map Text.trimBlank
  let inner := if pieces.head? == some [] then pieces.drop 1 else pieces
  let inner := if inner.getLast? == some [] then inner.dropLast else inner
  if inner.all isAlignment then some inner.length else none

/-- Whether a text may be the second line of a table, by its characters. -/
def isDelimiterRow (t : Text) : Bool :=
  let isBar (c : Char) : Bool := c == '|' || c == '-' || c == ':'
  match t with
  | c :: d :: rest =>
    isBar c && (isBar d || isSpaceOrTab d) && !(c == '-' && isSpaceOrTab d) &&
      rest.all fun e => isBar e || isSpaceOrTab e
  | _ => false

/-- The cells of the first row of a table that starts on a line, given where the container ends. -/
def Context.table? (ctx : Context) (n stop : Nat) : Option (List Text) := do
  if stop < n + 2 || ctx.isOutside (n + 1) then none
  else
    let second ← ctx.content? (n + 1)
    if !isDelimiterRow second then none
    else
      let columns ← alignmentCount? (Text.splitOn '|' second)
      let first ← ctx.content? n
      let first := Text.trimBlank first
      if !first.contains '|' then none
      else
        let cells := rowCells first
        if cells.isEmpty || cells.length != columns then none else some cells

/-! ### Interruptions -/

/-- What a line may interrupt. -/
inductive Interruption
  /-- A paragraph. -/
  | paragraph
  /-- The definition of a label. -/
  | definition
  /-- A paragraph in a quote, or a table. -/
  | quote
  /-- An item of a list. -/
  | listItem
  deriving DecidableEq, Repr

/-- Whether a line starts a block of another sort than what it follows, which it then ends. -/
def Context.interrupts (ctx : Context) (what : Interruption) (n stop : Nat) : Bool :=
  match ctx.content? n with
  | none => false
  | some t =>
    (fenceOf? t).isSome || isQuoteStart t || isRule t ||
      ((what == .paragraph || what == .definition) && (ctx.table? n stop).isSome) ||
      (what != .listItem &&
        ((ctx.listMark? n (what == .paragraph)).isSome || (headingOf? t).isSome ||
          (Html.blockStart? t).any Prod.snd))

end CjkProse.Markdown
