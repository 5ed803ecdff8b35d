import CjkProse.Markdown.Inline.Delimiter
import CjkProse.Markdown.Inline.Lexeme

/-!
# Inline content

The tokens of a paragraph, a heading or a table cell.  The content is walked over once; text is
gathered until a piece of markup comes, and the text of a link is walked over like the rest, with
the end of the link kept for when it is reached.

## Main definitions

* `Walk` — how far a walk has come.
* `inlineTokens` — the tokens of a content, given the labels that are defined in the document.
-/

namespace CjkProse.Markdown

/-- A link whose text the walk is in. -/
structure OpenLink where
  /-- The place of the bracket that ends its text. -/
  labelEnd : Nat
  /-- The place after it. -/
  stop : Nat
  /-- The scope of the marks around it. -/
  outerScope : Nat
  deriving Repr

/-- How far a walk has come. -/
structure Walk where
  /-- The tokens so far, the last one first. -/
  tokens : List Inline
  /-- The text gathered since, the last character first. -/
  pending : Text
  /-- The marks so far, the last one first. -/
  marks : List Mark
  /-- The links that the place is in, the innermost first. -/
  links : List OpenLink
  /-- The scope of marks. -/
  scope : Nat
  /-- The number of scopes so far. -/
  scopes : Nat
  /-- The ends of pieces that are known. -/
  cache : SkipCache
  /-- The character before the place. -/
  last : Char

namespace Walk

/-- Makes the text gathered a token. -/
def flush (w : Walk) : Walk :=
  if w.pending.isEmpty then w
  else { w with tokens := .text w.pending.reverse :: w.tokens, pending := [] }

/-- Adds a token. -/
def push (token : Inline) (w : Walk) : Walk :=
  let w := w.flush
  { w with tokens := token :: w.tokens }

/-- Adds characters to the text. -/
def gather (t : Text) (w : Walk) : Walk := { w with pending := t.reverse ++ w.pending }

/-- Adds a mark and the token that it is for the time being. -/
def pushMark (text : Text) (char : Char) (length : Nat) (f : Flanking) (w : Walk) : Walk :=
  let w := w.push (.text text)
  { w with
    marks := ⟨char, length, w.tokens.length - 1, f.opens, f.closes, none, w.scope⟩ :: w.marks }

/-- Adds some marks of one run. -/
def pushMarks (text : Text) (char : Char) (length : Nat) (f : Flanking) : Nat → Walk → Walk
  | 0, w => w
  | n + 1, w => pushMarks text char length f n (w.pushMark text char length f)

/-- Ends a line.  Two or more spaces before make the line end hard, and spaces there are dropped. -/
def pushNewline (w : Walk) : Walk :=
  match w.pending with
  | ' ' :: ' ' :: rest =>
    { w with pending := rest.dropWhile fun c => c == ' ' }.push (.lineBreak true)
  | ' ' :: rest => { w with pending := rest }.push (.lineBreak false)
  | _ => w.push (.lineBreak false)

/-- Starts a link whose text ends at `labelEnd` and that ends before `stop`. -/
def openLink (labelEnd stop : Nat) (w : Walk) : Walk :=
  let w := w.push (.linkOpen false)
  { w with
    links := ⟨labelEnd, stop, w.scope⟩ :: w.links
    scope := w.scopes + 1
    scopes := w.scopes + 1 }

/-- Ends the innermost link. -/
def closeLink (link : OpenLink) (w : Walk) : Walk :=
  let w := w.push .linkClose
  { w with links := w.links.drop 1, scope := link.outerScope }

/-- Adds the tokens of a piece at place `pos`, whose characters are given. -/
def pushLexeme (lexeme : Lexeme) (pos : Nat) (chars : Text) (w : Walk) : Walk :=
  match lexeme with
  | .plain => w.gather chars
  | .newline => w.pushNewline
  | .escapedNewline => w.push (.lineBreak true)
  | .escape content => w.push (.special "escape" content chars)
  | .code content markup => w.push (.code content markup)
  | .bareLink =>
    ((w.push (.linkOpen true)).push (.text ((chars.drop 1).dropLast))).push .linkClose
  | .link n => w.openLink (pos + n + 1) (pos + chars.length)
  | .image => w.push .image
  | .html => w.push (.html chars)
  | .entity content => w.push (.special "entity" content chars)

/-- Adds a run of marks `c`, after which `after` stands, or tells that it is text. -/
def pushRun (c : Char) (length : Nat) (after : Char) (w : Walk) : Option Walk :=
  if c == '~' then
    let f := flanking true w.last after
    if length < 2 then none
    else
      let w := if length % 2 == 1 then w.push (.text ['~']) else w
      some (w.pushMarks ['~', '~'] '~' 0 f (length / 2))
  else some (w.pushMarks [c] c length (flanking (c == '*') w.last after) length)

end Walk

/-- Deals with the piece at the head of a text, which is no longer than the link around it.  Returns
how many characters after the first one belong to the piece. -/
def stepAt (labels : List Text) (pos : Nat) (t : Text) (w : Walk) : Nat × Walk :=
  match t with
  | [] => (0, w)
  | c :: _ =>
    if maxNesting ≤ w.links.length then (0, w.gather [c])
    else if c == '*' || c == '_' || c == '~' then
      let length := (t.takeWhile fun d => d == c).length
      match w.pushRun c length ((t.drop length).headD ' ') with
      | some w => (length - 1, w)
      | none => (0, w.gather [c])
    else
      let (found, cache) :=
        lexemeAt (skipPiece labels (maxNesting - w.links.length)) labels pos t w.cache
      let w := { w with cache := cache }
      match found with
      | none => (0, w.gather [c])
      | some (.link n, m) => (0, w.pushLexeme (.link n) pos (t.take m))
      | some (lexeme, m) => (m - 1, w.pushLexeme lexeme pos (t.take m))

/-- Walks over a content from place `pos` on, where `pending` characters belong to a piece already
dealt with. -/
def walkFrom (labels : List Text) (pending pos : Nat) : Text → Walk → Walk
  | [], w => w.flush
  | c :: cs, w =>
    let next (pending : Nat) (w : Walk) : Walk :=
      walkFrom labels pending (pos + 1) cs { w with last := c }
    if 0 < pending then next (pending - 1) w
    else
      match w.links with
      | [] =>
        let (pending, w) := stepAt labels pos (c :: cs) w
        next pending w
      | link :: _ =>
        if link.labelEnd = pos then next (link.stop - pos - 1) (w.closeLink link)
        else
          let (pending, w) := stepAt labels pos ((c :: cs).take (link.labelEnd - pos)) w
          next pending w

/-- Makes wrappers of the marks of the scopes up to the given number, each scope on its own. -/
def resolveMarks (marks : List Mark) (scopes : Nat) (tokens : List Inline) : List Inline :=
  let groups := (List.range (scopes + 1)).map fun s => pairMarks (marks.filter fun m => m.scope == s)
  let tokens := groups.foldl (fun tokens g => strikethroughs g tokens) tokens
  groups.foldl (fun tokens g => emphases g g.length false tokens) tokens

/-- The tokens of a content, given the labels that are defined in the document. -/
def inlineTokens (labels : List Text) (content : Text) : List Inline :=
  let w := walkFrom labels 0 0 content ⟨[], [], [], [], 0, 0, [], ' '⟩
  joinTexts (resolveMarks w.marks.reverse w.scopes w.tokens.reverse)

example : inlineTokens [] "a *b* c".toList =
    [.text "a ".toList, .wrapperOpen .emphasis ['*'], .text ['b'],
      .wrapperClose .emphasis ['*'], .text " c".toList] := by decide

end CjkProse.Markdown
