import CjkProse.Event
import CjkProse.Markdown.Token
import CjkProse.Text.Quoted

/-!
# Placing inline tokens

Inline tokens carry no positions.  They are placed by walking over the content of their block: text
stands there as it is, a wrapper covers its mark, and code, escapes, images and bare links cover all
of what they are written as.  Each token takes up a piece of the content right after the last one,
so the pieces cover the content without a gap.

A place is told as the number of characters before it, and the walk carries the content that is
still to come.

## Main definitions

* `AlignError` — why a token cannot be placed.
* `Piece` — an event and the number of characters it covers.
* `placeInline` — the pieces of a content.
-/

namespace CjkProse

open Markdown (Inline)

/-- Why the tokens of a block cannot be placed in the source. -/
inductive AlignError
  /-- The source has no such line. -/
  | lineOutOfRange (line : Nat)
  /-- The content does not stand on the line. -/
  | contentNotFound (line : Nat)
  /-- The mark of a token does not stand where it should. -/
  | expected (markup : Text) (pos : Nat)
  /-- A text does not stand where it should. -/
  | textMismatch (pos : Nat)
  /-- Inline code does not end. -/
  | unclosedCode (pos : Nat)
  /-- An address between angle brackets does not end. -/
  | unclosedDestination (pos : Nat)
  /-- A bracket is not closed. -/
  | unbalanced (opener closer : Char) (pos : Nat)
  /-- A bare link does not end. -/
  | unclosedAutolink (pos : Nat)
  /-- The token that ends a bare link is missing. -/
  | missingLinkClose
  /-- A token of a sort that cannot be placed. -/
  | unsupported (sort : Text)
  /-- Some content is left over. -/
  | trailing (pos : Nat)
  deriving DecidableEq, Repr, Inhabited

namespace AlignError

/-- The wording of an error. -/
def message : AlignError → Text
  | lineOutOfRange n => "line ".toList ++ Text.ofNat n ++ " out of range".toList
  | contentNotFound n => "content not found on line ".toList ++ Text.ofNat (n + 1)
  | expected m pos => "expected ".toList ++ Quoted.quote m ++ " at ".toList ++ Text.ofNat pos
  | textMismatch pos => "text mismatch at ".toList ++ Text.ofNat pos
  | unclosedCode pos => "unclosed code span at ".toList ++ Text.ofNat pos
  | unclosedDestination pos => "unclosed link destination at ".toList ++ Text.ofNat pos
  | unbalanced o c pos => "unbalanced ".toList ++ [o, c] ++ " at ".toList ++ Text.ofNat pos
  | unclosedAutolink pos => "unclosed autolink at ".toList ++ Text.ofNat pos
  | missingLinkClose => "missing link_close".toList
  | unsupported sort => "unsupported inline token ".toList ++ Quoted.quote sort
  | trailing pos => "trailing content at ".toList ++ Text.ofNat pos

end AlignError

/-- An event, and how many characters of the content it covers. -/
structure Piece where
  /-- The event. -/
  event : Event
  /-- The number of characters it covers. -/
  length : Nat
  deriving DecidableEq, Repr, Inhabited

/-! ### Walking over one token

Each function takes the place `pos` and the content from there on, and returns the number of
characters that the token covers. -/

/-- The length of a mark that must stand here. -/
def expect (markup : Text) (pos : Nat) (content : Text) : Except AlignError Nat :=
  if !markup.isEmpty && markup.isPrefixOf content then .ok markup.length
  else .error (.expected markup pos)

/-- The number of spaces and tabs at the head of a content. -/
def blanks (content : Text) : Nat := (content.takeWhile fun c => c == ' ' || c == '\t').length

/-- The length of a line end: the blanks before it, the backslash of a hard one, the line feed, and
the blanks after it. -/
def breakLength (pos : Nat) (content : Text) : Except AlignError Nat :=
  let before := blanks content
  match content.drop before with
  | '\\' :: '\n' :: rest => .ok (before + 2 + blanks rest)
  | '\n' :: rest => .ok (before + 1 + blanks rest)
  | _ => .error (.expected ['\n'] (pos + before))

/-- How many characters come before the end of the first run of exactly `width` backticks.  `run` is
the number of backticks directly before the content. -/
def backtickRunEnd (width : Nat) (run : Nat) : Text → Option Nat
  | '`' :: cs => (backtickRunEnd width (run + 1) cs).map (· + 1)
  | [] => if run = width && 0 < run then some 0 else none
  | _ :: cs =>
    if run = width && 0 < run then some 0 else (backtickRunEnd width 0 cs).map (· + 1)

/-- The length of inline code. -/
def codeLength (markup : Text) (pos : Nat) (content : Text) : Except AlignError Nat := do
  let start ← expect markup pos content
  match backtickRunEnd markup.length 0 (content.drop start) with
  | some n => .ok (start + n)
  | none => .error (.unclosedCode pos)

/-- The number of characters before the first occurrence of `c`. -/
def indexOf? (c : Char) (content : Text) : Option Nat := content.findIdx? (· == c)

/-- What a walk to a closing bracket has met so far: the depth of nesting, the quotation mark it is
within, if any, and the character just passed. -/
structure Nesting where
  /-- The number of brackets open. -/
  depth : Nat
  /-- The quotation mark that ends the title the walk is within. -/
  quote : Option Char
  /-- The character just passed. -/
  last : Char
  deriving Repr

/-- Walks from inside a bracket to the bracket that closes it and returns the number of characters
passed, that bracket included.  A backslash takes the next character with it.  In round brackets an
address between angle brackets may come first, and a quoted title after a blank; neither counts
brackets.  `skip` is the number of characters to pass without a look, and `pos` the place of the
content. -/
def closingBracket (opener closer : Char) (start pos skip : Nat) (state : Nesting) :
    Text → Except AlignError Nat
  | [] => .error (.unbalanced opener closer start)
  | c :: cs =>
    let step (skip : Nat) (state : Nesting) : Except AlignError Nat :=
      (· + 1) <$> closingBracket opener closer start (pos + 1) skip { state with last := c } cs
    if 0 < skip then step (skip - 1) state
    else if c == '\\' then step 1 state
    else
      match state.quote with
      | some q => step 0 { state with quote := if c == q then none else some q }
      | none =>
        if c == '<' && opener == '(' && state.depth == 1 && state.last == '(' then
          match indexOf? '>' (c :: cs) with
          | none => .error (.unclosedDestination pos)
          | some n => step n state
        else if (c == '"' || c == '\'') && opener == '(' &&
            (state.last == ' ' || state.last == '\t' || state.last == '\n') then
          step 0 { state with quote := some c }
        else if c == opener then step 0 { state with depth := state.depth + 1 }
        else if c == closer then
          if state.depth ≤ 1 then .ok 1 else step 0 { state with depth := state.depth - 1 }
        else step 0 state

/-- The length of a bracket and all that it encloses. -/
def bracketLength (opener closer : Char) (pos : Nat) (content : Text) : Except AlignError Nat :=
  match content with
  | c :: cs =>
    if c == opener then
      (· + 1) <$> closingBracket opener closer pos (pos + 1) 0 ⟨1, none, opener⟩ cs
    else .error (.expected [opener] pos)
  | [] => .error (.expected [opener] pos)

/-- The length of the address or the label after the text of a link; zero if there is none. -/
def destinationLength (pos : Nat) (content : Text) : Except AlignError Nat :=
  match content with
  | '(' :: _ => bracketLength '(' ')' pos content
  | '[' :: _ => bracketLength '[' ']' pos content
  | _ => .ok 0

/-- The tokens after the next one that ends a link. -/
def afterLinkClose : List Inline → Except AlignError (List Inline)
  | [] => .error .missingLinkClose
  | .linkClose :: rest => .ok rest
  | _ :: rest => afterLinkClose rest

/-! ### The tokens of a content -/

/-- The event of a token and the number of characters it covers.  A text that covers none has no
event, and of a bare link the start is taken for the whole. -/
def placeToken (token : Inline) (pos : Nat) (content : Text) :
    Except AlignError (Option Event × Nat) :=
  match token with
  | .text t =>
    if t.isPrefixOf content then
      .ok (if t.isEmpty then none else some ⟨.text, "", t⟩, t.length)
    else .error (.textMismatch pos)
  | .lineBreak hard => do
    let n ← breakLength pos content
    .ok (some ⟨.lineBreak, if hard then "hardbreak" else "softbreak", []⟩, n)
  | .code t markup => do
    let n ← codeLength markup pos content
    .ok (some ⟨.code, "", t⟩, n)
  | .wrapperOpen w markup => do
    let n ← expect markup pos content
    .ok (some ⟨.opening, w.tag, []⟩, n)
  | .wrapperClose w markup => do
    let n ← expect markup pos content
    .ok (some ⟨.closing, w.tag, []⟩, n)
  | .linkOpen true => do
    let _ ← expect ['<'] pos content
    match indexOf? '>' content with
    | none => .error (.unclosedAutolink pos)
    | some n => .ok (some ⟨.whole, "autolink", []⟩, n + 1)
  | .linkOpen false => do
    let n ← expect ['['] pos content
    .ok (some ⟨.opening, "link", []⟩, n)
  | .linkClose => do
    let n ← expect [']'] pos content
    let m ← destinationLength (pos + n) (content.drop n)
    .ok (some ⟨.closing, "link", []⟩, n + m)
  | .image => do
    let n ← expect ['!'] pos content
    let m ← bracketLength '[' ']' (pos + n) (content.drop n)
    let k ← destinationLength (pos + n + m) (content.drop (n + m))
    .ok (some ⟨.whole, "image", []⟩, n + m + k)
  | .html t => do
    let n ← expect t pos content
    .ok (some ⟨.html, "", t⟩, n)
  | .special sort t markup => do
    let n ← expect markup pos content
    .ok (some ⟨.whole, sort, t⟩, n)
  | .other sort => .error (.unsupported sort)

/-- How many of the tokens after a token belong to it: those of a bare link up to its end. -/
def ownedTokens (token : Inline) (rest : List Inline) : Except AlignError Nat :=
  match token with
  | .linkOpen true => do
    let after ← afterLinkClose rest
    .ok (rest.length - after.length)
  | _ => .ok 0

/-- Places the tokens one after the other.  `skip` is the number of tokens that belong to one placed
before. -/
def placeFrom (pos : Nat) (content : Text) (skip : Nat) :
    List Inline → Except AlignError (List Piece)
  | [] => if content.isEmpty then .ok [] else .error (.trailing pos)
  | token :: rest =>
    if 0 < skip then placeFrom pos content (skip - 1) rest
    else do
      let (event, n) ← placeToken token pos content
      let owned ← ownedTokens token rest
      let pieces ← placeFrom (pos + n) (content.drop n) owned rest
      .ok (match event with
        | none => pieces
        | some e => ⟨e, n⟩ :: pieces)

/-- The pieces of a content, given its tokens. -/
def placeInline (content : Text) (children : List Inline) : Except AlignError (List Piece) :=
  placeFrom 0 content 0 children

end CjkProse
