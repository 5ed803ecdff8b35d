import CjkProse.Unicode.Case

/-!
# HTML

The pieces of HTML that may stand in a document: a tag, a comment, a processing instruction, a
declaration or a CDATA section in a line, and the starts and ends of blocks of HTML.

Each recogniser takes a text and returns what is left after the piece at its head.

## Main definitions

* `Html.openTag?`, `Html.closeTag?`, `Html.comment?`, … — what is left after a piece.
* `Html.inlineLength?` — the length of a piece of HTML within a line.
* `Html.BlockEnd`, `Html.blockStart?` — how a line starts a block of HTML, and what ends it.
-/

namespace CjkProse.Markdown.Html

/-- ASCII letters. -/
def isAsciiLetter (c : Char) : Bool := ('a' ≤ c && c ≤ 'z') || ('A' ≤ c && c ≤ 'Z')

/-- ASCII digits. -/
def isAsciiDigit (c : Char) : Bool := '0' ≤ c && c ≤ '9'

/-- The characters of the name of a tag, after its first letter. -/
def isTagChar (c : Char) : Bool := isAsciiLetter c || isAsciiDigit c || c == '-'

/-- The first character of the name of an attribute. -/
def isAttributeStart (c : Char) : Bool := isAsciiLetter c || c == '_' || c == ':'

/-- The characters of the name of an attribute, after its first. -/
def isAttributeChar (c : Char) : Bool :=
  isAsciiLetter c || isAsciiDigit c || c == ':' || c == '.' || c == '_' || c == '-'

/-- The characters of a value without quotation marks. -/
def isBareValueChar (c : Char) : Bool :=
  c.toNat > 0x20 && c != '"' && c != '\'' && c != '=' && c != '<' && c != '>' && c.toNat != 0x60

/-- What is left after the blanks at the head. -/
def skipBlank (t : Text) : Text := t.dropWhile Unicode.isBlank

/-- What is left after the first occurrence of a piece. -/
def after? (piece : Text) (t : Text) : Option Text :=
  (Text.find? piece t).map fun n => t.drop (n + piece.length)

/-- What is left after a name of a tag. -/
def tagName? : Text → Option Text
  | [] => none
  | c :: cs => if isAsciiLetter c then some (cs.dropWhile isTagChar) else none

/-- What is left after the value of an attribute. -/
def value? : Text → Option Text
  | [] => none
  | '\'' :: cs => after? ['\''] cs
  | '"' :: cs => after? ['"'] cs
  | c :: cs => if isBareValueChar c then some (cs.dropWhile isBareValueChar) else none

/-- What is left after the value that may follow the name of an attribute. -/
def optionalValue (t : Text) : Text :=
  match skipBlank t with
  | '=' :: rest => (value? (skipBlank rest)).getD t
  | _ => t

/-- What is left after one attribute, which starts with a blank. -/
def attribute? (t : Text) : Option Text :=
  let rest := skipBlank t
  if rest.length < t.length then
    match rest with
    | [] => none
    | c :: cs =>
      if isAttributeStart c then some (optionalValue (cs.dropWhile isAttributeChar)) else none
  else none

/-- What is left after all attributes.  The first argument bounds their number. -/
def attributes : Nat → Text → Text
  | 0, t => t
  | fuel + 1, t =>
    match attribute? t with
    | none => t
    | some rest => attributes fuel rest

/-- What is left after an opening tag. -/
def openTag? : Text → Option Text
  | '<' :: cs =>
    match tagName? cs with
    | none => none
    | some rest =>
      match skipBlank (attributes rest.length rest) with
      | '/' :: '>' :: rest => some rest
      | '>' :: rest => some rest
      | _ => none
  | _ => none

/-- What is left after a closing tag. -/
def closeTag? : Text → Option Text
  | '<' :: '/' :: cs =>
    match tagName? cs with
    | none => none
    | some rest =>
      match skipBlank rest with
      | '>' :: rest => some rest
      | _ => none
  | _ => none

/-- What is left after the body of a comment and its end.  Two hyphens may stand in the body unless
a `>` follows; three hyphens are passed over at once. -/
def commentBody? : Text → Option Text
  | '-' :: '-' :: '>' :: rest => some rest
  | '-' :: '-' :: _ :: rest => commentBody? rest
  | ['-', '-'] => none
  | ['-'] => none
  | '-' :: _ :: rest => commentBody? rest
  | _ :: rest => commentBody? rest
  | [] => none

/-- What is left after a comment. -/
def comment? (t : Text) : Option Text :=
  match Text.dropPrefix? "<!--".toList t with
  | none => none
  | some ('>' :: rest) => some rest
  | some ('-' :: '>' :: rest) => some rest
  | some rest => commentBody? rest

/-- What is left after a processing instruction. -/
def instruction? (t : Text) : Option Text :=
  (Text.dropPrefix? "<?".toList t).bind (after? "?>".toList)

/-- What is left after a declaration. -/
def declaration? : Text → Option Text
  | '<' :: '!' :: c :: cs => if isAsciiLetter c then after? ['>'] cs else none
  | _ => none

/-- What is left after a CDATA section. -/
def cdata? (t : Text) : Option Text :=
  (Text.dropPrefix? "<![CDATA[".toList t).bind (after? "]]>".toList)

/-- The length of the piece of HTML at the head of a text, if there is one. -/
def inlineLength? (t : Text) : Option Nat :=
  let rest := openTag? t <|> closeTag? t <|> comment? t <|> instruction? t <|> declaration? t <|>
    cdata? t
  rest.map fun r => t.length - r.length

/-! ### Blocks of HTML -/

/-- What ends a block of HTML. -/
inductive BlockEnd
  /-- A line that holds one of some pieces, in any case. -/
  | holds (pieces : List Text)
  /-- An empty line. -/
  | emptyLine
  deriving DecidableEq, Repr

/-- Whether a text begins with a piece, in any case. -/
def hasPrefix (piece : Text) (t : Text) : Bool :=
  match piece, t with
  | [], _ => true
  | _ :: _, [] => false
  | p :: ps, c :: cs => Unicode.sameIgnoringCase p c && hasPrefix ps cs

/-- Whether a text holds a piece, in any case. -/
def holdsPiece (piece : Text) : Text → Bool
  | [] => piece.isEmpty
  | c :: cs => hasPrefix piece (c :: cs) || holdsPiece piece cs

/-- Whether a line ends a block. -/
def BlockEnd.isMet (e : BlockEnd) (line : Text) : Bool :=
  match e with
  | .holds pieces => pieces.any fun p => holdsPiece p line
  | .emptyLine => line.isEmpty

/-- The elements whose text is taken as it is. -/
def rawElements : List Text := ["script", "pre", "style", "textarea"].map String.toList

/-- The elements that make a block. -/
def blockElements : List Text :=
  ["address", "article", "aside", "base", "basefont", "blockquote", "body", "caption", "center",
    "col", "colgroup", "dd", "details", "dialog", "dir", "div", "dl", "dt", "fieldset",
    "figcaption", "figure", "footer", "form", "frame", "frameset", "h1", "h2", "h3", "h4", "h5",
    "h6", "head", "header", "hr", "html", "iframe", "legend", "li", "link", "main", "menu",
    "menuitem", "nav", "noframes", "ol", "optgroup", "option", "p", "param", "search", "section",
    "summary", "table", "tbody", "td", "tfoot", "th", "thead", "title", "tr", "track",
    "ul"].map String.toList

/-- Whether a text is empty, or goes on with a blank or `>`, or with `/>` if `slash` is set. -/
def atTagBoundary (slash : Bool) : Text → Bool
  | [] => true
  | '>' :: _ => true
  | '/' :: '>' :: _ => slash
  | c :: _ => Unicode.isBlank c

/-- Whether a text begins with the name of one of some elements and ends it there. -/
def startsElement (elements : List Text) (slash : Bool) (t : Text) : Bool :=
  elements.any fun e => hasPrefix e t && atTagBoundary slash (t.drop e.length)

/-- How a line starts a block of HTML: what ends the block, and whether it may interrupt a
paragraph. -/
def blockStart? (line : Text) : Option (BlockEnd × Bool) :=
  match line with
  | '<' :: rest =>
    let name := match rest with
      | '/' :: rest => rest
      | _ => rest
    if startsElement rawElements false rest then
      some (.holds (rawElements.map fun e => "</".toList ++ e ++ ['>']), true)
    else if "!--".toList.isPrefixOf rest then some (.holds ["-->".toList], true)
    else if "?".toList.isPrefixOf rest then some (.holds ["?>".toList], true)
    else if (match rest with
      | '!' :: c :: _ => 'A' ≤ c && c ≤ 'Z'
      | _ => false) then some (.holds [['>']], true)
    else if "![CDATA[".toList.isPrefixOf rest then some (.holds ["]]>".toList], true)
    else if startsElement blockElements true name then some (.emptyLine, true)
    else
      match openTag? line <|> closeTag? line with
      | some left => if (skipBlank left).isEmpty then some (.emptyLine, false) else none
      | none => none
  | _ => none

example : inlineLength? "<a href='x'/> b".toList = some 13 := by decide

example : blockStart? "<DIV>".toList = some (.emptyLine, true) := by decide

end CjkProse.Markdown.Html
