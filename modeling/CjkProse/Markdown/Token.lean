import CjkProse.Text.Basic

/-!
# Tokens of a document

What a reader of the markup makes of a document: a flat list of block tokens, in which the inline
content of a paragraph, a heading or a table cell is one token with a list of inline children.
Block tokens know the line they start on and nothing more precise; inline children know only what
they are.

## Main definitions

* `Markdown.Wrapper` — the inline structures that enclose others, links left out.
* `Markdown.Inline` — an inline token.
* `Markdown.Token` — a block token.
-/

namespace CjkProse.Markdown

/-- Emphasis and its likes, which enclose other inline content. -/
inductive Wrapper
  /-- Emphasis. -/
  | emphasis
  /-- Strong emphasis. -/
  | strong
  /-- Struck-out text. -/
  | strikethrough
  deriving DecidableEq, Repr, Inhabited

/-- The tag of the events that a wrapper gives. -/
def Wrapper.tag : Wrapper → String
  | .emphasis => "emphasis"
  | .strong => "strong"
  | .strikethrough => "strikethrough"

/-- A token within a paragraph, a heading or a table cell. -/
inductive Inline
  /-- Text, as it stands in the source. -/
  | text (content : Text)
  /-- The end of a line, hard or soft. -/
  | lineBreak (hard : Bool)
  /-- Inline code between two runs of backticks. -/
  | code (content markup : Text)
  /-- The start of a wrapper, written as `markup`. -/
  | wrapperOpen (wrapper : Wrapper) (markup : Text)
  /-- The end of a wrapper, written as `markup`. -/
  | wrapperClose (wrapper : Wrapper) (markup : Text)
  /-- The start of a link; a bare link is an address between angle brackets. -/
  | linkOpen (bare : Bool)
  /-- The end of a link. -/
  | linkClose
  /-- An image. -/
  | image
  /-- A piece of HTML. -/
  | html (content : Text)
  /-- An escape or an entity: its sort, the character it stands for, and how it is written. -/
  | special (sort : String) (content markup : Text)
  /-- A token of a sort that is not known here. -/
  | other (sort : Text)
  deriving DecidableEq, Repr, Inhabited

/-- A token of the block structure, with the line on which it starts, counted from zero. -/
inductive Token
  /-- The inline content of a block, and its children. -/
  | inline (content : Text) (children : List Inline) (line : Option Int)
  /-- The start of a block of prose, with its tag. -/
  | proseOpen (tag : String) (line : Option Int)
  /-- A block of HTML. -/
  | html (content : Text) (line : Option Int)
  /-- Any other token. -/
  | other (line : Option Int)
  deriving DecidableEq, Repr, Inhabited

/-- The line on which a token starts. -/
def Token.line : Token → Option Int
  | inline _ _ l => l
  | proseOpen _ l => l
  | html _ l => l
  | other l => l

end CjkProse.Markdown
