import CjkProse.Span
import CjkProse.Text.Basic

/-!
# Parse errors

Why a paragraph could not be read.  An error concerns one paragraph only, which then stays as it is.

## Main definitions

* `ParseError` — the causes.
* `ParseError.message`, `ParseError.label`, `ParseError.span?` — how an error is shown.
-/

namespace CjkProse

/-- Why a paragraph could not be read. -/
inductive ParseError
  /-- A cause that is not told. -/
  | unspecified (span : Option Span)
  /-- The paragraph ends before it is closed, or before a quotation in it is; the span is that of
  what is left open. -/
  | unexpectedEnd (span : Option Span)
  /-- A closing quotation mark that closes nothing. -/
  | unclosedQuote (mark : Text) (span : Option Span)
  deriving DecidableEq, Repr, Inhabited

namespace ParseError

/-- The wording of an error. -/
def message : ParseError → String
  | unspecified _ => "parse error."
  | unexpectedEnd _ => "unexpected end."
  | unclosedQuote _ _ => "unclosed quotation mark."

/-- The mark at fault, if the error is about one. -/
def label : ParseError → Option Text
  | unspecified _ => none
  | unexpectedEnd _ => none
  | unclosedQuote m _ => some m

/-- The source at fault, if it is known. -/
def span? : ParseError → Option Span
  | unspecified s => s
  | unexpectedEnd s => s
  | unclosedQuote _ s => s

end ParseError

end CjkProse
