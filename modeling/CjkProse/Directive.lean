import CjkProse.Markdown.Token
import CjkProse.Text.Basic

/-!
# Directives

A document may tell in blocks of HTML how it wants to be treated: not at all, or with the matches of
a pattern left alone.  Each directive is one comment in a block of its own.

## Main definitions

* `Directives` — what a document asks for.
* `isDisabling`, `ignorePattern?` — the two directives.
* `Directives.ofTokens` — the directives of a document.
-/

namespace CjkProse

/-- What a document asks for. -/
structure Directives where
  /-- Whether it is to be left as it is. -/
  disabled : Bool
  /-- The patterns of text to be left alone, in document order. -/
  patterns : List Text
  deriving DecidableEq, Repr, Inhabited

/-- What stands between the marks of a comment, when the block is nothing but one. -/
def commentBody? (content : Text) : Option Text :=
  match Text.dropPrefix? "<!--".toList content.trimBlank with
  | none => none
  | some rest => (Text.dropPrefix? ">--".toList rest.reverse).map List.reverse

/-- Whether a block of HTML asks for the document to be left as it is. -/
def isDisabling (content : Text) : Bool :=
  (commentBody? content).any fun body => body.trimBlank == "zhfmt disabled".toList

/-- The pattern that a block of HTML asks to be left alone, if it does. -/
def ignorePattern? (content : Text) : Option Text :=
  ((commentBody? content).bind fun body =>
    Text.dropPrefix? "zhfmt ignore:".toList body.trimBlankLeft).map Text.trimBlank

namespace Directives

/-- Adds a pattern in front. -/
def addPattern (pattern : Text) (d : Directives) : Directives :=
  { d with patterns := pattern :: d.patterns }

/-- The directives of a document.  Nothing is looked at after it has asked to be left as it is. -/
def ofTokens : List Markdown.Token → Directives
  | [] => ⟨false, []⟩
  | .html content _ :: tokens =>
    if isDisabling content then ⟨true, []⟩
    else
      match ignorePattern? content with
      | none => ofTokens tokens
      | some pattern => addPattern pattern (ofTokens tokens)
  | .inline _ _ _ :: tokens => ofTokens tokens
  | .proseOpen _ _ :: tokens => ofTokens tokens
  | .other _ :: tokens => ofTokens tokens

end Directives

example : isDisabling " <!--zhfmt disabled -->\n".toList = true := by decide

example : ignorePattern? "<!-- zhfmt ignore: \\w+ -->\n".toList = some "\\w+".toList := by decide

end CjkProse
