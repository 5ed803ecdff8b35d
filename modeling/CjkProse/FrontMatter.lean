import CjkProse.Text.Basic

/-!
# Front matter

A document may begin with data about itself between two lines of three hyphens.  That part is not
prose.

## Main definitions

* `isFence` — the lines that enclose it.
* `frontMatterLines` — how many line ends it takes up.
-/

namespace CjkProse

/-- Whether a line consists of three hyphens and then nothing but spaces and tabs.  A line that is
ended by a line feed may have a carriage return before that. -/
def isFence (ended : Bool) (line : Text) : Bool :=
  match Text.dropPrefix? ['-', '-', '-'] line with
  | none => false
  | some rest =>
    let rest := rest.dropWhile fun c => c == ' ' || c == '\t'
    rest.isEmpty || (ended && rest == ['\r'])

/-- The number of line ends up to the end of the first line that is a fence, where `before` is the
number of those before the first line given. -/
def closingFence (before : Nat) : List Text → Option Nat
  | [] => none
  | [line] => if isFence false line then some before else none
  | line :: lines => if isFence true line then some (before + 1) else closingFence (before + 1) lines

/-- The number of line ends in the front matter of a text, zero when there is none.  The closing
fence is the first one after the second line, or else the second line. -/
def frontMatterLines (text : Text) : Nat :=
  match text.lines with
  | first :: second :: rest =>
    if isFence true first then
      match closingFence 2 rest with
      | some n => n
      | none => (closingFence 1 (second :: rest)).getD 0
    else 0
  | _ => 0

example : frontMatterLines "---\na: b\n---\n中".toList = 3 := by decide

example : frontMatterLines "---\n---".toList = 1 := by decide

example : frontMatterLines "--\n---\n".toList = 0 := by decide

end CjkProse
