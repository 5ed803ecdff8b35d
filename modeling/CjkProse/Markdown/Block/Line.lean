import CjkProse.Text.Basic

/-!
# Lines

The blocks of a document are read line by line.  A line knows how much of its head is taken up by
the marks of the containers it is in, and how far what follows is indented, tabs being as wide as
the columns up to the next multiple of four.

## Main definitions

* `Line` — a line of a document, as it looks from within the containers around it.
* `Line.content` — what stands on it.
* `Line.cut` — the line without the indentation of its container.
* `linesOf` — the lines of a document.
-/

namespace CjkProse.Markdown

/-- A line of a document, as it looks from within the containers around it. -/
structure Line where
  /-- The characters after the marks of the quotes that the line is in. -/
  text : Text
  /-- The number of characters before the content; list marks may be among them. -/
  shift : Nat
  /-- The column of the content.  A negative one marks a line that goes on with a paragraph. -/
  indent : Int
  /-- The column of the first character of `text`, to which tabs are relative. -/
  base : Nat
  /-- Whether a line feed follows. -/
  ended : Bool
  deriving DecidableEq, Repr, Inhabited

/-- The number of spaces and tabs at the head of a text, and the column after them, where `column`
is the column before and `base` is added for the tabs. -/
def indentation (base column : Nat) : Text → Nat × Nat
  | ' ' :: cs =>
    let (n, col) := indentation base (column + 1) cs
    (n + 1, col)
  | '\t' :: cs =>
    let (n, col) := indentation base (column + (4 - (column + base) % 4)) cs
    (n + 1, col)
  | _ => (0, column)

namespace Line

/-- A line outside of all containers. -/
def ofText (ended : Bool) (t : Text) : Line :=
  let (n, col) := indentation 0 0 t
  ⟨t, n, col, 0, ended⟩

/-- What stands on a line. -/
def content (l : Line) : Text := l.text.drop l.shift

/-- Whether nothing stands on a line. -/
def isEmpty (l : Line) : Bool := l.text.length ≤ l.shift

/-- Cuts the columns before `indent` off.  `column` is the column reached, and `masked` the number
of characters to come that are marks of a list, each of which is as wide as a column. -/
def cutFrom (base : Nat) (indent : Int) (column masked : Nat) : Text → Text
  | [] => List.replicate (column - indent).toNat ' '
  | c :: cs =>
    if indent ≤ column then List.replicate (column - indent).toNat ' ' ++ c :: cs
    else if c == '\t' then
      cutFrom base indent (column + (4 - (column + base) % 4)) (masked - 1) cs
    else if c == ' ' || 0 < masked then cutFrom base indent (column + 1) (masked - 1) cs
    else c :: cs

/-- The line without the columns before `indent`.  Of a tab that goes beyond them the rest stays, as
spaces. -/
def cut (indent : Int) (l : Line) : Text := cutFrom l.base indent 0 l.shift l.text

end Line

/-- The lines of some texts of which all but perhaps the last are followed by a line feed. -/
def linesOfTexts : List Text → List Line
  | [] => []
  | [t] => if t.isEmpty then [] else [Line.ofText false t]
  | t :: ts => Line.ofText true t :: linesOfTexts ts

/-- The lines of a document. -/
def linesOf (text : Text) : List Line := linesOfTexts text.lines

example : (linesOf "a\n\tb\n".toList).map Line.indent = [0, 4] := by decide

end CjkProse.Markdown
