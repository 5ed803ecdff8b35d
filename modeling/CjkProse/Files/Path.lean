import CjkProse.Text.Order

/-!
# Paths

A path leads through folders to a file.  It starts at the root or where the program runs, and its
parts are kept as they are written: a part may be a name, a point for the folder that has been
reached, or two points for the one that holds it.

## Main definitions

* `Path` — whether a path starts at the root, and its parts.
* `Path.ofText`, `Path.toText` — paths as text.
* `Path.clean`, `Path.settle` — without parts that lead nowhere.
* `Path.le` — the order of paths, part by part.
-/

namespace CjkProse

/-- A way to a file. -/
structure Path where
  /-- Whether it starts at the root. -/
  rooted : Bool
  /-- The parts, none of them empty. -/
  parts : List Text
  deriving DecidableEq, Repr, Inhabited

namespace Path

/-- The part that stays in a folder. -/
def here : Text := ['.']

/-- The part that leads to the folder that holds a folder. -/
def up : Text := ['.', '.']

/-- The path that a text writes. -/
def ofText (t : Text) : Path :=
  ⟨t.head? == some '/', (Text.splitOn '/' t).filter fun part => !part.isEmpty⟩

/-- A path as text. -/
def toText (p : Path) : Text :=
  if p.rooted then '/' :: Text.join ['/'] p.parts
  else if p.parts.isEmpty then here
  else Text.join ['/'] p.parts

/-- The path of a member of a folder. -/
def child (p : Path) (name : Text) : Path := { p with parts := p.parts ++ [name] }

/-- The last part of a path; the empty text if it has none. -/
def name (p : Path) : Text := p.parts.getLastD []

/-- A path without the parts that stay in a folder. -/
def clean (p : Path) : Path := { p with parts := p.parts.filter (· != here) }

/-- Takes each part that leads up together with the name before it. -/
def settleParts : List Text → List Text → List Text
  | done, [] => done.reverse
  | done, part :: parts =>
    if part == here then settleParts done parts
    else if part == up then
      match done with
      | [] => settleParts [up] parts
      | last :: rest =>
        if last == up then settleParts (up :: done) parts else settleParts rest parts
    else settleParts (part :: done) parts

/-- A path without the parts that stay in a folder and without those that lead up again. -/
def settle (p : Path) : Path := { p with parts := settleParts [] p.parts }

/-- The order of paths. -/
def le (p q : Path) : Bool :=
  if p.rooted == q.rooted then lexLe Text.le p.parts q.parts else p.rooted

example : (ofText "./a//b.md".toList).clean.toText = "a/b.md".toList := by decide

example : (ofText "a/../../b/./c".toList).settle.toText = "../b/c".toList := by decide

example : le (ofText "a/b".toList) (ofText "a-b".toList) = true := by decide

end Path

end CjkProse
