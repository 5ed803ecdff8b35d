import CjkProse.Text.Basic

/-!
# Names of characters: entries

Many characters that follow each other have names which differ in one place only.  They are listed
together, with that place left open.

## Main definitions

* `NameEntry`, `NameEntry.names` — names of characters that follow each other.
-/

namespace CjkProse.Unicode

/-- Names of characters that follow each other. -/
structure NameEntry where
  /-- The code point of the first of the characters. -/
  first : Nat
  /-- Pieces with commas between them, over one line or more: the name of a single character, or a
  pattern and what stands for the star in it, character by character. -/
  lines : List String
  deriving Repr, Inhabited

/-- The names that an entry writes. -/
def NameEntry.names (entry : NameEntry) : List Text :=
  match entry.lines.flatMap fun line => Text.splitOn ',' line.toList with
  | pattern :: piece :: pieces =>
    (piece :: pieces).map fun piece => pattern.flatMap fun c => if c == '*' then piece else [c]
  | names => names

example : NameEntry.names ⟨0x41, ["LETTER *,A", "B"]⟩ =
    ["LETTER A".toList, "LETTER B".toList] := by decide

end CjkProse.Unicode
