import CjkProse.Markdown.Entity
import CjkProse.Unicode.Case

/-!
# Addresses, titles and labels

The parts of a link.  An address stands between angle brackets or goes up to the next blank; a title
stands between quotation marks or round brackets; a label names a definition elsewhere in the
document.

## Main definitions

* `destination?`, `title?` — the part at the head of a text: what it says and its length.
* `isSafe` — the addresses that may be linked to.
* `normalLabel` — the form in which labels are compared.
* `definition?` — a definition of a label at the head of a text.
-/

namespace CjkProse.Markdown

/-- Spaces and tabs. -/
def isSpaceOrTab (c : Char) : Bool := c == ' ' || c == '\t'

/-- Spaces, tabs and line feeds. -/
def isSpaceOrNewline (c : Char) : Bool := isSpaceOrTab c || c == '\n'

/-- The number of characters of an address before its closing angle bracket. -/
def angleLength? : Text → Option Nat
  | [] => none
  | '>' :: _ => some 0
  | '\n' :: _ => none
  | '<' :: _ => none
  | '\\' :: _ :: cs => (angleLength? cs).map (· + 2)
  | _ :: cs => (angleLength? cs).map (· + 1)

/-- The number of characters of an address that is not enclosed, whose round brackets are balanced.
`depth` is the number of brackets open. -/
def bareLength? (depth : Nat) : Text → Option Nat
  | [] => if depth = 0 then some 0 else none
  | c :: cs =>
    if c.toNat ≤ 0x20 || c.toNat == 0x7F then if depth = 0 then some 0 else none
    else if c == '\\' then
      match cs with
      | [] => if depth = 0 then some 1 else none
      | d :: ds =>
        if d == ' ' then if depth = 0 then some 0 else none
        else (bareLength? depth ds).map (· + 2)
    else if c == '(' then
      if 32 ≤ depth then none else (bareLength? (depth + 1) cs).map (· + 1)
    else if c == ')' then
      match depth with
      | 0 => some 0
      | d + 1 => (bareLength? d cs).map (· + 1)
    else (bareLength? depth cs).map (· + 1)

/-- The address at the head of a text, and the number of characters it takes up. -/
def destination? (t : Text) : Option (Text × Nat) :=
  match t with
  | '<' :: cs => (angleLength? cs).map fun n => (unescape (cs.take n), n + 2)
  | _ =>
    match bareLength? 0 t with
    | some (n + 1) => some (unescape (t.take (n + 1)), n + 1)
    | _ => none

/-- The number of characters of a title before the mark that closes it. -/
def titleLength? (closer : Char) : Text → Option Nat
  | [] => none
  | c :: cs =>
    if c == closer then some 0
    else if c == '(' && closer == ')' then none
    else if c == '\\' then
      match cs with
      | [] => none
      | _ :: ds => (titleLength? closer ds).map (· + 2)
    else (titleLength? closer cs).map (· + 1)

/-- The title at the head of a text, and the number of characters it takes up. -/
def title? (t : Text) : Option (Text × Nat) :=
  match t with
  | c :: cs =>
    if c == '"' || c == '\'' || c == '(' then
      (titleLength? (if c == '(' then ')' else c) cs).map fun n => (cs.take n, n + 2)
    else none
  | [] => none

/-- Schemes that are not linked to. -/
def unsafeSchemes : List Text := ["vbscript:", "javascript:", "file:", "data:"].map String.toList

/-- The images that may be linked to although they are given in full. -/
def safeData : List Text :=
  ["data:image/gif;", "data:image/png;", "data:image/jpeg;", "data:image/webp;"].map String.toList

/-- Whether an address may be linked to. -/
def isSafe (address : Text) : Bool :=
  let a := Text.lowerAscii (Text.trimBlankLeft address)
  !(unsafeSchemes.any fun s => s.isPrefixOf a) || safeData.any fun s => s.isPrefixOf a

/-- Each run of blanks made one space. -/
def squeezeBlanks : Text → Text
  | [] => []
  | c :: cs =>
    if Unicode.isBlank c then
      if (cs.head?.map Unicode.isBlank).getD false then squeezeBlanks cs
      else ' ' :: squeezeBlanks cs
    else c :: squeezeBlanks cs

/-- The form in which labels are compared: blanks squeezed and case folded. -/
def normalLabel (t : Text) : Text := Unicode.foldText (squeezeBlanks (Text.trimBlank t))

/-! ### Definitions -/

/-- The number of characters of a label before the bracket that closes it. -/
def labelLength? : Text → Option Nat
  | [] => none
  | '[' :: _ => none
  | ']' :: _ => some 0
  | ['\\'] => none
  | '\\' :: _ :: cs => (labelLength? cs).map (· + 2)
  | _ :: cs => (labelLength? cs).map (· + 1)

/-- Whether nothing but spaces and tabs is left on the first line of a text, and the number of
them. -/
def lineRest? (t : Text) : Option Nat :=
  let n := (t.takeWhile isSpaceOrTab).length
  match t.drop n with
  | [] => some n
  | '\n' :: _ => some n
  | _ => none

/-- The number of characters that an optional title and the blanks around it take up at the end of
a definition.  A title that does not end its line is no part of the definition, which may then end
before it; an empty one spoils the definition. -/
def definitionTail? (t : Text) : Option Nat :=
  let blanks := (t.takeWhile isSpaceOrNewline).length
  match if blanks = 0 then none else title? (t.drop blanks) with
  | none => lineRest? t
  | some (title, n) =>
    match lineRest? (t.drop (blanks + n)) with
    | some k => some (blanks + n + k)
    | none => if title.isEmpty then none else lineRest? t

/-- A definition at the head of a text: the label it defines, in the form for comparing, and the
number of characters up to the end of its last line. -/
def definition? (t : Text) : Option (Text × Nat) :=
  match t with
  | '[' :: cs => do
    let n ← labelLength? cs
    let rest ← match cs.drop (n + 1) with
      | ':' :: rest => some rest
      | _ => none
    let blanks := (rest.takeWhile isSpaceOrNewline).length
    let (address, m) ← destination? (rest.drop blanks)
    if !isSafe address then none
    else
      let tail := rest.drop (blanks + m)
      let extra ← definitionTail? tail
      let label := normalLabel (cs.take n)
      if label.isEmpty then none else some (label, n + 3 + blanks + m + extra)
  | _ => none

end CjkProse.Markdown
