import CjkProse.Markdown.EntityTable

/-!
# Entities and escapes

An entity names a character, by its name or by its number.  A backslash before an ASCII punctuation
mark makes it a plain character.

## Main definitions

* `entityAt?` — an entity at the head of a text: its length and what it stands for.
* `isEscapable` — the characters that a backslash makes plain.
* `unescape` — a text with all its entities and escapes resolved.
-/

namespace CjkProse.Markdown

/-- The value of a hexadecimal digit. -/
def hexValue? (c : Char) : Option Nat :=
  if '0' ≤ c && c ≤ '9' then some (c.toNat - '0'.toNat)
  else if 'a' ≤ c && c ≤ 'f' then some (c.toNat - 'a'.toNat + 10)
  else if 'A' ≤ c && c ≤ 'F' then some (c.toNat - 'A'.toNat + 10)
  else none

/-- The value of a decimal digit. -/
def decimalValue? (c : Char) : Option Nat :=
  if '0' ≤ c && c ≤ '9' then some (c.toNat - '0'.toNat) else none

/-- The number that some digits write in a base. -/
def numeral (base : Nat) (digit : Char → Option Nat) (t : Text) : Nat :=
  t.foldl (fun n c => n * base + (digit c).getD 0) 0

/-- Whether a number may stand for a character in an entity: no surrogate, no control other than a
tab, a line feed, a form feed or a carriage return, and nothing that is never a character. -/
def isEntityCode (n : Nat) : Bool :=
  !(0xD800 ≤ n && n ≤ 0xDFFF) && !(0xFDD0 ≤ n && n ≤ 0xFDEF) &&
    n % 0x10000 != 0xFFFF && n % 0x10000 != 0xFFFE &&
    !(n ≤ 0x08) && n != 0x0B && !(0x0E ≤ n && n ≤ 0x1F) && !(0x7F ≤ n && n ≤ 0x9F) &&
    n ≤ 0x10FFFF

/-- The character of a numbered entity; one that cannot be is shown by the replacement character. -/
def entityChar (n : Nat) : Text :=
  if isEntityCode n then [Char.ofNat n] else [Char.ofNat 0xFFFD]

/-- The number of a numbered entity whose text between `&#` and `;` is given, and that has at most
the given numbers of hexadecimal and decimal digits. -/
def entityNumber? (maxHex maxDecimal : Nat) (t : Text) : Option Nat :=
  match t with
  | [] => none
  | c :: digits =>
    if c == 'x' || c == 'X' then
      if !digits.isEmpty && digits.length ≤ maxHex && digits.all fun d => (hexValue? d).isSome then
        some (numeral 16 hexValue? digits)
      else none
    else if t.length ≤ maxDecimal && t.all fun d => (decimalValue? d).isSome then
      some (numeral 10 decimalValue? t)
    else none

/-- The text up to the first semicolon, if there is one. -/
def upToSemicolon? (t : Text) : Option Text :=
  let name := t.takeWhile fun c => c != ';'
  if name.length < t.length then some name else none

/-- An entity at the head of a text: the number of characters it takes up, and what it stands for. -/
def entityAt? (t : Text) : Option (Nat × Text) :=
  match t with
  | '&' :: '#' :: rest => do
    let digits ← upToSemicolon? rest
    let n ← entityNumber? 6 7 digits
    some (digits.length + 3, entityChar n)
  | '&' :: rest => do
    let name ← upToSemicolon? rest
    let chars ← namedEntity? name
    some (name.length + 2, chars)
  | _ => none

/-- ASCII punctuation marks and symbols. -/
def isAsciiPunct (c : Char) : Bool :=
  let n := c.toNat
  (0x21 ≤ n && n ≤ 0x2F) || (0x3A ≤ n && n ≤ 0x40) || (0x5B ≤ n && n ≤ 0x60) ||
    (0x7B ≤ n && n ≤ 0x7E)

/-- The characters that a backslash makes plain. -/
def isEscapable (c : Char) : Bool := isAsciiPunct c

/-- An entity at the head of an address.  Numbers may have more digits there, and one that stands
for no character leaves the entity as it is. -/
def addressEntityAt? (t : Text) : Option (Nat × Text) :=
  match t with
  | '&' :: '#' :: rest => do
    let digits ← upToSemicolon? rest
    let n ← entityNumber? 8 8 digits
    if isEntityCode n then some (digits.length + 3, [Char.ofNat n]) else none
  | t => entityAt? t

/-- A text with its entities and escapes resolved.  The first argument is the number of characters
at the head that are already dealt with. -/
def unescapeFrom : Nat → Text → Text
  | _, [] => []
  | skip + 1, _ :: cs => unescapeFrom skip cs
  | 0, c :: cs =>
    match addressEntityAt? (c :: cs) with
    | some (n, chars) => chars ++ unescapeFrom (n - 1) cs
    | none =>
      if c == '\\' then
        match cs with
        | d :: _ => if isEscapable d then d :: unescapeFrom 1 cs else c :: unescapeFrom 0 cs
        | [] => [c]
      else c :: unescapeFrom 0 cs

/-- A text with its entities and escapes resolved. -/
def unescape (t : Text) : Text := unescapeFrom 0 t

example : unescape "a\\*&amp;\\b".toList = "a*&\\b".toList := by decide

end CjkProse.Markdown
