import CjkProse.Text.Basic

/-!
# UTF-8

Reading and writing the bytes of a text.  A reader that fails says which bytes it could not read
and why, so that the message can name them.

## Main definitions

* `Utf8.encode` — the bytes of a text.
* `Utf8.decode` — the text of some bytes, or the first fault in them.
* `Utf8.Fault.message` — the wording of a fault.
-/

namespace CjkProse.Utf8

/-- The bytes of a text. -/
def encode (t : Text) : List UInt8 := t.flatMap String.utf8EncodeChar

/-- Why some bytes are no text. -/
inductive Reason
  /-- A byte that begins no character. -/
  | badStart
  /-- A byte that should go on with a character and does not. -/
  | badContinuation
  /-- The bytes end within a character. -/
  | truncated
  deriving DecidableEq, Repr

/-- The first fault in some bytes. -/
structure Fault where
  /-- What is wrong. -/
  reason : Reason
  /-- The first byte at fault. -/
  byte : UInt8
  /-- The position of that byte. -/
  first : Nat
  /-- The position of the last byte at fault. -/
  last : Nat
  deriving DecidableEq, Repr

/-- Bytes that go on with a character. -/
def isContinuation (b : UInt8) : Bool := 0x80 ≤ b && b < 0xC0

/-- Whether `b` may come second in a character that starts with `a`: no overlong form, no
surrogate, nothing above the last code point. -/
def isSecond (a b : UInt8) : Bool :=
  isContinuation b &&
    !(a == 0xE0 && b < 0xA0) && !(a == 0xED && 0xA0 ≤ b) &&
    !(a == 0xF0 && b < 0x90) && !(a == 0xF4 && 0x90 ≤ b)

/-- The low six bits of a byte. -/
def low (b : UInt8) : Nat := b.toNat % 64

/-- Reads bytes the first of which is at position `pos`. -/
def decodeFrom (pos : Nat) : List UInt8 → Except Fault Text
  | [] => .ok []
  | a :: as =>
    if a < 0x80 then (Char.ofNat a.toNat :: ·) <$> decodeFrom (pos + 1) as
    else if a < 0xC2 || 0xF4 < a then .error ⟨.badStart, a, pos, pos⟩
    else
      match as with
      | [] => .error ⟨.truncated, a, pos, pos⟩
      | b :: bs =>
        if !isSecond a b then .error ⟨.badContinuation, a, pos, pos⟩
        else if a < 0xE0 then
          (Char.ofNat (a.toNat % 32 * 64 + low b) :: ·) <$> decodeFrom (pos + 2) bs
        else
          match bs with
          | [] => .error ⟨.truncated, a, pos, pos + 1⟩
          | c :: cs =>
            if !isContinuation c then .error ⟨.badContinuation, a, pos, pos + 1⟩
            else if a < 0xF0 then
              (Char.ofNat ((a.toNat % 16 * 64 + low b) * 64 + low c) :: ·) <$>
                decodeFrom (pos + 3) cs
            else
              match cs with
              | [] => .error ⟨.truncated, a, pos, pos + 2⟩
              | d :: ds =>
                if !isContinuation d then .error ⟨.badContinuation, a, pos, pos + 2⟩
                else
                  (Char.ofNat (((a.toNat % 8 * 64 + low b) * 64 + low c) * 64 + low d) :: ·) <$>
                    decodeFrom (pos + 4) ds

/-- The text of some bytes. -/
def decode (bytes : List UInt8) : Except Fault Text := decodeFrom 0 bytes

/-- The text of some bytes, if they are one. -/
def decode? (bytes : List UInt8) : Option Text := (decode bytes).toOption

/-- A byte as two hexadecimal digits. -/
def hexByte (b : UInt8) : Text :=
  [Nat.digitChar (b.toNat / 16), Nat.digitChar (b.toNat % 16)]

/-- The wording of a reason. -/
def Reason.message : Reason → String
  | .badStart => "invalid start byte"
  | .badContinuation => "invalid continuation byte"
  | .truncated => "unexpected end of data"

/-- The wording of a fault: it names the byte, or the positions when there are several. -/
def Fault.message (f : Fault) : Text :=
  if f.first = f.last then
    "'utf-8' codec can't decode byte 0x".toList ++ hexByte f.byte ++ " in position ".toList ++
      Text.ofNat f.first ++ ": ".toList ++ f.reason.message.toList
  else
    "'utf-8' codec can't decode bytes in position ".toList ++ Text.ofNat f.first ++ ['-'] ++
      Text.ofNat f.last ++ ": ".toList ++ f.reason.message.toList

/-- The first fault in some bytes, if there is one. -/
def fault? (bytes : List UInt8) : Option Fault :=
  match decode bytes with
  | .ok _ => none
  | .error f => some f

example : decode? (encode "a中😀".toList) = some "a中😀".toList := by decide

example : fault? [0x61, 0xE4, 0xB8] = some ⟨.truncated, 0xE4, 1, 2⟩ := by decide

end CjkProse.Utf8
