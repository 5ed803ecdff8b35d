import CjkProse.Text.Basic

/-!
# Floating-point numbers

Numbers with 53 significant bits, as settings files hold them.  They are only ever read and shown,
so they are kept as a mantissa and an exponent, and all that is computed with them is exact.

## Main definitions

* `Binary64` — a floating-point number.
* `Binary64.ofRatio`, `Binary64.ofDecimal` — the nearest one, a tie going to the even mantissa.
* `Binary64.shortest` — the fewest decimal digits that read back.
* `Binary64.render` — the number as text: positional from `1e-4` up to below `1e16`, with an exponent
  of two digits at least outside of that.
-/

namespace CjkProse

/-- A floating-point number. -/
inductive Binary64
  /-- No number. -/
  | nan
  /-- An infinity. -/
  | infinite (negative : Bool)
  /-- The number `mantissa * 2 ^ exponent`, or its negation. -/
  | finite (negative : Bool) (mantissa : Nat) (exponent : Int)
  deriving DecidableEq, Repr, Inhabited

namespace Binary64

/-! ### Rounding -/

/-- The ratio `num / den` divided by `base ^ e`, as a ratio. -/
def scale (base : Nat) (e : Int) (num den : Nat) : Nat × Nat :=
  if e < 0 then (num * Nat.pow base (-e).toNat, den) else (num, den * Nat.pow base e.toNat)

/-- The natural number nearest to `num / den`, of two the even one. -/
def roundDiv (num den : Nat) : Nat :=
  let q := num / den
  let twice := 2 * (num % den)
  if twice < den then q
  else if den < twice then q + 1
  else q + q % 2

/-- The least exponent. -/
def minExponent : Int := -1074

/-- The greatest exponent. -/
def maxExponent : Int := 971

/-- The exponent that gives a ratio a mantissa of 53 bits, or the least one. -/
def exponentFor (num den : Nat) : Int :=
  let low : Int := Nat.log2 num - Nat.log2 den - 53
  let (n, d) := scale 2 low num den
  max minExponent (if n / d < Nat.pow 2 53 then low else low + 1)

/-- The number nearest to `num / den`, or to its negation. -/
def ofRatio (negative : Bool) (num den : Nat) : Binary64 :=
  if num = 0 then finite negative 0 minExponent
  else
    let e := exponentFor num den
    let (n, d) := scale 2 e num den
    let m := roundDiv n d
    let (m, e) := if m = Nat.pow 2 53 then (Nat.pow 2 52, e + 1) else (m, e)
    if maxExponent < e then infinite negative else finite negative m e

/-- The number of decimal digits of a natural number. -/
def digitCount (n : Nat) : Nat := (Nat.toDigits 10 n).length

/-- The number nearest to `digits * 10 ^ e`, or to its negation.  Far outside of the range no power
is computed. -/
def ofDecimal (negative : Bool) (digits : Nat) (e : Int) : Binary64 :=
  if digits = 0 then finite negative 0 minExponent
  else if 400 < e + digitCount digits then infinite negative
  else if e + digitCount digits < -400 then finite negative 0 minExponent
  else
    let (num, den) := scale 10 (-e) digits 1
    ofRatio negative num den

/-- A finite number as a ratio. -/
def ratio (mantissa : Nat) (exponent : Int) : Nat × Nat := scale 2 (-exponent) mantissa 1

/-- The sum of two finite numbers that are not negative. -/
def add : Binary64 → Binary64 → Binary64
  | finite _ m e, finite _ n f =>
    let (a, b) := ratio m e
    let (c, d) := ratio n f
    ofRatio false (a * d + c * b) (b * d)
  | infinite s, _ => infinite s
  | _, infinite s => infinite s
  | _, _ => nan

/-- The number with its sign turned. -/
def negate : Binary64 → Binary64
  | nan => nan
  | infinite s => infinite !s
  | finite s m e => finite (!s) m e

/-- Whether a number is zero. -/
def isZero : Binary64 → Bool
  | finite _ 0 _ => true
  | _ => false

/-! ### Text -/

/-- The place of the decimal point: the least `k` with `num / den < 10 ^ k`. -/
def pointOf (num den : Nat) : Int :=
  if den ≤ num then digitCount (num / den)
  else
    let k : Int := 1 - digitCount (den / num)
    let (n, d) := scale 10 k num den
    if d ≤ n then k + 1 else k

/-- The digits of the two neighbours of `num / den` on the grid of step `10 ^ g` that read back as
the number with the given mantissa and exponent; the nearer of two. -/
def onGrid (mantissa : Nat) (exponent : Int) (num den : Nat) (g : Int) : Option Nat :=
  let (n, d) := scale 10 g num den
  let low := n / d
  let reads (k : Nat) : Bool := decide (ofDecimal false k g = finite false mantissa exponent)
  match reads low && low != 0, reads (low + 1) with
  | true, true => some (roundDiv n d)
  | true, false => some low
  | false, true => some (low + 1)
  | false, false => none

/-- The fewest digits that read back, looking from `n` digits on. -/
def shortestFrom (mantissa : Nat) (exponent : Int) (num den : Nat) (point : Int) :
    Nat → Nat → Nat × Int
  | 0, _ => (0, 0)
  | fuel + 1, n =>
    match onGrid mantissa exponent num den (point - n) with
    | some k => (k, point - n)
    | none => shortestFrom mantissa exponent num den point fuel (n + 1)

/-- The fewest decimal digits that read back as `mantissa * 2 ^ exponent`, and the power of ten that
they count. -/
def shortest (mantissa : Nat) (exponent : Int) : Nat × Int :=
  let (num, den) := ratio mantissa exponent
  shortestFrom mantissa exponent num den (pointOf num den) 17 1

/-- The digits without the zeros at their end. -/
def trimZeros (digits : Text) : Text := (digits.reverse.dropWhile (· == '0')).reverse

/-- Digits with the decimal point after the first `point` of them. -/
def positional (digits : Text) (point : Int) : Text :=
  if point ≤ 0 then
    '0' :: '.' :: List.replicate (-point).toNat '0' ++ digits
  else
    let n := point.toNat
    if digits.length ≤ n then
      digits ++ List.replicate (n - digits.length) '0' ++ ['.', '0']
    else digits.take n ++ '.' :: digits.drop n

/-- Digits with an exponent, the decimal point after the first of them. -/
def scientific (digits : Text) (point : Int) : Text :=
  let e := (point - 1).natAbs
  let mark := if point - 1 < 0 then '-' else '+'
  let body :=
    match digits with
    | d :: ds => if ds.isEmpty then [d] else d :: '.' :: ds
    | [] => []
  body ++ 'e' :: mark :: (if e < 10 then '0' :: Text.ofNat e else Text.ofNat e)

/-- A number as text. -/
def render : Binary64 → Text
  | nan => "nan".toList
  | infinite s => (if s then "-inf" else "inf").toList
  | finite s m e =>
    let body :=
      if m = 0 then "0.0".toList
      else
        let (k, g) := shortest m e
        let point := g + digitCount k
        let digits := trimZeros (Text.ofNat k)
        if -4 < point ∧ point ≤ 16 then positional digits point else scientific digits point
    if s then '-' :: body else body

example : render (ofDecimal false 15 (-1)) = "1.5".toList := by decide +kernel

example : render (ofDecimal true 1 16) = "-1e+16".toList := by decide +kernel

example : render (ofDecimal false 1 (-5)) = "1e-05".toList := by decide +kernel

end Binary64

end CjkProse
