/-
Module: ModalLanguage.Text.Decimal
Purpose: Decimal text of a binary floating-point number, with the fewest digits that read back to
  the same number. A number is taken apart into `significand * 2 ^ scale`; the decimals that read
  back are those of an interval around it, and the coarsest power of ten with a multiple in that
  interval gives the digits.
Main exports: Binary, Binary.ofFloat, Decimal, Binary.shortest, Decimal.render, floatText
-/

namespace ModalLanguage

/-- A positive binary number, `significand * 2 ^ scale`. -/
structure Binary where
  significand : Nat
  scale : Int
deriving DecidableEq, Repr

/-- A positive decimal number, `digits * 10 ^ exponent`. -/
structure Decimal where
  digits : Nat
  exponent : Int
deriving DecidableEq, Repr

namespace Binary

/-- The least scale of a double: smaller numbers have fewer significant bits instead. -/
def leastScale : Int := -1074

/-- The value of the leading bit of a significand of full length. -/
def leadingBit : Nat := Nat.pow 2 52

/-- How many values the exponent field of a double has. -/
def exponentCount : Nat := Nat.pow 2 11

/-- The magnitude of a finite double. -/
def ofFloat (x : Float) : Binary :=
  let bits := x.toBits.toNat
  let mantissa := bits % leadingBit
  let biased := bits / leadingBit % exponentCount
  if biased = 0 then ⟨mantissa, leastScale⟩
  else ⟨leadingBit + mantissa, leastScale + (biased - 1 : Nat)⟩

/-- The interval that reads back is measured in quarters of the last bit. The gap below a power of
    two is half as wide as the gap above it. -/
def lowQuarter (b : Binary) : Nat :=
  if b.significand = leadingBit ∧ leastScale < b.scale then 4 * b.significand - 1
  else 4 * b.significand - 2

/-- The upper end of the interval that reads back, in quarters of the last bit. -/
def highQuarter (b : Binary) : Nat := 4 * b.significand + 2

/-- One quarter of the last bit, as a fraction of ten to the power `k`. -/
def quarterOver (b : Binary) (k : Int) : Nat × Nat :=
  (Nat.pow 2 (b.scale - 2).toNat * Nat.pow 10 (-k).toNat,
    Nat.pow 2 (2 - b.scale).toNat * Nat.pow 10 k.toNat)

/-- A multiple of ten to the power `k` reads back when it lies in the interval. A double whose last
    bit is even owns both ends. -/
def readsBack (b : Binary) (k : Int) (d : Nat) : Bool :=
  let (num, den) := b.quarterOver k
  let low := b.lowQuarter * num
  let high := b.highQuarter * num
  if b.significand % 2 = 0 then low ≤ d * den && d * den ≤ high else low < d * den && d * den < high

/-- The multiple of ten to the power `k` that reads back, if there is one. Of two neighbours the
    nearer is taken, and of two equally near the even one. -/
def onGrid? (b : Binary) (k : Int) : Option Decimal :=
  let (num, den) := b.quarterOver k
  let value := 4 * b.significand * num
  let below := value / den
  let rest := value % den
  let nearer := if 2 * rest < den ∨ 2 * rest = den ∧ below % 2 = 0 then below else below + 1
  let farther := 2 * below + 1 - nearer
  if b.readsBack k nearer then some ⟨nearer, k⟩
  else if b.readsBack k farther then some ⟨farther, k⟩
  else none

/-- The powers of ten from the largest a double reaches down to one finer than its last bit. -/
def grids : List Int := (List.range 640).map fun (i : Nat) => (309 : Int) - i

/-- The decimal with the fewest digits that reads back. -/
def shortest (b : Binary) : Decimal :=
  (grids.findSome? b.onGrid?).getD ⟨0, 0⟩

end Binary

namespace Decimal

/-- Numbers from a ten-thousandth up to below ten to the sixteenth are written with a point in
    place, and whole ones end in `.0`. All others have one digit before the point and a signed
    exponent of at least two digits. -/
def render (d : Decimal) : String :=
  let digits := Nat.toDigits 10 d.digits
  let point := digits.length + d.exponent
  if -4 < point ∧ point ≤ 16 then
    String.ofList <|
      if point ≤ 0 then '0' :: '.' :: List.replicate (-point).toNat '0' ++ digits
      else if digits.length ≤ point then digits ++ List.replicate d.exponent.toNat '0' ++ ['.', '0']
      else digits.take point.toNat ++ '.' :: digits.drop point.toNat
  else
    let exponent := point - 1
    let fraction := if digits.length = 1 then [] else '.' :: digits.drop 1
    let power := Nat.toDigits 10 exponent.natAbs
    String.ofList <|
      digits.take 1 ++ fraction ++ 'e' :: (if exponent < 0 then '-' else '+') ::
        List.replicate (2 - power.length) '0' ++ power

end Decimal

/-- The text of a double: the sign is kept on zero too. -/
def floatText (x : Float) : String :=
  if x.isNaN then "nan"
  else
    let sign := if x.toBits.toNat < Nat.pow 2 63 then "" else "-"
    if x.isInf then sign ++ "inf"
    else if x == 0 then sign ++ "0.0"
    else sign ++ (Binary.ofFloat x).shortest.render

end ModalLanguage
