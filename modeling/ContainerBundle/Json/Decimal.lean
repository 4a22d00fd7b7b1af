import ContainerBundle.Text.Digit
/-!
# Written decimals

A decimal is kept as a sign, a mantissa that does not end in zero and a power of ten. Its text is
positional while the point falls within the first sixteen places or the three zeros before.
-/
namespace ContainerBundle

/-- The number `±mantissa · 10 ^ exponent`. -/
structure Decimal where
  negative : Bool
  mantissa : Nat
  exponent : Int
  deriving DecidableEq, Repr

namespace Decimal

private def dropZeros : (fuel : Nat) → Nat → Int → Nat × Int
  | 0, mantissa, exponent => (mantissa, exponent)
  | fuel + 1, mantissa, exponent =>
    if mantissa = 0 then (0, 0)
    else if mantissa % 10 = 0 then dropZeros fuel (mantissa / 10) (exponent + 1)
    else (mantissa, exponent)

/-- The decimal of a mantissa that may end in zeros; it has at most as many as binary places. -/
def ofMantissa (negative : Bool) (mantissa : Nat) (exponent : Int) : Decimal :=
  let parts := dropZeros (mantissa.log2 + 1) mantissa exponent
  ⟨negative, parts.1, parts.2⟩

def ofDigits (negative : Bool) (digits : List Char) (exponent : Int) : Decimal :=
  ofMantissa negative (Text.asciiValue digits) exponent

def digits (d : Decimal) : List Char := Text.decimal d.mantissa

def places (d : Decimal) : Int := d.digits.length + d.exponent

def numerator (d : Decimal) : Nat := d.mantissa * Nat.pow 10 d.exponent.toNat

def denominator (d : Decimal) : Nat := Nat.pow 10 (-d.exponent).toNat

private def zeros (n : Nat) : List Char := List.replicate n '0'

private def exponentText (e : Int) : List Char :=
  let digits := Text.decimal e.natAbs
  (if e < 0 then '-' else '+') :: (if digits.length < 2 then '0' :: digits else digits)

/-- At least one digit on each side of a point, or an exponent of at least two digits. -/
def text (d : Decimal) : List Char :=
  let size :=
    if d.mantissa = 0 then ['0', '.', '0']
    else if d.places ≤ -4 || 16 < d.places then
      (match d.digits with
        | [] => []
        | [c] => [c]
        | c :: rest => c :: '.' :: rest) ++ 'e' :: exponentText (d.places - 1)
    else if d.places ≤ 0 then '0' :: '.' :: (zeros (-d.places).toNat ++ d.digits)
    else if 0 ≤ d.exponent then d.digits ++ zeros d.exponent.toNat ++ ['.', '0']
    else d.digits.take d.places.toNat ++ '.' :: d.digits.drop d.places.toNat
  if d.negative then '-' :: size else size

end Decimal

end ContainerBundle
