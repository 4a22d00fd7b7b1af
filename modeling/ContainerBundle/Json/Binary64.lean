import ContainerBundle.Json.Decimal
/-!
# Binary numbers

A number with a fraction or an exponent is kept in 64 binary places: a sign and a mantissa of at
most 53 places times a power of two. A written decimal is read as the nearest such number, from
halfway the one with the even mantissa. A number is written with the fewest digits that read
back as it, and of the decimals with so few digits as the nearest.
-/
namespace ContainerBundle

/-- The mantissa fills its places unless the power of two is the least one. -/
def Binary64.Canonical (mantissa : Nat) (exponent : Int) : Prop :=
  mantissa < Nat.pow 2 53 ∧ -1074 ≤ exponent ∧ exponent ≤ 971 ∧
    (Nat.pow 2 52 ≤ mantissa ∨ exponent = -1074)

instance (mantissa : Nat) (exponent : Int) : Decidable (Binary64.Canonical mantissa exponent) :=
  inferInstanceAs (Decidable (_ ∧ _))

/-- The number `±mantissa · 2 ^ exponent`. -/
structure Binary64 where
  negative : Bool
  mantissa : Nat
  exponent : Int
  canonical : Binary64.Canonical mantissa exponent
  deriving DecidableEq

namespace Binary64

theorem canonical_zero : Canonical 0 (-1074) := by decide

def zero (negative : Bool) : Binary64 := ⟨negative, 0, -1074, canonical_zero⟩

def isZero (x : Binary64) : Bool := x.mantissa == 0

def size (x : Binary64) : Nat := x.mantissa * Nat.pow 2 x.exponent.toNat

def denominator (x : Binary64) : Nat := Nat.pow 2 (-x.exponent).toNat

def numerator (x : Binary64) : Int := if x.negative then -(x.size : Int) else x.size

def atMost (x : Binary64) (n : Int) : Bool := x.numerator ≤ n * x.denominator

def atLeast (x : Binary64) (n : Int) : Bool := n * x.denominator ≤ x.numerator

/-- Equality of numbers; the sign of zero does not count. -/
def same (x y : Binary64) : Bool := x.numerator * y.denominator == y.numerator * x.denominator

/-- The number of these parts, none when they exceed the places that there are. -/
def ofParts? (negative : Bool) (mantissa : Nat) (exponent : Int) : Option Binary64 :=
  if h : Canonical mantissa exponent then some ⟨negative, mantissa, exponent, h⟩ else none

theorem ofParts?_eq_some_iff {negative : Bool} {mantissa : Nat} {exponent : Int} {x : Binary64} :
    ofParts? negative mantissa exponent = some x ↔
      x.negative = negative ∧ x.mantissa = mantissa ∧ x.exponent = exponent := by
  unfold ofParts?
  constructor
  · intro h
    split at h
    · cases h
      simp
    · cases h
  · rintro ⟨rfl, rfl, rfl⟩
    simp [x.canonical]

/-- The quotient rounded to the nearest integer, from halfway to the even one. -/
def roundedQuotient (n d : Nat) : Nat :=
  let quotient := n / d
  let twice := 2 * (n % d)
  if twice < d || (twice == d && quotient % 2 == 0) then quotient else quotient + 1

def floorLog (n d : Nat) : Int :=
  let guess : Int := (n.log2 : Int) - d.log2
  if d * Nat.pow 2 guess.toNat ≤ n * Nat.pow 2 (-guess).toNat then guess else guess - 1

/-- The number nearest to the quotient of two positive numbers, none when it is too great. -/
def nearest? (negative : Bool) (n d : Nat) : Option Binary64 :=
  let exponent := max (floorLog n d - 52) (-1074)
  let mantissa := roundedQuotient (n * Nat.pow 2 (-exponent).toNat) (d * Nat.pow 2 exponent.toNat)
  if mantissa = Nat.pow 2 53 then ofParts? negative (Nat.pow 2 52) (exponent + 1)
  else ofParts? negative mantissa exponent

def mostPlaces : Int := 310

def mostZeros : Int := 330

def ofDecimal? (d : Decimal) : Option Binary64 :=
  if d.mantissa = 0 || d.places < -mostZeros then some (zero d.negative)
  else if mostPlaces < d.places then none
  else nearest? d.negative d.numerator d.denominator

/-- The places of a number in front of the point, below zero for zeros behind it. -/
def places (x : Binary64) : Int :=
  let shift : Nat := 400
  ((Text.decimal (x.size * Nat.pow 10 shift / x.denominator)).length : Int) - shift

/-- The decimals of `n` digits next to a number, the nearer first, from halfway the even one. -/
def neighbours (x : Binary64) (n : Nat) : List Decimal :=
  let scale := x.places - n
  let numerator := x.size * Nat.pow 10 (-scale).toNat
  let denominator := x.denominator * Nat.pow 10 scale.toNat
  let near := roundedQuotient numerator denominator
  let far := if near * denominator ≤ numerator then near + 1 else near - 1
  [Decimal.ofMantissa x.negative near scale, Decimal.ofMantissa x.negative far scale]

def exact (x : Binary64) : Decimal :=
  Decimal.ofMantissa x.negative (x.size * Nat.pow 5 (-x.exponent).toNat) (min x.exponent 0)

def mostDigits : Nat := 17

/-- The decimal of fewest digits that reads back as a number, within the digits needed. -/
def shortest? (x : Binary64) : Option Decimal :=
  (List.range' 1 mostDigits).findSome? fun n =>
    (x.neighbours n).find? (fun d => ofDecimal? d == some x)

theorem ofDecimal?_of_shortest? {x : Binary64} {d : Decimal} (h : x.shortest? = some d) :
    ofDecimal? d = some x := by
  obtain ⟨n, _, hn⟩ := List.exists_of_findSome?_eq_some h
  simpa using List.find?_some hn

def shortest (x : Binary64) : Decimal := x.shortest?.getD x.exact

def text (x : Binary64) : List Char := x.shortest.text

end Binary64

end ContainerBundle
