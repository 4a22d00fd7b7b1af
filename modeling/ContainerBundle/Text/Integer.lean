import ContainerBundle.Text.Blank
import ContainerBundle.Text.Digit
/-!
# Reading integers

A written integer is an optional sign and a row of decimal digits of any script, in which one
underscore may stand between two digits, with blanks around it. Rows above a given number of
digits are refused.
-/
namespace ContainerBundle.Text

inductive IntegerFault
  | malformed
  | tooLong (digits : Nat)
  deriving DecidableEq, Repr

def digitLimit : Nat := 4300

/-- Around an integer the separator controls do not count as blanks. -/
def isIntegerBlank (c : Char) : Bool :=
  isBlank c && !(28 ≤ c.toNat && c.toNat ≤ 31)

/-- The values of a row of decimal digits with single underscores between them. -/
def digitRow? : List Char → Option (List Nat)
  | [] => none
  | c :: rest =>
    match decimalValue? c with
    | none => none
    | some d =>
      match rest with
      | [] => some [d]
      | u :: tail =>
        if u = '_' then (digitRow? tail).map (d :: ·) else (digitRow? (u :: tail)).map (d :: ·)

def inRow (c : Char) : Bool := c == '_' || (decimalValue? c).isSome

/-- The integer of a row; its length is judged before what stands behind it. -/
def signedRow (negative : Bool) (s : List Char) : Except IntegerFault Int :=
  match digitRow? (s.takeWhile inRow) with
  | none => .error .malformed
  | some row =>
    if digitLimit < row.length then .error (.tooLong row.length)
    else if !(s.dropWhile inRow).isEmpty then .error .malformed
    else if negative then .ok (-(valueOf row : Int)) else .ok (valueOf row : Int)

def readInteger (s : List Char) : Except IntegerFault Int :=
  match trimBy isIntegerBlank s with
  | [] => .error .malformed
  | c :: rest =>
    if c = '-' then signedRow true rest
    else if c = '+' then signedRow false rest
    else signedRow false (c :: rest)

end ContainerBundle.Text
