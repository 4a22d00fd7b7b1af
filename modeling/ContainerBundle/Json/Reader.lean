import ContainerBundle.Json.Value
import ContainerBundle.Text.Fields
import ContainerBundle.Text.Quoted
/-!
# Reading documents

The reader takes the JSON grammar and, besides, the three words for numbers without a decimal
form. A text that is no document is refused with the first complaint and the place it
concerns. Integers with more digits and lists and objects nested more deeply than the given
limits are refused as well.
-/
namespace ContainerBundle.Json

inductive Complaint
  | value
  | propertyName
  | colon
  | comma
  | extraData
  | unterminated
  | escape
  | unitEscape
  | controlCharacter
  | byteOrderMark
  deriving DecidableEq, Repr

/-- What a reader admits: the digits of an integer, and lists and objects inside each other. -/
structure Limits where
  digits : Nat
  nesting : Nat
  deriving DecidableEq, Repr

inductive Bracket
  | list
  | object
  deriving DecidableEq, Repr

/-- Why reading stopped, with the text that was left at the place concerned. -/
inductive Stop
  | refused (complaint : Complaint) (left : List Char)
  | tooManyDigits (count : Nat)
  | tooDeep (bracket : Bracket)

inductive ReadFault
  | malformed (complaint : Complaint) (offset line column : Nat)
  | tooManyDigits (count : Nat)
  | tooDeep (bracket : Bracket)
  deriving DecidableEq, Repr

def Complaint.message : Complaint → String
  | .value => "Expecting value"
  | .propertyName => "Expecting property name enclosed in double quotes"
  | .colon => "Expecting ':' delimiter"
  | .comma => "Expecting ',' delimiter"
  | .extraData => "Extra data"
  | .unterminated => "Unterminated string starting at"
  | .escape => "Invalid \\escape"
  | .unitEscape => "Invalid \\uXXXX escape"
  | .controlCharacter => "Invalid control character at"
  | .byteOrderMark => "Unexpected UTF-8 BOM (decode using utf-8-sig)"

def isGap (c : Char) : Bool := c == ' ' || c == '\n' || c == '\r' || c == '\t'

def skipGaps (s : List Char) : List Char := s.dropWhile isGap

def hexValue? (c : Char) : Option Nat :=
  if '0' ≤ c && c ≤ '9' then some (c.toNat - 48)
  else if 'a' ≤ c && c ≤ 'f' then some (c.toNat - 87)
  else if 'A' ≤ c && c ≤ 'F' then some (c.toNat - 55)
  else none

def unit? (a b c d : Char) : Option Nat :=
  match hexValue? a, hexValue? b, hexValue? c, hexValue? d with
  | some a, some b, some c, some d => some (4096 * a + 256 * b + 16 * c + d)
  | _, _, _, _ => none

def letterEscape? (c : Char) : Option Char :=
  if c = Text.doubleQuote || c = Text.backslash || c = '/' then some c
  else if c = 'b' then some (Char.ofNat 8)
  else if c = 'f' then some (Char.ofNat 12)
  else if c = 'n' then some '\n'
  else if c = 'r' then some '\r'
  else if c = 't' then some '\t'
  else none

def isHighUnit (n : Nat) : Bool := 0xD800 ≤ n && n < 0xDC00

def isLowUnit (n : Nat) : Bool := 0xDC00 ≤ n && n < 0xE000

/-- Half of a pair on its own is no scalar value and cannot stand in a text; it is replaced. -/
def unitChar (n : Nat) : Char :=
  if isHighUnit n || isLowUnit n then Char.ofNat 0xFFFD else Char.ofNat n

def pairChar (high low : Nat) : Char :=
  Char.ofNat (0x10000 + (high - 0xD800) * 0x400 + (low - 0xDC00))

/-- What was left at the opening quote is `opening`, and `seen` was read, the last first. -/
def readText (opening : List Char) (seen : List Char) :
    List Char → Except Stop (List Char × List Char)
  | [] => .error (.refused .unterminated opening)
  | c :: rest =>
    if c = Text.doubleQuote then .ok (seen.reverse, rest)
    else if c = Text.backslash then
      match rest with
      | [] => .error (.refused .unterminated opening)
      | e :: rest =>
        if e = 'u' then
          match rest with
          | h1 :: h2 :: h3 :: h4 :: next :: rest =>
            match unit? h1 h2 h3 h4 with
            | none => .error (.refused .unitEscape (e :: h1 :: h2 :: h3 :: h4 :: next :: rest))
            | some n =>
              if isHighUnit n then
                match rest with
                | u :: l1 :: l2 :: l3 :: l4 :: last :: tail =>
                  if next = Text.backslash && u = 'u' then
                    match unit? l1 l2 l3 l4 with
                    | none =>
                      .error (.refused .unitEscape (u :: l1 :: l2 :: l3 :: l4 :: last :: tail))
                    | some m =>
                      if isLowUnit m then readText opening (pairChar n m :: seen) (last :: tail)
                      else
                        readText opening (unitChar n :: seen)
                          (next :: u :: l1 :: l2 :: l3 :: l4 :: last :: tail)
                  else
                    readText opening (unitChar n :: seen)
                      (next :: u :: l1 :: l2 :: l3 :: l4 :: last :: tail)
                | short => readText opening (unitChar n :: seen) (next :: short)
              else readText opening (unitChar n :: seen) (next :: rest)
          | short => .error (.refused .unitEscape (e :: short))
        else
          match letterEscape? e with
          | some d => readText opening (d :: seen) rest
          | none => .error (.refused .escape (c :: e :: rest))
    else if c.toNat < 32 then .error (.refused .controlCharacter (c :: rest))
    else readText opening (c :: seen) rest

def digitRun (s : List Char) : List Char × List Char :=
  (s.takeWhile Text.isAsciiDigit, s.dropWhile Text.isAsciiDigit)

/-- The whole part of a number: a zero alone, or a row that starts with another digit. -/
def wholePart? : List Char → Option (List Char × List Char)
  | [] => none
  | c :: rest =>
    if c = '0' then some (['0'], rest)
    else if Text.isAsciiDigit c then some (digitRun (c :: rest))
    else none

def fraction? : List Char → Option (List Char × List Char)
  | c :: rest =>
    let run := digitRun rest
    if c = '.' && !run.1.isEmpty then some run else none
  | [] => none

def cutSign : List Char → Bool × List Char
  | [] => (false, [])
  | s :: tail =>
    if s = '-' then (true, tail) else if s = '+' then (false, tail) else (false, s :: tail)

def exponent? : List Char → Option (Int × List Char)
  | c :: rest =>
    if c = 'e' || c = 'E' then
      let signed := cutSign rest
      let run := digitRun signed.2
      if run.1.isEmpty then none
      else
        let size : Int := Text.asciiValue run.1
        some (if signed.1 then -size else size, run.2)
    else none
  | [] => none

def readUnsigned (digitLimit : Nat) (negative : Bool) (start s : List Char) :
    Except Stop (Json × List Char) :=
  match wholePart? s with
  | none => .error (.refused .value start)
  | some (whole, rest) =>
    let (digits, scale, rest, isReal) := match fraction? rest with
      | some (places, tail) => (whole ++ places, (places.length : Int), tail, true)
      | none => (whole, 0, rest, false)
    match exponent? rest with
    | some (power, tail) =>
      .ok (real (.ofDecimal (Decimal.ofDigits negative digits (power - scale))), tail)
    | none =>
      if isReal then .ok (real (.ofDecimal (Decimal.ofDigits negative digits (-scale))), rest)
      else if digitLimit < whole.length then .error (.tooManyDigits whole.length)
      else
        let size : Int := Text.asciiValue whole
        .ok (int (if negative then -size else size), rest)

def readNumber (digits : Nat) (s : List Char) : Except Stop (Json × List Char) :=
  match s with
  | c :: rest => if c = '-' then readUnsigned digits true s rest else readUnsigned digits false s s
  | [] => .error (.refused .value s)

def wordValues : List (List Char × Json) :=
  [(['n', 'u', 'l', 'l'], null), (['t', 'r', 'u', 'e'], bool true),
   (['f', 'a', 'l', 's', 'e'], bool false), (['N', 'a', 'N'], real .undefined),
   (['I', 'n', 'f', 'i', 'n', 'i', 't', 'y'], real (.infinite false)),
   (['-', 'I', 'n', 'f', 'i', 'n', 'i', 't', 'y'], real (.infinite true))]

def readScalar (digits : Nat) (s : List Char) : Except Stop (Json × List Char) :=
  match wordValues.findSome? (fun w => (Text.after? w.1 s).map (fun rest => (w.2, rest))) with
  | some found => .ok found
  | none => readNumber digits s

mutual

/-- Up to `nesting` lists and objects stand inside each other. The fuel outlasts every shorter text.
-/
def readValue (digits : Nat) : (fuel nesting : Nat) → List Char → Except Stop (Json × List Char)
  | 0, _, s => .error (.refused .value s)
  | _ + 1, _, [] => .error (.refused .value [])
  | fuel + 1, nesting, c :: rest =>
    if c = Text.doubleQuote then
      match readText (c :: rest) [] rest with
      | .error stop => .error stop
      | .ok (s, rest) => .ok (str (String.ofList s), rest)
    else if c = '[' then
      match nesting with
      | 0 => .error (.tooDeep .list)
      | inner + 1 =>
        match skipGaps rest with
        | [] => .error (.refused .value [])
        | d :: tail =>
          if d = ']' then .ok (arr [], tail)
          else
            match readItems digits fuel inner (d :: tail) with
            | .error stop => .error stop
            | .ok (items, rest) => .ok (arr items, rest)
    else if c = '\x7b' then
      match nesting with
      | 0 => .error (.tooDeep .object)
      | inner + 1 =>
        match skipGaps rest with
        | [] => .error (.refused .propertyName [])
        | d :: tail =>
          if d = '\x7d' then .ok (obj [], tail)
          else
            match readMembers digits fuel inner (d :: tail) with
            | .error stop => .error stop
            | .ok (members, rest) => .ok (obj (ofMembers members), rest)
    else readScalar digits (c :: rest)

def readItems (digits : Nat) : (fuel nesting : Nat) → List Char →
    Except Stop (List Json × List Char)
  | 0, _, s => .error (.refused .value s)
  | fuel + 1, nesting, s =>
    match readValue digits fuel nesting s with
    | .error stop => .error stop
    | .ok (v, rest) =>
      match skipGaps rest with
      | [] => .error (.refused .comma [])
      | d :: tail =>
        if d = ']' then .ok ([v], tail)
        else if d = ',' then
          match readItems digits fuel nesting (skipGaps tail) with
          | .error stop => .error stop
          | .ok (items, rest) => .ok (v :: items, rest)
        else .error (.refused .comma (d :: tail))

def readMembers (digits : Nat) : (fuel nesting : Nat) → List Char →
    Except Stop (List (String × Json) × List Char)
  | 0, _, s => .error (.refused .propertyName s)
  | _ + 1, _, [] => .error (.refused .propertyName [])
  | fuel + 1, nesting, c :: rest =>
    if c ≠ Text.doubleQuote then .error (.refused .propertyName (c :: rest))
    else
      match readText (c :: rest) [] rest with
      | .error stop => .error stop
      | .ok (key, rest) =>
        match skipGaps rest with
        | [] => .error (.refused .colon [])
        | d :: tail =>
          if d ≠ ':' then .error (.refused .colon (d :: tail))
          else
            match readValue digits fuel nesting (skipGaps tail) with
            | .error stop => .error stop
            | .ok (v, rest) =>
              match skipGaps rest with
              | [] => .error (.refused .comma [])
              | d :: tail =>
                if d = '\x7d' then .ok ([(String.ofList key, v)], tail)
                else if d = ',' then
                  match readMembers digits fuel nesting (skipGaps tail) with
                  | .error stop => .error stop
                  | .ok (members, rest) => .ok ((String.ofList key, v) :: members, rest)
                else .error (.refused .comma (d :: tail))

end

def readDocument (limits : Limits) (s : List Char) : Except Stop Json :=
  match s with
  | c :: _ =>
    if c.toNat = 0xFEFF then .error (.refused .byteOrderMark s)
    else
      match readValue limits.digits (2 * s.length + 2) limits.nesting (skipGaps s) with
      | .error stop => .error stop
      | .ok (v, rest) =>
        match skipGaps rest with
        | [] => .ok v
        | left => .error (.refused .extraData left)
  | [] => .error (.refused .value [])

def place (s left : List Char) (complaint : Complaint) : ReadFault :=
  let seen := s.take (s.length - left.length)
  .malformed complaint seen.length (seen.count '\n' + 1)
    ((seen.reverse.takeWhile (· != '\n')).length + 1)

def read (limits : Limits) (s : String) : Except ReadFault Json :=
  match readDocument limits s.toList with
  | .ok v => .ok v
  | .error (.refused complaint left) => .error (place s.toList left complaint)
  | .error (.tooManyDigits count) => .error (.tooManyDigits count)
  | .error (.tooDeep bracket) => .error (.tooDeep bracket)

end ContainerBundle.Json
