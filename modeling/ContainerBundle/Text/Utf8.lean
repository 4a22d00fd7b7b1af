import ContainerBundle.Text.Digit
import ContainerBundle.Text.Quoted
/-!
# Reading UTF-8

Bytes become characters from the left. Where they do not, the fault holds the position, the
bytes that were taken together there and what is wrong with them.
-/
namespace ContainerBundle.Text

inductive Utf8Reason
  | invalidStart
  | invalidContinuation
  | unexpectedEnd
  deriving DecidableEq, Repr

structure Utf8Fault where
  position : Nat
  bytes : List UInt8
  reason : Utf8Reason
  deriving DecidableEq, Repr

def Utf8Reason.message : Utf8Reason → String
  | .invalidStart => "invalid start byte"
  | .invalidContinuation => "invalid continuation byte"
  | .unexpectedEnd => "unexpected end of data"

def Utf8Fault.message (fault : Utf8Fault) : String :=
  let place := match fault.bytes with
    | [b] => "byte 0x" ++ String.ofList (hexadecimal 2 b.toNat) ++ " in position " ++
        numeral fault.position
    | bytes => "bytes in position " ++ numeral fault.position ++ "-" ++
        numeral (fault.position + bytes.length - 1 : Nat)
  "'utf-8' codec can't decode " ++ place ++ ": " ++ fault.reason.message

def isContinuation (b : UInt8) : Bool := 0x80 ≤ b && b ≤ 0xBF

def fitsLead (first second : UInt8) : Bool :=
  isContinuation second &&
    !(first == 0xE0 && second < 0xA0) && !(first == 0xED && 0xA0 ≤ second) &&
    !(first == 0xF0 && second < 0x90) && !(first == 0xF4 && 0x90 ≤ second)

def tailBits (b : UInt8) : Nat := b.toNat % 64

def decodeFrom (position : Nat) : List UInt8 → Except Utf8Fault (List Char)
  | [] => .ok []
  | a :: rest =>
    if a < 0x80 then
      (decodeFrom (position + 1) rest).map (Char.ofNat a.toNat :: ·)
    else if a < 0xC2 || 0xF4 < a then .error ⟨position, [a], .invalidStart⟩
    else
      match rest with
      | [] => .error ⟨position, [a], .unexpectedEnd⟩
      | b :: rest =>
        if a < 0xE0 then
          if isContinuation b then
            (decodeFrom (position + 2) rest).map
              (Char.ofNat (a.toNat % 32 * 64 + tailBits b) :: ·)
          else .error ⟨position, [a], .invalidContinuation⟩
        else if !fitsLead a b then .error ⟨position, [a], .invalidContinuation⟩
        else
          match rest with
          | [] => .error ⟨position, [a, b], .unexpectedEnd⟩
          | c :: rest =>
            if !isContinuation c then .error ⟨position, [a, b], .invalidContinuation⟩
            else if a < 0xF0 then
              (decodeFrom (position + 3) rest).map
                (Char.ofNat (a.toNat % 16 * 4096 + tailBits b * 64 + tailBits c) :: ·)
            else
              match rest with
              | [] => .error ⟨position, [a, b, c], .unexpectedEnd⟩
              | d :: rest =>
                if !isContinuation d then .error ⟨position, [a, b, c], .invalidContinuation⟩
                else
                  (decodeFrom (position + 4) rest).map
                    (Char.ofNat (a.toNat % 8 * 262144 + tailBits b * 4096 + tailBits c * 64 +
                      tailBits d) :: ·)

def decodeUtf8 (bytes : List UInt8) : Except Utf8Fault String :=
  (decodeFrom 0 bytes).map String.ofList

end ContainerBundle.Text
