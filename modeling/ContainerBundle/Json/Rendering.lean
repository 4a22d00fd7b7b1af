import ContainerBundle.Json.Value
import ContainerBundle.Text.Quoted
/-!
# Written documents

A document is written with one item or member to a line, four spaces of indentation for each
level, and ASCII characters only: every other character is escaped as its UTF-16 units. A
final line feed ends it.
-/
namespace ContainerBundle.Json

def unitEscape (n : Nat) : List Char := Text.backslash :: 'u' :: Text.hexadecimal 4 n

def units (n : Nat) : List Nat :=
  if n < 0x10000 then [n]
  else [0xD800 + (n - 0x10000) / 0x400, 0xDC00 + (n - 0x10000) % 0x400]

def writeChar (c : Char) : List Char :=
  if c = Text.doubleQuote || c = Text.backslash then [Text.backslash, c]
  else if c = '\n' then [Text.backslash, 'n']
  else if c = '\r' then [Text.backslash, 'r']
  else if c = '\t' then [Text.backslash, 't']
  else if c.toNat = 8 then [Text.backslash, 'b']
  else if c.toNat = 12 then [Text.backslash, 'f']
  else if 32 ≤ c.toNat ∧ c.toNat ≤ 126 then [c]
  else (units c.toNat).flatMap unitEscape

def writeText (s : List Char) : List Char :=
  Text.doubleQuote :: (s.flatMap writeChar ++ [Text.doubleQuote])

def writeReal : Real → List Char
  | .finite x => x.text
  | .infinite false => ['I', 'n', 'f', 'i', 'n', 'i', 't', 'y']
  | .infinite true => ['-', 'I', 'n', 'f', 'i', 'n', 'i', 't', 'y']
  | .undefined => ['N', 'a', 'N']

def lineStart (depth : Nat) : List Char := '\n' :: List.replicate (4 * depth) ' '

def separator : Bool → List Char
  | true => []
  | false => [',']

def closing (depth : Nat) (isEmpty : Bool) (mark : Char) (rest : List Char) : List Char :=
  if isEmpty then mark :: rest else lineStart depth ++ mark :: rest

mutual

/-- The text of a value whose first line stands at level `depth`, before the text `rest`. -/
def write (depth : Nat) : Json → (rest : List Char) → List Char
  | null, rest => 'n' :: 'u' :: 'l' :: 'l' :: rest
  | bool true, rest => 't' :: 'r' :: 'u' :: 'e' :: rest
  | bool false, rest => 'f' :: 'a' :: 'l' :: 's' :: 'e' :: rest
  | int n, rest => Text.signedDecimal n ++ rest
  | real r, rest => writeReal r ++ rest
  | str s, rest => writeText s.toList ++ rest
  | arr items, rest =>
    '[' :: writeItems (depth + 1) items (closing depth items.isEmpty ']' rest)
  | obj members, rest =>
    '\x7b' :: writeMembers (depth + 1) members (closing depth members.isEmpty '\x7d' rest)

def writeItems (depth : Nat) : List Json → (rest : List Char) → List Char
  | [], rest => rest
  | v :: others, rest =>
    lineStart depth ++ write depth v (separator others.isEmpty ++ writeItems depth others rest)

def writeMembers (depth : Nat) : List (String × Json) → (rest : List Char) → List Char
  | [], rest => rest
  | (key, v) :: others, rest =>
    lineStart depth ++ (writeText key.toList ++ (':' :: ' ' ::
      write depth v (separator others.isEmpty ++ writeMembers depth others rest)))

end

def render (v : Json) : String := String.ofList (write 0 v ['\n'])

end ContainerBundle.Json
