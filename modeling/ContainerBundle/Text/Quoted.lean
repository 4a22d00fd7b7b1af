import ContainerBundle.Text.Visible
/-!
# Quoted text

Messages quote the names they mention. The quote is an apostrophe unless the text holds one
and no double quote; the quote in use and the backslash are escaped, and so is every character
without a visible form, by the shortest of the three hexadecimal escapes.
-/
namespace ContainerBundle.Text

def apostrophe : Char := Char.ofNat 39

def doubleQuote : Char := Char.ofNat 34

def backslash : Char := Char.ofNat 92

def hexadecimal : (width : Nat) → Nat → List Char
  | 0, _ => []
  | width + 1, n => hexadecimal width (n / 16) ++ [Nat.digitChar (n % 16)]

def quoteChar (mark c : Char) : List Char :=
  if c = mark || c = backslash then [backslash, c]
  else if c = '\n' then [backslash, 'n']
  else if c = '\r' then [backslash, 'r']
  else if c = '\t' then [backslash, 't']
  else if isVisible c then [c]
  else if c.toNat < 0x100 then backslash :: 'x' :: hexadecimal 2 c.toNat
  else if c.toNat < 0x10000 then backslash :: 'u' :: hexadecimal 4 c.toNat
  else backslash :: 'U' :: hexadecimal 8 c.toNat

def quoteMark (s : List Char) : Char :=
  if s.contains apostrophe && !s.contains doubleQuote then doubleQuote else apostrophe

def quote (s : List Char) : List Char :=
  quoteMark s :: (s.flatMap (quoteChar (quoteMark s)) ++ [quoteMark s])

def quoted (s : String) : String := String.ofList (quote s.toList)

end ContainerBundle.Text
