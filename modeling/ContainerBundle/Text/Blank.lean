/-!
# Blank characters

The white space of Unicode together with the four separator controls U+001C to U+001F.
Trimming removes blanks at both ends of a text; the words of a text are its maximal runs of
other characters.
-/
namespace ContainerBundle.Text

/-- Space, the ASCII controls that move the pen or separate records, and Unicode's spaces. -/
def isBlank (c : Char) : Bool :=
  let n := c.toNat
  (9 ≤ n && n ≤ 13) || (28 ≤ n && n ≤ 32) || n == 0x85 || n == 0xA0 || n == 0x1680 ||
    (0x2000 ≤ n && n ≤ 0x200A) || n == 0x2028 || n == 0x2029 || n == 0x202F || n == 0x205F ||
    n == 0x3000

def trimBy (p : Char → Bool) (s : List Char) : List Char :=
  ((s.dropWhile p).reverse.dropWhile p).reverse

def trim (s : List Char) : List Char := trimBy isBlank s

def isBlankText (s : List Char) : Bool := s.all isBlank

end ContainerBundle.Text
