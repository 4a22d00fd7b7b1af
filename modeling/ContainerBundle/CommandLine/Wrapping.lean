import ContainerBundle.Text.Fields
import ContainerBundle.Text.Word
/-!
# Wrapped paragraphs

A paragraph is broken into lines at spaces, behind hyphens between letters and around dashes.
A piece longer than a line is broken where the line ends, behind a hyphen if it has one there.
-/
namespace ContainerBundle.CommandLine

/-- Whether two letters stand next to a hyphen, perhaps with another hyphen between them. -/
private def bordersOnLetters : List Char → Bool
  | a :: b :: more =>
    Text.isWordLetter a &&
      (Text.isWordLetter b || (b == '-' && (more.head?.any Text.isWordLetter)))
  | _ => false

/-- Before the hyphen stands `seen`, the last character first, and behind it `rest`. -/
private def breaksBehind (seen rest : List Char) : Bool :=
  bordersOnLetters seen && bordersOnLetters rest

private def startsDash (s : List Char) : Bool :=
  2 ≤ (s.takeWhile (· == '-')).length && ((s.dropWhile (· == '-')).head?.any Text.isWordChar)

private def precedesDash (c : Char) : Bool :=
  Text.isWordChar c || "!\"'&.,?".toList.contains c

/-- The characters so far are `seen`, the last first, and `piece` those in the current piece. -/
private def splitWord (seen piece : List Char) (inDash : Bool) : List Char → List (List Char)
  | [] => if piece.isEmpty then [] else [piece.reverse]
  | c :: rest =>
    if inDash then
      if c = '-' then splitWord (c :: seen) (c :: piece) true rest
      else piece.reverse :: splitWord (c :: seen) [c] false rest
    else if c = '-' && startsDash (c :: rest) && (seen.head?.any precedesDash) then
      if piece.isEmpty then splitWord (c :: seen) [c] true rest
      else piece.reverse :: splitWord (c :: seen) [c] true rest
    else if c = '-' && !piece.isEmpty && breaksBehind seen rest then
      (c :: piece).reverse :: splitWord (c :: seen) [] false rest
    else splitWord (c :: seen) (c :: piece) false rest

def pieces (s : List Char) : List (List Char) :=
  let words := ((Text.fields (fun c => c == ' ' || (9 ≤ c.toNat && c.toNat ≤ 13)) s).filter
    (fun w => !w.isEmpty)).map (splitWord [] [] false)
  (words.intersperse [[' ']]).flatten

private def isSpace (piece : List Char) : Bool := Text.isBlankText piece

private def fill (room : Nat) : List (List Char) → List (List Char) × List (List Char)
  | [] => ([], [])
  | p :: rest =>
    if p.length ≤ room then
      let filled := fill (room - p.length) rest
      (p :: filled.1, filled.2)
    else ([], p :: rest)

private def cutPlace (room : Nat) (piece : List Char) : Nat :=
  let front := piece.take room
  let behind := (front.reverse.dropWhile (· != '-')).length
  if 1 < behind && (front.take (behind - 1)).any (· != '-') then behind else room

private def lastDropped (line : List (List Char)) : List (List Char) :=
  match line.getLast? with
  | some p => if isSpace p then line.dropLast else line
  | none => line

private def wrapPieces (width : Nat) : (fuel : Nat) → (first : Bool) → List (List Char) →
    List (List Char)
  | 0, _, _ => []
  | _ + 1, _, [] => []
  | fuel + 1, first, p :: rest =>
    let start := if !first && isSpace p then rest else p :: rest
    let (line, left) := fill width start
    let (line, left) := match left with
      | long :: more =>
        if width < long.length then
          let place := cutPlace (width - line.flatten.length) long
          (line ++ [long.take place], long.drop place :: more)
        else (line, left)
      | [] => (line, left)
    let line := lastDropped line
    if line.isEmpty then wrapPieces width fuel first left
    else line.flatten :: wrapPieces width fuel false left

def wrap (width : Nat) (paragraph : String) : List String :=
  let chars := Text.trim paragraph.toList
  (wrapPieces width (2 * chars.length + 1) true (pieces chars)).map String.ofList

end ContainerBundle.CommandLine
