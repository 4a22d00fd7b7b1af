import ContainerBundle.Json.Value
import ContainerBundle.Text.Quoted
/-!
# Values in messages

A text that a message mentions stands as it is. Every other value, and a text inside a list or
an object, stands in a display form with quoted texts.
-/
namespace ContainerBundle.Json

private def displayReal : Real → List Char
  | .finite x => x.text
  | .infinite false => ['i', 'n', 'f']
  | .infinite true => ['-', 'i', 'n', 'f']
  | .undefined => ['n', 'a', 'n']

mutual

def displayChars : Json → List Char
  | null => ['N', 'o', 'n', 'e']
  | bool true => ['T', 'r', 'u', 'e']
  | bool false => ['F', 'a', 'l', 's', 'e']
  | int n => Text.signedDecimal n
  | real r => displayReal r
  | str s => Text.quote s.toList
  | arr items => '[' :: (displayItems items ++ [']'])
  | obj members => '\x7b' :: (displayMembers members ++ ['\x7d'])

def displayItems : List Json → List Char
  | [] => []
  | v :: rest =>
    displayChars v ++ (if rest.isEmpty then [] else [',', ' ']) ++ displayItems rest

def displayMembers : List (String × Json) → List Char
  | [] => []
  | (key, v) :: rest =>
    Text.quote key.toList ++ ':' :: ' ' :: displayChars v ++
      (if rest.isEmpty then [] else [',', ' ']) ++ displayMembers rest

end

def display (v : Json) : String := String.ofList v.displayChars

def mention : Json → String
  | str s => s
  | v => v.display

end ContainerBundle.Json
