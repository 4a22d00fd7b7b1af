import ContainerBundle.Fault
import ContainerBundle.Json.Rendering
/-!
# Nesting

How deep the values of a value lie in one another. Making a document goes down level by level,
and a value with more levels than the runtime has room for is refused. How many that are depends
on the runtime and on how deep the caller stands already, so the limit is given with the value.
-/
namespace ContainerBundle.Json

mutual

/-- How deep a value is, with `leaf` for a value that is neither a list nor an object. -/
def depth (leaf : Nat) : Json → Nat
  | arr items => depthOfItems leaf items + 1
  | obj members => depthOfMembers leaf members + 1
  | _ => leaf

def depthOfItems (leaf : Nat) : List Json → Nat
  | [] => 0
  | v :: rest => max (depth leaf v) (depthOfItems leaf rest)

def depthOfMembers (leaf : Nat) : List (String × Json) → Nat
  | [] => 0
  | (_, v) :: rest => max (depth leaf v) (depthOfMembers leaf rest)

end

/-- The most lists and objects that lie in one another. -/
def nesting (v : Json) : Nat := v.depth 0

/-- The most values that lie in one another, the innermost one included. -/
def levels (v : Json) : Nat := v.depth 1

/-- The levels for which a runtime with its usual settings has room. -/
def levelLimit : Nat := 494

def bounded (v : Json) (limit : Nat := levelLimit) : Except Fault Json :=
  if v.levels ≤ limit then .ok v else .error .overNested

def document (v : Json) (limit : Nat := levelLimit) : Except Fault String :=
  (v.bounded limit).map render

theorem document_eq_ok_iff {v : Json} {limit : Nat} {text : String} :
    v.document limit = .ok text ↔ v.levels ≤ limit ∧ v.render = text := by
  by_cases h : v.levels ≤ limit <;> simp [document, bounded, h, Except.map]

end ContainerBundle.Json
