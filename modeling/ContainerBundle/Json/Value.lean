import ContainerBundle.Json.Binary64
/-!
# The daemon's values

Documents from the daemon are trees of null, booleans, numbers, texts, lists and objects. A text is
a row of scalar values, so half of a surrogate pair is no part of one. The members of an object
keep the order in which they were written, and a key stands in it once.
A void value (null, false, zero, or anything empty) counts as not given wherever a default
stands in for it.
-/
namespace ContainerBundle

inductive Real
  | finite (x : Binary64)
  | infinite (negative : Bool)
  | undefined
  deriving DecidableEq

def Real.ofDecimal (d : Decimal) : Real :=
  match Binary64.ofDecimal? d with
  | some x => .finite x
  | none => .infinite d.negative

inductive Json
  | null
  | bool (b : Bool)
  | int (n : Int)
  | real (r : Real)
  | str (s : String)
  | arr (items : List Json)
  | obj (members : List (String × Json))
  deriving Inhabited

namespace Json

/-- Whether the value counts as not given. -/
def isVoid : Json → Bool
  | null => true
  | bool b => !b
  | int n => n == 0
  | real (.finite x) => x.isZero
  | real _ => false
  | str s => s.isEmpty
  | arr items => items.isEmpty
  | obj members => members.isEmpty

def orElse (v default : Json) : Json := if v.isVoid then default else v

theorem isVoid_orElse (v default : Json) :
    (v.orElse default).isVoid ↔ v.isVoid ∧ default.isVoid := by
  by_cases hvoid : v.isVoid <;> simp [orElse, hvoid]

def isNull : Json → Bool
  | null => true
  | _ => false

def isText (v : Json) (s : String) : Bool :=
  match v with
  | str t => t == s
  | _ => false

theorem isText_iff {v : Json} {s : String} : v.isText s ↔ v = str s := by
  cases v with
  | str t => simp [isText]
  | _ => simp [isText]

def ofOption : Option Json → Json
  | none => null
  | some v => v

def ofText? : Option String → Json
  | none => null
  | some s => str s

def find? (key : String) (members : List (String × Json)) : Option Json :=
  (members.find? (fun m => m.1 == key)).map (·.2)

/-- Sets a key: in its place when it is there, at the end otherwise. -/
def put (members : List (String × Json)) (key : String) (v : Json) : List (String × Json) :=
  match members with
  | [] => [(key, v)]
  | m :: rest => if m.1 == key then (key, v) :: rest else m :: put rest key v

theorem find?_put (members : List (String × Json)) (key k : String) (v : Json) :
    find? k (put members key v) = if k = key then some v else find? k members := by
  induction members with
  | nil =>
    by_cases h : k = key
    · simp [put, find?, h]
    · have : ¬key = k := fun e => h e.symm
      simp [put, find?, h, this]
  | cons m rest ih =>
    by_cases hm : m.1 = key
    · by_cases h : k = key
      · simp [put, find?, hm, h]
      · have : ¬key = k := fun e => h e.symm
        simp [put, find?, hm, h, this]
    · by_cases h : k = key
      · subst h
        simpa [put, find?, hm] using ih
      · by_cases hk : m.1 = k
        · simp [put, find?, h, hk]
        · simpa [put, find?, hm, hk, h] using ih

/-- Members in writing order, the last value of a key standing in its first place. -/
def ofMembers (members : List (String × Json)) : List (String × Json) :=
  members.foldl (fun seen m => put seen m.1 m.2) []

/-- Whether a number is at most `n`; a boolean counts as zero or one. -/
def atMost? (v : Json) (n : Int) : Option Bool :=
  match v with
  | bool b => some ((if b then 1 else 0 : Int) ≤ n)
  | int m => some (m ≤ n)
  | real (.finite x) => some (x.atMost n)
  | real (.infinite negative) => some negative
  | real .undefined => some false
  | _ => none

def atLeast? (v : Json) (n : Int) : Option Bool :=
  match v with
  | bool b => some (n ≤ (if b then 1 else 0 : Int))
  | int m => some (n ≤ m)
  | real (.finite x) => some (x.atLeast n)
  | real (.infinite negative) => some !negative
  | real .undefined => some false
  | _ => none

/-- The integer that a boolean or an integer stands for. -/
def integer? : Json → Option Int
  | bool b => some (if b then 1 else 0)
  | int n => some n
  | _ => none

private def sameReal (r : Real) (v : Json) : Bool :=
  match r with
  | .finite x => match v with
      | real (.finite y) => x.same y
      | w => match w.integer? with
        | some n => x.atMost n && x.atLeast n
        | none => false
  | .infinite negative => match v with
      | real (.infinite n) => n == negative
      | _ => false
  | .undefined => match v with
      | real .undefined => true
      | _ => false

mutual

/-- Numbers and booleans by the number they stand for, objects whatever the order of their members.
-/
def same : Json → Json → Bool
  | null, v => v.isNull
  | str s, v => v.isText s
  | bool b, v => match v with
      | real r => sameReal r (bool b)
      | w => w.integer? == some (if b then 1 else 0)
  | int n, v => match v with
      | real r => sameReal r (int n)
      | w => w.integer? == some n
  | real r, v => sameReal r v
  | arr items, v => match v with
      | arr others => sameItems items others
      | _ => false
  | obj members, v => match v with
      | obj others => members.length == others.length && sameMembers members others
      | _ => false

def sameItems : List Json → List Json → Bool
  | [], [] => true
  | a :: as, b :: bs => same a b && sameItems as bs
  | _, _ => false

def sameMembers : List (String × Json) → List (String × Json) → Bool
  | [], _ => true
  | (key, a) :: rest, others =>
    (match find? key others with
      | some b => same a b
      | none => false) && sameMembers rest others

end

end Json

end ContainerBundle
