import ContainerBundle.Json.Field
import ContainerBundle.Proofs.Agreement
/-!
# Documents that differ in one place

A route leads through members of objects and items of lists to one place of a document. Two
documents that differ in that place alone are objects on the way to it whose members are the
same but for one, or lists whose items are.
-/
namespace ContainerBundle.Json

def erase (key : String) (members : List (String × Json)) : List (String × Json) :=
  members.filter (·.1 != key)

theorem find?_erase (key k : String) (members : List (String × Json)) :
    find? k (erase key members) = if k = key then none else find? k members := by
  rw [find?, erase, List.find?_filter]
  by_cases h : k = key
  · subst h
    rw [if_pos rfl, Option.map_eq_none_iff, List.find?_eq_none]
    simp
  · rw [if_neg h, find?]
    congr 2
    funext m
    by_cases hm : m.1 = k
    · simp [hm, h]
    · simp [hm]

inductive Step
  | member (key : String)
  | item (place : Nat)
  deriving DecidableEq

/-- The documents differ at the end of a route, where `R` relates their values, and nowhere else. -/
inductive DiffersAt (R : Json → Json → Prop) : List Step → Json → Json → Prop
  | here {v w : Json} (h : R v w) : DiffersAt R [] v w
  | member {key : String} {rest : List Step} {members : List (String × Json)} {v w : Json}
      (hmember : find? key members = some v) (h : DiffersAt R rest v w) :
      DiffersAt R (.member key :: rest) (.obj members) (.obj (put members key w))
  | item {n : Nat} {rest : List Step} {items : List Json} {v w : Json}
      (hitem : items[n]? = some v) (h : DiffersAt R rest v w) :
      DiffersAt R (.item n :: rest) (.arr items) (.arr (items.set n w))

/-- Objects whose members are related key by key, an absent one read as null. -/
inductive RecordsAlike (P : String → Json → Json → Prop) : Json → Json → Prop
  | obj {members others : List (String × Json)}
      (h : ∀ key, P key ((find? key members).getD .null) ((find? key others).getD .null)) :
      RecordsAlike P (.obj members) (.obj others)

variable {P : String → Json → Json → Prop} {R : Json → Json → Prop} {v w : Json} {key : String}

namespace RecordsAlike

theorem refl (hP : ∀ key x, P key x x) (members : List (String × Json)) :
    RecordsAlike P (.obj members) (.obj members) :=
  .obj fun key => hP key _

theorem objects (h : RecordsAlike P v w) :
    ∃ members others, v = .obj members ∧ w = .obj others := by
  cases h
  exact ⟨_, _, rfl, rfl⟩

theorem member (h : RecordsAlike P v w) (key : String) :
    Agree (P key) (v.member key) (w.member key) := by
  cases h with
  | obj h => exact .held (h key)

theorem member_eq (h : RecordsAlike P v w) (key : String) (hP : ∀ x y, P key x y → x = y) :
    v.member key = w.member key := by
  cases h with
  | obj h => exact congrArg Except.ok (hP _ _ (h key))

theorem given_eq (h : RecordsAlike P v w) (key : String) (default : Json)
    (hP : ∀ x y, P key x y → x = y) : v.given key default = w.given key default := by
  rw [given, given, h.member_eq key hP]

theorem orElse (h : RecordsAlike P v w) :
    RecordsAlike P (v.orElse (.obj [])) (w.orElse (.obj [])) := by
  have hsame : ∀ members, (Json.obj members).orElse (.obj []) = .obj members := by
    intro members
    cases members <;> rfl
  cases h with
  | obj h =>
    rw [hsame, hsame]
    exact .obj h

end RecordsAlike

theorem DiffersAt.recordsAlike {k : String} {rest : List Step}
    (h : DiffersAt R (.member k :: rest) v w) (hsame : ∀ key x, key ≠ k → P key x x)
    (hother : ∀ x y, DiffersAt R rest x y → P k x y) : RecordsAlike P v w := by
  cases h with
  | @member _ _ members x y hmember h =>
    refine .obj fun key => ?_
    rw [find?_put]
    by_cases hkey : key = k
    · subst hkey
      rw [if_pos rfl, hmember]
      exact hother x y h
    · rw [if_neg hkey]
      exact hsame key _ hkey

/-- The value is a record whose member `key` is null, and the other value lacks that member. -/
inductive DropsNull (key : String) : (record v w : Json) → Prop
  | obj {members : List (String × Json)} (h : find? key members = some .null) :
      DropsNull key (.obj members) (.obj members) (.obj (erase key members))

variable {record : Json}

theorem DropsNull.recordsAlike (h : DropsNull key record v w) (hsame : ∀ key x, P key x x) :
    RecordsAlike P v w := by
  cases h with
  | @obj members h =>
    refine .obj fun k => ?_
    rw [find?_erase]
    by_cases hk : k = key
    · subst hk
      rw [if_pos rfl, h]
      exact hsame k _
    · rw [if_neg hk]
      exact hsame k _

theorem DropsNull.given_eq (h : DropsNull key record v w) (k : String) (default : Json) :
    v.given k default = w.given k default := by
  have hsame : RecordsAlike (fun _ x y => x = y) v w := h.recordsAlike fun _ _ => rfl
  exact hsame.given_eq k default fun _ _ hxy => hxy

theorem DropsNull.memberOr_eq (h : DropsNull key record v w) {k : String} (hk : k ≠ key)
    (default : Json) : w.memberOr k default = v.memberOr k default := by
  cases h with
  | obj h => rw [memberOr, memberOr, find?_erase, if_neg hk]

theorem DropsNull.memberOr_self (h : DropsNull key record v w) (default : Json) :
    v.memberOr key default = .ok .null ∧ w.memberOr key default = .ok default := by
  cases h with
  | obj h =>
    rw [memberOr, memberOr, find?_erase, if_pos rfl, h]
    exact ⟨rfl, rfl⟩

theorem DropsNull.exists_memberOr (h : DropsNull key record v w) (k : String) (default : Json) :
    ∃ x, v.memberOr k default = .ok x := by
  cases h
  exact ⟨_, rfl⟩

theorem DropsNull.record_eq (h : DropsNull key record v w) : record = v := by
  cases h
  rfl

end ContainerBundle.Json
