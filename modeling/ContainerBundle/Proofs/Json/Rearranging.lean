import Mathlib.Data.List.Forall2
import Mathlib.Data.List.Nodup
import ContainerBundle.Proofs.Json.Routes
/-!
# Values with their members in another order

The order of an object's members does not matter to a look-up, when no key is repeated. So a record
that is read by names alone is read alike whatever the order of its members, and values without
members are the same.
-/
namespace ContainerBundle.Json

/-- The same value, with the members of its objects in another order, at any depth. -/
inductive Rearranged : Json → Json → Prop
  | same (v : Json) : Rearranged v v
  | arr {items others : List Json} (h : List.Forall₂ Rearranged items others) :
      Rearranged (.arr items) (.arr others)
  | obj {members middle others : List (String × Json)} (horder : members.Perm middle)
      (hkeys : middle.map Prod.fst = others.map Prod.fst)
      (hvalues : List.Forall₂ Rearranged (middle.map Prod.snd) (others.map Prod.snd)) :
      Rearranged (.obj members) (.obj others)

variable {members middle others : List (String × Json)} {key : String} {v w : Json}
variable {R : Json → Json → Prop} {T : String → Json → Prop} {P : String → Json → Json → Prop}

private theorem mem_of_find? (h : find? key members = some v) : (key, v) ∈ members := by
  obtain ⟨m, hm, rfl⟩ := Option.map_eq_some_iff.mp h
  have hkey : m.1 = key := by simpa using List.find?_some hm
  rw [← hkey]
  exact List.mem_of_find?_eq_some hm

theorem find?_eq_some_iff (hkeys : (members.map Prod.fst).Nodup) :
    find? key members = some v ↔ (key, v) ∈ members := by
  constructor
  · exact mem_of_find?
  · intro hmem
    induction members with
    | nil => cases hmem
    | cons m rest ih =>
      rw [List.map_cons, List.nodup_cons] at hkeys
      rcases List.mem_cons.mp hmem with rfl | hrest
      · simp [find?]
      · have hne : m.1 ≠ key := by
          rintro rfl
          exact hkeys.1 (List.mem_map.mpr ⟨_, hrest, rfl⟩)
        have hlater := ih hkeys.2 hrest
        rw [find?, List.find?_cons_of_neg (by simpa using hne)]
        exact hlater

private theorem find?_perm (horder : members.Perm others) (hkeys : (members.map Prod.fst).Nodup)
    (key : String) : find? key members = find? key others := by
  have hkeys' : (others.map Prod.fst).Nodup := (horder.map Prod.fst).nodup hkeys
  apply Option.ext
  intro v
  rw [find?_eq_some_iff hkeys, find?_eq_some_iff hkeys', horder.mem_iff]

private theorem find?_rel (hkeys : members.map Prod.fst = others.map Prod.fst)
    (hvalues : List.Forall₂ R (members.map Prod.snd) (others.map Prod.snd)) (key : String) :
    Option.Rel R (find? key members) (find? key others) := by
  induction members generalizing others with
  | nil =>
    cases others with
    | nil => exact .none
    | cons n rest => cases hkeys
  | cons m rest ih =>
    cases others with
    | nil => cases hkeys
    | cons n rest' =>
      obtain ⟨hkey, hkeys⟩ := List.cons.inj hkeys
      obtain ⟨hvalue, hvalues⟩ := List.forall₂_cons.mp hvalues
      have hlater := ih hkeys hvalues
      rw [find?, find?, List.find?_cons, List.find?_cons, hkey]
      cases n.1 == key with
      | true => exact .some hvalue
      | false => exact hlater

theorem Rearranged.exists_obj (h : Rearranged (.obj members) w) : ∃ others, w = .obj others := by
  cases h <;> exact ⟨_, rfl⟩

theorem Rearranged.lookup (h : Rearranged (.obj members) (.obj others))
    (hkeys : (members.map Prod.fst).Nodup) (key : String) :
    Option.Rel Rearranged (find? key members) (find? key others) := by
  cases h with
  | same =>
    cases find? key members with
    | none => exact .none
    | some x => exact .some (.same x)
  | obj horder hsame hvalues =>
    rw [find?_perm horder hkeys]
    exact find?_rel hsame hvalues key

def IsScalar : Json → Prop
  | .arr _ => False
  | .obj _ => False
  | _ => True

/-- The value is no object and holds none: it is a scalar, or a list of scalars. -/
def IsFlat : Json → Prop
  | .arr items => ∀ v ∈ items, v.IsScalar
  | .obj _ => False
  | _ => True

private theorem Rearranged.eq_of_isScalar (h : Rearranged v w) (hv : v.IsScalar) : v = w := by
  cases h with
  | same => rfl
  | arr => cases hv
  | obj => cases hv

private theorem eq_of_scalars {items others : List Json} (h : List.Forall₂ Rearranged items others)
    (hscalars : ∀ v ∈ items, v.IsScalar) : items = others := by
  induction h with
  | nil => rfl
  | cons hitem _ ih =>
    obtain ⟨hfirst, hrest⟩ := List.forall_mem_cons.mp hscalars
    rw [hitem.eq_of_isScalar hfirst, ih hrest]

theorem Rearranged.eq_of_isFlat (h : Rearranged v w) (hv : v.IsFlat) : v = w := by
  cases h with
  | same => rfl
  | arr h => rw [eq_of_scalars h hv]
  | obj => cases hv

theorem perm_of_rearranged (h : Rearranged (.obj members) (.obj others))
    (hscalars : ∀ m ∈ members, m.2.IsScalar) : members.Perm others := by
  cases h with
  | same => exact .refl _
  | @obj _ middle _ horder hkeys hvalues =>
    have hmiddle : ∀ v ∈ middle.map Prod.snd, v.IsScalar := by
      rw [List.forall_mem_map]
      intro m hm
      exact hscalars m (horder.mem_iff.mpr hm)
    have hsame : middle = others := by
      rw [← List.zip_unzip middle, ← List.zip_unzip others]
      simp only [List.unzip_fst, List.unzip_snd, hkeys, eq_of_scalars hvalues hmiddle]
    rw [← hsame]
    exact horder

/-- An object without repeated keys whose members have the types that `T` tells. -/
inductive Keyed (T : String → Json → Prop) : Json → Prop
  | obj {members : List (String × Json)} (hkeys : (members.map Prod.fst).Nodup)
      (htypes : ∀ m ∈ members, T m.1 m.2) : Keyed T (.obj members)

def Table (T : String → Json → Prop) (v : Json) : Prop := v = .null ∨ Keyed T v

def Tables (T : String → Json → Prop) (v : Json) : Prop :=
  v = .null ∨ ∃ items, v = .arr items ∧ ∀ item ∈ items, Keyed T item

theorem Keyed.lookup (hv : Keyed T v) (h : Rearranged v w) :
    ∃ members others, v = .obj members ∧ w = .obj others ∧ ∀ key,
      Option.Rel (fun x y => T key x ∧ Rearranged x y) (find? key members) (find? key others) := by
  cases hv with
  | @obj members hkeys htypes =>
    obtain ⟨others, rfl⟩ := h.exists_obj
    refine ⟨members, others, rfl, rfl, fun key => ?_⟩
    have hfound := h.lookup hkeys key
    generalize hx : find? key members = found at hfound ⊢
    generalize find? key others = found' at hfound ⊢
    cases hfound with
    | none => exact .none
    | some hxy => exact .some ⟨htypes _ (mem_of_find? hx), hxy⟩

/-- Rearranged records are read alike where rearranged members are. -/
theorem Rearranged.recordsAlike (h : Rearranged v w) (hv : Keyed T v)
    (hnull : ∀ key, P key .null .null)
    (hmember : ∀ key x y, v.member key = .ok x → w.member key = .ok y → T key x →
      Rearranged x y → P key x y) : RecordsAlike P v w := by
  obtain ⟨members, others, rfl, rfl, hfind⟩ := hv.lookup h
  apply RecordsAlike.obj
  intro key
  have hfound := hfind key
  have hv : (Json.obj members).member key = .ok ((find? key members).getD .null) := rfl
  have hw : (Json.obj others).member key = .ok ((find? key others).getD .null) := rfl
  generalize find? key members = found at hfound hv
  generalize find? key others = found' at hfound hw
  cases hfound with
  | none => exact hnull key
  | some hxy => exact hmember key _ _ hv hw hxy.1 hxy.2

def FlatAmong (keys : List String) (key : String) (x : Json) : Prop := key ∈ keys → x.IsFlat

theorem Rearranged.lookup_eq {keys : List String} (h : Rearranged v w)
    (hv : Keyed (FlatAmong keys) v) : ∃ members others, v = .obj members ∧ w = .obj others ∧
      ∀ key ∈ keys, find? key members = find? key others := by
  obtain ⟨members, others, rfl, rfl, hfind⟩ := hv.lookup h
  refine ⟨members, others, rfl, rfl, fun key hkey => ?_⟩
  have hfound := hfind key
  generalize find? key members = found at hfound ⊢
  generalize find? key others = found' at hfound ⊢
  cases hfound with
  | none => rfl
  | some hxy => rw [hxy.2.eq_of_isFlat (hxy.1 hkey)]

end ContainerBundle.Json
