import ContainerBundle.Bundle
import ContainerBundle.Proofs.Capability.Granted
/-!
# Grants with and without privilege

A container with privilege starts from every capability that the kernel knows, so with the same
lists it is granted whatever it is granted of them without. Its template is not read.
-/
namespace ContainerBundle

namespace CapabilitySet

open Capability

variable {s : CapabilitySet} {names : List String} {name k : String}

private theorem mem_keys_addAll :
    k ∈ (s.addAll names).keys ↔ k ∈ s.keys ∨ ∃ name ∈ names, Spells name k := by
  induction names generalizing s with
  | nil => simp [addAll]
  | cons name rest ih =>
    rw [show s.addAll (name :: rest) = (s.add name).addAll rest from rfl, ih, mem_keys_add,
      or_assoc, List.exists_mem_cons_iff]

private theorem mem_names_ofList_of_known (hknown : name ∈ known) (h : name ∈ names) :
    name ∈ (ofList names).names := by
  have hspells : Spells name name := ⟨not_isBlank_of_known hknown, key_of_known hknown⟩
  have hkey : name ∈ (ofList names).keys := mem_keys_addAll.mpr (.inr ⟨name, h, hspells⟩)
  obtain ⟨stored, hstored, rfl⟩ := List.mem_map.mp hkey
  have hname : stored = key stored := (ofList_orderly names).spelled stored hstored hknown
  rw [← hname]
  exact hstored

end CapabilitySet

namespace Capability

open CapabilitySet

variable {template : Json} {add drop : List Json} {granted : List String}

/-- Whatever a container is granted of the known capabilities, it is granted with privilege. -/
private theorem mem_grant_privileged {template add drop : List String} {name : String}
    (hknown : key name ∈ known) (h : name ∈ grant template add drop false) :
    name ∈ grant [] add drop true := by
  rw [grant_eq_names, names_removeAll_dropped, List.mem_filter] at h ⊢
  obtain ⟨hstored, hkept⟩ := h
  have hname : name = key name := (ofList_orderly _).spelled name hstored hknown
  rw [← hname] at hknown
  exact ⟨mem_names_ofList_of_known hknown (List.mem_append_left _ hknown), hkept⟩

private theorem grantFrom_eq (template : Json) (add drop : List Json) (privileged : Bool) :
    grantFrom template add drop privileged = (do
      let cleared ← (if privileged then .ok false else clears drop)
      let names ← (if privileged || cleared then .ok [] else templateNames template)
      let added ← add.mapM (Json.text .trimming)
      let dropped ← drop.mapM (Json.text .trimming)
      .ok (grant names added dropped privileged)) := by
  rw [grantFrom]
  cases privileged with
  | true => rfl
  | false =>
    cases clears drop with
    | error fault => rfl
    | ok cleared => cases cleared <;> rfl

theorem grantFrom_privileged (h : grantFrom template add drop false = .ok granted) :
    ∃ all, grantFrom template add drop true = .ok all ∧
      ∀ name, key name ∈ known → name ∈ granted → name ∈ all := by
  rw [grantFrom_eq] at h
  obtain ⟨cleared, -, h⟩ := bind_eq_ok.mp h
  obtain ⟨names, -, h⟩ := bind_eq_ok.mp h
  obtain ⟨added, hadded, h⟩ := bind_eq_ok.mp h
  obtain ⟨dropped, hdropped, h⟩ := bind_eq_ok.mp h
  cases h
  refine ⟨grant [] added dropped true, ?_, fun name hknown => mem_grant_privileged hknown⟩
  rw [grantFrom_eq, hadded, hdropped]
  rfl

end Capability

end ContainerBundle
