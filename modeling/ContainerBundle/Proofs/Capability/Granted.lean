import ContainerBundle.Proofs.Capability.Spelling
/-!
# What a container is granted

The grant is computed by adding to a set and removing from it. It is the list that its rules
describe: the names on offer without the blank ones, the first of each key, without those that are
dropped, each in its final spelling.
-/
namespace ContainerBundle

namespace Capability

def sameKey (m n : String) : Bool := key m == key n

/-- The drop list names the capability with this key. The keyword names none. -/
def Drops (drop : List String) (k : String) : Prop := ∃ name ∈ drop, ¬ isAll name ∧ Spells name k

instance (drop : List String) (k : String) : Decidable (Drops drop k) :=
  inferInstanceAs (Decidable (∃ name ∈ drop, _))

/-- What a container starts from, and the added names behind it. -/
def offered (template add drop : List String) (privileged : Bool) : List String :=
  (if privileged then known else if drop.any isAll then [] else template) ++
    add.flatMap (fun name => if isAll name then known else [name])

def ruled (template add drop : List String) (privileged : Bool) : List String :=
  let named := (offered template add drop privileged).filter (fun name => ¬ isBlank name)
  let first := named.eraseDupsBy sameKey
  (first.filter (fun name => ¬ Drops drop (key name))).map
    (fun name => if key name ∈ known then key name else name)

end Capability

namespace CapabilitySet

open Capability

variable {s : CapabilitySet}

/-- Names are added in order: of those that a set does not have, the first of each key. -/
private theorem names_addAll (s : CapabilitySet) (names : List String) : (s.addAll names).names =
    s.names ++ ((names.filter (fun n => ¬ isBlank n ∧ key n ∉ s.keys)).eraseDupsBy
      sameKey).map normalize := by
  induction names generalizing s with
  | nil => exact (List.append_nil _).symm
  | cons name rest ih =>
    rw [show s.addAll (name :: rest) = (s.add name).addAll rest from rfl, ih]
    by_cases hblank : isBlank name
    · rw [add_of_blank hblank, List.filter_cons_of_neg (by simp [hblank])]
    · by_cases hpresent : key name ∈ s.keys
      · rw [add_of_present hpresent, List.filter_cons_of_neg (by simp [hpresent])]
      · have hlater : rest.filter (fun n => ¬ isBlank n ∧ key n ∉ (s.add name).keys) =
            (rest.filter (fun n => ¬ isBlank n ∧ key n ∉ s.keys)).filter
              (fun n => sameKey n name = false) := by
          rw [List.filter_filter, keys_add hblank hpresent]
          apply List.filter_congr
          intro n _
          rw [← Bool.decide_and, decide_eq_decide, sameKey, beq_eq_false_iff_ne, List.mem_append,
            List.mem_singleton, not_or]
          exact and_assoc.symm.trans and_comm
        rw [hlater, names_add hblank hpresent,
          List.filter_cons_of_pos (by simp [hblank, hpresent]), List.eraseDupsBy_cons,
          List.map_cons, List.append_assoc, List.singleton_append]

private theorem names_ofList (names : List String) : (ofList names).names =
    ((names.filter (fun n => ¬ isBlank n)).eraseDupsBy sameKey).map normalize := by
  rw [ofList, names_addAll]
  simp [empty, keys]

private theorem names_removeAll (s : CapabilitySet) (names : List String) :
    (s.removeAll names).names =
    s.names.filter (fun n => ¬ ∃ name ∈ names, Spells name (key n)) := by
  induction names generalizing s with
  | nil => simp [removeAll]
  | cons name rest ih =>
    rw [show s.removeAll (name :: rest) = (s.remove name).removeAll rest from rfl, ih,
      names_remove, List.filter_filter]
    apply List.filter_congr
    intro n _
    rw [← Bool.decide_and, decide_eq_decide, List.exists_mem_cons_iff, not_or, and_comm]

theorem ofList_orderly (names : List String) : (ofList names).Orderly :=
  Orderly.empty.addAll names

end CapabilitySet

namespace Capability

open CapabilitySet

variable (template add drop : List String) (privileged : Bool)

theorem grant_eq_names : grant template add drop privileged =
    ((ofList (offered template add drop privileged)).removeAll
      (drop.filter (fun name => !isAll name))).names := by
  have hadded : (ofList (offered template add drop privileged)) =
      (ofList (baseline template drop privileged)).addAll (add.flatMap expand) :=
    List.foldl_append
  rw [grant, hadded]

theorem names_removeAll_dropped (s : CapabilitySet) :
    (s.removeAll (drop.filter (fun name => !isAll name))).names =
      s.names.filter (fun name => ¬ Drops drop (key name)) := by
  rw [names_removeAll]
  apply List.filter_congr
  intro n _
  simp [Drops, and_assoc]

/-- A grant is the list that its rules describe. So it has one name for each key, and none that the
drop list names. -/
theorem granted_by_rules :
    grant template add drop privileged = ruled template add drop privileged ∧
      ((grant template add drop privileged).map key).Nodup ∧
      ∀ name ∈ grant template add drop privileged, ¬ Drops drop (key name) := by
  let granted := grant template add drop privileged
  let start := ofList (offered template add drop privileged)
  have hgranted : granted = start.names.filter (fun name => ¬ Drops drop (key name)) := by
    rw [← names_removeAll_dropped]
    exact grant_eq_names template add drop privileged
  have hruled : granted = ruled template add drop privileged := by
    rw [hgranted, names_ofList, List.filter_map, ruled, ← normalize_eq]
    simp only [Function.comp_def, key_normalize]
  have hdistinct : (granted.map key).Nodup := by
    have horderly : start.Orderly := ofList_orderly _
    rw [hgranted]
    exact horderly.distinct.sublist (List.filter_sublist.map key)
  have hdropped : ∀ name ∈ granted, ¬ Drops drop (key name) := by
    intro name hname
    rw [hgranted] at hname
    exact of_decide_eq_true (List.mem_filter.mp hname).2
  exact ⟨hruled, hdistinct, hdropped⟩

theorem granted_by_rules_of_spellings :
    let granted := grant ["CAP_KILL", "weird-cap", "kill"] [" net_admin\t", "", "NET_ADMIN"]
      ["\u2003cap_Kill\n"] false
    granted = ["weird-cap", "CAP_NET_ADMIN"] ∧
      granted.map key = ["CAP_WEIRD-CAP", "CAP_NET_ADMIN"] ∧ key "\u2003cap_Kill\n" = "CAP_KILL" ∧
      ∀ name ∈ granted, ¬ Drops ["\u2003cap_Kill\n"] (key name) := by
  intro granted
  obtain ⟨hruled, -, hdropped⟩ := granted_by_rules ["CAP_KILL", "weird-cap", "kill"]
    [" net_admin\t", "", "NET_ADMIN"] ["\u2003cap_Kill\n"] false
  have hgranted : granted = ["weird-cap", "CAP_NET_ADMIN"] := hruled.trans (by decide +kernel)
  refine ⟨hgranted, ?_, by decide +kernel, hdropped⟩
  rw [hgranted]
  decide +kernel

end Capability

end ContainerBundle
