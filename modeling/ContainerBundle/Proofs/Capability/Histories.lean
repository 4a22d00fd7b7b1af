import ContainerBundle.Proofs.Capability.Spelling
/-!
# Capability sets over whole runs

What a set holds is told by the changes made to it: names added, names removed, everything
cleared. A key is in the set exactly when the last change that concerns it adds it, and the names
stand in the order in which their keys last came in. A visit sees the names that are there when it
starts, whatever is removed on the way.
-/
namespace ContainerBundle.CapabilitySet

open Capability

variable {s : CapabilitySet} {name k : String} {i : Nat}

inductive Change
  | added (name : String)
  | removed (name : String)
  | cleared

namespace Change

def make (s : CapabilitySet) : Change → CapabilitySet
  | added name => s.add name
  | removed name => s.remove name
  | cleared => .empty

/-- The change decides whether the key is in the set. -/
def Concerns (k : String) : Change → Prop
  | added name => Spells name k
  | removed name => Spells name k
  | cleared => True

instance (k : String) : DecidablePred (Concerns k)
  | added name => inferInstanceAs (Decidable (Spells name k))
  | removed name => inferInstanceAs (Decidable (Spells name k))
  | cleared => isTrue trivial

private theorem keys_make (s : CapabilitySet) (change : Change) :
    (change.make s).keys.Sublist s.keys ∨
    ∃ name, change = .added name ∧ ¬ isBlank name ∧ key name ∉ s.keys ∧
      (change.make s).keys = s.keys ++ [key name] := by
  cases change with
  | added name =>
    by_cases hblank : isBlank name
    · left
      rw [make, add_of_blank hblank]
    · by_cases hpresent : key name ∈ s.keys
      · left
        rw [make, add_of_present hpresent]
      · right
        exact ⟨name, rfl, hblank, hpresent, keys_add hblank hpresent⟩
  | removed name =>
    left
    rw [make, keys_remove]
    exact List.filter_sublist
  | cleared => exact .inl (List.nil_sublist _)

private theorem make_orderly (h : s.Orderly) (change : Change) : (change.make s).Orderly := by
  cases change with
  | added name => exact h.add name
  | removed name => exact h.remove name
  | cleared => exact Orderly.empty

end Change

variable {history : List Change} {change : Change}

/-- The last change that concerns the key adds it. -/
def Standing (history : List Change) (k : String) : Prop :=
  ∃ name, (history.filter (Change.Concerns k)).getLast? = some (.added name)

private theorem standing_append_of_concerns (h : change.Concerns k) :
    Standing (history ++ [change]) k ↔ ∃ name, change = .added name := by
  have hlast : [change].filter (Change.Concerns k) = [change] := by simp [h]
  rw [Standing, List.filter_append, hlast, List.getLast?_concat]
  simp

private theorem standing_append_of_not_concerns (h : ¬ change.Concerns k) :
    Standing (history ++ [change]) k ↔ Standing history k := by
  have hlast : [change].filter (Change.Concerns k) = [] := by simp [h]
  rw [Standing, List.filter_append, hlast, List.append_nil, Standing]

/-- The change at place `i` adds a name of the key, and the key is not in the set before. -/
structure Enters (history : List Change) (k : String) (i : Nat) : Prop where
  adds : ∃ name, history[i]? = some (.added name) ∧ Spells name k
  absent : ¬ Standing (history.take i) k

structure LastEnters (history : List Change) (k : String) (i : Nat) : Prop where
  enters : Enters history k i
  last : ∀ j, Enters history k j → j ≤ i

theorem Enters.lt (h : Enters history k i) : i < history.length := by
  obtain ⟨name, hadded, -⟩ := h.adds
  exact (List.getElem?_eq_some_iff.mp hadded).1

theorem enters_append_iff (h : Standing history k) :
    Enters (history ++ [change]) k i ↔ Enters history k i := by
  constructor
  · intro henters
    have hlt : i < history.length := by
      have hle : i < history.length + 1 := by simpa using henters.lt
      have hne : i ≠ history.length := by
        intro heq
        apply henters.absent
        rw [heq, List.take_left]
        exact h
      omega
    have hadds := henters.adds
    have habsent := henters.absent
    rw [List.getElem?_append_left hlt] at hadds
    rw [List.take_append_of_le_length (Nat.le_of_lt hlt)] at habsent
    exact ⟨hadds, habsent⟩
  · intro henters
    constructor
    · rw [List.getElem?_append_left henters.lt]
      exact henters.adds
    · rw [List.take_append_of_le_length (Nat.le_of_lt henters.lt)]
      exact henters.absent

theorem lastEnters_append_iff (h : Standing history k) :
    LastEnters (history ++ [change]) k i ↔ LastEnters history k i := by
  constructor
  · intro hlast
    exact ⟨(enters_append_iff h).mp hlast.enters,
      fun j hj => hlast.last j ((enters_append_iff h).mpr hj)⟩
  · intro hlast
    exact ⟨(enters_append_iff h).mpr hlast.enters,
      fun j hj => hlast.last j ((enters_append_iff h).mp hj)⟩

private theorem lastEnters_of_absent (hspells : Spells name k) (habsent : ¬ Standing history k) :
    LastEnters (history ++ [.added name]) k history.length where
  enters := by
    constructor
    · exact ⟨name, List.getElem?_concat_length, hspells⟩
    · rw [List.take_left]
      exact habsent
  last := by
    intro j hj
    have hlt := hj.lt
    rw [List.length_append, List.length_singleton] at hlt
    omega

/-- The history tells which keys are in a set and in which order they stand. -/
structure Tells (history : List Change) (s : CapabilitySet) : Prop where
  standing : ∀ k, k ∈ s.keys ↔ Standing history k
  entered : ∀ k ∈ s.keys, ∃ i, LastEnters history k i
  ordered : s.keys.Pairwise fun k l =>
    ∀ i j, LastEnters history k i → LastEnters history l j → i < j

namespace Tells

theorem empty : Tells [] .empty where
  standing := by simp [Standing, keys, CapabilitySet.empty]
  entered := by simp [keys, CapabilitySet.empty]
  ordered := .nil

/-- The next change does not alter when the keys that are in the set came in. -/
private theorem entered_append (h : Tells history s) (change : Change) :
    ∀ k ∈ s.keys, ∃ i, LastEnters (history ++ [change]) k i := by
  intro k hk
  obtain ⟨i, hi⟩ := h.entered k hk
  exact ⟨i, (lastEnters_append_iff ((h.standing k).mp hk)).mpr hi⟩

private theorem ordered_append (h : Tells history s) (change : Change) :
    s.keys.Pairwise fun k l => ∀ i j,
      LastEnters (history ++ [change]) k i → LastEnters (history ++ [change]) l j → i < j := by
  apply h.ordered.imp_of_mem
  intro k l hk hl hlt i j hi hj
  have hi' := (lastEnters_append_iff ((h.standing k).mp hk)).mp hi
  have hj' := (lastEnters_append_iff ((h.standing l).mp hl)).mp hj
  exact hlt i j hi' hj'

private theorem standing_make (h : Tells history s) (change : Change) (k : String) :
    k ∈ (change.make s).keys ↔ Standing (history ++ [change]) k := by
  by_cases hconcerns : change.Concerns k
  · rw [standing_append_of_concerns hconcerns]
    cases change with
    | added name => simp [Change.make, mem_keys_add, show Spells name k from hconcerns]
    | removed name => simp [Change.make, mem_keys_remove, show Spells name k from hconcerns]
    | cleared => simp [Change.make, keys, CapabilitySet.empty]
  · rw [standing_append_of_not_concerns hconcerns, ← h.standing]
    cases change with
    | added name => simp [Change.make, mem_keys_add, show ¬ Spells name k from hconcerns]
    | removed name => simp [Change.make, mem_keys_remove, show ¬ Spells name k from hconcerns]
    | cleared => exact absurd trivial hconcerns

private theorem ordered_concat (h : Tells history s) (hblank : ¬ isBlank name)
    (habsent : key name ∉ s.keys) :
    (s.keys ++ [key name]).Pairwise fun k l => ∀ i j,
      LastEnters (history ++ [.added name]) k i → LastEnters (history ++ [.added name]) l j →
        i < j := by
  have hout : ¬ Standing history (key name) := fun hin => habsent ((h.standing _).mpr hin)
  have hnewest := lastEnters_of_absent ⟨hblank, rfl⟩ hout
  have hbehind : ∀ k ∈ s.keys, ∀ l ∈ [key name], ∀ i j,
      LastEnters (history ++ [.added name]) k i → LastEnters (history ++ [.added name]) l j →
        i < j := by
    intro k hk l hl i j hi hj
    rw [List.mem_singleton.mp hl] at hj
    have hold := (lastEnters_append_iff ((h.standing k).mp hk)).mp hi
    have hlate : history.length ≤ j := hj.last _ hnewest.enters
    exact Nat.lt_of_lt_of_le hold.enters.lt hlate
  have hordered := h.ordered_append (.added name)
  exact List.pairwise_append.mpr ⟨hordered, List.pairwise_singleton _ _, hbehind⟩

/-- The history keeps telling when one more change is made. -/
theorem make (h : Tells history s) (change : Change) :
    Tells (history ++ [change]) (change.make s) := by
  have hstanding := h.standing_make change
  have hentered := h.entered_append change
  -- A change only takes keys away, or puts one that was absent behind the others.
  rcases change.keys_make s with hkept | ⟨name, rfl, hblank, habsent, hkeys⟩
  · have hordered := (h.ordered_append change).sublist hkept
    exact ⟨hstanding, fun k hk => hentered k (hkept.subset hk), hordered⟩
  · constructor
    · exact hstanding
    · rw [hkeys]
      intro k hk
      rcases List.mem_append.mp hk with hold | hnew
      · exact hentered k hold
      · rw [List.mem_singleton.mp hnew]
        have hout : ¬ Standing history (key name) := fun hin => habsent ((h.standing _).mpr hin)
        exact ⟨_, lastEnters_of_absent ⟨hblank, rfl⟩ hout⟩
    · rw [hkeys]
      exact h.ordered_concat hblank habsent

private theorem makeAll (h : Tells history s) (changes : List Change) :
    Tells (history ++ changes) (changes.foldl Change.make s) := by
  induction changes generalizing history s with
  | nil =>
    rw [List.append_nil]
    exact h
  | cons change rest ih =>
    have hrest := ih (h.make change)
    rw [List.append_assoc, List.singleton_append] at hrest
    exact hrest

end Tells

/-- A visit sees the names of the set, and every turn changes what the turns before have left. -/
theorem visit_eq (step : String → CapabilitySet → CapabilitySet) (s : CapabilitySet) :
    s.visit step = (s.names, s.names.foldl (fun t name => step name t) s) := by
  have hturns (names seen : List String) (t : CapabilitySet) :
      names.foldl (fun state name => (state.1 ++ [name], step name state.2)) (seen, t) =
        (seen ++ names, names.foldl (fun t name => step name t) t) := by
    induction names generalizing seen t with
    | nil => rw [List.append_nil]; rfl
    | cons name rest ih =>
      rw [List.foldl_cons, ih, List.append_assoc]
      rfl
  exact hturns s.names [] s

/-- A visit removes at the turn of each name the names that `removed` gives for it. -/
inductive Call
  | add (name : String)
  | remove (name : String)
  | clear
  | contains (name : String)
  | names
  | visit (removed : String → List String)

namespace Call

def after (s : CapabilitySet) : Call → CapabilitySet
  | add name => s.add name
  | remove name => s.remove name
  | clear => .empty
  | contains _ => s
  | names => s
  | visit removed => (s.visit (fun name t => t.removeAll (removed name))).2

def changes (s : CapabilitySet) : Call → List Change
  | add name => [.added name]
  | remove name => [.removed name]
  | clear => [.cleared]
  | contains _ => []
  | names => []
  | visit removed => (s.names.flatMap removed).map .removed

private theorem foldl_changes (s : CapabilitySet) (call : Call) :
    (call.changes s).foldl Change.make s = call.after s := by
  cases call with
  | add name => rfl
  | remove name => rfl
  | clear => rfl
  | contains name => rfl
  | names => rfl
  | visit removed =>
    rw [changes, after, visit_eq, List.foldl_map, List.foldl_flatMap]
    rfl

end Call

def run (s : CapabilitySet) : List Call → CapabilitySet
  | [] => s
  | call :: rest => run (call.after s) rest

def changes (s : CapabilitySet) : List Call → List Change
  | [] => []
  | call :: rest => call.changes s ++ changes (call.after s) rest

private theorem foldl_changes (s : CapabilitySet) (calls : List Call) :
    (changes s calls).foldl Change.make s = run s calls := by
  induction calls generalizing s with
  | nil => rfl
  | cons call rest ih => rw [changes, List.foldl_append, call.foldl_changes, ih, run]

private theorem foldl_make_orderly (h : s.Orderly) (changes : List Change) :
    (changes.foldl Change.make s).Orderly := by
  induction changes generalizing s with
  | nil => exact h
  | cons change rest ih => exact ih (change.make_orderly h)

/-- Every set that a run reaches is told by the history of the run: the last change that concerns a
key decides, the names stand in the order in which their keys last came in, and a visit sees each of
them once, whatever its turns do. -/
theorem run_told_by_history (initial : List String) (calls : List Call) :
    let s := run (ofList initial) calls
    let history := initial.map .added ++ changes (ofList initial) calls
    s.Orderly ∧
      (∀ name, s.contains name ↔ ¬ isBlank name ∧ Standing history (key name)) ∧
      (∀ k ∈ s.keys, ∃ i, LastEnters history k i) ∧
      (s.keys.Pairwise fun k l =>
        ∀ i j, LastEnters history k i → LastEnters history l j → i < j) ∧
      (∀ step, (s.visit step).1 = s.names) ∧ s.names.Nodup := by
  intro s history
  have hstart : ofList initial = (initial.map Change.added).foldl Change.make .empty := by
    rw [List.foldl_map]
    rfl
  have hs : s = history.foldl Change.make .empty := by
    rw [List.foldl_append, ← hstart, foldl_changes]
  have horderly : s.Orderly := by
    rw [hs]
    exact foldl_make_orderly .empty history
  have htells : Tells history s := by
    rw [hs]
    exact Tells.empty.makeAll history
  have hcontains : ∀ name, s.contains name ↔ ¬ isBlank name ∧ Standing history (key name) := by
    intro name
    rw [contains_iff, htells.standing]
  have hvisited : ∀ step, (s.visit step).1 = s.names := by
    intro step
    rw [visit_eq]
  exact ⟨horderly, hcontains, htells.entered, htells.ordered, hvisited, horderly.names_nodup⟩

theorem run_told_by_history_of_visit :
    let calls := [.visit fun name => if name = "CAP_KILL" then ["Chown ", name] else [],
      .add "\tcap_kill"]
    let s := run (ofList ["kill", "CHOWN", "other"]) calls
    let history := ["kill", "CHOWN", "other"].map Change.added ++
      changes (ofList ["kill", "CHOWN", "other"]) calls
    s.names = ["other", "CAP_KILL"] ∧ s.keys = ["CAP_OTHER", "CAP_KILL"] ∧
      Standing history "CAP_KILL" ∧ ¬ Standing history "CAP_CHOWN" := by
  intro calls s history
  obtain ⟨-, hcontains, -⟩ := run_told_by_history ["kill", "CHOWN", "other"] calls
  have hkill : key "Kill" = "CAP_KILL" := by decide +kernel
  have hchown : key " chown" = "CAP_CHOWN" := by decide +kernel
  refine ⟨by decide +kernel, by decide +kernel, ?_, ?_⟩
  · rw [← hkill]
    exact ((hcontains "Kill").mp (by decide +kernel)).2
  · intro hstanding
    rw [← hchown] at hstanding
    have hin : s.contains " chown" := (hcontains " chown").mpr ⟨by decide +kernel, hstanding⟩
    exact absurd hin (by decide +kernel)

end ContainerBundle.CapabilitySet
