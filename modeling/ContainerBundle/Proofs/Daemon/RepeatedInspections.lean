import Mathlib
import ContainerBundle.Proofs.Daemon.PeerSteps
/-!
# Containers that are inspected again

The client skips a joined container once it has been told its process. A container without a
process is not skipped: it is inspected for every mode that joins it, as long as the row of modes
goes on. Any other container is inspected once at most.
-/
namespace ContainerBundle

open DaemonStep

def joining (ref : String) : Json := .str (Conversion.peerMark ++ ref)

namespace Daemon

variable {host binary : String} {run : List String → CommandOutcome} {limits : Json.Limits}
variable {d : Daemon} {ref mode : String}

/-- The daemon answers about the container, and tells no process. -/
def Idle (d : Daemon) (ref : String) : Prop :=
  ∃ pid, (d.processAsked ref).outcome = .ok pid ∧ pid.isVoid

/-- The client gets past a mode: a text that joins no container, or one whose process is read. -/
def Passes (d : Daemon) (mode : Json) : Prop :=
  ∃ text, mode = .str text ∧ ∀ ref, Conversion.peerOf? text = some ref →
    ∃ pid, (d.processAsked ref).outcome = .ok pid

/-- The client comes to a mode that joins the container `n` times. -/
def ComesTo (d : Daemon) (ref : String) : (n : Nat) → List Json → Prop
  | 0, _ => True
  | n + 1, modes => ∃ front back, modes = front ++ joining ref :: back ∧
      (∀ mode ∈ front, d.Passes mode) ∧ d.ComesTo ref n back

def inspections (host binary ref : String) (plan : List DaemonStep) : Nat :=
  (issued plan).count (inspection host binary ref)

variable {yielded : List String} {modes rest : List Json} {other : String} {n : Nat}

private theorem inspection_inj :
    inspection host binary ref = inspection host binary other ↔ ref = other := by
  simp [inspection]

private theorem inspections_of_own (h : Conversion.peerOf? mode = none) :
    inspections host binary ref (peerSteps host binary run limits yielded (.str mode :: rest)) =
      inspections host binary ref (peerSteps host binary run limits yielded rest) := by
  rw [peerSteps, h]

private theorem inspections_of_skipped (h : Conversion.peerOf? mode = some other)
    (hin : other ∈ yielded) :
    inspections host binary ref (peerSteps host binary run limits yielded (.str mode :: rest)) =
      inspections host binary ref (peerSteps host binary run limits yielded rest) := by
  simp only [peerSteps, h, if_pos hin]

theorem inspections_of_joined (h : Conversion.peerOf? mode = some other) (hfree : other ∉ yielded) :
    let d := named host binary run limits
    inspections host binary ref (peerSteps host binary run limits yielded (.str mode :: rest)) =
      (if other = ref then 1 else 0) + if (d.processAsked other).outcome.isOk then
        inspections host binary ref (peerSteps host binary run limits
          (if d.yields other then yielded ++ [other] else yielded) rest) else 0 := by
  intro d
  simp only [peerSteps, h, if_neg hfree, inspections, issued, List.count_append, Option.toList_some,
    List.count_singleton, beq_iff_eq, inspection_inj]
  congr 1
  split <;> rfl

private theorem inspections_of_yielded (h : ref ∈ yielded) :
    inspections host binary ref (peerSteps host binary run limits yielded modes) = 0 := by
  induction modes generalizing yielded with
  | nil => rfl
  | cons mode rest ih =>
    cases mode with
    | str mode =>
      cases hpeer : Conversion.peerOf? mode with
      | none =>
        rw [inspections_of_own hpeer]
        exact ih h
      | some other =>
        by_cases hother : other ∈ yielded
        · rw [inspections_of_skipped hpeer hother]
          exact ih h
        · have hne : other ≠ ref := fun hsame => hother (hsame ▸ h)
          have hlater : ref ∈ (if (named host binary run limits).yields other then yielded ++ [other]
              else yielded) := by
            split
            · exact List.mem_append_left _ h
            · exact h
          rw [inspections_of_joined hpeer hother, if_neg hne, ih hlater, ite_self]
    | _ => rfl

private theorem inspections_le_one (h : ¬ (named host binary run limits).Idle ref) :
    inspections host binary ref (peerSteps host binary run limits yielded modes) ≤ 1 := by
  induction modes generalizing yielded with
  | nil => exact Nat.zero_le 1
  | cons mode rest ih =>
    cases mode with
    | str mode =>
      cases hpeer : Conversion.peerOf? mode with
      | none =>
        rw [inspections_of_own hpeer]
        exact ih
      | some other =>
        by_cases hin : other ∈ yielded
        · rw [inspections_of_skipped hpeer hin]
          exact ih
        · rw [inspections_of_joined hpeer hin]
          by_cases hsame : other = ref
          · subst hsame
            cases hpid : ((named host binary run limits).processAsked other).outcome with
            | error fault => simp [Except.isOk, Except.toBool]
            | ok pid =>
              have hset : pid.isVoid = false :=
                Bool.eq_false_iff.mpr fun hvoid => h ⟨pid, hpid, hvoid⟩
              have hyields : (named host binary run limits).yields other = true := by
                rw [yields_of_ok hpid, hset]
                rfl
              have hlater : other ∈ yielded ++ [other] :=
                List.mem_append_right _ (List.mem_singleton_self _)
              rw [hyields, if_pos rfl, if_pos rfl, inspections_of_yielded hlater, ite_self]
          · rw [if_neg hsame, Nat.zero_add]
            split
            · exact ih
            · exact Nat.zero_le 1
    | _ => exact Nat.zero_le 1

private theorem comesTo_cons {mode : Json} : d.ComesTo ref (n + 1) (mode :: rest) ↔
    mode = joining ref ∧ d.ComesTo ref n rest ∨ d.Passes mode ∧ d.ComesTo ref (n + 1) rest := by
  constructor
  · rintro ⟨front, back, hmodes, hfront, hback⟩
    cases front with
    | nil =>
      obtain ⟨rfl, rfl⟩ := List.cons.inj hmodes
      exact .inl ⟨rfl, hback⟩
    | cons first front =>
      obtain ⟨rfl, rfl⟩ := List.cons.inj hmodes
      obtain ⟨hfirst, hfront⟩ := List.forall_mem_cons.mp hfront
      exact .inr ⟨hfirst, front, back, rfl, hfront, hback⟩
  · rintro (⟨rfl, hback⟩ | ⟨hmode, front, back, rfl, hfront, hback⟩)
    · exact ⟨[], rest, rfl, by simp, hback⟩
    · exact ⟨mode :: front, back, rfl, List.forall_mem_cons.mpr ⟨hmode, hfront⟩, hback⟩

private theorem joining_eq_iff :
    Json.str mode = joining ref ↔ Conversion.peerOf? mode = some ref := by
  rw [joining, Json.str.injEq, Conversion.peerOf?_eq_some_iff]

/-- The client gets past a mode that joins a container exactly when its process is read. -/
theorem passes_iff (h : Conversion.peerOf? mode = some ref) :
    d.Passes (.str mode) ↔ ∃ pid, (d.processAsked ref).outcome = .ok pid := by
  constructor
  · rintro ⟨text, htext, hread⟩
    cases htext
    exact hread ref h
  · intro hread
    refine ⟨mode, rfl, fun other hother => ?_⟩
    rw [h] at hother
    cases hother
    exact hread

private theorem passes_of_yields (h : Conversion.peerOf? mode = some ref) (hyields : d.yields ref) :
    d.Passes (.str mode) := by
  rw [passes_iff h]
  cases hpid : (d.processAsked ref).outcome with
  | error fault =>
    rw [yields, hpid] at hyields
    cases hyields
  | ok pid => exact ⟨pid, rfl⟩

private theorem yields_later (other : String) (hyielded : ∀ ref ∈ yielded, d.yields ref) :
    ∀ ref ∈ (if d.yields other then yielded ++ [other] else yielded), d.yields ref := by
  intro ref href
  split at href
  · rcases List.mem_append.mp href with hold | hnew
    · exact hyielded ref hold
    · rw [List.mem_singleton.mp hnew]
      assumption
  · exact hyielded ref href

private theorem inspections_of_idle (h : (named host binary run limits).Idle ref)
    (hyielded : ∀ other ∈ yielded, (named host binary run limits).yields other) :
    inspections host binary ref (peerSteps host binary run limits yielded (joining ref :: rest)) =
      inspections host binary ref (peerSteps host binary run limits yielded rest) + 1 := by
  obtain ⟨pid, hpid, hvoid⟩ := h
  have hidle : (named host binary run limits).yields ref = false := by
    rw [yields_of_ok hpid, hvoid]
    rfl
  have hfree : ref ∉ yielded := by
    intro hin
    rw [hyielded ref hin] at hidle
    cases hidle
  rw [joining, inspections_of_joined (joining_eq_iff.mp rfl) hfree, hidle, hpid, if_pos rfl,
    Nat.add_comm]
  rfl

private theorem inspections_of_passing {mode : Json}
    (hpasses : (named host binary run limits).Passes mode)
    (hne : mode ≠ joining ref)
    (hyielded : ∀ other ∈ yielded, (named host binary run limits).yields other) :
    ∃ later, (∀ other ∈ later, (named host binary run limits).yields other) ∧
      inspections host binary ref (peerSteps host binary run limits yielded (mode :: rest)) =
        inspections host binary ref (peerSteps host binary run limits later rest) := by
  obtain ⟨mode, rfl, hread⟩ := hpasses
  rw [Ne, joining_eq_iff] at hne
  cases hpeer : Conversion.peerOf? mode with
  | none => exact ⟨yielded, hyielded, inspections_of_own hpeer⟩
  | some other =>
    by_cases hin : other ∈ yielded
    · exact ⟨yielded, hyielded, inspections_of_skipped hpeer hin⟩
    · have hother : other ≠ ref := fun hsame => hne (hsame ▸ hpeer)
      obtain ⟨pid, hpid⟩ := hread other hpeer
      refine ⟨_, yields_later other hyielded, ?_⟩
      rw [inspections_of_joined hpeer hin, if_neg hother, hpid, Nat.zero_add]
      rfl

private theorem inspections_of_stopping {mode : Json}
    (hstops : ¬ (named host binary run limits).Passes mode)
    (hne : mode ≠ joining ref)
    (hyielded : ∀ other ∈ yielded, (named host binary run limits).yields other) :
    inspections host binary ref (peerSteps host binary run limits yielded (mode :: rest)) = 0 := by
  cases mode with
  | str mode =>
    rw [Ne, joining_eq_iff] at hne
    cases hpeer : Conversion.peerOf? mode with
    | none => exact absurd ⟨mode, rfl, fun other hother => by simp [hpeer] at hother⟩ hstops
    | some other =>
      have hother : other ≠ ref := fun hsame => hne (hsame ▸ hpeer)
      have hin : other ∉ yielded := fun hin => hstops (passes_of_yields hpeer (hyielded other hin))
      rw [inspections_of_joined hpeer hin, if_neg hother]
      rw [passes_iff hpeer] at hstops
      cases hpid : ((named host binary run limits).processAsked other).outcome with
      | error fault => rfl
      | ok pid => exact absurd ⟨pid, hpid⟩ hstops
  | _ => rfl

/-- An idle container is inspected as often as the client comes to a mode that joins it. -/
private theorem le_inspections_iff (h : (named host binary run limits).Idle ref)
    (hyielded : ∀ other ∈ yielded, (named host binary run limits).yields other) :
    n ≤ inspections host binary ref (peerSteps host binary run limits yielded modes) ↔
      (named host binary run limits).ComesTo ref n modes := by
  -- A mode that joins the container takes one from the number, any other may add a reference.
  induction modes generalizing yielded n with
  | nil =>
    cases n with
    | zero => simp [ComesTo]
    | succ n => simp [ComesTo, peerSteps, inspections, issued]
  | cons mode rest ih =>
    cases n with
    | zero => simp [ComesTo]
    | succ n =>
      rw [comesTo_cons]
      by_cases hjoins : mode = joining ref
      · subst hjoins
        have hcount := ih (n := n) hyielded
        have hmono (hlater : (named host binary run limits).ComesTo ref (n + 1) rest) :
            (named host binary run limits).ComesTo ref n rest :=
          hcount.mp (Nat.le_of_succ_le ((ih hyielded).mpr hlater))
        rw [inspections_of_idle h hyielded, Nat.succ_le_succ_iff, hcount]
        exact ⟨fun hrest => .inl ⟨rfl, hrest⟩, fun hrest => hrest.elim (·.2) (hmono ·.2)⟩
      · by_cases hpasses : (named host binary run limits).Passes mode
        · obtain ⟨later, hlater, hcount⟩ := inspections_of_passing hpasses hjoins hyielded
          rw [hcount, ih (n := n + 1) hlater]
          simp [hjoins, hpasses]
        · rw [inspections_of_stopping hpasses hjoins hyielded]
          simp [hjoins, hpasses]

private theorem comesTo_two : d.ComesTo ref 2 modes ↔ ∃ front middle back,
    modes = front ++ joining ref :: (middle ++ joining ref :: back) ∧
      ∀ mode ∈ front ++ middle, d.Passes mode := by
  constructor
  · rintro ⟨front, rest, rfl, hfront, middle, back, rfl, hmiddle, -⟩
    refine ⟨front, middle, back, rfl, fun mode hmode => ?_⟩
    exact (List.mem_append.mp hmode).elim (hfront mode) (hmiddle mode)
  · rintro ⟨front, middle, back, rfl, hpasses⟩
    have hfront : ∀ mode ∈ front, d.Passes mode :=
      fun mode hmode => hpasses mode (List.mem_append_left _ hmode)
    have hmiddle : ∀ mode ∈ middle, d.Passes mode :=
      fun mode hmode => hpasses mode (List.mem_append_right _ hmode)
    exact ⟨front, _, rfl, hfront, middle, back, rfl, hmiddle, trivial⟩

/-- A container is inspected again exactly when it is idle and a second mode joins it. -/
theorem inspected_again_iff (host binary : String) (run : List String → CommandOutcome)
    (limits : Json.Limits) (s : Snapshot) (ref : String) :
    let d : Daemon := ⟨.str host, .str binary, run, limits⟩
    2 ≤ (commands (d.peers s).events).count (inspection host binary ref) ↔
      d.Idle ref ∧ ∃ front middle back,
        [s.namespaces.network, s.namespaces.pid, s.namespaces.ipc] =
          front ++ joining ref :: (middle ++ joining ref :: back) ∧
        ∀ mode ∈ front ++ middle, d.Passes mode := by
  intro d
  have hcount : (commands (d.peers s).events).count (inspection host binary ref) =
      inspections host binary ref (peerSteps host binary run limits [] s.namespaces.askedModes) := by
    rw [(peers_takes s).commands]
    rfl
  rw [hcount]
  by_cases hidle : d.Idle ref
  · rw [le_inspections_iff hidle (by simp), comesTo_two]
    exact (and_iff_right hidle).symm
  · have hone : inspections host binary ref
        (peerSteps host binary run limits [] s.namespaces.askedModes) ≤ 1 := inspections_le_one hidle
    exact ⟨fun htwo => absurd htwo (Nat.not_le_of_lt (Nat.lt_succ_of_le hone)),
      fun h => absurd h.1 hidle⟩

/-- A stopped container whose network and processes another one shares: it is inspected twice. -/
theorem inspected_again_of_stopped :
    let d : Daemon :=
      { host := .str "unix:///run/docker.sock", binary := .str "docker"
        run := fun _ => .output (.str "\x7b\"State\": \x7b\"Pid\": 0\x7d\x7d") }
    let modes : NamespaceModes := { network := .str "container:db", pid := .str "container:db" }
    let s : Snapshot := { id := .str "web", namespaces := modes }
    commands (d.peers s).events = [inspection "unix:///run/docker.sock" "docker" "db",
      inspection "unix:///run/docker.sock" "docker" "db"] ∧
    ¬ (commands (d.peers s).events).count
      (inspection "unix:///run/docker.sock" "docker" "db") ≤ 1 := by
  intro d modes s
  have htwice : commands (d.peers s).events = [inspection "unix:///run/docker.sock" "docker" "db",
      inspection "unix:///run/docker.sock" "docker" "db"] := by cbv
  exact ⟨htwice, by rw [htwice]; decide⟩

end Daemon

end ContainerBundle
