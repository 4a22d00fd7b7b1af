import ContainerBundle.Fault
import ContainerBundle.Hook.Phase
/-!
# Traced results

A conversion is a result together with the events on the way to it: the things it asked of its
surroundings and the remarks it made, in order. A fault keeps the events before it, and nothing
happens after it.
-/
namespace ContainerBundle

inductive Event
  | lookedUp (executable : Json)
  | hookResolved (phase : Phase) (executable path : String)
  | ran (command : List String)
  | examined (path : Json)
  | userUnknown (name : String)
  | groupUnknown (name : String)
  | extraGroupUnknown (name : String)
  | mountOverridden (destination : String)
  | processConverted (shortId : Json) (args mounts : Nat)
  | peerUnknown (kind : Json) (ref : String)
  | ruleMalformed (raw : String)
  | runtimeConverted (shortId : Json) (namespaces : List Json)
  | documentWritten (path : String)

structure Traced (α : Type) where
  events : List Event
  outcome : Except Fault α

namespace Traced

def ofExcept (outcome : Except Fault α) : Traced α := ⟨[], outcome⟩

def fail (fault : Fault) : Traced α := ⟨[], .error fault⟩

def emit (event : Event) : Traced Unit := ⟨[event], .ok ()⟩

def andThen (x : Traced α) (f : α → Traced β) : Traced β :=
  match x.outcome with
  | .error fault => ⟨x.events, .error fault⟩
  | .ok a => ⟨x.events ++ (f a).events, (f a).outcome⟩

instance : Monad Traced where
  pure a := ⟨[], .ok a⟩
  bind := andThen

instance : MonadLift (Except Fault) Traced where
  monadLift := ofExcept

@[simp] theorem pure_events (a : α) : (pure a : Traced α).events = [] := rfl

@[simp] theorem pure_outcome (a : α) : (pure a : Traced α).outcome = .ok a := rfl

@[simp] theorem ofExcept_events (x : Except Fault α) : (ofExcept x).events = [] := rfl

@[simp] theorem ofExcept_outcome (x : Except Fault α) : (ofExcept x).outcome = x := rfl

@[simp] theorem ofExcept_ok (a : α) : ofExcept (.ok a) = pure a := rfl

@[simp] theorem ofExcept_error (fault : Fault) : (ofExcept (.error fault) : Traced α) = fail fault :=
  rfl

@[simp] theorem liftM_eq_ofExcept (x : Except Fault α) : (liftM x : Traced α) = ofExcept x := rfl

@[simp] theorem emit_events (event : Event) : (emit event).events = [event] := rfl

@[simp] theorem emit_outcome (event : Event) : (emit event).outcome = .ok () := rfl

@[simp] theorem fail_events (fault : Fault) : (fail fault : Traced α).events = [] := rfl

@[simp] theorem fail_outcome (fault : Fault) : (fail fault : Traced α).outcome = .error fault := rfl

theorem mk_ok_bind (events : List Event) (a : α) (f : α → Traced β) :
    (⟨events, .ok a⟩ >>= f : Traced β) = ⟨events ++ (f a).events, (f a).outcome⟩ := rfl

theorem outcome_bind (x : Traced α) (f : α → Traced β) :
    (x >>= f).outcome = x.outcome >>= fun a => (f a).outcome := by
  rcases x with ⟨events, _ | a⟩ <;> rfl

theorem bind_eq_ok_iff {x : Traced α} {f : α → Traced β} {b : β} :
    (x >>= f).outcome = .ok b ↔ ∃ a, x.outcome = .ok a ∧ (f a).outcome = .ok b := by
  rcases x with ⟨events, _ | a⟩ <;> simp [bind, andThen]

theorem events_bind_of_ok {x : Traced α} {f : α → Traced β} {a : α} (h : x.outcome = .ok a) :
    (x >>= f).events = x.events ++ (f a).events := by
  rcases x with ⟨events, _ | a⟩ <;> simp_all [bind, andThen]

theorem bind_of_error {x : Traced α} {f : α → Traced β} {fault : Fault}
    (h : x.outcome = .error fault) : x >>= f = ⟨x.events, .error fault⟩ := by
  rcases x with ⟨events, _ | a⟩ <;> simp_all [bind, andThen]

instance : LawfulMonad Traced := LawfulMonad.mk' _
  (by rintro α ⟨events, _ | a⟩ <;> simp [Functor.map, andThen])
  (by intros; simp [bind, pure, andThen])
  (by rintro α β γ ⟨events, _ | a⟩ f g
      · simp [bind, andThen]
      · simp only [bind, andThen]
        cases h : (f a).outcome <;> simp)

def forEach (f : α → Traced β) : List α → Traced (List β)
  | [] => pure []
  | a :: rest => do
    let b ← f a
    let bs ← forEach f rest
    pure (b :: bs)

theorem forEach_map (f : β → Traced γ) (g : α → β) (items : List α) :
    forEach f (items.map g) = forEach (fun a => f (g a)) items := by
  induction items with
  | nil => rfl
  | cons a rest ih => rw [List.map_cons, forEach, forEach, ih]

theorem forEach_append (f : α → Traced β) (front back : List α) :
    forEach f (front ++ back) = (do
      let first ← forEach f front
      let later ← forEach f back
      pure (first ++ later)) := by
  induction front with
  | nil => simp [forEach]
  | cons a rest ih => simp [forEach, ih]

theorem forEach_stopped {f : α → Traced β} {front : List α} {a : α} {firsts : List β}
    {events later : List Event} {fault : Fault} (hfront : forEach f front = ⟨events, .ok firsts⟩)
    (ha : f a = ⟨later, .error fault⟩) (back : List α) :
    forEach f (front ++ a :: back) = ⟨events ++ later, .error fault⟩ := by
  rw [forEach_append, hfront, forEach, ha]
  rfl

theorem forEach_of_each {f : α → Traced β} {items : List α} {events : α → List Event}
    {value : α → β} (h : ∀ a ∈ items, f a = ⟨events a, .ok (value a)⟩) :
    forEach f items = ⟨items.flatMap events, .ok (items.map value)⟩ := by
  induction items with
  | nil => rfl
  | cons a rest ih =>
    obtain ⟨ha, hrest⟩ := List.forall_mem_cons.mp h
    rw [forEach, ha, ih hrest]
    simp [bind, andThen]

theorem forEach_error {f : α → Traced β} {items : List α}
    (h : ∃ a ∈ items, ∃ fault, (f a).outcome = .error fault) :
    ∃ a ∈ items, ∃ fault, (f a).outcome = .error fault ∧
      (forEach f items).outcome = .error fault := by
  induction items with
  | nil => simp at h
  | cons a rest ih =>
    cases ha : (f a).outcome with
    | error fault =>
      refine ⟨a, by simp, fault, ha, ?_⟩
      rw [forEach, bind_of_error ha]
    | ok b =>
      obtain ⟨c, hc, fault, hfault⟩ := h
      have hrest : c ∈ rest := by
        rcases List.mem_cons.mp hc with rfl | hc
        · rw [ha] at hfault
          cases hfault
        · exact hc
      obtain ⟨c, hc, fault, hfault, hrow⟩ := ih ⟨c, hrest, fault, hfault⟩
      refine ⟨c, List.mem_cons_of_mem a hc, fault, hfault, ?_⟩
      rw [forEach, outcome_bind, ha, ok_bind, outcome_bind, hrow, error_bind]

end Traced

inductive Level
  | debug
  | warning
  deriving DecidableEq, Repr

def Level.label : Level → String
  | .debug => "DEBUG"
  | .warning => "WARNING"

structure Remark where
  level : Level
  source : String
  text : String
  deriving DecidableEq, Repr

def Event.remark? : Event → Option Remark
  | .lookedUp _ => none
  | .examined _ => none
  | .hookResolved phase executable path =>
    some ⟨.debug, "ocigen.hooks",
      "Resolved " ++ phase.label ++ " hook " ++ executable ++ " -> " ++ path⟩
  | .ran command => some ⟨.debug, "ocigen.daemon", "Running: " ++ " ".intercalate command⟩
  | .userUnknown name =>
    some ⟨.warning, "ocigen.process",
      "Looking up user " ++ Text.quoted name ++ " failed, running as uid 0"⟩
  | .groupUnknown name =>
    some ⟨.warning, "ocigen.process", "Looking up group " ++ Text.quoted name ++ " failed"⟩
  | .extraGroupUnknown name =>
    some ⟨.warning, "ocigen.process",
      "Looking up additional group " ++ Text.quoted name ++ " failed, skipping"⟩
  | .mountOverridden destination =>
    some ⟨.debug, "ocigen.process",
      "Skipping default mount " ++ destination ++ ", overridden by container"⟩
  | .processConverted shortId args mounts =>
    some ⟨.debug, "ocigen.process", "Translated process for " ++ shortId.mention ++ ": " ++
      Text.numeral args ++ " args, " ++ Text.numeral mounts ++ " mounts"⟩
  | .peerUnknown kind ref =>
    some ⟨.warning, "ocigen.namespaces", kind.mention ++ " namespace joins container " ++ ref ++
      " but its pid is unknown, using a new namespace"⟩
  | .ruleMalformed raw =>
    some ⟨.warning, "ocigen.cgroups",
      "Ignoring malformed device cgroup rule " ++ Text.quoted raw⟩
  | .runtimeConverted shortId namespaces =>
    some ⟨.debug, "ocigen.runtime", "Translated runtime for " ++ shortId.mention ++
      ": namespaces=" ++ (Json.arr namespaces).display⟩
  | .documentWritten path => some ⟨.debug, "ocigen.bundle", "Wrote " ++ path⟩

def remarks (events : List Event) : List Remark := events.filterMap Event.remark?

def warnings (events : List Event) : List Remark :=
  (remarks events).filter (fun r => r.level = .warning)

theorem warnings_append (first second : List Event) :
    warnings (first ++ second) = warnings first ++ warnings second := by
  simp [warnings, remarks]

theorem warnings_eq_remarks {events : List Event}
    (h : ∀ event ∈ events, ∀ r, event.remark? = some r → r.level = .warning) :
    warnings events = remarks events := by
  rw [warnings, List.filter_eq_self]
  intro r hr
  obtain ⟨event, hevent, hremark⟩ := List.mem_filterMap.mp hr
  simpa using h event hevent r hremark

def commands (events : List Event) : List (List String) :=
  events.filterMap fun
    | .ran command => some command
    | _ => none

def lookups (events : List Event) : List Json :=
  events.filterMap fun
    | .lookedUp executable => some executable
    | _ => none

end ContainerBundle
