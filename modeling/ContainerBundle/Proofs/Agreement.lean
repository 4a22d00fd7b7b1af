import ContainerBundle.Traced
import Mathlib.Data.List.Forall2
/-!
# Runs that agree

Two runs agree when they are refused for the same fault, or when both hold a value and the values
are related. Runs made of the same steps agree when their steps do.
-/
namespace ContainerBundle

/-- Refused for the same fault, or held by values that are related. -/
inductive Agree (R : α → β → Prop) : Except Fault α → Except Fault β → Prop
  | refused (fault : Fault) : Agree R (.error fault) (.error fault)
  | held {a : α} {b : β} (h : R a b) : Agree R (.ok a) (.ok b)

/-- Refused for the same fault, or not refused at all. -/
abbrev EndAlike (x : Except Fault α) (y : Except Fault β) : Prop := Agree (fun _ _ => True) x y

namespace Agree

variable {R : α → β → Prop} {x : Except Fault α} {y : Except Fault β}

theorem refl {R : α → α → Prop} (hR : ∀ a, R a a) (x : Except Fault α) : Agree R x x := by
  cases x with
  | error fault => exact .refused fault
  | ok a => exact .held (hR a)

theorem mono {S : α → β → Prop} (h : Agree R x y) (hRS : ∀ a b, R a b → S a b) : Agree S x y := by
  cases h with
  | refused fault => exact .refused fault
  | held hab => exact .held (hRS _ _ hab)

theorem bind {S : γ → δ → Prop} {f : α → Except Fault γ} {g : β → Except Fault δ}
    (h : Agree R x y) (hnext : ∀ a b, R a b → Agree S (f a) (g b)) :
    Agree S (x >>= f) (y >>= g) := by
  cases h with
  | refused fault => exact .refused fault
  | held hab => exact hnext _ _ hab

theorem bind_same {S : γ → δ → Prop} {f : α → Except Fault γ} {g : α → Except Fault δ}
    (x : Except Fault α) (hnext : ∀ a, Agree S (f a) (g a)) : Agree S (x >>= f) (x >>= g) := by
  cases x with
  | error fault => exact .refused fault
  | ok a => exact hnext a

theorem bind_held {S : γ → δ → Prop} {f : α → Except Fault γ} {g : α → Except Fault δ}
    (x : Except Fault α) (hnext : ∀ a, x = .ok a → Agree S (f a) (g a)) :
    Agree S (x >>= f) (x >>= g) := by
  cases x with
  | error fault => exact .refused fault
  | ok a => exact hnext a rfl

theorem map {S : γ → δ → Prop} {f : α → γ} {g : β → δ} (h : Agree R x y)
    (hvalues : ∀ a b, R a b → S (f a) (g b)) : Agree S (x.map f) (y.map g) := by
  cases h with
  | refused fault => exact .refused fault
  | held hab => exact .held (hvalues _ _ hab)

theorem eq {x y : Except Fault α} (h : Agree Eq x y) : x = y := by
  cases h with
  | refused fault => rfl
  | held hab => rw [hab]

theorem mapM_set {R : β → β → Prop} {f : α → Except Fault β} {items : List α} {n : Nat} {a b : α}
    (hitem : items[n]? = some a) (h : Agree R (f a) (f b)) :
    Agree (fun xs ys => ∃ x y, xs[n]? = some x ∧ R x y ∧ ys = xs.set n y)
      (items.mapM f) ((items.set n b).mapM f) := by
  induction items generalizing n with
  | nil => simp at hitem
  | cons c rest ih =>
    cases n with
    | zero =>
      obtain rfl : c = a := by simpa using hitem
      rw [List.set_cons_zero, List.mapM_cons, List.mapM_cons]
      refine h.bind fun x y hxy => ?_
      exact bind_same _ fun xs => .held ⟨x, y, rfl, hxy, rfl⟩
    | succ n =>
      rw [List.set_cons_succ, List.mapM_cons, List.mapM_cons]
      refine bind_same _ fun z => ?_
      refine (ih (by simpa using hitem)).bind fun xs ys hrows => ?_
      obtain ⟨x, y, hx, hxy, rfl⟩ := hrows
      exact .held ⟨x, y, by simpa using hx, hxy, rfl⟩

theorem exists_of_ok {a : α} (h : Agree R x y) (hx : x = .ok a) : ∃ b, y = .ok b ∧ R a b := by
  cases h with
  | refused cause => cases hx
  | held hab =>
    cases hx
    exact ⟨_, rfl, hab⟩

end Agree

theorem EndAlike.refl (x : Except Fault α) : EndAlike x x := Agree.refl (fun _ => trivial) x

theorem Traced.forEach_agree {R : β → γ → Prop} {f : α → Traced β} {g : α → Traced γ}
    {items : List α} (h : ∀ a ∈ items, Agree R (f a).outcome (g a).outcome) :
    Agree (List.Forall₂ R) (forEach f items).outcome (forEach g items).outcome := by
  induction items with
  | nil => exact .held .nil
  | cons a rest ih =>
    obtain ⟨ha, hrest⟩ := List.forall_mem_cons.mp h
    simp only [forEach, outcome_bind]
    refine ha.bind fun b c hbc => ?_
    refine (ih hrest).bind fun bs cs hbcs => ?_
    exact .held (.cons hbc hbcs)

end ContainerBundle
