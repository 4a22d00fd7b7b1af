import ContainerBundle.Json.Field
import ContainerBundle.Proofs.Json.Determined
/-!
# Values of one type

What the fields of descriptors and of the daemon's answers hold: texts, integers, booleans, and
null for a field that may be unset. None of them holds a fraction.
-/
namespace ContainerBundle.Json

def IsText (v : Json) : Prop := ∃ s, v = str s

def IsInteger (v : Json) : Prop := ∃ n, v = int n

def IsBoolean (v : Json) : Prop := ∃ b, v = bool b

def Optional (P : Json → Prop) (v : Json) : Prop := v = null ∨ P v

theorem isText_str (s : String) : (str s).IsText := ⟨s, rfl⟩

theorem isInteger_int (n : Int) : (int n).IsInteger := ⟨n, rfl⟩

theorem exists_texts {values : List Json} (h : ∀ v ∈ values, v.IsText) :
    ∃ texts : List String, values = texts.map str := by
  induction values with
  | nil => exact ⟨[], rfl⟩
  | cons v rest ih =>
    obtain ⟨⟨s, rfl⟩, hrest⟩ := List.forall_mem_cons.mp h
    obtain ⟨texts, rfl⟩ := ih hrest
    exact ⟨s :: texts, rfl⟩

theorem mapM_text (use : Use) (texts : List String) :
    (texts.map str).mapM (text use) = .ok texts := by
  induction texts with
  | nil => rfl
  | cons s rest ih =>
    rw [List.map_cons, List.mapM_cons, ih]
    rfl

theorem mapM_hashable {values : List Json} (h : ∀ v ∈ values, v.IsText) :
    values.mapM hashable = .ok values := by
  induction values with
  | nil => rfl
  | cons v rest ih =>
    obtain ⟨⟨s, rfl⟩, hrest⟩ := List.forall_mem_cons.mp h
    rw [List.mapM_cons, ih hrest]
    rfl

theorem texts_of_mapM {use : Use} {values : List Json} {texts : List String}
    (h : values.mapM (text use) = .ok texts) : values = texts.map str := by
  induction values generalizing texts with
  | nil =>
    cases h
    rfl
  | cons v rest ih =>
    obtain ⟨s, others, hs, hothers, rfl⟩ := mapM_cons_eq_ok_iff.mp h
    cases v with
    | str t =>
      cases hs
      rw [List.map_cons, ih hothers]
    | _ => cases hs

theorem Integral.arr_map {items : List α} {f : α → Json} (h : ∀ a ∈ items, (f a).Integral) :
    (Json.arr (items.map f)).Integral :=
  .arr _ (List.forall_mem_map.mpr h)

theorem Integral.ofOption_map {o : Option α} {f : α → Json} (h : ∀ a ∈ o, (f a).Integral) :
    (Json.ofOption (o.map f)).Integral := by
  cases o with
  | none => exact .null
  | some a => exact h a rfl

theorem Integral.ofText? (o : Option String) : (Json.ofText? o).Integral := by
  cases o with
  | none => exact .null
  | some s => exact .str s

theorem IsText.integral {v : Json} (h : v.IsText) : v.Integral := by
  obtain ⟨s, rfl⟩ := h
  exact .str s

theorem IsInteger.integral {v : Json} (h : v.IsInteger) : v.Integral := by
  obtain ⟨n, rfl⟩ := h
  exact .int n

theorem Optional.integral {P : Json → Prop} {v : Json} (h : Optional P v)
    (hP : P v → v.Integral) : v.Integral := by
  rcases h with rfl | h
  · exact .null
  · exact hP h

theorem Integral.texts {items : List Json} (h : ∀ v ∈ items, v.IsText) :
    (Json.arr items).Integral :=
  .arr items (fun v hv => (h v hv).integral)

end ContainerBundle.Json
