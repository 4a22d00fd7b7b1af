import ContainerBundle.Proofs.Conversion.CoveredMounts
import ContainerBundle.Proofs.FirstOccurrences
import ContainerBundle.Proofs.Text.Splitting
/-!
# The options of a mount

The options of a mount come from four places: what a bind mount implies, the tokens of the mode,
the access that the record grants, and the propagation. They stand in this order and none of them
twice. The access is told by the record's own flag alone, for the flags in the mode are passed
over.
-/
namespace ContainerBundle

namespace MountRecord

/-- A record that tells no kind is of a path of the host or of a volume. -/
def Binds (r : MountRecord) : Prop :=
  r.kind.isText "bind" ∨ r.kind.isText "volume" ∨ r.kind.isVoid

instance (r : MountRecord) : Decidable r.Binds := inferInstanceAs (Decidable (_ ∨ _ ∨ _))

def implied (r : MountRecord) : List String := if r.Binds then ["rbind"] else []

def access (r : MountRecord) : String := if r.writable.isVoid then "ro" else "rw"

end MountRecord

namespace Conversion

open Descriptor

variable {r : MountRecord} {m : Mount} {mode flag : String} {tokens options : List String}
  {o : Json}

/-- The trimmed pieces between the commas, without the empty ones and the access flags. -/
def ModeTokens (mode : String) (tokens : List String) : Prop :=
  ∃ pieces : List String,
    List.Forall₂ (fun piece token => Text.Trims piece token.toList) (mode.toList.splitOn ',')
      pieces ∧
    tokens = pieces.filter fun token => token ∉ ["", "ro", "rw"]

/-- What the mount implies and the tokens, each where it first occurs, then the access, and behind
it at most the propagation. -/
structure OptionRow (r : MountRecord) (tokens : List String) (options : List Json) : Prop where
  nodup : options.Nodup
  row : ∃ back, options =
    (r.implied ++ tokens).eraseDups.map .str ++ .str r.access :: back
  mem_iff : ∀ o, o ∈ options ↔ o ∈ r.implied.map .str ∨ o ∈ tokens.map .str ∨
    o = .str r.access ∨ o = r.propagation ∧ r.propagation.isVoid = false

private theorem modeTokens_spec (mode : String) : ModeTokens mode (modeTokens mode) := by
  let trimmed := fun piece => String.ofList (Text.trim piece)
  refine ⟨(mode.toList.splitOn ',').map trimmed, ?_, ?_⟩
  · rw [List.forall₂_map_right_iff, List.forall₂_same]
    intro piece _
    rw [String.toList_ofList]
    exact Text.trim_eq_iff.mp rfl
  · rw [modeTokens, Text.fields_eq_splitOn]
    apply List.filter_congr
    intro token _
    rw [Bool.eq_iff_iff]
    simp [and_assoc]

private theorem ModeTokens.not_mem (h : ModeTokens mode tokens) (hflag : flag ∈ ["", "ro", "rw"]) :
    flag ∉ tokens := by
  obtain ⟨pieces, -, rfl⟩ := h
  intro hmem
  simpa [hflag] using (List.mem_filter.mp hmem).2

private theorem addOption_eraseDups (options : List String) (token : String) :
    addOption options.eraseDups token = (options ++ [token]).eraseDups := by
  rw [addOption, eraseDups_concat]
  by_cases htoken : token ∈ options <;> simp [htoken]

private theorem foldl_addOption (options tokens : List String) :
    tokens.foldl addOption options.eraseDups = (options ++ tokens).eraseDups := by
  induction tokens generalizing options with
  | nil => simp
  | cons token rest ih =>
    rw [List.foldl_cons, addOption_eraseDups, ih, List.append_assoc, List.singleton_append]

private theorem bindsHost_iff (r : MountRecord) : bindsHost (mountKind r) ↔ r.Binds := by
  rw [bindsHost, mountKind, MountRecord.Binds]
  cases hkind : r.kind.isVoid with
  | true => cases r.name.isVoid <;> simp [Json.isText]
  | false => simp

private theorem nodup_implied (r : MountRecord) : r.implied.Nodup := by
  rw [MountRecord.implied]
  split <;> simp

private theorem accessOptions_eq (r : MountRecord) (mode : String) :
    accessOptions (mountKind r) mode (!r.writable.isVoid) =
      (r.implied ++ modeTokens mode).eraseDups ++ [r.access] := by
  have himplied : (if bindsHost (mountKind r) then ["rbind"] else []) = r.implied.eraseDups := by
    rw [eraseDups_of_nodup (nodup_implied r)]
    simp only [bindsHost_iff, MountRecord.implied]
  have haccess : (if !r.writable.isVoid then "rw" else "ro") = r.access := by
    cases hvoid : r.writable.isVoid <;> simp [MountRecord.access, hvoid]
  rw [accessOptions, himplied, foldl_addOption, haccess]

/-- The row of texts with the propagation behind it, unless there is none or it is there. -/
inductive Propagates (r : MountRecord) (options : List String) : List Json → Prop
  | void (hvoid : r.propagation.isVoid) : Propagates r options (options.map .str)
  | present (hpresent : r.propagation ∈ options.map Json.str) :
      Propagates r options (options.map .str)
  | behind (hgiven : r.propagation.isVoid = false)
      (hnew : r.propagation ∉ options.map Json.str) :
      Propagates r options (options.map .str ++ [r.propagation])

private theorem Propagates.exists_back {list : List Json} (h : Propagates r options list) :
    ∃ back, list = options.map .str ++ back := by
  cases h with
  | void _ => exact ⟨[], (List.append_nil _).symm⟩
  | present _ => exact ⟨[], (List.append_nil _).symm⟩
  | behind _ _ => exact ⟨[r.propagation], rfl⟩

theorem Propagates.nodup {list : List Json} (h : Propagates r options list)
    (hnodup : options.Nodup) : list.Nodup := by
  have htexts : (options.map Json.str).Nodup := hnodup.map (fun _ _ => Json.str.inj)
  cases h with
  | void _ => exact htexts
  | present _ => exact htexts
  | behind _ hnew =>
    rw [List.nodup_append_comm, List.singleton_append]
    exact List.nodup_cons.mpr ⟨hnew, htexts⟩

theorem Propagates.mem_iff {list : List Json} (h : Propagates r options list) :
    o ∈ list ↔ o ∈ options.map .str ∨ o = r.propagation ∧ r.propagation.isVoid = false := by
  cases h with
  | void hvoid => simp [hvoid]
  | present hpresent =>
    rw [or_iff_left_of_imp]
    rintro ⟨rfl, -⟩
    exact hpresent
  | behind hgiven _ => simp [hgiven]

private theorem propagates (r : MountRecord) (options : List String) :
    Propagates r options
      (if r.propagation.isVoid || (options.map Json.str).any (fun o => match r.propagation with
          | .str p => o.isText p
          | _ => false)
        then options.map .str else options.map .str ++ [r.propagation]) := by
  have hpresent : (options.map Json.str).any (fun o => match r.propagation with
      | .str p => o.isText p
      | _ => false) ↔ r.propagation ∈ options.map Json.str := by
    rw [List.any_eq_true]
    cases r.propagation with
    | str p => simp only [Json.isText_iff, exists_eq_right]
    | _ => simp
  cases hvoid : r.propagation.isVoid with
  | true => exact .void hvoid
  | false =>
    rw [Bool.false_or]
    by_cases hmem : r.propagation ∈ options.map Json.str
    · rw [if_pos (hpresent.mpr hmem)]
      exact .present hmem
    · rw [if_neg (mt hpresent.mp hmem)]
      exact .behind hvoid hmem

/-- What a record comes to: a mount whose options are a row of texts and the propagation. -/
private theorem mountOf_eq_ok_cases (h : mountOf r = .ok m) : ∃ mode, r.mode = .str mode ∧
    (r.Binds → m.kind = .str "bind") ∧
    Propagates r ((r.implied ++ modeTokens mode).eraseDups ++ [r.access]) m.options := by
  obtain ⟨⟨mode, hmode⟩, -⟩ := mountOf_eq_ok h
  rw [mountOf, hmode] at h
  cases h
  refine ⟨mode, hmode, fun hbinds => ?_, ?_⟩
  · exact if_pos ((bindsHost_iff r).mpr hbinds)
  · rw [← accessOptions_eq]
    exact propagates r _

private theorem flag_not_mem (htokens : ModeTokens mode tokens) (hflag : flag ∈ ["ro", "rw"]) :
    flag ∉ r.implied ++ tokens := by
  have himplied : flag ∉ r.implied := by
    rw [MountRecord.implied]
    split
    · rintro hmem
      rw [List.mem_singleton.mp hmem] at hflag
      simp at hflag
    · exact List.not_mem_nil
  have hrest : flag ∉ tokens := htokens.not_mem (List.mem_cons_of_mem "" hflag)
  simp [himplied, hrest]

private theorem access_mem (r : MountRecord) : r.access ∈ ["ro", "rw"] := by
  rw [MountRecord.access]
  split <;> simp

private theorem Propagates.optionRow {list : List Json} (htokens : ModeTokens mode tokens)
    (h : Propagates r ((r.implied ++ tokens).eraseDups ++ [r.access]) list) :
    OptionRow r tokens list := by
  have haccess : r.access ∉ (r.implied ++ tokens).eraseDups := by
    rw [List.mem_eraseDups]
    exact flag_not_mem htokens (access_mem r)
  constructor
  · apply h.nodup
    rw [List.nodup_append_comm, List.singleton_append]
    exact List.nodup_cons.mpr ⟨haccess, nodup_eraseDups _⟩
  · obtain ⟨back, rfl⟩ := h.exists_back
    exact ⟨back, by simp⟩
  · intro o
    rw [h.mem_iff]
    simp only [List.map_append, List.map_cons, List.map_nil, List.mem_append, List.mem_singleton,
      List.mem_map, List.mem_eraseDups, or_and_right, exists_or, or_assoc]

private theorem OptionRow.flag_iff {list : List Json} (h : OptionRow r tokens list)
    (htokens : ModeTokens mode tokens) (hflag : flag ∈ ["ro", "rw"])
    (hpropagation : r.propagation ≠ .str flag) : .str flag ∈ list ↔ flag = r.access := by
  have hfree : flag ∉ r.implied ++ tokens := flag_not_mem htokens hflag
  rw [List.mem_append, not_or] at hfree
  rw [h.mem_iff]
  simp [hfree.1, hfree.2, hpropagation.symm]

private theorem OptionRow.head?_of_binds {list : List Json} (h : OptionRow r tokens list)
    (hbinds : r.Binds) : list.head? = some (.str "rbind") := by
  obtain ⟨back, rfl⟩ := h.row
  rw [MountRecord.implied, if_pos hbinds]
  simp [List.eraseDups_cons]

/-- A mount has no option twice and one access flag, told by the record's own flag whatever the mode
says. A bind mount starts with `rbind`; then come the tokens of the mode, the access, and the
propagation if it is new. -/
theorem mountOf_options (r : MountRecord) (hreadOnly : r.propagation ≠ .str "ro")
    (hwritable : r.propagation ≠ .str "rw") :
    ((∃ m, mountOf r = .ok m) ↔ r.mode.IsText) ∧
    ∀ m, mountOf r = .ok m → ∃ mode tokens, r.mode = .str mode ∧ ModeTokens mode tokens ∧
      OptionRow r tokens m.options ∧
      (.str "rw" ∈ m.options ↔ r.writable.isVoid = false) ∧
      (.str "ro" ∈ m.options ↔ r.writable.isVoid = true) ∧
      (r.Binds → m.kind = .str "bind" ∧ m.options.head? = some (.str "rbind")) := by
  constructor
  · constructor
    · rintro ⟨m, hm⟩
      exact (mountOf_eq_ok hm).1
    · exact mountOf_of_mode
  · intro m hm
    obtain ⟨mode, hmode, hkind, hpropagates⟩ := mountOf_eq_ok_cases hm
    have htokens := modeTokens_spec mode
    have hrow := hpropagates.optionRow htokens
    refine ⟨mode, modeTokens mode, hmode, htokens, hrow, ?_, ?_, ?_⟩
    · rw [hrow.flag_iff htokens (by simp) hwritable, MountRecord.access]
      cases r.writable.isVoid <;> simp
    · rw [hrow.flag_iff htokens (by simp) hreadOnly, MountRecord.access]
      cases r.writable.isVoid <;> simp
    · intro hbinds
      exact ⟨hkind hbinds, hrow.head?_of_binds hbinds⟩

theorem mountOf_options_of_contrary_mode :
    let r : MountRecord :=
      { destination := .str "/data", kind := .str "volume", mode := .str "z, ro ,rbind,,U,z"
        propagation := .str "rprivate" }
    (r.propagation ≠ .str "ro" ∧ r.propagation ≠ .str "rw") ∧ ∃ m, mountOf r = .ok m ∧
      m.kind = .str "bind" ∧ m.options.head? = some (.str "rbind") ∧ m.options.Nodup ∧
      .str "rw" ∈ m.options ∧ .str "ro" ∉ m.options ∧
      m.options = ["rbind", "z", "U", "rw", "rprivate"].map .str := by
  intro r
  obtain ⟨hends, hoptions⟩ := mountOf_options r (by simp [r]) (by simp [r])
  obtain ⟨m, hm⟩ := hends.mpr (Json.isText_str _)
  obtain ⟨mode, tokens, -, -, hrow, hwritable, hreadOnly, hbinds⟩ := hoptions m hm
  obtain ⟨hkind, hhead⟩ := hbinds (.inr (.inl rfl))
  have hlist : m.options = ["rbind", "z", "U", "rw", "rprivate"].map .str := by
    have hmount : mountOf r = .ok
        { destination := .str "/data", kind := .str "bind", source := .str ""
          options := ["rbind", "z", "U", "rw", "rprivate"].map .str } := by
      cbv
    rw [hm] at hmount
    exact congrArg Mount.options (Except.ok.inj hmount)
  refine ⟨⟨by simp [r], by simp [r]⟩, m, hm, hkind, hhead, hrow.nodup, hwritable.mpr rfl, ?_, hlist⟩
  intro hmem
  exact absurd (hreadOnly.mp hmem) (by decide)

end Conversion

end ContainerBundle
