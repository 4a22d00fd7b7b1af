import ContainerBundle.CommandLine.Options
import ContainerBundle.Proofs.Json.Typed
/-!
# Arguments that are texts

The arguments of a program are texts. What is read from them is then a text as well: the container
is a text or not given, and every value of an option is a text or void.
-/
namespace ContainerBundle.CommandLine

open Json

/-- A value that texts give to an option. An attached value may be void without being a text. -/
def Given (v : Json) : Prop := v.IsText ∨ v.isVoid

def Token.OfText : Token → Prop
  | .plain a => a.IsText
  | _ => True

structure Options.OfTexts (o : Options) : Prop where
  host : Given o.host
  container : Optional IsText o.container

private theorem classify_ofText {argument : String} {token : Token}
    (h : (classify argument).mapError Departure.refused = .ok token) : token.OfText := by
  cases hclass : classify argument with
  | error cause =>
    rw [hclass] at h
    cases h
  | ok found =>
    rw [hclass] at h
    cases h
    cases token with
    | plain a => exact ⟨argument, classify_plain hclass⟩
    | _ => trivial

private theorem tokens_ofText {arguments : List String} {list : List Token}
    (h : tokens (arguments.map .str) = .ok list) : ∀ token ∈ list, token.OfText := by
  induction arguments generalizing list with
  | nil =>
    cases h
    simp
  | cons a rest ih =>
    rw [List.map_cons, tokens] at h
    split at h
    · cases h
      simp [Token.OfText, isText_str]
    · obtain ⟨token, htoken, h⟩ := bind_eq_ok.mp h
      obtain ⟨others, hothers, h⟩ := bind_eq_ok.mp h
      cases h
      exact List.forall_mem_cons.mpr ⟨classify_ofText htoken, ih hothers⟩

def UsesGiven (uses : List (Opt × Option Json)) : Prop := ∀ use ∈ uses, ∀ v ∈ use.2, Given v

private theorem given_attachedValue (s : List Char) : Given (attachedValue s) := by
  rw [attachedValue]
  split
  · exact .inr rfl
  · exact .inl (isText_str _)

theorem UsesGiven.concat {uses : List (Opt × Option Json)} (h : UsesGiven uses) (option : Opt)
    {value : Option Json} (hvalue : ∀ v ∈ value, Given v) :
    UsesGiven (uses ++ [(option, value)]) := by
  intro use huse
  rcases List.mem_append.mp huse with hold | hnew
  · exact h use hold
  · rw [List.mem_singleton.mp hnew]
    exact hvalue

private theorem unbundle_given {option : Opt} {inLetters : Bool} {done : List (Opt × Option Json)}
    {s : List Char} {effects : Effects} (hdone : UsesGiven done)
    (h : unbundle option inLetters done s = .ok effects) : UsesGiven effects.uses := by
  have hattached (s : List Char) : ∀ v ∈ some (attachedValue s), Given v := by
    simpa using given_attachedValue s
  induction s generalizing option inLetters done with
  | nil =>
    rw [unbundle] at h
    split at h
    · cases h
      exact hdone.concat option (hattached [])
    · cases h
  | cons c rest ih =>
    have hbare : UsesGiven (done ++ [(option, none)]) := hdone.concat option (by simp)
    rw [unbundle] at h
    split at h
    · cases h
      exact hdone.concat option (hattached (c :: rest))
    · split at h
      · cases h
      · split at h
        · cases h
        · split at h
          · exact ih hbare h
          · split at h
            · cases h
              exact hbare
            · cases h
              rw [← List.singleton_append, ← List.append_assoc]
              exact hbare.concat _ (by simp)

private theorem OptionUse.effects_given {use : OptionUse} {effects : Effects}
    (h : use.effects = .ok effects) : UsesGiven effects.uses := by
  have hnone : UsesGiven [] := by simp [UsesGiven]
  rw [OptionUse.effects] at h
  split at h
  · exact unbundle_given hnone h
  · split at h
    · cases h
      exact hnone
    · cases h
      exact hnone.concat _ (by simp)

private theorem Options.apply_ofTexts {o after : Options} {use : Opt × Option Json} (ho : o.OfTexts)
    (huse : ∀ v ∈ use.2, Given v) (h : o.apply use = .ok after) : after.OfTexts := by
  obtain ⟨option, value⟩ := use
  cases option with
  | host =>
    cases h
    cases value with
    | none => exact ho
    | some v => exact ⟨huse v rfl, ho.container⟩
  | help => cases h
  | version => cases h
  | _ =>
    cases h
    exact ⟨ho.host, ho.container⟩

private theorem foldlM_apply_ofTexts {o after : Options} {uses : List (Opt × Option Json)}
    (ho : o.OfTexts)
    (huses : UsesGiven uses) (h : uses.foldlM Options.apply o = .ok after) : after.OfTexts := by
  induction uses generalizing o with
  | nil =>
    cases h
    exact ho
  | cons use rest ih =>
    obtain ⟨huse, hrest⟩ := List.forall_mem_cons.mp huses
    rw [List.foldlM_cons] at h
    obtain ⟨next, hnext, h⟩ := bind_eq_ok.mp h
    exact ih (Options.apply_ofTexts ho huse hnext) hrest h

namespace Reading

variable {r after : Reading} {uses : List (Opt × Option Json)} {a : Json} {list : List Token}

private theorem applyAll_ofTexts (hr : r.options.OfTexts) (huses : UsesGiven uses)
    (h : r.applyAll uses = .ok after) : after.options.OfTexts := by
  obtain ⟨options, hoptions, h⟩ := bind_eq_ok.mp h
  cases h
  exact foldlM_apply_ofTexts hr huses hoptions

private theorem takePlain_ofTexts (hr : r.options.OfTexts) (ha : a.IsText) :
    (r.takePlain a).options.OfTexts := by
  rw [takePlain]
  split
  · exact hr
  · exact ⟨hr.host, .inr ha⟩

private theorem takeRest_ofTexts (hr : r.options.OfTexts) (taken : Bool)
    (hlist : ∀ token ∈ list, token.OfText) : (r.takeRest taken list).options.OfTexts := by
  cases taken with
  | true => exact hr
  | false =>
    cases list with
    | nil => exact hr
    | cons token rest =>
      have htoken := hlist token List.mem_cons_self
      apply takePlain_ofTexts hr
      cases token with
      | plain a => exact htoken
      | _ => exact isText_str _

private theorem readTokens_ofTexts {atContainer : Bool} (hr : r.options.OfTexts)
    (hlist : ∀ token ∈ list, token.OfText) (h : readTokens r atContainer list = .ok after) :
    after.options.OfTexts := by
  fun_induction readTokens r atContainer list with
  | case1 =>
    cases h
    exact hr
  | case2 r atContainer a rest ih =>
    obtain ⟨ha, hrest⟩ := List.forall_mem_cons.mp hlist
    exact ih (takePlain_ofTexts hr ha) hrest h
  | case3 r atContainer a rest ih => exact ih hr (List.forall_mem_cons.mp hlist).2 h
  | case4 r atContainer rest htaken =>
    cases h
    exact takeRest_ofTexts hr true hlist
  | case5 r atContainer rest htaken =>
    cases h
    exact takeRest_ofTexts hr r.hasContainer (List.forall_mem_cons.mp hlist).2
  | case6 => cases h
  | case7 r atContainer use rest effects heffects hpending ih =>
    obtain ⟨next, hnext, h⟩ := bind_eq_ok.mp h
    have huses := OptionUse.effects_given heffects
    exact ih next (applyAll_ofTexts hr huses hnext) (List.forall_mem_cons.mp hlist).2 h
  | case8 r atContainer use effects heffects option hpending a rest ih =>
    obtain ⟨next, hnext, h⟩ := bind_eq_ok.mp h
    obtain ⟨ha, hrest⟩ := List.forall_mem_cons.mp (List.forall_mem_cons.mp hlist).2
    have hgiven : Given a := .inl ha
    have huses : UsesGiven (effects.uses ++ [(option, some a)]) :=
      (OptionUse.effects_given heffects).concat option (by simpa using hgiven)
    exact ih next (applyAll_ofTexts hr huses hnext) hrest h
  | case9 => cases h

end Reading

theorem Options.read_ofTexts {defaultHost : String} {arguments : List String} {o : Options}
    (h : Options.read defaultHost (arguments.map .str) = .ok o) : o.OfTexts := by
  obtain ⟨list, hlist, h⟩ := bind_eq_ok.mp h
  obtain ⟨r, hr, h⟩ := bind_eq_ok.mp h
  have hoptions : r.options.OfTexts :=
    Reading.readTokens_ofTexts ⟨.inl (isText_str _), .inl rfl⟩ (tokens_ofText hlist) hr
  split at h
  · cases h
    exact hoptions
  · cases h

end ContainerBundle.CommandLine
