import Mathlib
import ContainerBundle.Proofs.Conversion.Variations
import ContainerBundle.Proofs.Daemon.BareTexts
import ContainerBundle.Proofs.Json.Typed
/-!
# Bundles from other templates

The template of capabilities that the daemon reports decides about the capabilities of a bundle
alone: a list of texts makes no conversion fail, and everything else of the two descriptors is the
same. So a bare text in the place of a list of the daemon's answers changes nothing, except for
the template, where the container is granted the characters of the text.
-/
namespace ContainerBundle

open Json

namespace Capability

private theorem clears_texts (drop : List String) :
    clears (drop.map .str) = .ok (drop.any isAll) := by
  induction drop with
  | nil => rfl
  | cons name rest ih =>
    have hname : text .trimming (.str name) = .ok name := rfl
    rw [List.map_cons, clears, hname, ok_bind, List.any_cons]
    by_cases hall : isAll name
    · rw [if_pos hall, hall]
      rfl
    · rw [if_neg hall, ih, Bool.eq_false_iff.mpr hall]
      rfl

private theorem templateNames_texts (template : List String) :
    templateNames (.arr (template.map .str)) = .ok template := by
  rw [templateNames]
  cases template with
  | nil => rfl
  | cons name rest => exact mapM_text .trimming (name :: rest)

private theorem grant_of_cleared (template add drop : List String) (privileged : Bool) :
    grant (if privileged || drop.any isAll then [] else template) add drop privileged =
      grant template add drop privileged := by
  have hbaseline : baseline (if privileged || drop.any isAll then [] else template) drop
      privileged = baseline template drop privileged := by
    cases privileged <;> cases hcleared : drop.any isAll <;> simp [baseline, hcleared]
  rw [grant, grant, hbaseline]

private theorem grantFrom_texts (template : List String) (add drop : List Json)
    (privileged : Bool) :
    grantFrom (.arr (template.map .str)) add drop privileged =
      (if privileged then .ok false else clears drop) >>= fun cleared =>
        add.mapM (text .trimming) >>= fun added =>
          drop.mapM (text .trimming) >>= fun dropped =>
            .ok (grant (if privileged || cleared then [] else template) added dropped
              privileged) := by
  rw [grantFrom, templateNames_texts]
  cases privileged with
  | true => rfl
  | false =>
    cases clears drop with
    | error fault => rfl
    | ok cleared => cases cleared <;> rfl

/-- Whether capabilities are granted does not depend on the template. -/
private theorem grantFrom_agree (template other : List String) (add drop : List Json)
    (privileged : Bool) :
    Agree (fun granted granted' => ∃ added dropped : List String,
        add = added.map .str ∧ drop = dropped.map .str ∧
        granted = grant template added dropped privileged ∧
        granted' = grant other added dropped privileged)
      (grantFrom (.arr (template.map .str)) add drop privileged)
      (grantFrom (.arr (other.map .str)) add drop privileged) := by
  rw [grantFrom_texts, grantFrom_texts]
  refine Agree.bind_held _ fun cleared hcleared => ?_
  refine Agree.bind_held _ fun added hadded => ?_
  refine Agree.bind_held _ fun dropped hdropped => ?_
  obtain rfl : drop = dropped.map .str := texts_of_mapM hdropped
  have hcases : (privileged || cleared) = (privileged || dropped.any isAll) := by
    cases privileged with
    | true => rfl
    | false =>
      rw [if_neg Bool.false_ne_true, clears_texts] at hcleared
      rw [Except.ok.inj hcleared]
  rw [hcases]
  exact .held ⟨added, dropped, texts_of_mapM hadded, rfl, grant_of_cleared .., grant_of_cleared ..⟩

end Capability

variable {view : HostView} {s : Snapshot} {info : DaemonInfo} {hooks : HookSource}
variable {rootfs peers : Json}

/-- Bundles of one container that differ in the capabilities granted from two templates. -/
structure Bundle.Regranted (s : Snapshot) (template template' : List String)
    (bundle other : Bundle) : Prop where
  config : other.config = bundle.config
  runtime : ∃ added dropped : List String,
    s.capAdd = added.map .str ∧ s.capDrop = dropped.map .str ∧
    bundle.runtime.linux.capabilities =
      (Capability.grant template added dropped s.privileged).map .str ∧
    other.runtime = { bundle.runtime with linux := { bundle.runtime.linux with
      capabilities := (Capability.grant template' added dropped s.privileged).map .str } }

private theorem generate_of_templates {template : List String} (template' : List String)
    (hinfo : info.defaultCapabilities = template.map .str) :
    Agree (Bundle.Regranted s template template') (generate view s info hooks rootfs peers).outcome
      (generate view s { info with defaultCapabilities := template'.map .str } hooks rootfs
        peers).outcome := by
  have hconfig (list : List Json) :
      Conversion.config view.files s { info with defaultCapabilities := list } rootfs =
        Conversion.config view.files s info rootfs := rfl
  simp only [generate, Traced.outcome_bind, hconfig, hinfo, Traced.liftM_eq_ofExcept,
    Traced.ofExcept_outcome]
  refine Agree.bind_same _ fun hooks => ?_
  refine (Capability.grantFrom_agree template template' _ _ _).bind fun _ _ hgrants => ?_
  obtain ⟨added, dropped, hadd, hdrop, rfl, rfl⟩ := hgrants
  refine Agree.bind_same _ fun config => ?_
  have hsame : s.Varies (MountsVary False) (UlimitsVary False) s :=
    ⟨.refl not_false s.mounts, .refl not_false s.ulimits, rfl⟩
  refine (Conversion.runtime_varies hsame _ _ _).bind fun runtime other hruntime => ?_
  obtain ⟨hcapabilities, limits, rfl, hlimits⟩ := hruntime
  rw [hlimits.mpr not_false]
  exact .held ⟨rfl, added, dropped, hadd, hdrop, hcapabilities, rfl⟩

def bundleOfAnswers (view : HostView) (container daemon : Json) (hooks : HookSource)
    (rootfs peers : Json) : Traced Bundle := do
  let s ← Snapshot.ofInspect container
  let info ← DaemonInfo.ofInfo daemon
  generate view s info hooks rootfs peers

/-- A bare text is read as the list of it alone in every list of texts. In the place of the template
it is read as the list of its characters, and the bundle differs in the capabilities that are
granted from it. -/
theorem bare_text_converted_as_list (text : String) (view : HostView) (hooks : HookSource)
    (rootfs peers : Json) :
    (∀ route ∈ Snapshot.textLists, ∀ v w i, DiffersAt (Enlisted text) route v w →
      Snapshot.ofInspect v = Snapshot.ofInspect w ∧
      bundleOfAnswers view v i hooks rootfs peers = bundleOfAnswers view w i hooks rootfs peers) ∧
    (∀ v i j, DiffersAt (Enlisted text) [.member "SecurityOptions"] i j →
      DaemonInfo.ofInfo i = DaemonInfo.ofInfo j ∧
      bundleOfAnswers view v i hooks rootfs peers = bundleOfAnswers view v j hooks rootfs peers) ∧
    (∀ v i j, text ≠ "" → DiffersAt (Enlisted text) [.member "DefaultCapabilities"] i j →
      Agree (fun info other => info.defaultCapabilities = (characters text).map .str ∧
          other = { info with defaultCapabilities := [.str text] } ∧
          (info = other ↔ text.length = 1))
        (DaemonInfo.ofInfo i) (DaemonInfo.ofInfo j) ∧
      Agree (fun bundle other => ∃ s, Snapshot.ofInspect v = .ok s ∧
          Bundle.Regranted s (characters text) [text] bundle other)
        (bundleOfAnswers view v i hooks rootfs peers).outcome
        (bundleOfAnswers view v j hooks rootfs peers).outcome) := by
  refine ⟨fun route hroute v w i h => ?_, fun v i j h => ?_, fun v i j htext h => ⟨?_, ?_⟩⟩
  · have hread : Snapshot.ofInspect v = Snapshot.ofInspect w :=
      Snapshot.ofInspect_of_enlisted hroute h
    exact ⟨hread, by rw [bundleOfAnswers, bundleOfAnswers, hread]⟩
  · have hread : DaemonInfo.ofInfo i = DaemonInfo.ofInfo j :=
      DaemonInfo.ofInfo_of_enlisted_options h
    exact ⟨hread, by rw [bundleOfAnswers, bundleOfAnswers, hread]⟩
  · refine (DaemonInfo.ofInfo_of_enlisted_template htext h).mono fun info other hinfo => ?_
    obtain ⟨hcharacters, rfl⟩ := hinfo
    refine ⟨hcharacters, rfl, Iff.trans ⟨fun heq => ?_, fun hone => ?_⟩ characters_eq_iff⟩
    · have hlist : (characters text).map Json.str = [Json.str text] :=
        hcharacters.symm.trans (congrArg (·.defaultCapabilities) heq)
      exact List.map_injective_iff.mpr (fun _ _ => Json.str.inj) hlist
    · have hlist : info.defaultCapabilities = [.str text] := by rw [hcharacters, hone]; rfl
      rw [← hlist]
  · simp only [bundleOfAnswers, Traced.outcome_bind, Traced.liftM_eq_ofExcept,
      Traced.ofExcept_outcome]
    refine Agree.bind_held _ fun s hs => ?_
    refine (DaemonInfo.ofInfo_of_enlisted_template htext h).bind fun info other hinfo => ?_
    obtain ⟨hcharacters, rfl⟩ := hinfo
    refine (generate_of_templates [text] hcharacters).mono fun bundle other hbundle => ?_
    exact ⟨s, hs, hbundle⟩

theorem bare_text_converted_as_list_of_shell :
    let container (cmd : Json) : Json :=
      .obj [("Id", .str "web"), ("Config", .obj [("Cmd", cmd)]), ("HostConfig", .obj [])]
    let daemon (template : Json) : Json := .obj [("DefaultCapabilities", template)]
    Snapshot.ofInspect (container (.str "sh")) = Snapshot.ofInspect (container (.arr [.str "sh"])) ∧
    ∃ info other, DaemonInfo.ofInfo (daemon (.str "sh")) = .ok info ∧
      DaemonInfo.ofInfo (daemon (.arr [.str "sh"])) = .ok other ∧
      info.defaultCapabilities = [.str "s", .str "h"] ∧ info ≠ other := by
  intro container daemon
  obtain ⟨hlists, -, htemplate⟩ := bare_text_converted_as_list "sh"
    ⟨fun _ => .error (.system .missing), fun _ => none⟩ (.compiled {}) .null .null
  have hcontainer : DiffersAt (Enlisted "sh") [.member "Config", .member "Cmd"]
      (container (.str "sh")) (container (.arr [.str "sh"])) :=
    .member rfl (.member rfl (.here ⟨rfl, rfl⟩))
  have hdaemon : DiffersAt (Enlisted "sh") [.member "DefaultCapabilities"] (daemon (.str "sh"))
      (daemon (.arr [.str "sh"])) := .member rfl (.here ⟨rfl, rfl⟩)
  obtain ⟨hread, -⟩ := hlists _ (by decide) _ _ .null hcontainer
  obtain ⟨hinfo, -⟩ := htemplate .null _ _ (by decide) hdaemon
  obtain ⟨info, hbare⟩ : ∃ info, DaemonInfo.ofInfo (daemon (.str "sh")) = .ok info := ⟨_, rfl⟩
  obtain ⟨other, hlist, hcharacters, -, hsame⟩ := hinfo.exists_of_ok hbare
  refine ⟨hread, info, other, hbare, hlist, hcharacters, fun heq => ?_⟩
  exact absurd (hsame.mp heq) (by decide)

/-- A template that is a bare text is not the one that lists it. -/
theorem template_of_bare_text :
    let daemon (template : Json) : Json := .obj [("DefaultCapabilities", template)]
    ∃ info other, DaemonInfo.ofInfo (daemon (.str "ALL")) = .ok info ∧
      DaemonInfo.ofInfo (daemon (.arr [.str "ALL"])) = .ok other ∧
      info.defaultCapabilities = [.str "A", .str "L", .str "L"] ∧
      other.defaultCapabilities = [.str "ALL"] :=
  ⟨_, _, rfl, rfl, rfl, rfl⟩

end ContainerBundle
