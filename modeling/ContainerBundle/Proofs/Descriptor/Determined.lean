import ContainerBundle.Proofs.Descriptor.Declared
/-!
# Texts that determine descriptors

Two descriptors of the declared types with one text are the same descriptor. Records drop their
unset members, but the members of a record have fixed and distinct names, so that an unset member
is told from every value.
-/
namespace ContainerBundle.Descriptor

open Json Function

/-- Dropping the unset members of two records with the same distinct names loses nothing. -/
private theorem record_inj {a b : List (String × Json)} (hkeys : a.map Prod.fst = b.map Prod.fst)
    (hnodup : (a.map Prod.fst).Nodup) (h : record a = record b) : a = b := by
  rw [record, record, obj.injEq] at h
  induction a generalizing b with
  | nil => exact (List.map_eq_nil_iff.mp hkeys.symm).symm
  | cons m rest ih =>
    cases b with
    | nil => simp at hkeys
    | cons n others =>
      obtain ⟨key, v⟩ := m
      obtain ⟨key', w⟩ := n
      simp only [List.map_cons, List.cons.injEq] at hkeys
      obtain ⟨rfl, hrest⟩ := hkeys
      obtain ⟨hfresh, hnodup⟩ := List.nodup_cons.mp hnodup
      -- A member that is set in one record only would have to stand further on in the other.
      have hset : ∀ {u : Json} {left right : List (String × Json)}, key ∉ right.map Prod.fst →
          (key, u) :: left ≠ right.filter (fun m => !m.2.isNull) := by
        intro u left right hnot heq
        have hmem : (key, u) ∈ right.filter (fun m => !m.2.isNull) := by simp [← heq]
        exact hnot (List.mem_map.mpr ⟨(key, u), (List.mem_filter.mp hmem).1, rfl⟩)
      cases hv : v.isNull <;> cases hw : w.isNull <;>
        simp only [List.filter_cons, hv, hw, Bool.not_true, Bool.not_false, if_true, if_false,
          Bool.false_eq_true] at h
      · rw [List.cons.injEq] at h
        rw [h.1, ih hrest hnodup h.2]
      · exact absurd h (hset (hrest ▸ hfresh))
      · exact absurd h.symm (hset hfresh)
      · have hnull : ∀ {u : Json}, u.isNull = true → u = null := by
          intro u hu
          cases u <;> simp [isNull] at hu ⊢
        rw [hnull hv, hnull hw, ih hrest hnodup h]

theorem record_injective {members : α → List (String × Json)} (keys : List String)
    (hkeys : ∀ a, (members a).map Prod.fst = keys) (hnodup : keys.Nodup)
    (hmembers : Injective members) :
    Injective (fun a => record (members a)) := by
  intro a b h
  apply hmembers
  exact record_inj ((hkeys a).trans (hkeys b).symm) (by rw [hkeys]; exact hnodup) h

theorem record_ne_null (members : List (String × Json)) : record members ≠ null := by
  simp [record]

theorem arr_map_injective {f : α → Json} (hf : Injective f) :
    Injective (fun items : List α => Json.arr (items.map f)) := by
  intro items others h
  exact (List.map_inj_right (fun _ _ h => hf h)).mp (arr.inj h)

private theorem texts_injective : Injective texts := arr_map_injective (fun _ _ => str.inj)

theorem ofOption_map_inj {f : α → Json} (hf : Injective f) (hnull : ∀ a, f a ≠ null)
    {o p : Option α} : Json.ofOption (o.map f) = .ofOption (p.map f) ↔ o = p := by
  constructor
  · intro h
    cases o with
    | none =>
      cases p with
      | none => rfl
      | some b => exact absurd h.symm (hnull b)
    | some a =>
      cases p with
      | none => exact absurd h (hnull a)
      | some b => exact congrArg some (hf h)
  · rintro rfl
    rfl

private theorem ofText?_inj {o p : Option String} : Json.ofText? o = .ofText? p ↔ o = p := by
  cases o <;> cases p <;> simp [ofText?]

private theorem number?_inj {o p : Option Int} : number? o = number? p ↔ o = p :=
  ofOption_map_inj (fun _ _ => int.inj) (by simp)

private theorem flag?_inj {o p : Option Bool} :
    Json.ofOption (o.map Json.bool) = .ofOption (p.map Json.bool) ↔ o = p :=
  ofOption_map_inj (fun _ _ => bool.inj) (by simp)

theorem Platform.toJson_injective : Injective Platform.toJson :=
  record_injective ["os", "arch"] (fun _ => rfl) (by decide)
    (by rintro ⟨⟩ ⟨⟩ h; simpa [members] using h)

theorem User.toJson_injective : Injective User.toJson := by
  refine record_injective ["uid", "gid", "additionalGids"] (fun _ => rfl) (by decide) ?_
  rintro ⟨⟩ ⟨⟩ h
  have hgids : Injective (fun gids : List Int => Json.arr (gids.map Json.int)) :=
    arr_map_injective (fun _ _ => int.inj)
  simpa [members, ofOption_map_inj hgids] using h

theorem Process.toJson_injective : Injective Process.toJson := by
  refine record_injective ["terminal", "user", "args", "env", "cwd", "noNewPrivileges"]
    (fun _ => rfl) (by decide) ?_
  rintro ⟨⟩ ⟨⟩ h
  simpa [members, User.toJson_injective.eq_iff, texts_injective.eq_iff, flag?_inj] using h

theorem Root.toJson_injective : Injective Root.toJson :=
  record_injective ["path", "readonly"] (fun _ => rfl) (by decide)
    (by rintro ⟨⟩ ⟨⟩ h; simpa [members] using h)

theorem Mount.toJson_injective : Injective Mount.toJson :=
  record_injective ["destination", "type", "source", "options"] (fun _ => rfl) (by decide)
    (by rintro ⟨⟩ ⟨⟩ h; simpa [members] using h)

theorem Config.toJson_injective : Injective Config.toJson := by
  refine record_injective ["version", "platform", "process", "root", "mounts"] (fun _ => rfl)
    (by decide) ?_
  rintro ⟨⟩ ⟨⟩ h
  simpa [members, Platform.toJson_injective.eq_iff, Process.toJson_injective.eq_iff,
    Root.toJson_injective.eq_iff, (arr_map_injective Mount.toJson_injective).eq_iff] using h

theorem Hook.toJson_injective : Injective Hook.toJson := by
  refine record_injective ["path", "args"] (fun _ => rfl) (by decide) ?_
  rintro ⟨⟩ ⟨⟩ h
  have hargs : Injective Json.arr := fun _ _ => arr.inj
  simpa [members, ofOption_map_inj hargs] using h

theorem Hooks.toJson_injective : Injective Hooks.toJson := by
  refine record_injective ["prestart", "poststart", "poststop"] (fun _ => rfl) (by decide) ?_
  rintro ⟨⟩ ⟨⟩ h
  simpa [members, (arr_map_injective Hook.toJson_injective).eq_iff] using h

theorem Namespace.toJson_injective : Injective Namespace.toJson :=
  record_injective ["type", "path"] (fun _ => rfl) (by decide)
    (by rintro ⟨⟩ ⟨⟩ h; simpa [members, ofText?_inj] using h)

theorem DeviceRule.toJson_injective : Injective DeviceRule.toJson :=
  record_injective ["allow", "type", "major", "minor", "access"] (fun _ => rfl) (by decide)
    (by rintro ⟨⟩ ⟨⟩ h; simpa [members, ofText?_inj, number?_inj] using h)

theorem Memory.toJson_injective : Injective Memory.toJson :=
  record_injective ["limit", "reservation", "swap", "kernel", "swappiness"] (fun _ => rfl)
    (by decide) (by rintro ⟨⟩ ⟨⟩ h; simpa [members] using h)

theorem Cpu.toJson_injective : Injective Cpu.toJson :=
  record_injective ["shares", "quota", "period", "cpus", "mems"] (fun _ => rfl)
    (by decide) (by rintro ⟨⟩ ⟨⟩ h; simpa [members] using h)

theorem BlockIo.toJson_injective : Injective BlockIo.toJson :=
  record_injective ["blkioWeight"] (fun _ => rfl) (by decide)
    (by rintro ⟨⟩ ⟨⟩ h; simpa [members] using h)

theorem Pids.toJson_injective : Injective Pids.toJson :=
  record_injective ["limit"] (fun _ => rfl) (by decide)
    (by rintro ⟨⟩ ⟨⟩ h; simpa [members] using h)

theorem Resources.toJson_injective : Injective Resources.toJson := by
  refine record_injective ["devices", "disableOOMKiller", "memory", "cpu", "blockIO", "pids"]
    (fun _ => rfl) (by decide) ?_
  rintro ⟨⟩ ⟨⟩ h
  simpa [members, flag?_inj, (arr_map_injective DeviceRule.toJson_injective).eq_iff,
    ofOption_map_inj Memory.toJson_injective (fun _ => record_ne_null _),
    ofOption_map_inj Cpu.toJson_injective (fun _ => record_ne_null _),
    ofOption_map_inj BlockIo.toJson_injective (fun _ => record_ne_null _),
    ofOption_map_inj Pids.toJson_injective (fun _ => record_ne_null _)] using h

theorem Device.toJson_injective : Injective Device.toJson :=
  record_injective ["path", "type", "major", "minor", "fileMode", "uid", "gid"] (fun _ => rfl)
    (by decide) (by rintro ⟨⟩ ⟨⟩ h; simpa [members, number?_inj] using h)

theorem Rlimit.toJson_injective : Injective Rlimit.toJson :=
  record_injective ["type", "hard", "soft"] (fun _ => rfl) (by decide)
    (by rintro ⟨⟩ ⟨⟩ h; simpa [members] using h)

theorem Linux.toJson_injective : Injective Linux.toJson := by
  refine record_injective ["capabilities", "namespaces", "resources", "devices", "rlimits",
    "sysctl", "oomScoreAdj", "maskedPaths", "readonlyPaths"] (fun _ => rfl) (by decide) ?_
  rintro ⟨⟩ ⟨⟩ h
  have hsysctl : Injective Json.obj := fun _ _ => obj.inj
  simpa [members, Resources.toJson_injective.eq_iff, ofOption_map_inj hsysctl,
    (arr_map_injective Namespace.toJson_injective).eq_iff,
    (arr_map_injective Device.toJson_injective).eq_iff,
    (arr_map_injective Rlimit.toJson_injective).eq_iff] using h

theorem Runtime.toJson_injective : Injective Runtime.toJson := by
  refine record_injective ["hostname", "hooks", "linux"] (fun _ => rfl) (by decide) ?_
  rintro ⟨⟩ ⟨⟩ h
  simpa [members, Hooks.toJson_injective.eq_iff, Linux.toJson_injective.eq_iff] using h

/-- No two descriptors of the declared types have the same text. -/
theorem render_determines (limit : Nat) :
    (∀ c d : Config, c.Declared → d.Declared → ∀ text, c.render limit = .ok text →
      (d.render limit = .ok text ↔ d = c)) ∧
    (∀ r s : Runtime, r.Declared → s.Declared → ∀ text, r.render limit = .ok text →
      (s.render limit = .ok text ↔ s = r)) := by
  constructor
  · intro c d hc hd text htext
    constructor
    · exact fun h => Config.toJson_injective (hd.integral.document_inj hc.integral h htext)
    · rintro rfl
      exact htext
  · intro r s hr hs text htext
    constructor
    · exact fun h => Runtime.toJson_injective (hs.integral.document_inj hr.integral h htext)
    · rintro rfl
      exact htext

theorem render_determines_unset :
    let config : Config := {}
    let grouped : Config := { process := { user := { additionalGids := some [] } } }
    let rules (minor : Option Int) : Runtime :=
      { linux := { resources := { devices := [{ kind := some "c", minor := minor }] } } }
    (∃ text, config.render = .ok text ∧ grouped.render ≠ .ok text) ∧
      ∃ text, (rules none).render = .ok text ∧ (rules (some 0)).render ≠ .ok text := by
  intro config grouped rules
  have hgrouped : grouped.Declared :=
    { Config.declared_default with process := ⟨by simp [grouped], isText_str _⟩ }
  have hrules : ∀ minor, (rules minor).Declared := by
    intro minor
    have hrule : ({ kind := some "c", minor := minor } : DeviceRule).Declared := ⟨Or.inl rfl⟩
    have hresources : (rules minor).linux.resources.Declared :=
      { Resources.declared_default with devices := by simpa [rules] using hrule }
    exact { Runtime.declared_default with
      linux := { Linux.declared_default with resources := hresources } }
  refine ⟨⟨config.toJson.render, rfl, fun h => ?_⟩, ⟨(rules none).toJson.render, rfl, fun h => ?_⟩⟩
  · have hsame :=
      ((render_determines _).1 config grouped Config.declared_default hgrouped _ rfl).mp h
    simp [config, grouped] at hsame
  · have hsame := ((render_determines _).2 _ _ (hrules none) (hrules (some 0)) _ rfl).mp h
    simp [rules] at hsame

end ContainerBundle.Descriptor
