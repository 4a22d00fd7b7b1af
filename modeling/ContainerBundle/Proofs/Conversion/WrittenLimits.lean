import Mathlib.Data.List.Nodup
import ContainerBundle.Proofs.Conversion.Privilege
import ContainerBundle.Proofs.Json.Rearranging
import ContainerBundle.Proofs.Json.Typed
/-!
# Limits as they are written

Each limit of a host configuration has its member in a group of resources. It is written there with
its own value when that value sets it, and a group is written when one of its limits is. No limit
depends on another.
-/
namespace ContainerBundle

open Json

inductive LimitGroup
  | memory
  | cpu
  | blockIo
  | pids
  deriving DecidableEq

def LimitGroup.field : LimitGroup → String
  | memory => "memory"
  | cpu => "cpu"
  | blockIo => "blockIO"
  | pids => "pids"

inductive Limit
  | memory
  | memoryReservation
  | memorySwap
  | kernelMemory
  | memorySwappiness
  | cpuShares
  | cpuQuota
  | cpuPeriod
  | cpusetCpus
  | cpusetMems
  | blkioWeight
  | pidsLimit
  deriving DecidableEq

namespace Limit

def all : List Limit :=
  [memory, memoryReservation, memorySwap, kernelMemory, memorySwappiness, cpuShares, cpuQuota,
   cpuPeriod, cpusetCpus, cpusetMems, blkioWeight, pidsLimit]

def source : Limit → String
  | memory => "Memory"
  | memoryReservation => "MemoryReservation"
  | memorySwap => "MemorySwap"
  | kernelMemory => "KernelMemory"
  | memorySwappiness => "MemorySwappiness"
  | cpuShares => "CpuShares"
  | cpuQuota => "CpuQuota"
  | cpuPeriod => "CpuPeriod"
  | cpusetCpus => "CpusetCpus"
  | cpusetMems => "CpusetMems"
  | blkioWeight => "BlkioWeight"
  | pidsLimit => "PidsLimit"

def group : Limit → LimitGroup
  | memory | memoryReservation | memorySwap | kernelMemory | memorySwappiness => .memory
  | cpuShares | cpuQuota | cpuPeriod | cpusetCpus | cpusetMems => .cpu
  | blkioWeight => .blockIo
  | pidsLimit => .pids

def field : Limit → String
  | memory => "limit"
  | memoryReservation => "reservation"
  | memorySwap => "swap"
  | kernelMemory => "kernel"
  | memorySwappiness => "swappiness"
  | cpuShares => "shares"
  | cpuQuota => "quota"
  | cpuPeriod => "period"
  | cpusetCpus => "cpus"
  | cpusetMems => "mems"
  | blkioWeight => "blkioWeight"
  | pidsLimit => "limit"

def Admits : Limit → Json → Prop
  | cpusetCpus | cpusetMems => Optional IsText
  | _ => Optional IsInteger

/-- An integer above zero, a swappiness from 0 to 100, a set that is not empty. -/
def SetBy : Limit → Json → Prop
  | cpusetCpus | cpusetMems => fun v => ∃ s : String, v = .str s ∧ s ≠ ""
  | memorySwappiness => fun v => ∃ n : Int, v = .int n ∧ 0 ≤ n ∧ n ≤ 100
  | _ => fun v => ∃ n : Int, v = .int n ∧ 0 < n

def given (limit : Limit) (host : List (String × Json)) : Json :=
  (find? limit.source host).getD .null

theorem mem_all (limit : Limit) : limit ∈ all := by cases limit <;> decide

private theorem source_injective : Function.Injective source := by
  intro limit other h
  exact List.inj_on_of_nodup_map (by decide : (all.map source).Nodup) (mem_all _) (mem_all _) h

private theorem eq_of_field {limit other : Limit} (hgroup : limit.group = other.group)
    (hfield : limit.field = other.field) : limit = other := by
  have hplaces : (all.map fun limit => (limit.group, limit.field)).Nodup := by decide
  exact List.inj_on_of_nodup_map hplaces (mem_all _) (mem_all _) (Prod.ext hgroup hfield)

theorem SetBy.above {limit : Limit} {n : Int} (h : limit.SetBy (.int n)) :
    0 < n ∨ limit = memorySwappiness ∧ n = 0 := by
  cases limit with
  | cpusetCpus => simp [SetBy] at h
  | cpusetMems => simp [SetBy] at h
  | memorySwappiness =>
    obtain ⟨m, hm, hlow, -⟩ := h
    obtain rfl := Json.int.inj hm
    rcases Int.lt_or_eq_of_le hlow with hpos | hzero
    · exact .inl hpos
    · exact .inr ⟨rfl, hzero.symm⟩
  | _ =>
    obtain ⟨m, hm, hpos⟩ := h
    obtain rfl := Json.int.inj hm
    exact .inl hpos

/-- What a value comes to: itself when it sets the limit, null when it does not. -/
def Leaves (limit : Limit) (v w : Json) : Prop :=
  (limit.SetBy v ∧ w = v) ∨ (¬ limit.SetBy v ∧ w = .null)

private theorem SetBy.ne_null {limit : Limit} {v : Json} (h : limit.SetBy v) : v ≠ .null := by
  rintro rfl
  cases limit <;> simp [SetBy] at h

private theorem Leaves.set_iff {limit : Limit} {v w x : Json} (h : limit.Leaves v w) :
    w = x ∧ x ≠ .null ↔ v = x ∧ limit.SetBy x := by
  rcases h with ⟨hset, rfl⟩ | ⟨hunset, rfl⟩
  · constructor
    · rintro ⟨rfl, -⟩
      exact ⟨rfl, hset⟩
    · rintro ⟨rfl, -⟩
      exact ⟨rfl, hset.ne_null⟩
  · constructor
    · rintro ⟨rfl, hx⟩
      exact absurd rfl hx
    · rintro ⟨rfl, hset⟩
      exact absurd hset hunset

end Limit

def LimitGroup.limits (group : LimitGroup) : List Limit :=
  Limit.all.filter fun limit => limit.group = group

private theorem LimitGroup.mem_limits {group : LimitGroup} {limit : Limit} :
    limit ∈ group.limits ↔ limit.group = group := by
  simp [limits, limit.mem_all]

namespace Descriptor

variable {members : List (String × Json)} {key : String} {v : Json}

def member? (v : Json) (key : String) : Option Json :=
  match v with
  | .obj members => find? key members
  | _ => none

theorem isNull_iff : v.isNull ↔ v = .null := by cases v <;> simp [isNull]

private theorem member?_record_iff (hkeys : (members.map Prod.fst).Nodup) :
    member? (record members) key = some v ↔ (key, v) ∈ members ∧ v ≠ .null := by
  have hkept : ((members.filter fun m => !m.2.isNull).map Prod.fst).Nodup :=
    hkeys.sublist (List.filter_sublist.map _)
  rw [record, member?, find?_eq_some_iff hkept, List.mem_filter]
  simp [← isNull_iff]

def Resources.writtenGroup (r : Resources) (group : LimitGroup) : Option Json :=
  member? r.toJson group.field

def Resources.writtenLimit (r : Resources) (limit : Limit) : Option Json :=
  (r.writtenGroup limit.group).bind (member? · limit.field)

end Descriptor

namespace Conversion

open Descriptor

variable {host : List (String × Json)} {limit : Limit} {group : LimitGroup} {v : Json}

private theorem positive_leaves (hadmits : limit.Admits = Optional IsInteger)
    (hset : ∀ v, limit.SetBy v ↔ ∃ n : Int, v = .int n ∧ 0 < n) (h : limit.Admits v) :
    ∃ w, positive v = .ok w ∧ limit.Leaves v w := by
  rw [hadmits] at h
  rcases h with rfl | ⟨n, rfl⟩
  · exact ⟨.null, rfl, .inr ⟨by simp [hset], rfl⟩⟩
  · by_cases hn : n ≤ 0
    · refine ⟨.null, ?_, .inr ⟨?_, rfl⟩⟩
      · simp [positive, atMost?, hn]
      · simpa [hset] using hn
    · refine ⟨.int n, ?_, .inl ⟨?_, rfl⟩⟩
      · simp [positive, atMost?, hn]
      · simpa [hset] using hn

private theorem swappiness_leaves (h : Limit.memorySwappiness.Admits v) :
    ∃ w, swappiness v = .ok w ∧ Limit.memorySwappiness.Leaves v w := by
  rcases h with rfl | ⟨n, rfl⟩
  · exact ⟨.null, rfl, .inr ⟨by simp [Limit.SetBy], rfl⟩⟩
  · by_cases hn : 0 ≤ n ∧ n ≤ 100
    · refine ⟨.int n, ?_, .inl ⟨⟨n, rfl, hn⟩, rfl⟩⟩
      simp [swappiness, atMost?, atLeast?, hn]
    · refine ⟨.null, ?_, .inr ⟨?_, rfl⟩⟩
      · simp [swappiness, atMost?, atLeast?, hn]
      · simpa [Limit.SetBy] using hn

private theorem whenGiven_leaves (hset : ∀ v, limit.SetBy v ↔ ∃ s : String, v = .str s ∧ s ≠ "")
    (h : Optional IsText v) : limit.Leaves v (whenGiven (v.orElse void)) := by
  rcases h with rfl | ⟨s, rfl⟩
  · exact .inr ⟨by simp [hset], rfl⟩
  · by_cases hs : s = ""
    · subst hs
      exact .inr ⟨by simp [hset], rfl⟩
    · refine .inl ⟨by simpa [hset] using hs, ?_⟩
      simp [whenGiven, orElse, isVoid, hs]

def convertGiven : Limit → Json → Except Fault Json
  | .cpusetCpus | .cpusetMems => fun v => .ok (whenGiven (v.orElse void))
  | .memorySwappiness => swappiness
  | _ => positive

private theorem convertGiven_leaves (h : limit.Admits v) :
    ∃ w, convertGiven limit v = .ok w ∧ limit.Leaves v w := by
  cases limit with
  | cpusetCpus => exact ⟨_, rfl, whenGiven_leaves (fun _ => Iff.rfl) h⟩
  | cpusetMems => exact ⟨_, rfl, whenGiven_leaves (fun _ => Iff.rfl) h⟩
  | memorySwappiness => exact swappiness_leaves h
  | _ => exact positive_leaves rfl (fun _ => Iff.rfl) h

def convertRead (limits : ResourceLimits) : Limit → Except Fault Json
  | .memory => positive limits.memory
  | .memoryReservation => positive limits.memoryReservation
  | .memorySwap => positive limits.memorySwap
  | .kernelMemory => positive limits.kernelMemory
  | .memorySwappiness => swappiness limits.memorySwappiness
  | .cpuShares => positive limits.cpuShares
  | .cpuQuota => positive limits.cpuQuota
  | .cpuPeriod => positive limits.cpuPeriod
  | .cpusetCpus => .ok (whenGiven limits.cpusetCpus)
  | .cpusetMems => .ok (whenGiven limits.cpusetMems)
  | .blkioWeight => positive limits.blkioWeight
  | .pidsLimit => positive limits.pidsLimit

private theorem exists_limits (host : List (String × Json)) :
    ∃ limits, ResourceLimits.ofHostConfig (.obj host) = .ok limits ∧
      ∀ limit, convertRead limits limit = convertGiven limit (limit.given host) := by
  refine ⟨_, rfl, fun limit => ?_⟩
  cases limit <;> rfl

def resourcesWith (w : Limit → Json) (rules : List DeviceRule) (killer : Option Bool) :
    Resources where
  devices := rules
  disableOomKiller := killer
  memory := unlessUnset Memory.members
    { limit := w .memory, reservation := w .memoryReservation, swap := w .memorySwap
      kernel := w .kernelMemory, swappiness := w .memorySwappiness }
  cpu := unlessUnset Cpu.members
    { shares := w .cpuShares, quota := w .cpuQuota, period := w .cpuPeriod
      cpus := w .cpusetCpus, mems := w .cpusetMems }
  blockIo := unlessUnset BlockIo.members { weight := w .blkioWeight }
  pids := unlessUnset Pids.members { limit := w .pidsLimit }

/-- Every limit is converted by itself. -/
private theorem resources_of_converted {limits : ResourceLimits} {w : Limit → Json}
    (h : ∀ limit, convertRead limits limit = .ok (w limit)) :
    ∃ killer, ∀ rules, resources limits rules = .ok (resourcesWith w rules killer) := by
  have hmemory : memory limits = .ok (resourcesWith w [] none).memory := by
    have hlimit : positive limits.memory = _ := h .memory
    have hreservation : positive limits.memoryReservation = _ := h .memoryReservation
    have hswap : positive limits.memorySwap = _ := h .memorySwap
    have hkernel : positive limits.kernelMemory = _ := h .kernelMemory
    have hswappiness : swappiness limits.memorySwappiness = _ := h .memorySwappiness
    rw [memory, hlimit, hreservation, hswap, hkernel, hswappiness]
    rfl
  have hcpu : cpu limits = .ok (resourcesWith w [] none).cpu := by
    have hshares : positive limits.cpuShares = _ := h .cpuShares
    have hquota : positive limits.cpuQuota = _ := h .cpuQuota
    have hperiod : positive limits.cpuPeriod = _ := h .cpuPeriod
    have hcpus : whenGiven limits.cpusetCpus = _ := Except.ok.inj (h .cpusetCpus)
    have hmems : whenGiven limits.cpusetMems = _ := Except.ok.inj (h .cpusetMems)
    rw [cpu, hshares, hquota, hperiod, hcpus, hmems]
    rfl
  have hblockIo : blockIo limits = .ok (resourcesWith w [] none).blockIo := by
    have hweight : positive limits.blkioWeight = _ := h .blkioWeight
    rw [blockIo, hweight]
    rfl
  have hpids : pids limits = .ok (resourcesWith w [] none).pids := by
    have hlimit : positive limits.pidsLimit = _ := h .pidsLimit
    rw [pids, hlimit]
    rfl
  refine ⟨if limits.oomKillDisable.isVoid then none else some true, fun rules => ?_⟩
  rw [resources, hmemory, hcpu, hblockIo, hpids]
  rfl

def groupMembers (w : Limit → Json) (group : LimitGroup) : List (String × Json) :=
  group.limits.map fun limit => (limit.field, w limit)

variable {w : Limit → Json} {r : Resources}

private theorem mem_groupMembers : (limit.field, v) ∈ groupMembers w limit.group ↔ w limit = v := by
  simp only [groupMembers, List.mem_map, LimitGroup.mem_limits, Prod.mk.injEq]
  constructor
  · rintro ⟨other, hgroup, hfield, hvalue⟩
    rw [← Limit.eq_of_field hgroup hfield, hvalue]
  · intro hvalue
    exact ⟨limit, rfl, rfl, hvalue⟩

private theorem nodup_groupMembers (w : Limit → Json) (group : LimitGroup) :
    ((groupMembers w group).map Prod.fst).Nodup := by
  have hfields : (group.limits.map Limit.field).Nodup := by cases group <;> decide
  rw [groupMembers, List.map_map]
  exact hfields

/-- A group is null when all of its members are, and a record of them otherwise. -/
def groupValue (w : Limit → Json) (group : LimitGroup) : Json :=
  if (groupMembers w group).all (·.2.isNull) then .null else record (groupMembers w group)

theorem written_unlessUnset {α : Type} (members : α → List (String × Json)) (a : α)
    (h : members a = groupMembers w group) :
    Json.ofOption ((unlessUnset members a).map fun a => record (members a)) =
      groupValue w group := by
  rw [groupValue, ← h, unlessUnset]
  by_cases hunset : (members a).all (·.2.isNull)
  · rw [if_pos hunset, if_pos hunset]
    rfl
  · rw [if_neg hunset, if_neg hunset]
    rfl

variable {rules : List DeviceRule} {killer : Option Bool}

private theorem mem_members : (group.field, v) ∈ (resourcesWith w rules killer).members ↔
    v = groupValue w group := by
  have hmemory : Json.ofOption ((resourcesWith w rules killer).memory.map Memory.toJson) =
      groupValue w .memory := written_unlessUnset Memory.members _ rfl
  have hcpu : Json.ofOption ((resourcesWith w rules killer).cpu.map Cpu.toJson) =
      groupValue w .cpu := written_unlessUnset Cpu.members _ rfl
  have hblockIo : Json.ofOption ((resourcesWith w rules killer).blockIo.map BlockIo.toJson) =
      groupValue w .blockIo := written_unlessUnset BlockIo.members _ rfl
  have hpids : Json.ofOption ((resourcesWith w rules killer).pids.map Pids.toJson) =
      groupValue w .pids := written_unlessUnset Pids.members _ rfl
  rw [Resources.members, hmemory, hcpu, hblockIo, hpids]
  cases group <;> simp [LimitGroup.field]

private theorem writtenGroup_iff : (resourcesWith w rules killer).writtenGroup group = some v ↔
    v = groupValue w group ∧ v ≠ .null := by
  rw [Resources.writtenGroup, Resources.toJson, member?_record_iff (by simp [Resources.members]),
    mem_members]

private theorem writtenGroup_cases (w : Limit → Json) (rules : List DeviceRule)
    (killer : Option Bool)
    (group : LimitGroup) :
    ((resourcesWith w rules killer).writtenGroup group = none ∧
      ∀ limit : Limit, limit.group = group → w limit = .null) ∨
    ((resourcesWith w rules killer).writtenGroup group = some (record (groupMembers w group)) ∧
      ∃ limit : Limit, limit.group = group ∧ w limit ≠ .null) := by
  have hall : (groupMembers w group).all (·.2.isNull) ↔
      ∀ limit : Limit, limit.group = group → w limit = .null := by
    simp [groupMembers, LimitGroup.mem_limits, isNull_iff]
  by_cases hunset : (groupMembers w group).all (·.2.isNull)
  · refine .inl ⟨?_, hall.mp hunset⟩
    rw [Option.eq_none_iff_forall_ne_some]
    intro v hv
    obtain ⟨hvalue, hset⟩ := writtenGroup_iff.mp hv
    exact hset (hvalue.trans (if_pos hunset))
  · refine .inr ⟨writtenGroup_iff.mpr ⟨(if_neg hunset).symm, by simp [record]⟩, ?_⟩
    simpa [hall] using hunset

private theorem writtenLimit_iff : (resourcesWith w rules killer).writtenLimit limit = some v ↔
    w limit = v ∧ v ≠ .null := by
  rw [Resources.writtenLimit]
  rcases writtenGroup_cases w rules killer limit.group with ⟨hgroup, hunset⟩ | ⟨hgroup, -⟩
  · rw [hgroup, hunset limit rfl]
    simp [eq_comm]
  · rw [hgroup, Option.bind_some, member?_record_iff (nodup_groupMembers w limit.group),
      mem_groupMembers]

private theorem isSome_writtenLimit_iff :
    ((resourcesWith w rules killer).writtenLimit limit).isSome ↔
    w limit ≠ .null := by
  simp [Option.isSome_iff_exists, writtenLimit_iff]

/-- The limits that a host configuration sets are written, with their own values. A group is written
when one of its limits is, and holds nothing else. -/
structure CarriesLimits (host : List (String × Json)) (r : Resources) : Prop where
  carried : ∀ limit : Limit, ∀ v,
    r.writtenLimit limit = some v ↔ limit.given host = v ∧ limit.SetBy v
  grouped : ∀ group : LimitGroup, (r.writtenGroup group).isSome ↔
    ∃ limit : Limit, limit.group = group ∧ (r.writtenLimit limit).isSome
  only : ∀ group : LimitGroup, ∀ v, r.writtenGroup group = some v →
    ∃ members, v = .obj members ∧ members ≠ [] ∧ ∀ m ∈ members, ∃ limit : Limit,
      limit.group = group ∧ limit.field = m.1 ∧ r.writtenLimit limit = some m.2
  above : ∀ limit : Limit, ∀ n : Int, r.writtenLimit limit = some (.int n) →
    0 < n ∨ limit = .memorySwappiness ∧ n = 0

private theorem carriesLimits_of_leaves
    (h : ∀ limit : Limit, limit.Leaves (limit.given host) (w limit)) :
    CarriesLimits host (resourcesWith w rules killer) := by
  have hcarried : ∀ limit : Limit, ∀ v, (resourcesWith w rules killer).writtenLimit limit = some v ↔
      limit.given host = v ∧ limit.SetBy v :=
    fun limit v => writtenLimit_iff.trans (h limit).set_iff
  constructor
  case carried => exact hcarried
  case grouped =>
    intro group
    simp only [isSome_writtenLimit_iff]
    rcases writtenGroup_cases w rules killer group with ⟨hgroup, hunset⟩ | ⟨hgroup, hset⟩
    · simpa [hgroup] using hunset
    · simpa [hgroup] using hset
  case only =>
    intro group v hv
    rcases writtenGroup_cases w rules killer group with ⟨hgroup, -⟩ | ⟨hgroup, limit, hin, hset⟩
    · rw [hgroup] at hv
      cases hv
    · rw [hgroup, Option.some.injEq] at hv
      refine ⟨_, hv.symm, ?_, ?_⟩
      · have hkept : (w limit).isNull = false := Bool.eq_false_iff.mpr (mt isNull_iff.mp hset)
        apply List.ne_nil_of_mem (a := (limit.field, w limit))
        rw [← hin]
        simp [mem_groupMembers, hkept]
      · intro m hm
        obtain ⟨hmem, hkept⟩ := List.mem_filter.mp hm
        obtain ⟨other, hother, rfl⟩ := List.mem_map.mp hmem
        refine ⟨other, LimitGroup.mem_limits.mp hother, rfl, writtenLimit_iff.mpr ⟨rfl, ?_⟩⟩
        simpa [← isNull_iff] using hkept
  case above =>
    intro limit n hn
    exact Limit.SetBy.above ((hcarried limit _).mp hn).2

private theorem limits_of_given (h : ∀ limit : Limit, limit.Admits (limit.given host)) :
    ∃ limits, ResourceLimits.ofHostConfig (.obj host) = .ok limits ∧
      ∀ rules, ∃ r, resources limits rules = .ok r ∧ CarriesLimits host r := by
  obtain ⟨limits, hlimits, hrules⟩ := exists_limits host
  choose w hw using fun limit => convertGiven_leaves (h limit)
  obtain ⟨killer, hresources⟩ := resources_of_converted fun limit =>
    (hrules limit).trans (hw limit).1
  exact ⟨limits, hlimits, fun rules =>
    ⟨_, hresources rules, carriesLimits_of_leaves fun limit => (hw limit).2⟩⟩

private theorem given_put {changed : Limit} (hne : limit ≠ changed) :
    limit.given (put host changed.source v) = limit.given host := by
  rw [Limit.given, find?_put, if_neg fun h => hne (Limit.source_injective h), Limit.given]

private theorem given_put_self {changed : Limit} :
    changed.given (put host changed.source v) = v := by
  rw [Limit.given, find?_put, if_pos rfl]
  rfl

private theorem CarriesLimits.writtenLimit_eq {other : List (String × Json)} {r s : Resources}
    (hr : CarriesLimits host r) (hs : CarriesLimits other s)
    (hgiven : limit.given other = limit.given host) :
    s.writtenLimit limit = r.writtenLimit limit := by
  apply Option.ext
  intro v
  rw [hs.carried, hr.carried, hgiven]

/-- A limit is written exactly when its value sets it, in its place and as it is, and changing one
of them changes no other. -/
theorem limits_written_when_set (h : ∀ limit : Limit, limit.Admits (limit.given host))
    (rules : List DeviceRule) :
    ∃ limits r, ResourceLimits.ofHostConfig (.obj host) = .ok limits ∧
      resources limits rules = .ok r ∧ CarriesLimits host r ∧
      (∀ changed : Limit, ∀ v, changed.Admits v → ∃ limits' r',
        ResourceLimits.ofHostConfig (.obj (put host changed.source v)) = .ok limits' ∧
        resources limits' rules = .ok r' ∧ CarriesLimits (put host changed.source v) r' ∧
        ∀ limit, limit ≠ changed → r'.writtenLimit limit = r.writtenLimit limit) ∧
      ∀ stat s info capabilities peers d, s.resources = limits →
        (runtime stat s info capabilities peers).outcome = .ok d →
        CarriesLimits host d.linux.resources := by
  obtain ⟨limits, hlimits, hresources⟩ := limits_of_given h
  obtain ⟨r, hr, hcarries⟩ := hresources rules
  refine ⟨limits, r, hlimits, hr, hcarries, ?_, ?_⟩
  · intro changed v hv
    -- The changed configuration has its types as well, so that it sets its limits likewise.
    have hchanged : ∀ limit : Limit, limit.Admits (limit.given (put host changed.source v)) := by
      intro limit
      by_cases hlimit : limit = changed
      · rw [hlimit, given_put_self]
        exact hv
      · rw [given_put hlimit]
        exact h limit
    obtain ⟨limits', hlimits', hresources'⟩ := limits_of_given hchanged
    obtain ⟨r', hr', hcarries'⟩ := hresources' rules
    exact ⟨limits', r', hlimits', hr', hcarries', fun limit hne =>
      hcarries.writtenLimit_eq hcarries' (given_put hne)⟩
  · intro stat s info capabilities peers d hs hd
    obtain ⟨plan, list, -, -, -, -, hown, -⟩ := steps_of_runtime hd
    obtain ⟨r', hr', hcarries'⟩ := hresources list.2
    rw [hs, hr', Except.ok.injEq] at hown
    rw [← hown]
    exact hcarries'

theorem limits_written_when_set_of_mixed :
    let host : List (String × Json) :=
      [("Memory", .int 1024), ("MemorySwap", .int (-1)), ("MemorySwappiness", .int 0),
       ("CpuShares", .int 0), ("CpusetCpus", .str ""), ("PidsLimit", .null)]
    ∃ limits r, ResourceLimits.ofHostConfig (.obj host) = .ok limits ∧
      resources limits [] = .ok r ∧ CarriesLimits host r ∧
      r.writtenGroup .memory = some (.obj [("limit", .int 1024), ("swappiness", .int 0)]) ∧
      r.writtenGroup .cpu = none ∧ r.writtenGroup .blockIo = none ∧
      r.writtenGroup .pids = none := by
  intro host
  have hadmits : ∀ limit : Limit, limit.Admits (limit.given host) := by
    intro limit
    cases limit with
    | memory => exact .inr ⟨1024, rfl⟩
    | memorySwap => exact .inr ⟨-1, rfl⟩
    | memorySwappiness => exact .inr ⟨0, rfl⟩
    | cpuShares => exact .inr ⟨0, rfl⟩
    | cpusetCpus => exact .inr ⟨"", rfl⟩
    | _ => exact .inl rfl
  obtain ⟨limits, r, hlimits, hr, hcarries, -, -⟩ := limits_written_when_set hadmits []
  refine ⟨limits, r, hlimits, hr, hcarries, ?_⟩
  cases hlimits
  cases hr
  exact ⟨rfl, rfl, rfl, rfl⟩

end Conversion

end ContainerBundle
