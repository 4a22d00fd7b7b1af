import ContainerBundle.Descriptor.Runtime
import ContainerBundle.Proofs.Json.Typed
/-!
# Descriptors of the declared types

Where a descriptor holds raw values, each field has a declared type: a text, an integer, a list of
texts, or one of these or unset. No number of such a descriptor is a fraction.
-/
namespace ContainerBundle.Descriptor

open Json

structure Platform.Declared (p : Platform) : Prop where
  os : p.os.IsText
  arch : p.arch.IsText

structure Process.Declared (p : Process) : Prop where
  args : ∀ v ∈ p.args, v.IsText
  cwd : p.cwd.IsText

structure Root.Declared (r : Root) : Prop where
  path : r.path.IsText

structure Mount.Declared (m : Mount) : Prop where
  destination : m.destination.IsText
  kind : m.kind.IsText
  source : m.source.IsText
  options : ∀ v ∈ m.options, v.IsText

structure Config.Declared (c : Config) : Prop where
  version : c.version.IsText
  platform : c.platform.Declared
  process : c.process.Declared
  root : c.root.Declared
  mounts : ∀ m ∈ c.mounts, m.Declared

theorem Config.declared_default : ({} : Config).Declared :=
  ⟨isText_str _, ⟨isText_str _, isText_str _⟩, ⟨by simp, isText_str _⟩, ⟨isText_str _⟩, by simp⟩

structure Hook.Declared (h : Hook) : Prop where
  args : ∀ args ∈ h.args, ∀ v ∈ args, v.IsText

structure Hooks.Declared (h : Hooks) : Prop where
  prestart : ∀ hook ∈ h.prestart, hook.Declared
  poststart : ∀ hook ∈ h.poststart, hook.Declared
  poststop : ∀ hook ∈ h.poststop, hook.Declared

structure Namespace.Declared (n : Namespace) : Prop where
  kind : n.kind.IsText

structure DeviceRule.Declared (r : DeviceRule) : Prop where
  access : Optional IsText r.access

structure Memory.Declared (m : Memory) : Prop where
  limit : Optional IsInteger m.limit
  reservation : Optional IsInteger m.reservation
  swap : Optional IsInteger m.swap
  kernel : Optional IsInteger m.kernel
  swappiness : Optional IsInteger m.swappiness

structure Cpu.Declared (c : Cpu) : Prop where
  shares : Optional IsInteger c.shares
  quota : Optional IsInteger c.quota
  period : Optional IsInteger c.period
  cpus : Optional IsText c.cpus
  mems : Optional IsText c.mems

structure BlockIo.Declared (b : BlockIo) : Prop where
  weight : Optional IsInteger b.weight

structure Pids.Declared (p : Pids) : Prop where
  limit : Optional IsInteger p.limit

structure Resources.Declared (r : Resources) : Prop where
  devices : ∀ rule ∈ r.devices, rule.Declared
  memory : ∀ m ∈ r.memory, m.Declared
  cpu : ∀ c ∈ r.cpu, c.Declared
  blockIo : ∀ b ∈ r.blockIo, b.Declared
  pids : ∀ p ∈ r.pids, p.Declared

structure Device.Declared (d : Device) : Prop where
  path : d.path.IsText
  uid : Optional IsInteger d.uid
  gid : Optional IsInteger d.gid

structure Rlimit.Declared (r : Rlimit) : Prop where
  hard : r.hard.IsInteger
  soft : r.soft.IsInteger

structure Linux.Declared (l : Linux) : Prop where
  capabilities : ∀ v ∈ l.capabilities, v.IsText
  namespaces : ∀ n ∈ l.namespaces, n.Declared
  resources : l.resources.Declared
  devices : ∀ d ∈ l.devices, d.Declared
  rlimits : ∀ r ∈ l.rlimits, r.Declared
  sysctlKeys : ∀ table ∈ l.sysctl, (table.map Prod.fst).Nodup
  sysctlValues : ∀ table ∈ l.sysctl, ∀ m ∈ table, m.2.IsText
  oomScoreAdj : Optional IsInteger l.oomScoreAdj
  maskedPaths : ∀ v ∈ l.maskedPaths, v.IsText
  readonlyPaths : ∀ v ∈ l.readonlyPaths, v.IsText

structure Runtime.Declared (r : Runtime) : Prop where
  hostname : r.hostname.IsText
  hooks : r.hooks.Declared
  linux : r.linux.Declared

theorem Resources.declared_default : ({} : Resources).Declared :=
  ⟨by simp, by simp, by simp, by simp, by simp⟩

theorem Linux.declared_default : ({} : Linux).Declared :=
  ⟨by simp, by simp, Resources.declared_default, by simp, by simp, by simp, by simp, Or.inl rfl,
    by simp, by simp⟩

theorem Runtime.declared_default : ({} : Runtime).Declared :=
  ⟨isText_str _, ⟨by simp, by simp, by simp⟩, Linux.declared_default⟩

theorem integral_record {members : List (String × Json)} (h : ∀ m ∈ members, m.2.Integral) :
    (record members).Integral :=
  .obj _ (fun m hm => h m (List.mem_filter.mp hm).1)

private theorem integral_number? (n : Option Int) : (number? n).Integral :=
  .ofOption_map (fun n _ => .int n)

private theorem integral_flag? (b : Option Bool) : (ofOption (b.map Json.bool)).Integral :=
  .ofOption_map (fun b _ => .bool b)

private theorem integral_integer? {v : Json} (h : Optional IsInteger v) : v.Integral :=
  h.integral IsInteger.integral

private theorem integral_text? {v : Json} (h : Optional IsText v) : v.Integral :=
  h.integral IsText.integral

theorem Platform.Declared.integral {p : Platform} (h : p.Declared) : p.toJson.Integral :=
  integral_record (by simp [members, h.os.integral, h.arch.integral])

theorem User.integral (u : User) : u.toJson.Integral := by
  have hgids : (ofOption (u.additionalGids.map fun gids => .arr (gids.map Json.int))).Integral :=
    .ofOption_map (fun gids _ => .arr_map (fun n _ => .int n))
  exact integral_record (by simp [members, Integral.int, hgids])

theorem Process.Declared.integral {p : Process} (h : p.Declared) : p.toJson.Integral := by
  have henv : (texts p.env).Integral := .arr_map (fun s _ => .str s)
  exact integral_record (by
    simp [members, Integral.bool, User.integral, Integral.texts h.args, henv, h.cwd.integral,
      integral_flag?])

theorem Root.Declared.integral {r : Root} (h : r.Declared) : r.toJson.Integral :=
  integral_record (by simp [members, h.path.integral, Integral.bool])

theorem Mount.Declared.integral {m : Mount} (h : m.Declared) : m.toJson.Integral :=
  integral_record (by
    simp [members, h.destination.integral, h.kind.integral, h.source.integral,
      Integral.texts h.options])

theorem Config.Declared.integral {c : Config} (h : c.Declared) : c.toJson.Integral := by
  have hmounts : (Json.arr (c.mounts.map Mount.toJson)).Integral :=
    .arr_map (fun m hm => (h.mounts m hm).integral)
  exact integral_record (by
    simp [members, h.version.integral, h.platform.integral, h.process.integral, h.root.integral,
      hmounts])

theorem Hook.Declared.integral {k : Hook} (h : k.Declared) : k.toJson.Integral := by
  have hargs : (ofOption (k.args.map Json.arr)).Integral :=
    .ofOption_map (fun args hargs => .texts (h.args args hargs))
  exact integral_record (by simp [members, Integral.str, hargs])

theorem Hooks.Declared.integral {k : Hooks} (h : k.Declared) : k.toJson.Integral := by
  have hphase : ∀ hooks : List Hook, (∀ hook ∈ hooks, hook.Declared) →
      (Json.arr (hooks.map Hook.toJson)).Integral :=
    fun hooks hh => .arr_map (fun hook hhook => (hh hook hhook).integral)
  exact integral_record (by
    simp [members, hphase _ h.prestart, hphase _ h.poststart, hphase _ h.poststop])

theorem Namespace.Declared.integral {n : Namespace} (h : n.Declared) : n.toJson.Integral :=
  integral_record (by simp [members, h.kind.integral, Integral.ofText?])

theorem DeviceRule.Declared.integral {r : DeviceRule} (h : r.Declared) : r.toJson.Integral :=
  integral_record (by
    simp [members, Integral.bool, Integral.ofText?, integral_number?, integral_text? h.access])

theorem Memory.Declared.integral {m : Memory} (h : m.Declared) : m.toJson.Integral :=
  integral_record (by
    simp [members, integral_integer? h.limit, integral_integer? h.reservation,
      integral_integer? h.swap, integral_integer? h.kernel, integral_integer? h.swappiness])

theorem Cpu.Declared.integral {c : Cpu} (h : c.Declared) : c.toJson.Integral :=
  integral_record (by
    simp [members, integral_integer? h.shares, integral_integer? h.quota,
      integral_integer? h.period, integral_text? h.cpus, integral_text? h.mems])

theorem BlockIo.Declared.integral {b : BlockIo} (h : b.Declared) : b.toJson.Integral :=
  integral_record (by simp [members, integral_integer? h.weight])

theorem Pids.Declared.integral {p : Pids} (h : p.Declared) : p.toJson.Integral :=
  integral_record (by simp [members, integral_integer? h.limit])

theorem Resources.Declared.integral {r : Resources} (h : r.Declared) : r.toJson.Integral := by
  have hdevices : (Json.arr (r.devices.map DeviceRule.toJson)).Integral :=
    .arr_map (fun rule hrule => (h.devices rule hrule).integral)
  have hmemory : (ofOption (r.memory.map Memory.toJson)).Integral :=
    .ofOption_map (fun m hm => (h.memory m hm).integral)
  have hcpu : (ofOption (r.cpu.map Cpu.toJson)).Integral :=
    .ofOption_map (fun c hc => (h.cpu c hc).integral)
  have hblockIo : (ofOption (r.blockIo.map BlockIo.toJson)).Integral :=
    .ofOption_map (fun b hb => (h.blockIo b hb).integral)
  have hpids : (ofOption (r.pids.map Pids.toJson)).Integral :=
    .ofOption_map (fun p hp => (h.pids p hp).integral)
  exact integral_record (by
    simp [members, hdevices, integral_flag?, hmemory, hcpu, hblockIo, hpids])

theorem Device.Declared.integral {d : Device} (h : d.Declared) : d.toJson.Integral :=
  integral_record (by
    simp [members, h.path.integral, Integral.str, Integral.int, integral_number?,
      integral_integer? h.uid, integral_integer? h.gid])

theorem Rlimit.Declared.integral {r : Rlimit} (h : r.Declared) : r.toJson.Integral :=
  integral_record (by simp [members, Integral.str, h.hard.integral, h.soft.integral])

theorem Linux.Declared.integral {l : Linux} (h : l.Declared) : l.toJson.Integral := by
  have hnamespaces : (Json.arr (l.namespaces.map Namespace.toJson)).Integral :=
    .arr_map (fun n hn => (h.namespaces n hn).integral)
  have hdevices : (Json.arr (l.devices.map Device.toJson)).Integral :=
    .arr_map (fun d hd => (h.devices d hd).integral)
  have hrlimits : (Json.arr (l.rlimits.map Rlimit.toJson)).Integral :=
    .arr_map (fun r hr => (h.rlimits r hr).integral)
  have hsysctl : (ofOption (l.sysctl.map Json.obj)).Integral :=
    .ofOption_map (fun table htable =>
      .obj table (fun m hm => (h.sysctlValues table htable m hm).integral))
  exact integral_record (by
    simp [members, Integral.texts h.capabilities, hnamespaces, h.resources.integral, hdevices,
      hrlimits, hsysctl, integral_integer? h.oomScoreAdj, Integral.texts h.maskedPaths,
      Integral.texts h.readonlyPaths])

theorem Runtime.Declared.integral {r : Runtime} (h : r.Declared) : r.toJson.Integral :=
  integral_record (by simp [members, h.hostname.integral, h.hooks.integral, h.linux.integral])

end ContainerBundle.Descriptor
