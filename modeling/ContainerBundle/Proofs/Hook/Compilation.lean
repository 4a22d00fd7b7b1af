import ContainerBundle.Hook.Compile
import ContainerBundle.Proofs.AbsolutePath
import Mathlib.Data.List.Forall2
/-!
# Compiling a list of hooks

A declaration is found when it can be read and the search path has its executable; otherwise it
fails with a fault of its own. A list compiles exactly when all its declarations are found, each
making one hook under its phase, in declaration order. The first that fails stops the compilation,
and nothing behind it is looked up.
-/
namespace ContainerBundle

def SearchPath.answering (which : String → Option String) (workingDirectory : String) :
    SearchPath where
  find name := .ofText? (which name)
  workingDirectory

def compileTexts (which : String → Option String) (workingDirectory : String)
    (raws : List String) : Traced Descriptor.Hooks :=
  compileHooks (.answering which workingDirectory) (raws.map .str)

private theorem HookDeclaration.raw_of_parse {raw : String} {d : HookDeclaration}
    (h : HookDeclaration.parse raw = .ok d) : d.raw = raw := by
  rw [parse] at h
  split at h
  · cases h
  · split at h
    · cases h
    · split at h
      · cases h
      · cases h
        rfl

structure FoundHook where
  declaration : HookDeclaration
  path : String

namespace FoundHook

variable (workingDirectory : String) (f : FoundHook)

def executable : String := f.declaration.executable

def phase : Phase := f.declaration.phase

/-- The hook that a declaration makes: the path made absolute, the arguments if there are any. -/
def hook : Descriptor.Hook where
  path := Path.absolute workingDirectory f.path
  args := if f.declaration.args = [] then none else some (f.declaration.args.map .str)

def entry : HookEntry where
  phase := f.phase
  path := Path.absolute workingDirectory f.path
  args := f.declaration.args.map .str

def events : List Event :=
  [.lookedUp (.str f.executable),
    .hookResolved f.phase f.executable (Path.absolute workingDirectory f.path)]

private theorem toHook_entry : (f.entry workingDirectory).toHook = f.hook workingDirectory := by
  simp [HookEntry.toHook, entry, hook]

end FoundHook

variable {which : String → Option String} {workingDirectory raw : String} {f : FoundHook}
  {fault : HookFault} {tried : List String}

/-- The text is a declaration, and the search path has a path for its executable. -/
structure Finds (which : String → Option String) (raw : String) (f : FoundHook) : Prop where
  parsed : HookDeclaration.parse raw = .ok f.declaration
  answer : which f.executable = some f.path
  path_ne : f.path ≠ ""

/-- Why a declaration fails, and the executables that were looked up for it. -/
inductive Fails (which : String → Option String) (raw : String) : HookFault → List String → Prop
  | malformed {fault : HookFault} (hparse : HookDeclaration.parse raw = .error fault) :
      Fails which raw fault []
  | notFound {d : HookDeclaration} (hparse : HookDeclaration.parse raw = .ok d)
      (hanswer : which d.executable = none ∨ which d.executable = some "") :
      Fails which raw (.notFound (.str d.executable) (.str raw)) [d.executable]

private theorem finds_or_fails (which : String → Option String) (raw : String) :
    (∃ f, Finds which raw f) ∨ ∃ fault tried, Fails which raw fault tried := by
  cases hparse : HookDeclaration.parse raw with
  | error fault => exact .inr ⟨fault, [], .malformed hparse⟩
  | ok d =>
    cases hanswer : which d.executable with
    | none => exact .inr ⟨_, _, .notFound hparse (.inl hanswer)⟩
    | some path =>
      by_cases hempty : path = ""
      · rw [hempty] at hanswer
        exact .inr ⟨_, _, .notFound hparse (.inr hanswer)⟩
      · exact .inl ⟨⟨d, path⟩, hparse, hanswer, hempty⟩

private theorem Fails.not_finds (h : Fails which raw fault tried) (f : FoundHook) :
    ¬ Finds which raw f := by
  intro hf
  cases h with
  | malformed hparse =>
    rw [hf.parsed] at hparse
    cases hparse
  | notFound hparse hanswer =>
    rw [hf.parsed, Except.ok.injEq] at hparse
    rw [← hparse, ← FoundHook.executable, hf.answer] at hanswer
    rcases hanswer with hnone | hempty
    · cases hnone
    · exact hf.path_ne (Option.some.inj hempty)

private theorem ofRaw_text (search : SearchPath) (raw : String) :
    HookEntry.ofRaw search (.str raw) =
    Traced.ofExcept ((HookDeclaration.parse raw).mapError .hook) >>=
      HookEntry.ofDeclaration search :=
  rfl

private theorem locate_of_path {name path : String} (h : which name = some path)
    (hpath : path ≠ "") :
    (SearchPath.answering which workingDirectory).locate (.str name) (.str raw) =
      ⟨[.lookedUp (.str name)], .ok (Path.absolute workingDirectory path)⟩ := by
  have hlookUp : (SearchPath.answering which workingDirectory).lookUp (.str name) =
      .ok (.str path) := congrArg (fun answer => Except.ok (Json.ofText? answer)) h
  have hvoid : ¬ (Json.str path).isVoid := by simpa [Json.isVoid] using hpath
  rw [SearchPath.locate, hlookUp, Traced.liftM_eq_ofExcept, Traced.ofExcept_ok, pure_bind,
    if_neg hvoid]
  rfl

private theorem locate_of_nothing {name : String} (h : which name = none ∨ which name = some "") :
    (SearchPath.answering which workingDirectory).locate (.str name) (.str raw) =
      ⟨[.lookedUp (.str name)], .error (.hook (.notFound (.str name) (.str raw)))⟩ := by
  have hlookUp : (SearchPath.answering which workingDirectory).lookUp (.str name) =
      .ok (Json.ofText? (which name)) := rfl
  have hvoid : (Json.ofText? (which name)).isVoid := by
    rcases h with hnone | hempty
    · rw [hnone]
      rfl
    · rw [hempty]
      rfl
  rw [SearchPath.locate, hlookUp, Traced.liftM_eq_ofExcept, Traced.ofExcept_ok, pure_bind,
    if_pos hvoid]
  rfl

/-- A declaration that is found makes its entry, after one look-up. -/
private theorem ofRaw_of_finds (h : Finds which raw f) :
    HookEntry.ofRaw (.answering which workingDirectory) (.str raw) =
      ⟨f.events workingDirectory, .ok (f.entry workingDirectory)⟩ := by
  have hlocate := @locate_of_path which workingDirectory f.declaration.raw _ _ h.answer h.path_ne
  rw [ofRaw_text, h.parsed, Except.mapError, Traced.ofExcept_ok, pure_bind,
    HookEntry.ofDeclaration, ← FoundHook.executable, hlocate]
  rfl

private theorem ofRaw_of_fails (h : Fails which raw fault tried) :
    HookEntry.ofRaw (.answering which workingDirectory) (.str raw) =
      ⟨tried.map fun name => .lookedUp (.str name), .error (.hook fault)⟩ := by
  rw [ofRaw_text]
  cases h with
  | malformed hparse =>
    rw [hparse]
    rfl
  | notFound hparse hanswer =>
    have hlocate := @locate_of_nothing which workingDirectory raw _ hanswer
    rw [hparse, Except.mapError, Traced.ofExcept_ok, pure_bind, HookEntry.ofDeclaration,
      HookDeclaration.raw_of_parse hparse, hlocate]
    rfl

/-- The declarations are found one and all, or there is a first that fails. -/
private theorem found_or_stopped (which : String → Option String) (raws : List String) :
    (∃ found, List.Forall₂ (Finds which) raws found) ∨
      ∃ front raw back found fault tried, raws = front ++ raw :: back ∧
        List.Forall₂ (Finds which) front found ∧ Fails which raw fault tried := by
  induction raws with
  | nil => exact .inl ⟨[], .nil⟩
  | cons raw rest ih =>
    rcases finds_or_fails which raw with ⟨f, hf⟩ | ⟨fault, tried, hfails⟩
    · rcases ih with ⟨found, hfound⟩ | ⟨front, bad, back, found, fault, tried, rfl, hfront, hfails⟩
      · exact .inl ⟨f :: found, .cons hf hfound⟩
      · exact .inr ⟨raw :: front, bad, back, f :: found, fault, tried, rfl, .cons hf hfront, hfails⟩
    · exact .inr ⟨[], raw, rest, [], fault, tried, rfl, .nil, hfails⟩

variable {raws front back : List String} {found : List FoundHook}

private theorem exists_found (h : List.Forall₂ (Finds which) raws found) :
    ∀ raw ∈ raws, ∃ f, Finds which raw f := by
  induction h with
  | nil => exact List.forall_mem_nil _
  | cons hraw _ ih => exact List.forall_mem_cons.mpr ⟨⟨_, hraw⟩, ih⟩

private theorem forEach_of_found (h : List.Forall₂ (Finds which) raws found) :
    Traced.forEach (HookEntry.ofRaw (.answering which workingDirectory)) (raws.map .str) =
      ⟨found.flatMap (·.events workingDirectory), .ok (found.map (·.entry workingDirectory))⟩ := by
  induction h with
  | nil => rfl
  | cons hraw _ ih =>
    rw [List.map_cons, Traced.forEach, ofRaw_of_finds hraw, ih, Traced.mk_ok_bind,
      Traced.mk_ok_bind, Traced.pure_events, Traced.pure_outcome, List.append_nil]
    rfl

private theorem forEach_of_stopped (hfront : List.Forall₂ (Finds which) front found)
    (hfails : Fails which raw fault tried) (back : List String) :
    Traced.forEach (HookEntry.ofRaw (.answering which workingDirectory))
        ((front ++ raw :: back).map .str) =
      ⟨found.flatMap (·.events workingDirectory) ++ tried.map fun name => .lookedUp (.str name),
        .error (.hook fault)⟩ := by
  rw [List.map_append, List.map_cons]
  exact Traced.forEach_stopped (forEach_of_found hfront) (ofRaw_of_fails hfails) _

namespace Descriptor.Hooks

def under (hooks : Descriptor.Hooks) : Phase → List Descriptor.Hook
  | .prestart => hooks.prestart
  | .poststart => hooks.poststart
  | .poststop => hooks.poststop

def count (hooks : Descriptor.Hooks) : Nat :=
  hooks.prestart.length + hooks.poststart.length + hooks.poststop.length

end Descriptor.Hooks

/-- One hook for each found declaration, under its phase, at the path made absolute. -/
structure Groups (workingDirectory : String) (found : List FoundHook) (hooks : Descriptor.Hooks) :
    Prop where
  under : ∀ phase, hooks.under phase =
    (found.filter (·.phase = phase)).map (·.hook workingDirectory)
  resolved : ∀ f ∈ found,
    Path.MadeAbsolute workingDirectory f.path (f.hook workingDirectory).path
  absolute : ∀ phase, ∀ hook ∈ hooks.under phase, Path.isAbsolute hook.path
  count : hooks.count = found.length

private theorem length_by_phase (found : List FoundHook) :
    (found.filter (·.phase = .prestart)).length + (found.filter (·.phase = .poststart)).length +
      (found.filter (·.phase = .poststop)).length = found.length := by
  induction found with
  | nil => rfl
  | cons f rest ih =>
    cases hphase : f.phase <;> simp [hphase] <;> omega

private theorem hooksOf_entries (phase : Phase) (found : List FoundHook) :
    hooksOf phase (found.map (·.entry workingDirectory)) =
      (found.filter (·.phase = phase)).map (·.hook workingDirectory) := by
  rw [hooksOf, List.filter_map, List.map_map]
  apply List.map_congr_left
  intro f _
  exact f.toHook_entry workingDirectory

private theorem groupHooks_groups (workingDirectory : String) (found : List FoundHook) :
    Groups workingDirectory found (groupHooks (found.map (·.entry workingDirectory))) := by
  let hooks := groupHooks (found.map (·.entry workingDirectory))
  have hunder (phase : Phase) : hooks.under phase =
      (found.filter (·.phase = phase)).map (·.hook workingDirectory) := by
    rw [← hooksOf_entries]
    cases phase <;> rfl
  constructor
  · exact hunder
  · exact fun f _ => Path.madeAbsolute_iff.mpr rfl
  · intro phase hook hhook
    rw [hunder] at hhook
    obtain ⟨f, -, rfl⟩ := List.mem_map.mp hhook
    exact Path.isAbsolute_absolute workingDirectory f.path
  · rw [← length_by_phase found]
    have hlength (phase : Phase) : (hooks.under phase).length =
        (found.filter (·.phase = phase)).length := by rw [hunder, List.length_map]
    rw [← hlength, ← hlength, ← hlength]
    rfl

private theorem lookups_of_row (workingDirectory : String) (found : List FoundHook)
    (tried : List String) :
    lookups (found.flatMap (·.events workingDirectory) ++
      tried.map fun name => .lookedUp (.str name)) =
        (found.map (·.executable) ++ tried).map .str := by
  induction found with
  | nil => simp [lookups, List.filterMap_map]
  | cons f rest ih =>
    rw [List.flatMap_cons, List.append_assoc]
    exact congrArg (List.cons (.str f.executable)) ih

private theorem compileTexts_of_found (h : List.Forall₂ (Finds which) raws found) :
    compileTexts which workingDirectory raws =
      ⟨found.flatMap (·.events workingDirectory),
        .ok (groupHooks (found.map (·.entry workingDirectory)))⟩ := by
  rw [compileTexts, compileHooks, forEach_of_found h, Traced.mk_ok_bind, Traced.pure_events,
    List.append_nil, Traced.pure_outcome]

private theorem compileTexts_of_stopped (hfront : List.Forall₂ (Finds which) front found)
    (hfails : Fails which raw fault tried) (back : List String) :
    compileTexts which workingDirectory (front ++ raw :: back) =
      ⟨found.flatMap (·.events workingDirectory) ++ tried.map fun name => .lookedUp (.str name),
        .error (.hook fault)⟩ := by
  rw [compileTexts, compileHooks, forEach_of_stopped hfront hfails]
  rfl

/-- A list compiles exactly when every declaration is found, and its hooks are grouped under their
phases; otherwise the first declaration that fails ends the compilation, and nothing behind it is
looked up. -/
theorem compileTexts_ends (which : String → Option String) (workingDirectory : String)
    (raws : List String) :
    ((∃ hooks, (compileTexts which workingDirectory raws).outcome = .ok hooks) ↔
      ∀ raw ∈ raws, ∃ f, Finds which raw f) ∧
    ((∃ found hooks, List.Forall₂ (Finds which) raws found ∧
        (compileTexts which workingDirectory raws).outcome = .ok hooks ∧
        Groups workingDirectory found hooks ∧ hooks.count = raws.length ∧
        lookups (compileTexts which workingDirectory raws).events =
          (found.map (·.executable)).map .str) ∨
      ∃ front raw back found fault tried, raws = front ++ raw :: back ∧
        List.Forall₂ (Finds which) front found ∧ Fails which raw fault tried ∧
        (compileTexts which workingDirectory raws).outcome = .error (.hook fault) ∧
        lookups (compileTexts which workingDirectory raws).events =
          (found.map (·.executable) ++ tried).map .str) := by
  rcases found_or_stopped which raws with ⟨found, hfound⟩ |
    ⟨front, bad, back, found, fault, tried, rfl, hfront, hfails⟩
  · have hcompiled := @compileTexts_of_found which workingDirectory raws found hfound
    have hgroups := groupHooks_groups workingDirectory found
    have hlookups : lookups (compileTexts which workingDirectory raws).events =
        (found.map (·.executable)).map .str := by
      have hrow := lookups_of_row workingDirectory found []
      rw [List.map_nil, List.append_nil, List.append_nil] at hrow
      rw [hcompiled, hrow]
    have hcount := hgroups.count.trans hfound.length_eq.symm
    rw [hcompiled] at hlookups ⊢
    exact ⟨⟨fun _ => exists_found hfound, fun _ => ⟨_, rfl⟩⟩,
      .inl ⟨found, _, hfound, rfl, hgroups, hcount, hlookups⟩⟩
  · have hcompiled := @compileTexts_of_stopped which workingDirectory bad fault tried front found
      hfront hfails back
    have hlookups := lookups_of_row workingDirectory found tried
    have hrefused : ¬ ∃ hooks,
        (compileTexts which workingDirectory (front ++ bad :: back)).outcome = .ok hooks := by
      intro hok
      obtain ⟨hooks, hok⟩ := hok
      rw [hcompiled] at hok
      cases hok
    have hmissing : ¬ ∀ raw ∈ front ++ bad :: back, ∃ f, Finds which raw f := by
      intro hall
      obtain ⟨f, hf⟩ := hall bad (by simp)
      exact hfails.not_finds f hf
    constructor
    · exact iff_of_false hrefused hmissing
    · right
      rw [hcompiled]
      exact ⟨front, bad, back, found, fault, tried, rfl, hfront, hfails, rfl, hlookups⟩

def scatteredTools (name : String) : Option String :=
  if name = "fetch" then some "bin/./fetch"
  else if name = "clean" then some "../tools//clean"
  else if name = "ldconfig" then some "/sbin/ldconfig"
  else none

theorem compileTexts_ends_of_scattered_tools :
    let raws := ["poststop:clean --all /tmp", "prestart: fetch", "prestart:ldconfig -v"]
    (∀ raw ∈ raws, ∃ f, Finds scatteredTools raw f) ∧
      (compileTexts scatteredTools "/srv/web" raws).outcome = .ok
        { prestart := [{ path := "/srv/web/bin/fetch" },
            { path := "/sbin/ldconfig", args := some [.str "-v"] }]
          poststop := [{ path := "/srv/tools/clean", args := some [.str "--all", .str "/tmp"] }] } :=
  ⟨(compileTexts_ends scatteredTools "/srv/web" _).1.mp ⟨_, rfl⟩, rfl⟩

end ContainerBundle
