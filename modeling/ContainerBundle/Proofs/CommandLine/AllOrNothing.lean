import ContainerBundle.CommandLine.Run
import ContainerBundle.Proofs.Directory.LongPaths
/-!
# Runs of the program

A run that does not end well leaves the directory tree as it was, and one that converts a container
leaves the two documents of the container in the bundle directory and changes nothing else. One
kind of run is neither: the path of the bundle directory is so long that the file system takes the
first document and refuses the second.
-/
namespace ContainerBundle.Tree

private theorem directoryName_eq_ok_iff {v : Json} {name : String} :
    directoryName v = .ok name ↔ v = .str name := by
  constructor
  · intro h
    unfold directoryName at h
    split at h
    · rw [Except.ok.inj h]
    · split at h
      · simp at h
      · split at h
        · simp at h
        · split at h <;> simp at h
  · rintro rfl
    rfl

end ContainerBundle.Tree

namespace ContainerBundle.CommandLine

/-- The documents rendered from the daemon's answers, the compiled hooks and the root directory. -/
def Yields (m : Machine) (o : Options) (documents : List (String × String)) : Prop :=
  let daemon := Daemon.connect m.environment m.docker o.host .null m.limits
  ∃ hooks inspected s answered info peers bundle,
    (compileHooks m.search o.hooks).outcome = .ok hooks ∧
    (daemon.inspect o.container).outcome = .ok inspected ∧
    Snapshot.ofInspect inspected = .ok s ∧
    daemon.info.outcome = .ok answered ∧
    DaemonInfo.ofInfo answered = .ok info ∧
    (daemon.peers s).outcome = .ok peers ∧
    (generate m.view s info (.compiled hooks) o.rootfs (.obj peers)).outcome = .ok bundle ∧
    bundle.render m.disk.levels = .ok documents

structure Converts (m : Machine) (before after : Tree) (o : Options) (directory : String)
    (here : Place) (documents : List (String × String)) : Prop where
  named : o.bundle = .str directory
  found : before.directory? directory = some here
  yielded : Yields m o documents
  both : documents.map Prod.fst = Bundle.names
  /-- The two documents stand in the bundle directory. -/
  written : ∀ d ∈ documents, after.find? (here.child d.1) = some (.file 0o644 d.2)
  /-- Every other entry is untouched. -/
  others : ∀ p, (∀ name ∈ Bundle.names, p ≠ here.child name) → after.find? p = before.find? p
  /-- Without `--force` neither of the two names was taken. -/
  unforced : o.force = false → ∀ name ∈ Bundle.names, before.find? (here.child name) = none

private theorem yields_of_bundleOf {m : Machine} {o : Options} {b : Bundle}
    {documents : List (String × String)} (hmade : (bundleOf m o).outcome = .ok b)
    (hrender : b.render m.disk.levels = .ok documents) : Yields m o documents := by
  unfold bundleOf at hmade
  obtain ⟨hooks, hhooks, hmade⟩ := Traced.bind_eq_ok_iff.mp hmade
  obtain ⟨s, hs, hmade⟩ := Traced.bind_eq_ok_iff.mp hmade
  obtain ⟨info, hinfo, hmade⟩ := Traced.bind_eq_ok_iff.mp hmade
  obtain ⟨peers, hpeers, hmade⟩ := Traced.bind_eq_ok_iff.mp hmade
  obtain ⟨inspected, hinspected, hs⟩ := Traced.bind_eq_ok_iff.mp hs
  obtain ⟨answered, hanswered, hinfo⟩ := Traced.bind_eq_ok_iff.mp hinfo
  exact ⟨hooks, inspected, s, answered, info, peers, b, hhooks, hinspected, hs, hanswered, hinfo,
    hpeers, hmade, hrender⟩

private theorem convert_of_not_made {m : Machine} {t : Tree} {o : Options} {fault : Fault}
    (h : (bundleOf m o).outcome = .error fault) :
    (convert m t o).1 = t ∧ (convert m t o).2.outcome = .error fault := by
  simp only [convert, h, and_self]

private theorem convert_of_made {m : Machine} {t : Tree} {o : Options} {b : Bundle}
    (h : (bundleOf m o).outcome = .ok b) :
    (convert m t o).1 = (t.writeBundleAt m.disk b o.bundle o.force).1 ∧
      (convert m t o).2.outcome = (t.writeBundleAt m.disk b o.bundle o.force).2.outcome := by
  simp only [convert, h, and_self]

private theorem writeBundle_cases (t : Tree) (schedule : WriteSchedule) (b : Bundle)
    (directory : String) (force : Bool) :
    ((∀ p, (t.writeBundle schedule b directory force).1.find? p = t.find? p) ∧
      ∃ fault, (t.writeBundle schedule b directory force).2.outcome = .error fault) ∨
    (∃ here config runtime, t.MovesFirst schedule b directory force here config runtime ∧
      schedule.moveFault? directory 2 Bundle.runtimeName = none) ∨
    t.HalfPlaced schedule b directory force := by
  by_cases hmoves : ∃ here config runtime,
      t.MovesFirst schedule b directory force here config runtime
  · obtain ⟨here, config, runtime, hmoves⟩ := hmoves
    by_cases hsecond : schedule.moveFault? directory 2 Bundle.runtimeName = none
    · exact Or.inr (Or.inl ⟨here, config, runtime, hmoves, hsecond⟩)
    · obtain ⟨htree, path, cause, hfault⟩ := hmoves.second_refused hsecond
      by_cases hold : t.find? (here.child Bundle.configName) =
          some (.file Tree.descriptorMode config)
      · refine Or.inl ⟨fun p => ?_, _, hfault⟩
        rw [htree, Tree.shown_cons, Tree.shown_nil]
        split
        · rename_i hp
          rw [← hp, hold]
          rfl
        · rfl
      · exact Or.inr (Or.inr ⟨here, config, runtime, hmoves, hsecond, hold⟩)
  · obtain ⟨htree, hfault⟩ := Tree.writeBundle_of_no_first_move
      (fun here config runtime hfirst => hmoves ⟨here, config, runtime, hfirst⟩)
    exact Or.inl ⟨fun p => by rw [htree], hfault⟩

/-- A conversion changes nothing, writes both documents, or places the first of them alone. -/
private theorem convert_cases (m : Machine) (t : Tree) (o : Options) :
    ((∀ p, (convert m t o).1.find? p = t.find? p) ∧
      ∃ fault, (convert m t o).2.outcome = .error fault) ∨
    ((∃ paths, (convert m t o).2.outcome = .ok paths) ∧
      ∃ directory here documents, Converts m t (convert m t o).1 o directory here documents) ∨
    ∃ b directory, (bundleOf m o).outcome = .ok b ∧ o.bundle = .str directory ∧
      t.HalfPlaced m.disk b directory o.force := by
  cases hmade : (bundleOf m o).outcome with
  | error fault =>
    obtain ⟨htree, hfault⟩ := convert_of_not_made (t := t) hmade
    exact Or.inl ⟨fun p => by rw [htree], fault, hfault⟩
  | ok b =>
    obtain ⟨htree, houtcome⟩ := convert_of_made (t := t) hmade
    rw [htree, houtcome]
    cases hname : Tree.directoryName o.bundle with
    | error fault =>
      rw [Tree.writeBundleAt, hname]
      exact Or.inl ⟨fun _ => rfl, fault, rfl⟩
    | ok directory =>
      have hbundle := Tree.directoryName_eq_ok_iff.mp hname
      rw [Tree.writeBundleAt, hname]
      rcases writeBundle_cases t m.disk b directory o.force with
        hnothing | ⟨here, config, runtime, hmoves, hsecond⟩ | hhalf
      · exact Or.inl hnothing
      · obtain ⟨htree, hdone⟩ := hmoves.second_made hsecond
        refine Or.inr (Or.inl ⟨⟨_, hdone⟩, directory, here, _, hbundle, hmoves.admits.found,
          yields_of_bundleOf hmade hmoves.admits.rendered, rfl, ?_, ?_, ?_⟩)
        · intro d hd
          rw [htree]
          refine Tree.shown_of_mem ?_ hd
          exact (by decide : Bundle.names.Nodup)
        · intro p hp
          rw [htree]
          apply Tree.shown_of_ne
          intro d hd heq
          exact hp d.1 (List.mem_map.mpr ⟨d, hd, rfl⟩) heq.symm
        · intro hforce name hname
          have hadmits := hmoves.admits
          rw [hforce] at hadmits
          rcases List.mem_cons.mp hname with hfirst | hlast
          · exact hadmits.target_free hname (hfirst ▸ hmoves.first)
          · exact hadmits.target_free hname (List.mem_singleton.mp hlast ▸ hsecond)
      · exact Or.inr (Or.inr ⟨b, directory, rfl, hbundle, hhalf⟩)

private theorem convert_of_halfPlaced {m : Machine} {t : Tree} {o : Options} {b : Bundle}
    {directory : String} (hmade : (bundleOf m o).outcome = .ok b) (hname : o.bundle = .str directory)
    (hhalf : t.HalfPlaced m.disk b directory o.force) :
    (∃ fault, (convert m t o).2.outcome = .error fault) ∧
      ∃ p, (convert m t o).1.find? p ≠ t.find? p := by
  obtain ⟨htree, houtcome⟩ := convert_of_made (t := t) hmade
  obtain ⟨here, config, runtime, hmoves, hsecond, hnew⟩ := hhalf
  obtain ⟨hshown, path, cause, hfault⟩ := hmoves.second_refused hsecond
  rw [htree, houtcome, hname]
  refine ⟨⟨_, hfault⟩, here.child Bundle.configName, fun hsame => hnew ?_⟩
  rw [← hsame]
  exact (hshown _).trans (by rw [Tree.shown_cons, if_pos rfl]; rfl)

structure Turn where
  machine : Machine
  arguments : List Json
  before : Tree
  report : Report

def Machine.turnOn (m : Machine) (t : Tree) (arguments : List Json) : Turn :=
  ⟨m, arguments, t, run m t arguments⟩

/-- The runs of a session in one directory, each on the tree that the one before it left. -/
def session (t : Tree) : List (Machine × List Json) → List Turn
  | [] => []
  | (m, arguments) :: rest =>
    m.turnOn t arguments :: session (m.turnOn t arguments).report.tree rest

namespace Turn

def options (turn : Turn) : Except Departure Options :=
  Options.read turn.machine.environment.host turn.arguments

def AsksForNotice (turn : Turn) : Prop :=
  turn.options = .error .help ∨ turn.options = .error .version ∨
    ∃ o, turn.options = .ok o ∧ (o.container.isText "help" ∨ o.container.isText "version")

structure AllOrNothing (turn : Turn) : Prop where
  /-- A run that does not end well leaves every entry as it was. -/
  nothing : turn.report.ending ≠ .exit 0 → ∀ p, turn.report.tree.find? p = turn.before.find? p
  /-- So does a run that asks for help or for the version. -/
  notice : turn.AsksForNotice → turn.report.tree = turn.before
  /-- Any other run writes the documents of the container and changes nothing else. -/
  all : turn.report.ending = .exit 0 → ¬ turn.AsksForNotice →
    ∃ o directory here documents, turn.options = .ok o ∧
      Converts turn.machine turn.before turn.report.tree o directory here documents

/-- The run converts a container and fails between the two moves of its documents. -/
structure FailsHalfway (turn : Turn) (o : Options) (b : Bundle) (directory : String) : Prop where
  read : turn.options = .ok o
  given : ¬ o.container.isVoid
  converts : ¬ turn.AsksForNotice
  named : o.bundle = .str directory
  made : (bundleOf turn.machine o).outcome = .ok b
  half : turn.before.HalfPlaced turn.machine.disk b directory o.force

/-- The documents can be written but for one thing: the path of `config.json` is the longest that
the file system takes, and that of `runtime.json` is longer. -/
structure LeavesHalf (turn : Turn) (o : Options) (b : Bundle) (directory : String) (here : Place)
    (config runtime : String) : Prop where
  read : turn.options = .ok o
  given : ¬ o.container.isVoid
  converts : ¬ turn.AsksForNotice
  named : o.bundle = .str directory
  made : (bundleOf turn.machine o).outcome = .ok b
  admits : turn.before.Admits turn.machine.disk b directory o.force here
    [("config.json", config), ("runtime.json", runtime)]
  longest : (Path.join directory "config.json").utf8ByteSize = 4095
  new : turn.before.find? (here.child "config.json") ≠ some (.file 0o644 config)

private theorem FailsHalfway.leavesHalf {turn : Turn} {o : Options} {b : Bundle}
    {directory : String}
    (hdisk : turn.machine.disk.Unfailing) (h : turn.FailsHalfway o b directory) :
    ∃ here config runtime, turn.LeavesHalf o b directory here config runtime := by
  obtain ⟨here, config, runtime, hmoves, hsecond, hnew⟩ := h.half
  exact ⟨here, config, runtime, h.read, h.given, h.converts, h.named, h.made, hmoves.admits,
    (hdisk.moves_split_iff directory).mp ⟨hmoves.first, hsecond⟩, hnew⟩

private theorem LeavesHalf.failsHalfway {turn : Turn} {o : Options} {b : Bundle}
    {directory : String}
    {here : Place} {config runtime : String} (hdisk : turn.machine.disk.Unfailing)
    (h : turn.LeavesHalf o b directory here config runtime) :
    turn.FailsHalfway o b directory := by
  obtain ⟨hfirst, hsecond⟩ := (hdisk.moves_split_iff directory).mpr h.longest
  exact ⟨h.read, h.given, h.converts, h.named, h.made,
    here, config, runtime, ⟨h.admits, hfirst⟩, hsecond, h.new⟩

end Turn

private theorem runConversion_tree (m : Machine) (t : Tree) (o : Options) :
    (runConversion m t o).tree = (convert m t o).1 := by
  rcases hconverted : convert m t o with ⟨after, events, outcome⟩
  simp only [runConversion, hconverted]
  split
  · rfl
  · rfl
  · split <;> rfl

private theorem runConversion_ending (m : Machine) (t : Tree) (o : Options) :
    (runConversion m t o).ending = .exit 0 ↔ ∃ paths, (convert m t o).2.outcome = .ok paths := by
  rcases hconverted : convert m t o with ⟨after, events, outcome⟩
  simp only [runConversion, hconverted]
  split
  · simp
  · simp
  · split <;> simp

/-- A run leaves the tree alone and ends well only on a notice, or it converts a container. -/
theorem run_cases (m : Machine) (t : Tree) (arguments : List Json) :
    ((run m t arguments).tree = t ∧
      ((run m t arguments).ending = .exit 0 → (m.turnOn t arguments).AsksForNotice)) ∨
    ∃ o, (m.turnOn t arguments).options = .ok o ∧ ¬ o.container.isVoid ∧
      ¬ (m.turnOn t arguments).AsksForNotice ∧ run m t arguments = runConversion m t o := by
  have hoptions : (m.turnOn t arguments).options = Options.read m.environment.host arguments := rfl
  simp only [Turn.AsksForNotice, hoptions, run]
  cases hread : Options.read m.environment.host arguments with
  | error departure =>
    refine Or.inl ?_
    cases departure <;> simp
  | ok o =>
    by_cases hvoid : o.container.isVoid
    · exact Or.inl (by simp [hvoid])
    · by_cases hhelp : o.container.isText "help"
      · exact Or.inl (by simp [hvoid, hhelp])
      · by_cases hversion : o.container.isText "version"
        · exact Or.inl (by simp [hvoid, hhelp, hversion])
        · exact Or.inr ⟨o, rfl, hvoid, by simp [hhelp, hversion], by simp [hvoid, hhelp, hversion]⟩

private theorem run_of_converts {m : Machine} {t : Tree} {arguments : List Json} {o : Options}
    (hread : (m.turnOn t arguments).options = .ok o) (hgiven : ¬ o.container.isVoid)
    (hnotice : ¬ (m.turnOn t arguments).AsksForNotice) :
    run m t arguments = runConversion m t o := by
  have hasks : ¬ (o.container.isText "help" ∨ o.container.isText "version") :=
    fun hasks => hnotice (Or.inr (Or.inr ⟨o, hread, hasks⟩))
  have hread : Options.read m.environment.host arguments = .ok o := hread
  simp only [not_or] at hasks
  simp only [run, hread, hgiven, hasks.1, hasks.2, Bool.false_eq_true, if_false]

/-- The step: a run on any tree writes both documents or nothing, unless it fails halfway. -/
theorem allOrNothing_turnOn_iff (m : Machine) (t : Tree) (arguments : List Json) :
    (m.turnOn t arguments).AllOrNothing ↔
      ∀ o b directory, ¬ (m.turnOn t arguments).FailsHalfway o b directory := by
  constructor
  · intro hall o b directory hhalf
    have hrun := run_of_converts hhalf.read hhalf.given hhalf.converts
    obtain ⟨⟨fault, hfault⟩, p, hchanged⟩ :=
      @convert_of_halfPlaced m t o b directory hhalf.made hhalf.named hhalf.half
    have hending : (run m t arguments).ending ≠ .exit 0 := by
      rw [hrun, Ne, runConversion_ending]
      rintro ⟨paths, hok⟩
      rw [hfault] at hok
      cases hok
    have htree : (run m t arguments).tree = (convert m t o).1 := by
      rw [hrun, runConversion_tree]
    exact hchanged (htree ▸ hall.nothing hending p)
  · intro hnever
    rcases run_cases m t arguments with ⟨htree, hend⟩ | ⟨o, hoptions, hgiven, hnotice, hrun⟩
    · have htree : (m.turnOn t arguments).report.tree = t := htree
      exact ⟨fun _ p => by rw [htree]; rfl, fun _ => htree,
        fun hok hnotice => absurd (hend hok) hnotice⟩
    · have htree : (m.turnOn t arguments).report.tree = (convert m t o).1 := by
        rw [← runConversion_tree, ← hrun]
        rfl
      have hending : (m.turnOn t arguments).report.ending = .exit 0 ↔
          ∃ paths, (convert m t o).2.outcome = .ok paths := by
        rw [← runConversion_ending, ← hrun]
        rfl
      rcases convert_cases m t o with ⟨hsame, fault, hfault⟩ |
        ⟨hok, directory, here, documents, hconverts⟩ | ⟨b, directory, hmade, hnamed, hhalf⟩
      · refine ⟨fun _ p => htree ▸ hsame p, fun h => absurd h hnotice, fun hend _ => ?_⟩
        obtain ⟨paths, hok⟩ := hending.mp hend
        rw [hfault] at hok
        cases hok
      · refine ⟨fun hend => absurd (hending.mpr hok) hend, fun h => absurd h hnotice,
          fun _ _ => ?_⟩
        rw [htree]
        exact ⟨o, directory, here, documents, hoptions, hconverts⟩
      · exact absurd ⟨hoptions, hgiven, hnotice, hnamed, hmade, hhalf⟩ (hnever o b directory)

/-- The run lemma: every run of a session is a run of its machine on some tree. -/
private theorem exists_turnOn {t : Tree} {runs : List (Machine × List Json)} {turn : Turn}
    (hturn : turn ∈ session t runs) :
    ∃ before, turn = turn.machine.turnOn before turn.arguments := by
  induction runs generalizing t with
  | nil => simp [session] at hturn
  | cons first runs ih =>
    rcases List.mem_cons.mp hturn with rfl | hturn
    · exact ⟨t, rfl⟩
    · exact ih hturn

/-- A machine whose daemon tells of one container without settings. -/
def plainMachine : Machine where
  environment := {}
  docker command := .output (.str (if command.getLast? = some "web" then
    "\x7b\"Config\": \x7b\x7d, \"HostConfig\": \x7b\x7d\x7d" else "\x7b\x7d"))
  search := ⟨fun _ => .null, "/work"⟩
  view := ⟨fun _ => .error (.system .missing), fun _ => none⟩

private theorem read_bundle {directory : String} (h : Text.startsWith "-" directory = false)
    (host : String) :
    Options.read host [.str "--rootfs", .str "r", .str "--bundle", .str directory, .str "web"] =
      .ok { host := .str host, rootfs := .str "r", bundle := .str directory
            container := .str "web" } := by
  have hclass : classify directory = .ok (.plain (.str directory)) := by simp [classify, h]
  have hseparator : (Json.str directory).isText "--" = false := by
    rw [Bool.eq_false_iff, Ne, Json.isText_iff, Json.str.injEq]
    rintro rfl
    cases h
  have hdirectory : tokens [.str directory, .str "web"] =
      .ok [.plain (.str directory), .plain (.str "web")] := by
    rw [tokens, hseparator]
    simp only [hclass]
    rfl
  have hbundle : tokens [.str "--bundle", .str directory, .str "web"] =
      .ok [.option ⟨.bundle, false, none⟩, .plain (.str directory), .plain (.str "web")] := by
    rw [tokens, hdirectory]
    rfl
  have htokens :
      tokens [.str "--rootfs", .str "r", .str "--bundle", .str directory, .str "web"] =
        .ok [.option ⟨.rootfs, false, none⟩, .plain (.str "r"), .option ⟨.bundle, false, none⟩,
          .plain (.str directory), .plain (.str "web")] := by
    rw [tokens, tokens, hbundle]
    rfl
  rw [Options.read, htokens]
  rfl

/-- A call for a padded path has nothing in its way before the first move. -/
private theorem admits_padded {b : Bundle} {n : Nat} {documents : List (String × String)}
    (h : n + 2 < Tree.pathLimit) (hrender : b.render = .ok documents) :
    Tree.empty.Admits .faultless b (Path.padded (n + 1)) false Place.top documents := by
  have hfree : ∀ name ∈ Bundle.names, Tree.empty.find? (Place.top.child name) = none := by decide
  constructor
  case found => exact Tree.directory?_padded _ h
  case rendered => exact hrender
  case unborne => exact Or.inr fun name hname => by simp [Tree.bears, hfree name hname]
  case staged =>
    intro d hd
    exact Tree.stagingFault?_padded _ (n + 1) d.2 (List.fst_mem_of_mem_zipIdx hd)
  case noDirectory =>
    intro name hname
    exact Tree.directory?_join_padded n hname (hfree name hname)

end ContainerBundle.CommandLine
