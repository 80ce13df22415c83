/-
Builds of a directory.  A build opens the registry of the directory, runs a pass and
saves what comes out.  A sequence of builds comes to the same as the passes alone on one
registry that stays in memory, since what is read back is the working copy of the
registry that was saved.
-/
import CommandRegistry.Proofs.FileWrites
import CommandRegistry.Proofs.RestartTransparency
import CommandRegistry.Proofs.SnapshotText
import CommandRegistry.Proofs.Tolerance
import CommandRegistry.Store

namespace CommandRegistry

variable {answers : Set Resolver} {resolver : Resolver} {registry first last : Registry}
  {files : FileTree} {directory : String}

/-- One text could be written to the directory and was read back. -/
def Store.Writable (files : FileTree) (directory : String) : Prop :=
  ∃ text written, Store.writeText files directory (Store.path directory) text = (.ok (), written) ∧
    written.read (Store.path directory) = .ok (Utf8.encode text)

theorem Store.writeText_eq_ok_iff {path text : String} {written : FileTree} :
    Store.writeText files directory path text = (.ok (), written) ↔
      ∃ way made file, TreePath.ofText directory = .ok way ∧
        files.ensureDirectories (files.origin way) way.steps = (.ok (), made) ∧
        TreePath.ofText path = .ok file ∧
        made.writePath file (Utf8.encode text) = .ok written := by
  unfold Store.writeText FileTree.makeDirectories FileTree.write
  cases TreePath.ofText directory with
  | error fault => simp
  | ok way =>
      rcases hmade : files.ensureDirectories (files.origin way) way.steps with
        ⟨fault | _, made⟩
      · simp [hmade]
      · cases TreePath.ofText path with
        | error fault => simp [hmade]
        | ok file => cases hwrite : made.writePath file (Utf8.encode text) <;> simp [hmade, hwrite]

/-- The directory and the file of its snapshot are there. -/
structure Store.Holds (files : FileTree) (directory : String) (content : Bytes) : Prop where
  made : ∃ way, TreePath.ofText directory = .ok way ∧
    files.isDirectory (files.origin way) way.steps = true
  file : ∃ path, TreePath.ofText (Store.path directory) = .ok path ∧ files.Holds path content

theorem Store.Holds.read {content : Bytes} (hholds : Store.Holds files directory content) :
    files.read (Store.path directory) = .ok content := by
  obtain ⟨-, path, hpath, hfile⟩ := hholds
  rw [FileTree.read, hpath]
  exact hfile.read

theorem Store.Holds.writable {content : Bytes} (hholds : Store.Holds files directory content) :
    Store.Writable files directory := by
  obtain ⟨⟨way, hway, hmade⟩, path, hpath, hfile⟩ := hholds
  obtain ⟨later, hwritten, hlater⟩ := hfile.write (Utf8.encode "")
  refine ⟨"", later, ?_, ?_⟩
  · exact Store.writeText_eq_ok_iff.2 ⟨way, files, path, hway,
      FileTree.ensureDirectories_of_isDirectory hmade, hpath, hwritten⟩
  · rw [FileTree.read, hpath]
    exact hlater.read

/-- Where one text could be written, any text can be. -/
theorem Store.Writable.write (hwritable : Store.Writable files directory) (text : String) :
    ∃ written,
      Store.writeText files directory (Store.path directory) text = (.ok (), written) ∧
      Store.Holds written directory (Utf8.encode text) := by
  obtain ⟨sample, written, hwrite, hread⟩ := hwritable
  obtain ⟨way, made, path, hway, hmade, hpath, hwritten⟩ := Store.writeText_eq_ok_iff.1 hwrite
  obtain ⟨hmakes, hdirectory⟩ := FileTree.ensureDirectories_spec hmade
  simp only [FileTree.read, hpath] at hread
  obtain ⟨later, hlater, hwithin, hholds⟩ :=
    FileTree.write_of_written hwritten hread (Utf8.encode text)
  refine ⟨later, Store.writeText_eq_ok_iff.2 ⟨way, made, path, hway, hmade, hpath, hlater⟩,
    ⟨way, hway, ?_⟩, path, hpath, hholds⟩
  rw [(hmakes.trans hwithin).origin_eq way]
  exact hwithin.isDirectory hdirectory

theorem Store.load_of_absent (habsent : files.read (Store.path directory) = .error .notFound) :
    Store.load files directory = ⟨.ok none, []⟩ := by
  unfold Store.load Store.readText
  rw [habsent]

theorem Store.load_of_read {snapshot : Snapshot}
    (hread : files.read (Store.path directory) = .ok (Utf8.encode snapshot.pretty)) :
    (Store.load files directory).result = .ok (some snapshot) := by
  have htext : Store.readText files (Store.path directory) = .ok snapshot.pretty := by
    unfold Store.readText
    simp only [hread, Utf8.decode?_encode]
  unfold Store.load
  simp only [htext, Snapshot.ofText_pretty]

/-- The registry of a directory that has no snapshot yet. -/
def Registry.fresh (options : RegistryOptions) (resolver : Resolver) : Registry :=
  ((Registry.create options).attach resolver).after

theorem Store.open_of_absent (habsent : files.read (Store.path directory) = .error .notFound)
    (options : RegistryOptions) (resolver : Resolver) :
    (Store.open files directory options resolver).result =
      .ok (Registry.fresh options resolver) := by
  unfold Store.open
  simp only [Store.load_of_absent habsent]
  rfl

theorem Store.open_of_read {snapshot : Snapshot}
    (hread : files.read (Store.path directory) = .ok (Utf8.encode snapshot.pretty))
    (options : RegistryOptions) (resolver : Resolver) :
    (Store.open files directory options resolver).result =
      (Registry.hydrate snapshot options resolver).result := by
  unfold Store.open
  simp only [Store.load_of_read hread]

theorem Registry.reachable_fresh (options : RegistryOptions) (resolver : Resolver) :
    (Registry.fresh options resolver).Reachable {resolver} :=
  .created options (.attach (.refl _) (Set.mem_singleton resolver))

/-- What is opened from the snapshot of a registry, and that no pass can tell it from
the registry. -/
theorem Store.open_snapshot (hreach : registry.Reachable {resolver})
    (hresolver : registry.resolver = some resolver)
    (hread : files.read (Store.path directory) = .ok (Utf8.encode registry.snapshot.pretty))
    (options : RegistryOptions) :
    (∃ error, checkOffset registry.offset options = .error error ∧
      (Store.open files directory options resolver).result = .error error) ∨
    (checkOffset registry.offset options = .ok () ∧
      (Store.open files directory options resolver).result = .ok registry.working) := by
  rw [Store.open_of_read hread]
  cases hchecked : checkOffset registry.offset options with
  | error error =>
      have hoffset : checkOffset registry.snapshot.offset options = .error error := hchecked
      refine .inl ⟨error, rfl, ?_⟩
      simp only [Registry.hydrate, hoffset]
  | ok =>
      refine .inr ⟨rfl, hreach.hydrate_snapshot hresolver ?_ (checkOffset_eq_ok_iff.1 hchecked)⟩
      intro command hmem
      obtain ⟨asked, hasked, hanswer⟩ := hreach.sound.resolved command hmem
      exact Set.mem_singleton_iff.1 hasked ▸ hanswer

/-- One build: the options, and a pass that makes nothing but calls while the resolver
answers as ever. -/
structure Build (resolver : Resolver) where
  options : RegistryOptions
  pass : Registry → Attempt Unit
  evolves : ∀ working : Registry, working.Evolves {resolver} (pass working).after

/-- Open the registry of a directory, rebuild it and save it, up to the first error. -/
def Build.onDisk (build : Build resolver) (files : FileTree) (directory : String) :
    Except DispatchError Snapshot × FileTree :=
  match (Store.open files directory build.options resolver).result with
  | .error error => (.error error, files)
  | .ok registry =>
      let rebuilt := registry.rebuild build.options build.pass
      match rebuilt.result with
      | .error error => (.error error, files)
      | .ok snapshot =>
          let saved := Store.save files directory rebuilt.after
          (saved.1.result.map fun _ => snapshot, saved.2)

/-- The registry that a build begins with in memory: the one that is kept, or as long as
there is none a fresh one for this build. -/
def Build.base (build : Build resolver) (current : Option Registry) : Registry :=
  current.getD (Registry.fresh build.options resolver)

/-- Rebuild the registry in memory.  A fresh one is kept if its pass succeeds. -/
def Build.inMemory (build : Build resolver) (current : Option Registry) :
    Except DispatchError Snapshot × Option Registry :=
  let rebuilt := (build.base current).rebuild build.options build.pass
  match rebuilt.result with
  | .error error => (.error error, current.map fun _ => rebuilt.after)
  | .ok snapshot => (.ok snapshot, some rebuilt.after)

/-- One build after another, each with its result and the files after it. -/
def Build.allOnDisk (files : FileTree) (directory : String) :
    List (Build resolver) → List (Except DispatchError Snapshot × FileTree)
  | [] => []
  | build :: rest =>
      let built := build.onDisk files directory
      built :: Build.allOnDisk built.2 directory rest

def Build.allInMemory (current : Option Registry) :
    List (Build resolver) → List (Except DispatchError Snapshot × Option Registry)
  | [] => []
  | build :: rest =>
      let built := build.inMemory current
      built :: Build.allInMemory built.2 rest

/-- What the file of a directory holds for a snapshot, if there is one yet. -/
def Store.content : Option Snapshot → Except FileFault Bytes
  | none => .error .notFound
  | some snapshot => .ok (Utf8.encode snapshot.pretty)

/-- The snapshot that the builds have returned last. -/
def Build.lastSnapshot? (built : List (Except DispatchError Snapshot × FileTree)) :
    Option Snapshot :=
  (built.filterMap fun build => build.1.toOption).getLast?

/-- The directory stands for the registry in memory. -/
structure Store.Reflects (resolver : Resolver) (files : FileTree) (directory : String)
    (current : Option Registry) : Prop where
  writable : Store.Writable files directory
  content : files.read (Store.path directory) = Store.content (current.map Registry.snapshot)
  reachable : ∀ registry ∈ current, registry.Reachable {resolver}
  attached : ∀ registry ∈ current, registry.resolver = some resolver

theorem Registry.Evolves.resolver_eq (hevolves : first.Evolves {resolver} last)
    (hsound : first.Sound {resolver}) (hresolver : first.resolver = some resolver) :
    last.resolver = some resolver := by
  refine (hevolves.induction (P := fun registry => registry.resolver = some resolver) hsound
    hresolver (fun _ hbefore hmove => hmove.resolver_eq hbefore) ?_).2
  intro before opened options other _ hbefore _ hother hopened
  rw [Registry.resolver_of_hydrate hopened, ← hother, hbefore]

theorem Build.onDisk_of_error (build : Build resolver) {opened : Registry}
    {error : DispatchError}
    (hopened : (Store.open files directory build.options resolver).result = .ok opened)
    (hfailed : (opened.rebuild build.options build.pass).result = .error error) :
    build.onDisk files directory = (.error error, files) := by
  unfold Build.onDisk
  simp only [hopened, hfailed]

/-- After a pass that has succeeded the directory stands for the registry it has left. -/
theorem Build.onDisk_of_ok (build : Build resolver) {opened rebuilt : Registry}
    {snapshot : Snapshot}
    (hopened : (Store.open files directory build.options resolver).result = .ok opened)
    (hsucceeded : (opened.rebuild build.options build.pass).result = .ok snapshot)
    (hafter : (opened.rebuild build.options build.pass).after = rebuilt)
    (hwritable : Store.Writable files directory) (hreach : rebuilt.Reachable {resolver})
    (hresolver : rebuilt.resolver = some resolver) :
    (build.onDisk files directory).1 = .ok snapshot ∧
      Store.Reflects resolver (build.onDisk files directory).2 directory (some rebuilt) := by
  obtain ⟨written, hwritten, hholds⟩ := hwritable.write rebuilt.snapshot.pretty
  have hbuilt : build.onDisk files directory = (.ok snapshot, written) := by
    unfold Build.onDisk Store.save
    simp only [hopened, hsucceeded, hafter, hwritten]
    rfl
  rw [hbuilt]
  refine ⟨rfl, hholds.writable, hholds.read, ?_, ?_⟩
  · rintro _ ⟨⟩
    exact hreach
  · rintro _ ⟨⟩
    exact hresolver

theorem Registry.rebuild_of_offset {options : RegistryOptions} {error : DispatchError}
    (hchecked : checkOffset registry.offset options = .error error)
    (pass : Registry → Attempt Unit) :
    (registry.rebuild options pass).result = .error error := by
  unfold Registry.rebuild
  rw [hchecked]
  rfl

theorem Build.inMemory_of_error (build : Build resolver) {current : Option Registry}
    {error : DispatchError}
    (hfailed : ((build.base current).rebuild build.options build.pass).result = .error error) :
    build.inMemory current = (.error error, current) := by
  unfold Build.inMemory
  simp only [hfailed, Registry.rebuild_of_error hfailed]
  cases current <;> rfl

theorem Build.inMemory_of_ok (build : Build resolver) {current : Option Registry}
    {snapshot : Snapshot}
    (hsucceeded : ((build.base current).rebuild build.options build.pass).result =
      .ok snapshot) :
    build.inMemory current =
      (.ok snapshot, some ((build.base current).rebuild build.options build.pass).after) := by
  unfold Build.inMemory
  simp only [hsucceeded]

/-- What is in memory is the registry of the last success. -/
theorem Build.snapshot_inMemory (build : Build resolver) (current : Option Registry) :
    (build.inMemory current).2.map Registry.snapshot =
      (build.inMemory current).1.toOption.or (current.map Registry.snapshot) := by
  cases hresult : ((build.base current).rebuild build.options build.pass).result with
  | error error =>
      rw [build.inMemory_of_error hresult]
      rfl
  | ok snapshot =>
      rw [build.inMemory_of_ok hresult, (Registry.rebuild_of_ok hresult).2,
        (Registry.rebuild_of_ok hresult).1]
      rfl

theorem Store.Reflects.reachable_base {current : Option Registry}
    (hreflects : Store.Reflects resolver files directory current) (build : Build resolver) :
    (build.base current).Reachable {resolver} ∧
      (build.base current).resolver = some resolver := by
  cases current with
  | none => exact ⟨Registry.reachable_fresh build.options resolver, rfl⟩
  | some registry => exact ⟨hreflects.reachable registry rfl, hreflects.attached registry rfl⟩

/-- Opening fails like the rebuild, or leads to a registry on which the rebuild comes to
the same. -/
theorem Store.Reflects.open {current : Option Registry}
    (hreflects : Store.Reflects resolver files directory current) (build : Build resolver) :
    (∃ error, (Store.open files directory build.options resolver).result = .error error ∧
      ((build.base current).rebuild build.options build.pass).result = .error error) ∨
    ∃ opened, (Store.open files directory build.options resolver).result = .ok opened ∧
      (opened.rebuild build.options build.pass).result =
        ((build.base current).rebuild build.options build.pass).result ∧
      ∀ snapshot, ((build.base current).rebuild build.options build.pass).result = .ok snapshot →
        (opened.rebuild build.options build.pass).after =
          ((build.base current).rebuild build.options build.pass).after := by
  cases current with
  | none =>
      have hopened := Store.open_of_absent hreflects.content build.options resolver
      exact .inr ⟨_, hopened, rfl, fun _ _ => rfl⟩
  | some registry =>
      obtain ⟨hreach, hresolver⟩ := hreflects.reachable_base build
      rcases Store.open_snapshot hreach hresolver hreflects.content build.options with
        ⟨error, hchecked, hopened⟩ | ⟨-, hopened⟩
      · exact .inl ⟨error, hopened, Registry.rebuild_of_offset hchecked build.pass⟩
      · exact .inr ⟨_, hopened, registry.rebuild_working build.options build.pass⟩

theorem Store.Reflects.build {current : Option Registry}
    (hreflects : Store.Reflects resolver files directory current) (build : Build resolver) :
    (build.onDisk files directory).1 = (build.inMemory current).1 ∧
      Store.Reflects resolver (build.onDisk files directory).2 directory
        (build.inMemory current).2 := by
  rcases hreflects.open build with ⟨error, hopened, hfailed⟩ | ⟨opened, hopened, hsame, hafter⟩
  · have hbuilt : build.onDisk files directory = (.error error, files) := by
      unfold Build.onDisk
      simp only [hopened]
    rw [hbuilt, build.inMemory_of_error hfailed]
    exact ⟨rfl, hreflects⟩
  · cases hresult : ((build.base current).rebuild build.options build.pass).result with
    | error error =>
        rw [build.onDisk_of_error hopened (hsame.trans hresult), build.inMemory_of_error hresult]
        exact ⟨rfl, hreflects⟩
    | ok snapshot =>
        obtain ⟨hreach, hresolver⟩ := hreflects.reachable_base build
        have hevolves : (build.base current).Evolves {resolver}
            ((build.base current).rebuild build.options build.pass).after :=
          .rebuild (.refl _) build.options build.pass (build.evolves _)
        rw [build.inMemory_of_ok hresult]
        exact build.onDisk_of_ok hopened (hsame.trans hresult) (hafter snapshot hresult)
          hreflects.writable (hreach.evolves hevolves)
          (hevolves.resolver_eq hreach.sound hresolver)

theorem Build.lastSnapshot?_cons (build : Except DispatchError Snapshot × FileTree)
    (rest : List (Except DispatchError Snapshot × FileTree)) :
    Build.lastSnapshot? (build :: rest) =
      (Build.lastSnapshot? rest).or build.1.toOption := by
  unfold Build.lastSnapshot?
  rw [List.filterMap_cons]
  cases build.1.toOption with
  | none => exact Option.or_none.symm
  | some snapshot =>
      rw [List.getLast?_cons]
      cases (List.filterMap _ rest).getLast? <;> rfl

theorem Store.Reflects.builds {current : Option Registry}
    (hreflects : Store.Reflects resolver files directory current)
    (builds : List (Build resolver)) :
    List.Forall₂ (fun onDisk inMemory => onDisk.1 = inMemory.1 ∧
        onDisk.2.read (Store.path directory) =
          Store.content (inMemory.2.map Registry.snapshot))
      (Build.allOnDisk files directory builds) (Build.allInMemory current builds) := by
  induction builds generalizing files current with
  | nil => exact .nil
  | cons build rest ih =>
      obtain ⟨hresult, hlater⟩ := hreflects.build build
      exact .cons ⟨hresult, hlater.content⟩ (ih hlater)

theorem Store.Reflects.content_of_builds {current : Option Registry}
    (hreflects : Store.Reflects resolver files directory current)
    (builds : List (Build resolver)) {position : Nat}
    {built : Except DispatchError Snapshot × FileTree}
    (hbuilt : (Build.allOnDisk files directory builds)[position]? = some built) :
    built.2.read (Store.path directory) = Store.content
      ((Build.lastSnapshot? ((Build.allOnDisk files directory builds).take (position + 1))).or
        (current.map Registry.snapshot)) := by
  induction builds generalizing files current position with
  | nil => cases hbuilt
  | cons build rest ih =>
      obtain ⟨hresult, hlater⟩ := hreflects.build build
      have hkept := build.snapshot_inMemory current
      rw [← hresult] at hkept
      rw [Build.allOnDisk, List.take_succ_cons, Build.lastSnapshot?_cons, Option.or_assoc,
        ← hkept]
      cases position with
      | zero =>
          obtain rfl : build.onDisk files directory = built := Option.some.inj hbuilt
          exact hlater.content
      | succ position => exact ih hlater hbuilt

/-- In a directory without a snapshot that can be written to, a sequence of builds has
the results of the same rebuilds of one registry in memory.  After each of them the file
holds the text of the snapshot of this registry, which is the last one that was returned,
and there is no file as long as there was none. -/
theorem Store.lifecycle (hwritable : Store.Writable files directory)
    (habsent : files.read (Store.path directory) = .error .notFound)
    (builds : List (Build resolver)) :
    List.Forall₂ (fun onDisk inMemory => onDisk.1 = inMemory.1 ∧
        onDisk.2.read (Store.path directory) =
          Store.content (inMemory.2.map Registry.snapshot))
      (Build.allOnDisk files directory builds) (Build.allInMemory none builds) ∧
    ∀ position built, (Build.allOnDisk files directory builds)[position]? = some built →
      built.2.read (Store.path directory) = Store.content
        (Build.lastSnapshot? ((Build.allOnDisk files directory builds).take (position + 1))) := by
  have hreflects : Store.Reflects resolver files directory none :=
    ⟨hwritable, habsent, by simp, by simp⟩
  refine ⟨hreflects.builds builds, ?_⟩
  intro position built hbuilt
  simpa using hreflects.content_of_builds builds hbuilt

mutual
/-- The step attaches no resolver but those of `answers`. -/
def Step.AttachesIn (answers : Set Resolver) : Step → Prop
  | .attach resolver => resolver ∈ answers
  | .rebuild _ pass => Step.AllAttachIn answers pass
  | .tolerate step => step.AttachesIn answers
  | .register _ _ | .abort _ => True

def Step.AllAttachIn (answers : Set Resolver) : List Step → Prop
  | [] => True
  | step :: rest => step.AttachesIn answers ∧ Step.AllAttachIn answers rest
end

mutual
theorem Step.run_evolves : ∀ {step : Step} (registry : Registry), step.AttachesIn answers →
    registry.Evolves answers (step.run registry).after
  | .register name spec, registry, _ => .register (.refl registry) name spec
  | .attach resolver, registry, hattaches => .attach (.refl registry) hattaches
  | .abort error, registry, _ => .refl registry
  | .tolerate step, registry, hattaches => by
      unfold Step.run
      rw [Attempt.after_tolerated]
      exact Step.run_evolves registry hattaches
  | .rebuild options pass, registry, hattaches =>
      .rebuild (.refl registry) options (Step.runAll pass)
        (Step.runAll_evolves registry.working hattaches)

theorem Step.runAll_evolves : ∀ {pass : List Step} (registry : Registry),
    Step.AllAttachIn answers pass → registry.Evolves answers (Step.runAll pass registry).after
  | [], registry, _ => .refl registry
  | step :: rest, registry, hattaches => by
      have hstep := Step.run_evolves registry hattaches.1
      have hrest := Step.runAll_evolves (step.run registry).after hattaches.2
      unfold Step.runAll Attempt.andThen
      split
      · exact hstep
      · exact hstep.trans hrest
end

def Build.ofSteps (options : RegistryOptions) (pass : List Step)
    (hattaches : Step.AllAttachIn {resolver} pass) : Build resolver :=
  ⟨options, Step.runAll pass, fun working => Step.runAll_evolves working hattaches⟩

/-- A build that is given up, one that begins ids at two, one that asks for another
offset, and one with a rebuild inside. -/
def Build.sample : List (Build sampleSchema.resolver) :=
  [.ofSteps {} [.register "@a/first" ⟨"@a/request", none, none⟩, .abort .idSpaceExhausted]
      ⟨trivial, trivial, trivial⟩,
    .ofSteps ⟨some 2⟩ [.register "@a/first" ⟨"@a/request", none, none⟩] ⟨trivial, trivial⟩,
    .ofSteps ⟨some 4⟩ [] trivial,
    .ofSteps {} [.rebuild {} [.register "@a/second" ⟨"@a/request", none, none⟩]]
      ⟨⟨trivial, trivial⟩, trivial⟩]

theorem Store.lifecycle_sample :
    Store.Writable (FileTree.below 2) "out/kept" ∧
      (FileTree.below 2).read (Store.path "out/kept") = .error .notFound ∧
      (Build.allInMemory none Build.sample).map (fun kept => kept.1.toOption.map Snapshot.version) =
        [none, some 1, none, some 2] ∧
      List.Forall₂ (fun onDisk inMemory => onDisk.1 = inMemory.1 ∧
          onDisk.2.read (Store.path "out/kept") =
            Store.content (inMemory.2.map Registry.snapshot))
        (Build.allOnDisk (FileTree.below 2) "out/kept" Build.sample)
        (Build.allInMemory none Build.sample) := by
  let written := (Store.writeText (FileTree.below 2) "out/kept" (Store.path "out/kept") "").2
  have hwrite : (Store.writeText (FileTree.below 2) "out/kept" (Store.path "out/kept") "").1 =
      .ok () := by decide +kernel
  have hread : written.read (Store.path "out/kept") = .ok (Utf8.encode "") := by decide +kernel
  have hwritable : Store.Writable (FileTree.below 2) "out/kept" :=
    ⟨"", written, Prod.ext hwrite rfl, hread⟩
  have habsent : (FileTree.below 2).read (Store.path "out/kept") = .error .notFound := by
    decide +kernel
  exact ⟨hwritable, habsent, rfl, (Store.lifecycle hwritable habsent Build.sample).1⟩

end CommandRegistry
