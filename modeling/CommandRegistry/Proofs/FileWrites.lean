/-
Writes to a tree of files.  A write leaves every walk as it was and adds at most the
way to what it has made; so where one write was read back, every later one succeeds and
is read back as well.
-/
import CommandRegistry.FileTree
import CommandRegistry.Index

namespace CommandRegistry

variable {tree later : FileTree} {origin place next : FilePlace} {steps : List PathStep}
  {name : String} {node : FileNode} {path : TreePath} {content : Bytes}

theorem FileTree.directory_eq_ok_iff {above : FilePlace} {entries : List (String × FilePlace)} :
    tree.directory place = .ok (above, entries) ↔
      tree.nodes[place]? = some (.directory above entries) := by
  unfold FileTree.directory
  split <;> simp_all

theorem FileTree.hasDirectory_iff :
    tree.hasDirectory place = true ↔
      ∃ above entries, tree.nodes[place]? = some (.directory above entries) := by
  simp only [← FileTree.directory_eq_ok_iff, FileTree.hasDirectory]
  cases tree.directory place with
  | error fault => simp
  | ok found => exact iff_of_true rfl ⟨found.1, found.2, rfl⟩

theorem FileTree.find_eq_ok_iff {taken : Option FilePlace} :
    tree.find place name = .ok taken ↔
      ∃ above entries, tree.nodes[place]? = some (.directory above entries) ∧
        ¬TreePath.maxNameLength < name.utf8ByteSize ∧ entries.lookup name = taken := by
  simp only [← FileTree.directory_eq_ok_iff, FileTree.find]
  cases tree.directory place with
  | error fault => simp
  | ok found =>
      obtain ⟨above, entries⟩ := found
      by_cases hlong : TreePath.maxNameLength < name.utf8ByteSize
      · simp [hlong]
      · simp only [if_neg hlong, Except.ok.injEq, Prod.mk.injEq]
        constructor
        · intro hlookup
          exact ⟨above, entries, ⟨rfl, rfl⟩, hlong, hlookup⟩
        · rintro ⟨_, _, ⟨rfl, rfl⟩, -, hlookup⟩
          exact hlookup

theorem FileTree.step_down_eq_ok_iff :
    tree.step place (.down name) = .ok next ↔ tree.find place name = .ok (some next) := by
  unfold FileTree.step
  cases hfind : tree.find place name with
  | error fault => simp [hfind]
  | ok taken => cases taken <;> simp [hfind]

theorem FileTree.walk_append (tree : FileTree) (place : FilePlace) (front back : List PathStep) :
    tree.walk place (front ++ back) =
      match tree.walk place front with
      | .error fault => .error fault
      | .ok next => tree.walk next back := by
  induction front generalizing place with
  | nil => rfl
  | cons step front ih =>
      simp only [List.cons_append, FileTree.walk]
      cases tree.step place step with
      | error fault => rfl
      | ok next => exact ih next

/-- A walk that ends in a name leads through the directory that has it. -/
theorem FileTree.walk_down_eq_ok_iff {front : List PathStep} :
    tree.walk origin (front ++ [.down name]) = .ok next ↔
      ∃ place, tree.walk origin front = .ok place ∧ tree.find place name = .ok (some next) := by
  rw [FileTree.walk_append]
  cases tree.walk origin front with
  | error fault => simp
  | ok place =>
      simp only [FileTree.walk, ← FileTree.step_down_eq_ok_iff, Except.ok.injEq, exists_eq_left']
      cases tree.step place (.down name) <;> simp

theorem FileTree.aim_eq_ok_some_iff {entry : FileEntry} :
    tree.aim origin steps = .ok (some entry) ↔
      ∃ front, steps = front ++ [.down entry.name] ∧ tree.walk origin front = .ok entry.place ∧
        tree.find entry.place entry.name = .ok entry.taken := by
  obtain ⟨place, name, taken⟩ := entry
  constructor
  · intro haim
    unfold FileTree.aim at haim
    split at haim
    · rename_i last hlast
      obtain ⟨front, rfl⟩ := List.getLast?_eq_some_iff.1 hlast
      rw [List.dropLast_concat] at haim
      cases hwalk : tree.walk origin front with
      | error fault => simp [hwalk] at haim
      | ok above =>
          cases hfind : tree.find above last with
          | error fault => simp [hwalk, hfind, Except.map] at haim
          | ok inner =>
              simp only [hwalk, hfind, Except.map, Except.ok.injEq, Option.some.injEq,
                FileEntry.mk.injEq] at haim
              obtain ⟨rfl, rfl, rfl⟩ := haim
              exact ⟨front, rfl, hwalk, hfind⟩
    · cases hwalk : tree.walk origin steps <;> simp [hwalk, Except.map] at haim
  · rintro ⟨front, rfl, hwalk, hfind⟩
    unfold FileTree.aim
    rw [List.getLast?_concat]
    simp [hwalk, hfind, Except.map]

/-- Every directory is still there, and its names lead where they have led. -/
structure FileTree.Within (tree later : FileTree) : Prop where
  start : later.start = tree.start
  directory : ∀ (place above : FilePlace) (entries : List (String × FilePlace)),
    tree.nodes[place]? = some (.directory above entries) →
      ∃ more : List (String × FilePlace), later.nodes[place]? = some (.directory above more) ∧
        ∀ name inner, entries.lookup name = some inner → more.lookup name = some inner

theorem FileTree.Within.refl (tree : FileTree) : tree.Within tree :=
  ⟨rfl, fun _ _ entries hplace => ⟨entries, hplace, fun _ _ hlookup => hlookup⟩⟩

theorem FileTree.Within.trans {middle : FileTree} (hfirst : tree.Within middle)
    (hlast : middle.Within later) : tree.Within later := by
  refine ⟨hlast.start.trans hfirst.start, ?_⟩
  intro place above entries hplace
  obtain ⟨more, hmore, hkept⟩ := hfirst.directory place above entries hplace
  obtain ⟨most, hmost, hlater⟩ := hlast.directory place above more hmore
  exact ⟨most, hmost, fun name inner hlookup => hlater name inner (hkept name inner hlookup)⟩

theorem FileTree.Within.find (hwithin : tree.Within later)
    (hfind : tree.find place name = .ok (some next)) :
    later.find place name = .ok (some next) := by
  obtain ⟨above, entries, hplace, hshort, hlookup⟩ := FileTree.find_eq_ok_iff.1 hfind
  obtain ⟨more, hmore, hkept⟩ := hwithin.directory place above entries hplace
  exact FileTree.find_eq_ok_iff.2 ⟨above, more, hmore, hshort, hkept name next hlookup⟩

theorem FileTree.Within.step (hwithin : tree.Within later) {step : PathStep}
    (hstep : tree.step place step = .ok next) : later.step place step = .ok next := by
  cases step with
  | down name =>
      rw [FileTree.step_down_eq_ok_iff] at hstep ⊢
      exact hwithin.find hstep
  | stay | up =>
      simp only [FileTree.step] at hstep ⊢
      cases hdirectory : tree.directory place with
      | error fault => simp [hdirectory, Except.map] at hstep
      | ok found =>
          obtain ⟨more, hmore, -⟩ :=
            hwithin.directory place _ _ (FileTree.directory_eq_ok_iff.1 hdirectory)
          rw [FileTree.directory_eq_ok_iff.2 hmore]
          simpa [hdirectory, Except.map] using hstep

theorem FileTree.Within.walk (hwithin : tree.Within later)
    (hwalk : tree.walk place steps = .ok next) : later.walk place steps = .ok next := by
  induction steps generalizing place with
  | nil => exact hwalk
  | cons step steps ih =>
      rw [FileTree.walk] at hwalk ⊢
      cases hstep : tree.step place step with
      | error fault => simp [hstep] at hwalk
      | ok found =>
          rw [hwithin.step hstep]
          rw [hstep] at hwalk
          exact ih hwalk

theorem FileTree.Within.origin_eq (hwithin : tree.Within later) (path : TreePath) :
    later.origin path = tree.origin path := by
  rw [FileTree.origin, FileTree.origin, hwithin.start]

theorem FileTree.isDirectory_iff :
    tree.isDirectory origin steps = true ↔
      ∃ place, tree.walk origin steps = .ok place ∧ tree.hasDirectory place = true := by
  unfold FileTree.isDirectory
  cases tree.walk origin steps <;> simp

theorem FileTree.Within.isDirectory (hwithin : tree.Within later)
    (hdirectory : tree.isDirectory origin steps = true) :
    later.isDirectory origin steps = true := by
  obtain ⟨place, hwalk, hplace⟩ := FileTree.isDirectory_iff.1 hdirectory
  obtain ⟨above, entries, hnode⟩ := FileTree.hasDirectory_iff.1 hplace
  obtain ⟨more, hmore, -⟩ := hwithin.directory place above entries hnode
  exact FileTree.isDirectory_iff.2
    ⟨place, hwithin.walk hwalk, FileTree.hasDirectory_iff.2 ⟨above, more, hmore⟩⟩

theorem FileTree.link_of_free (hfree : tree.find place name = .ok none) (node : FileNode) :
    tree.Within (tree.link place name node) ∧
      (tree.link place name node).find place name = .ok (some tree.nodes.size) ∧
      (tree.link place name node).nodes[tree.nodes.size]? = some node := by
  obtain ⟨above, entries, hplace, hshort, hlookup⟩ := FileTree.find_eq_ok_iff.1 hfree
  have hlink : tree.link place name node = { tree with
      nodes := (tree.nodes.setIfInBounds place
        (.directory above ((name, tree.nodes.size) :: entries))).push node } := by
    rw [FileTree.link, FileTree.directory_eq_ok_iff.2 hplace]
  have hbound : place < tree.nodes.size := (Array.getElem?_eq_some_iff.1 hplace).1
  have hnodes : ∀ other < tree.nodes.size, (tree.link place name node).nodes[other]? =
      if place = other then some (.directory above ((name, tree.nodes.size) :: entries))
      else tree.nodes[other]? := by
    intro other hother
    rw [hlink, Array.getElem?_push, Array.size_setIfInBounds, if_neg (Nat.ne_of_lt hother),
      Array.getElem?_setIfInBounds]
    simp [hbound]
  refine ⟨⟨by rw [hlink], ?_⟩, ?_, ?_⟩
  · intro other above' entries' hother
    rw [hnodes other (Array.getElem?_eq_some_iff.1 hother).1]
    split
    · rename_i hsame
      subst hsame
      rw [hplace] at hother
      cases hother
      refine ⟨_, rfl, ?_⟩
      intro name' inner hname'
      rw [lookup_cons, if_neg]
      · exact hname'
      · rintro rfl
        rw [hlookup] at hname'
        contradiction
    · exact ⟨entries', hother, fun _ _ hname' => hname'⟩
  · refine FileTree.find_eq_ok_iff.2 ⟨above, (name, tree.nodes.size) :: entries, ?_, hshort, ?_⟩
    · rw [hnodes place hbound, if_pos rfl]
    · rw [lookup_cons, if_pos rfl]
  · rw [hlink, Array.getElem?_push, Array.size_setIfInBounds, if_pos rfl]

theorem FileTree.within_overwrite (hfile : tree.hasDirectory place = false) (content : Bytes) :
    tree.Within { tree with nodes := tree.nodes.setIfInBounds place (.file content) } := by
  refine ⟨rfl, ?_⟩
  intro other above entries hother
  have hne : place ≠ other := by
    rintro rfl
    rw [FileTree.hasDirectory_iff.2 ⟨above, entries, hother⟩] at hfile
    contradiction
  refine ⟨entries, ?_, fun _ _ hlookup => hlookup⟩
  rw [Array.getElem?_setIfInBounds_ne hne]
  exact hother

/-- A directory is made under a name that was free, so no walk had led there. -/
theorem FileTree.addDirectory_spec (hadded : tree.addDirectory origin steps = .ok later) :
    tree.isDirectory origin steps = false ∧ tree.Within later ∧
      later.isDirectory origin steps = true := by
  unfold FileTree.addDirectory at hadded
  split at hadded
  · contradiction
  · contradiction
  · rename_i entry haim
    obtain ⟨front, rfl, hwalk, hfind⟩ := FileTree.aim_eq_ok_some_iff.1 haim
    split at hadded
    · contradiction
    · rename_i htaken
      rw [Option.not_isSome_iff_eq_none.1 htaken] at hfind
      obtain ⟨hwithin, hfound, hnode⟩ :=
        FileTree.link_of_free hfind (.directory entry.place [])
      cases hadded
      refine ⟨?_, hwithin, FileTree.isDirectory_iff.2 ⟨tree.nodes.size, ?_, ?_⟩⟩
      · rw [Bool.eq_false_iff, ne_eq, FileTree.isDirectory_iff]
        rintro ⟨place, hled, -⟩
        obtain ⟨above, habove, hother⟩ := FileTree.walk_down_eq_ok_iff.1 hled
        rw [hwalk, Except.ok.injEq] at habove
        rw [← habove, hfind] at hother
        cases hother
      · exact FileTree.walk_down_eq_ok_iff.2 ⟨entry.place, hwithin.walk hwalk, hfound⟩
      · exact FileTree.hasDirectory_iff.2 ⟨_, _, hnode⟩

theorem FileTree.ensureDirectory_spec (hensured : tree.ensureDirectory origin steps = .ok later) :
    tree.Within later ∧ later.isDirectory origin steps = true := by
  unfold FileTree.ensureDirectory at hensured
  split at hensured
  · rename_i made hadded
    cases hensured
    exact (FileTree.addDirectory_spec hadded).2
  · split at hensured
    · rename_i hdirectory
      cases hensured
      exact ⟨.refl tree, hdirectory⟩
    · contradiction

theorem FileTree.ensureDirectories_spec
    (hensured : tree.ensureDirectories origin steps = (.ok (), later)) :
    tree.Within later ∧ later.isDirectory origin steps = true := by
  fun_induction FileTree.ensureDirectories tree origin steps generalizing later with
  | case1 steps made hmade =>
      cases hensured
      exact FileTree.ensureDirectory_spec hmade
  | case4 steps _ _ above habove made hmade ih =>
      cases hensured
      obtain ⟨hwithin, -⟩ := ih habove
      obtain ⟨hlater, hdirectory⟩ := FileTree.ensureDirectory_spec hmade
      exact ⟨hwithin.trans hlater, hdirectory⟩
  | case2 | case3 | case5 | case6 => cases hensured

/-- Where a directory is there already, nothing is made. -/
theorem FileTree.ensureDirectories_of_isDirectory
    (hdirectory : tree.isDirectory origin steps = true) :
    tree.ensureDirectories origin steps = (.ok (), tree) := by
  have hensured : tree.ensureDirectory origin steps = .ok tree := by
    unfold FileTree.ensureDirectory
    cases hadded : tree.addDirectory origin steps with
    | error fault => exact if_pos hdirectory
    | ok later =>
        rw [(FileTree.addDirectory_spec hadded).1] at hdirectory
        contradiction
  rw [FileTree.ensureDirectories, hensured]

/-- The path leads to a file with this content. -/
structure FileTree.Holds (tree : FileTree) (path : TreePath) (content : Bytes) : Prop where
  unslashed : path.slashed = false
  entry : ∃ entry place, tree.aim (tree.origin path) path.steps = .ok (some entry) ∧
    entry.taken = some place ∧ tree.nodes[place]? = some (.file content)

theorem FileTree.walk_of_aim {entry : FileEntry} (haim : tree.aim origin steps = .ok (some entry))
    (htaken : entry.taken = some place) : tree.walk origin steps = .ok place := by
  obtain ⟨front, rfl, hwalk, hfind⟩ := FileTree.aim_eq_ok_some_iff.1 haim
  rw [htaken] at hfind
  exact FileTree.walk_down_eq_ok_iff.2 ⟨entry.place, hwalk, hfind⟩

theorem FileTree.Holds.read (hholds : tree.Holds path content) :
    tree.readPath path = .ok content := by
  obtain ⟨hslashed, entry, place, haim, htaken, hfile⟩ := hholds
  simp [FileTree.readPath, FileTree.walk_of_aim haim htaken, hfile, hslashed]

/-- Put a file under an entry, whether it is taken or not. -/
def FileTree.put (tree : FileTree) (entry : FileEntry) (content : Bytes) : FileTree :=
  match entry.taken with
  | none => tree.link entry.place entry.name (.file content)
  | some place => { tree with nodes := tree.nodes.setIfInBounds place (.file content) }

theorem FileTree.writePath_eq_ok_iff :
    tree.writePath path content = .ok later ↔
      ∃ entry, tree.aim (tree.origin path) path.steps = .ok (some entry) ∧
        path.slashed = false ∧ (∀ place ∈ entry.taken, tree.hasDirectory place = false) ∧
        tree.put entry content = later := by
  unfold FileTree.writePath FileTree.put
  cases tree.aim (tree.origin path) path.steps with
  | error fault => simp
  | ok found =>
      cases found with
      | none => simp
      | some entry =>
          cases path.slashed with
          | true => simp
          | false =>
              cases htaken : entry.taken with
              | none => simp [htaken]
              | some place => by_cases hfile : tree.hasDirectory place = true <;> simp [htaken, hfile]

/-- After a write the entry leads to the file, unless it led outside the tree before. -/
theorem FileTree.put_spec {entry : FileEntry}
    (haim : tree.aim origin steps = .ok (some entry))
    (hfile : ∀ place ∈ entry.taken, tree.hasDirectory place = false ∧ place < tree.nodes.size)
    (content : Bytes) :
    tree.Within (tree.put entry content) ∧
      ∃ place, (tree.put entry content).aim origin steps =
          .ok (some { entry with taken := some place }) ∧
        (tree.put entry content).nodes[place]? = some (.file content) := by
  obtain ⟨front, rfl, hwalk, hfind⟩ := FileTree.aim_eq_ok_some_iff.1 haim
  obtain ⟨above, name, taken⟩ := entry
  cases taken with
  | none =>
      obtain ⟨hwithin, hfound, hnode⟩ := FileTree.link_of_free hfind (.file content)
      refine ⟨hwithin, tree.nodes.size, ?_, hnode⟩
      exact FileTree.aim_eq_ok_some_iff.2 ⟨front, rfl, hwithin.walk hwalk, hfound⟩
  | some place =>
      obtain ⟨hother, hbound⟩ := hfile place rfl
      have hwithin := FileTree.within_overwrite hother content
      refine ⟨hwithin, place, ?_, Array.getElem?_setIfInBounds_self_of_lt hbound⟩
      exact FileTree.aim_eq_ok_some_iff.2 ⟨front, rfl, hwithin.walk hwalk, hwithin.find hfind⟩

theorem FileTree.writePath_put {entry : FileEntry}
    (haim : tree.aim (tree.origin path) path.steps = .ok (some entry))
    (hslashed : path.slashed = false)
    (hfile : ∀ place ∈ entry.taken, tree.hasDirectory place = false ∧ place < tree.nodes.size)
    (content : Bytes) :
    tree.writePath path content = .ok (tree.put entry content) ∧
      tree.Within (tree.put entry content) ∧ (tree.put entry content).Holds path content := by
  obtain ⟨hwithin, place, hlater, hnode⟩ := FileTree.put_spec haim hfile content
  refine ⟨?_, hwithin, hslashed, { entry with taken := some place }, place, ?_, rfl, hnode⟩
  · exact FileTree.writePath_eq_ok_iff.2
      ⟨entry, haim, hslashed, fun other hother => (hfile other hother).1, rfl⟩
  · rw [hwithin.origin_eq path]
    exact hlater

/-- Where one content was written and read back, any other can be. -/
theorem FileTree.write_of_written {written : FileTree}
    (hwritten : tree.writePath path content = .ok written)
    (hread : written.readPath path = .ok content) (other : Bytes) :
    ∃ later, tree.writePath path other = .ok later ∧ tree.Within later ∧
      later.Holds path other := by
  obtain ⟨entry, haim, hslashed, hfree, rfl⟩ := FileTree.writePath_eq_ok_iff.1 hwritten
  refine ⟨tree.put entry other, FileTree.writePath_put haim hslashed ?_ other⟩
  intro place htaken
  have hother := hfree place htaken
  refine ⟨hother, Nat.lt_of_not_le fun hbound => ?_⟩
  have hput : tree.put entry content =
      { tree with nodes := tree.nodes.setIfInBounds place (.file content) } := by
    rw [FileTree.put, Option.mem_def.1 htaken]
  have hwithin := FileTree.within_overwrite hother content
  rw [← hput] at hwithin
  have hwalk := hwithin.walk (FileTree.walk_of_aim haim htaken)
  rw [← hwithin.origin_eq path] at hwalk
  have hnone : (tree.put entry content).nodes[place]? = none := by
    rw [hput]
    simpa using hbound
  simp [FileTree.readPath, hwalk, hnone] at hread

/-- A file can be overwritten. -/
theorem FileTree.Holds.write (hholds : tree.Holds path content) (other : Bytes) :
    ∃ later, tree.writePath path other = .ok later ∧ later.Holds path other := by
  obtain ⟨hslashed, entry, place, haim, htaken, hfile⟩ := hholds
  have hplace : ∀ other ∈ entry.taken,
      tree.hasDirectory other = false ∧ other < tree.nodes.size := by
    intro other hother
    obtain rfl : place = other := Option.some.inj (htaken.symm.trans hother)
    refine ⟨?_, (Array.getElem?_eq_some_iff.1 hfile).1⟩
    rw [Bool.eq_false_iff, ne_eq, FileTree.hasDirectory_iff]
    rintro ⟨above, entries, hdirectory⟩
    rw [hfile] at hdirectory
    cases hdirectory
  obtain ⟨hwritten, -, hlater⟩ := FileTree.writePath_put haim hslashed hplace other
  exact ⟨_, hwritten, hlater⟩

end CommandRegistry
