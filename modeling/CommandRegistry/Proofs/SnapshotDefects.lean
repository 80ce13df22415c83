/-
Files from which no snapshot can be read.  Reading counts the members that fill a field: a
second one is refused when it comes, and a missing one is found at the end.
-/
import CommandRegistry.Proofs.SnapshotLayouts

namespace CommandRegistry

/-- The members of a file from which no snapshot can be read. -/
inductive Snapshot.Unreadable (members : List (String × List Char)) : Prop
  | twice (hhandlers : "handlers" ∈ members.map Prod.fst)
      (hschema : "schema" ∈ members.map Prod.fst) : Unreadable members
  | noVersion (hversion : "version" ∉ members.map Prod.fst) : Unreadable members
  | noRecords (hhandlers : "handlers" ∉ members.map Prod.fst)
      (hschema : "schema" ∉ members.map Prod.fst) : Unreadable members
  | record {recordKey field : String} {value item : List Char} {items : List (List Char)}
      {fields : List (String × List Char)} (hkey : recordKey ∈ Snapshot.recordKeys)
      (hmember : (recordKey, value) ∈ members) (harray : Json.ArrayOf items value)
      (hitem : item ∈ items) (hobject : Json.ObjectOf fields item)
      (hfield : field ∈ CommandRecord.fieldNames) (hlacks : field ∉ fields.map Prod.fst) :
      Unreadable members

variable {σ α : Type} {take : σ → String → Tree → Reading σ} {members : List (String × List Char)}
  {held : List (StringToken × Tree)} {name : String} {tree : Tree} {trees : List Tree}
  {record : CommandRecord} {snapshot : Snapshot} {chars : List Char} {text : String}
  {P : String × List Char → Tree → Prop}

/-- Where all members are read, each of them is. -/
theorem Tree.exists_take_of_readMembers
    (hheld : List.Forall₂ (Json.MemberRead P) members held) {passed : Nat} {filled final : σ}
    (hread : Tree.readMembers take passed filled held = .ok final) :
    ∀ member ∈ members, ∃ before tree after, P member tree ∧
      take before member.1 tree = .ok after := by
  induction hheld generalizing passed filled with
  | nil => exact List.forall_mem_nil _
  | @cons member part members held hmember _ ih =>
      obtain ⟨hkey, hknown⟩ := hmember
      rw [Tree.readMembers, hkey] at hread
      cases htake : take filled member.1 part.2 with
      | error error => simp [htake, Reading.after] at hread
      | ok next =>
          simp only [htake, Reading.after] at hread
          exact List.forall_mem_cons.2 ⟨⟨filled, part.2, next, hknown, htake⟩, ih hread⟩

theorem Reading.fill_eq_ok {field : Option α} {reading : Reading α} {value : α}
    (hfill : Reading.fill field name reading = .ok value) :
    field = none ∧ reading = .ok value := by
  unfold Reading.fill at hfill
  cases field with
  | some => simp at hfill
  | none =>
      cases reading with
      | error => simp [Reading.after] at hfill
      | ok => simpa [Reading.after] using hfill

theorem Reading.map_eq_ok {reading : Reading α} {f : α → σ} {result : σ}
    (hmap : reading.map f = .ok result) : ∃ value, reading = .ok value ∧ f value = result := by
  cases reading with
  | error => simp [Except.map] at hmap
  | ok value => exact ⟨value, rfl, by simpa [Except.map] using hmap⟩

/-- How a count of filled fields grows with a member: by one under these keys, and not at
all under others. -/
def Tree.Counts (take : σ → String → Tree → Reading σ) (filled : σ → Bool)
    (keys : List String) : Prop :=
  ∀ before name tree after, take before name tree = .ok after →
    (filled after).toNat = (filled before).toNat + if name ∈ keys then 1 else 0

theorem Tree.Counts.readMembers {filled : σ → Bool} {keys : List String}
    (hcounts : Tree.Counts take filled keys)
    (hheld : List.Forall₂ (Json.MemberRead P) members held) {passed : Nat} {before after : σ}
    (hread : Tree.readMembers take passed before held = .ok after) :
    (filled after).toNat =
      (filled before).toNat + (Json.namesAmong keys members).length := by
  induction hheld generalizing passed before with
  | nil =>
      rw [Tree.readMembers, Except.ok.injEq] at hread
      rw [hread]
      rfl
  | @cons member part members held hmember _ ih =>
      rw [Tree.readMembers, hmember.1] at hread
      cases htake : take before member.1 part.2 with
      | error error => simp [htake, Reading.after] at hread
      | ok next =>
          simp only [htake, Reading.after] at hread
          rw [ih hread, hcounts _ _ _ _ htake, Json.namesAmong_cons]
          split_ifs
          · rw [List.length_cons]
            omega
          · rfl

/-- A field that ends up filled was filled by one member. -/
theorem Tree.Counts.exists_only {filled : σ → Bool} {keys : List String}
    (hcounts : Tree.Counts take filled keys)
    (hheld : List.Forall₂ (Json.MemberRead P) members held) {passed : Nat} {before after : σ}
    (hread : Tree.readMembers take passed before held = .ok after)
    (hbefore : filled before = false) (hafter : filled after = true) :
    ∃ only, Json.namesAmong keys members = [only] := by
  have hcount := hcounts.readMembers hheld hread
  rw [hbefore, hafter, Bool.toNat_true, Bool.toNat_false, Nat.zero_add] at hcount
  exact List.length_eq_one_iff.1 hcount.symm

theorem Json.mem_of_namesAmong_eq {keys : List String} {only : String}
    (honly : Json.namesAmong keys members = [only]) :
    only ∈ members.map Prod.fst ∧ only ∈ keys :=
  Json.mem_namesAmong.1 (honly ▸ List.mem_singleton_self only)

theorem Reading.require_eq_ok {field : Option α} {size : Nat} {value : α}
    (hrequire : Reading.require field name size = .ok value) : field.isSome = true := by
  cases field with
  | none => simp [Reading.require] at hrequire
  | some => rfl

theorem Reading.bind_eq_ok {reading : Reading α} {next : α → Reading σ} {result : σ}
    (hbind : (reading >>= next) = .ok result) :
    ∃ value, reading = .ok value ∧ next value = .ok result := by
  cases reading with
  | error => simp [bind, Except.bind] at hbind
  | ok value => exact ⟨value, rfl, hbind⟩

/-- All that reading a member of a record can do. -/
theorem RecordFields.take_eq_ok {before after : RecordFields}
    (htake : RecordFields.take before name tree = .ok after) :
    (name = "id" ∧ before.id = none ∧ ∃ id, after = { before with id := some id }) ∨
    (name = "name" ∧ before.name = none ∧ ∃ text, after = { before with name := some text }) ∨
    (name = "requestType" ∧ before.requestType = none ∧
      ∃ text, after = { before with requestType := some text }) ∨
    (name = "version" ∧ before.version = none ∧
      ∃ version, after = { before with version := some version }) ∨
    (name ∉ CommandRecord.fieldNames ∧ after = before) := by
  unfold RecordFields.take at htake
  split_ifs at htake with hid hname htype hversion
  · obtain ⟨value, hfill, rfl⟩ := Reading.map_eq_ok htake
    exact .inl ⟨hid, (Reading.fill_eq_ok hfill).1, value, rfl⟩
  · obtain ⟨value, hfill, rfl⟩ := Reading.map_eq_ok htake
    exact .inr (.inl ⟨hname, (Reading.fill_eq_ok hfill).1, value, rfl⟩)
  · obtain ⟨value, hfill, rfl⟩ := Reading.map_eq_ok htake
    exact .inr (.inr (.inl ⟨htype, (Reading.fill_eq_ok hfill).1, value, rfl⟩))
  · obtain ⟨value, hfill, rfl⟩ := Reading.map_eq_ok htake
    exact .inr (.inr (.inr (.inl ⟨hversion, (Reading.fill_eq_ok hfill).1, value, rfl⟩)))
  · obtain ⟨-, -, rfl⟩ := Reading.map_eq_ok htake
    refine .inr (.inr (.inr (.inr ⟨?_, rfl⟩)))
    simp [CommandRecord.fieldNames, hid, hname, htype, hversion]

/-- Whether the field of this name is filled. -/
def RecordFields.has (filled : RecordFields) : String → Bool
  | "id" => filled.id.isSome
  | "name" => filled.name.isSome
  | "requestType" => filled.requestType.isSome
  | "version" => filled.version.isSome
  | _ => false

theorem RecordFields.has_empty (field : String) : RecordFields.has {} field = false := by
  unfold RecordFields.has
  split <;> rfl

theorem RecordFields.counts {field : String} (hfield : field ∈ CommandRecord.fieldNames) :
    Tree.Counts RecordFields.take (·.has field) [field] := by
  intro before name tree after htake
  have hfields : field = "id" ∨ field = "name" ∨ field = "requestType" ∨ field = "version" := by
    simpa [CommandRecord.fieldNames] using hfield
  rcases RecordFields.take_eq_ok htake with ⟨rfl, hnone, value, rfl⟩ | ⟨rfl, hnone, value, rfl⟩ |
    ⟨rfl, hnone, value, rfl⟩ | ⟨rfl, hnone, value, rfl⟩ | ⟨hunknown, rfl⟩
  · rcases hfields with rfl | rfl | rfl | rfl <;> simp [RecordFields.has, hnone]
  · rcases hfields with rfl | rfl | rfl | rfl <;> simp [RecordFields.has, hnone]
  · rcases hfields with rfl | rfl | rfl | rfl <;> simp [RecordFields.has, hnone]
  · rcases hfields with rfl | rfl | rfl | rfl <;> simp [RecordFields.has, hnone]
  · have hname : name ∉ [field] := by
      simpa using (ne_of_mem_of_not_mem hfield hunknown).symm
    rw [if_neg hname]
    rfl

theorem RecordFields.has_of_finish {filled : RecordFields} {size : Nat}
    (hfinish : filled.finish size = .ok record) :
    ∀ field ∈ CommandRecord.fieldNames, filled.has field = true := by
  unfold RecordFields.finish at hfinish
  obtain ⟨id, hid, hfinish⟩ := Reading.bind_eq_ok hfinish
  obtain ⟨name, hname, hfinish⟩ := Reading.bind_eq_ok hfinish
  obtain ⟨requestType, htype, hfinish⟩ := Reading.bind_eq_ok hfinish
  obtain ⟨version, hversion, -⟩ := Reading.bind_eq_ok hfinish
  simp [CommandRecord.fieldNames, RecordFields.has, Reading.require_eq_ok hid,
    Reading.require_eq_ok hname, Reading.require_eq_ok htype, Reading.require_eq_ok hversion]

/-- An object without one of the fields of a record is not read as a record. -/
theorem CommandRecord.mem_names_of_ofTree
    (hheld : List.Forall₂ (Json.MemberRead P) members held)
    (hread : CommandRecord.ofTree (.object held .closed) = .ok record) {field : String}
    (hfield : field ∈ CommandRecord.fieldNames) : field ∈ members.map Prod.fst := by
  unfold CommandRecord.ofTree at hread
  obtain ⟨filled, hmembers, hread⟩ := Reading.bind_eq_ok hread
  obtain ⟨final, hending, hfinish⟩ := Reading.bind_eq_ok hread
  obtain rfl : filled = final := by simpa [Ending.finish] using hending
  obtain ⟨only, honly⟩ := (RecordFields.counts hfield).exists_only hheld hmembers
    (RecordFields.has_empty field) (RecordFields.has_of_finish hfinish field hfield)
  obtain ⟨hmem, hsame⟩ := Json.mem_of_namesAmong_eq honly
  exact List.mem_singleton.1 hsame ▸ hmem

theorem CommandRecord.ofTree_of_listOfTree {values : List (List Char)}
    {P : List Char → Tree → Prop} {records : List CommandRecord}
    (htrees : List.Forall₂ P values trees)
    (hread : CommandRecord.listOfTree (.array trees .closed) = .ok records) :
    ∀ value ∈ values, ∃ tree record, P value tree ∧ CommandRecord.ofTree tree = .ok record := by
  unfold CommandRecord.listOfTree at hread
  obtain ⟨records, hitems, -⟩ := Reading.bind_eq_ok hread
  clear hread
  generalize 1 = passed at hitems
  induction htrees generalizing passed records with
  | nil => exact List.forall_mem_nil _
  | @cons value tree values trees htree _ ih =>
      rw [CommandRecord.listOfItems] at hitems
      obtain ⟨record, hrecord, hitems⟩ := Reading.bind_eq_ok hitems
      obtain ⟨others, hothers, -⟩ := Reading.bind_eq_ok hitems
      have hfirst : CommandRecord.ofTree tree = .ok record := by
        cases hcase : CommandRecord.ofTree tree with
        | error => simp [hcase, Reading.after] at hrecord
        | ok => simpa [hcase, Reading.after] using hrecord
      exact List.forall_mem_cons.2 ⟨⟨tree, record, htree, hfirst⟩, ih _ _ hothers⟩

/-- All that reading a member of a snapshot can do. -/
theorem SnapshotFields.take_eq_ok {before after : SnapshotFields}
    (htake : SnapshotFields.take before name tree = .ok after) :
    (name = "version" ∧ before.version = none ∧
      ∃ version, after = { before with version := some version }) ∨
    (name = "offset" ∧ before.offset = none ∧
      ∃ offset, after = { before with offset := some offset }) ∨
    (name ∈ Snapshot.recordKeys ∧ before.handlers = none ∧
      ∃ records, CommandRecord.listOfTree tree = .ok records ∧
        after = { before with handlers := some records }) ∨
    (name ∉ Snapshot.fieldNames ∧ after = before) := by
  unfold SnapshotFields.take at htake
  split_ifs at htake with hversion hoffset hrecords
  · obtain ⟨value, hfill, rfl⟩ := Reading.map_eq_ok htake
    exact .inl ⟨hversion, (Reading.fill_eq_ok hfill).1, value, rfl⟩
  · obtain ⟨value, hfill, rfl⟩ := Reading.map_eq_ok htake
    exact .inr (.inl ⟨hoffset, (Reading.fill_eq_ok hfill).1, value, rfl⟩)
  · obtain ⟨value, hfill, rfl⟩ := Reading.map_eq_ok htake
    obtain ⟨hnone, hread⟩ := Reading.fill_eq_ok hfill
    exact .inr (.inr (.inl ⟨by simpa [Snapshot.recordKeys] using hrecords, hnone, value, hread,
      rfl⟩))
  · obtain ⟨-, -, rfl⟩ := Reading.map_eq_ok htake
    refine .inr (.inr (.inr ⟨?_, rfl⟩))
    simpa [Snapshot.fieldNames, Snapshot.recordKeys, hversion, hoffset] using hrecords

theorem SnapshotFields.counts_version :
    Tree.Counts SnapshotFields.take (·.version.isSome) ["version"] := by
  intro before name tree after htake
  rcases SnapshotFields.take_eq_ok htake with ⟨rfl, hnone, value, rfl⟩ | ⟨rfl, -, value, rfl⟩ |
    ⟨hkey, -, value, -, rfl⟩ | ⟨hunknown, rfl⟩
  · simp [hnone]
  · simp
  · have hname : name ≠ "version" := by
      rintro rfl
      simp [Snapshot.recordKeys] at hkey
    simp [hname]
  · have hname : name ≠ "version" := by
      rintro rfl
      simp [Snapshot.fieldNames] at hunknown
    simp [hname]

theorem SnapshotFields.counts_records :
    Tree.Counts SnapshotFields.take (·.handlers.isSome) Snapshot.recordKeys := by
  intro before name tree after htake
  rcases SnapshotFields.take_eq_ok htake with ⟨rfl, -, value, rfl⟩ | ⟨rfl, -, value, rfl⟩ |
    ⟨hkey, hnone, value, -, rfl⟩ | ⟨hunknown, rfl⟩
  · simp [Snapshot.recordKeys]
  · simp [Snapshot.recordKeys]
  · simp [hkey, hnone]
  · have hname : name ∉ Snapshot.recordKeys := by
      rintro hkey
      simp [Snapshot.fieldNames, hkey] at hunknown
    simp [hname]

/-- A file that is read has one version and its records once, and every array of records
in it is read. -/
theorem Snapshot.members_of_ofText
    (hwhole : Json.WholeObject members text) (hread : Snapshot.ofText text = .ok snapshot)
    (hmembers : ∀ member ∈ members, Json.ValueText member.2 →
      ∃ tree : Tree, P member tree ∧ tree.WrittenAs member.2) :
    (∃ only, Json.namesAmong ["version"] members = [only]) ∧
      (∃ only, Json.namesAmong Snapshot.recordKeys members = [only]) ∧
      ∀ member ∈ members, member.1 ∈ Snapshot.recordKeys →
        ∃ tree records, P member tree ∧ CommandRecord.listOfTree tree = .ok records := by
  obtain ⟨held, hheld, htokens⟩ := hwhole.exists_tree hmembers
  have htree : Snapshot.ofTree (.object held .closed) = .ok snapshot := by
    rw [Snapshot.ofText, readWhole, htokens] at hread
    cases hcase : Snapshot.ofTree (.object held .closed) with
    | error => simp [hcase] at hread
    | ok => simpa [hcase] using hread
  unfold Snapshot.ofTree at htree
  obtain ⟨filled, hfilled, htree⟩ := Reading.bind_eq_ok htree
  obtain ⟨final, hending, hfinish⟩ := Reading.bind_eq_ok htree
  obtain rfl : filled = final := by simpa [Ending.finish] using hending
  unfold SnapshotFields.finish at hfinish
  obtain ⟨version, hversion, hfinish⟩ := Reading.bind_eq_ok hfinish
  obtain ⟨handlers, hhandlers, -⟩ := Reading.bind_eq_ok hfinish
  have hone := SnapshotFields.counts_version.exists_only hheld hfilled rfl
    (Reading.require_eq_ok hversion)
  have honce := SnapshotFields.counts_records.exists_only hheld hfilled rfl
    (Reading.require_eq_ok hhandlers)
  refine ⟨hone, honce, fun member hmember hkey => ?_⟩
  obtain ⟨before, tree, after, hknown, htake⟩ :=
    Tree.exists_take_of_readMembers hheld hfilled member hmember
  rcases SnapshotFields.take_eq_ok htake with ⟨hname, -⟩ | ⟨hname, -⟩ |
    ⟨-, -, records, hrecords, -⟩ | ⟨hunknown, -⟩
  · simp [hname, Snapshot.recordKeys] at hkey
  · simp [hname, Snapshot.recordKeys] at hkey
  · exact ⟨tree, records, hknown, hrecords⟩
  · simp [Snapshot.fieldNames, hkey] at hunknown

/-- An item of an array of records without one of their fields is not read as a record. -/
theorem Json.ArrayOf.exists_unread {items : List (List Char)}
    {fields : List (String × List Char)} {item : List Char} {field : String}
    (harray : Json.ArrayOf items chars) (hitem : item ∈ items)
    (hobject : Json.ObjectOf fields item) (hfield : field ∈ CommandRecord.fieldNames)
    (hlacks : field ∉ fields.map Prod.fst) :
    ∃ tree : Tree, (∀ records, CommandRecord.listOfTree tree ≠ .ok records) ∧
      tree.WrittenAs chars := by
  have hitems : ∀ other ∈ items, ∃ tree : Tree,
      (other = item → ∀ record, CommandRecord.ofTree tree ≠ .ok record) ∧
        tree.WrittenAs other := by
    intro other hother
    by_cases hsame : other = item
    · subst hsame
      obtain ⟨held, hheld, hclosed⟩ := hobject.exists_tree fun _ _ hvalue => hvalue.exists_tree
      refine ⟨_, fun _ record hread => hlacks ?_, hclosed.writtenAs⟩
      exact CommandRecord.mem_names_of_ofTree hheld hread hfield
    · obtain ⟨tree, -, hwritten⟩ := (harray.values other hother).exists_tree
      exact ⟨tree, fun hother => absurd hother hsame, hwritten⟩
  obtain ⟨trees, htrees, hclosed⟩ := harray.written.exists_tree (List.forall₂_same.2 hitems)
  refine ⟨_, fun records hread => ?_, hclosed.writtenAs⟩
  obtain ⟨tree, record, hunread, hrecord⟩ :=
    CommandRecord.ofTree_of_listOfTree htrees hread item hitem
  exact hunread rfl record hrecord

theorem Snapshot.Unreadable.ofText_ne_ok (hunreadable : Snapshot.Unreadable members)
    (hwhole : Json.WholeObject members text) : Snapshot.ofText text ≠ .ok snapshot := by
  intro hread
  obtain ⟨⟨version, hversion⟩, ⟨recordKey, hrecordKey⟩, -⟩ :=
    Snapshot.members_of_ofText hwhole hread fun _ _ hvalue => hvalue.exists_tree
  cases hunreadable with
  | twice hhandlers hschema =>
      have hfirst : "handlers" ∈ [recordKey] :=
        hrecordKey ▸ Json.mem_namesAmong.2 ⟨hhandlers, by simp [Snapshot.recordKeys]⟩
      have hsecond : "schema" ∈ [recordKey] :=
        hrecordKey ▸ Json.mem_namesAmong.2 ⟨hschema, by simp [Snapshot.recordKeys]⟩
      rw [List.mem_singleton] at hfirst hsecond
      exact absurd (hfirst.trans hsecond.symm) (by decide)
  | noVersion hmissing =>
      obtain ⟨hmem, hname⟩ := Json.mem_of_namesAmong_eq hversion
      exact hmissing (List.mem_singleton.1 hname ▸ hmem)
  | noRecords hhandlers hschema =>
      obtain ⟨hmem, hname⟩ := Json.mem_of_namesAmong_eq hrecordKey
      obtain rfl | rfl : recordKey = "handlers" ∨ recordKey = "schema" := by
        simpa [Snapshot.recordKeys] using hname
      · exact hhandlers hmem
      · exact hschema hmem
  | @record recordKey field value item items fields hkey hmember harray hitem hobject hfield
      hlacks =>
      have hmembers : ∀ member ∈ members, Json.ValueText member.2 → ∃ tree : Tree,
          (member = (recordKey, value) → ∀ records, CommandRecord.listOfTree tree ≠ .ok records) ∧
            tree.WrittenAs member.2 := by
        intro member _ hvalue
        by_cases hsame : member = (recordKey, value)
        · subst hsame
          obtain ⟨tree, hunread, hwritten⟩ :=
            harray.exists_unread hitem hobject hfield hlacks
          exact ⟨tree, fun _ => hunread, hwritten⟩
        · obtain ⟨tree, -, hwritten⟩ := hvalue.exists_tree
          exact ⟨tree, fun hother => absurd hother hsame, hwritten⟩
      obtain ⟨-, -, hlists⟩ := Snapshot.members_of_ofText hwhole hread hmembers
      obtain ⟨tree, records, hunread, hlist⟩ := hlists _ hmember hkey
      exact hunread rfl records hlist

/-- Every file that keeps a snapshot is read as this snapshot, in whatever order its
members and those of its records stand, whatever other members stand among them, under
whichever key its records are, and with an offset of zero left out or not; and no file is
read that has its records under both keys, has no version or no records, or lacks a field
of one of them, whatever else is in it. -/
theorem Snapshot.member_layouts {text : String} {members : List (String × List Char)}
    (hwhole : Json.WholeObject members text) :
    (∀ (snapshot : Snapshot) (recordKey : String), snapshot.LaidOut recordKey members →
      Snapshot.ofText text = .ok snapshot) ∧
    (Snapshot.Unreadable members → ∃ error, Snapshot.ofText text = .error error) := by
  constructor
  · intro snapshot recordKey hlaid
    exact hlaid.ofText hwhole
  · intro hunreadable
    cases hread : Snapshot.ofText text with
    | error error => exact ⟨error, rfl⟩
    | ok snapshot => exact absurd hread (hunreadable.ofText_ne_ok hwhole)

/-- An old file: the records under the older key, no offset, and the members out of order
and among others. -/
theorem Snapshot.older_file_read :
    Snapshot.ofText (.ofList (bracketed '\x7b' '\x7d' 0 [
        memberLine 2 "schema" (bracketed '[' ']' 2 [List.replicate 4 ' ' ++
          bracketed '\x7b' '\x7d' 4 [
            memberLine 6 "version" (naturalDigits 1),
            memberLine 6 "note" (bracketed '[' ']' 6 [List.replicate 8 ' ' ++ ['n', 'u', 'l', 'l']]),
            memberLine 6 "name" (Json.quote "@a/x"),
            memberLine 6 "requestType" (Json.quote "@a/req"),
            memberLine 6 "id" (naturalDigits 0)]]),
        memberLine 2 "tool" (Json.quote "old"),
        memberLine 2 "version" (naturalDigits 2)])) =
      .ok ⟨2, 0, [⟨0, "@a/x", "@a/req", 1⟩]⟩ := by
  let note := bracketed '[' ']' 6 [List.replicate 8 ' ' ++ ['n', 'u', 'l', 'l']]
  have hnote : Json.ArrayOf [['n', 'u', 'l', 'l']] note :=
    Json.arrayOf_lines 6 8 (List.forall_mem_singleton.2 (.word List.mem_cons_self))
  let fields := [("version", naturalDigits 1), ("note", note), ("name", Json.quote "@a/x"),
    ("requestType", Json.quote "@a/req"), ("id", naturalDigits 0)]
  let record := bracketed '\x7b' '\x7d' 4
    (fields.map fun member => memberLine 6 member.1 member.2)
  have hrecord : Json.ObjectOf fields record := by
    refine Json.objectOf_lines 4 6 ?_
    simp only [fields, List.forall_mem_cons]
    exact ⟨Json.valueText_naturalDigits 1, hnote.valueText, Json.valueText_quote _,
      Json.valueText_quote _, Json.valueText_naturalDigits 0, List.forall_mem_nil _⟩
  have hfields : ∀ member ∈ fields,
      CommandRecord.Member ⟨0, "@a/x", "@a/req", 1⟩ member := by
    simp only [fields, List.forall_mem_cons]
    exact ⟨.version, .unknown (by decide), .name (Json.stringText_quote _),
      .requestType (Json.stringText_quote _), .id, List.forall_mem_nil _⟩
  let records := bracketed '[' ']' 2 [List.replicate 4 ' ' ++ record]
  have hrecords : Json.ArrayOf [record] records :=
    Json.arrayOf_lines 2 4 (List.forall_mem_singleton.2 hrecord.valueText)
  let members := [("schema", records), ("tool", Json.quote "old"), ("version", naturalDigits 2)]
  have hobject : Json.ObjectOf members (bracketed '\x7b' '\x7d' 0
      (members.map fun member => memberLine 2 member.1 member.2)) := by
    refine Json.objectOf_lines 0 2 ?_
    simp only [members, List.forall_mem_cons]
    exact ⟨hrecords.valueText, Json.valueText_quote _, Json.valueText_naturalDigits 2,
      List.forall_mem_nil _⟩
  have hlaid : Snapshot.LaidOut ⟨2, 0, [⟨0, "@a/x", "@a/req", 1⟩]⟩ "schema" members := by
    refine ⟨by decide, ?_, .inr ⟨rfl, .swap _ _ _⟩⟩
    simp only [members, List.forall_mem_cons]
    exact ⟨.records hrecords.written (.cons (.object hrecord hfields (by decide)) .nil),
      .unknown (by decide), .version, List.forall_mem_nil _⟩
  refine (Snapshot.member_layouts (.surrounded Json.blanks_nil Json.blanks_nil hobject ?_)).1
    _ _ hlaid
  rw [String.toList_ofList, List.nil_append, List.append_nil]
  rfl

end CommandRegistry
