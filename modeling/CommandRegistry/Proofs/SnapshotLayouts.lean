/-
The layouts in which a snapshot may be kept.  The members of the file and of every record
may stand in any order and among unknown ones, the records under either of two keys, and
an offset of zero may be left out; every such file is read as the snapshot that it keeps.
-/
import CommandRegistry.Proofs.JsonReading

namespace CommandRegistry

def CommandRecord.fieldNames : List String :=
  ["id", "name", "requestType", "version"]

/-- The members that an object has under some of these names, in their order. -/
def Json.namesAmong (known : List String) (members : List (String × List Char)) : List String :=
  (members.map Prod.fst).filter (· ∈ known)

/-- What a member of a record may be, with its value as it is written.  A number is written
in its digits only: with a point, an exponent or a sign it is no word. -/
inductive CommandRecord.Member (record : CommandRecord) : String × List Char → Prop
  | id : Member record ("id", naturalDigits record.id)
  | name {value : List Char} (hvalue : Json.StringText record.name value) :
      Member record ("name", value)
  | requestType {value : List Char} (hvalue : Json.StringText record.requestType value) :
      Member record ("requestType", value)
  | version : Member record ("version", naturalDigits record.version)
  | unknown {name : String} {value : List Char} (hname : name ∉ CommandRecord.fieldNames) :
      Member record (name, value)

/-- An object with every field of the record once, in any order, and any other members. -/
inductive CommandRecord.LaidOut (record : CommandRecord) (chars : List Char) : Prop
  | object {members : List (String × List Char)} (hobject : Json.ObjectOf members chars)
      (hmembers : ∀ member ∈ members, record.Member member)
      (hfields : (Json.namesAmong CommandRecord.fieldNames members).Perm
        CommandRecord.fieldNames)

/-- The keys under which the records may stand. -/
def Snapshot.recordKeys : List String :=
  ["handlers", "schema"]

def Snapshot.fieldNames : List String :=
  "version" :: "offset" :: Snapshot.recordKeys

/-- What a member of a file may be if the records stand under this key. -/
inductive Snapshot.Member (snapshot : Snapshot) (recordKey : String) :
    String × List Char → Prop
  | version : Member snapshot recordKey ("version", naturalDigits snapshot.version)
  | offset : Member snapshot recordKey ("offset", naturalDigits snapshot.offset)
  | records {items : List (List Char)} {value : List Char}
      (harray : Json.ArrayText items value)
      (hitems : List.Forall₂ CommandRecord.LaidOut snapshot.handlers items) :
      Member snapshot recordKey (recordKey, value)
  | unknown {name : String} {value : List Char} (hname : name ∉ Snapshot.fieldNames) :
      Member snapshot recordKey (name, value)

/-- The members of a file: every field of the snapshot once, in any order, and any other
members; an offset of zero may be left out. -/
structure Snapshot.LaidOut (snapshot : Snapshot) (recordKey : String)
    (members : List (String × List Char)) : Prop where
  key : recordKey ∈ Snapshot.recordKeys
  member : ∀ member ∈ members, snapshot.Member recordKey member
  fields : (Json.namesAmong Snapshot.fieldNames members).Perm ["version", "offset", recordKey] ∨
    snapshot.offset = 0 ∧
      (Json.namesAmong Snapshot.fieldNames members).Perm ["version", recordKey]

variable {σ α : Type} {take : σ → String → Tree → Reading σ} {members : List (String × List Char)}
  {held : List (StringToken × Tree)} {name : String} {names known : List String} {tree : Tree}
  {trees : List Tree} {record : CommandRecord} {snapshot : Snapshot} {recordKey : String}
  {chars : List Char} {text : String} {P : String × List Char → Tree → Prop}

theorem Json.mem_namesAmong : name ∈ Json.namesAmong known members ↔
    name ∈ members.map Prod.fst ∧ name ∈ known := by
  simp only [Json.namesAmong, List.mem_filter, decide_eq_true_eq]

theorem Json.namesAmong_cons (known : List String) (member : String × List Char)
    (members : List (String × List Char)) :
    Json.namesAmong known (member :: members) =
      if member.1 ∈ known then member.1 :: Json.namesAmong known members
      else Json.namesAmong known members := by
  simp only [Json.namesAmong, List.map_cons, List.filter_cons, decide_eq_true_eq]

/-- Reading the value leads from the state in which the member is still to come to the one
in which only those behind it are. -/
def Tree.Fills (take : σ → String → Tree → Reading σ) (known : List String)
    (state : List String → σ) (member : String × List Char) (tree : Tree) : Prop :=
  ∀ names, (member.1 ∈ known → member.1 ∉ names) →
    take (state (member.1 :: names)) member.1 tree = .ok (state names)

/-- Where no known key stands twice, the state depends on nothing but the names of the
members to come. -/
theorem Tree.readMembers_fills {state : List String → σ}
    (hheld : List.Forall₂ (Json.MemberRead (Tree.Fills take known state)) members held)
    (honce : (Json.namesAmong known members).Nodup) (passed : Nat) :
    Tree.readMembers take passed (state (members.map Prod.fst)) held = .ok (state []) := by
  induction hheld generalizing passed with
  | nil => rfl
  | @cons member part members held hmember _ ih =>
      obtain ⟨hkey, htake⟩ := hmember
      rw [Json.namesAmong_cons] at honce
      have hfresh : member.1 ∈ known → member.1 ∉ members.map Prod.fst := by
        intro hknown hmem
        rw [if_pos hknown, List.nodup_cons] at honce
        exact honce.1 (Json.mem_namesAmong.2 ⟨hmem, hknown⟩)
      have hrest : (Json.namesAmong known members).Nodup := by
        split_ifs at honce
        · exact honce.of_cons
        · exact honce
      rw [Tree.readMembers, hkey, List.map_cons]
      simp only [htake _ hfresh, Reading.after]
      exact ih hrest _

/-- The fields of a record as they are filled while members with these names are to come. -/
def RecordFields.before (record : CommandRecord) (names : List String) : RecordFields where
  id := if "id" ∈ names then none else some record.id
  name := if "name" ∈ names then none else some record.name
  requestType := if "requestType" ∈ names then none else some record.requestType
  version := if "version" ∈ names then none else some record.version

theorem Reading.fill_none {reading : Reading α} {value : α} (hread : reading = .ok value)
    (name : String) : Reading.fill none name reading = .ok value := by
  rw [hread]
  rfl

theorem Tree.ignore_of_check (hcheck : tree.check = .ok ()) : tree.ignore = .ok () := by
  rw [Tree.ignore, hcheck]

theorem RecordFields.take_unknown (filled : RecordFields)
    (hname : name ∉ CommandRecord.fieldNames) (hcheck : tree.check = .ok ()) :
    RecordFields.take filled name tree = .ok filled := by
  simp only [CommandRecord.fieldNames, List.mem_cons, List.not_mem_nil, or_false, not_or] at hname
  obtain ⟨hid, hname, hrequestType, hversion⟩ := hname
  rw [RecordFields.take, if_neg hid, if_neg hname, if_neg hrequestType, if_neg hversion,
    Tree.ignore_of_check hcheck]
  rfl

theorem RecordFields.before_cons_unknown (hname : name ∉ CommandRecord.fieldNames) :
    RecordFields.before record (name :: names) = RecordFields.before record names := by
  simp only [CommandRecord.fieldNames, List.mem_cons, List.not_mem_nil, or_false, not_or] at hname
  obtain ⟨hid, hname, hrequestType, hversion⟩ := hname
  simp only [RecordFields.before, List.mem_cons, Ne.symm hid, Ne.symm hname,
    Ne.symm hrequestType, Ne.symm hversion, false_or]

/-- Before its members nothing of a record is filled. -/
theorem RecordFields.before_all (hnames : ∀ field ∈ CommandRecord.fieldNames, field ∈ names) :
    RecordFields.before record names = {} := by
  simp only [CommandRecord.fieldNames, List.forall_mem_cons] at hnames
  obtain ⟨hid, hname, hrequestType, hversion, -⟩ := hnames
  simp only [RecordFields.before, if_pos hid, if_pos hname, if_pos hrequestType, if_pos hversion]

/-- Every member of a record is read, and fills its field if it has one. -/
theorem CommandRecord.Member.exists_tree {member : String × List Char}
    (hmember : record.Member member) (hvalue : Json.ValueText member.2) :
    ∃ tree : Tree, Tree.Fills RecordFields.take CommandRecord.fieldNames (.before record)
      member tree ∧ tree.WrittenAs member.2 := by
  cases hmember with
  | id =>
      refine ⟨.ofNatural record.id, fun names hfresh => ?_, Tree.writtenAs_naturalDigits _⟩
      have hnew : "id" ∉ names := hfresh (by simp [CommandRecord.fieldNames])
      have hfill := Reading.fill_none (Tree.natural_ofNatural record.id) "id"
      simp [RecordFields.take, RecordFields.before, hfill, hnew, Except.map]
  | name hname =>
      obtain ⟨tree, hread, hwritten⟩ := hname.exists_tree
      refine ⟨tree, fun names hfresh => ?_, hwritten⟩
      have hnew : "name" ∉ names := hfresh (by simp [CommandRecord.fieldNames])
      have hfill := Reading.fill_none hread "name"
      simp [RecordFields.take, RecordFields.before, hfill, hnew, Except.map]
  | requestType htype =>
      obtain ⟨tree, hread, hwritten⟩ := htype.exists_tree
      refine ⟨tree, fun names hfresh => ?_, hwritten⟩
      have hnew : "requestType" ∉ names := hfresh (by simp [CommandRecord.fieldNames])
      have hfill := Reading.fill_none hread "requestType"
      simp [RecordFields.take, RecordFields.before, hfill, hnew, Except.map]
  | version =>
      refine ⟨.ofNatural record.version, fun names hfresh => ?_, Tree.writtenAs_naturalDigits _⟩
      have hnew : "version" ∉ names := hfresh (by simp [CommandRecord.fieldNames])
      have hfill := Reading.fill_none (Tree.natural_ofNatural record.version) "version"
      simp [RecordFields.take, RecordFields.before, hfill, hnew, Except.map]
  | unknown hname =>
      obtain ⟨tree, hcheck, hwritten⟩ := hvalue.exists_tree
      refine ⟨tree, fun names _ => ?_, hwritten⟩
      rw [RecordFields.before_cons_unknown hname]
      exact RecordFields.take_unknown _ hname hcheck

theorem CommandRecord.LaidOut.exists_tree (hlaid : record.LaidOut chars) :
    ∃ tree : Tree, CommandRecord.ofTree tree = .ok record ∧ tree.WrittenAs chars := by
  cases hlaid with
  | @object members hobject hmembers hfields =>
      obtain ⟨held, hheld, hclosed⟩ :=
        hobject.exists_tree fun member hmember => (hmembers member hmember).exists_tree
      refine ⟨_, ?_, hclosed.writtenAs⟩
      have hnames : ∀ field ∈ CommandRecord.fieldNames, field ∈ members.map Prod.fst :=
        fun field hfield => (Json.mem_namesAmong.1 (hfields.mem_iff.2 hfield)).1
      have hread := Tree.readMembers_fills hheld (hfields.nodup_iff.2 (by decide)) 1
      rw [RecordFields.before_all hnames] at hread
      rw [CommandRecord.ofTree, hread]
      rfl

theorem CommandRecord.listOfTree_array {records : List CommandRecord}
    (htrees : List.Forall₂ (fun record tree => CommandRecord.ofTree tree = .ok record)
      records trees) :
    CommandRecord.listOfTree (.array trees .closed) = .ok records := by
  have hitems : ∀ passed, CommandRecord.listOfItems passed trees = .ok records := by
    induction htrees with
    | nil => exact fun _ => rfl
    | cons hrecord _ ih =>
        intro passed
        rw [CommandRecord.listOfItems, hrecord, ih]
        rfl
  rw [CommandRecord.listOfTree, hitems]
  rfl

/-- The fields of a snapshot as they are filled while members with these names are to come,
if the records stand under this key and the offset is this one or is not written. -/
def SnapshotFields.before (snapshot : Snapshot) (recordKey : String) (offset : Option UInt64)
    (names : List String) : SnapshotFields where
  version := if "version" ∈ names then none else some snapshot.version
  offset := if "offset" ∈ names then none else offset
  handlers := if recordKey ∈ names then none else some snapshot.handlers

theorem SnapshotFields.take_unknown (filled : SnapshotFields)
    (hname : name ∉ Snapshot.fieldNames) (hcheck : tree.check = .ok ()) :
    SnapshotFields.take filled name tree = .ok filled := by
  simp only [Snapshot.fieldNames, Snapshot.recordKeys, List.mem_cons, List.not_mem_nil,
    or_false, not_or] at hname
  obtain ⟨hversion, hoffset, hrecords⟩ := hname
  rw [SnapshotFields.take, if_neg hversion, if_neg hoffset, if_neg (not_or.2 hrecords),
    Tree.ignore_of_check hcheck]
  rfl

theorem SnapshotFields.before_cons_unknown {offset : Option UInt64}
    (hkey : recordKey ∈ Snapshot.recordKeys) (hname : name ∉ Snapshot.fieldNames) :
    SnapshotFields.before snapshot recordKey offset (name :: names) =
      SnapshotFields.before snapshot recordKey offset names := by
  simp only [Snapshot.fieldNames, List.mem_cons, not_or] at hname
  obtain ⟨hversion, hoffset, hrecords⟩ := hname
  have hrecordKey : recordKey ≠ name := ne_of_mem_of_not_mem hkey hrecords
  simp only [SnapshotFields.before, List.mem_cons, Ne.symm hversion, Ne.symm hoffset, hrecordKey,
    false_or]

theorem Snapshot.Member.exists_tree {member : String × List Char} {offset : Option UInt64}
    (hmember : snapshot.Member recordKey member) (hkey : recordKey ∈ Snapshot.recordKeys)
    (hoffset : member.1 = "offset" → offset = some snapshot.offset)
    (hvalue : Json.ValueText member.2) :
    ∃ tree : Tree, Tree.Fills SnapshotFields.take Snapshot.fieldNames
      (.before snapshot recordKey offset) member tree ∧ tree.WrittenAs member.2 := by
  have hkeys : recordKey = "handlers" ∨ recordKey = "schema" := by
    simpa [Snapshot.recordKeys] using hkey
  have hversion : recordKey ≠ "version" := by rintro rfl; simp at hkeys
  have hnotOffset : recordKey ≠ "offset" := by rintro rfl; simp at hkeys
  cases hmember with
  | version =>
      refine ⟨.ofNatural snapshot.version, fun names hfresh => ?_,
        Tree.writtenAs_naturalDigits _⟩
      have hnew : "version" ∉ names := hfresh (by simp [Snapshot.fieldNames])
      have hfill := Reading.fill_none (Tree.natural_ofNatural snapshot.version) "version"
      simp [SnapshotFields.take, SnapshotFields.before, hfill, hnew, hversion, Except.map]
  | offset =>
      refine ⟨.ofNatural snapshot.offset, fun names hfresh => ?_,
        Tree.writtenAs_naturalDigits _⟩
      have hnew : "offset" ∉ names := hfresh (by simp [Snapshot.fieldNames])
      have hfill := Reading.fill_none (Tree.natural_ofNatural snapshot.offset) "offset"
      simp [SnapshotFields.take, SnapshotFields.before, hfill, hnew, hnotOffset, Except.map,
        hoffset rfl]
  | records harray hitems =>
      obtain ⟨trees, htrees, hclosed⟩ :=
        harray.exists_tree (hitems.imp fun _ _ hrecord => hrecord.exists_tree)
      refine ⟨_, fun names hfresh => ?_, hclosed.writtenAs⟩
      have hnew : recordKey ∉ names := hfresh (List.mem_cons_of_mem _ (List.mem_cons_of_mem _ hkey))
      have hfill := Reading.fill_none (CommandRecord.listOfTree_array htrees) "handlers"
      simp [SnapshotFields.take, SnapshotFields.before, hfill, hnew, hnotOffset, hversion,
        Except.map, hkeys, Ne.symm hversion, Ne.symm hnotOffset]
  | @unknown name value hname =>
      obtain ⟨tree, hcheck, hwritten⟩ := hvalue.exists_tree
      refine ⟨tree, fun names _ => ?_, hwritten⟩
      rw [SnapshotFields.before_cons_unknown hkey hname]
      exact SnapshotFields.take_unknown _ hname hcheck

theorem Snapshot.LaidOut.nodup (hlaid : snapshot.LaidOut recordKey members) :
    (Json.namesAmong Snapshot.fieldNames members).Nodup := by
  have hkeys : recordKey = "handlers" ∨ recordKey = "schema" := by
    simpa [Snapshot.recordKeys] using hlaid.key
  rcases hlaid.fields with hfields | ⟨-, hfields⟩
  · rw [hfields.nodup_iff]
    rcases hkeys with rfl | rfl <;> decide
  · rw [hfields.nodup_iff]
    rcases hkeys with rfl | rfl <;> decide

theorem Json.mem_names_of_perm {names : List String}
    (hperm : (Json.namesAmong known members).Perm names) (hname : name ∈ names) :
    name ∈ members.map Prod.fst :=
  (Json.mem_namesAmong.1 (hperm.mem_iff.2 hname)).1

theorem Snapshot.LaidOut.mem_names (hlaid : snapshot.LaidOut recordKey members) :
    "version" ∈ members.map Prod.fst ∧ recordKey ∈ members.map Prod.fst := by
  rcases hlaid.fields with hfields | ⟨-, hfields⟩
  · exact ⟨Json.mem_names_of_perm hfields (by simp), Json.mem_names_of_perm hfields (by simp)⟩
  · exact ⟨Json.mem_names_of_perm hfields (by simp), Json.mem_names_of_perm hfields (by simp)⟩

theorem Snapshot.LaidOut.offset (hlaid : snapshot.LaidOut recordKey members) :
    "offset" ∈ members.map Prod.fst ∨ snapshot.offset = 0 := by
  rcases hlaid.fields with hfields | ⟨hzero, -⟩
  · exact .inl (Json.mem_names_of_perm hfields (by simp))
  · exact .inr hzero

/-- An object in any of these layouts is read as the snapshot, and is over with its
bracket. -/
theorem Snapshot.LaidOut.exists_tree (hlaid : snapshot.LaidOut recordKey members)
    (hobject : Json.ObjectOf members chars) :
    ∃ tree : Tree, Snapshot.ofTree tree = .ok snapshot ∧ tree.ClosedAs chars := by
  let offset := if "offset" ∈ members.map Prod.fst then some snapshot.offset else none
  have hmembers : ∀ member ∈ members, Json.ValueText member.2 →
      ∃ tree : Tree, Tree.Fills SnapshotFields.take Snapshot.fieldNames
        (.before snapshot recordKey offset) member tree ∧ tree.WrittenAs member.2 := by
    intro member hmember hvalue
    refine (hlaid.member member hmember).exists_tree hlaid.key (fun hname => ?_) hvalue
    exact if_pos (hname ▸ List.mem_map_of_mem hmember)
  obtain ⟨held, hheld, hclosed⟩ := hobject.exists_tree hmembers
  have hoffset : offset.getD 0 = snapshot.offset ∧
      (if "offset" ∈ members.map Prod.fst then none else offset) = none := by
    by_cases hmem : "offset" ∈ members.map Prod.fst
    · simp only [offset, if_pos hmem, Option.getD_some, and_self]
    · simp only [offset, if_neg hmem, Option.getD_none, hlaid.offset.resolve_left hmem, and_self]
  have hnothing : SnapshotFields.before snapshot recordKey offset (members.map Prod.fst) = {} := by
    simp only [SnapshotFields.before, if_pos hlaid.mem_names.1, if_pos hlaid.mem_names.2, hoffset.2]
  have hread := Tree.readMembers_fills hheld hlaid.nodup 1
  rw [hnothing] at hread
  have htree : Snapshot.ofTree (.object held .closed) =
      .ok ⟨snapshot.version, offset.getD 0, snapshot.handlers⟩ := by
    rw [Snapshot.ofTree, hread]
    rfl
  rw [hoffset.1] at htree
  exact ⟨_, htree, hclosed⟩

/-- What follows the object in the text decides whether the text is read. -/
theorem Snapshot.LaidOut.ofText_append (hlaid : snapshot.LaidOut recordKey members)
    (hobject : Json.ObjectOf members chars) {before rest : List Char}
    (hbefore : Json.Blanks before) (htext : text.toList = before ++ (chars ++ rest)) :
    Snapshot.ofText text =
      if rest.all isBlank then .ok snapshot else .error (.text .malformed) := by
  obtain ⟨tree, hread, hclosed⟩ := hlaid.exists_tree hobject
  have hover : (Token.ofChars rest).isEmpty = rest.all isBlank := by
    rw [Bool.eq_iff_iff, List.isEmpty_iff, Token.ofChars_eq_nil_iff, List.all_eq_true]
  rw [Snapshot.ofText, readWhole, htext, hclosed.ofTokens hbefore]
  simp only [hread, hover]

/-- A file in any of its layouts is read as the snapshot that it keeps. -/
theorem Snapshot.LaidOut.ofText (hlaid : snapshot.LaidOut recordKey members)
    (hwhole : Json.WholeObject members text) : Snapshot.ofText text = .ok snapshot := by
  cases hwhole with
  | surrounded hbefore hafter hobject htext =>
      rw [hlaid.ofText_append hobject hbefore htext, if_pos]
      exact List.all_eq_true.2 fun char hchar => isBlank_of_mem (hafter char hchar)

end CommandRegistry
