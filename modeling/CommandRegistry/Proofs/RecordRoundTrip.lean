/-
Flat commands as request bodies.  A layout takes a record if the record has each of its
fields with their kinds, and what comes back of the body is the record again if the layout
has each field of the record.
-/
import CommandRegistry.Proofs.LayoutRoundTrip
import CommandRegistry.TypedCommand

namespace CommandRegistry

variable {record : RecordType} {value : RecordValue record} {field : Field} {item : FieldValue}
  {members kept : List (String × Json)} {names : List String} {key : String} {json : Json}

/-- The fields of a record with their values. -/
def RecordValue.entries (value : RecordValue record) : List (Field × FieldValue) :=
  record.fields.zip value.values

theorem RecordValue.length_values (value : RecordValue record) :
    value.values.length = record.fields.length := by
  simpa only [List.length_map] using congrArg List.length value.kinds

theorem RecordValue.fields_entries (value : RecordValue record) :
    value.entries.map Prod.fst = record.fields :=
  List.map_fst_zip value.length_values.ge

theorem RecordValue.values_entries (value : RecordValue record) :
    value.entries.map Prod.snd = value.values :=
  List.map_snd_zip value.length_values.le

theorem RecordValue.kind_of_mem_entries (hentry : (field, item) ∈ value.entries) :
    item.kind = field.kind := by
  have hkinds : value.entries.map (FieldValue.kind ∘ Prod.snd) =
      value.entries.map (Field.kind ∘ Prod.fst) := by
    rw [← List.map_map, ← List.map_map, value.fields_entries, value.values_entries,
      value.kinds]
  exact List.map_inj_left.1 hkinds _ hentry

theorem RecordValue.members_eq (value : RecordValue record) :
    value.members = value.entries.map fun entry => (entry.1.name, entry.2.json) :=
  List.zip_map

/-- Of the distinct fields of a record each gives its value to one member. -/
theorem RecordValue.member?_eq_some_iff (hnames : (record.fields.map Field.name).Nodup) :
    value.json.member? key = some json ↔
      ∃ field item, (field, item) ∈ value.entries ∧ field.name = key ∧ item.json = json := by
  have hkeys : value.members.map Prod.fst = record.fields.map Field.name := by
    rw [value.members_eq, ← value.fields_entries, List.map_map, List.map_map]
    rfl
  rw [RecordValue.json, Json.member?_ofMembers, Json.lookup_reverse_eq_some_iff (hkeys ▸ hnames),
    value.members_eq, List.mem_map]
  simp only [Prod.exists, Prod.mk.injEq]

/-- A layout's fields are written up to the first one that the value does not have. -/
theorem Layout.encodeFields_fault (value : Json) (fields : List Field) :
    (Layout.encodeFields value fields).fault =
      (fields.find? fun field => (field.encode? value).isNone).map Field.invalid := by
  induction fields with
  | nil => rfl
  | cons field rest ih =>
      cases hsegment : field.encode? value with
      | none => simp only [Layout.encodeFields_of_none hsegment, List.find?_cons, hsegment,
          Option.isNone_none, Option.map_some]
      | some segment =>
          simp only [Layout.encodeFields_of_some hsegment, List.find?_cons, hsegment,
            Option.isNone_some]
          exact ih

theorem FieldKind.isSome_encode?_json {kind : FieldKind} :
    (kind.encode? item.json).isSome ↔ item.kind = kind := by
  cases kind <;> cases item <;>
    simp [FieldKind.encode?, FieldValue.json, FieldValue.kind, Json.ofNatural, Json.natural?,
      Json.string?, Json.bool?]

/-- A record can be written to the fields that it has, and to no other ones. -/
theorem Field.isSome_encode?_json (hnames : (record.fields.map Field.name).Nodup) :
    (field.encode? value.json).isSome ↔ field ∈ record.fields := by
  constructor
  · intro hsome
    obtain ⟨segment, hsegment⟩ := Option.isSome_iff_exists.1 hsome
    obtain ⟨json, hmember, hkind⟩ := Option.bind_eq_some_iff.1 hsegment
    obtain ⟨own, item, hentry, hname, rfl⟩ := (RecordValue.member?_eq_some_iff hnames).1 hmember
    have hwritten : item.kind = field.kind :=
      FieldKind.isSome_encode?_json.1 (Option.isSome_of_mem hkind)
    have hsame : own = field := by
      obtain ⟨ownName, ownKind⟩ := own
      obtain ⟨fieldName, fieldKind⟩ := field
      obtain rfl : ownName = fieldName := hname
      obtain rfl : ownKind = fieldKind :=
        (RecordValue.kind_of_mem_entries hentry).symm.trans hwritten
      rfl
    rw [← value.fields_entries, ← hsame]
    exact List.mem_map_of_mem hentry
  · intro hmem
    rw [← value.fields_entries] at hmem
    obtain ⟨⟨own, item⟩, hentry, rfl⟩ := List.mem_map.1 hmem
    have hmember : value.json.member? own.name = some item.json :=
      (RecordValue.member?_eq_some_iff hnames).2 ⟨own, item, hentry, rfl, rfl⟩
    rw [Field.encode?, hmember, Option.bind_some]
    exact FieldKind.isSome_encode?_json.2 (RecordValue.kind_of_mem_entries hentry)

/-- What stops the writing of a record is the first field of the layout that the record
lacks or holds with another kind. -/
theorem Layout.encode_json_fault (hnames : (record.fields.map Field.name).Nodup)
    (layout : Layout) :
    (layout.encode value.json).fault =
      (layout.fields.find? fun field => field ∉ record.fields).map Field.invalid := by
  have hfields : layout.encode value.json = Layout.encodeFields value.json layout.fields := rfl
  have hlacks : (fun field : Field => (field.encode? value.json).isNone) =
      fun field => decide (field ∉ record.fields) := by
    funext field
    have hhas : (field.encode? value.json).isSome ↔ field ∈ record.fields :=
      Field.isSome_encode?_json hnames
    rw [Bool.eq_iff_iff, decide_eq_true_iff, ← hhas, Option.not_isSome_iff_eq_none,
      Option.isNone_iff_eq_none]
  rw [hfields, Layout.encodeFields_fault, hlacks]

theorem FieldKind.read_json (item : FieldValue) : item.kind.read item.json = .ok item := by
  cases item <;> rfl

theorem RecordType.checkMembers_eq_ok {fields : List Field}
    (hread : ∀ member ∈ members, ∀ field ∈ fields, field.name = member.1 →
      ∃ item, field.kind.read member.2 = .ok item) :
    RecordType.checkMembers fields members = .ok () := by
  induction members with
  | nil => rfl
  | cons member rest ih =>
      have hrest := ih fun other hmem => hread other (List.mem_cons_of_mem member hmem)
      rw [RecordType.checkMembers]
      split
      · exact hrest
      · rename_i field hfound
        obtain ⟨item, hitem⟩ := hread member List.mem_cons_self field
          (List.mem_of_find?_eq_some hfound) (by simpa using List.find?_some hfound)
        simp only [hitem]
        exact hrest

/-- Of the members that are there the values are read up to the first one that is not. -/
theorem RecordType.readMembers_entries {entries : List (Field × FieldValue)}
    (hkinds : ∀ entry ∈ entries, entry.2.kind = entry.1.kind)
    (hlookup : ∀ entry ∈ entries, members.lookup entry.1.name =
      if entry.1.name ∈ names then some entry.2.json else none) :
    RecordType.readMembers members (entries.map Prod.fst) =
      match (entries.map Prod.fst).find? fun field => field.name ∉ names with
      | none => .ok (entries.map Prod.snd)
      | some field => .error (.missingField field.name) := by
  induction entries with
  | nil => rfl
  | cons entry rest ih =>
      have hfirst := hlookup entry List.mem_cons_self
      have hrest := ih (fun other hmem => hkinds other (List.mem_cons_of_mem entry hmem))
        fun other hmem => hlookup other (List.mem_cons_of_mem entry hmem)
      rw [List.map_cons, RecordType.readMembers, List.find?_cons]
      by_cases hname : entry.1.name ∈ names
      · have hitem : entry.1.kind.read entry.2.json = .ok entry.2 := by
          rw [← hkinds entry List.mem_cons_self]
          exact FieldKind.read_json entry.2
        rw [hfirst, if_pos hname]
        simp only [hitem, hrest, hname, not_true_eq_false, decide_false]
        cases (rest.map Prod.fst).find? fun field => field.name ∉ names with
        | none => rfl
        | some field => rfl
      · rw [hfirst, if_neg hname]
        simp only [hname, not_false_eq_true, decide_true]

theorem RecordType.read_of_ok (hread : record.readValues json = .ok value.values) :
    record.read json = .ok value := by
  unfold RecordType.read
  split
  · rename_i values hvalues
    rw [hread, Except.ok.injEq] at hvalues
    subst hvalues
    rfl
  · rename_i hmismatch
    rw [hread] at hmismatch
    contradiction

theorem RecordType.read_of_error {mismatch : Mismatch}
    (hread : record.readValues json = .error mismatch) : record.read json = .error mismatch := by
  unfold RecordType.read
  split
  · rename_i hvalues
    rw [hread] at hvalues
    contradiction
  · rename_i hmismatch
    rw [hread, Except.error.injEq] at hmismatch
    rw [hmismatch]

/-- The members that are kept of a record fit its fields. -/
theorem RecordType.checkMembers_restricted (hnames : (record.fields.map Field.name).Nodup)
    (hkept : Json.Restricts names value.json kept) :
    RecordType.checkMembers record.fields kept = .ok () := by
  apply RecordType.checkMembers_eq_ok
  intro member hmem field hfield hname
  have hfound := hkept.sorted.lookup_eq_some_iff.2 hmem
  rw [hkept.lookup_eq] at hfound
  split at hfound
  · obtain ⟨own, item, hentry, hown, hjson⟩ :=
      (RecordValue.member?_eq_some_iff hnames).1 hfound
    have hownMem : own ∈ record.fields :=
      value.fields_entries ▸ List.mem_map.2 ⟨(own, item), hentry, rfl⟩
    obtain rfl : own = field :=
      List.inj_on_of_nodup_map hnames hownMem hfield (hown.trans hname.symm)
    refine ⟨item, ?_⟩
    rw [← hjson, ← RecordValue.kind_of_mem_entries hentry]
    exact FieldKind.read_json item
  · contradiction

/-- A record is read back of those of its members that stand under the given names; the
first field without such a member is missed. -/
theorem RecordType.read_restricted (hnames : (record.fields.map Field.name).Nodup)
    (hkept : Json.Restricts names value.json kept) :
    record.read (.object kept) =
      match record.fields.find? fun field => field.name ∉ names with
      | none => .ok value
      | some field => .error (.missingField field.name) := by
  have hlookup : ∀ entry ∈ value.entries, kept.lookup entry.1.name =
      if entry.1.name ∈ names then some entry.2.json else none := by
    intro entry hentry
    have hmember : value.json.member? entry.1.name = some entry.2.json :=
      (RecordValue.member?_eq_some_iff hnames).2 ⟨entry.1, entry.2, hentry, rfl, rfl⟩
    rw [hkept.lookup_eq, hmember]
  have hread := RecordType.readMembers_entries
    (fun entry hentry => RecordValue.kind_of_mem_entries hentry) hlookup
  rw [value.fields_entries, value.values_entries] at hread
  have hvalues : record.readValues (.object kept) =
      RecordType.readMembers kept record.fields := by
    simp only [RecordType.readValues, RecordType.checkMembers_restricted hnames hkept]
  rw [hread] at hvalues
  cases hmissing : record.fields.find? fun field => field.name ∉ names with
  | none =>
      rw [hmissing] at hvalues
      exact RecordType.read_of_ok hvalues
  | some field =>
      rw [hmissing] at hvalues
      exact RecordType.read_of_error hvalues

end CommandRegistry
