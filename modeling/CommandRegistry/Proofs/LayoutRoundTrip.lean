/-
Bodies read back.  What is written is put behind what the buffer holds and does not depend
on it.  Every field is read back from the front of whatever follows it, so the fields of a
layout come back one after another, and what was written under a declared name is what is
found under it.
-/
import CommandRegistry.Layout
import CommandRegistry.Proofs.JsonMembers
import CommandRegistry.Proofs.VarintRoundTrip

namespace CommandRegistry

/-- A text preceded by the number of its bytes. -/
def framedText (text : String) : Bytes :=
  let bytes := Utf8.encode text
  Varint.write bytes.length.toUInt64 ++ bytes

/-- The bytes of a value of this kind; a value of another kind has none. -/
def FieldKind.encode? : FieldKind → Json → Option Bytes
  | .uint, value => value.natural?.map Varint.write
  | .string, value => value.string?.map framedText
  | .bool, value => value.bool?.map fun flag => [if flag then 1 else 0]

/-- The bytes of a field of an object, which has to be there. -/
def Field.encode? (field : Field) (value : Json) : Option Bytes :=
  (value.member? field.name).bind field.kind.encode?

/-- What is written of the fields to a new buffer. -/
def Layout.encodeFields (value : Json) (fields : List Field) : Written :=
  Layout.appendFields value fields []

def Layout.encode (layout : Layout) : Json → Written :=
  layout.requestType.encode

variable {layout : Layout} {field : Field} {fields : List Field} {value item : Json}
  {written : Written} {buffer bytes segment : Bytes}

theorem FieldKind.append?_eq (kind : FieldKind) (item : Json) (buffer : Bytes) :
    kind.append? item buffer = (kind.encode? item).map (buffer ++ ·) := by
  cases kind with
  | uint =>
      simp only [FieldKind.append?, FieldKind.encode?, Varint.fst_append, Option.map_map]
      rfl
  | string =>
      simp only [FieldKind.append?, FieldKind.encode?, appendText, Varint.fst_append,
        List.append_assoc, Option.map_map]
      rfl
  | bool =>
      simp only [FieldKind.append?, FieldKind.encode?, Option.map_map]
      rfl

/-- A field leaves a buffer as it is and puts its bytes behind. -/
theorem Field.append?_eq (field : Field) (value : Json) (buffer : Bytes) :
    field.append? value buffer = (field.encode? value).map (buffer ++ ·) := by
  simp only [Field.append?, Field.encode?, FieldKind.append?_eq, Option.map_bind]
  rfl

theorem Written.onto_onto (written : Written) (buffer segment : Bytes) :
    (written.onto segment).onto buffer = written.onto (buffer ++ segment) := by
  simp only [Written.onto, List.append_assoc]

/-- A field with a segment puts it behind the buffer, and the fields after it go on there. -/
theorem Layout.appendFields_of_some (hsegment : field.encode? value = some segment)
    (buffer : Bytes) :
    Layout.appendFields value (field :: fields) buffer =
      Layout.appendFields value fields (buffer ++ segment) := by
  simp only [Layout.appendFields, Field.append?_eq, hsegment, Option.map_some]

/-- A field without a segment ends the writing. -/
theorem Layout.appendFields_of_none (hsegment : field.encode? value = none) (buffer : Bytes) :
    Layout.appendFields value (field :: fields) buffer = ⟨buffer, some field.invalid⟩ := by
  simp only [Layout.appendFields, Field.append?_eq, hsegment, Option.map_none]

/-- What is written does not depend on what the buffer held, and is put behind it. -/
theorem Layout.appendFields_eq (value : Json) (fields : List Field) (buffer : Bytes) :
    Layout.appendFields value fields buffer = (Layout.encodeFields value fields).onto buffer := by
  induction fields generalizing buffer with
  | nil => simp only [Layout.encodeFields, Layout.appendFields, Written.onto, List.append_nil]
  | cons field rest ih =>
      cases hsegment : field.encode? value with
      | none =>
          rw [Layout.encodeFields, Layout.appendFields_of_none hsegment,
            Layout.appendFields_of_none hsegment, Written.onto, List.append_nil]
      | some segment =>
          have hwritten : Layout.encodeFields value (field :: rest) =
              (Layout.encodeFields value rest).onto segment := by
            rw [Layout.encodeFields, Layout.appendFields_of_some hsegment, List.nil_append, ih]
          rw [Layout.appendFields_of_some hsegment, ih, hwritten, Written.onto_onto]

theorem Layout.append_eq (layout : Layout) (value : Json) (buffer : Bytes) :
    layout.append value buffer = (layout.encode value).onto buffer := by
  cases value with
  | object members => exact Layout.appendFields_eq (.object members) layout.fields buffer
  | _ =>
      simp only [Layout.append, Layout.encode, RequestType.encode, Layout.requestType,
        Written.onto, List.append_nil]

theorem Layout.encode_object (layout : Layout) (members : List (String × Json)) :
    layout.encode (.object members) = Layout.encodeFields (.object members) layout.fields :=
  rfl

theorem Layout.encodeFields_of_some (hsegment : field.encode? value = some segment) :
    Layout.encodeFields value (field :: fields) =
      (Layout.encodeFields value fields).onto segment := by
  rw [Layout.encodeFields, Layout.appendFields_of_some hsegment, Layout.appendFields_eq,
    List.nil_append]

theorem Layout.encodeFields_of_none (hsegment : field.encode? value = none) :
    Layout.encodeFields value (field :: fields) = ⟨[], some field.invalid⟩ :=
  Layout.appendFields_of_none hsegment []

theorem Json.natural?_eq_some_iff {word : UInt64} :
    value.natural? = some word ↔ value = .ofNatural word := by
  unfold Json.natural? Json.ofNatural
  split <;> simp_all

theorem Json.string?_eq_some_iff {text : String} :
    value.string? = some text ↔ value = .string text := by
  cases value <;> simp [Json.string?]

theorem Json.bool?_eq_some_iff {flag : Bool} :
    value.bool? = some flag ↔ value = .bool flag := by
  cases value <;> simp [Json.bool?]

/-- A length is written as a word, so a text must be shorter than the words count. -/
theorem Field.decodeText_framedText (field : Field) (text : String)
    (hsize : (Utf8.encode text).length < UInt64.size) (rest : Bytes) :
    field.decodeText (framedText text ++ rest) = .ok (text, rest) := by
  have hlength : (Utf8.encode text).length.toUInt64.toNat = (Utf8.encode text).length :=
    UInt64.toNat_ofNat_of_lt hsize
  have hsplit : Varint.split (framedText text ++ rest) =
      .ok ((Utf8.encode text).length.toUInt64, Utf8.encode text ++ rest) := by
    rw [framedText, List.append_assoc]
    exact Varint.split_write _ _
  have hlong : ¬ (Utf8.encode text ++ rest).length < (Utf8.encode text).length := by
    rw [List.length_append]
    omega
  simp only [Field.decodeText, hsplit, hlength, hlong, if_false, List.take_left,
    Utf8.decode?_encode, List.drop_left]

theorem FieldKind.decode_encode? {kind : FieldKind} {name : String}
    (hencode : kind.encode? item = some segment) (hsize : segment.length < UInt64.size)
    (rest : Bytes) : Field.decode ⟨name, kind⟩ (segment ++ rest) = .ok (item, rest) := by
  cases kind with
  | uint =>
      obtain ⟨word, hword, rfl⟩ := Option.map_eq_some_iff.1 hencode
      rw [Json.natural?_eq_some_iff.1 hword]
      simp only [Field.decode, Varint.split_write]
  | string =>
      obtain ⟨text, htext, rfl⟩ := Option.map_eq_some_iff.1 hencode
      have hshort : (Utf8.encode text).length < UInt64.size := by
        refine lt_of_le_of_lt ?_ hsize
        rw [framedText, List.length_append]
        exact Nat.le_add_left _ _
      rw [Json.string?_eq_some_iff.1 htext]
      simp only [Field.decode, Field.decodeText_framedText _ text hshort rest]
  | bool =>
      obtain ⟨flag, hflag, rfl⟩ := Option.map_eq_some_iff.1 hencode
      rw [Json.bool?_eq_some_iff.1 hflag]
      cases flag <;> rfl

/-- A field that was written of an object is read back as it is in the object. -/
theorem Field.decode_encode? (hencode : field.encode? value = some segment)
    (hsize : segment.length < UInt64.size) (rest : Bytes) :
    ∃ item, value.member? field.name = some item ∧
      field.decode (segment ++ rest) = .ok (item, rest) := by
  obtain ⟨item, hitem, hkind⟩ := Option.bind_eq_some_iff.1 hencode
  exact ⟨item, hitem, FieldKind.decode_encode? hkind hsize rest⟩

theorem Written.complete_onto (written : Written) (buffer : Bytes) :
    (written.onto buffer).complete = written.complete.map (buffer ++ ·) := by
  cases hfault : written.fault with
  | none => simp only [Written.complete, Written.onto, hfault, Except.map]
  | some fault => simp only [Written.complete, Written.onto, hfault, Except.map]

theorem Written.complete_onto_eq_ok_iff :
    (written.onto buffer).complete = .ok bytes ↔
      ∃ tail, written.complete = .ok tail ∧ bytes = buffer ++ tail := by
  rw [Written.complete_onto]
  cases written.complete with
  | error fault => simp only [Except.map, reduceCtorEq, false_and, exists_false]
  | ok tail => simp only [Except.map, Except.ok.injEq, exists_eq_left', eq_comm]

theorem Layout.encodeFields_cons_complete
    (hencode : (Layout.encodeFields value (field :: fields)).complete = .ok bytes) :
    ∃ segment tail, field.encode? value = some segment ∧
      (Layout.encodeFields value fields).complete = .ok tail ∧ bytes = segment ++ tail := by
  cases hsegment : field.encode? value with
  | none =>
      rw [Layout.encodeFields_of_none hsegment] at hencode
      cases hencode
  | some segment =>
      rw [Layout.encodeFields_of_some hsegment] at hencode
      obtain ⟨tail, htail, hbytes⟩ := Written.complete_onto_eq_ok_iff.1 hencode
      exact ⟨segment, tail, rfl, htail, hbytes⟩

theorem Layout.decodeFields_encodeFields
    (hencode : (Layout.encodeFields value fields).complete = .ok bytes)
    (hsize : bytes.length < UInt64.size) (rest : Bytes) :
    ∃ members, Layout.decodeFields fields (bytes ++ rest) = .ok (members, rest) ∧
      members.map Prod.fst = fields.map Field.name ∧
      ∀ member ∈ members, value.member? member.1 = some member.2 := by
  induction fields generalizing bytes with
  | nil =>
      obtain rfl : [] = bytes := Except.ok.inj hencode
      exact ⟨[], rfl, rfl, by simp⟩
  | cons field fields ih =>
      obtain ⟨segment, tail, hsegment, htail, rfl⟩ :=
        Layout.encodeFields_cons_complete hencode
      rw [List.length_append] at hsize
      obtain ⟨item, hitem, hfirst⟩ :=
        Field.decode_encode? hsegment (by omega) (tail ++ rest)
      obtain ⟨members, hrest, hnames, hsource⟩ := ih htail (by omega)
      refine ⟨(field.name, item) :: members, ?_, ?_, ?_⟩
      · simp only [List.append_assoc, Layout.decodeFields, hfirst, hrest]
      · rw [List.map_cons, List.map_cons, hnames]
      · intro member hmem
        rcases List.mem_cons.1 hmem with rfl | hmem
        · exact hitem
        · exact hsource member hmem

def Layout.fieldNames (layout : Layout) : List String :=
  layout.fields.map Field.name

/-- An object with exactly those members of a value that stand under the given
names, each of which the value has. -/
structure Json.Restricts (names : List String) (value : Json)
    (kept : List (String × Json)) : Prop where
  sorted : Json.KeysIncrease kept
  lookup_eq : ∀ key, kept.lookup key = if key ∈ names then value.member? key else none
  present : ∀ key ∈ names, (kept.lookup key).isSome

/-- An object without other members is kept as it is. -/
theorem Json.Restricts.eq_of_declared {names : List String}
    {members kept : List (String × Json)} (hkept : Json.Restricts names (.object members) kept)
    (hmembers : Json.KeysIncrease members) (hdeclared : ∀ member ∈ members, member.1 ∈ names) :
    kept = members := by
  apply hkept.sorted.ext hmembers
  intro key
  rw [hkept.lookup_eq]
  by_cases hkey : key ∈ names
  · exact if_pos hkey
  · rw [if_neg hkey, eq_comm]
    cases hlookup : members.lookup key with
    | none => rfl
    | some item => exact absurd (hdeclared _ (Json.mem_of_lookup hlookup)) hkey

/-- A body is read back as the declared members of what was written. -/
theorem Layout.decode_encode
    (hencode : (layout.encode value).complete = .ok bytes)
    (hsize : bytes.length < UInt64.size) :
    ∃ kept, layout.decode bytes = .ok (.object kept) ∧
      Json.Restricts layout.fieldNames value kept := by
  have hfields : (Layout.encodeFields value layout.fields).complete = .ok bytes := by
    cases value with
    | object members => exact hencode
    | _ => cases hencode
  obtain ⟨members, hdecode, hnames, hsource⟩ :=
    Layout.decodeFields_encodeFields hfields hsize []
  obtain ⟨kept, hobject, hsorted⟩ := Json.exists_ofMembers members
  have hlookup : ∀ key, kept.lookup key =
      if key ∈ layout.fieldNames then value.member? key else none := by
    intro key
    have hreversed : ∀ member ∈ members.reverse, value.member? member.1 = some member.2 :=
      fun member hmem => hsource member (List.mem_reverse.1 hmem)
    have hfound := Json.lookup_of_source (fun key => value.member? key) hreversed key
    rw [List.map_reverse, hnames] at hfound
    calc kept.lookup key = (Json.ofMembers members).member? key := by rw [hobject]; rfl
      _ = members.reverse.lookup key := Json.member?_ofMembers members key
      _ = if key ∈ (layout.fields.map Field.name).reverse then value.member? key
            else none := hfound
      _ = if key ∈ layout.fieldNames then value.member? key else none :=
          if_congr List.mem_reverse rfl rfl
  refine ⟨kept, ?_, hsorted, hlookup, ?_⟩
  · rw [List.append_nil] at hdecode
    simp only [Layout.decode, hdecode, hobject]
  · intro key hkey
    rw [hlookup, if_pos hkey]
    rw [Layout.fieldNames, ← hnames] at hkey
    obtain ⟨member, hmem, rfl⟩ := List.mem_map.1 hkey
    rw [hsource member hmem]
    rfl

end CommandRegistry
