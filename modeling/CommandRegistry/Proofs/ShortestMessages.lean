/-
Messages written again.  A message may spell each of its numbers in more bytes than they
need; what has been read of it is written with the shortest ones and is read as the same.
-/
import CommandRegistry.Proofs.BodyGrammar

namespace CommandRegistry

/-- The numbers that are spelled in a segment. -/
def Segment.numbers : {kind : FieldKind} → Segment kind → List Varint.Form
  | _, .uint number => [number]
  | _, .string length _ _ => [length]
  | _, .bool _ => []

def Body.numbers : {fields : List Field} → Body fields → List Varint.Form
  | _, .nil => []
  | _, .cons segment rest => segment.numbers ++ rest.numbers

/-- The same number in the form that is written. -/
def Varint.Form.shortened (form : Varint.Form) : Varint.Form :=
  .ofWord form.word

theorem Varint.Form.word_shortened (form : Varint.Form) : form.shortened.word = form.word :=
  rfl

def Segment.shortened : {kind : FieldKind} → Segment kind → Segment kind
  | _, .uint number => .uint number.shortened
  | _, .string length text hlength =>
      .string length.shortened text (hlength.trans (by rw [length.word_shortened]))
  | _, .bool flag => .bool flag

def Body.shortened : {fields : List Field} → Body fields → Body fields
  | _, .nil => .nil
  | _, .cons segment rest => .cons segment.shortened rest.shortened

/-- A message to a command with this layout: an id and a body. -/
@[ext]
structure Message (layout : Layout) where
  header : Varint.Form
  body : Body layout.fields

variable {layout : Layout}

def Message.bytes (message : Message layout) : Bytes :=
  message.header.bytes ++ message.body.bytes

def Message.numbers (message : Message layout) : List Varint.Form :=
  message.header :: message.body.numbers

def Message.shortened (message : Message layout) : Message layout :=
  ⟨message.header.shortened, message.body.shortened⟩

variable {kind : FieldKind} {fields : List Field} {value : Json} {table : CommandTable}
  {schema : Schema} {registry : Registry} {bytes : Bytes} {envelope : Envelope}

theorem Varint.Form.length_shortened_le (form : Varint.Form) :
    form.shortened.bytes.length ≤ form.bytes.length := by
  rw [Varint.Form.shortened, Varint.Form.bytes_ofWord, Varint.length_write]
  exact form.length_le

theorem Varint.Form.shortened_eq_iff {form : Varint.Form} :
    form.shortened = form ↔ form.Shortest := by
  rw [Varint.Form.shortest_iff, ← Varint.Form.bytes_injective.eq_iff, Varint.Form.shortened,
    Varint.Form.bytes_ofWord, eq_comm]

theorem Segment.length_shortened_le (segment : Segment kind) :
    segment.shortened.bytes.length ≤ segment.bytes.length := by
  cases segment with
  | uint number => exact number.length_shortened_le
  | string length text hlength =>
      simp only [Segment.shortened, Segment.bytes, List.length_append]
      exact Nat.add_le_add_right length.length_shortened_le _
  | bool flag => exact le_rfl

theorem Segment.shortened_eq_iff {segment : Segment kind} :
    segment.shortened = segment ↔ ∀ number ∈ segment.numbers, number.Shortest := by
  cases segment with
  | uint number => simp [Segment.shortened, Segment.numbers, Varint.Form.shortened_eq_iff]
  | string length text hlength =>
      simp [Segment.shortened, Segment.numbers, Varint.Form.shortened_eq_iff]
  | bool flag => simp [Segment.shortened, Segment.numbers]

/-- What is written of the value of a segment is the segment with its shortest number. -/
theorem Segment.encode?_value (segment : Segment kind) :
    kind.encode? segment.value = some segment.shortened.bytes := by
  cases segment with
  | uint number =>
      change some (Varint.write number.word) = some (Varint.Form.ofWord number.word).bytes
      rw [Varint.Form.bytes_ofWord]
  | string length text hlength =>
      have hword : (Utf8.encode text).length.toUInt64 = length.word := by
        rw [hlength]
        exact UInt64.ofNat_toNat
      change some (framedText text) =
        some ((Varint.Form.ofWord length.word).bytes ++ Utf8.encode text)
      rw [Varint.Form.bytes_ofWord, framedText, hword]
  | bool flag => rfl

theorem Segment.value_shortened (segment : Segment kind) :
    segment.shortened.value = segment.value := by
  cases segment <;> rfl

theorem Body.length_shortened_le (body : Body fields) :
    body.shortened.bytes.length ≤ body.bytes.length := by
  induction body with
  | nil => exact le_rfl
  | cons segment rest ih =>
      simp only [Body.shortened, Body.bytes, List.length_append]
      exact Nat.add_le_add segment.length_shortened_le ih

theorem Body.shortened_eq_iff {body : Body fields} :
    body.shortened = body ↔ ∀ number ∈ body.numbers, number.Shortest := by
  induction body with
  | nil => simp [Body.shortened, Body.numbers]
  | cons segment rest ih =>
      simp only [Body.shortened, Body.numbers, Body.cons.injEq, List.forall_mem_append,
        Segment.shortened_eq_iff, ih]

theorem Body.members_shortened (body : Body fields) : body.shortened.members = body.members := by
  induction body with
  | nil => rfl
  | cons segment rest ih =>
      simp only [Body.shortened, Body.members, Segment.value_shortened, ih]

theorem Body.names_members (body : Body fields) :
    body.members.map Prod.fst = fields.map Field.name := by
  induction body with
  | nil => rfl
  | cons segment rest ih => simp only [Body.members, List.map_cons, ih]

/-- Where no name is declared twice, the object that was read has each member of its body. -/
theorem Body.lookup_of_gathers {body : Body fields} {kept : List (String × Json)}
    (hnames : (fields.map Field.name).Nodup) (hkept : Json.Gathers body.members kept) :
    ∀ member ∈ body.members, kept.lookup member.1 = some member.2 := by
  intro member hmem
  rw [← body.names_members] at hnames
  rw [hkept.lookup_eq, Json.lookup_reverse_eq_some_iff hnames]
  exact hmem

/-- Fields whose segments a value has are written as these segments with their shortest
numbers. -/
theorem Layout.encodeFields_of_members (body : Body fields)
    (hmembers : ∀ member ∈ body.members, value.member? member.1 = some member.2) :
    Layout.encodeFields value fields = ⟨body.shortened.bytes, none⟩ := by
  induction body with
  | nil => rfl
  | @cons field fields segment rest ih =>
      simp only [Body.members, List.forall_mem_cons] at hmembers
      have hfield : field.encode? value = some segment.shortened.bytes := by
        rw [Field.encode?, hmembers.1, Option.bind_some]
        exact segment.encode?_value
      rw [Layout.encodeFields_of_some hfield, ih hmembers.2]
      rfl

theorem Layout.encode_of_gathers (hnames : layout.fieldNames.Nodup) {body : Body layout.fields}
    {kept : List (String × Json)} (hkept : Json.Gathers body.members kept) :
    (layout.encode (.object kept)).complete = .ok body.shortened.bytes := by
  have hmembers : ∀ member ∈ body.members,
      (Json.object kept).member? member.1 = some member.2 :=
    Body.lookup_of_gathers hnames hkept
  have hwritten : layout.encode (.object kept) = ⟨body.shortened.bytes, none⟩ :=
    Layout.encodeFields_of_members body hmembers
  rw [hwritten]
  rfl

theorem Message.bytes_injective :
    Function.Injective (Message.bytes : Message layout → Bytes) := by
  intro left right hbytes
  obtain ⟨hheader, hbody⟩ := Varint.Form.eq_of_append hbytes
  exact Message.ext hheader (Body.bytes_injective hbody)

theorem Message.shortened_eq_iff {message : Message layout} :
    message.shortened = message ↔ ∀ number ∈ message.numbers, number.Shortest := by
  rw [Message.ext_iff, Message.numbers, List.forall_mem_cons]
  exact and_congr Varint.Form.shortened_eq_iff Body.shortened_eq_iff

theorem Message.length_shortened_le (message : Message layout) :
    message.shortened.bytes.length ≤ message.bytes.length := by
  simp only [Message.bytes, List.length_append]
  exact Nat.add_le_add message.header.length_shortened_le message.body.length_shortened_le

theorem CommandTable.decode_eq_ok_iff :
    table.decode bytes = .ok envelope ↔
      ∃ body command, Varint.split bytes = .ok (envelope.id, body) ∧
        table.getById? envelope.id = some command ∧ command.name = envelope.name ∧
        command.handle.requestType.decode body = .ok envelope.value := by
  constructor
  · intro hdecode
    obtain ⟨id, body, command, value, hsplit, hget, hbody⟩ :=
      CommandTable.parts_of_decode hdecode
    simp only [CommandTable.decode, Envelope.decodeHeader, hsplit, hget, hbody,
      Except.ok.injEq] at hdecode
    subst hdecode
    exact ⟨body, command, hsplit, hget, rfl, hbody⟩
  · rintro ⟨body, command, hsplit, hget, hname, hbody⟩
    simp only [CommandTable.decode, Envelope.decodeHeader, hsplit, hget, hname, hbody]

/-- Over a schema exactly the messages to a command are read under its id and its name. -/
theorem Registry.Sound.decode_eq_ok_iff (hsound : registry.Sound {schema.resolver}) :
    registry.compile.decode bytes = .ok envelope ↔
      ∃ command layout, registry.compile.get? envelope.name = some command ∧
        schema.find? command.record.requestType = some layout ∧
        ∃ (message : Message layout) (kept : List (String × Json)), bytes = message.bytes ∧
          message.header.word = envelope.id ∧ command.id = envelope.id ∧
          envelope.value = .object kept ∧ Json.Gathers message.body.members kept := by
  rw [CommandTable.decode_eq_ok_iff]
  constructor
  · rintro ⟨body, command, hsplit, hget, hname, hbody⟩
    obtain ⟨hmem, hid⟩ := hsound.consistent.getById?_eq_some_iff.1 hget
    obtain ⟨layout, hfind, hhandle⟩ := hsound.exists_layout hmem
    rw [hhandle] at hbody
    obtain ⟨segments, kept, rfl, hvalue, hkept⟩ := Layout.decode_eq_ok_iff.1 hbody
    obtain ⟨header, hword, rfl⟩ := Varint.split_eq_ok_iff.1 hsplit
    exact ⟨command, layout, hsound.consistent.get?_eq_some_iff.2 ⟨hmem, hname⟩, hfind,
      ⟨header, segments⟩, kept, rfl, hword, hid, hvalue, hkept⟩
  · rintro ⟨command, layout, hget, hfind, message, kept, rfl, hword, hid, hvalue, hkept⟩
    obtain ⟨hmem, hname⟩ := hsound.consistent.get?_eq_some_iff.1 hget
    have hbody : layout.decode message.body.bytes = .ok envelope.value :=
      Layout.decode_eq_ok_iff.2 ⟨message.body, kept, rfl, hvalue, hkept⟩
    refine ⟨message.body.bytes, command, Varint.split_eq_ok_iff.2 ⟨message.header, hword, rfl⟩,
      hsound.consistent.getById?_eq_some_iff.2 ⟨hmem, hid⟩, hname, ?_⟩
    rw [hsound.requestType_eq hmem hfind]
    exact hbody

/-- What is written of a message that was read is the message with its shortest numbers. -/
theorem Registry.Sound.encode_of_message (hsound : registry.Sound {schema.resolver})
    {name : String} {command : LiveCommand} (hget : registry.compile.get? name = some command)
    (hfind : schema.find? command.record.requestType = some layout)
    (hnames : layout.fieldNames.Nodup) {message : Message layout}
    (hid : message.header.word = command.id) {kept : List (String × Json)}
    (hkept : Json.Gathers message.body.members kept) :
    registry.compile.encode name (.object kept) = .ok message.shortened.bytes := by
  obtain ⟨hmem, -⟩ := hsound.consistent.get?_eq_some_iff.1 hget
  have hhandle := hsound.requestType_eq hmem hfind
  have hbody := Layout.encode_of_gathers hnames hkept
  have hheader : Envelope.encodeHeader command.id = message.header.shortened.bytes := by
    rw [Envelope.encodeHeader_eq, Varint.Form.shortened, Varint.Form.bytes_ofWord, hid]
  rw [CommandTable.encode_of_layout hget hhandle, hbody, hheader]
  rfl

/-- Over a schema that declares no name twice in a type, what has been read of a message is
written again in no more bytes, and these are read as the same.  The message is known from
its bytes, and they are the ones that are written if and only if each of its numbers, the
id, those of fields and the lengths of texts, is in its shortest form. -/
theorem Registry.Reachable.written_again (hreach : registry.Reachable {schema.resolver})
    (hnames : ∀ layout ∈ schema.layouts, layout.fieldNames.Nodup)
    (hdecode : registry.compile.decode bytes = .ok envelope) :
    ∃ again, registry.compile.encode envelope.name envelope.value = .ok again ∧
      again.length ≤ bytes.length ∧ registry.compile.decode again = .ok envelope ∧
      ∃ command layout, registry.compile.get? envelope.name = some command ∧
        schema.find? command.record.requestType = some layout ∧
        (∃! message : Message layout, message.bytes = bytes) ∧
        ∀ message : Message layout, message.bytes = bytes →
          (again = bytes ↔ ∀ number ∈ message.numbers, number.Shortest) := by
  have hsound := hreach.sound
  obtain ⟨command, layout, hget, hfind, message, kept, rfl, hword, hid, hvalue, hkept⟩ :=
    hsound.decode_eq_ok_iff.1 hdecode
  have hlayout : layout ∈ schema.layouts := List.mem_of_find?_eq_some hfind
  have hshortened : Json.Gathers message.shortened.body.members kept := by
    rw [Message.shortened, Body.members_shortened]
    exact hkept
  refine ⟨message.shortened.bytes, ?_, message.length_shortened_le, ?_, command, layout, hget,
    hfind, ?_, ?_⟩
  · rw [hvalue]
    exact hsound.encode_of_message hget hfind (hnames layout hlayout) (hword.trans hid.symm) hkept
  · exact hsound.decode_eq_ok_iff.2 ⟨command, layout, hget, hfind, message.shortened, kept, rfl,
      hword, hid, hvalue, hshortened⟩
  · exact ⟨message, rfl, fun other hother => Message.bytes_injective hother⟩
  · intro other hother
    obtain rfl : other = message := Message.bytes_injective hother
    rw [Message.bytes_injective.eq_iff, Message.shortened_eq_iff]

def sampleFlat : Schema :=
  ⟨[⟨"@a/request", [⟨"count", .uint⟩, ⟨"label", .string⟩]⟩]⟩

def Registry.sampleFlat : Registry :=
  (((Registry.create ⟨some 5⟩).attach CommandRegistry.sampleFlat.resolver).after.register
    "@a/first" ⟨"@a/request", some 2, none⟩).after

theorem Registry.sampleFlat_reachable :
    Registry.sampleFlat.Reachable {CommandRegistry.sampleFlat.resolver} :=
  .created ⟨some 5⟩ (.register (.attach (.refl _) (Set.mem_singleton _)) "@a/first" _)

/-- A message with a group of zeros behind its id, its field and the length of its text. -/
def Registry.samplePadded : Bytes :=
  [0x82, 0, 0xAC, 0x82, 0, 0x82, 0, 0xC3, 0xBC]

theorem Registry.written_again_sample :
    Registry.sampleFlat.Reachable {CommandRegistry.sampleFlat.resolver} ∧
      (∀ layout ∈ CommandRegistry.sampleFlat.layouts, layout.fieldNames.Nodup) ∧
      ∃ envelope, Registry.sampleFlat.compile.decode Registry.samplePadded = .ok envelope ∧
        Registry.sampleFlat.compile.encode envelope.name envelope.value =
          .ok [2, 0xAC, 2, 2, 0xC3, 0xBC] ∧
        Registry.sampleFlat.compile.decode [2, 0xAC, 2, 2, 0xC3, 0xBC] = .ok envelope ∧
        ∃ layout, ∃! message : Message layout, message.bytes = Registry.samplePadded := by
  have hnames : ∀ layout ∈ CommandRegistry.sampleFlat.layouts, layout.fieldNames.Nodup := by
    decide
  have hdecode : Registry.sampleFlat.compile.decode Registry.samplePadded =
      .ok ⟨2, "@a/first", .object [("count", .ofNatural 300), ("label", .string "ü")]⟩ := rfl
  have hencode : Registry.sampleFlat.compile.encode "@a/first"
      (.object [("count", .ofNatural 300), ("label", .string "ü")]) =
        .ok [2, 0xAC, 2, 2, 0xC3, 0xBC] := rfl
  obtain ⟨again, hagain, -, hread, -, layout, -, -, hmessage, -⟩ :=
    Registry.sampleFlat_reachable.written_again hnames hdecode
  obtain rfl := Except.ok.inj (hagain.symm.trans hencode)
  exact ⟨Registry.sampleFlat_reachable, hnames, _, hdecode, hencode, hread, layout, hmessage⟩

end CommandRegistry
