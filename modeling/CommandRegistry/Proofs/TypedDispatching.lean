/-
Typed commands from one end to the other.  A command that has been written for the name of
its type reaches the handler of this name as it was, or does not reach it at all; whether
it does is known from the fields of its type and of the registered layout alone.
-/
import CommandRegistry.Proofs.Dispatching
import CommandRegistry.Proofs.EnvelopeRoundTrip
import CommandRegistry.Proofs.RecordRoundTrip

namespace CommandRegistry

variable {table : CommandTable} {schema : Schema} {registry : Registry} {name : String}
  {bytes : Bytes} {record : RecordType} {value : RecordValue record}

/-- A record is written for a command, or the first field that its layout has and the record
has not is reported. -/
theorem CommandTable.encode_json (hnames : (record.fields.map Field.name).Nodup)
    {command : LiveCommand} {layout : Layout} (hget : table.get? name = some command)
    (hhandle : command.handle.requestType = layout.requestType) :
    table.encode name value.json =
      match layout.fields.find? fun field => field ∉ record.fields with
      | none => .ok (Envelope.encodeHeader command.id ++ (layout.encode value.json).bytes)
      | some field => .error (.codec field.invalid) := by
  have hfault : (layout.encode value.json).fault =
      (layout.fields.find? fun field => field ∉ record.fields).map Field.invalid :=
    Layout.encode_json_fault hnames layout
  have hwritten := CommandTable.encode_of_layout hget hhandle value.json
  cases hfield : layout.fields.find? fun field => field ∉ record.fields with
  | none =>
      rw [hfield] at hfault
      simp only [hwritten, Written.complete, hfault, Option.map_none, Except.map, Except.mapError]
  | some field =>
      rw [hfield] at hfault
      simp only [hwritten, Written.complete, hfault, Option.map_some, Except.map, Except.mapError]

/-- The writing of a record fails at a field exactly if the layout has one that the record
has not. -/
theorem Registry.Sound.invalidField_iff (hsound : registry.Sound {schema.resolver})
    (hnames : (record.fields.map Field.name).Nodup) :
    (∃ label expected, registry.compile.encode name value.json =
        .error (.codec (.invalidField label expected))) ↔
      ∃ command layout, registry.compile.get? name = some command ∧
        schema.find? command.record.requestType = some layout ∧
        ∃ field ∈ layout.fields, field ∉ record.fields := by
  have hmem : ∀ command, registry.compile.get? name = some command →
      command ∈ registry.table.handlers :=
    fun command hget => (hsound.consistent.get?_eq_some_iff.1 hget).1
  constructor
  · rintro ⟨label, expected, hfailed⟩
    cases hget : registry.compile.get? name with
    | none =>
        simp only [CommandTable.encode, hget] at hfailed
        cases hfailed
    | some command =>
        obtain ⟨layout, hfind, hhandle⟩ := hsound.exists_layout (hmem command hget)
        rw [CommandTable.encode_json hnames hget hhandle] at hfailed
        cases hfield : layout.fields.find? fun field => field ∉ record.fields with
        | none =>
            rw [hfield] at hfailed
            cases hfailed
        | some field =>
            exact ⟨command, layout, rfl, hfind, field, List.mem_of_find?_eq_some hfield,
              by simpa using List.find?_some hfield⟩
  · rintro ⟨command, layout, hget, hfind, field, hfield, hlacks⟩
    have hhandle := hsound.requestType_eq (hmem command hget) hfind
    rw [CommandTable.encode_json hnames hget hhandle]
    cases hfirst : layout.fields.find? fun field => field ∉ record.fields with
    | none => exact absurd (decide_eq_true hlacks) (List.find?_eq_none.1 hfirst field hfield)
    | some first => exact ⟨first.name, first.kind.word, rfl⟩

variable {m : Type → Type} {γ ε : Type} [Monad m] {raise : DispatchError → ε}
  {history : List (String × Handler m γ ε)} {router : Router m γ ε}
  {handle : RecordValue record → γ → m (Except ε Json)}

/-- A typed handler gets the record that its members were kept of, or the first field of
the record is missed that they lack. -/
theorem CommandType.handler_object (hnames : (record.fields.map Field.name).Nodup)
    {names : List String} {kept : List (String × Json)}
    (hkept : Json.Restricts names value.json kept) (context : γ) :
    (record.command name).handler raise handle (.object kept) context =
      match record.fields.find? fun field => field.name ∉ names with
      | none => handle value context
      | some field =>
          pure (.error (raise (.payload name (.mismatch (.missingField field.name))))) := by
  have hread : (record.command name).read (.object kept) = _ :=
    RecordType.read_restricted hnames hkept
  rw [CommandType.handler, hread]
  cases record.fields.find? fun field => field.name ∉ names with
  | none => rfl
  | some field => rfl

/-- Where the latest handler of a type's name is a typed one, a command of this type that was
written is handed over to it as it was, in one run with the given context, if the registered
layout has all fields of the type; otherwise a field of the type is missed and no handler
runs.  The writing fails at a field exactly if the name is known and its layout has a field
that the type lacks or holds with another kind. -/
theorem Registry.Reachable.typed_dispatching (hreach : registry.Reachable {schema.resolver})
    (hnames : (record.fields.map Field.name).Nodup)
    (hbuilt : router.Built registry.compile raise history)
    (hlatest : history.lookup name = some ((record.command name).handler raise handle))
    (value : RecordValue record) :
    (∀ bytes, registry.compile.encodeCommand (record.command name) value = .ok bytes →
      bytes.length < UInt64.size →
      ∃ command layout, registry.compile.get? name = some command ∧
        schema.find? command.record.requestType = some layout ∧
        ((∀ field ∈ record.fields, field.name ∈ layout.fieldNames) →
          ∀ context, router.dispatch bytes context = handle value context) ∧
        ((∃ field ∈ record.fields, field.name ∉ layout.fieldNames) →
          ∃ field ∈ record.fields, field.name ∉ layout.fieldNames ∧
            ∀ context, router.dispatch bytes context =
              pure (.error (raise (.payload name (.mismatch (.missingField field.name))))))) ∧
    ((∃ label expected, registry.compile.encodeCommand (record.command name) value =
        .error (.codec (.invalidField label expected))) ↔
      ∃ command layout, registry.compile.get? name = some command ∧
        schema.find? command.record.requestType = some layout ∧
        ∃ field ∈ layout.fields, field ∉ record.fields) := by
  have hsound := hreach.sound
  refine ⟨?_, hsound.invalidField_iff hnames⟩
  intro bytes hencode hsize
  obtain ⟨command, layout, kept, hget, hfind, hdecode, hkept⟩ :=
    hsound.decode_of_encode hencode hsize
  have hdispatch : ∀ context, router.dispatch bytes context =
      (record.command name).handler raise handle (.object kept) context := by
    intro context
    obtain ⟨hmem, hname⟩ := hsound.consistent.get?_eq_some_iff.1 hget
    have hgetById := hsound.consistent.getById?_eq_some_iff.2 ⟨hmem, rfl⟩
    exact hbuilt.dispatch_of_bound hdecode hgetById (hname ▸ hlatest) context
  refine ⟨command, layout, hget, hfind, fun hdeclared context => ?_, fun hmissing => ?_⟩
  · have hnone : (record.fields.find? fun field => field.name ∉ layout.fieldNames) = none :=
      List.find?_eq_none.2 fun field hfield => by simpa using hdeclared field hfield
    rw [hdispatch, CommandType.handler_object hnames hkept, hnone]
  · obtain ⟨field, hfirst⟩ : ∃ field,
        (record.fields.find? fun field => field.name ∉ layout.fieldNames) = some field := by
      rw [← Option.isSome_iff_exists, List.find?_isSome]
      simpa using hmissing
    refine ⟨field, List.mem_of_find?_eq_some hfirst, by simpa using List.find?_some hfirst, ?_⟩
    intro context
    rw [hdispatch, CommandType.handler_object hnames hkept, hfirst]

/-- A record that the sample's request type can take, its fields in another order. -/
def RecordType.sample : RecordType :=
  ⟨"struct Request", [⟨"label", .string⟩, ⟨"count", .uint⟩]⟩

def RecordValue.sample : RecordValue RecordType.sample :=
  ⟨[.string "ü", .uint 300], rfl⟩

/-- The same with a field that the request type does not have. -/
def RecordType.sampleFlagged : RecordType :=
  ⟨"struct FlaggedRequest", [⟨"label", .string⟩, ⟨"flag", .bool⟩, ⟨"count", .uint⟩]⟩

def RecordValue.sampleFlagged : RecordValue RecordType.sampleFlagged :=
  ⟨[.string "ü", .bool true, .uint 300], rfl⟩

/-- A handler that notes down the values that it is called with. -/
def RecordType.sampleHandle (record : RecordType) (value : RecordValue record) (_ : Unit) :
    StateM (List (List FieldValue)) (Except DispatchError Json) :=
  modifyGet fun calls => (.ok .null, value.values :: calls)

def Router.sampleTyped (record : RecordType) :
    Router (StateM (List (List FieldValue))) Unit DispatchError :=
  (Router.create Registry.sample.compile id).route (record.command "@a/first")
    record.sampleHandle

def Router.sampleTypedHistory (record : RecordType) :
    List (String × Handler (StateM (List (List FieldValue))) Unit DispatchError) :=
  [("@a/first", (record.command "@a/first").handler id record.sampleHandle)]

theorem Router.sampleTyped_built (record : RecordType) :
    (Router.sampleTyped record).Built Registry.sample.compile id
      (Router.sampleTypedHistory record) :=
  .route .create (record.command "@a/first") record.sampleHandle

theorem Registry.typed_dispatching_sample :
    Registry.sample.Reachable {sampleSchema.resolver} ∧
      (RecordType.sample.fields.map Field.name).Nodup ∧
      (RecordType.sampleFlagged.fields.map Field.name).Nodup ∧
      8 < UInt64.size ∧
      (Router.sampleTyped RecordType.sample).dispatch [2, 0xAC, 2, 2, 0xC3, 0xBC, 0xAC, 2] () =
        RecordType.sample.sampleHandle RecordValue.sample () ∧
      ∃ field ∈ RecordType.sampleFlagged.fields,
        (Router.sampleTyped RecordType.sampleFlagged).dispatch
            [2, 0xAC, 2, 2, 0xC3, 0xBC, 0xAC, 2] () =
          pure (.error (.payload "@a/first" (.mismatch (.missingField field.name)))) := by
  have hnames : (RecordType.sample.fields.map Field.name).Nodup := by decide
  have hflagged : (RecordType.sampleFlagged.fields.map Field.name).Nodup := by decide
  have hsize : 8 < UInt64.size := by decide
  have hlatest : ∀ record, (Router.sampleTypedHistory record).lookup "@a/first" =
      some ((record.command "@a/first").handler id record.sampleHandle) := fun _ => rfl
  have hbytes : Registry.sample.compile.encodeCommand (RecordType.sample.command "@a/first")
      RecordValue.sample = .ok [2, 0xAC, 2, 2, 0xC3, 0xBC, 0xAC, 2] := rfl
  have hflaggedBytes : Registry.sample.compile.encodeCommand
      (RecordType.sampleFlagged.command "@a/first") RecordValue.sampleFlagged =
        .ok [2, 0xAC, 2, 2, 0xC3, 0xBC, 0xAC, 2] := rfl
  obtain ⟨hwritten, -⟩ := Registry.sample_reachable.typed_dispatching hnames
    (Router.sampleTyped_built _) (hlatest RecordType.sample) RecordValue.sample
  obtain ⟨command, layout, hget, hfind, hhanded, -⟩ := hwritten _ hbytes hsize
  obtain rfl := Option.some.inj hget
  obtain rfl := Option.some.inj hfind
  obtain ⟨hflaggedWritten, -⟩ := Registry.sample_reachable.typed_dispatching hflagged
    (Router.sampleTyped_built _) (hlatest RecordType.sampleFlagged) RecordValue.sampleFlagged
  obtain ⟨command, layout, hget, hfind, -, hmissed⟩ := hflaggedWritten _ hflaggedBytes hsize
  obtain rfl := Option.some.inj hget
  obtain rfl := Option.some.inj hfind
  obtain ⟨field, hfield, -, hanswer⟩ := hmissed (by decide)
  exact ⟨Registry.sample_reachable, hnames, hflagged, hsize, hhanded (by decide) (),
    field, hfield, hanswer ()⟩

end CommandRegistry
