/-
Bodies as they are written.  The fields of a layout are written one after another behind
what the buffer holds, up to the first one that the object does not have with its kind, so
that a failure leaves the segments of the fields before it.
-/
import CommandRegistry.Proofs.RecordRoundTrip
import CommandRegistry.Proofs.VarintForms

namespace CommandRegistry

/-- The values of a kind with their bytes: a word in its shortest form, a text behind the
shortest form of the number of its bytes, a truth value. -/
inductive FieldKind.Writes : FieldKind → Json → Bytes → Prop
  | uint (number : Varint.Form) (hshortest : number.Shortest) :
      Writes .uint (.number (.natural number.word)) number.bytes
  | string (length : Varint.Form) (text : String) (hshortest : length.Shortest)
      (hlength : length.word = (Utf8.encode text).length.toUInt64) :
      Writes .string (.string text) (length.bytes ++ Utf8.encode text)
  | bool (flag : Bool) : Writes .bool (.bool flag) [if flag then 1 else 0]

/-- Among the members there is one for the field that has its kind and these bytes. -/
def Field.Writes (members : List (String × Json)) (field : Field) (segment : Bytes) : Prop :=
  ∃ item, members.lookup field.name = some item ∧ field.kind.Writes item segment

/-- The number of bytes that a field takes up in the body of a value. -/
def Field.width (value : Json) (field : Field) : Nat :=
  match field.kind, value.member? field.name with
  | .uint, some (.number (.natural word)) => Varint.length word
  | .string, some (.string text) =>
      Varint.length (Utf8.encode text).length.toUInt64 + (Utf8.encode text).length
  | .bool, some (.bool _) => 1
  | _, _ => 0

variable {members others : List (String × Json)} {fields : List Field}
  {field : Field} {kind : FieldKind} {item value : Json} {segment : Bytes} {segments : List Bytes}

theorem FieldKind.encode?_eq_some_iff :
    kind.encode? item = some segment ↔ kind.Writes item segment := by
  have hwritten : ∀ word, (Varint.Form.ofWord word).Shortest := fun word =>
    Varint.Form.shortest_iff.2 (Varint.Form.bytes_ofWord word)
  constructor
  · intro hencode
    cases kind with
    | uint =>
        obtain ⟨word, hword, rfl⟩ := Option.map_eq_some_iff.1 hencode
        rw [Json.natural?_eq_some_iff.1 hword, ← Varint.Form.bytes_ofWord]
        exact .uint _ (hwritten word)
    | string =>
        obtain ⟨text, htext, rfl⟩ := Option.map_eq_some_iff.1 hencode
        rw [Json.string?_eq_some_iff.1 htext, framedText, ← Varint.Form.bytes_ofWord]
        exact .string _ text (hwritten _) rfl
    | bool =>
        obtain ⟨flag, hflag, rfl⟩ := Option.map_eq_some_iff.1 hencode
        rw [Json.bool?_eq_some_iff.1 hflag]
        exact .bool flag
  · intro hwrites
    cases hwrites with
    | uint number hshortest =>
        rw [Varint.Form.shortest_iff.1 hshortest]
        rfl
    | string length text hshortest hlength =>
        rw [Varint.Form.shortest_iff.1 hshortest, hlength]
        rfl
    | bool flag => rfl

theorem Field.encode?_eq_some_iff :
    field.encode? (.object members) = some segment ↔ field.Writes members segment := by
  unfold Field.encode? Field.Writes
  rw [Option.bind_eq_some_iff]
  simp only [FieldKind.encode?_eq_some_iff]
  rfl

theorem Field.encode?_eq_none_iff :
    field.encode? (.object members) = none ↔ ∀ segment, ¬field.Writes members segment := by
  rw [Option.eq_none_iff_forall_ne_some]
  simp only [ne_eq, Field.encode?_eq_some_iff]

theorem Field.Writes.length_eq (hwrites : field.Writes members segment) :
    segment.length = field.width (.object members) := by
  obtain ⟨name, kind⟩ := field
  obtain ⟨item, hlookup, hkind⟩ := hwrites
  have hmember : (Json.object members).member? name = some item := hlookup
  unfold Field.width
  rw [hmember]
  cases hkind with
  | uint number hshortest =>
      rw [Varint.Form.shortest_iff.1 hshortest]
      exact Varint.length_write number.word
  | string length text hshortest hlength =>
      rw [List.length_append, Varint.Form.shortest_iff.1 hshortest, Varint.length_write, hlength]
  | bool flag => rfl

/-- Either every field has its segment and all are written, or one is the first without a
segment and the writing ends there. -/
theorem Layout.encodeFields_outcome (members : List (String × Json)) (fields : List Field) :
    (∃ segments, List.Forall₂ (Field.Writes members) fields segments ∧
      Layout.encodeFields (.object members) fields = ⟨segments.flatten, none⟩) ∨
    ∃ before field after segments, fields = before ++ field :: after ∧
      List.Forall₂ (Field.Writes members) before segments ∧
      (∀ segment, ¬field.Writes members segment) ∧
      Layout.encodeFields (.object members) fields =
        ⟨segments.flatten, some field.invalid⟩ := by
  induction fields with
  | nil => exact .inl ⟨[], .nil, rfl⟩
  | cons first rest ih =>
      by_cases hfirst : ∃ segment, first.Writes members segment
      · obtain ⟨segment, hfirst⟩ := hfirst
        rw [Layout.encodeFields_of_some (Field.encode?_eq_some_iff.2 hfirst)]
        rcases ih with
          ⟨segments, hrest, hwritten⟩ |
          ⟨before, field, after, segments, rfl, hbefore, hoffends, hwritten⟩
        · exact .inl ⟨segment :: segments, .cons hfirst hrest,
            congrArg (Written.onto segment) hwritten⟩
        · exact .inr ⟨first :: before, field, after, segment :: segments, rfl,
            .cons hfirst hbefore, hoffends, congrArg (Written.onto segment) hwritten⟩
      · have hoffends := not_exists.1 hfirst
        exact .inr ⟨[], first, rest, [], rfl, .nil, hoffends,
          Layout.encodeFields_of_none (Field.encode?_eq_none_iff.2 hoffends)⟩

theorem Field.length_flatten (hwrites : List.Forall₂ (Field.Writes members) fields segments) :
    segments.flatten.length = (fields.map (Field.width (.object members))).sum := by
  induction hwrites with
  | nil => rfl
  | cons hfirst _ ih =>
      rw [List.flatten_cons, List.length_append, hfirst.length_eq, ih, List.map_cons,
        List.sum_cons]

/-- Only the members of the declared names have a part in what is written. -/
theorem Layout.encodeFields_congr
    (hlookup : ∀ field ∈ fields, others.lookup field.name = members.lookup field.name) :
    Layout.encodeFields (.object others) fields =
      Layout.encodeFields (.object members) fields := by
  induction fields with
  | nil => rfl
  | cons field rest ih =>
      have hfield : field.encode? (.object others) = field.encode? (.object members) :=
        congrArg (·.bind field.kind.encode?) (hlookup field List.mem_cons_self)
      have hrest := ih fun other hmem => hlookup other (List.mem_cons_of_mem field hmem)
      cases hsegment : field.encode? (.object members) with
      | none =>
          rw [Layout.encodeFields_of_none hsegment,
            Layout.encodeFields_of_none (hfield.trans hsegment)]
      | some segment =>
          rw [Layout.encodeFields_of_some hsegment,
            Layout.encodeFields_of_some (hfield.trans hsegment), hrest]

/-- Objects with distinct keys and the same members of the declared names, in whatever order
and beside whatever other members, are written alike. -/
theorem Layout.encode_ofMembers_congr (layout : Layout)
    (hmembers : (members.map Prod.fst).Nodup) (hothers : (others.map Prod.fst).Nodup)
    (hdeclared : ∀ member, member.1 ∈ layout.fields.map Field.name →
      (member ∈ others ↔ member ∈ members)) :
    layout.encode (.ofMembers others) = layout.encode (.ofMembers members) := by
  refine Layout.encodeFields_congr fun field hfield => ?_
  have hname : field.name ∈ layout.fields.map Field.name := List.mem_map_of_mem hfield
  have hfound : ∀ item, (Json.ofMembers others).member? field.name = some item ↔
      (Json.ofMembers members).member? field.name = some item := by
    intro item
    rw [Json.member?_ofMembers, Json.member?_ofMembers, Json.lookup_reverse_eq_some_iff hothers,
      Json.lookup_reverse_eq_some_iff hmembers]
    exact hdeclared (field.name, item) hname
  exact Option.ext hfound

theorem Layout.encode_of_not_object (layout : Layout)
    (hvalue : ∀ members, value ≠ .object members) :
    layout.encode value = ⟨[], some (.notAnObject layout.name)⟩ := by
  cases value with
  | object members => exact absurd rfl (hvalue members)
  | _ => rfl

/-- A value is written to its end exactly if it is an object with all the fields. -/
theorem Layout.encode_fault_eq_none_iff (layout : Layout) :
    (layout.encode value).fault = none ↔ ∃ members, value = .object members ∧
      ∀ field ∈ layout.fields, ∃ segment, field.Writes members segment := by
  by_cases hobject : ∃ members, value = .object members
  · obtain ⟨members, rfl⟩ := hobject
    have hfault : (layout.encode (.object members)).fault = none ↔
        ∀ field ∈ layout.fields, ∃ segment, field.Writes members segment := by
      simp only [Layout.encode_object, Layout.encodeFields_fault, Option.map_eq_none_iff,
        List.find?_eq_none, Option.isNone_iff_eq_none, Field.encode?_eq_none_iff,
        not_forall_not]
    rw [hfault]
    simp only [Json.object.injEq, exists_eq_left']
  · rw [Layout.encode_of_not_object layout (not_exists.1 hobject)]
    constructor
    · intro hfault
      cases hfault
    · rintro ⟨members, rfl, _⟩
      exact absurd ⟨members, rfl⟩ hobject

/-- What a layout puts behind a buffer, which keeps what it held.  It takes the objects that
have each declared field with its kind, and no other value; a failure leaves the segments of
the fields before the first one that is amiss; and members that are not declared have no part
in it. -/
theorem Layout.encode_onto (layout : Layout) (value : Json) (buffer : Bytes) :
    let written := layout.append value buffer
    buffer <+: written.bytes ∧
    (written.fault = none ↔ ∃ members, value = .object members ∧
      ∀ field ∈ layout.fields, ∃ segment, field.Writes members segment) ∧
    (written.fault = none → ∃ members segments, value = .object members ∧
      List.Forall₂ (Field.Writes members) layout.fields segments ∧
      written.bytes = buffer ++ segments.flatten ∧
      segments.flatten.length = (layout.fields.map (Field.width value)).sum) ∧
    ((∀ members, value ≠ .object members) →
      written = ⟨buffer, some (.notAnObject layout.name)⟩) ∧
    (∀ members, value = .object members → written.fault ≠ none →
      ∃ before field after segments, layout.fields = before ++ field :: after ∧
        List.Forall₂ (Field.Writes members) before segments ∧
        (∀ segment, ¬field.Writes members segment) ∧
        written = ⟨buffer ++ segments.flatten,
          some (.invalidField field.name field.kind.word)⟩) ∧
    (∀ members others, value = .object members →
      (∀ field ∈ layout.fields, others.lookup field.name = members.lookup field.name) →
      layout.append (.object others) buffer = written) ∧
    ∀ members others, value = .ofMembers members →
      (members.map Prod.fst).Nodup → (others.map Prod.fst).Nodup →
      (∀ member, member.1 ∈ layout.fields.map Field.name →
        (member ∈ others ↔ member ∈ members)) →
      layout.append (.ofMembers others) buffer = written := by
  simp only [Layout.append_eq]
  refine ⟨List.prefix_append buffer _, Layout.encode_fault_eq_none_iff layout, ?success,
    ?notAnObject, ?failure, ?lookups, ?orders⟩
  case success =>
    intro hfault
    obtain ⟨members, rfl, _⟩ := (Layout.encode_fault_eq_none_iff layout).1 hfault
    rcases Layout.encodeFields_outcome members layout.fields with
      ⟨segments, hwrites, hwritten⟩ | ⟨before, field, after, segments, _, _, _, hwritten⟩
    · rw [Layout.encode_object, hwritten]
      exact ⟨members, segments, rfl, hwrites, rfl, Field.length_flatten hwrites⟩
    · rw [Layout.encode_object, hwritten] at hfault
      cases hfault
  case notAnObject =>
    intro hvalue
    rw [Layout.encode_of_not_object layout hvalue, Written.onto, List.append_nil]
  case failure =>
    rintro members rfl hfault
    rcases Layout.encodeFields_outcome members layout.fields with
      ⟨segments, _, hwritten⟩ |
      ⟨before, field, after, segments, hsplit, hbefore, hoffends, hwritten⟩
    · rw [Layout.encode_object, hwritten] at hfault
      exact absurd rfl hfault
    · exact ⟨before, field, after, segments, hsplit, hbefore, hoffends,
        congrArg (Written.onto buffer) hwritten⟩
  case lookups =>
    rintro members others rfl hlookup
    exact congrArg (Written.onto buffer) (Layout.encodeFields_congr hlookup)
  case orders =>
    rintro members others rfl hmembers hothers hdeclared
    exact congrArg (Written.onto buffer)
      (Layout.encode_ofMembers_congr layout hmembers hothers hdeclared)

/-- The truth value is missing, and the number in front of it stays. -/
example : (Layout.mk "@a/request" [⟨"count", .uint⟩, ⟨"done", .bool⟩]).append
    (.object [("count", .ofNatural 300), ("done", .null)]) [7] =
      ⟨[7, 0xac, 2], some (.invalidField "done" "bool")⟩ := by
  rfl

end CommandRegistry
