/-
The grammar of bodies.  A body is made of a segment for each field of its layout, in the
order of the fields, and the decoder accepts these byte strings and no others; of any
other it reports the first field that cannot be read, or how many bytes are left over.
-/
import CommandRegistry.Proofs.MessageFraming
import CommandRegistry.Proofs.VarintForms

namespace CommandRegistry

/-- What stands for a field of a kind: a number in any of its forms, a text behind any
form of its number of bytes, or a truth value. -/
inductive Segment : FieldKind → Type
  | uint (number : Varint.Form) : Segment .uint
  | string (length : Varint.Form) (text : String)
      (hlength : (Utf8.encode text).length = length.word.toNat) : Segment .string
  | bool (flag : Bool) : Segment .bool

def Segment.bytes : {kind : FieldKind} → Segment kind → Bytes
  | _, .uint number => number.bytes
  | _, .string length text _ => length.bytes ++ Utf8.encode text
  | _, .bool flag => [if flag then 1 else 0]

def Segment.value : {kind : FieldKind} → Segment kind → Json
  | _, .uint number => .ofNatural number.word
  | _, .string _ text _ => .string text
  | _, .bool flag => .bool flag

/-- A segment for each of the fields. -/
inductive Body : List Field → Type
  | nil : Body []
  | cons {field : Field} {fields : List Field} (segment : Segment field.kind)
      (rest : Body fields) : Body (field :: fields)

def Body.bytes : {fields : List Field} → Body fields → Bytes
  | _, .nil => []
  | _, .cons segment rest => segment.bytes ++ rest.bytes

/-- The names of the fields with what their segments say, in the order of the fields. -/
def Body.members : {fields : List Field} → Body fields → List (String × Json)
  | [], .nil => []
  | field :: _, .cons segment rest => (field.name, segment.value) :: rest.members

/-- An object with the listed members and no others; of those with one key it has the
last. -/
structure Json.Gathers (listed kept : List (String × Json)) : Prop where
  sorted : Json.KeysIncrease kept
  lookup_eq : ∀ key, kept.lookup key = listed.reverse.lookup key

/-- Why a field cannot be read from the front of the bytes. -/
inductive Field.Refused : Field → Bytes → CodecError → Prop
  | number {name : String} {bytes : Bytes} {fault : VarintError}
      (hnumber : Varint.Refused bytes fault) : Refused ⟨name, .uint⟩ bytes (.varint fault)
  | length {name : String} {bytes : Bytes} {fault : VarintError}
      (hlength : Varint.Refused bytes fault) : Refused ⟨name, .string⟩ bytes (.varint fault)
  | short {name : String} (length : Varint.Form) {rest : Bytes}
      (hshort : rest.length < length.word.toNat) :
      Refused ⟨name, .string⟩ (length.bytes ++ rest) .unexpectedEnd
  | notText {name : String} (length : Varint.Form) {raw : Bytes} (rest : Bytes)
      (hlength : raw.length = length.word.toNat) (hraw : ∀ text, raw ≠ Utf8.encode text) :
      Refused ⟨name, .string⟩ (length.bytes ++ (raw ++ rest)) (.invalidUtf8 name)
  | missing {name : String} : Refused ⟨name, .bool⟩ [] .unexpectedEnd
  | notFlag {name : String} {byte : UInt8} (rest : Bytes) (hzero : byte ≠ 0)
      (hone : byte ≠ 1) : Refused ⟨name, .bool⟩ (byte :: rest) (.invalidField name "bool")

variable {field : Field} {fields : List Field} {kind : FieldKind} {bytes rest : Bytes}
  {value : Json} {members : List (String × Json)} {fault : CodecError}

section Readers

variable {α β ε φ : Type} {read : Bytes → Except ε (α × Bytes)} {wrap : ε → φ}
  {next : α → Bytes → Except φ (β × Bytes)}

theorem readThen_eq_ok_iff {result : β × Bytes} :
    readThen read wrap next bytes = .ok result ↔
      ∃ value rest, read bytes = .ok (value, rest) ∧ next value rest = .ok result := by
  unfold readThen
  cases read bytes with
  | error fault => simp
  | ok parts => simp [Prod.ext_iff]

theorem readThen_eq_error_iff {error : φ} :
    readThen read wrap next bytes = .error error ↔
      (∃ fault, read bytes = .error fault ∧ wrap fault = error) ∨
        ∃ value rest, read bytes = .ok (value, rest) ∧ next value rest = .error error := by
  unfold readThen
  cases read bytes with
  | error fault => simp
  | ok parts => simp [Prod.ext_iff]

end Readers

theorem Utf8.decode?_eq_some_iff {text : String} :
    Utf8.decode? bytes = some text ↔ bytes = Utf8.encode text := by
  constructor
  · intro hdecode
    unfold Utf8.decode? String.fromUTF8? at hdecode
    split at hdecode
    · rename_i hvalid
      rw [Option.some.injEq] at hdecode
      subst hdecode
      simp [Utf8.encode, String.fromUTF8]
    · contradiction
  · rintro rfl
    exact Utf8.decode?_encode text

theorem Field.takeText_eq_ok_iff {length : UInt64} {text : String} :
    field.takeText length bytes = .ok (text, rest) ↔
      (Utf8.encode text).length = length.toNat ∧ bytes = Utf8.encode text ++ rest := by
  constructor
  · intro htake
    unfold Field.takeText at htake
    split_ifs at htake with hshort
    cases htext : Utf8.decode? (bytes.take length.toNat) with
    | none => simp [htext] at htake
    | some found =>
        simp only [htext, Except.ok.injEq, Prod.mk.injEq] at htake
        obtain ⟨rfl, rfl⟩ := htake
        have hraw := Utf8.decode?_eq_some_iff.1 htext
        rw [← hraw, List.length_take, List.take_append_drop]
        exact ⟨Nat.min_eq_left (Nat.le_of_not_lt hshort), rfl⟩
  · rintro ⟨hlength, rfl⟩
    have hlong : ¬(Utf8.encode text ++ rest).length < length.toNat := by
      rw [List.length_append]
      omega
    simp only [Field.takeText, if_neg hlong, List.take_left' hlength, Utf8.decode?_encode,
      List.drop_left' hlength]

theorem Field.takeText_eq_error_iff {length : UInt64} :
    field.takeText length bytes = .error fault ↔
      (bytes.length < length.toNat ∧ fault = .unexpectedEnd) ∨
        ∃ raw rest, bytes = raw ++ rest ∧ raw.length = length.toNat ∧
          (∀ text, raw ≠ Utf8.encode text) ∧ fault = .invalidUtf8 field.name := by
  constructor
  · intro htake
    unfold Field.takeText at htake
    split_ifs at htake with hshort
    · exact .inl ⟨hshort, (Except.error.inj htake).symm⟩
    · refine .inr ⟨bytes.take length.toNat, bytes.drop length.toNat,
        (List.take_append_drop _ _).symm, List.length_take_of_le (Nat.le_of_not_lt hshort), ?_⟩
      cases htext : Utf8.decode? (bytes.take length.toNat) with
      | some found => simp [htext] at htake
      | none =>
          simp only [htext, Except.error.injEq] at htake
          refine ⟨?_, htake.symm⟩
          intro text hraw
          rw [Utf8.decode?_eq_some_iff.2 hraw] at htext
          contradiction
  · rintro (⟨hshort, rfl⟩ | ⟨raw, rest, rfl, hlength, hraw, rfl⟩)
    · rw [Field.takeText, if_pos hshort]
    · have hlong : ¬(raw ++ rest).length < length.toNat := by
        rw [List.length_append]
        omega
      have htext : Utf8.decode? raw = none := by
        rw [Option.eq_none_iff_forall_ne_some]
        intro text hsome
        exact hraw text (Utf8.decode?_eq_some_iff.1 hsome)
      simp only [Field.takeText, if_neg hlong, List.take_left' hlength, htext]

theorem Field.decodeText_eq_ok_iff {text : String} :
    field.decodeText bytes = .ok (text, rest) ↔
      ∃ length : Varint.Form, (Utf8.encode text).length = length.word.toNat ∧
        bytes = length.bytes ++ (Utf8.encode text ++ rest) := by
  simp only [Field.decodeText_eq, readThen_eq_ok_iff, Varint.split_eq_ok_iff,
    Field.takeText_eq_ok_iff]
  constructor
  · rintro ⟨_, _, ⟨length, rfl, rfl⟩, hlength, rfl⟩
    exact ⟨length, hlength, rfl⟩
  · rintro ⟨length, hlength, rfl⟩
    exact ⟨length.word, _, ⟨length, rfl, rfl⟩, hlength, rfl⟩

theorem Field.decodeText_eq_error_iff :
    field.decodeText bytes = .error fault ↔
      Field.Refused ⟨field.name, .string⟩ bytes fault := by
  simp only [Field.decodeText_eq, readThen_eq_error_iff, Varint.split_eq_error_iff,
    Varint.split_eq_ok_iff, Field.takeText_eq_error_iff]
  constructor
  · rintro (⟨_, hlength, rfl⟩ | ⟨_, _, ⟨length, rfl, rfl⟩, hrest⟩)
    · exact .length hlength
    · rcases hrest with ⟨hshort, rfl⟩ | ⟨raw, rest, rfl, hlength, hraw, rfl⟩
      · exact .short length hshort
      · exact .notText length rest hlength hraw
  · intro hrefused
    cases hrefused with
    | length hlength => exact .inl ⟨_, hlength, rfl⟩
    | short length hshort => exact .inr ⟨_, _, ⟨length, rfl, rfl⟩, .inl ⟨hshort, rfl⟩⟩
    | notText length rest hlength hraw =>
        exact .inr ⟨_, _, ⟨length, rfl, rfl⟩, .inr ⟨_, rest, rfl, hlength, hraw, rfl⟩⟩

/-- A field is read exactly from its segments. -/
theorem Field.decode_eq_ok_iff :
    field.decode bytes = .ok (value, rest) ↔
      ∃ segment : Segment field.kind, segment.value = value ∧ bytes = segment.bytes ++ rest := by
  obtain ⟨name, kind⟩ := field
  cases kind with
  | uint =>
      simp only [Field.decode_uint, readThen_eq_ok_iff, Varint.split_eq_ok_iff, Except.ok.injEq,
        Prod.mk.injEq]
      constructor
      · rintro ⟨_, _, ⟨number, rfl, rfl⟩, rfl, rfl⟩
        exact ⟨.uint number, rfl, rfl⟩
      · rintro ⟨segment, rfl, rfl⟩
        cases segment with
        | uint number => exact ⟨number.word, rest, ⟨number, rfl, rfl⟩, rfl, rfl⟩
  | string =>
      simp only [Field.decode_string, readThen_eq_ok_iff, Field.decodeText_eq_ok_iff,
        Except.ok.injEq, Prod.mk.injEq]
      constructor
      · rintro ⟨text, _, ⟨length, hlength, rfl⟩, rfl, rfl⟩
        exact ⟨.string length text hlength, rfl, (List.append_assoc _ _ _).symm⟩
      · rintro ⟨segment, rfl, rfl⟩
        cases segment with
        | string length text hlength =>
            exact ⟨text, rest, ⟨length, hlength, List.append_assoc _ _ _⟩, rfl, rfl⟩
  | bool =>
      constructor
      · intro hdecode
        rcases bytes with - | ⟨byte, behind⟩
        · simp [Field.decode] at hdecode
        · simp only [Field.decode] at hdecode
          split_ifs at hdecode with hzero hone
          · simp only [Except.ok.injEq, Prod.mk.injEq] at hdecode
            obtain ⟨rfl, rfl⟩ := hdecode
            exact ⟨.bool false, rfl, by rw [hzero]; rfl⟩
          · simp only [Except.ok.injEq, Prod.mk.injEq] at hdecode
            obtain ⟨rfl, rfl⟩ := hdecode
            exact ⟨.bool true, rfl, by rw [hone]; rfl⟩
      · rintro ⟨segment, rfl, rfl⟩
        cases segment with
        | bool flag => cases flag <;> rfl

/-- The fault of a field says why there is no segment of it. -/
theorem Field.decode_eq_error_iff :
    field.decode bytes = .error fault ↔ field.Refused bytes fault := by
  obtain ⟨name, kind⟩ := field
  cases kind with
  | uint =>
      simp only [Field.decode_uint, readThen_eq_error_iff, Varint.split_eq_error_iff]
      constructor
      · rintro (⟨_, hnumber, rfl⟩ | ⟨_, _, _, hnever⟩)
        · exact .number hnumber
        · cases hnever
      · intro hrefused
        cases hrefused with
        | number hnumber => exact .inl ⟨_, hnumber, rfl⟩
  | string =>
      simp only [Field.decode_string, readThen_eq_error_iff, Field.decodeText_eq_error_iff]
      constructor
      · rintro (⟨_, htext, rfl⟩ | ⟨_, _, _, hnever⟩)
        · exact htext
        · cases hnever
      · intro hrefused
        exact .inl ⟨_, hrefused, rfl⟩
  | bool =>
      rcases bytes with - | ⟨byte, behind⟩
      · simp only [Field.decode, Except.error.injEq]
        constructor
        · rintro rfl
          exact .missing
        · intro hrefused
          cases hrefused with
          | missing => rfl
      · simp only [Field.decode]
        constructor
        · intro hdecode
          split_ifs at hdecode with hzero hone
          obtain rfl := Except.error.inj hdecode
          exact .notFlag behind hzero hone
        · intro hrefused
          cases hrefused with
          | notFlag _ hzero hone =>
              rw [if_neg hzero, if_neg hone]
              rfl

/-- What cannot be read of a field begins with none of its segments. -/
theorem Field.Refused.no_segment (hrefused : field.Refused bytes fault)
    (segment : Segment field.kind) : ¬segment.bytes <+: bytes := by
  rintro ⟨rest, rfl⟩
  have hdecode : field.decode (segment.bytes ++ rest) = .ok (segment.value, rest) :=
    Field.decode_eq_ok_iff.2 ⟨segment, rfl, rfl⟩
  rw [Field.decode_eq_error_iff.2 hrefused] at hdecode
  contradiction

/-- All fields are read exactly from a body. -/
theorem Layout.decodeFields_eq_ok_iff :
    Layout.decodeFields fields bytes = .ok (members, rest) ↔
      ∃ body : Body fields, body.members = members ∧ bytes = body.bytes ++ rest := by
  induction fields generalizing bytes members rest with
  | nil =>
      simp only [Layout.decodeFields, Except.ok.injEq, Prod.mk.injEq]
      constructor
      · rintro ⟨rfl, rfl⟩
        exact ⟨.nil, rfl, rfl⟩
      · rintro ⟨body, rfl, rfl⟩
        cases body with
        | nil => exact ⟨rfl, rfl⟩
  | cons field fields ih =>
      simp only [Layout.decodeFields_cons, readThen_eq_ok_iff, Field.decode_eq_ok_iff, ih,
        Except.ok.injEq, Prod.mk.injEq]
      constructor
      · rintro ⟨_, _, ⟨segment, rfl, rfl⟩, _, _, ⟨body, rfl, rfl⟩, rfl, rfl⟩
        exact ⟨.cons segment body, rfl, (List.append_assoc _ _ _).symm⟩
      · rintro ⟨body, rfl, rfl⟩
        cases body with
        | cons segment body =>
            exact ⟨_, _, ⟨segment, rfl, List.append_assoc _ _ _⟩, _, rest, ⟨body, rfl, rfl⟩,
              rfl, rfl⟩

/-- A fault belongs to the first field that cannot be read; there is a body of the fields
before it. -/
theorem Layout.decodeFields_eq_error_iff :
    Layout.decodeFields fields bytes = .error fault ↔
      ∃ before field after, fields = before ++ field :: after ∧
        ∃ (body : Body before) (rest : Bytes), bytes = body.bytes ++ rest ∧
          field.Refused rest fault := by
  induction fields generalizing bytes fault with
  | nil =>
      refine iff_of_false (by simp [Layout.decodeFields]) ?_
      rintro ⟨before, field, after, hfields, -⟩
      cases before <;> cases hfields
  | cons first fields ih =>
      simp only [Layout.decodeFields_cons, readThen_eq_error_iff, Field.decode_eq_ok_iff,
        Field.decode_eq_error_iff, ih]
      constructor
      · rintro (⟨_, hrefused, rfl⟩ | ⟨_, _, ⟨segment, rfl, rfl⟩, hrest⟩)
        · exact ⟨[], first, fields, rfl, .nil, bytes, rfl, hrefused⟩
        · rcases hrest with ⟨_, hrefused, rfl⟩ | ⟨_, _, _, hnever⟩
          · obtain ⟨before, field, after, rfl, body, rest, rfl, hrefused⟩ := hrefused
            exact ⟨first :: before, field, after, rfl, .cons segment body, rest,
              (List.append_assoc _ _ _).symm, hrefused⟩
          · cases hnever
      · rintro ⟨before, field, after, hfields, body, rest, rfl, hrefused⟩
        cases body with
        | nil =>
            obtain ⟨rfl, rfl⟩ := List.cons.inj hfields
            exact .inl ⟨fault, hrefused, rfl⟩
        | cons segment body =>
            obtain ⟨rfl, rfl⟩ := List.cons.inj hfields
            exact .inr ⟨_, _, ⟨segment, rfl, List.append_assoc _ _ _⟩,
              .inl ⟨fault, ⟨_, field, after, rfl, body, rest, rfl, hrefused⟩, rfl⟩⟩

theorem Segment.eq_of_append {left right : Segment kind} {leftRest rightRest : Bytes}
    (hbytes : left.bytes ++ leftRest = right.bytes ++ rightRest) :
    left = right ∧ leftRest = rightRest := by
  cases left with
  | uint number =>
      cases right with
      | uint other =>
          obtain ⟨rfl, hrest⟩ := Varint.Form.eq_of_append hbytes
          exact ⟨rfl, hrest⟩
  | string length text hlength =>
      cases right with
      | string other otherText hother =>
          simp only [Segment.bytes, List.append_assoc] at hbytes
          obtain ⟨rfl, hbehind⟩ := Varint.Form.eq_of_append hbytes
          obtain ⟨htext, hrest⟩ := List.append_inj hbehind (hlength.trans hother.symm)
          obtain rfl : text = otherText := by
            have hdecode := Utf8.decode?_encode text
            rw [htext, Utf8.decode?_encode, Option.some.injEq] at hdecode
            exact hdecode.symm
          exact ⟨rfl, hrest⟩
  | bool flag =>
      cases right with
      | bool other =>
          obtain ⟨hflag, hrest⟩ := List.cons.inj hbytes
          obtain rfl : flag = other := by
            cases flag <;> cases other <;> simp_all
          exact ⟨rfl, hrest⟩

/-- A body and what follows it are known from their bytes alone. -/
theorem Body.eq_of_append {left right : Body fields} {leftRest rightRest : Bytes}
    (hbytes : left.bytes ++ leftRest = right.bytes ++ rightRest) :
    left = right ∧ leftRest = rightRest := by
  induction left with
  | nil =>
      cases right with
      | nil => exact ⟨rfl, hbytes⟩
  | cons segment left ih =>
      cases right with
      | cons other right =>
          simp only [Body.bytes, List.append_assoc] at hbytes
          obtain ⟨rfl, hbehind⟩ := Segment.eq_of_append hbytes
          obtain ⟨rfl, hrest⟩ := ih hbehind
          exact ⟨rfl, hrest⟩

theorem Body.bytes_injective : Function.Injective (Body.bytes : Body fields → Bytes) :=
  fun _ _ hbytes => (Body.eq_of_append (congrArg (· ++ []) hbytes)).1

theorem Json.ofMembers_eq_iff {listed : List (String × Json)} :
    Json.ofMembers listed = value ↔
      ∃ kept, value = .object kept ∧ Json.Gathers listed kept := by
  obtain ⟨sorted, hobject, hsorted⟩ := Json.exists_ofMembers listed
  have hlookup : ∀ key, sorted.lookup key = listed.reverse.lookup key := by
    intro key
    rw [← Json.member?_ofMembers, hobject]
    rfl
  constructor
  · rintro rfl
    exact ⟨sorted, hobject, hsorted, hlookup⟩
  · rintro ⟨kept, rfl, hkept⟩
    rw [hobject, hsorted.ext hkept.sorted fun key => (hlookup key).trans (hkept.lookup_eq key).symm]

/-- A layout decodes exactly the bodies of its fields, each to the object that its segments
make up. -/
theorem Layout.decode_eq_ok_iff {layout : Layout} :
    layout.decode bytes = .ok value ↔
      ∃ (body : Body layout.fields) (kept : List (String × Json)), bytes = body.bytes ∧
        value = .object kept ∧ Json.Gathers body.members kept := by
  constructor
  · intro hdecode
    obtain ⟨members, hfields⟩ := Layout.decode_eq_ok hdecode
    simp only [Layout.decode, hfields, Except.ok.injEq] at hdecode
    obtain ⟨kept, hvalue, hkept⟩ := Json.ofMembers_eq_iff.1 hdecode
    obtain ⟨body, rfl, hbytes⟩ := Layout.decodeFields_eq_ok_iff.1 hfields
    exact ⟨body, kept, by rw [hbytes, List.append_nil], hvalue, hkept⟩
  · rintro ⟨body, kept, rfl, hvalue, hkept⟩
    have hfields : Layout.decodeFields layout.fields body.bytes = .ok (body.members, []) :=
      Layout.decodeFields_eq_ok_iff.2 ⟨body, rfl, (List.append_nil _).symm⟩
    simp only [Layout.decode, hfields, Json.ofMembers_eq_iff.2 ⟨kept, hvalue, hkept⟩]

/-- Bytes that are no body lack a segment or have bytes behind a body. -/
theorem Layout.decode_eq_error_iff {layout : Layout} :
    layout.decode bytes = .error fault ↔
      (∃ before field after, layout.fields = before ++ field :: after ∧
        ∃ (body : Body before) (rest : Bytes), bytes = body.bytes ++ rest ∧
          field.Refused rest fault) ∨
      ∃ (body : Body layout.fields) (rest : Bytes), bytes = body.bytes ++ rest ∧ rest ≠ [] ∧
        fault = .trailingBytes rest.length := by
  rw [← Layout.decodeFields_eq_error_iff]
  constructor
  · intro hdecode
    cases hfields : Layout.decodeFields layout.fields bytes with
    | error found =>
        simp only [Layout.decode, hfields, Except.error.injEq] at hdecode
        exact .inl (by rw [hdecode])
    | ok parts =>
        obtain ⟨members, rest⟩ := parts
        obtain ⟨body, -, hbytes⟩ := Layout.decodeFields_eq_ok_iff.1 hfields
        rcases rest with - | ⟨byte, rest⟩
        · simp [Layout.decode, hfields] at hdecode
        · simp only [Layout.decode, hfields, Except.error.injEq] at hdecode
          exact .inr ⟨body, byte :: rest, hbytes, List.cons_ne_nil _ _, hdecode.symm⟩
  · rintro (hfields | ⟨body, rest, rfl, hrest, rfl⟩)
    · simp only [Layout.decode, hfields]
    · have hfields : Layout.decodeFields layout.fields (body.bytes ++ rest) =
          .ok (body.members, rest) := Layout.decodeFields_eq_ok_iff.2 ⟨body, rfl, rfl⟩
      rcases rest with - | ⟨byte, rest⟩
      · contradiction
      · simp only [Layout.decode, hfields]

/-- A layout decodes exactly the bodies of its fields, each to the object that its segments
make up.  Otherwise the fault is that of the first field with no segment at its place, or
the number of bytes behind a body.  What the segments are is known from the bytes. -/
theorem Layout.decode_grammar (layout : Layout) (bytes : Bytes) :
    (∀ value, layout.decode bytes = .ok value ↔
      ∃ (body : Body layout.fields) (kept : List (String × Json)), bytes = body.bytes ∧
        value = .object kept ∧ Json.Gathers body.members kept) ∧
    (∀ fault, layout.decode bytes = .error fault ↔
      (∃ before field after, layout.fields = before ++ field :: after ∧
        ∃ (body : Body before) (rest : Bytes), bytes = body.bytes ++ rest ∧
          (∀ segment : Segment field.kind, ¬segment.bytes <+: rest) ∧
          field.Refused rest fault) ∨
      ∃ (body : Body layout.fields) (rest : Bytes), bytes = body.bytes ++ rest ∧ rest ≠ [] ∧
        fault = .trailingBytes rest.length) ∧
    ∀ (left right : Body layout.fields) (leftRest rightRest : Bytes),
      left.bytes ++ leftRest = right.bytes ++ rightRest → left = right ∧ leftRest = rightRest := by
  refine ⟨fun value => Layout.decode_eq_ok_iff, ?_, fun _ _ _ _ => Body.eq_of_append⟩
  intro fault
  have hrefused : ∀ (field : Field) (rest : Bytes), field.Refused rest fault ↔
      (∀ segment : Segment field.kind, ¬segment.bytes <+: rest) ∧ field.Refused rest fault :=
    fun field rest => (and_iff_right_of_imp Field.Refused.no_segment).symm
  simp only [← hrefused]
  exact Layout.decode_eq_error_iff

/-- A text that is longer than what is left, behind a number with a group of zeros. -/
example : (Layout.mk "@a/request" [⟨"count", .uint⟩, ⟨"label", .string⟩]).decode
    [0x87, 0, 2, 0x61] = .error .unexpectedEnd := rfl

end CommandRegistry
