/-
Readers whose accesses are guarded.  A slice is taken only within the bytes, and a group is
shifted only within a word; a run that would leave either has no result.  Guarded readers
are put together like the readers themselves, and come to the same on all bytes: what a
number takes up is there, and a text is cut off only after its length has been compared.
-/
import CommandRegistry.Proofs.MessageFraming
import CommandRegistry.Proofs.VarintReading

namespace CommandRegistry

/-- No guard of a run fails: with its accesses guarded it comes to what it comes to. -/
def GuardsHold {α β : Type} (guarded : α → Option β) (run : α → β) : Prop :=
  ∀ input, guarded input = some (run input)

/-- The bytes from a place on, which must not lie behind their end. -/
def Bytes.dropGuarded (place : Nat) (bytes : Bytes) : Option Bytes :=
  if place ≤ bytes.length then some (bytes.drop place) else none

/-- The bytes before and from a place, which must not lie behind their end. -/
def Bytes.splitGuarded (place : Nat) (bytes : Bytes) : Option (Bytes × Bytes) :=
  if place ≤ bytes.length then some (bytes.take place, bytes.drop place) else none

section Readers

variable {α β ε φ : Type} {guarded : Bytes → Option (Except ε (α × Bytes))}
  {read : Bytes → Except ε (α × Bytes)}
  {guardedNext : α → Bytes → Option (Except φ (β × Bytes))}
  {next : α → Bytes → Except φ (β × Bytes)}

/-- Two guarded readers, where the value of the first decides on the second. -/
def guardedThen (guarded : Bytes → Option (Except ε (α × Bytes))) (wrap : ε → φ)
    (guardedNext : α → Bytes → Option (Except φ (β × Bytes))) (bytes : Bytes) :
    Option (Except φ (β × Bytes)) :=
  (guarded bytes).bind fun
    | .error fault => some (.error (wrap fault))
    | .ok (value, rest) => guardedNext value rest

theorem GuardsHold.andThen (hfirst : GuardsHold guarded read) (wrap : ε → φ)
    (hnext : ∀ value, GuardsHold (guardedNext value) (next value)) :
    GuardsHold (guardedThen guarded wrap guardedNext) (readThen read wrap next) := by
  intro bytes
  rw [guardedThen, hfirst bytes, Option.bind_some, readThen]
  cases read bytes with
  | error fault => rfl
  | ok parts => exact hnext parts.1 parts.2

end Readers

theorem Varint.used_of_read {bytes : Bytes} {word : UInt64} {used : Nat}
    (hread : Varint.read bytes = .ok (word, used)) : 1 ≤ used ∧ used ≤ bytes.length := by
  obtain ⟨hends, -, -⟩ := Varint.read_eq_ok_iff_endsAfter.1 hread
  exact ⟨hends.count_pos, hends.count_le⟩

/-- Read a number by shifts, and take the bytes from its end on. -/
def Varint.guardedSplit (bytes : Bytes) : Option (Except VarintError (UInt64 × Bytes)) :=
  (Varint.gather 0 0 0 bytes).bind fun
    | .error fault => some (.error fault)
    | .ok (word, used) => (Bytes.dropGuarded used bytes).map fun rest => .ok (word, rest)

theorem Varint.guardsHold_split : GuardsHold Varint.guardedSplit Varint.split := by
  intro bytes
  rw [Varint.guardedSplit, Varint.gather_eq_read, Option.bind_some, Varint.split]
  cases hread : Varint.read bytes with
  | error fault => rfl
  | ok parts =>
      have hused : parts.2 ≤ bytes.length := (Varint.used_of_read hread).2
      simp only [Bytes.dropGuarded, hused, if_true, Option.map_some]

def Field.guardedTakeText (field : Field) (length : UInt64) (bytes : Bytes) :
    Option (Except CodecError (String × Bytes)) :=
  if bytes.length < length.toNat then some (.error .unexpectedEnd)
  else
    (Bytes.splitGuarded length.toNat bytes).map fun parts =>
      match Utf8.decode? parts.1 with
      | some text => .ok (text, parts.2)
      | none => .error (.invalidUtf8 field.name)

/-- Whatever length is declared, the bytes are split only where there are so many. -/
theorem Field.guardsHold_takeText (field : Field) (length : UInt64) :
    GuardsHold (field.guardedTakeText length) (field.takeText length) := by
  intro bytes
  rw [Field.guardedTakeText, Field.takeText]
  by_cases hshort : bytes.length < length.toNat
  · rw [if_pos hshort, if_pos hshort]
  · rw [if_neg hshort, if_neg hshort, Bytes.splitGuarded, if_pos (Nat.not_lt.1 hshort)]
    rfl

def Field.guardedDecodeText (field : Field) : Bytes → Option (Except CodecError (String × Bytes)) :=
  guardedThen Varint.guardedSplit .varint field.guardedTakeText

theorem Field.guardsHold_decodeText (field : Field) :
    GuardsHold field.guardedDecodeText field.decodeText := by
  rw [Field.decodeText_eq]
  exact Varint.guardsHold_split.andThen CodecError.varint field.guardsHold_takeText

/-- A truth value is one byte, which is looked at only if it is there. -/
def Field.guardedDecode (field : Field) : Bytes → Option (Except CodecError (Json × Bytes)) :=
  match field.kind with
  | .uint =>
      guardedThen Varint.guardedSplit .varint fun word rest =>
        some (.ok (.ofNatural word, rest))
  | .string =>
      guardedThen field.guardedDecodeText id fun text rest => some (.ok (.string text, rest))
  | .bool => fun bytes => some (field.decode bytes)

theorem Field.guardsHold_decode (field : Field) :
    GuardsHold field.guardedDecode field.decode := by
  unfold Field.guardedDecode
  cases hkind : field.kind with
  | uint =>
      rw [Field.decode_uint hkind]
      exact Varint.guardsHold_split.andThen CodecError.varint fun word rest => rfl
  | string =>
      rw [Field.decode_string hkind]
      exact field.guardsHold_decodeText.andThen id fun text rest => rfl
  | bool => exact fun bytes => rfl

def Layout.guardedDecodeFields :
    List Field → Bytes → Option (Except CodecError (List (String × Json) × Bytes))
  | [] => fun bytes => some (.ok ([], bytes))
  | field :: fields =>
      guardedThen field.guardedDecode id fun value =>
        guardedThen (Layout.guardedDecodeFields fields) id fun members rest =>
          some (.ok ((field.name, value) :: members, rest))

/-- Each field begins where the one before it has ended. -/
theorem Layout.guardsHold_decodeFields (fields : List Field) :
    GuardsHold (Layout.guardedDecodeFields fields) (Layout.decodeFields fields) := by
  induction fields with
  | nil => exact fun bytes => rfl
  | cons field fields ih =>
      rw [Layout.decodeFields_cons, Layout.guardedDecodeFields]
      apply field.guardsHold_decode.andThen id
      intro value
      exact ih.andThen id fun members rest => rfl

def Layout.guardedDecode (layout : Layout) (bytes : Bytes) : Option (Except CodecError Json) :=
  (Layout.guardedDecodeFields layout.fields bytes).map fun
    | .error fault => .error fault
    | .ok (members, []) => .ok (.ofMembers members)
    | .ok (_, rest) => .error (.trailingBytes rest.length)

theorem Layout.guardsHold_decode (layout : Layout) :
    GuardsHold layout.guardedDecode layout.decode := by
  intro bytes
  have hfields := Layout.guardsHold_decodeFields layout.fields bytes
  cases hread : Layout.decodeFields layout.fields bytes with
  | error fault =>
      simp only [Layout.guardedDecode, Layout.decode, hfields, hread, Option.map_some]
  | ok parts =>
      obtain ⟨members, rest⟩ := parts
      rcases rest with - | ⟨byte, rest⟩
      · simp only [Layout.guardedDecode, Layout.decode, hfields, hread, Option.map_some]
      · simp only [Layout.guardedDecode, Layout.decode, hfields, hread, Option.map_some]

/-- A text that claims to be longer than any memory is only compared with what is there. -/
example : Layout.guardedDecode ⟨"@a/note", [⟨"text", .string⟩]⟩
    (List.replicate 9 0xFF ++ [1, 0x61]) = some (.error .unexpectedEnd) := rfl

def Envelope.guardedDecodeHeader (bytes : Bytes) :
    Option (Except DispatchError (UInt64 × Bytes)) :=
  (Varint.guardedSplit bytes).map fun
    | .ok parts => .ok parts
    | .error cause => .error (.malformedEnvelope cause)

theorem Envelope.guardsHold_decodeHeader :
    GuardsHold Envelope.guardedDecodeHeader Envelope.decodeHeader := by
  intro bytes
  have hparts := Varint.guardsHold_split bytes
  cases hsplit : Varint.split bytes with
  | error fault =>
      simp only [Envelope.guardedDecodeHeader, Envelope.decodeHeader, hparts, hsplit,
        Option.map_some]
  | ok parts =>
      simp only [Envelope.guardedDecodeHeader, Envelope.decodeHeader, hparts, hsplit,
        Option.map_some]

end CommandRegistry
