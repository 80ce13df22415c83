/-
Where a message ends.  What a reader takes from the front of a byte string is a frame:
it is read in the same way whatever follows it, and a part of it is seen to be cut off.
Frames one after another are a frame again, so a message that is cut off is never taken
for a shorter one, and no byte behind a message is taken for a part of it.
-/
import CommandRegistry.Proofs.EnvelopeRoundTrip

namespace CommandRegistry

section Frames

variable {α β ε φ : Type} {read : Bytes → Except ε (α × Bytes)} {cut : ε → Prop}

/-- A reader finds the value in the frame whatever follows it, and answers any proper
beginning of the frame by one of the errors `cut`. -/
structure Framed (read : Bytes → Except ε (α × Bytes)) (cut : ε → Prop) (frame : Bytes)
    (value : α) : Prop where
  followed : ∀ rest, read (frame ++ rest) = .ok (value, rest)
  short : ∀ front missing, frame = front ++ missing → missing ≠ [] →
    ∃ error, read front = .error error ∧ cut error

/-- A reader that takes frames and nothing else. -/
def ReadsFrames (read : Bytes → Except ε (α × Bytes)) (cut : ε → Prop) : Prop :=
  ∀ bytes value rest, read bytes = .ok (value, rest) →
    ∃ frame, bytes = frame ++ rest ∧ Framed read cut frame value

/-- The bytes that are missing at the end of two parts may begin in either of them. -/
theorem front_of_append {first second front missing : Bytes}
    (hsplit : first ++ second = front ++ missing) :
    (∃ lost, first = front ++ lost ∧ lost ≠ []) ∨
      ∃ kept, front = first ++ kept ∧ second = kept ++ missing := by
  rcases List.append_eq_append_iff.1 hsplit with ⟨kept, hfront, hsecond⟩ | ⟨lost, hfirst, hrest⟩
  · exact .inr ⟨kept, hfront, hsecond⟩
  · by_cases hlost : lost = []
    · subst hlost
      refine .inr ⟨[], ?_, hrest.symm⟩
      rw [hfirst, List.append_nil, List.append_nil]
    · exact .inl ⟨lost, hfirst, hlost⟩

theorem ReadsFrames.done (value : α) : ReadsFrames (fun rest => .ok (value, rest)) cut := by
  intro bytes found rest hread
  simp only [Except.ok.injEq, Prod.mk.injEq] at hread
  obtain ⟨rfl, rfl⟩ := hread
  refine ⟨[], rfl, fun rest => rfl, ?_⟩
  intro front missing hfront hmissing
  exact absurd (List.append_eq_nil_iff.1 hfront.symm).2 hmissing

/-- Two readers one after the other, where the value of the first decides on the second. -/
def readThen (read : Bytes → Except ε (α × Bytes)) (wrap : ε → φ)
    (next : α → Bytes → Except φ (β × Bytes)) (bytes : Bytes) : Except φ (β × Bytes) :=
  match read bytes with
  | .error fault => .error (wrap fault)
  | .ok (value, rest) => next value rest

/-- A frame behind a frame is a frame of the two readers. -/
theorem ReadsFrames.andThen {cutNext : φ → Prop} {wrap : ε → φ}
    {next : α → Bytes → Except φ (β × Bytes)} (hread : ReadsFrames read cut)
    (hwrap : ∀ fault, cut fault → cutNext (wrap fault))
    (hnext : ∀ value, ReadsFrames (next value) cutNext) :
    ReadsFrames (readThen read wrap next) cutNext := by
  intro bytes result rest hboth
  cases hfirst : read bytes with
  | error fault => simp [readThen, hfirst] at hboth
  | ok parts =>
      obtain ⟨value, behind⟩ := parts
      simp only [readThen, hfirst] at hboth
      obtain ⟨head, rfl, hhead⟩ := hread bytes value behind hfirst
      obtain ⟨tail, rfl, htail⟩ := hnext value behind result rest hboth
      refine ⟨head ++ tail, (List.append_assoc head tail rest).symm, ?_, ?_⟩
      · intro rest
        rw [List.append_assoc]
        simp only [readThen, hhead.followed, htail.followed]
      · intro front missing hfront hmissing
        rcases front_of_append hfront with ⟨lost, hsplit, hlost⟩ | ⟨kept, rfl, hkept⟩
        · obtain ⟨fault, hfault, hcut⟩ := hhead.short front lost hsplit hlost
          exact ⟨wrap fault, by simp only [readThen, hfault], hwrap fault hcut⟩
        · obtain ⟨fault, hfault, hcut⟩ := htail.short kept missing hkept hmissing
          exact ⟨fault, by simp only [readThen, hhead.followed, hfault], hcut⟩

end Frames

theorem Varint.framed_readGroups {left : Nat} {bytes : Bytes} {word : UInt64} {used : Nat}
    (hread : Varint.readGroups left bytes = .ok (word, used)) :
    ∃ frame rest, bytes = frame ++ rest ∧ frame.length = used ∧
      (∀ rest, Varint.readGroups left (frame ++ rest) = .ok (word, used)) ∧
      ∀ front missing, frame = front ++ missing → missing ≠ [] →
        Varint.readGroups left front = .error .unexpectedEnd := by
  induction left generalizing bytes word used with
  | zero => rcases bytes with - | ⟨byte, rest⟩ <;> simp [Varint.readGroups] at hread
  | succ left ih =>
      rcases bytes with - | ⟨byte, rest⟩
      · simp [Varint.readGroups] at hread
      · rw [Varint.readGroups_cons] at hread
        split_ifs at hread with hfull hlast
        · simp only [Except.ok.injEq, Prod.mk.injEq] at hread
          obtain ⟨rfl, rfl⟩ := hread
          refine ⟨[byte], rest, rfl, rfl, ?_, ?_⟩
          · intro rest
            exact (Varint.readGroups_cons left byte rest).trans (by rw [if_neg hfull, if_pos hlast])
          · intro front missing hfront hmissing
            rcases front with - | ⟨first, front⟩
            · rfl
            · simp_all
        · cases htail : Varint.readGroups left rest with
          | error fault => simp [htail] at hread
          | ok tail =>
              simp only [htail, Except.ok.injEq, Prod.mk.injEq] at hread
              obtain ⟨rfl, rfl⟩ := hread
              obtain ⟨frame, behind, rfl, hused, hfollowed, hshort⟩ := ih htail
              refine ⟨byte :: frame, behind, rfl, by rw [List.length_cons, hused], ?_, ?_⟩
              · intro rest
                rw [List.cons_append, Varint.readGroups_cons, if_neg hfull, if_neg hlast,
                  hfollowed rest]
              · intro front missing hfront hmissing
                rcases front with - | ⟨first, front⟩
                · rfl
                · simp only [List.cons_append, List.cons.injEq] at hfront
                  obtain ⟨rfl, hfront⟩ := hfront
                  rw [Varint.readGroups_cons, if_neg hfull, if_neg hlast,
                    hshort front missing hfront hmissing]

theorem Varint.split_readsFrames : ReadsFrames Varint.split (· = .unexpectedEnd) := by
  intro bytes word rest hsplit
  cases hread : Varint.read bytes with
  | error fault => simp [Varint.split, hread] at hsplit
  | ok parts =>
      obtain ⟨found, used⟩ := parts
      simp only [Varint.split, hread, Except.ok.injEq, Prod.mk.injEq] at hsplit
      obtain ⟨rfl, rfl⟩ := hsplit
      obtain ⟨frame, behind, rfl, rfl, hfollowed, hshort⟩ := Varint.framed_readGroups hread
      refine ⟨frame, by rw [List.drop_left], ?_, ?_⟩
      · intro rest
        have hagain : Varint.read (frame ++ rest) = .ok (found, frame.length) := hfollowed rest
        simp only [Varint.split, hagain, List.drop_left]
      · intro front missing hfront hmissing
        have hcut : Varint.read front = .error .unexpectedEnd := hshort front missing hfront hmissing
        exact ⟨.unexpectedEnd, by simp only [Varint.split, hcut], rfl⟩

/-- The faults that tell of a body that is over too early. -/
inductive CodecError.AtEnd : CodecError → Prop
  | body : AtEnd .unexpectedEnd
  | number : AtEnd (.varint .unexpectedEnd)

theorem CodecError.AtEnd.of_varint (fault : VarintError) (hfault : fault = .unexpectedEnd) :
    (CodecError.varint fault).AtEnd :=
  hfault ▸ .number

/-- The text that fills this many bytes at the front of a body. -/
def Field.takeText (field : Field) (length : UInt64) (bytes : Bytes) :
    Except CodecError (String × Bytes) :=
  if bytes.length < length.toNat then .error .unexpectedEnd
  else
    match Utf8.decode? (bytes.take length.toNat) with
    | some text => .ok (text, bytes.drop length.toNat)
    | none => .error (.invalidUtf8 field.name)

theorem Field.takeText_readsFrames (field : Field) (length : UInt64) :
    ReadsFrames (field.takeText length) CodecError.AtEnd := by
  intro bytes text rest hread
  by_cases hlong : bytes.length < length.toNat
  · simp [Field.takeText, hlong] at hread
  · cases htext : Utf8.decode? (bytes.take length.toNat) with
    | none => simp [Field.takeText, hlong, htext] at hread
    | some found =>
        simp only [Field.takeText, hlong, htext, ↓reduceIte, Except.ok.injEq,
          Prod.mk.injEq] at hread
        obtain ⟨rfl, rfl⟩ := hread
        have hlength : (bytes.take length.toNat).length = length.toNat := by
          rw [List.length_take]
          omega
        refine ⟨bytes.take length.toNat, (List.take_append_drop _ _).symm, ?_, ?_⟩
        · intro rest
          have hfits : ¬(bytes.take length.toNat ++ rest).length < length.toNat := by
            rw [List.length_append, hlength]
            omega
          have htake : (bytes.take length.toNat ++ rest).take length.toNat =
              bytes.take length.toNat := List.take_left' hlength
          have hdrop : (bytes.take length.toNat ++ rest).drop length.toNat = rest :=
            List.drop_left' hlength
          simp only [Field.takeText, hfits, htake, htext, hdrop, ↓reduceIte]
        · intro front missing hfront hmissing
          have hfew : front.length < length.toNat := by
            rw [← hlength, hfront, List.length_append]
            have hsome := List.length_pos_iff.2 hmissing
            omega
          exact ⟨.unexpectedEnd, by simp only [Field.takeText, hfew, ↓reduceIte], .body⟩

theorem Field.decodeText_eq (field : Field) :
    field.decodeText = readThen Varint.split .varint field.takeText := by
  funext bytes
  unfold Field.decodeText readThen
  cases Varint.split bytes <;> rfl

theorem Field.decodeText_readsFrames (field : Field) :
    ReadsFrames field.decodeText CodecError.AtEnd := by
  rw [Field.decodeText_eq]
  exact Varint.split_readsFrames.andThen CodecError.AtEnd.of_varint field.takeText_readsFrames

theorem Field.decode_uint {field : Field} (hkind : field.kind = .uint) :
    field.decode =
      readThen Varint.split .varint fun word rest => .ok (.ofNatural word, rest) := by
  funext bytes
  unfold Field.decode readThen
  rw [hkind]
  cases Varint.split bytes <;> rfl

theorem Field.decode_string {field : Field} (hkind : field.kind = .string) :
    field.decode = readThen field.decodeText id fun text rest => .ok (.string text, rest) := by
  funext bytes
  unfold Field.decode readThen
  rw [hkind]
  cases field.decodeText bytes <;> rfl

theorem Field.decode_readsFrames (field : Field) : ReadsFrames field.decode CodecError.AtEnd := by
  cases hkind : field.kind with
  | uint =>
      rw [Field.decode_uint hkind]
      exact Varint.split_readsFrames.andThen CodecError.AtEnd.of_varint fun word => .done _
  | string =>
      rw [Field.decode_string hkind]
      exact field.decodeText_readsFrames.andThen (fun _ hend => hend) fun text => .done _
  | bool =>
      intro bytes value rest hread
      rcases bytes with - | ⟨byte, behind⟩
      · simp [Field.decode, hkind] at hread
      · have hrest : behind = rest := by
          simp only [Field.decode, hkind] at hread
          split_ifs at hread <;> simp_all
        subst hrest
        refine ⟨[byte], rfl, ?_, ?_⟩
        · intro rest
          simp only [Field.decode, hkind, List.cons_append, List.nil_append] at hread ⊢
          split_ifs at hread ⊢ <;> simp_all
        · intro front missing hfront hmissing
          rcases front with - | ⟨first, front⟩
          · exact ⟨.unexpectedEnd, by simp only [Field.decode, hkind], .body⟩
          · simp_all

theorem Layout.decodeFields_cons (field : Field) (fields : List Field) :
    Layout.decodeFields (field :: fields) =
      readThen field.decode id fun value =>
        readThen (Layout.decodeFields fields) id fun members rest =>
          .ok ((field.name, value) :: members, rest) := by
  funext bytes
  rw [Layout.decodeFields, readThen]
  cases field.decode bytes with
  | error fault => rfl
  | ok parts =>
      dsimp only
      rw [readThen]
      cases Layout.decodeFields fields parts.2 <;> rfl

/-- The fields of a body are read one after another, so their frames make one frame. -/
theorem Layout.decodeFields_readsFrames (fields : List Field) :
    ReadsFrames (Layout.decodeFields fields) CodecError.AtEnd := by
  induction fields with
  | nil => exact .done []
  | cons field fields ih =>
      rw [Layout.decodeFields_cons]
      apply field.decode_readsFrames.andThen fun _ hend => hend
      intro value
      exact ih.andThen (fun _ hend => hend) fun members => .done _

theorem Layout.decode_eq_ok {layout : Layout} {body : Bytes} {value : Json}
    (hread : layout.decode body = .ok value) :
    ∃ members, Layout.decodeFields layout.fields body = .ok (members, []) := by
  cases hfields : Layout.decodeFields layout.fields body with
  | error fault => simp [Layout.decode, hfields] at hread
  | ok parts =>
      obtain ⟨members, rest⟩ := parts
      rcases rest with - | ⟨byte, rest⟩
      · exact ⟨members, rfl⟩
      · simp [Layout.decode, hfields] at hread

/-- A body that is read as it stands is seen to be cut off when it is shorter, and the
bytes behind it are counted when it is longer. -/
theorem Layout.decode_framed {layout : Layout} {body : Bytes} {value : Json}
    (hread : layout.decode body = .ok value) :
    (∀ front missing, body = front ++ missing → missing ≠ [] →
      ∃ fault, layout.decode front = .error fault ∧ fault.AtEnd) ∧
    ∀ added, added ≠ [] → layout.decode (body ++ added) = .error (.trailingBytes added.length) := by
  obtain ⟨members, hfields⟩ := Layout.decode_eq_ok hread
  obtain ⟨frame, hbody, hframe⟩ := Layout.decodeFields_readsFrames _ _ _ _ hfields
  rw [List.append_nil] at hbody
  subst hbody
  constructor
  · intro front missing hfront hmissing
    obtain ⟨fault, hfault, hend⟩ := hframe.short front missing hfront hmissing
    exact ⟨fault, by simp only [Layout.decode, hfault], hend⟩
  · intro added hadded
    rcases added with - | ⟨byte, added⟩
    · contradiction
    · simp only [Layout.decode, hframe.followed]

/-- The errors that tell of a message that is over too early. -/
inductive DispatchError.AtEnd : DispatchError → Prop
  | header : AtEnd (.malformedEnvelope .unexpectedEnd)
  | body {fault : CodecError} (hfault : fault.AtEnd) : AtEnd (.codec fault)

/-- A message that is read has a header, a command for its id, and a body that this
command reads. -/
theorem CommandTable.parts_of_decode {table : CommandTable} {bytes : Bytes} {envelope : Envelope}
    (hdecode : table.decode bytes = .ok envelope) :
    ∃ id body command value, Varint.split bytes = .ok (id, body) ∧
      table.getById? id = some command ∧ command.handle.requestType.decode body = .ok value := by
  cases hheader : Varint.split bytes with
  | error cause => simp [CommandTable.decode, Envelope.decodeHeader, hheader] at hdecode
  | ok parts =>
      obtain ⟨id, body⟩ := parts
      cases hget : table.getById? id with
      | none => simp [CommandTable.decode, Envelope.decodeHeader, hheader, hget] at hdecode
      | some command =>
          cases hbody : command.handle.requestType.decode body with
          | error cause =>
              simp [CommandTable.decode, Envelope.decodeHeader, hheader, hget, hbody] at hdecode
          | ok value => exact ⟨id, body, command, value, rfl, hget, hbody⟩

/-- Over a schema no proper beginning of a message is read, but each is reported as over
too early, and whatever is put behind a message is reported with its length. -/
theorem Registry.Reachable.message_framing {schema : Schema} {registry : Registry}
    (hreach : registry.Reachable {schema.resolver}) {bytes : Bytes} {envelope : Envelope}
    (hdecode : registry.compile.decode bytes = .ok envelope) :
    (∀ front, front <+: bytes → front ≠ bytes →
      ∃ error, registry.compile.decode front = .error error ∧ error.AtEnd) ∧
    ∀ added, added ≠ [] →
      registry.compile.decode (bytes ++ added) = .error (.codec (.trailingBytes added.length)) := by
  have hsound := hreach.sound
  obtain ⟨id, body, command, value, hsplit, hget, hbody⟩ := CommandTable.parts_of_decode hdecode
  obtain ⟨hmem, -⟩ := hsound.consistent.getById?_eq_some_iff.1 hget
  obtain ⟨layout, -, hhandle⟩ := hsound.exists_layout hmem
  rw [hhandle] at hbody
  obtain ⟨hshort, hlong⟩ := Layout.decode_framed hbody
  obtain ⟨header, rfl, hheader⟩ := Varint.split_readsFrames bytes id body hsplit
  have hbehind : ∀ rest fault, layout.decode rest = .error fault →
      registry.compile.decode (header ++ rest) = .error (.codec fault) := by
    intro rest fault hfault
    have hrefused : layout.requestType.decode rest = .error fault := hfault
    simp only [CommandTable.decode, Envelope.decodeHeader, hheader.followed, hget, hhandle,
      hrefused]
  constructor
  · rintro front ⟨missing, hfront⟩ hne
    have hmissing : missing ≠ [] := by
      rintro rfl
      exact hne (by rw [← hfront, List.append_nil])
    rcases front_of_append hfront.symm with ⟨lost, hsplit, hlost⟩ | ⟨kept, rfl, hkept⟩
    · obtain ⟨cause, hcause, rfl⟩ := hheader.short front lost hsplit hlost
      exact ⟨_, by simp only [CommandTable.decode, Envelope.decodeHeader, hcause], .header⟩
    · obtain ⟨fault, hfault, hend⟩ := hshort kept missing hkept hmissing
      exact ⟨.codec fault, hbehind kept fault hfault, .body hend⟩
  · intro added hadded
    rw [List.append_assoc]
    exact hbehind (body ++ added) _ (hlong added hadded)

/-- A message to the first command of the sample, with its id and a length written in
more bytes than they need. -/
def Registry.sampleMessage : Bytes :=
  [0x82, 0, 0xAC, 2, 0x82, 0, 0xC3, 0xBC, 7]

theorem Registry.message_framing_sample :
    Registry.sample.Reachable {sampleSchema.resolver} ∧
      (∃ envelope, Registry.sample.compile.decode Registry.sampleMessage = .ok envelope) ∧
      (∃ error, Registry.sample.compile.decode [0x82, 0, 0xAC, 2, 0x82, 0, 0xC3] =
        .error error ∧ error.AtEnd) ∧
      Registry.sample.compile.decode (Registry.sampleMessage ++ [1, 2]) =
        .error (.codec (.trailingBytes 2)) := by
  have hdecode : Registry.sample.compile.decode Registry.sampleMessage =
      .ok ⟨2, "@a/first", .object [("count", .ofNatural 7), ("label", .string "ü")]⟩ := rfl
  obtain ⟨hshort, hlong⟩ := Registry.sample_reachable.message_framing hdecode
  have hfront : [0x82, 0, 0xAC, 2, 0x82, 0, 0xC3] <+: Registry.sampleMessage := by decide
  exact ⟨Registry.sample_reachable, ⟨_, hdecode⟩, hshort _ hfront (by decide),
    hlong [1, 2] (by decide)⟩

end CommandRegistry
