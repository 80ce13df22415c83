/-
The text of a snapshot, read back.  What is written is one of the layouts in which a
snapshot may be kept, so it is read like any of them.
-/
import CommandRegistry.Proofs.SnapshotLayouts

namespace CommandRegistry

variable {member : String × List Char}

/-- The members of a record as they are written. -/
def CommandRecord.members (record : CommandRecord) : List (String × List Char) :=
  [("id", naturalDigits record.id), ("name", Json.quote record.name),
    ("requestType", Json.quote record.requestType), ("version", naturalDigits record.version)]

theorem CommandRecord.member_of_mem {record : CommandRecord}
    (hmember : member ∈ record.members) :
    record.Member member ∧ Json.ValueText member.2 := by
  simp only [CommandRecord.members, List.mem_cons, List.not_mem_nil, or_false] at hmember
  rcases hmember with rfl | rfl | rfl | rfl
  · exact ⟨.id, Json.valueText_naturalDigits _⟩
  · exact ⟨.name (Json.stringText_quote _), Json.valueText_quote _⟩
  · exact ⟨.requestType (Json.stringText_quote _), Json.valueText_quote _⟩
  · exact ⟨.version, Json.valueText_naturalDigits _⟩

theorem CommandRecord.objectOf_pretty (record : CommandRecord) :
    Json.ObjectOf record.members record.pretty :=
  Json.objectOf_lines 4 6 fun _ hmember => (CommandRecord.member_of_mem hmember).2

theorem CommandRecord.laidOut_pretty (record : CommandRecord) :
    record.LaidOut record.pretty :=
  .object record.objectOf_pretty (fun _ hmember => (CommandRecord.member_of_mem hmember).1)
    (.refl _)

/-- The records as they are written. -/
def Snapshot.recordLines (snapshot : Snapshot) : List Char :=
  bracketed '[' ']' 2 (snapshot.handlers.map fun record => List.replicate 4 ' ' ++ record.pretty)

theorem Snapshot.arrayOf_recordLines (snapshot : Snapshot) :
    Json.ArrayOf (snapshot.handlers.map CommandRecord.pretty) snapshot.recordLines := by
  have hvalues : ∀ item ∈ snapshot.handlers.map CommandRecord.pretty, Json.ValueText item := by
    intro item hitem
    obtain ⟨record, -, rfl⟩ := List.mem_map.1 hitem
    exact record.objectOf_pretty.valueText
  have hlines := Json.arrayOf_lines 2 4 hvalues
  rwa [List.map_map] at hlines

/-- The members of a snapshot as they are written. -/
def Snapshot.members (snapshot : Snapshot) : List (String × List Char) :=
  [("version", naturalDigits snapshot.version), ("offset", naturalDigits snapshot.offset),
    ("handlers", snapshot.recordLines)]

theorem Snapshot.member_of_mem {snapshot : Snapshot} (hmember : member ∈ snapshot.members) :
    snapshot.Member "handlers" member ∧ Json.ValueText member.2 := by
  simp only [Snapshot.members, List.mem_cons, List.not_mem_nil, or_false] at hmember
  rcases hmember with rfl | rfl | rfl
  · exact ⟨.version, Json.valueText_naturalDigits _⟩
  · exact ⟨.offset, Json.valueText_naturalDigits _⟩
  · refine ⟨.records snapshot.arrayOf_recordLines.written ?_,
      snapshot.arrayOf_recordLines.valueText⟩
    exact List.forall₂_map_right_iff.2
      (List.forall₂_same.2 fun record _ => record.laidOut_pretty)

theorem Snapshot.objectOf_prettyChars (snapshot : Snapshot) :
    Json.ObjectOf snapshot.members snapshot.prettyChars :=
  Json.objectOf_lines 0 2 fun _ hmember => (Snapshot.member_of_mem hmember).2

theorem Snapshot.laidOut_members (snapshot : Snapshot) :
    snapshot.LaidOut "handlers" snapshot.members where
  key := List.mem_cons_self
  member _ hmember := (Snapshot.member_of_mem hmember).1
  fields := .inl (.refl _)

/-- Behind the text of a snapshot nothing but blanks may follow. -/
theorem Snapshot.ofText_pretty_append (snapshot : Snapshot) (rest : String) :
    Snapshot.ofText (snapshot.pretty ++ rest) =
      if rest.toList.all isBlank then .ok snapshot else .error (.text .malformed) := by
  have htext : (snapshot.pretty ++ rest).toList =
      [] ++ (snapshot.prettyChars ++ rest.toList) := by
    rw [String.toList_append, Snapshot.pretty, String.toList_ofList, List.nil_append]
  exact snapshot.laidOut_members.ofText_append snapshot.objectOf_prettyChars Json.blanks_nil htext

/-- Every snapshot is read back from its text as it was. -/
theorem Snapshot.ofText_pretty (snapshot : Snapshot) :
    Snapshot.ofText snapshot.pretty = .ok snapshot := by
  have hread := snapshot.ofText_pretty_append ""
  rwa [String.append_empty] at hread

/-- Every snapshot is read back from its text as it was, with every word, every character
of its strings and the order of its records, and so it is if blanks follow the text; with
anything else behind it the text is refused. -/
theorem Snapshot.text_round_trip (snapshot : Snapshot) :
    Snapshot.ofText snapshot.pretty = .ok snapshot ∧
    ∀ rest : String, Snapshot.ofText (snapshot.pretty ++ rest) =
      if rest.toList.all isBlank then .ok snapshot else .error (.text .malformed) :=
  ⟨snapshot.ofText_pretty, snapshot.ofText_pretty_append⟩

end CommandRegistry
