/-
Commands of namespaces.  A namespace and a name are put into one text with a slash between
them, and the registry knows the text alone.  So two commands are kept apart unless their
texts are one, which happens exactly if that text is cut at two of its slashes.
-/
import CommandRegistry.Proofs.History

namespace CommandRegistry

/-- A command inside a namespace, before the two are put into one text. -/
@[ext]
structure LocalName where
  space : String
  name : String
deriving DecidableEq

def LocalName.text (localName : LocalName) : String :=
  qualify localName.space localName.name

/-- The namespace goes on behind the other one, by what the other name begins with: of the
slashes of one text the first is cut at a later one. -/
def LocalName.CutAfter (localName other : LocalName) : Prop :=
  ∃ middle, localName.space = other.space ++ "/" ++ middle ∧
    other.name = middle ++ "/" ++ localName.name

section Cuts

variable {α : Type} {mark : α} {short long front rest other behind : List α}

/-- What lies between two marks is nothing, or begins with the first of them. -/
theorem exists_between_marks_iff :
    (∃ part, long = short ++ part ∧ mark :: rest = part ++ mark :: behind) ↔
      (long = short ∧ rest = behind) ∨
        ∃ middle, long = short ++ mark :: middle ∧ rest = middle ++ mark :: behind := by
  constructor
  · rintro ⟨part, rfl, hpart⟩
    rcases part with - | ⟨head, middle⟩
    · rw [List.nil_append, List.cons.injEq] at hpart
      exact .inl ⟨List.append_nil short, hpart.2⟩
    · rw [List.cons_append, List.cons.injEq] at hpart
      obtain ⟨rfl, hrest⟩ := hpart
      exact .inr ⟨middle, rfl, hrest⟩
  · rintro (⟨rfl, rfl⟩ | ⟨middle, rfl, rfl⟩)
    · exact ⟨[], (List.append_nil long).symm, rfl⟩
    · exact ⟨mark :: middle, rfl, rfl⟩

/-- Two ways to cut a list at a mark are one, or one of them leaves a mark to the other. -/
theorem append_mark_eq_append_mark_iff :
    front ++ mark :: rest = other ++ mark :: behind ↔
      (front = other ∧ rest = behind) ∨
        (∃ middle, front = other ++ mark :: middle ∧ behind = middle ++ mark :: rest) ∨
        ∃ middle, other = front ++ mark :: middle ∧ rest = middle ++ mark :: behind := by
  rw [List.append_eq_append_iff, exists_between_marks_iff, exists_between_marks_iff]
  constructor
  · rintro ((⟨rfl, rfl⟩ | hother) | (⟨rfl, rfl⟩ | hfront))
    · exact .inl ⟨rfl, rfl⟩
    · exact .inr (.inr hother)
    · exact .inl ⟨rfl, rfl⟩
    · exact .inr (.inl hfront)
  · rintro (⟨rfl, rfl⟩ | hfront | hother)
    · exact .inl (.inl ⟨rfl, rfl⟩)
    · exact .inr (.inr hfront)
    · exact .inl (.inr hother)

end Cuts

variable {left right : LocalName}

theorem LocalName.toList_text (localName : LocalName) :
    localName.text.toList = '@' :: (localName.space.toList ++ '/' :: localName.name.toList) := by
  have hslash : "/".toList = ['/'] := rfl
  simp only [LocalName.text, qualify, String.toList_append, hslash, List.append_assoc,
    List.singleton_append]
  rfl

theorem LocalName.cutAfter_iff :
    left.CutAfter right ↔
      ∃ middle, left.space.toList = right.space.toList ++ '/' :: middle ∧
        right.name.toList = middle ++ '/' :: left.name.toList := by
  have hslash : "/".toList = ['/'] := rfl
  simp only [LocalName.CutAfter, ← String.toList_inj, String.toList_append, hslash,
    List.append_assoc, List.singleton_append]
  constructor
  · rintro ⟨middle, hspace, hname⟩
    exact ⟨middle.toList, hspace, hname⟩
  · rintro ⟨middle, hspace, hname⟩
    refine ⟨String.ofList middle, ?_, ?_⟩
    · rw [String.toList_ofList, hspace]
    · rw [String.toList_ofList, hname]

/-- Two local names are put into one text exactly if they are one or are cut from it at two
of its slashes. -/
theorem LocalName.text_eq_iff :
    left.text = right.text ↔ left = right ∨ left.CutAfter right ∨ right.CutAfter left := by
  have hsame : left = right ↔
      left.space.toList = right.space.toList ∧ left.name.toList = right.name.toList := by
    rw [String.toList_inj, String.toList_inj, LocalName.ext_iff]
  rw [← String.toList_inj, LocalName.toList_text, LocalName.toList_text, List.cons.injEq,
    append_mark_eq_append_mark_iff, hsame, LocalName.cutAfter_iff, LocalName.cutAfter_iff]
  exact and_iff_right rfl

/-- To be cut twice a text needs a slash in a namespace and one in a name. -/
theorem LocalName.CutAfter.slashes (hcut : left.CutAfter right) :
    '/' ∈ left.space.toList ∧ '/' ∈ right.name.toList := by
  obtain ⟨middle, hspace, hname⟩ := LocalName.cutAfter_iff.1 hcut
  rw [hspace, hname]
  simp

variable {answers : Set Resolver} {registry later last : Registry} {name : String}
  {spec rightSpec : CommandSpec} {id rightId : UInt64}

/-- The registry has a command of this name under this id. -/
def Registry.Holds (registry : Registry) (name : String) (id : UInt64) : Prop :=
  ∃ command, registry.get? name = some command ∧ command.id = id

theorem Registry.Holds.evolves (hholds : registry.Holds name id)
    (hsound : registry.Sound answers) (hevolves : registry.Evolves answers last) :
    last.Holds name id := by
  obtain ⟨command, hget, hid⟩ := hholds
  obtain ⟨kept, hkept, hidentity⟩ := hevolves.get?_kept hsound hget
  have hsame : kept.id = command.id := congrArg CommandIdentity.id hidentity
  exact ⟨kept, hkept, hsame.trans hid⟩

/-- A registration that succeeds leaves a command under the id that it gives. -/
theorem Registry.Sound.holds_of_register (hsound : registry.Sound answers)
    (hregistered : (registry.register name spec).result = .ok id) :
    (registry.register name spec).after.Holds name id := by
  have hevolves : registry.Evolves answers (registry.register name spec).after :=
    .register (.refl registry) name spec
  unfold Registry.register at hregistered
  cases hpassed : registry.assess name spec with
  | error error =>
      simp only [hpassed, Registry.fail, reduceCtorEq] at hregistered
  | ok admission =>
      simp only [hpassed] at hregistered
      cases Registry.admits_of_eq_ok hsound.consistent hpassed with
      | @known position command hlocate =>
          have hid : command.id = id := Except.ok.inj hregistered
          have hholds : registry.Holds name id := ⟨command, CommandTable.get?_of_locate? hlocate, hid⟩
          exact hholds.evolves hsound hevolves
      | @added fresh handle resolver hresolver hhandle hnew =>
          have hid : fresh = id := Except.ok.inj hregistered
          exact ⟨_, hsound.get?_register_of_added hpassed, hid⟩

/-- Commands have one id only if they have one name. -/
theorem CommandTable.Consistent.id_eq_iff {table : CommandTable}
    (hconsistent : table.Consistent) {leftName rightName : String} {command other : LiveCommand}
    (hleft : table.get? leftName = some command) (hright : table.get? rightName = some other) :
    command.id = other.id ↔ leftName = rightName := by
  obtain ⟨hmem, hname⟩ := hconsistent.get?_eq_some_iff.1 hleft
  obtain ⟨hotherMem, hotherName⟩ := hconsistent.get?_eq_some_iff.1 hright
  constructor
  · intro hid
    have hfound := hconsistent.getById?_eq_some_iff.2 ⟨hmem, hid⟩
    have hotherFound := hconsistent.getById?_eq_some_iff.2 ⟨hotherMem, rfl⟩
    obtain rfl : command = other := Option.some.inj (hfound.symm.trans hotherFound)
    exact hname.symm.trans hotherName
  · rintro rfl
    rw [Option.some.inj (hleft.symm.trans hright)]

/-- Two registrations inside namespaces that have succeeded, with any calls between and after
them, gave different ids to two commands unless they were for one local name or their text is
cut at two slashes; and then they gave one id to one command.  Without a slash in both
namespaces or in both names no text is cut twice. -/
theorem Registry.Reachable.namespaced_commands (hreach : registry.Reachable answers)
    (hleft : (registry.registerIn left.space left.name spec).result = .ok id)
    (hbetween : (registry.registerIn left.space left.name spec).after.Evolves answers later)
    (hright : (later.registerIn right.space right.name rightSpec).result = .ok rightId)
    (hafter : (later.registerIn right.space right.name rightSpec).after.Evolves answers last) :
    ∃ command other, last.get? left.text = some command ∧ command.id = id ∧
      last.get? right.text = some other ∧ other.id = rightId ∧
      (left ≠ right → ¬left.CutAfter right → ¬right.CutAfter left →
        id ≠ rightId ∧ command ≠ other) ∧
      (left = right ∨ left.CutAfter right ∨ right.CutAfter left →
        id = rightId ∧ command = other) ∧
      (('/' ∉ left.space.toList ∧ '/' ∉ right.space.toList) ∨
          ('/' ∉ left.name.toList ∧ '/' ∉ right.name.toList) →
        ¬left.CutAfter right ∧ ¬right.CutAfter left) := by
  have hstored : registry.Evolves answers
      (registry.registerIn left.space left.name spec).after :=
    .registerIn (.refl registry) left.space left.name spec
  have hstoredRight : later.Evolves answers
      (later.registerIn right.space right.name rightSpec).after :=
    .registerIn (.refl later) right.space right.name rightSpec
  have hsound := hreach.sound
  have hfirst := hstored.sound hsound
  have hlater := hbetween.sound hfirst
  have hsecond := hstoredRight.sound hlater
  have hlast := hafter.sound hsecond
  obtain ⟨command, hget, rfl⟩ := (hsound.holds_of_register hleft).evolves hfirst
    (hbetween.trans (hstoredRight.trans hafter))
  obtain ⟨other, hgetRight, rfl⟩ := (hlater.holds_of_register hright).evolves hsecond hafter
  have hids : command.id = other.id ↔
      left = right ∨ left.CutAfter right ∨ right.CutAfter left := by
    rw [← LocalName.text_eq_iff]
    exact hlast.consistent.id_eq_iff hget hgetRight
  refine ⟨command, other, hget, rfl, hgetRight, rfl, ?_, ?_, ?_⟩
  · intro hdiffer hleftCut hrightCut
    have hother : command.id ≠ other.id := by
      rw [ne_eq, hids, not_or, not_or]
      exact ⟨hdiffer, hleftCut, hrightCut⟩
    exact ⟨hother, fun hsame => hother (congrArg LiveCommand.id hsame)⟩
  · intro hone
    have htext : left.text = right.text := LocalName.text_eq_iff.2 hone
    have hget : last.get? right.text = some command := htext ▸ hget
    exact ⟨hids.2 hone, Option.some.inj (hget.symm.trans hgetRight)⟩
  · rintro (⟨hleftSpace, hrightSpace⟩ | ⟨hleftName, hrightName⟩)
    · exact ⟨fun hcut => hleftSpace hcut.slashes.1, fun hcut => hrightSpace hcut.slashes.1⟩
    · exact ⟨fun hcut => hrightName hcut.slashes.2, fun hcut => hleftName hcut.slashes.2⟩

/-- A request of the sample's type that leaves its id and version to the registry. -/
def sampleRequestSpec : CommandSpec :=
  ⟨"@a/request", none, none⟩

/-- Slashes on both sides, but in two texts: the two commands have ids of their own. -/
theorem Registry.namespaced_commands_sample :
    let left : LocalName := ⟨"a/b", "c"⟩
    let right : LocalName := ⟨"a", "c/b"⟩
    let first := Registry.sample.registerIn left.space left.name sampleRequestSpec
    let second := first.after.registerIn right.space right.name sampleRequestSpec
    Registry.sample.Reachable {sampleSchema.resolver} ∧
      first.result = .ok 6 ∧ second.result = .ok 7 ∧
      ∃ command other, second.after.get? left.text = some command ∧ command.id = 6 ∧
        second.after.get? right.text = some other ∧ other.id = 7 ∧ command ≠ other := by
  intro left right first second
  have htexts : ¬(left = right ∨ left.CutAfter right ∨ right.CutAfter left) := by
    rw [← LocalName.text_eq_iff]
    decide
  have hfirst : first.result = .ok 6 := rfl
  have hsecond : second.result = .ok 7 := rfl
  obtain ⟨command, other, hget, hid, hgetRight, hrightId, hapart, -, -⟩ :=
    Registry.sample_reachable.namespaced_commands hfirst (.refl _) hsecond (.refl _)
  rw [not_or, not_or] at htexts
  obtain ⟨-, hdiffer⟩ := hapart htexts.1 htexts.2.1 htexts.2.2
  exact ⟨Registry.sample_reachable, hfirst, hsecond, command, other, hget, hid, hgetRight,
    hrightId, hdiffer⟩

/-- The same text cut at two slashes: the second registration succeeds in another namespace
under another name, and gives the id of the command that the first has brought in. -/
theorem Registry.one_command_of_two_namespaces :
    let left : LocalName := ⟨"a/b", "c"⟩
    let right : LocalName := ⟨"a", "b/c"⟩
    let first := Registry.sample.registerIn left.space left.name sampleRequestSpec
    let second := first.after.registerIn right.space right.name sampleRequestSpec
    Registry.sample.Reachable {sampleSchema.resolver} ∧ left ≠ right ∧
      first.result = .ok 6 ∧ second.result = .ok 6 ∧
      second.after.size = Registry.sample.size + 1 ∧
      ¬∃ command other, second.after.get? left.text = some command ∧
        second.after.get? right.text = some other ∧ command.id ≠ other.id := by
  intro left right first second
  have htext : left.text = right.text := by decide
  refine ⟨Registry.sample_reachable, by decide, rfl, rfl, rfl, ?_⟩
  rintro ⟨command, other, hget, hgetRight, hdiffer⟩
  rw [htext, hgetRight, Option.some.injEq] at hget
  exact hdiffer (congrArg LiveCommand.id hget.symm)

end CommandRegistry
