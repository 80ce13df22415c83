/-
The two indexes of a table against its list of commands.  An index agrees with a
list of keys when it holds the position of every key and nothing else; then the
keys are distinct, and every look-up is a scan of the list.
-/
import CommandRegistry.Table
import Mathlib.Data.List.Nodup

namespace CommandRegistry

section Agreement

variable {κ α : Type} [DecidableEq κ]

/-- The index finds a key exactly where it stands in the list. -/
structure Index.Agrees (index : Index κ) (keys : List κ) : Prop where
  find?_iff : ∀ key position, index.find? key = some position ↔ keys[position]? = some key
  size_eq : index.size = keys.length

variable {index : Index κ} {keys : List κ}

theorem Index.agrees_empty : (Index.empty : Index κ).Agrees [] :=
  ⟨by simp [Index.find?_empty], rfl⟩

theorem Index.Agrees.find?_eq_none_iff (hagrees : index.Agrees keys) (key : κ) :
    index.find? key = none ↔ key ∉ keys := by
  rw [Option.eq_none_iff_forall_ne_some, List.mem_iff_getElem?]
  simp only [ne_eq, hagrees.find?_iff, not_exists]

/-- No key stands at two positions, since the index gives one for each. -/
theorem Index.Agrees.nodup (hagrees : index.Agrees keys) : keys.Nodup := by
  rw [List.nodup_iff_getElem?_ne_getElem?]
  intro first second hlt hlength heq
  have hsecond := List.getElem?_eq_getElem hlength
  have hfound := (hagrees.find?_iff _ second).2 hsecond
  have hfound' := (hagrees.find?_iff _ first).2 (heq.trans hsecond)
  rw [hfound, Option.some.injEq] at hfound'
  omega

theorem Index.entries_insert {key : κ} (position : Nat) (hnew : index.find? key = none) :
    (index.insert key position).entries = (key, position) :: index.entries := by
  have hkeep : (index.entries.filter fun entry => entry.1 ≠ key) = index.entries := by
    rw [List.filter_eq_self]
    intro entry hentry
    have hne : key ≠ entry.1 := by simpa using List.lookup_eq_none_iff.1 hnew entry hentry
    simpa using hne.symm
  rw [Index.insert, hkeep]

theorem Index.size_insert {key : κ} (position : Nat) (hnew : index.find? key = none) :
    (index.insert key position).size = index.size + 1 := by
  rw [Index.size, Index.entries_insert position hnew, List.length_cons, Index.size]

/-- A new key, which stands nowhere in the list, may be put at the end. -/
theorem Index.Agrees.push (hagrees : index.Agrees keys) {key : κ}
    (hnew : index.find? key = none) :
    (index.insert key keys.length).Agrees (keys ++ [key]) := by
  refine ⟨?_, by simp [Index.size_insert _ hnew, hagrees.size_eq]⟩
  intro other position
  rw [Index.find?_insert]
  by_cases hother : other = key
  · subst hother
    have hold := (hagrees.find?_eq_none_iff other).1 hnew
    rw [if_pos rfl, Option.some.injEq]
    constructor
    · rintro rfl
      exact List.getElem?_concat_length
    · intro hposition
      by_contra hne
      apply hold
      rw [List.getElem?_append, List.getElem?_singleton] at hposition
      split at hposition
      · exact List.mem_of_getElem? hposition
      · split at hposition
        · omega
        · contradiction
  · rw [if_neg hother, hagrees.find?_iff, List.getElem?_append, List.getElem?_singleton]
    split
    · rfl
    · rename_i hle
      have hout : keys[position]? = none := List.getElem?_eq_none (by omega)
      rw [hout]
      split
      · simp [Ne.symm hother]
      · simp

/-- Following an index into the list leads to the item with this key. -/
theorem Index.Agrees.bind_find?_eq_some_iff {key : α → κ} {items : List α}
    (hagrees : index.Agrees (items.map key)) {wanted : κ} {item : α} :
    ((index.find? wanted).bind fun position => items[position]?) = some item ↔
      item ∈ items ∧ key item = wanted := by
  simp only [Option.bind_eq_some_iff, hagrees.find?_iff, List.getElem?_map,
    Option.map_eq_some_iff]
  constructor
  · rintro ⟨position, ⟨other, hother, hkey⟩, hitem⟩
    rw [hother, Option.some.injEq] at hitem
    exact ⟨hitem ▸ List.mem_of_getElem? hother, hitem ▸ hkey⟩
  · rintro ⟨hmem, hkey⟩
    obtain ⟨position, hposition⟩ := List.getElem?_of_mem hmem
    exact ⟨position, ⟨item, hposition, hkey⟩, hposition⟩

theorem Index.Agrees.bind_find?_eq_find? {key : α → κ} {items : List α}
    (hagrees : index.Agrees (items.map key)) (wanted : κ) :
    ((index.find? wanted).bind fun position => items[position]?) =
      items.find? fun item => key item = wanted := by
  cases hscan : items.find? fun item => key item = wanted with
  | none =>
      rw [Option.eq_none_iff_forall_ne_some]
      intro item hitem
      obtain ⟨hmem, hkey⟩ := hagrees.bind_find?_eq_some_iff.1 hitem
      simpa [hkey] using List.find?_eq_none.1 hscan item hmem
  | some item =>
      have hkey : key item = wanted := by simpa using List.find?_some hscan
      exact hagrees.bind_find?_eq_some_iff.2 ⟨List.mem_of_find?_eq_some hscan, hkey⟩

theorem Index.Agrees.contains_eq_any {key : α → κ} {items : List α}
    (hagrees : index.Agrees (items.map key)) (wanted : κ) :
    index.contains wanted = items.any fun item => key item = wanted := by
  rw [Bool.eq_iff_iff, Index.contains, Option.isSome_iff_ne_none, ne_eq,
    hagrees.find?_eq_none_iff, not_not]
  simp

end Agreement

/-- Both indexes agree with the list of commands. -/
structure CommandTable.Consistent (table : CommandTable) : Prop where
  byName : table.byName.Agrees (table.handlers.map LiveCommand.name)
  byId : table.byId.Agrees (table.handlers.map LiveCommand.id)

variable {table : CommandTable}

theorem CommandTable.consistent_empty : CommandTable.empty.Consistent :=
  ⟨Index.agrees_empty, Index.agrees_empty⟩

/-- Neither index has an entry for the name or for the id. -/
structure CommandTable.Lacks (table : CommandTable) (name : String) (id : UInt64) : Prop where
  name : table.byName.find? name = none
  id : table.byId.find? id = none

theorem CommandTable.Consistent.push (hconsistent : table.Consistent) {command : LiveCommand}
    (hnew : table.Lacks command.name command.id) : (table.push command).Consistent := by
  have hnames := hconsistent.byName.push hnew.name
  have hids := hconsistent.byId.push hnew.id
  rw [List.length_map] at hnames hids
  constructor
  · rw [CommandTable.push, List.map_append]
    exact hnames
  · rw [CommandTable.push, List.map_append]
    exact hids

/-- What a change of its version leaves of a command can be read off the list
without knowing which command has been changed. -/
theorem CommandTable.map_handlers_setVersion {β : Type} {view : LiveCommand → β}
    (hview : ∀ command version, view (command.withVersion version) = view command)
    (table : CommandTable) (position : Nat) (version : UInt64) :
    (table.setVersion position version).handlers.map view = table.handlers.map view := by
  apply List.ext_getElem?
  intro other
  simp only [CommandTable.setVersion, List.getElem?_map, List.getElem?_modify]
  cases table.handlers[other]? with
  | none => rfl
  | some command =>
      simp only [Option.map_eq_map, Option.map_some, Option.some.injEq]
      split
      · exact hview command version
      · rfl

theorem CommandTable.Consistent.setVersion (hconsistent : table.Consistent) (position : Nat)
    (version : UInt64) : (table.setVersion position version).Consistent := by
  constructor
  · rw [CommandTable.map_handlers_setVersion fun _ _ => rfl]
    exact hconsistent.byName
  · rw [CommandTable.map_handlers_setVersion fun _ _ => rfl]
    exact hconsistent.byId

theorem CommandTable.Consistent.get?_eq_some_iff (hconsistent : table.Consistent)
    {name : String} {command : LiveCommand} :
    table.get? name = some command ↔ command ∈ table.handlers ∧ command.name = name :=
  hconsistent.byName.bind_find?_eq_some_iff

theorem CommandTable.Consistent.getById?_eq_some_iff (hconsistent : table.Consistent)
    {id : UInt64} {command : LiveCommand} :
    table.getById? id = some command ↔ command ∈ table.handlers ∧ command.id = id :=
  hconsistent.byId.bind_find?_eq_some_iff

theorem CommandTable.Consistent.find?_of_get?_eq_none (hconsistent : table.Consistent)
    {name : String} (hget : table.get? name = none) : table.byName.find? name = none := by
  rw [hconsistent.byName.find?_eq_none_iff, List.mem_map]
  rintro ⟨command, hmem, hname⟩
  rw [hconsistent.get?_eq_some_iff.2 ⟨hmem, hname⟩] at hget
  contradiction

theorem CommandTable.Consistent.get?_eq_find? (hconsistent : table.Consistent) (name : String) :
    table.get? name = table.handlers.find? fun command => command.name = name :=
  hconsistent.byName.bind_find?_eq_find? name

theorem CommandTable.Consistent.getById?_eq_find? (hconsistent : table.Consistent)
    (id : UInt64) :
    table.getById? id = table.handlers.find? fun command => command.id = id :=
  hconsistent.byId.bind_find?_eq_find? id

theorem CommandTable.Consistent.containsId_eq_any (hconsistent : table.Consistent)
    (id : UInt64) :
    table.containsId id = table.handlers.any fun command => command.id = id :=
  hconsistent.byId.contains_eq_any id

end CommandRegistry
