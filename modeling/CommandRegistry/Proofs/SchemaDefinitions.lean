/-
Definitions of request types.  A schema keeps every definition at the place where it was
first made and takes no second one under a name, so a name leads to one definition for
good.  The registry tells request types apart by that alone: a known command is known
under the type name that its record has, and under no other.
-/
import CommandRegistry.Proofs.RegistrationOutcome
import CommandRegistry.Proofs.RestartTransparency
import Mathlib.Data.Finset.Card

namespace CommandRegistry

/-- A layout as it is handed in, under a name inside a namespace. -/
structure Definition where
  space : String
  name : String
  fields : List Field

def Definition.typeName (definition : Definition) : String :=
  qualify definition.space definition.name

def Definition.layout (definition : Definition) : Layout :=
  ⟨definition.typeName, definition.fields⟩

/-- Hand in a definition, which may be refused. -/
def Schema.take (schema : Schema) (definition : Definition) :
    Except DispatchError Unit × Schema :=
  schema.defineIn definition.space definition.name definition.fields

/-- What a new schema has become after definitions that were taken or refused. -/
def Schema.ofDefinitions (definitions : List Definition) : Schema :=
  definitions.foldl (fun schema definition => (schema.take definition).2) .empty

variable {schema later : Schema} {definition : Definition} {layout : Layout} {name : String}
  {place : Nat} {handle : TypeHandle}

theorem Schema.find?_eq_none_iff :
    schema.find? name = none ↔ name ∉ schema.layouts.map Layout.name := by
  simp [Schema.find?]

theorem Schema.take_of_known (hfind : schema.find? definition.typeName = some layout) :
    schema.take definition =
      (.error (.configuration (.typeDefined definition.typeName)), schema) := by
  change schema.define definition.layout = _
  unfold Schema.define
  change schema.find? definition.layout.name = some layout at hfind
  rw [hfind]
  rfl

theorem Schema.take_of_new (hfind : schema.find? definition.typeName = none) :
    schema.take definition = (.ok (), ⟨schema.layouts ++ [definition.layout]⟩) := by
  change schema.define definition.layout = _
  unfold Schema.define
  change schema.find? definition.layout.name = none at hfind
  rw [hfind]

theorem Schema.take_eq_error_iff {error : DispatchError} :
    (schema.take definition).1 = .error error ↔
      schema.find? definition.typeName ≠ none ∧
        error = .configuration (.typeDefined definition.typeName) := by
  cases hfind : schema.find? definition.typeName with
  | none => simp only [Schema.take_of_new hfind, reduceCtorEq, ne_eq, not_true_eq_false, false_and]
  | some layout =>
      simp only [Schema.take_of_known hfind, Except.error.injEq, ne_eq, reduceCtorEq,
        not_false_eq_true, true_and, eq_comm]

theorem Schema.take_of_error {error : DispatchError}
    (hfailed : (schema.take definition).1 = .error error) :
    (schema.take definition).2 = schema := by
  have hknown := (Schema.take_eq_error_iff.1 hfailed).1
  obtain ⟨layout, hfind⟩ := Option.ne_none_iff_exists'.1 hknown
  rw [Schema.take_of_known hfind]

/-- Nothing that is kept is touched. -/
theorem Schema.take_prefix (schema : Schema) (definition : Definition) :
    schema.layouts <+: (schema.take definition).2.layouts := by
  cases hfind : schema.find? definition.typeName with
  | some layout => rw [Schema.take_of_known hfind]
  | none =>
      rw [Schema.take_of_new hfind]
      exact List.prefix_append _ _

theorem Schema.find?_take (schema : Schema) (definition : Definition) (name : String) :
    (schema.take definition).2.find? name =
      (schema.find? name).or
        (if definition.typeName = name then some definition.layout else none) := by
  cases hfind : schema.find? definition.typeName with
  | some layout =>
      rw [Schema.take_of_known hfind]
      split_ifs with hname
      · rw [← hname, hfind, Option.some_or]
      · rw [Option.or_none]
  | none =>
      rw [Schema.take_of_new hfind]
      unfold Schema.find?
      rw [List.find?_append, List.find?_singleton]
      exact congrArg _ (if_congr decide_eq_true_iff rfl rfl)

theorem Schema.ofDefinitions_concat (definitions : List Definition) (definition : Definition) :
    Schema.ofDefinitions (definitions ++ [definition]) =
      ((Schema.ofDefinitions definitions).take definition).2 := by
  rw [Schema.ofDefinitions, List.foldl_append]
  rfl

/-- A name has the layout of its first definition. -/
theorem Schema.find?_ofDefinitions (definitions : List Definition) (name : String) :
    (Schema.ofDefinitions definitions).find? name =
      (definitions.find? fun definition => definition.typeName = name).map
        Definition.layout := by
  induction definitions using List.reverseRecOn with
  | nil => rfl
  | append_singleton definitions definition ih =>
      rw [Schema.ofDefinitions_concat, Schema.find?_take, ih, List.find?_append,
        List.find?_singleton, Option.map_or]
      split_ifs <;> simp_all

theorem Schema.ofDefinitions_prefix {earlier definitions : List Definition}
    (hearlier : earlier <+: definitions) :
    (Schema.ofDefinitions earlier).layouts <+: (Schema.ofDefinitions definitions).layouts := by
  obtain ⟨later, rfl⟩ := hearlier
  induction later using List.reverseRecOn with
  | nil => rw [List.append_nil]
  | append_singleton later definition ih =>
      rw [← List.append_assoc, Schema.ofDefinitions_concat]
      exact ih.trans (Schema.take_prefix _ definition)

theorem Schema.nodup_ofDefinitions (definitions : List Definition) :
    ((Schema.ofDefinitions definitions).layouts.map Layout.name).Nodup := by
  induction definitions using List.reverseRecOn with
  | nil => exact List.nodup_nil
  | append_singleton definitions definition ih =>
      rw [Schema.ofDefinitions_concat]
      cases hfind : (Schema.ofDefinitions definitions).find? definition.typeName with
      | some layout => rwa [Schema.take_of_known hfind]
      | none =>
          rw [Schema.take_of_new hfind, List.map_append, List.map_singleton,
            List.nodup_append_comm, List.singleton_append, List.nodup_cons]
          exact ⟨Schema.find?_eq_none_iff.1 hfind, ih⟩

theorem Schema.find?_ofDefinitions_eq_none_iff {definitions : List Definition} :
    (Schema.ofDefinitions definitions).find? name = none ↔
      name ∉ definitions.map Definition.typeName := by
  rw [Schema.find?_ofDefinitions, Option.map_eq_none_iff]
  simp

/-- There are as many definitions as names. -/
theorem Schema.size_ofDefinitions (definitions : List Definition) :
    (Schema.ofDefinitions definitions).size =
      (definitions.map Definition.typeName).toFinset.card := by
  have hnames : (definitions.map Definition.typeName).toFinset =
      ((Schema.ofDefinitions definitions).layouts.map Layout.name).toFinset := by
    ext name
    rw [List.mem_toFinset, List.mem_toFinset, ← not_iff_not, ← Schema.find?_eq_none_iff,
      Schema.find?_ofDefinitions_eq_none_iff]
  rw [hnames, List.toFinset_card_of_nodup (Schema.nodup_ofDefinitions definitions),
    List.length_map, Schema.size]

/-- A place that is taken stays so. -/
theorem Schema.place?_of_prefix (hbegins : schema.layouts <+: later.layouts)
    (hplace : schema.place? name = some place) : later.place? name = some place := by
  obtain ⟨more, hmore⟩ := hbegins
  rw [Schema.place?] at hplace
  rw [Schema.place?, ← hmore, List.findIdx?_append, hplace, Option.some_or]

/-- At a place is one definition, under one name. -/
theorem Schema.place?_inj {other : String} (hplace : schema.place? name = some place)
    (hother : schema.place? other = some place) : name = other := by
  obtain ⟨_, hname, -⟩ := List.findIdx?_eq_some_iff_getElem.1 hplace
  obtain ⟨_, hotherName, -⟩ := List.findIdx?_eq_some_iff_getElem.1 hother
  exact (of_decide_eq_true hname).symm.trans (of_decide_eq_true hotherName)

theorem Schema.exists_resolver_iff :
    (∃ handle, schema.resolver name = some handle) ↔ schema.find? name ≠ none := by
  constructor
  · rintro ⟨handle, hresolve⟩
    obtain ⟨place, layout, -, hfind, -⟩ := Schema.resolver_eq_some_iff.1 hresolve
    exact Option.ne_none_iff_exists'.2 ⟨layout, hfind⟩
  · intro hfound
    obtain ⟨layout, hfind⟩ := Option.ne_none_iff_exists'.1 hfound
    obtain ⟨place, -, hresolve⟩ := Schema.exists_resolver hfind
    exact ⟨layout.handleAt place, hresolve⟩

/-- A handle stands for the first definition of its name. -/
theorem Schema.first_of_resolver {definitions : List Definition}
    (hresolve : (Schema.ofDefinitions definitions).resolver name = some handle) :
    ∃ first, (definitions.find? fun definition => definition.typeName = name) = some first ∧
      handle.requestType = Layout.requestType ⟨name, first.fields⟩ := by
  obtain ⟨place, layout, -, hlayout, rfl⟩ := Schema.resolver_eq_some_iff.1 hresolve
  rw [Schema.find?_ofDefinitions, Option.map_eq_some_iff] at hlayout
  obtain ⟨first, hfirst, rfl⟩ := hlayout
  obtain rfl : first.typeName = name := by simpa using List.find?_some hfirst
  exact ⟨first, hfirst, rfl⟩

/-- A handle is known by the place of the definition that it was given for. -/
theorem Schema.identity_of_resolver (hresolve : schema.resolver name = some handle) :
    ∃ place, schema.place? name = some place ∧ handle.identity = .kept place := by
  obtain ⟨place, layout, hplace, -, rfl⟩ := Schema.resolver_eq_some_iff.1 hresolve
  exact ⟨place, hplace, rfl⟩

/-- A handle that has been given is given again. -/
theorem Schema.resolver_of_prefix (hbegins : schema.layouts <+: later.layouts)
    (hresolve : schema.resolver name = some handle) : later.resolver name = some handle := by
  obtain ⟨place, layout, hplace, hfind, hhandle⟩ := Schema.resolver_eq_some_iff.1 hresolve
  exact Schema.resolver_eq_some_iff.2 ⟨place, layout, Schema.place?_of_prefix hbegins hplace,
    hbegins.find?_eq_some hfind, hhandle⟩

/-- Two handles are the same if the names that they were given for have one place. -/
theorem Schema.same_iff_place?_eq {other : String} {otherHandle : TypeHandle}
    (hresolve : schema.resolver name = some handle)
    (hother : later.resolver other = some otherHandle) :
    handle.same otherHandle = true ↔ schema.place? name = later.place? other := by
  obtain ⟨place, hplace, hidentity⟩ := Schema.identity_of_resolver hresolve
  obtain ⟨otherPlace, hotherPlace, hotherIdentity⟩ := Schema.identity_of_resolver hother
  simp only [TypeHandle.same, hidentity, hotherIdentity, decide_eq_true_eq, hplace, hotherPlace,
    Option.some.injEq]

theorem Schema.same_iff {other : String} {otherHandle : TypeHandle}
    (hresolve : schema.resolver name = some handle)
    (hother : schema.resolver other = some otherHandle) :
    handle.same otherHandle = true ↔ name = other := by
  rw [Schema.same_iff_place?_eq hresolve hother]
  constructor
  · intro hplaces
    obtain ⟨place, hplace, -⟩ := Schema.identity_of_resolver hresolve
    exact Schema.place?_inj hplace (hplaces.symm.trans hplace)
  · rintro rfl
    rfl

/-- Handles that two states of a schema have given are told apart as if it were one. -/
theorem Schema.same_iff_of_prefix {first second : Schema} {left right : String}
    {leftHandle rightHandle : TypeHandle} (hfirst : first.layouts <+: schema.layouts)
    (hsecond : second.layouts <+: schema.layouts) (hleft : first.resolver left = some leftHandle)
    (hright : second.resolver right = some rightHandle) :
    leftHandle.same rightHandle = true ↔ left = right :=
  Schema.same_iff (Schema.resolver_of_prefix hfirst hleft)
    (Schema.resolver_of_prefix hsecond hright)

theorem Schema.place?_eq_iff_of_prefix {first second : Schema} {left right : String}
    {leftHandle rightHandle : TypeHandle} (hfirst : first.layouts <+: schema.layouts)
    (hsecond : second.layouts <+: schema.layouts) (hleft : first.resolver left = some leftHandle)
    (hright : second.resolver right = some rightHandle) :
    first.place? left = second.place? right ↔ left = right :=
  (Schema.same_iff_place?_eq hleft hright).symm.trans
    (Schema.same_iff_of_prefix hfirst hsecond hleft hright)

/-- Without an id of its own the request for a known command has only its type to check. -/
theorem Registry.register_known_unpinned {registry : Registry} {resolver : Resolver}
    {command : LiveCommand} (hconsistent : registry.table.Consistent)
    (hresolver : registry.resolver = some resolver) (hmem : command ∈ registry.table.handlers)
    (requestType : String) (version : Option UInt64) :
    (registry.register command.name ⟨requestType, none, version⟩).result =
      match resolver requestType with
      | none => .error (.unknownType command.name requestType)
      | some handle =>
          if command.handle.same handle then .ok command.id
          else .error (.immutableType command.name) := by
  have hget := hconsistent.get?_eq_some_iff.2 ⟨hmem, rfl⟩
  rw [CommandTable.get?_eq_locate?, Option.map_eq_some_iff] at hget
  obtain ⟨⟨position, found⟩, hlocate, hfound⟩ := hget
  obtain rfl : found = command := hfound
  unfold Registry.register
  cases hhandle : resolver requestType with
  | none =>
      simp only [hresolver, hhandle, Registry.checkId, Resolver.resolveFor, Registry.fail,
        Registry.assess]
  | some handle =>
      rw [Registry.assess_of_unpinned hresolver hhandle rfl]
      simp only [Registry.assessResolved, hlocate]
      by_cases hsame : found.handle.same handle = true
      · rw [if_pos hsame, if_pos hsame]
        rfl
      · rw [if_neg hsame, if_neg hsame]
        rfl

/-- A registry whose resolver is the schema tells request types apart by their names. -/
theorem Registry.Arises.register_known {registry : Registry} {command : LiveCommand}
    {drifts : Resolver → Resolver → Prop} (harises : registry.Arises drifts)
    (hresolver : registry.resolver = some schema.resolver)
    (hconstant : ∀ other, drifts other schema.resolver → other = schema.resolver)
    (hmem : command ∈ registry.table.handlers) (requestType : String)
    (version : Option UInt64) :
    (registry.register command.name ⟨requestType, none, version⟩).result =
      if requestType = command.record.requestType then .ok command.id
      else if schema.find? requestType = none then .error (.unknownType command.name requestType)
      else .error (.immutableType command.name) := by
  have hrecorded := harises.handle_eq hresolver hconstant command hmem
  rw [Registry.register_known_unpinned harises.reachable.sound.consistent hresolver hmem]
  cases hresolve : schema.resolver requestType with
  | none =>
      have hunknown : schema.find? requestType = none := by
        by_contra hfound
        obtain ⟨handle, hhandle⟩ := Schema.exists_resolver_iff.2 hfound
        rw [hresolve] at hhandle
        contradiction
      have hother : requestType ≠ command.record.requestType := by
        rintro rfl
        rw [hrecorded] at hresolve
        contradiction
      rw [if_neg hother, if_pos hunknown]
  | some handle =>
      obtain ⟨place, layout, -, hfind, -⟩ := Schema.resolver_eq_some_iff.1 hresolve
      simp only [Schema.same_iff hrecorded hresolve, eq_comm, hfind, reduceCtorEq, if_false]

/-- A definition is refused exactly if its name has one already, and a refused one changes
nothing.  A name that has been defined has the handle of its first definition, at its place,
and two handles, given at whatever times, are the same exactly if they were given for one
name.  So a registry with the schema takes a known command again under the type that it is
recorded with, and refuses any other as another type or as an unknown one. -/
theorem Schema.lasting_definitions (definitions : List Definition) :
    let schema := Schema.ofDefinitions definitions
    let names := definitions.map Definition.typeName
    (∀ definition error, (schema.take definition).1 = .error error ↔
      definition.typeName ∈ names ∧
        error = .configuration (.typeDefined definition.typeName)) ∧
    (∀ definition error, (schema.take definition).1 = .error error →
      (schema.take definition).2 = schema) ∧
    (∀ name, (∃ handle, schema.resolver name = some handle) ↔ name ∈ names) ∧
    (∀ name handle, schema.resolver name = some handle → ∃ first,
      (definitions.find? fun definition => definition.typeName = name) = some first ∧
        handle.requestType.append = Layout.append ⟨name, first.fields⟩ ∧
        handle.requestType.decode = Layout.decode ⟨name, first.fields⟩) ∧
    schema.size = names.toFinset.card ∧
    (∀ earlier later, earlier <+: definitions → later <+: definitions →
      ∀ left right leftHandle rightHandle,
        (Schema.ofDefinitions earlier).resolver left = some leftHandle →
        (Schema.ofDefinitions later).resolver right = some rightHandle →
        (leftHandle.same rightHandle = true ↔ left = right) ∧
        ((Schema.ofDefinitions earlier).place? left = (Schema.ofDefinitions later).place? right ↔
          left = right)) ∧
    (∀ (drifts : Resolver → Resolver → Prop) (registry : Registry), registry.Arises drifts →
      registry.resolver = some schema.resolver →
      (∀ other, drifts other schema.resolver → other = schema.resolver) →
      ∀ command ∈ registry.table.handlers, ∀ requestType version,
        (registry.register command.name ⟨requestType, none, version⟩).result =
          if requestType = command.record.requestType then .ok command.id
          else if requestType ∈ names then .error (.immutableType command.name)
          else .error (.unknownType command.name requestType)) := by
  intro schema names
  have hfind : ∀ name, schema.find? name = none ↔ name ∉ names :=
    fun name => Schema.find?_ofDefinitions_eq_none_iff
  have hdefined : ∀ name, schema.find? name ≠ none ↔ name ∈ names :=
    fun name => (not_congr (hfind name)).trans not_not
  refine ⟨?_, ?_, ?_, ?_, Schema.size_ofDefinitions definitions, ?_, ?_⟩
  · intro definition error
    rw [Schema.take_eq_error_iff, hdefined]
  · intro definition error hfailed
    exact Schema.take_of_error hfailed
  · intro name
    rw [Schema.exists_resolver_iff, hdefined]
  · intro name handle hresolve
    obtain ⟨first, hfirst, htype⟩ := Schema.first_of_resolver hresolve
    exact ⟨first, hfirst, congrArg RequestType.append htype, congrArg RequestType.decode htype⟩
  · intro earlier later hearlier hlater left right leftHandle rightHandle hleft hright
    have hbefore := Schema.ofDefinitions_prefix hearlier
    have hafter := Schema.ofDefinitions_prefix hlater
    exact ⟨Schema.same_iff_of_prefix hbefore hafter hleft hright,
      Schema.place?_eq_iff_of_prefix hbefore hafter hleft hright⟩
  · intro drifts registry harises hresolver hconstant command hmem requestType version
    rw [harises.register_known hresolver hconstant hmem]
    simp only [hfind, ite_not]

end CommandRegistry
