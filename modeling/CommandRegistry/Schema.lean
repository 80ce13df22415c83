/-
A schema is a list of layouts under qualified names.  A name keeps the layout it
was first defined with, and the place of this layout is what a handle is known by.
-/
import CommandRegistry.DispatchError
import CommandRegistry.Layout

namespace CommandRegistry

/-- The name of something inside a namespace. -/
def qualify (space name : String) : String :=
  "@" ++ space ++ "/" ++ name

structure Schema where
  layouts : List Layout
deriving Repr

def Schema.empty : Schema :=
  ⟨[]⟩

def Schema.size (schema : Schema) : Nat :=
  schema.layouts.length

def Schema.find? (schema : Schema) (name : String) : Option Layout :=
  schema.layouts.find? fun layout => layout.name = name

/-- Add a definition.  A name that is taken is refused, and the schema stays as
it was. -/
def Schema.define (schema : Schema) (layout : Layout) :
    Except DispatchError Unit × Schema :=
  match schema.find? layout.name with
  | some _ => (.error (.configuration (.typeDefined layout.name)), schema)
  | none => (.ok (), ⟨schema.layouts ++ [layout]⟩)

/-- Define a layout under a name inside a namespace. -/
def Schema.defineIn (schema : Schema) (space name : String) (fields : List Field) :
    Except DispatchError Unit × Schema :=
  schema.define ⟨qualify space name, fields⟩

/-- The place of the definition that a name leads to.  What a schema keeps is neither moved
nor replaced, so the place tells one definition from any other, however alike they are. -/
def Schema.place? (schema : Schema) (name : String) : Option Nat :=
  schema.layouts.findIdx? fun layout => layout.name = name

/-- The handle of the layout that is kept at a place. -/
def Layout.handleAt (layout : Layout) (place : Nat) : TypeHandle :=
  ⟨.kept place, layout.requestType⟩

/-- A name is given a handle of the definition that it leads to. -/
def Schema.resolver (schema : Schema) : Resolver :=
  fun name => (schema.place? name).bind fun place =>
    (schema.layouts[place]?).map fun layout => layout.handleAt place

theorem Schema.find?_of_place? {schema : Schema} {name : String} {place : Nat}
    (hplace : schema.place? name = some place) :
    schema.find? name = schema.layouts[place]? := by
  rw [Schema.find?, List.find?_eq_bind_findIdx?_getElem?]
  exact congrArg (·.bind fun place => schema.layouts[place]?) hplace

theorem Schema.resolver_eq_some_iff {schema : Schema} {name : String} {handle : TypeHandle} :
    schema.resolver name = some handle ↔ ∃ place layout, schema.place? name = some place ∧
      schema.find? name = some layout ∧ layout.handleAt place = handle := by
  simp only [Schema.resolver, Option.bind_eq_some_iff, Option.map_eq_some_iff]
  constructor
  · rintro ⟨place, hplace, layout, hlayout, hhandle⟩
    exact ⟨place, layout, hplace, (Schema.find?_of_place? hplace).trans hlayout, hhandle⟩
  · rintro ⟨place, layout, hplace, hfind, hhandle⟩
    exact ⟨place, hplace, layout, (Schema.find?_of_place? hplace).symm.trans hfind, hhandle⟩

theorem Schema.exists_resolver {schema : Schema} {name : String} {layout : Layout}
    (hfind : schema.find? name = some layout) :
    ∃ place, schema.place? name = some place ∧
      schema.resolver name = some (layout.handleAt place) := by
  have hkept := hfind
  rw [Schema.find?, List.find?_eq_bind_findIdx?_getElem?, Option.bind_eq_some_iff] at hkept
  obtain ⟨place, hplace, -⟩ := hkept
  exact ⟨place, hplace, Schema.resolver_eq_some_iff.2 ⟨place, layout, hplace, hfind, rfl⟩⟩

theorem Schema.resolver_steady (schema : Schema) : schema.resolver.Steady := by
  intro name handle hresolve
  obtain ⟨place, layout, -, -, rfl⟩ := Schema.resolver_eq_some_iff.1 hresolve
  simp only [TypeHandle.same, Layout.handleAt, decide_true]

end CommandRegistry
