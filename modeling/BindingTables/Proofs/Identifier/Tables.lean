import BindingTables.Proofs.Accessors.Callable
import BindingTables.Proofs.Identifier.Wellformed

/-! The names in the tables are identifiers wherever the names that the API declares are. Nothing is
asked of the accessors that properties declare: one that is bound goes by the name of a method. -/

namespace BindingTables

open Identifier

variable {api : Api} {o : Options} {c : Class} {e : Enum} {kind : ClassKind}

/-- All values of the enum are called by identifiers. -/
def Enum.NamesValid (e : Enum) : Prop := ∀ v ∈ e.values, IsValid v.name

instance (e : Enum) : Decidable e.NamesValid :=
  inferInstanceAs (Decidable (∀ v ∈ e.values, IsValid v.name))

/-- What the class declares itself is called by identifiers. -/
structure Class.NamesValid (c : Class) : Prop where
  methods : ∀ m ∈ c.methods, IsValid m.name
  properties : ∀ p ∈ c.properties, IsValid p.name
  enums : ∀ e ∈ c.enums, e.NamesValid

/-- Scripts call all values of the enum by identifiers. -/
def EnumBinding.ScriptNamesValid (t : EnumBinding) : Prop := ∀ v ∈ t.values, IsValid v.scriptName

/-- Scripts call all that the table binds by identifiers. -/
structure ClassBinding.ScriptNamesValid (t : ClassBinding) : Prop where
  methods : ∀ m ∈ t.methods, IsValid m.scriptName
  properties : ∀ p ∈ t.properties, IsValid p.scriptName
  accessors : ∀ p ∈ t.properties, ∀ x, p.setter = some x ∨ p.getter = some x → IsValid x
  enums : ∀ e ∈ t.enums, e.ScriptNamesValid

theorem Enum.scriptNamesValid_lower (h : e.NamesValid) : e.lower.ScriptNamesValid := by
  intro v hv
  obtain ⟨w, hw, rfl⟩ := List.mem_map.mp hv
  exact isValid_strip (h w hw)

namespace Class

theorem isValid_of_declares {name : String} (h : c.NamesValid) (hd : c.declares name = true) :
    IsValid name := by
  obtain ⟨m, hm, rfl⟩ : ∃ m ∈ c.methods, m.name = name := by
    simpa [declares] using hd
  exact h.methods m hm

/-- Whichever of the two names an accessor is found by, a method has it. -/
theorem isValid_of_resolved {declared : Option String} {x : String} (h : c.NamesValid)
    (hx : (Accessor.ofDeclared c declared).resolved? = some x) : IsValid x := by
  obtain ⟨_, -, -, name, hfinds, rfl⟩ := Accessor.resolved?_ofDeclared_iff.mp hx
  apply isValid_pascal
  cases hfinds with
  | exact hd => exact isValid_of_declares h hd
  | trimmed _ hd => exact isValid_of_declares h hd

theorem scriptNamesValid_lower (h : c.NamesValid) : (c.lower api kind).ScriptNamesValid := by
  refine ⟨?_, ?_, ?_, ?_⟩
  · intro m hm
    obtain ⟨n, hn, rfl⟩ := List.mem_map.mp hm
    exact isValid_pascal (h.methods n (List.mem_of_mem_filter hn))
  · intro q hq
    obtain ⟨p, hp, rfl⟩ := List.mem_map.mp hq
    exact isValid_camel (h.properties p hp)
  · intro q hq x hx
    obtain ⟨p, hp, rfl⟩ := List.mem_map.mp hq
    rcases hx with hx | hx
    · exact isValid_of_resolved h hx
    · exact isValid_of_resolved h hx
  · intro t ht
    obtain ⟨e, he, rfl⟩ := List.mem_map.mp ht
    exact Enum.scriptNamesValid_lower (h.enums e he)

end Class

/-- If all that the API lets scripts get at is called by identifiers, so is all in its tables. -/
theorem script_names_are_identifiers (api : Api) (o : Options)
    (hclasses : ∀ c ∈ o.boundClasses api, c.2.NamesValid)
    (henums : ∀ e ∈ api.globalEnums, e.NamesValid) :
    (∀ t ∈ (api.lower o).allClasses, t.ScriptNamesValid) ∧
      ∀ e ∈ (api.lower o).globalEnums, e.ScriptNamesValid := by
  constructor
  · rw [Api.allClasses_lower, List.forall_mem_map]
    intro c hc
    exact Class.scriptNamesValid_lower (hclasses c hc)
  · intro t ht
    obtain ⟨e, he, rfl⟩ := List.mem_map.mp ht
    exact Enum.scriptNamesValid_lower (henums e he)

namespace Class

def place : Enum := ⟨"Place", false, [⟨"PLACE_2D", 2⟩, ⟨"PLACE_3D", 3⟩, ⟨"PLACE_", 0⟩]⟩

/-- Its names are respelled to a lone underscore, to one before a digit and to bare digits but for
their mark; one accessor is found without the underscores around it, and one is no identifier. -/
def grid : Class where
  name := "Grid"
  inherits := none
  isRefcounted := false
  isInstantiable := true
  methods := [Accessor.method "___" false, Accessor.method "_2d_to_3d" true,
    Accessor.method "set_cell" false]
  properties := [⟨"_2", "int", some "__set_cell_", some "3 cells"⟩,
    ⟨"cell_2d", "Cell", some "_2d_to_3d", none⟩]
  operators := []
  enums := [place]

def gridApi : Api := ⟨none, [place], [], [], [grid], []⟩

theorem namesValid_grid : grid.NamesValid := ⟨by decide, by decide, by decide⟩

theorem grid_script_names_are_identifiers :
    (∀ c ∈ Options.standard.boundClasses gridApi, c.2.NamesValid) ∧
      (∀ e ∈ gridApi.globalEnums, e.NamesValid) ∧
      (∀ t ∈ (gridApi.lower .standard).allClasses, t.ScriptNamesValid) ∧
      ∀ e ∈ (gridApi.lower .standard).globalEnums, e.ScriptNamesValid := by
  have hclasses : ∀ c ∈ Options.standard.boundClasses gridApi, c.2.NamesValid := by
    intro c hc
    rw [List.mem_singleton.mp hc]
    exact namesValid_grid
  have henums : ∀ e ∈ gridApi.globalEnums, e.NamesValid := by decide
  exact ⟨hclasses, henums, script_names_are_identifiers gridApi .standard hclasses henums⟩

end Class

end BindingTables
