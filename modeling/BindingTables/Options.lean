import BindingTables.Api.Basic

/-! The choices that steer lowering and validation. -/

namespace BindingTables

/-- Builtin classes that scripts have values of their own for. -/
def primitiveClasses : List String := ["Nil", "bool", "int", "float", "String"]

structure Options where
  skipClasses : List String
  /-- Whether an accessor that names no method is an error. -/
  strictAccessors : Bool
deriving DecidableEq

namespace Options

def standard : Options := ⟨primitiveClasses, false⟩

def skips (o : Options) (className : String) : Bool := o.skipClasses.contains className

/-- The classes that get bindings, with their sections. -/
def boundClasses (o : Options) (api : Api) : List (Section × Class) :=
  api.sectionedClasses.filter fun c => !o.skips c.2.name

end Options

end BindingTables
