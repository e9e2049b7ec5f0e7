import BindingTables.Api.Basic

/-! The methods of a class that scripts can call. -/

namespace BindingTables

def rootClass : String := "Object"

/-- Property access on the root class is bound by hand. -/
def handBound : List String := ["get", "set"]

/-- Scripts are called by virtual methods and do not call them. -/
def Method.isSkipped (className : String) (m : Method) : Bool :=
  m.isVirtual || className = rootClass && handBound.contains m.name

def Class.bindableMethods (c : Class) : List Method :=
  c.methods.filter (!·.isSkipped c.name)

end BindingTables
