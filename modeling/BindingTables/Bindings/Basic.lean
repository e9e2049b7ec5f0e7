import BindingTables.Api.Basic
import BindingTables.Resolve.Metamethod

/-! Binding tables: all that an emitter of bindings has to know, in the order it needs it. -/

namespace BindingTables

inductive ClassKind
  /-- A type of plain values. -/
  | builtin
  /-- A class of engine objects. -/
  | object
deriving DecidableEq

def ClassKind.name : ClassKind → String
  | builtin => "builtin"
  | object => "object"

structure MethodBinding where
  name : String
  scriptName : String
  isConst : Bool
  isStatic : Bool
  isVararg : Bool
  arguments : List Argument
  returnType : Option String
deriving DecidableEq

structure OperatorBinding where
  symbol : String
  metamethod : Metamethod
  rightType : Option String
  returnType : Option String
deriving DecidableEq

structure PropertyBinding where
  name : String
  scriptName : String
  type : String
  setter : Option String
  getter : Option String
  /-- A setter is declared and names no method of the class. -/
  setterMissing : Bool
  getterMissing : Bool
deriving DecidableEq

structure EnumValueBinding where
  name : String
  scriptName : String
  value : Int
deriving DecidableEq

structure EnumBinding where
  name : String
  isBitfield : Bool
  stem : String
  values : List EnumValueBinding
deriving DecidableEq

structure ClassBinding where
  name : String
  kind : ClassKind
  parent : Option String
  methods : List MethodBinding
  operators : List OperatorBinding
  properties : List PropertyBinding
  enums : List EnumBinding
  /-- The names of the singletons that are instances of the class. -/
  singletons : List String
deriving DecidableEq

structure UtilityBinding where
  name : String
  scriptName : String
  isPrint : Bool
  isVararg : Bool
deriving DecidableEq

structure Bindings where
  version : Option String
  builtinClasses : List ClassBinding
  classes : List ClassBinding
  globalEnums : List EnumBinding
  utilities : List UtilityBinding
deriving DecidableEq

def ClassBinding.isSingleton (c : ClassBinding) : Bool := !c.singletons.isEmpty

def ClassBinding.method? (c : ClassBinding) (name : String) : Option MethodBinding :=
  c.methods.find? (·.name = name)

/-- The metatable keys of the operators, in the order of their registration. -/
def ClassBinding.metatable (c : ClassBinding) : List String :=
  c.operators.map (·.metamethod.key)

namespace Bindings

def allClasses (b : Bindings) : List ClassBinding := b.builtinClasses ++ b.classes

def class? (b : Bindings) (name : String) : Option ClassBinding :=
  b.allClasses.find? (·.name = name)

def allEnums (b : Bindings) : List EnumBinding := b.globalEnums ++ b.allClasses.flatMap (·.enums)

end Bindings

end BindingTables
