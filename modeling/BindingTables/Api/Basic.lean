import BindingTables.Version

/-! The engine's API: classes, enums, singletons and utility functions, as a dump declares them. -/

namespace BindingTables

structure Argument where
  name : String
  type : String
deriving DecidableEq

structure Method where
  name : String
  isVirtual : Bool
  isConst : Bool
  isStatic : Bool
  isVararg : Bool
  arguments : List Argument
  /-- The return type as builtin classes declare it. -/
  returnType : Option String
  /-- The return type as engine classes declare it. -/
  returnValue : Option String
deriving DecidableEq

def Method.returns (m : Method) : Option String := m.returnType <|> m.returnValue

structure Operator where
  symbol : String
  /-- The type of the right operand; unary operators have none. -/
  rightType : Option String
  returnType : Option String
deriving DecidableEq

structure Property where
  name : String
  type : String
  setter : Option String
  getter : Option String
deriving DecidableEq

structure EnumValue where
  name : String
  value : Int
deriving DecidableEq

structure Enum where
  name : String
  isBitfield : Bool
  values : List EnumValue
deriving DecidableEq

def Enum.valueNames (e : Enum) : List String := e.values.map (·.name)

structure Class where
  name : String
  inherits : Option String
  isRefcounted : Bool
  isInstantiable : Bool
  methods : List Method
  properties : List Property
  operators : List Operator
  enums : List Enum
deriving DecidableEq

/-- Whether the class itself, not one that it inherits from, has the method. -/
def Class.declares (c : Class) (method : String) : Bool := c.methods.any (·.name = method)

structure Singleton where
  name : String
  type : String
deriving DecidableEq

structure UtilityFunction where
  name : String
  category : Option String
  returnType : Option String
  isVararg : Bool
  arguments : List Argument
deriving DecidableEq

structure Header where
  version : Version
  status : Option String
  fullName : Option String
deriving DecidableEq

structure Api where
  header : Option Header
  globalEnums : List Enum
  utilityFunctions : List UtilityFunction
  builtinClasses : List Class
  classes : List Class
  singletons : List Singleton
deriving DecidableEq

/-- The two lists that classes are declared in. -/
inductive Section
  | builtin
  | engine
deriving DecidableEq

def Section.key : Section → String
  | builtin => "builtin_classes"
  | engine => "classes"

namespace Api

def version (api : Api) : Option Version := api.header.map (·.version)

/-- All classes with their sections, builtin classes first. -/
def sectionedClasses (api : Api) : List (Section × Class) :=
  api.builtinClasses.map (Section.builtin, ·) ++ api.classes.map (Section.engine, ·)

def class? (api : Api) (name : String) : Option Class :=
  (api.builtinClasses ++ api.classes).find? (·.name = name)

def utility? (api : Api) (name : String) : Option UtilityFunction :=
  api.utilityFunctions.find? (·.name = name)

/-- The names of the singletons that are instances of `type`. -/
def singletonsOf (api : Api) (type : String) : List String :=
  (api.singletons.filter (·.type = type)).map (·.name)

end Api

end BindingTables
