import BindingTables.Bindings.Basic
import BindingTables.Options
import BindingTables.Resolve.Accessor
import BindingTables.Resolve.Methods
import BindingTables.Resolve.Stem
import BindingTables.Resolve.Utility

/-! Lowering: names, operators and accessors of the API resolved into binding tables. -/

namespace BindingTables

def Method.lower (m : Method) : MethodBinding where
  name := m.name
  scriptName := Identifier.pascal m.name
  isConst := m.isConst
  isStatic := m.isStatic
  isVararg := m.isVararg
  arguments := m.arguments
  returnType := m.returns

def Operator.lower (o : Operator) (m : Metamethod) : OperatorBinding :=
  ⟨o.symbol, m, o.rightType, o.returnType⟩

/-- A name without letters stays as it is. -/
def Property.lower (p : Property) (c : Class) : PropertyBinding where
  name := p.name
  scriptName := (Identifier.camel? p.name).getD p.name
  type := p.type
  setter := (p.setterIn c).resolved?
  getter := (p.getterIn c).resolved?
  setterMissing := (p.setterIn c).isMissing
  getterMissing := (p.getterIn c).isMissing

/-- The stem that the names of the values share. -/
def Enum.stem (e : Enum) : String := Stem.ofValues e.valueNames

def Enum.lower (e : Enum) : EnumBinding where
  name := Identifier.canonicalEnum e.name
  isBitfield := e.isBitfield
  stem := e.stem
  values := e.values.map fun v => ⟨v.name, Stem.strip e.stem v.name, v.value⟩

def Class.lower (api : Api) (kind : ClassKind) (c : Class) : ClassBinding where
  name := c.name
  kind := kind
  parent := c.inherits
  methods := c.bindableMethods.map Method.lower
  operators := (Operator.resolve c.name c.operators).map fun (o, m) => o.lower m
  properties := c.properties.map (·.lower c)
  enums := c.enums.map Enum.lower
  singletons := api.singletonsOf c.name

/-- Binds an allowed function that the API declares, as its first declaration has it. -/
def Utility.lower? (api : Api) (u : Utility) : Option UtilityBinding :=
  (api.utility? u.name).map fun f => ⟨u.name, u.scriptName, u.isPrint, f.isVararg⟩

namespace Api

def lowerClasses (api : Api) (options : Options) (kind : ClassKind) (classes : List Class) :
    List ClassBinding :=
  (classes.filter (!options.skips ·.name)).map (·.lower api kind)

def lower (api : Api) (options : Options) : Bindings where
  version := api.version.map Version.render
  builtinClasses := api.lowerClasses options .builtin api.builtinClasses
  classes := api.lowerClasses options .object api.classes
  globalEnums := api.globalEnums.map Enum.lower
  utilities := Utility.allowList.filterMap (Utility.lower? api)

end Api

end BindingTables
