import BindingTables.Bindings.Basic
import BindingTables.Json.Writing

/-! Binding tables as the JSON document that emitters read. -/

namespace BindingTables

open BindingTables.Json (Value)

def optionalTextValue : Option String → Value := .ofOption .text

def listValue {α : Type} (f : α → Value) (l : List α) : Value := .list (l.map f)

def argumentValue (a : Argument) : Value :=
  .object [("name", .text a.name), ("type", .text a.type)]

def MethodBinding.toJson (m : MethodBinding) : Value :=
  .object [("name", .text m.name), ("luau_name", .text m.scriptName),
    ("is_const", .flag m.isConst), ("is_static", .flag m.isStatic),
    ("is_vararg", .flag m.isVararg), ("arguments", listValue argumentValue m.arguments),
    ("return_type", optionalTextValue m.returnType)]

def OperatorBinding.toJson (o : OperatorBinding) : Value :=
  .object [("symbol", .text o.symbol), ("metamethod", .text o.metamethod.name),
    ("right_type", optionalTextValue o.rightType),
    ("return_type", optionalTextValue o.returnType)]

def PropertyBinding.toJson (p : PropertyBinding) : Value :=
  .object [("name", .text p.name), ("luau_name", .text p.scriptName), ("type", .text p.type),
    ("setter", optionalTextValue p.setter), ("getter", optionalTextValue p.getter),
    ("setter_missing", .flag p.setterMissing), ("getter_missing", .flag p.getterMissing)]

def EnumValueBinding.toJson (v : EnumValueBinding) : Value :=
  .object [("name", .text v.name), ("luau_name", .text v.scriptName), ("value", .whole v.value)]

def EnumBinding.toJson (e : EnumBinding) : Value :=
  .object [("name", .text e.name), ("is_bitfield", .flag e.isBitfield), ("prefix", .text e.stem),
    ("values", listValue EnumValueBinding.toJson e.values)]

def ClassBinding.toJson (c : ClassBinding) : Value :=
  .object [("name", .text c.name), ("kind", .text c.kind.name),
    ("parent", optionalTextValue c.parent),
    ("methods", listValue MethodBinding.toJson c.methods),
    ("operators", listValue OperatorBinding.toJson c.operators),
    ("properties", listValue PropertyBinding.toJson c.properties),
    ("enums", listValue EnumBinding.toJson c.enums),
    ("singletons", listValue .text c.singletons)]

def UtilityBinding.toJson (u : UtilityBinding) : Value :=
  .object [("name", .text u.name), ("luau_name", .text u.scriptName),
    ("is_print", .flag u.isPrint), ("is_vararg", .flag u.isVararg)]

namespace Bindings

def toJson (b : Bindings) : Value :=
  .object [("meta", .object [("version", optionalTextValue b.version)]),
    ("builtin_classes", listValue ClassBinding.toJson b.builtinClasses),
    ("classes", listValue ClassBinding.toJson b.classes),
    ("global_enums", listValue EnumBinding.toJson b.globalEnums),
    ("utility_functions", listValue UtilityBinding.toJson b.utilities)]

/-- The text of the document, with a line break at its end. -/
def document (b : Bindings) (spread : Bool) : String := b.toJson.render spread ++ "\n"

end Bindings

end BindingTables
