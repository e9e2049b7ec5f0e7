import BindingTables.Api.Basic
import BindingTables.Json.Reading

/-! The records of an API dump, as JSON holds them. -/

namespace BindingTables

open BindingTables.Json

def textField {α : Type} (key : String) (store : String → α → α) : RecordField α :=
  .ofReader key true Node.asText store

def flagField {α : Type} (key : String) (store : Bool → α → α) : RecordField α :=
  .ofReader key false Node.asFlag store

def optionalText {α : Type} (key : String) (store : Option String → α → α) :
    RecordField α :=
  .ofReader key false (Node.optional Node.asText) store

def listField {α β : Type} (key : String) (schema : Schema β) (store : List β → α → α) :
    RecordField α :=
  .ofReader key false (Node.listOf schema.read) store

def Argument.schema : Schema Argument where
  name := "ArgumentDescriptor"
  fields := [
    textField "name" fun s a => { a with name := s },
    textField "type" fun s a => { a with type := s }]
  blank := ⟨"", ""⟩

/-- The return type stands alone in a record. -/
def returnValueSchema : Schema String where
  name := "ReturnValue"
  fields := [textField "type" fun s _ => s]
  blank := ""

def Method.schema : Schema Method where
  name := "MethodDescriptor"
  fields := [
    textField "name" fun s m => { m with name := s },
    flagField "is_virtual" fun b m => { m with isVirtual := b },
    flagField "is_const" fun b m => { m with isConst := b },
    flagField "is_static" fun b m => { m with isStatic := b },
    flagField "is_vararg" fun b m => { m with isVararg := b },
    listField "arguments" Argument.schema fun as m => { m with arguments := as },
    optionalText "return_type" fun s m => { m with returnType := s },
    .ofReader "return_value" false (Node.optional returnValueSchema.read)
      fun s m => { m with returnValue := s }]
  blank := ⟨"", false, false, false, false, [], none, none⟩

def Operator.schema : Schema Operator where
  name := "OperatorDescriptor"
  fields := [
    textField "name" fun s o => { o with symbol := s },
    optionalText "right_type" fun s o => { o with rightType := s },
    optionalText "return_type" fun s o => { o with returnType := s }]
  blank := ⟨"", none, none⟩

def Property.schema : Schema Property where
  name := "PropertyDescriptor"
  fields := [
    textField "name" fun s p => { p with name := s },
    .ofReader "type" false Node.asText fun s p => { p with type := s },
    optionalText "setter" fun s p => { p with setter := s },
    optionalText "getter" fun s p => { p with getter := s }]
  blank := ⟨"", "", none, none⟩

def EnumValue.schema : Schema EnumValue where
  name := "EnumValue"
  fields := [
    textField "name" fun s v => { v with name := s },
    .ofReader "value" true Node.asInt64 fun n v => { v with value := n }]
  blank := ⟨"", 0⟩

def Enum.schema : Schema Enum where
  name := "EnumDescriptor"
  fields := [
    textField "name" fun s e => { e with name := s },
    flagField "is_bitfield" fun b e => { e with isBitfield := b },
    listField "values" EnumValue.schema fun vs e => { e with values := vs }]
  blank := ⟨"", false, []⟩

def Class.schema : Schema Class where
  name := "ClassDescriptor"
  fields := [
    textField "name" fun s c => { c with name := s },
    optionalText "inherits" fun s c => { c with inherits := s },
    flagField "is_refcounted" fun b c => { c with isRefcounted := b },
    flagField "is_instantiable" fun b c => { c with isInstantiable := b },
    listField "methods" Method.schema fun ms c => { c with methods := ms },
    listField "properties" Property.schema fun ps c => { c with properties := ps },
    listField "operators" Operator.schema fun os c => { c with operators := os },
    listField "enums" Enum.schema fun es c => { c with enums := es }]
  blank := ⟨"", none, false, false, [], [], [], []⟩

def Singleton.schema : Schema Singleton where
  name := "SingletonDescriptor"
  fields := [
    textField "name" fun s x => { x with name := s },
    textField "type" fun s x => { x with type := s }]
  blank := ⟨"", ""⟩

def UtilityFunction.schema : Schema UtilityFunction where
  name := "UtilityFunctionDescriptor"
  fields := [
    textField "name" fun s f => { f with name := s },
    optionalText "category" fun s f => { f with category := s },
    optionalText "return_type" fun s f => { f with returnType := s },
    flagField "is_vararg" fun b f => { f with isVararg := b },
    listField "arguments" Argument.schema fun as f => { f with arguments := as }]
  blank := ⟨"", none, none, false, []⟩

def Header.schema : Schema Header where
  name := "ApiHeader"
  fields := [
    .ofReader "version_major" true Node.asUInt32
      fun n h => { h with version := { h.version with major := n } },
    .ofReader "version_minor" true Node.asUInt32
      fun n h => { h with version := { h.version with minor := n } },
    .ofReader "version_patch" true Node.asUInt32
      fun n h => { h with version := { h.version with patch := n } },
    optionalText "version_status" fun s h => { h with status := s },
    optionalText "version_full_name" fun s h => { h with fullName := s }]
  blank := ⟨⟨0, 0, 0⟩, none, none⟩

namespace Api

def empty : Api := ⟨none, [], [], [], [], []⟩

def schema : Schema Api where
  name := "ExtensionApi"
  fields := [
    .ofReader "header" false (Node.optional Header.schema.read)
      fun h api => { api with header := h },
    listField "global_enums" Enum.schema fun es api => { api with globalEnums := es },
    listField "utility_functions" UtilityFunction.schema
      fun fs api => { api with utilityFunctions := fs },
    listField "builtin_classes" Class.schema fun cs api => { api with builtinClasses := cs },
    listField "classes" Class.schema fun cs api => { api with classes := cs },
    listField "singletons" Singleton.schema fun xs api => { api with singletons := xs }]
  blank := empty

/-- Reads a dump without checking what it declares. -/
def ofJson (source : String) : Except ReadError Api := readText? schema.read source

end Api

/-- Reads a version that stands as a JSON text. -/
def Version.ofJson (source : String) : Except ReadError Version :=
  let cs := source.toList
  let document := Document.ofChars cs
  match document.root.asText with
  | .error f => .error (.ofFault cs f)
  | .ok s =>
    match Version.parse? s, document.trailing with
    | none, _ => .error ⟨.rejected (Version.rejection s), none⟩
    | some _, some f => .error (.ofFault cs f)
    | some v, none => .ok v

end BindingTables
