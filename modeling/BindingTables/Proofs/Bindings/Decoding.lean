import BindingTables.Bindings.Document
import BindingTables.Proofs.Json.RoundTrip

/-! The document of binding tables tells all of them: they are decoded from either of its forms. -/

namespace BindingTables

open BindingTables.Json (Value)

namespace Json.Value

variable {α : Type} {decode : Value → Option α}

/-- Decodes the member of that key. -/
def field? (v : Value) (key : String) (decode : Value → Option α) : Option α :=
  match v with
  | object members => (members.lookup key).bind decode
  | _ => none

def asText? : Value → Option String
  | text s => some s
  | _ => none

def asFlag? : Value → Option Bool
  | flag b => some b
  | _ => none

def asWhole? : Value → Option Int
  | whole n => some n
  | _ => none

def asOption? (decode : Value → Option α) : Value → Option (Option α)
  | null => some none
  | v => (decode v).map some

def asList? (decode : Value → Option α) : Value → Option (List α)
  | list items => items.mapM decode
  | _ => none

/-- A text that is one of a few names. -/
def asName? (ofName? : String → Option α) (v : Value) : Option α := v.asText?.bind ofName?

/-- A member is found behind members of other keys. -/
@[simp] theorem field?_cons (k key : String) (v : Value) (ms : List (String × Value)) :
    (object ((k, v) :: ms)).field? key decode =
      if key = k then decode v else (object ms).field? key decode := by
  by_cases h : key = k
  · simp [field?, h]
  · have hk : (key == k) = false := by simp [h]
    simp only [field?, List.lookup_cons, hk, if_neg h]

@[simp] theorem asText?_text (s : String) : asText? (text s) = some s := rfl

@[simp] theorem asFlag?_flag (b : Bool) : asFlag? (flag b) = some b := rfl

@[simp] theorem asWhole?_whole (n : Int) : asWhole? (whole n) = some n := rfl

@[simp] theorem asOption?_optionalText (o : Option String) :
    asOption? asText? (optionalTextValue o) = some o := by
  cases o <;> rfl

/-- A list is decoded if the decoder undoes the encoder on each item. -/
theorem asList?_listValue {encode : α → Value} (h : ∀ a, decode (encode a) = some a)
    (l : List α) : asList? decode (listValue encode l) = some l := by
  change (l.map encode).mapM decode = some l
  induction l with
  | nil => rfl
  | cons a l ih => simp [h, ih]

@[simp] theorem exact_optionalText (o : Option String) : (optionalTextValue o).Exact := by
  cases o <;> trivial

@[simp] theorem exact_text (s : String) : (text s).Exact := trivial

@[simp] theorem exact_flag (b : Bool) : (flag b).Exact := trivial

theorem exact_listValue {encode : α → Value} {l : List α} (h : ∀ a ∈ l, (encode a).Exact) :
    (listValue encode l).Exact := by
  change ItemsExact (l.map encode)
  induction l with
  | nil => trivial
  | cons a l ih =>
    rw [List.forall_mem_cons] at h
    exact ⟨h.1, ih h.2⟩

/-- A document tells its numbers exactly if all of its parts do. -/
theorem exact_object {members : List (String × Value)} :
    (object members).Exact ↔ ∀ m ∈ members, m.2.Exact := by
  change MembersExact members ↔ _
  induction members with
  | nil => simp [MembersExact]
  | cons m members ih => simp [MembersExact, ih]

end Json.Value

/-! Decoders, and what they make of what was encoded. -/

def argumentOfValue? (v : Value) : Option Argument := do
  let name ← v.field? "name" Value.asText?
  let type ← v.field? "type" Value.asText?
  return ⟨name, type⟩

theorem argumentOfValue?_argumentValue (a : Argument) :
    argumentOfValue? (argumentValue a) = some a := by
  simp [argumentOfValue?, argumentValue]

def MethodBinding.ofValue? (v : Value) : Option MethodBinding := do
  let name ← v.field? "name" Value.asText?
  let scriptName ← v.field? "luau_name" Value.asText?
  let isConst ← v.field? "is_const" Value.asFlag?
  let isStatic ← v.field? "is_static" Value.asFlag?
  let isVararg ← v.field? "is_vararg" Value.asFlag?
  let arguments ← v.field? "arguments" (Value.asList? argumentOfValue?)
  let returnType ← v.field? "return_type" (Value.asOption? Value.asText?)
  return ⟨name, scriptName, isConst, isStatic, isVararg, arguments, returnType⟩

theorem MethodBinding.ofValue?_toJson (m : MethodBinding) : ofValue? m.toJson = some m := by
  simp [ofValue?, toJson, Value.asList?_listValue argumentOfValue?_argumentValue]

def Metamethod.ofName? (name : String) : Option Metamethod :=
  [eq, lt, le, add, sub, mul, div, mod, unm].find? (·.name = name)

/-- No two metamethods go by one name. -/
theorem Metamethod.ofName?_name (m : Metamethod) : ofName? m.name = some m := by
  cases m <;> decide

def OperatorBinding.ofValue? (v : Value) : Option OperatorBinding := do
  let symbol ← v.field? "symbol" Value.asText?
  let metamethod ← v.field? "metamethod" (Value.asName? Metamethod.ofName?)
  let rightType ← v.field? "right_type" (Value.asOption? Value.asText?)
  let returnType ← v.field? "return_type" (Value.asOption? Value.asText?)
  return ⟨symbol, metamethod, rightType, returnType⟩

theorem OperatorBinding.ofValue?_toJson (o : OperatorBinding) : ofValue? o.toJson = some o := by
  simp [ofValue?, toJson, Value.asName?, Metamethod.ofName?_name]

def PropertyBinding.ofValue? (v : Value) : Option PropertyBinding := do
  let name ← v.field? "name" Value.asText?
  let scriptName ← v.field? "luau_name" Value.asText?
  let type ← v.field? "type" Value.asText?
  let setter ← v.field? "setter" (Value.asOption? Value.asText?)
  let getter ← v.field? "getter" (Value.asOption? Value.asText?)
  let setterMissing ← v.field? "setter_missing" Value.asFlag?
  let getterMissing ← v.field? "getter_missing" Value.asFlag?
  return ⟨name, scriptName, type, setter, getter, setterMissing, getterMissing⟩

theorem PropertyBinding.ofValue?_toJson (p : PropertyBinding) : ofValue? p.toJson = some p := by
  simp [ofValue?, toJson]

def EnumValueBinding.ofValue? (v : Value) : Option EnumValueBinding := do
  let name ← v.field? "name" Value.asText?
  let scriptName ← v.field? "luau_name" Value.asText?
  let value ← v.field? "value" Value.asWhole?
  return ⟨name, scriptName, value⟩

theorem EnumValueBinding.ofValue?_toJson (e : EnumValueBinding) : ofValue? e.toJson = some e := by
  simp [ofValue?, toJson]

def EnumBinding.ofValue? (v : Value) : Option EnumBinding := do
  let name ← v.field? "name" Value.asText?
  let isBitfield ← v.field? "is_bitfield" Value.asFlag?
  let stem ← v.field? "prefix" Value.asText?
  let values ← v.field? "values" (Value.asList? EnumValueBinding.ofValue?)
  return ⟨name, isBitfield, stem, values⟩

theorem EnumBinding.ofValue?_toJson (e : EnumBinding) : ofValue? e.toJson = some e := by
  simp [ofValue?, toJson, Value.asList?_listValue EnumValueBinding.ofValue?_toJson]

def ClassKind.ofName? (name : String) : Option ClassKind :=
  [builtin, object].find? (·.name = name)

theorem ClassKind.ofName?_name (k : ClassKind) : ofName? k.name = some k := by
  cases k <;> decide

def ClassBinding.ofValue? (v : Value) : Option ClassBinding := do
  let name ← v.field? "name" Value.asText?
  let kind ← v.field? "kind" (Value.asName? ClassKind.ofName?)
  let parent ← v.field? "parent" (Value.asOption? Value.asText?)
  let methods ← v.field? "methods" (Value.asList? MethodBinding.ofValue?)
  let operators ← v.field? "operators" (Value.asList? OperatorBinding.ofValue?)
  let properties ← v.field? "properties" (Value.asList? PropertyBinding.ofValue?)
  let enums ← v.field? "enums" (Value.asList? EnumBinding.ofValue?)
  let singletons ← v.field? "singletons" (Value.asList? Value.asText?)
  return ⟨name, kind, parent, methods, operators, properties, enums, singletons⟩

theorem ClassBinding.ofValue?_toJson (c : ClassBinding) : ofValue? c.toJson = some c := by
  simp [ofValue?, toJson, Value.asName?, ClassKind.ofName?_name,
    Value.asList?_listValue MethodBinding.ofValue?_toJson,
    Value.asList?_listValue OperatorBinding.ofValue?_toJson,
    Value.asList?_listValue PropertyBinding.ofValue?_toJson,
    Value.asList?_listValue EnumBinding.ofValue?_toJson,
    Value.asList?_listValue Value.asText?_text]

def UtilityBinding.ofValue? (v : Value) : Option UtilityBinding := do
  let name ← v.field? "name" Value.asText?
  let scriptName ← v.field? "luau_name" Value.asText?
  let isPrint ← v.field? "is_print" Value.asFlag?
  let isVararg ← v.field? "is_vararg" Value.asFlag?
  return ⟨name, scriptName, isPrint, isVararg⟩

theorem UtilityBinding.ofValue?_toJson (u : UtilityBinding) : ofValue? u.toJson = some u := by
  simp [ofValue?, toJson]

namespace Bindings

variable {b b' : Bindings}

def ofValue? (v : Value) : Option Bindings := do
  let version ← v.field? "meta" (·.field? "version" (Value.asOption? Value.asText?))
  let builtinClasses ← v.field? "builtin_classes" (Value.asList? ClassBinding.ofValue?)
  let classes ← v.field? "classes" (Value.asList? ClassBinding.ofValue?)
  let globalEnums ← v.field? "global_enums" (Value.asList? EnumBinding.ofValue?)
  let utilities ← v.field? "utility_functions" (Value.asList? UtilityBinding.ofValue?)
  return ⟨version, builtinClasses, classes, globalEnums, utilities⟩

/-- Nothing of the tables is lost in their document. -/
theorem ofValue?_toJson (b : Bindings) : ofValue? b.toJson = some b := by
  simp [ofValue?, toJson, Value.asList?_listValue ClassBinding.ofValue?_toJson,
    Value.asList?_listValue EnumBinding.ofValue?_toJson,
    Value.asList?_listValue UtilityBinding.ofValue?_toJson]

/-- The binding tables of a text. -/
def decode? (source : String) : Option Bindings := (Value.parse? source).bind ofValue?

/-! Whole numbers of 64 bits. -/

/-- The values of enums are what they are for the engine, numbers of 64 bits. -/
def Fits (b : Bindings) : Prop :=
  ∀ e ∈ b.allEnums, ∀ v ∈ e.values, -0x8000000000000000 ≤ v.value ∧ v.value < 0x8000000000000000

end Bindings

/-- Only the values of enums are numbers, so they alone have to fit. -/
theorem EnumBinding.exact_toJson {e : EnumBinding}
    (h : ∀ v ∈ e.values, -0x8000000000000000 ≤ v.value ∧ v.value < 0x8000000000000000) :
    e.toJson.Exact := by
  have hvalues : (listValue EnumValueBinding.toJson e.values).Exact := by
    refine Value.exact_listValue fun v hv => ?_
    obtain ⟨hlow, hhigh⟩ := h v hv
    have hexact : (Value.whole v.value).Exact := ⟨hlow, by simp only [UInt64.size]; omega⟩
    simp [EnumValueBinding.toJson, Value.exact_object, hexact]
  simp [toJson, Value.exact_object, hvalues]

theorem MethodBinding.exact_toJson (m : MethodBinding) : m.toJson.Exact := by
  have harguments : (listValue argumentValue m.arguments).Exact :=
    Value.exact_listValue fun a _ => by simp [argumentValue, Value.exact_object]
  simp [toJson, Value.exact_object, harguments]

theorem ClassBinding.exact_toJson {c : ClassBinding} (h : ∀ e ∈ c.enums, e.toJson.Exact) :
    c.toJson.Exact := by
  have hmethods := Value.exact_listValue fun m (_ : m ∈ c.methods) => m.exact_toJson
  have hoperators : (listValue OperatorBinding.toJson c.operators).Exact :=
    Value.exact_listValue fun o _ => by simp [OperatorBinding.toJson, Value.exact_object]
  have hproperties : (listValue PropertyBinding.toJson c.properties).Exact :=
    Value.exact_listValue fun p _ => by simp [PropertyBinding.toJson, Value.exact_object]
  have hsingletons : (listValue .text c.singletons).Exact :=
    Value.exact_listValue fun s _ => Value.exact_text s
  simp [toJson, Value.exact_object, hmethods, hoperators, hproperties, Value.exact_listValue h,
    hsingletons]

namespace Bindings

variable {b b' : Bindings}

theorem exact_toJson (h : b.Fits) : b.toJson.Exact := by
  have henums : ∀ e ∈ b.allEnums, e.toJson.Exact := fun e he => EnumBinding.exact_toJson (h e he)
  have hclass : ∀ c ∈ b.allClasses, c.toJson.Exact := fun c hc =>
    ClassBinding.exact_toJson fun e he =>
      henums e (List.mem_append_right _ (List.mem_flatMap.mpr ⟨c, hc, he⟩))
  have hbuiltins := Value.exact_listValue fun c hc => hclass c (List.mem_append_left b.classes hc)
  have hclasses :=
    Value.exact_listValue fun c hc => hclass c (List.mem_append_right b.builtinClasses hc)
  have hglobals := Value.exact_listValue fun e (he : e ∈ b.globalEnums) =>
    henums e (List.mem_append_left _ he)
  have hutilities : (listValue UtilityBinding.toJson b.utilities).Exact :=
    Value.exact_listValue fun u _ => by simp [UtilityBinding.toJson, Value.exact_object]
  simp [toJson, Value.exact_object, hbuiltins, hclasses, hglobals, hutilities]

/-- Both forms of the tables are one JSON document, and each tells the tables. -/
structure Faithful (b : Bindings) : Prop where
  closed : ∀ spread, (b.document spread).toList.getLast? = some '\n'
  parsed : ∀ spread, Value.parse? (b.document spread) = some b.toJson
  decoded : ∀ spread, decode? (b.document spread) = some b
  distinct : ∀ b' spread spread', b'.Fits → b'.document spread' = b.document spread → b' = b
  /-- The compact form is one line without a blank between literals, and the other form is that line
  but for its blanks. -/
  one_line : ∃ line, (b.document false).toList = line ++ ['\n'] ∧ '\n' ∉ line ∧
    ∀ spread, Json.tidy false (b.document spread).toList = line

theorem toList_document (b : Bindings) (spread : Bool) :
    (b.document spread).toList = b.toJson.write (.of spread) 0 ++ ['\n'] := by
  rw [document, Value.render_eq_write, String.toList_append, String.toList_ofList]
  rfl

theorem toList_document_compact (b : Bindings) :
    (b.document false).toList = b.toJson.compact ++ ['\n'] := by
  rw [toList_document, Value.compact_eq_write _ 0]
  rfl

theorem parse?_document (h : b.Fits) (spread : Bool) :
    Value.parse? (b.document spread) = some b.toJson :=
  b.toJson.parse?_render (exact_toJson h) spread

/-- Reading either form and decoding it leads back to the tables. -/
theorem decode?_document (h : b.Fits) (spread : Bool) : decode? (b.document spread) = some b := by
  rw [decode?, parse?_document h, Option.bind_some, ofValue?_toJson]

/-- Without the blanks between literals both forms are one text. -/
theorem tidy_document (b : Bindings) (spread : Bool) :
    Json.tidy false (b.document spread).toList = b.toJson.compact := by
  rw [toList_document, Value.tidy_write]
  exact List.append_nil _

end Bindings

/-- Tables with values of 64 bits are encoded faithfully: each written form is read as the same
document, decodes to the tables again and stands for no others, and the forms differ in nothing but
blanks between literals. -/
theorem document_is_faithful (b : Bindings) (h : b.Fits) : b.Faithful where
  closed spread := by simp [Bindings.toList_document]
  parsed := Bindings.parse?_document h
  decoded := Bindings.decode?_document h
  distinct b' spread spread' h' heq := by
    have hdecoded := Bindings.decode?_document h' spread'
    rw [heq, Bindings.decode?_document h] at hdecoded
    exact (Option.some.inj hdecoded).symm
  one_line := ⟨_, b.toList_document_compact, Value.newline_not_mem_compact _, b.tidy_document⟩

namespace Bindings

/-- Texts with all that has to be escaped, and the least of the values. -/
def intricate : Bindings where
  version := some "4.1\n\"beta\" \\ é\x01"
  builtinClasses := []
  classes := [⟨"Tab\t", .object, none, [], [⟨"-", .unm, none, some "float"⟩], [], [], ["One"]⟩]
  globalEnums := [⟨"Side", true, "", [⟨"SIDE_\u2028", "Side", -0x8000000000000000⟩]⟩]
  utilities := []

theorem fits_intricate : intricate.Fits := by
  simp [Fits, allEnums, allClasses, intricate]

theorem intricate_document_is_faithful : intricate.Fits ∧ intricate.Faithful :=
  ⟨fits_intricate, document_is_faithful intricate fits_intricate⟩

end Bindings

end BindingTables
