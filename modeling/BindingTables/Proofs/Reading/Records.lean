import Mathlib
import BindingTables.Api.Reading
import BindingTables.Proofs.Reading.Alike

/-! A dump is read off what its records hold. The order of members, members that are no fields and
nulls in the place of optional members have no part in it. -/

namespace BindingTables

open BindingTables.Json

/-! Fields and slots. -/

namespace Json

variable {α β γ : Type} {key key' : String} {required required' : Bool} {read : Reader β}
  {read' : Reader γ} {store : β → α → α} {store' : γ → α → α} {blank : α}
  {R : Node → Node → Prop}

def Slot.leaf (key : String) : Slot := ⟨key, false, Leaf⟩

def Slot.optional (key : String) (R : Node → Node → Prop) : Slot := ⟨key, true, OptionalAlike R⟩

def Slot.many (key : String) (slots : List Slot) : Slot :=
  ⟨key, false, ListAlike (RecordAlike slots)⟩

theorem result?_ofReader (n : Node) :
    (RecordField.ofReader key required read store).read.result? n =
      (read.result? n).map store := toOption_map _ _

/-- Fields whose stores can change places can be read in either order. -/
theorem commutes_ofReader (h : ∀ b c r, store b (store' c r) = store' c (store b r)) :
    (RecordField.ofReader key required read store).Commutes
      (RecordField.ofReader key' required' read' store') := by
  intro n m c d hc hd r
  rw [result?_ofReader] at hc hd
  obtain ⟨b, -, rfl⟩ := Option.map_eq_some_iff.mp hc
  obtain ⟨b', -, rfl⟩ := Option.map_eq_some_iff.mp hd
  exact h b b' r

theorem suits_ofReader (h : Suits read R) :
    Suits (RecordField.ofReader key required read store).read R :=
  ⟨h.respects.map store, h.covers.map store⟩

/-- A field that has to be a scalar. -/
theorem fits_leaf (h : Suits read Leaf) :
    (RecordField.ofReader key required read store).Fits blank (.leaf key) where
  key := rfl
  suits := suits_ofReader h
  null h := by cases h

/-- A field that may be null, which is the same as leaving it out. -/
theorem fits_optional (h : Suits read R) {store : Option β → α → α}
    (hblank : store none blank = blank) :
    (RecordField.ofReader key false (Node.optional read) store).Fits blank (.optional key R) where
  key := rfl
  suits := suits_ofReader ⟨h.respects.optional, h.covers.optional⟩
  null _ := ⟨rfl, fun _ => ⟨store none, rfl, hblank⟩⟩

theorem suits_asText : Suits Node.asText Leaf := ⟨respects_asText, covers_asText⟩

theorem suits_asFlag : Suits Node.asFlag Leaf := ⟨respects_asFlag, covers_asFlag⟩

theorem suits_asWhole (low high : Int) (expected : String) :
    Suits (Node.asWhole low high expected) Leaf :=
  ⟨respects_asWhole low high expected, covers_asWhole low high expected⟩

theorem suits_asUInt32 : Suits Node.asUInt32 Leaf :=
  ⟨(respects_asWhole _ _ _).map _, (covers_asWhole _ _ _).map _⟩

end Json

variable {α β : Type} {key : String} {blank : α}

theorem fits_text {store : String → α → α} : (textField key store).Fits blank (.leaf key) :=
  fits_leaf suits_asText

theorem fits_flag {store : Bool → α → α} : (flagField key store).Fits blank (.leaf key) :=
  fits_leaf suits_asFlag

theorem fits_optionalText {store : Option String → α → α} (h : store none blank = blank) :
    (optionalText key store).Fits blank (.optional key Leaf) := fits_optional suits_asText h

/-- A field that is a list of records, each read by its own slots. -/
theorem fits_many {schema : Schema β} {fields : List Slot} (h : schema.Models fields)
    {store : List β → α → α} :
    (listField key schema store).Fits blank (.many key fields) where
  key := rfl
  suits := suits_ofReader ⟨h.respects.listOf, h.covers.listOf⟩
  null h := by cases h

/-! The records. -/

def Argument.slots : List Slot := [.leaf "name", .leaf "type"]

theorem Argument.models : Argument.schema.Models Argument.slots where
  fits := .cons fits_text (.cons fits_text .nil)
  apart := by simp [schema, textField, commutes_ofReader]
  keys_nodup := by decide

def returnValueSlots : List Slot := [.leaf "type"]

theorem returnValue_models : returnValueSchema.Models returnValueSlots where
  fits := .cons fits_text .nil
  apart := by simp [returnValueSchema]
  keys_nodup := by decide

def Method.slots : List Slot := [.leaf "name", .leaf "is_virtual", .leaf "is_const",
  .leaf "is_static", .leaf "is_vararg", .many "arguments" Argument.slots,
  .optional "return_type" Leaf, .optional "return_value" (RecordAlike returnValueSlots)]

theorem Method.models : Method.schema.Models Method.slots where
  fits := .cons fits_text <| .cons fits_flag <| .cons fits_flag <| .cons fits_flag <|
    .cons fits_flag <| .cons (fits_many Argument.models) <| .cons (fits_optionalText rfl) <|
    .cons (fits_optional returnValue_models.suits rfl) .nil
  apart := by simp [schema, textField, flagField, listField, optionalText, commutes_ofReader]
  keys_nodup := by decide

def Operator.slots : List Slot :=
  [.leaf "name", .optional "right_type" Leaf, .optional "return_type" Leaf]

theorem Operator.models : Operator.schema.Models Operator.slots where
  fits := .cons fits_text <| .cons (fits_optionalText rfl) <| .cons (fits_optionalText rfl) .nil
  apart := by simp [schema, textField, optionalText, commutes_ofReader]
  keys_nodup := by decide

def Property.slots : List Slot :=
  [.leaf "name", .leaf "type", .optional "setter" Leaf, .optional "getter" Leaf]

theorem Property.models : Property.schema.Models Property.slots where
  fits := .cons fits_text <| .cons (fits_leaf suits_asText) <|
    .cons (fits_optionalText rfl) <| .cons (fits_optionalText rfl) .nil
  apart := by simp [schema, textField, optionalText, commutes_ofReader]
  keys_nodup := by decide

def EnumValue.slots : List Slot := [.leaf "name", .leaf "value"]

theorem EnumValue.models : EnumValue.schema.Models EnumValue.slots where
  fits := .cons fits_text <| .cons (fits_leaf (suits_asWhole _ _ _)) .nil
  apart := by simp [schema, textField, commutes_ofReader]
  keys_nodup := by decide

def Enum.slots : List Slot :=
  [.leaf "name", .leaf "is_bitfield", .many "values" EnumValue.slots]

theorem Enum.models : Enum.schema.Models Enum.slots where
  fits := .cons fits_text <| .cons fits_flag <| .cons (fits_many EnumValue.models) .nil
  apart := by simp [schema, textField, flagField, listField, commutes_ofReader]
  keys_nodup := by decide

def Class.slots : List Slot := [.leaf "name", .optional "inherits" Leaf, .leaf "is_refcounted",
  .leaf "is_instantiable", .many "methods" Method.slots, .many "properties" Property.slots,
  .many "operators" Operator.slots, .many "enums" Enum.slots]

theorem Class.models : Class.schema.Models Class.slots where
  fits := .cons fits_text <| .cons (fits_optionalText rfl) <| .cons fits_flag <|
    .cons fits_flag <| .cons (fits_many Method.models) <| .cons (fits_many Property.models) <|
    .cons (fits_many Operator.models) <| .cons (fits_many Enum.models) .nil
  apart := by simp [schema, textField, flagField, listField, optionalText, commutes_ofReader]
  keys_nodup := by decide

def Singleton.slots : List Slot := [.leaf "name", .leaf "type"]

theorem Singleton.models : Singleton.schema.Models Singleton.slots where
  fits := .cons fits_text (.cons fits_text .nil)
  apart := by simp [schema, textField, commutes_ofReader]
  keys_nodup := by decide

def UtilityFunction.slots : List Slot := [.leaf "name", .optional "category" Leaf,
  .optional "return_type" Leaf, .leaf "is_vararg", .many "arguments" Argument.slots]

theorem UtilityFunction.models : UtilityFunction.schema.Models UtilityFunction.slots where
  fits := .cons fits_text <| .cons (fits_optionalText rfl) <| .cons (fits_optionalText rfl) <|
    .cons fits_flag <| .cons (fits_many Argument.models) .nil
  apart := by simp [schema, textField, flagField, listField, optionalText, commutes_ofReader]
  keys_nodup := by decide

def Header.slots : List Slot := [.leaf "version_major", .leaf "version_minor",
  .leaf "version_patch", .optional "version_status" Leaf, .optional "version_full_name" Leaf]

theorem Header.models : Header.schema.Models Header.slots where
  fits := .cons (fits_leaf suits_asUInt32) <| .cons (fits_leaf suits_asUInt32) <|
    .cons (fits_leaf suits_asUInt32) <| .cons (fits_optionalText rfl) <|
    .cons (fits_optionalText rfl) .nil
  apart := by simp [schema, optionalText, commutes_ofReader]
  keys_nodup := by decide

namespace Api

def slots : List Slot := [.optional "header" (RecordAlike Header.slots),
  .many "global_enums" Enum.slots, .many "utility_functions" UtilityFunction.slots,
  .many "builtin_classes" Class.slots, .many "classes" Class.slots,
  .many "singletons" Singleton.slots]

/-- With the header as the one record that may be missing, the slots describe a whole dump. -/
theorem models : schema.Models slots where
  fits := .cons (fits_optional Header.models.suits rfl) <| .cons (fits_many Enum.models) <|
    .cons (fits_many UtilityFunction.models) <| .cons (fits_many Class.models) <|
    .cons (fits_many Class.models) <| .cons (fits_many Singleton.models) .nil
  apart := by simp [schema, listField, commutes_ofReader]
  keys_nodup := by decide

/-- Texts of dumps that are alike in what their records hold; nothing follows the second. -/
structure SameContent (text text' : String) : Prop where
  alike : RecordAlike slots (Document.ofChars text.toList).root
    (Document.ofChars text'.toList).root
  ends : (Document.ofChars text'.toList).trailing = none

/-- A dump is its one tree, with nothing behind it. -/
theorem ofJson_eq_ok_iff {text : String} {api : Api} : ofJson text = .ok api ↔
    schema.read.result? (Document.ofChars text.toList).root = some api ∧
      (Document.ofChars text.toList).trailing = none := by
  unfold ofJson readText? Reader.result?
  dsimp only
  cases schema.read (Document.ofChars text.toList).root with
  | error f => simp [Except.toOption]
  | ok a => cases (Document.ofChars text.toList).trailing <;> simp [Except.toOption]

end Api

/-- A dump that is alike reads as the same API. -/
theorem reading_depends_on_content {text text' : String} {api : Api}
    (h : Api.SameContent text text') (hread : Api.ofJson text = .ok api) :
    Api.ofJson text' = .ok api := by
  obtain ⟨hresult, -⟩ := Api.ofJson_eq_ok_iff.mp hread
  rw [Api.models.respects _ _ h.alike] at hresult
  exact Api.ofJson_eq_ok_iff.mpr ⟨hresult, h.ends⟩

def plainDump : String := "\x7b\"classes\":[\x7b\"name\":\"A\",\"is_refcounted\":true\x7d]\x7d"

/-- The members of the class trade places, and two members are no fields and one is null. -/
def strangeDump : String := "\x7b\"x\":[1],\"header\":null," ++
  "\"classes\":[\x7b\"is_refcounted\":true,\"y\":0,\"name\":\"A\"\x7d]\x7d"

def plainApi : Api :=
  ⟨none, [], [], [], [⟨"A", none, true, false, [], [], [], []⟩], []⟩

def plainClasses : Node := .list 11 (.cons 12 (.object 12
  (.cons (.ok "name") 19 (.text (.ok "A") 23) (.cons (.ok "is_refcounted") 39 (.flag true 44)
    (.close 45)))) (.close 46))

def strangeClasses : Node := .list 33 (.cons 34 (.object 34
  (.cons (.ok "is_refcounted") 50 (.flag true 55) (.cons (.ok "y") 59
    (.number (.ok (.whole 0)) 61) (.cons (.ok "name") 68 (.text (.ok "A") 72)
      (.close 73))))) (.close 74))

theorem plainDump_tree : Document.ofChars plainDump.toList =
    ⟨.object 0 (.cons (.ok "classes") 10 plainClasses (.close 47)), none⟩ := by
  cbv

theorem strangeDump_tree : Document.ofChars strangeDump.toList = ⟨.object 0 (.cons (.ok "x") 4
    (.list 5 (.cons 6 (.number (.ok (.whole 1)) 7) (.close 8))) (.cons (.ok "header") 17 (.null 22)
      (.cons (.ok "classes") 32 strangeClasses (.close 75)))), none⟩ := by
  cbv

/-- The members of the class come the other way round, with an unknown one between them. -/
theorem strangeClass_alike : EntriesAlike Class.slots
    [("name", .text (.ok "A") 23), ("is_refcounted", .flag true 44)]
    [("is_refcounted", .flag true 55), ("y", .number (.ok (.whole 0)) 61),
      ("name", .text (.ok "A") 72)] := by
  have hmoved : EntriesAlike Class.slots
      [("name", .text (.ok "A") 23), ("is_refcounted", .flag true 44)]
      [("name", .text (.ok "A") 72), ("is_refcounted", .flag true 55)] :=
    .within (.cons (memberAlike_of_named rfl (.text _ _ _))
      (.cons (memberAlike_of_named rfl (.flag _ _ _)) .nil))
  have hinserted : EntriesAlike Class.slots
      [("is_refcounted", .flag true 55), ("name", .text (.ok "A") 72)]
      [("y", .number (.ok (.whole 0)) 61), ("is_refcounted", .flag true 55),
        ("name", .text (.ok "A") 72)] := .symm (.unknown _ rfl rfl)
  refine hmoved.trans (.trans (.reordered (.swap _ _ _)) ?_)
  exact hinserted.trans (.reordered (.swap _ _ _))

theorem strangeClasses_alike :
    ListAlike (RecordAlike Class.slots) plainClasses strangeClasses :=
  .list rfl rfl (.cons (.object rfl rfl strangeClass_alike) .nil)

theorem sameContent_strangeDump : Api.SameContent plainDump strangeDump := by
  refine ⟨?_, by rw [strangeDump_tree]⟩
  rw [plainDump_tree, strangeDump_tree]
  have hclasses : EntriesAlike Api.slots [("classes", plainClasses)]
      [("classes", strangeClasses)] :=
    .within (.cons (memberAlike_of_named rfl strangeClasses_alike) .nil)
  have hnull : EntriesAlike Api.slots [("classes", strangeClasses)]
      [("header", .null 22), ("classes", strangeClasses)] :=
    .symm (.absent 22 rfl rfl (by simp))
  exact .object rfl rfl (hclasses.trans (hnull.trans (.symm (.unknown _ rfl rfl))))

theorem strange_dump_reads_alike : Api.SameContent plainDump strangeDump ∧
    Api.ofJson plainDump = .ok plainApi ∧ Api.ofJson strangeDump = .ok plainApi := by
  have hplain : Api.ofJson plainDump = .ok plainApi := by cbv
  exact ⟨sameContent_strangeDump, hplain, reading_depends_on_content sameContent_strangeDump hplain⟩

end BindingTables
