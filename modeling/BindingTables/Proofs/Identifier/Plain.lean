import Mathlib.Data.List.Chain
import Mathlib.Data.List.Nodup
import BindingTables.Bindings.Lowering
import BindingTables.Proofs.Accessors.Callable
import BindingTables.Proofs.Identifier.Pascal
import BindingTables.Proofs.Identifier.Wellformed

/-! Plain names, of small letters with digits behind them, can be read back from their capitalised
form: each capital starts a word. So no two of them have the same form. -/

namespace BindingTables

open BindingTables.Text

namespace Identifier

variable {c : Char} {cs w : List Char} {ws : List (List Char)} {s : String}

/-- One or more small letters, and any number of digits behind them. -/
def IsPlainWord (w : List Char) : Prop :=
  ∃ letters digits, letters ≠ [] ∧ (∀ c ∈ letters, c.isLower = true) ∧
    (∀ c ∈ digits, c.isDigit = true) ∧ w = letters ++ digits

/-- One or more plain words with single underscores between them, and one in front if the name is
private. -/
def IsPlain (s : String) : Prop :=
  ∃ mark ws, (mark = [] ∨ mark = ['_']) ∧ ws ≠ [] ∧ (∀ w ∈ ws, IsPlainWord w) ∧
    s.toList = mark ++ join '_' ws

/-- A capital is the start of a word. -/
def respell (c : Char) : List Char := if c.isUpper then ['_', c.toLower] else [c]

/-- The plain name that has the given capitalised form. -/
def plainChars (cs : List Char) : List Char := (cs.flatMap respell).tail

theorem ascii_of_isLower (h : c.isLower = true) : c.toNat < 128 := by
  have hle : c.val ≤ 'z'.val := of_decide_eq_true (Bool.and_eq_true_iff.mp h).2
  exact toNat_lt_of_val_le hle (by decide)

theorem ascii_of_isDigit (h : c.isDigit = true) : c.toNat < 128 := by
  have hle : c.val ≤ '9'.val := of_decide_eq_true (Bool.and_eq_true_iff.mp h).2
  exact toNat_lt_of_val_le hle (by decide)

/-- A capital letter stands for the start of a word. -/
theorem capital_of_isLower (h : c.isLower = true) :
    respell c.toUpper = ['_', c] ∧ c.toUpper.isLower = false ∧ c.toUpper.isDigit = false :=
  forall_ascii (P := fun c => c.isLower = true → respell c.toUpper = ['_', c] ∧
    c.toUpper.isLower = false ∧ c.toUpper.isDigit = false) (by decide) (ascii_of_isLower h) h

theorem small_of_isLower (h : c.isLower = true) :
    respell c = [c] ∧ c.isDigit = false ∧ c ≠ '_' :=
  forall_ascii (P := fun c => c.isLower = true → respell c = [c] ∧ c.isDigit = false ∧ c ≠ '_')
    (by decide) (ascii_of_isLower h) h

theorem figure_of_isDigit (h : c.isDigit = true) :
    respell c = [c] ∧ c.isLower = false ∧ c ≠ '_' :=
  forall_ascii (P := fun c => c.isDigit = true → respell c = [c] ∧ c.isLower = false ∧ c ≠ '_')
    (by decide) (ascii_of_isDigit h) h

/-- Behind a digit comes no small letter. -/
def Follows (c d : Char) : Prop := c.isDigit = true → d.isLower = false

namespace IsPlainWord

theorem ne_nil (h : IsPlainWord w) : w ≠ [] := by
  obtain ⟨letters, digits, hne, -, -, rfl⟩ := h
  exact List.append_ne_nil_of_left_ne_nil hne digits

theorem underscore_not_mem (h : IsPlainWord w) : '_' ∉ w := by
  obtain ⟨letters, digits, -, hletters, hdigits, rfl⟩ := h
  intro hscore
  rcases List.mem_append.mp hscore with hscore | hscore
  · cases hletters '_' hscore
  · cases hdigits '_' hscore

/-- Of a plain word only its first letter changes. -/
theorem exists_capitalise (h : IsPlainWord w) : ∃ c letters digits, c.isLower = true ∧
    (∀ c ∈ letters, c.isLower = true) ∧ (∀ c ∈ digits, c.isDigit = true) ∧
    w = c :: letters ++ digits ∧ capitalise w = c.toUpper :: letters ++ digits := by
  obtain ⟨letters, digits, hne, hletters, hdigits, rfl⟩ := h
  obtain ⟨c, letters, rfl⟩ := List.exists_cons_of_ne_nil hne
  rw [List.forall_mem_cons] at hletters
  refine ⟨c, letters, digits, hletters.1, hletters.2, hdigits, rfl, ?_⟩
  rw [List.cons_append, capitalise, upper_of_ascii (ascii_of_isLower hletters.1)]
  rfl

/-- A capitalised word is spelled back with its underscore before it. -/
theorem respell_capitalise (h : IsPlainWord w) : (capitalise w).flatMap respell = '_' :: w := by
  obtain ⟨c, letters, digits, hc, hletters, hdigits, hw, hcapital⟩ := h.exists_capitalise
  have hself : ∀ d ∈ letters ++ digits, respell d = [d] := by
    intro d hd
    rcases List.mem_append.mp hd with hd | hd
    · exact (small_of_isLower (hletters d hd)).1
    · exact (figure_of_isDigit (hdigits d hd)).1
  have hrest : (letters ++ digits).flatMap respell = letters ++ digits := by
    rw [List.flatMap_congr hself]
    simp
  rw [hcapital, hw, List.cons_append, List.flatMap_cons, hrest, (capital_of_isLower hc).1]
  rfl

theorem isChain_capitalise (h : IsPlainWord w) : (capitalise w).IsChain Follows := by
  obtain ⟨c, letters, digits, hc, hletters, hdigits, -, hcapital⟩ := h.exists_capitalise
  have hfront : ∀ d ∈ c.toUpper :: letters, d.isDigit = false := by
    rw [List.forall_mem_cons]
    exact ⟨(capital_of_isLower hc).2.2, fun d hd => (small_of_isLower (hletters d hd)).2.1⟩
  have hno : ∀ d ∈ c.toUpper :: letters, ∀ e, Follows d e := by
    intro d hd e hdigit
    rw [hfront d hd] at hdigit
    cases hdigit
  rw [hcapital, List.isChain_append]
  refine ⟨?_, ?_, ?_⟩
  · exact (List.pairwise_of_forall_mem_list fun d hd e _ => hno d hd e).isChain
  · apply List.Pairwise.isChain
    apply List.pairwise_of_forall_mem_list
    intro d _ e he _
    exact (figure_of_isDigit (hdigits e he)).2.1
  · exact fun d hd e _ => hno d (List.mem_of_mem_getLast? hd) e

end IsPlainWord

/-- A digit that ends one word comes before the capital that starts the next. -/
theorem isChain_capitalised (h : ∀ w ∈ ws, IsPlainWord w) :
    (ws.flatMap capitalise).IsChain Follows := by
  have hne : [] ∉ ws.map capitalise := by
    intro hnil
    obtain ⟨w, hw, hcapital⟩ := List.mem_map.mp hnil
    obtain ⟨c, letters, digits, -, -, -, -, heq⟩ := (h w hw).exists_capitalise
    rw [heq] at hcapital
    cases hcapital
  rw [List.flatMap, List.isChain_flatten hne]
  constructor
  · rw [List.forall_mem_map]
    exact fun w hw => (h w hw).isChain_capitalise
  · apply List.Pairwise.isChain
    apply List.pairwise_of_forall_mem_list
    intro first _ second hsecond d _ e he _
    obtain ⟨w, hw, rfl⟩ := List.mem_map.mp hsecond
    obtain ⟨c, letters, digits, hc, -, -, -, heq⟩ := (h w hw).exists_capitalise
    rw [heq] at he
    cases he
    exact (capital_of_isLower hc).2.1

theorem isRaised_of_isChain (h : cs.IsChain Follows) : IsRaised cs := by
  have hpair : ∀ d, d.isDigit = true → ¬ [d, 'd'] <:+: cs := by
    intro d hd hwithin
    have hchain := List.IsChain.infix h hwithin
    have hfollows := List.isChain_pair.mp hchain
    cases hfollows hd
  exact ⟨hpair '2' rfl, hpair '3' rfl⟩

theorem sep_cons_join (sep : Char) (hne : ws ≠ []) :
    sep :: join sep ws = ws.flatMap (sep :: ·) := by
  fun_induction join sep ws with
  | case1 => exact absurd rfl hne
  | case2 => simp
  | case3 w rest hrest ih =>
    rw [List.flatMap_cons, ← ih hrest]
    rfl

theorem head?_join (hne : ws ≠ []) (h : ∀ w ∈ ws, IsPlainWord w) :
    (join '_' ws).head? ≠ some '_' := by
  obtain ⟨w, rest, rfl⟩ := List.exists_cons_of_ne_nil hne
  obtain ⟨c, cs, rfl⟩ := List.exists_cons_of_ne_nil (h w List.mem_cons_self).ne_nil
  have hc : '_' ≠ c := fun heq =>
    (h (c :: cs) List.mem_cons_self).underscore_not_mem (heq ▸ List.mem_cons_self)
  cases rest with
  | nil => simpa [join] using Ne.symm hc
  | cons w' rest => simpa [join] using Ne.symm hc

/-- No plain word has an underscore, so the words of a plain name are its pieces. -/
theorem words_join (hne : ws ≠ []) (h : ∀ w ∈ ws, IsPlainWord w) : words (join '_' ws) = ws := by
  rw [words, split_join hne fun w hw => (h w hw).underscore_not_mem, List.filter_eq_self]
  intro w hw
  simpa using (h w hw).ne_nil

variable {mark : List Char}

theorem pascalChars_plain (hmark : mark = [] ∨ mark = ['_']) (hne : ws ≠ [])
    (h : ∀ w ∈ ws, IsPlainWord w) :
    pascalChars (mark ++ join '_' ws) = mark ++ ws.flatMap capitalise := by
  have hbody : body (mark ++ join '_' ws) = ws.flatMap capitalise := by
    rcases hmark with rfl | rfl
    · rw [List.nil_append, body, words_join hne h]
    · rw [List.singleton_append, body, words_underscore, words_join hne h]
  have hprivate : privateMark (mark ++ join '_' ws) = mark := by
    rcases hmark with rfl | rfl
    · exact privateMark_of_head (head?_join hne h)
    · rfl
  rw [pascalChars_eq, hbody, hprivate,
    raiseDimensions_of_isRaised (isRaised_of_isChain (isChain_capitalised h))]

/-- A plain name can be read back from its capitalised form. -/
theorem plainChars_pascal (h : IsPlain s) : plainChars (pascal s).toList = s.toList := by
  obtain ⟨mark, ws, hmark, hne, hplain, hs⟩ := h
  have hwords : (ws.flatMap capitalise).flatMap respell = '_' :: join '_' ws := by
    rw [List.flatMap_assoc, sep_cons_join '_' hne]
    exact List.flatMap_congr fun w hw => (hplain w hw).respell_capitalise
  rw [plainChars, pascal, String.toList_ofList, hs, pascalChars_plain hmark hne hplain,
    List.flatMap_append, hwords]
  rcases hmark with rfl | rfl <;> rfl

theorem pascal_inj {a b : String} (ha : IsPlain a) (hb : IsPlain b) (h : pascal a = pascal b) :
    a = b := by
  rw [← String.toList_inj, ← plainChars_pascal ha, h, plainChars_pascal hb]

end Identifier

open Identifier

/-- The methods that a class binds keep apart if their names are plain and differ. -/
theorem Class.scriptNames_nodup {c : Class} (api : Api) (kind : ClassKind)
    (hplain : ∀ m ∈ c.bindableMethods, IsPlain m.name)
    (hnames : (c.bindableMethods.map (·.name)).Nodup) :
    ((c.lower api kind).methods.map (·.scriptName)).Nodup := by
  have hscript : (c.lower api kind).methods.map (·.scriptName) =
      (c.bindableMethods.map (·.name)).map pascal := by
    rw [Class.lower, List.map_map, List.map_map]
    rfl
  rw [hscript]
  apply List.Nodup.map_on _ hnames
  intro a ha b hb h
  obtain ⟨m, hm, rfl⟩ := List.mem_map.mp ha
  obtain ⟨n, hn, rfl⟩ := List.mem_map.mp hb
  exact pascal_inj (hplain m hm) (hplain n hn) h

/-- Different plain names have different capitalised forms, so methods with different plain names go
by different names in scripts. -/
theorem plain_names_never_collide :
    (∀ a b, IsPlain a → IsPlain b → pascal a = pascal b → a = b) ∧
      ∀ (api : Api) (kind : ClassKind) (c : Class),
        (∀ m ∈ c.bindableMethods, IsPlain m.name) → (c.bindableMethods.map (·.name)).Nodup →
          ((c.lower api kind).methods.map (·.scriptName)).Nodup :=
  ⟨fun _ _ => pascal_inj, fun api kind _ => Class.scriptNames_nodup api kind⟩

/-- A letter behind a digit in one word is respelled as the start of another would be. -/
example : pascal "to_vec2d" = pascal "to_vec2_d" := by decide

namespace Class

/-- A word ends in a digit right before another starts with the letter of a dimension. -/
def ruler : Class where
  name := "Ruler"
  inherits := none
  isRefcounted := false
  isInstantiable := true
  methods := [Accessor.method "to_vec2_d" false, Accessor.method "_to_vec2_d" false,
    Accessor.method "_to_vec2d" true]
  properties := []
  operators := []
  enums := []

def rulerWords : List (List Char) := ["to".toList, "vec2".toList, "d".toList]

theorem isPlainWord_of_mem_rulerWords : ∀ w ∈ rulerWords, IsPlainWord w := by
  intro w hw
  simp only [rulerWords, List.mem_cons, List.not_mem_nil, or_false] at hw
  rcases hw with rfl | rfl | rfl
  · exact ⟨"to".toList, [], by decide, by simp, by simp, by decide⟩
  · exact ⟨"vec".toList, ['2'], by decide, by simp, by simp, by decide⟩
  · exact ⟨"d".toList, [], by decide, by simp, by simp, by decide⟩

theorem ruler_names_never_collide :
    IsPlain "to_vec2_d" ∧ IsPlain "_to_vec2_d" ∧ pascal "to_vec2_d" ≠ pascal "_to_vec2_d" ∧
      (∀ m ∈ ruler.bindableMethods, IsPlain m.name) ∧
      (ruler.bindableMethods.map (·.name)).Nodup ∧
      ((ruler.lower ⟨none, [], [], [], [ruler], []⟩ .object).methods.map (·.scriptName)).Nodup := by
  have hwords : rulerWords ≠ [] := by decide
  have hpublic : IsPlain "to_vec2_d" :=
    ⟨[], rulerWords, .inl rfl, hwords, isPlainWord_of_mem_rulerWords, by decide⟩
  have hprivate : IsPlain "_to_vec2_d" :=
    ⟨['_'], rulerWords, .inr rfl, hwords, isPlainWord_of_mem_rulerWords, by decide⟩
  have hplain : ∀ m ∈ ruler.bindableMethods, IsPlain m.name := by
    have hbound : ruler.bindableMethods =
        [Accessor.method "to_vec2_d" false, Accessor.method "_to_vec2_d" false] := by decide
    rw [hbound, List.forall_mem_cons, List.forall_mem_singleton]
    exact ⟨hpublic, hprivate⟩
  have hnames : (ruler.bindableMethods.map (·.name)).Nodup := by decide
  obtain ⟨hinj, hclass⟩ := plain_names_never_collide
  exact ⟨hpublic, hprivate, fun h => absurd (hinj _ _ hpublic hprivate h) (by decide), hplain,
    hnames, hclass _ .object ruler hplain hnames⟩

end Class

end BindingTables
