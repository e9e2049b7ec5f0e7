import BindingTables.Command.Run
import BindingTables.Proofs.Settings.Fields

/-! Settings are laid over the built-in ones key by key, and the command line over the settings. -/

namespace BindingTables

open BindingTables.Toml

namespace Toml.Value

def text? : Value → Option String
  | text _ s => some s
  | _ => none

def flag? : Value → Option Bool
  | flag _ b => some b
  | _ => none

def texts? : Value → Option (List String)
  | list _ _ items => items.mapM text?
  | _ => none

end Toml.Value

/-- All that a document can set. -/
inductive Setting
  | apiPath
  | outputDir
  | pretty
  | skipClasses
  | strictAccessors

namespace Setting

def table : Setting → String
  | apiPath => "api"
  | outputDir | pretty => "output"
  | skipClasses | strictAccessors => "bindgen"

def key : Setting → String
  | apiPath => "path"
  | outputDir => "dir"
  | pretty => "pretty"
  | skipClasses => "skip_classes"
  | strictAccessors => "strict_accessors"

abbrev Content : Setting → Type
  | apiPath | outputDir => String
  | pretty | strictAccessors => Bool
  | skipClasses => List String

/-- What the setting is where no document says otherwise. -/
def builtIn : (k : Setting) → k.Content
  | apiPath => "extension_api.json"
  | outputDir => "gen"
  | pretty => true
  | skipClasses => ["Nil", "bool", "int", "float", "String"]
  | strictAccessors => false

/-- What the value sets the setting to, if it is of its type. -/
def content? : (k : Setting) → Value → Option k.Content
  | apiPath | outputDir => Value.text?
  | pretty | strictAccessors => Value.flag?
  | skipClasses => Value.texts?

/-- The setting as it is among others. -/
def among : (k : Setting) → Settings → k.Content
  | apiPath, s => s.apiPath
  | outputDir, s => s.output.dir
  | pretty, s => s.output.pretty
  | skipClasses, s => s.binding.skipClasses
  | strictAccessors, s => s.binding.strictAccessors

/-- The document's value for the setting. -/
def value? (k : Setting) (ms : Members) : Option Value := ms.valueIn? k.table k.key

/-- The setting under a document: what this sets it to, or the built-in one. -/
def under (ms : Members) (k : Setting) : k.Content := ((k.value? ms).bind k.content?).getD k.builtIn

theorem exists_iff {p : Setting → Prop} : (∃ k, p k) ↔
    p apiPath ∨ p outputDir ∨ p pretty ∨ p skipClasses ∨ p strictAccessors := by
  constructor
  · rintro ⟨k, hk⟩
    cases k <;> simp [hk]
  · rintro (h | h | h | h | h) <;> exact ⟨_, h⟩

/-- The five settings are all that there is. -/
theorem ext {s s' : Settings} (h : ∀ k : Setting, k.among s = k.among s') : s = s' := by
  obtain ⟨path, ⟨dir, pretty⟩, ⟨classes, strict⟩⟩ := s
  obtain ⟨path', ⟨dir', pretty'⟩, ⟨classes', strict'⟩⟩ := s'
  obtain rfl : path = path' := h .apiPath
  obtain rfl : dir = dir' := h .outputDir
  obtain rfl : pretty = pretty' := h .pretty
  obtain rfl : classes = classes' := h .skipClasses
  obtain rfl : strict = strict' := h .strictAccessors
  rfl

end Setting

/-- The member of a table named `table` is a setting of the table, and its value is of its type. -/
def Fits (table : String) (m : Key × Value) : Prop :=
  ∃ k : Setting, k.table = table ∧ k.key = m.1.name ∧ (k.content? m.2).isSome

/-- The document's tables are tables of settings, and hold nothing but settings. -/
def Admissible (ms : Members) : Prop :=
  ∀ m ∈ ms, (∃ k : Setting, k.table = m.1.name) ∧
    ∀ span origin inner, m.2 = .table span origin inner → ∀ e ∈ inner, Fits m.1.name e

/-- Settings come out exactly if the document is admissible, and each is the document's or else the
built-in one. -/
structure Overlaid {ε : Type} (ms : Members) (outcome : Except ε Settings) : Prop where
  accepted_iff : (∃ s, outcome = .ok s) ↔ Admissible ms
  each : ∀ s, outcome = .ok s → ∀ k : Setting, k.among s = k.under ms

/-! What the readers of values and of tables take. -/

section Readers

variable {m : Key × Value} {ms inner : Members} {s : Settings} {span : Span} {origin : Origin}
  {name : Key}

theorem reads_asText (expected : String) : Reads (Value.asText expected) Value.text? := by
  intro v
  cases v <;> rfl

theorem reads_asFlag : Reads Value.asFlag Value.flag? := by
  intro v
  cases v <;> rfl

theorem reads_listOf (expected : String) :
    Reads (Value.listOf (Value.asText expected)) Value.texts? := by
  intro v
  cases v with
  | list span ofTables items => exact (reads_asText expected).mapM items
  | _ => rfl

namespace Settings

theorem apiSchema_accepts_iff : apiSchema.Accepts m ↔ Fits "api" m := by
  rw [Schema.accepts_iff (by decide)]
  simp [apiSchema, exists_read_ofReader_iff, (reads_asText _).exists_iff, Fits,
    Setting.exists_iff, Setting.table, Setting.key, Setting.content?]

theorem outputSchema_accepts_iff : outputSchema.Accepts m ↔ Fits "output" m := by
  rw [Schema.accepts_iff (by decide)]
  simp [outputSchema, exists_read_ofReader_iff, (reads_asText _).exists_iff,
    reads_asFlag.exists_iff, Fits, Setting.exists_iff, Setting.table, Setting.key,
    Setting.content?]

theorem bindingSchema_accepts_iff : bindingSchema.Accepts m ↔ Fits "bindgen" m := by
  rw [Schema.accepts_iff (by decide)]
  simp [bindingSchema, exists_read_ofReader_iff, (reads_listOf _).exists_iff,
    reads_asFlag.exists_iff, Fits, Setting.exists_iff, Setting.table, Setting.key,
    Setting.content?]

/-- A table is accepted if it is one of the three and each of its members is a setting of it. -/
theorem schema_accepts_iff : schema.Accepts (name, .table span origin inner) ↔
    (∃ k : Setting, k.table = name.name) ∧ ∀ e ∈ inner, Fits name.name e := by
  rw [Schema.accepts_iff (by decide)]
  simp only [schema, List.mem_cons, List.not_mem_nil, or_false, exists_eq_or_imp, exists_eq_left,
    exists_read_ofReader_iff, Schema.read, exists_readTable_iff, key_ofReader,
    apiSchema_accepts_iff, outputSchema_accepts_iff, bindingSchema_accepts_iff]
  constructor
  · rintro (⟨hname, hinner⟩ | ⟨hname, hinner⟩ | ⟨hname, hinner⟩)
    · exact ⟨⟨.apiPath, hname⟩, hname ▸ hinner⟩
    · exact ⟨⟨.outputDir, hname⟩, hname ▸ hinner⟩
    · exact ⟨⟨.skipClasses, hname⟩, hname ▸ hinner⟩
  · rintro ⟨⟨k, hname⟩, hinner⟩
    rw [← hname] at hinner ⊢
    cases k with
    | apiPath => exact .inl ⟨rfl, hinner⟩
    | outputDir | pretty => exact .inr (.inl ⟨rfl, hinner⟩)
    | skipClasses | strictAccessors => exact .inr (.inr ⟨rfl, hinner⟩)

/-- Nothing else can be wrong with a document of tables. -/
theorem exists_readTable_iff_admissible (htables : ms.OfTables) :
    (∃ s, schema.readTable ms = .ok s) ↔ Admissible ms := by
  rw [exists_readTable_iff, Admissible]
  constructor
  · intro h m hm
    obtain ⟨span, origin, inner, hv⟩ := htables m hm
    have haccepts := h m hm
    rw [← Prod.eta m, hv, schema_accepts_iff] at haccepts
    refine ⟨haccepts.1, ?_⟩
    intro span' origin' inner' hv'
    cases hv.symm.trans hv'
    exact haccepts.2
  · intro h m hm
    obtain ⟨span, origin, inner, hv⟩ := htables m hm
    rw [← Prod.eta m, hv, schema_accepts_iff]
    exact ⟨(h m hm).1, (h m hm).2 span origin inner hv⟩

theorem sets_api : schema.Sets "api" apiSchema.read (·.apiPath) where
  own := ⟨_, rfl, fun _ _ => rfl⟩
  others := by simp [schema, keeps_ofReader]

theorem sets_output : schema.Sets "output" outputSchema.read (·.output) where
  own := ⟨_, rfl, fun _ _ => rfl⟩
  others := by simp [schema, keeps_ofReader]

theorem sets_bindgen : schema.Sets "bindgen" bindingSchema.read (·.binding) where
  own := ⟨_, rfl, fun _ _ => rfl⟩
  others := by simp [schema, keeps_ofReader]

theorem apiSchema_sets_path : apiSchema.Sets "path" (Value.asText "path string") id where
  own := ⟨_, rfl, fun _ _ => rfl⟩
  others := by simp [apiSchema]

theorem outputSchema_sets_dir :
    outputSchema.Sets "dir" (Value.asText "path string") (·.dir) where
  own := ⟨_, rfl, fun _ _ => rfl⟩
  others := by simp [outputSchema, keeps_ofReader]

theorem outputSchema_sets_pretty : outputSchema.Sets "pretty" Value.asFlag (·.pretty) where
  own := ⟨_, rfl, fun _ _ => rfl⟩
  others := by simp [outputSchema, keeps_ofReader]

theorem bindingSchema_sets_skipClasses : bindingSchema.Sets "skip_classes"
    (Value.listOf (Value.asText "a string")) (·.skipClasses) where
  own := ⟨_, rfl, fun _ _ => rfl⟩
  others := by simp [bindingSchema, keeps_ofReader]

theorem bindingSchema_sets_strictAccessors :
    bindingSchema.Sets "strict_accessors" Value.asFlag (·.strictAccessors) where
  own := ⟨_, rfl, fun _ _ => rfl⟩
  others := by simp [bindingSchema, keeps_ofReader]

/-- Each setting is read from the key of its table, with the default of that table besides. -/
theorem among_of_readTable (hms : Members.Distinct ms) (htables : ms.OfTables)
    (h : schema.readTable ms = .ok s) (k : Setting) : k.among s = k.under ms := by
  cases k with
  | apiPath =>
    have hfilled := sets_api.filled_in apiSchema_sets_path standard_apiPath hms htables h
    exact hfilled.eq_getD (reads_asText _)
  | outputDir =>
    have hfilled := sets_output.filled_in outputSchema_sets_dir standard_output hms htables h
    exact hfilled.eq_getD (reads_asText _)
  | pretty =>
    have hfilled := sets_output.filled_in outputSchema_sets_pretty standard_output hms htables h
    exact hfilled.eq_getD reads_asFlag
  | skipClasses =>
    have hfilled :=
      sets_bindgen.filled_in bindingSchema_sets_skipClasses standard_binding hms htables h
    exact hfilled.eq_getD (reads_listOf _)
  | strictAccessors =>
    have hfilled :=
      sets_bindgen.filled_in bindingSchema_sets_strictAccessors standard_binding hms htables h
    exact hfilled.eq_getD reads_asFlag

end Settings

end Readers

section Documents

variable {ε ε' : Type} {ms ms' before after : Members} {s : Settings} {outcome : Except ε Settings}
  {outcome' : Except ε' Settings} {k : Setting} {name : Key} {span : Span} {origin : Origin}
  {file source : String} {t : FileTree} {path : Option String}

/-- What is read is the document laid over the built-in settings. -/
theorem overlaid_readTable (hms : Members.Distinct ms) (htables : ms.OfTables) :
    Overlaid ms (Settings.schema.readTable ms) :=
  ⟨Settings.exists_readTable_iff_admissible htables,
    fun _ h => Settings.among_of_readTable hms htables h⟩

theorem Overlaid.congr (h : Overlaid ms outcome) (hsame : ∀ s, outcome' = .ok s ↔ outcome = .ok s) :
    Overlaid ms outcome' := by
  refine ⟨?_, fun s hs => h.each s ((hsame s).mp hs)⟩
  simp only [hsame]
  exact h.accepted_iff

/-- Nothing but the settings that a document comes to can tell it from another. -/
theorem Overlaid.eq_ok_of_eq_ok (h : Overlaid ms outcome) (h' : Overlaid ms' outcome')
    (haccepted : Admissible ms → Admissible ms') (heach : ∀ k : Setting, k.under ms = k.under ms')
    (hs : outcome = .ok s) : outcome' = .ok s := by
  obtain ⟨s', hs'⟩ := h'.accepted_iff.mpr (haccepted (h.accepted_iff.mp ⟨s, hs⟩))
  have hsame : s' = s := by
    apply Setting.ext
    intro k
    rw [h'.each s' hs', h.each s hs, heach]
  rw [hs', hsame]

/-- The document has no value for the setting: its table is missing, is empty, or has other keys
only. -/
def Setting.IsAbsent (k : Setting) (ms : Members) : Prop :=
  ms.find? k.table = none ∨ (∃ span origin, ms.find? k.table = some (.table span origin [])) ∨
    ∃ span origin inner, ms.find? k.table = some (.table span origin inner) ∧
      Members.find? k.key inner = none

/-- The three ways to leave a setting out come to the built-in one. -/
theorem under_of_isAbsent (h : k.IsAbsent ms) : k.under ms = k.builtIn := by
  rw [Setting.under, Setting.value?, Members.valueIn?]
  rcases h with hfind | ⟨_, _, hfind⟩ | ⟨_, _, _, hfind, hkey⟩
  · rw [hfind]
    rfl
  · rw [hfind]
    rfl
  · simp only [hfind, hkey]
    rfl

/-! An empty table of settings. -/

theorem admissible_around (hname : ∃ k : Setting, k.table = name.name) :
    Admissible (before ++ (name, .table span origin []) :: after) ↔
      Admissible (before ++ after) := by
  have hempty : (∃ k : Setting, k.table = name.name) ∧ ∀ span' origin' inner,
      Value.table span origin [] = .table span' origin' inner → ∀ e ∈ inner, Fits name.name e := by
    refine ⟨hname, ?_⟩
    rintro _ _ _ ⟨⟩
    simp
  simp only [Admissible, List.forall_mem_append, List.forall_mem_cons]
  exact ⟨fun h => ⟨h.1, h.2.2⟩, fun h => ⟨h.1, hempty, h.2⟩⟩

theorem distinct_around {v : Value} (h : Members.Distinct (before ++ (name, v) :: after)) :
    Members.Distinct (before ++ after) := by
  have hsub : (before ++ after).Sublist (before ++ (name, v) :: after) :=
    (List.sublist_cons_self _ _).append_left before
  exact ⟨h.names.sublist (hsub.map _), fun m hm => h.values m (hsub.subset hm)⟩

theorem value?_around (h : Members.Distinct (before ++ (name, .table span origin []) :: after)) :
    k.value? (before ++ (name, .table span origin []) :: after) = k.value? (before ++ after) := by
  rw [Setting.value?, Setting.value?, Members.valueIn?, Members.valueIn?]
  by_cases hname : name.name = k.table
  · have hfind : Members.find? k.table (before ++ (name, .table span origin []) :: after)
        = some (.table span origin []) :=
      (Members.find?_eq_some_iff h.names).mpr ⟨name, hname, by simp⟩
    have hnone : Members.find? k.table (before ++ after) = none := by
      have hnodup := h.names
      rw [List.map_append, List.map_cons, List.nodup_middle, List.nodup_cons] at hnodup
      rw [Members.find?_eq_none_iff, ← hname, List.map_append]
      exact hnodup.1
    rw [hfind, hnone]
    rfl
  · rw [Members.find?_around hname]

/-- It makes no difference whether a table of settings is empty or missing. -/
theorem readTable_around (hname : ∃ k : Setting, k.table = name.name)
    (h : Members.Distinct (before ++ (name, .table span origin []) :: after))
    (htables : Members.OfTables (before ++ after)) :
    Settings.schema.readTable (before ++ (name, .table span origin []) :: after) = .ok s ↔
      Settings.schema.readTable (before ++ after) = .ok s := by
  have htables' : Members.OfTables (before ++ (name, .table span origin []) :: after) := by
    rw [Members.OfTables, List.forall_mem_append] at htables
    rw [Members.OfTables, List.forall_mem_append, List.forall_mem_cons]
    exact ⟨htables.1, ⟨span, origin, [], rfl⟩, htables.2⟩
  have hwith := overlaid_readTable h htables'
  have hwithout := overlaid_readTable (distinct_around h) htables
  have heach : ∀ k : Setting, k.under (before ++ (name, .table span origin []) :: after)
      = k.under (before ++ after) := by
    intro k
    rw [Setting.under, Setting.under, value?_around h]
  constructor
  · exact hwith.eq_ok_of_eq_ok hwithout (admissible_around hname).mp heach
  · exact hwithout.eq_ok_of_eq_ok hwith (admissible_around hname).mpr fun k => (heach k).symm

/-! The settings file. -/

/-- The empty document leaves the settings as they are without a file. -/
theorem readTable_nil : Settings.schema.readTable [] = .ok .standard := rfl

theorem parse_eq_ok_iff (h : document? source = some ms) :
    Settings.parse file source = .ok s ↔ Settings.schema.readTable ms = .ok s := by
  rw [Settings.parse, h]
  cases hread : Settings.schema.readTable ms <;> simp [hread]

theorem overlaid_parse (h : document? source = some ms) (htables : ms.OfTables) :
    Overlaid ms (Settings.parse file source) :=
  (overlaid_readTable (distinct_of_document? h) htables).congr fun _ => parse_eq_ok_iff h

/-- The settings document of a tree: that of the file which is named, or else of the usual file; if
that is missing, the empty document. -/
inductive FileTree.HasSettings (t : FileTree) : Option String → Members → Prop
  | named {path source : String} {ms : Members} : t.readText path = some source →
    document? source = some ms → HasSettings t (some path) ms
  | usual {source : String} {ms : Members} : t.holds Settings.fileName = true →
    t.readText Settings.fileName = some source → document? source = some ms → HasSettings t none ms
  | missing : t.holds Settings.fileName = false → HasSettings t none []

theorem settings_eq {path : String} (h : t.readText path = some source) :
    t.settings path = Settings.parse path source := by
  rw [FileTree.settings, h]

/-- It is no matter whether the settings come from a named file, the usual one or none. -/
theorem overlaid_settingsOr (h : t.HasSettings path ms) (htables : ms.OfTables) :
    Overlaid ms (t.settingsOr path) := by
  cases h with
  | named hread hdocument =>
    rw [FileTree.settingsOr, settings_eq hread]
    exact overlaid_parse hdocument htables
  | usual hholds hread hdocument =>
    rw [FileTree.settingsOr, if_pos hholds, settings_eq hread]
    exact overlaid_parse hdocument htables
  | missing hholds =>
    rw [FileTree.settingsOr, if_neg (by simp [hholds])]
    refine (overlaid_readTable Members.distinct_nil htables).congr fun s => ?_
    rw [readTable_nil, Except.ok.injEq, Except.ok.injEq]

end Documents

end BindingTables
