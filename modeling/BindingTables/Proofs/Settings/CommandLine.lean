import Mathlib
import BindingTables.Proofs.Files.Storing
import BindingTables.Proofs.Settings.Overlay

/-! What a command works with: its arguments say it, or else the settings document, or else it is
built in. -/

namespace BindingTables

open BindingTables.Toml

variable {t : FileTree} {elapsed : String → Nat} {args : ApiArguments} {own : GenerateArguments}
  {ms : Members} {s : Settings} {api : Api}

/-- The path of the API is the argument's, or else the document's. -/
def ApiArguments.pathOver (args : ApiArguments) (ms : Members) : String :=
  args.apiPath.getD (Setting.apiPath.under ms)

/-- Accessors are strict if the argument or the document has them so. -/
def ApiArguments.optionsOver (args : ApiArguments) (ms : Members) : Options where
  skipClasses := Setting.skipClasses.under ms
  strictAccessors := args.strict || Setting.strictAccessors.under ms

/-- The output directory is the argument's, or else the document's; the tables are spread over lines
if the document has it so and the argument does not forbid it. -/
def GenerateArguments.choicesOver (own : GenerateArguments) (ms : Members) :
    Operation.GenerateOptions where
  outputDir := own.outputDir.getD (Setting.outputDir.under ms)
  pretty := Setting.pretty.under ms && !own.compact
  dryRun := own.dryRun
  verbose := own.verbose

/-- The commands do with the API what their arguments ask for over the document. -/
structure Obeys (t : FileTree) (elapsed : String → Nat) (args : ApiArguments)
    (own : GenerateArguments) (ms : Members) (api : Api) : Prop where
  checks : ∀ report, Operation.check (args.pathOver ms) api (args.optionsOver ms) = report →
    Command.run t elapsed (.check args) = (t, .finished report.isValid report.render)
  informs : ∀ report,
    Operation.info (t.canonical (args.pathOver ms)) api (args.optionsOver ms)
      (Setting.outputDir.under ms) = .ok report →
    Command.run t elapsed (.info args) = (t, .finished true report.render)
  informs_error : ∀ e,
    Operation.info (t.canonical (args.pathOver ms)) api (args.optionsOver ms)
      (Setting.outputDir.under ms) = .error e →
    Command.run t elapsed (.info args) = (t, .commandError e)
  generates : ∀ t' report,
    Operation.generate t (args.pathOver ms) api (args.optionsOver ms) (own.choicesOver ms) elapsed
      = (t', .ok report) →
    Command.run t elapsed (.generate args own) = (t', .finished report.isSuccess report.render)
  generates_error : ∀ t' e,
    Operation.generate t (args.pathOver ms) api (args.optionsOver ms) (own.choicesOver ms) elapsed
      = (t', .error e) →
    Command.run t elapsed (.generate args own) = (t', .commandError e)

/-- Each argument is asked for one setting, and none for another. -/
theorem override_eq (args : ApiArguments) (own : GenerateArguments)
    (h : ∀ k : Setting, k.among s = k.under ms) :
    (args.override s).apiPath = args.pathOver ms ∧
      (args.override s).binding = args.optionsOver ms ∧
      (args.override s).output.dir = Setting.outputDir.under ms ∧
      own.options (args.override s) = own.choicesOver ms := by
  have hpath : s.apiPath = _ := h .apiPath
  have hclasses : s.binding.skipClasses = _ := h .skipClasses
  have hstrict : s.binding.strictAccessors = _ := h .strictAccessors
  have hdir : s.output.dir = _ := h .outputDir
  have hpretty : s.output.pretty = _ := h .pretty
  refine ⟨?_, ?_, hdir, ?_⟩
  · rw [ApiArguments.override, ApiArguments.pathOver, hpath]
  · simp only [ApiArguments.override, ApiArguments.optionsOver, hclasses, hstrict]
  · simp only [ApiArguments.override, GenerateArguments.options, GenerateArguments.choicesOver,
      hdir, hpretty]

/-- All commands load the settings once and work with what the arguments leave of them. -/
theorem obeys (hsettings : t.settingsOr args.settingsPath = .ok s)
    (heach : ∀ k : Setting, k.among s = k.under ms) (hapi : t.api (args.pathOver ms) = .ok api) :
    Obeys t elapsed args own ms api := by
  obtain ⟨hpath, hoptions, hdir, hchoices⟩ := override_eq args own heach
  rw [← hpath] at hapi
  have hload : args.load t = .ok (args.override s, api) := by
    simp only [ApiArguments.load, hsettings, hapi]
  refine ⟨?_, ?_, ?_, ?_, ?_⟩
  · rintro report rfl
    simp only [Command.run, Command.withApi, hload, hpath, hoptions]
  · intro report h
    simp only [Command.run, Command.withApi, hload, hpath, hoptions, hdir, h]
  · intro e h
    simp only [Command.run, Command.withApi, hload, hpath, hoptions, hdir, h]
  · intro t' report h
    simp only [Command.run, Command.withApi, hload, hpath, hoptions, hchoices, h]
  · intro t' e h
    simp only [Command.run, Command.withApi, hload, hpath, hoptions, hchoices, h]

/-- A document that is refused is refused before any command starts. -/
theorem load_of_not_admissible (h : t.HasSettings args.settingsPath ms) (htables : ms.OfTables)
    (hnot : ¬ Admissible ms) : ∃ e, args.load t = .error e := by
  cases hsettings : t.settingsOr args.settingsPath with
  | error e => exact ⟨e, by rw [ApiArguments.load, hsettings]⟩
  | ok s => exact absurd ((overlaid_settingsOr h htables).accepted_iff.mp ⟨s, hsettings⟩) hnot

/-- The settings of a document of tables are read exactly if it holds nothing but settings, each of
its type; each is then the document's or else the built-in one, in whichever way it is absent. The
commands work with these settings but for what their arguments say. -/
theorem settings_laid_over_defaults :
    (∀ ms : Members, ms.Distinct → ms.OfTables → Overlaid ms (Settings.schema.readTable ms)) ∧
    (∀ file source ms, document? source = some ms → ms.OfTables →
      Overlaid ms (Settings.parse file source)) ∧
    (∀ (ms : Members) (s : Settings) (k : Setting), ms.Distinct → ms.OfTables →
      Settings.schema.readTable ms = .ok s → k.IsAbsent ms → k.among s = k.builtIn) ∧
    (∀ (before after : Members) (name : Key) (span : Span) (origin : Origin) (s : Settings),
      (∃ k : Setting, k.table = name.name) →
      Members.Distinct (before ++ (name, .table span origin []) :: after) →
      Members.OfTables (before ++ after) →
      (Settings.schema.readTable (before ++ (name, .table span origin []) :: after) = .ok s ↔
        Settings.schema.readTable (before ++ after) = .ok s)) ∧
    (∀ file source, document? source = some [] →
      ∃ s, Settings.parse file source = .ok s ∧ s.binding = Options.standard) ∧
    ∀ (t : FileTree) (elapsed : String → Nat) (args : ApiArguments) (own : GenerateArguments)
      (ms : Members), t.HasSettings args.settingsPath ms → ms.OfTables →
      (Admissible ms → ∀ api, t.api (args.pathOver ms) = .ok api →
        Obeys t elapsed args own ms api) ∧
      (¬ Admissible ms → ∃ e, Command.run t elapsed (.check args) = (t, .inputError e) ∧
        Command.run t elapsed (.info args) = (t, .inputError e) ∧
        Command.run t elapsed (.generate args own) = (t, .inputError e)) := by
  refine ⟨fun ms => overlaid_readTable, fun file source ms => overlaid_parse, ?_, ?_, ?_, ?_⟩
  · intro ms s k hms htables hread habsent
    rw [(overlaid_readTable hms htables).each s hread, under_of_isAbsent habsent]
  · intro before after name span origin s hname hms htables
    exact readTable_around hname hms htables
  · intro file source h
    exact ⟨.standard, (parse_eq_ok_iff h).mpr readTable_nil, Settings.standard_binding_eq⟩
  · intro t elapsed args own ms h htables
    have hoverlaid := overlaid_settingsOr h htables
    constructor
    · intro hadmissible api hapi
      obtain ⟨s, hs⟩ := hoverlaid.accepted_iff.mpr hadmissible
      exact obeys hs (hoverlaid.each s hs) hapi
    · intro hnot
      obtain ⟨e, hload⟩ := load_of_not_admissible h htables hnot
      refine ⟨e, ?_, ?_, ?_⟩ <;> simp only [Command.run, Command.withApi, hload]

/-- One setting in each table but `output`, which is empty. -/
def strictText : String :=
  "[api]\npath = \"dump.json\"\n[output]\n[bindgen]\nstrict_accessors = true\n"

def apiTable : Key × Value :=
  (⟨"api", ⟨1, 3⟩⟩,
    .table ⟨0, 5⟩ .header [(⟨"path", ⟨6, 4⟩⟩, .text ⟨13, 11⟩ "dump.json")])

def bindgenTable : Key × Value :=
  (⟨"bindgen", ⟨35, 7⟩⟩,
    .table ⟨34, 9⟩ .header [(⟨"strict_accessors", ⟨44, 16⟩⟩, .flag ⟨63, 4⟩ true)])

def strictTables : Members :=
  [apiTable] ++ (⟨"output", ⟨26, 6⟩⟩, .table ⟨25, 8⟩ .header []) :: [bindgenTable]

def strictSettings : Settings :=
  ⟨"dump.json", ⟨"gen", true⟩, ⟨["Nil", "bool", "int", "float", "String"], true⟩⟩

/-- A key that is no setting. -/
def yamlText : String := "[output]\nformat = \"yaml\"\n"

def yamlTables : Members :=
  [(⟨"output", ⟨1, 6⟩⟩,
    .table ⟨0, 8⟩ .header [(⟨"format", ⟨9, 6⟩⟩, .text ⟨18, 6⟩ "yaml")])]

def settingsTree : FileTree where
  files := [(["luagd.toml"], Text.bytes strictText), (["yaml.toml"], Text.bytes yamlText),
    (["dump.json"], Text.bytes "\x7b\x7d")]
  directories := []
  base := []
  root := "/"

theorem document?_strictText : document? strictText = some strictTables := by cbv

theorem document?_yamlText : document? yamlText = some yamlTables := by cbv

theorem ofTables_strictTables : strictTables.OfTables := by
  simp [Members.OfTables, strictTables, apiTable, bindgenTable]

theorem ofTables_yamlTables : yamlTables.OfTables := by
  simp [Members.OfTables, yamlTables]

theorem hasSettings_strict : settingsTree.HasSettings none strictTables := by
  refine .usual (by decide +kernel) (FileTree.readText_eq_some_iff.mpr ?_) document?_strictText
  decide +kernel

theorem hasSettings_yaml : settingsTree.HasSettings (some "yaml.toml") yamlTables := by
  refine .named (FileTree.readText_eq_some_iff.mpr ?_) document?_yamlText
  decide +kernel

theorem readTable_strictTables : Settings.schema.readTable strictTables = .ok strictSettings := by
  cbv

theorem admissible_strictTables : Admissible strictTables :=
  (Settings.exists_readTable_iff_admissible ofTables_strictTables).mp ⟨_, readTable_strictTables⟩

theorem not_admissible_yamlTables : ¬ Admissible yamlTables := by
  simp [Admissible, yamlTables, Fits, Setting.exists_iff, Setting.table, Setting.key]

def emptyApi : Api := ⟨none, [], [], [], [], []⟩

theorem api_settingsTree : settingsTree.api "dump.json" = .ok emptyApi := by
  have hread : settingsTree.readText "dump.json" = some "\x7b\x7d" :=
    FileTree.readText_eq_some_iff.mpr (by decide +kernel)
  rw [FileTree.api, hread]
  cbv

theorem strict_settings_laid_over_defaults :
    strictTables.Distinct ∧ strictTables.OfTables ∧ document? strictText = some strictTables ∧
      Overlaid strictTables (Settings.schema.readTable strictTables) ∧
      Overlaid strictTables (Settings.parse "luagd.toml" strictText) ∧
      Settings.schema.readTable strictTables = .ok strictSettings ∧
      Setting.pretty.IsAbsent strictTables ∧
      Setting.pretty.among strictSettings = Setting.pretty.builtIn ∧
      Setting.pretty.table = "output" ∧
      Settings.schema.readTable ([apiTable] ++ [bindgenTable]) = .ok strictSettings ∧
      document? "" = some [] ∧
      (∃ s, Settings.parse "luagd.toml" "" = .ok s ∧ s.binding = Options.standard) ∧
      settingsTree.HasSettings none strictTables ∧ Admissible strictTables ∧
      settingsTree.api "dump.json" = .ok emptyApi ∧
      Obeys settingsTree (fun _ => 0) ⟨none, none, false⟩ ⟨none, true, true, false⟩ strictTables
        emptyApi ∧
      settingsTree.HasSettings (some "yaml.toml") yamlTables ∧ yamlTables.OfTables ∧
      ¬ Admissible yamlTables ∧
      ∃ e, Command.run settingsTree (fun _ => 0) (.check ⟨some "yaml.toml", none, false⟩)
          = (settingsTree, .inputError e) ∧
        Command.run settingsTree (fun _ => 0) (.info ⟨some "yaml.toml", none, false⟩)
          = (settingsTree, .inputError e) ∧
        Command.run settingsTree (fun _ => 0)
            (.generate ⟨some "yaml.toml", none, false⟩ ⟨none, true, true, false⟩)
          = (settingsTree, .inputError e) := by
  obtain ⟨htables, hparse, habsent, haround, hempty, hcommands⟩ := settings_laid_over_defaults
  have hdistinct := distinct_of_document? document?_strictText
  have hpretty : Setting.pretty.IsAbsent strictTables := .inr (.inl ⟨⟨25, 8⟩, .header, by cbv⟩)
  have hrest : Members.OfTables ([apiTable] ++ [bindgenTable]) := by
    simp [Members.OfTables, apiTable, bindgenTable]
  have hnone : document? "" = some [] := by cbv
  exact ⟨hdistinct, ofTables_strictTables, document?_strictText,
    htables strictTables hdistinct ofTables_strictTables,
    hparse "luagd.toml" strictText strictTables document?_strictText ofTables_strictTables,
    readTable_strictTables, hpretty,
    habsent strictTables strictSettings .pretty hdistinct ofTables_strictTables
      readTable_strictTables hpretty, rfl,
    (haround [apiTable] [bindgenTable] _ _ _ strictSettings ⟨.pretty, rfl⟩ hdistinct hrest).mp
      readTable_strictTables,
    hnone, hempty "luagd.toml" "" hnone, hasSettings_strict, admissible_strictTables,
    api_settingsTree,
    (hcommands settingsTree (fun _ => 0) ⟨none, none, false⟩ ⟨none, true, true, false⟩ strictTables
      hasSettings_strict ofTables_strictTables).1 admissible_strictTables emptyApi
      api_settingsTree,
    hasSettings_yaml, ofTables_yamlTables, not_admissible_yamlTables,
    (hcommands settingsTree (fun _ => 0) ⟨some "yaml.toml", none, false⟩ ⟨none, true, true, false⟩
      yamlTables hasSettings_yaml ofTables_yamlTables).2 not_admissible_yamlTables⟩

end BindingTables
