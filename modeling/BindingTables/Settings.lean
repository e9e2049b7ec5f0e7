import BindingTables.Options
import BindingTables.Toml.Document
import BindingTables.Toml.Reading

/-! The settings file: where the API is read, where bindings are written, and what is bound. -/

namespace BindingTables

open BindingTables.Toml

structure OutputSettings where
  dir : String
  /-- Whether the document is spread over lines. -/
  pretty : Bool
deriving DecidableEq

structure Settings where
  apiPath : String
  output : OutputSettings
  binding : Options
deriving DecidableEq

namespace Settings

/-- The file that is read when none is named. -/
def fileName : String := "luagd.toml"

def defaultApiPath : String := "extension_api.json"

def defaultOutputDir : String := "gen"

def defaultSkipClasses : List String := primitiveClasses

/-! The tables of the file. Their keys have a default each. -/

def apiSchema : Schema String where
  name := "ApiConfig"
  fields := [.ofReader "path" (Value.asText "path string") fun s _ => s]
  defaults := defaultApiPath

def outputSchema : Schema OutputSettings where
  name := "OutputConfig"
  fields := [
    .ofReader "dir" (Value.asText "path string") fun s o => { o with dir := s },
    .ofReader "pretty" Value.asFlag fun b o => { o with pretty := b }]
  defaults := ⟨defaultOutputDir, true⟩

def bindingSchema : Schema Options where
  name := "BindgenConfig"
  fields := [
    .ofReader "skip_classes" (Value.listOf (Value.asText "a string"))
      fun l o => { o with skipClasses := l },
    .ofReader "strict_accessors" Value.asFlag fun b o => { o with strictAccessors := b }]
  defaults := ⟨defaultSkipClasses, false⟩

/-! What stands in for a table that is missing. -/

def absentApi : String := defaultApiPath

def absentOutput : OutputSettings := ⟨defaultOutputDir, true⟩

def absentBinding : Options := ⟨defaultSkipClasses, false⟩

def standard : Settings := ⟨absentApi, absentOutput, absentBinding⟩

/-! A key has one default, whether or not its table is there, and it is the one that runs without
settings have. -/

theorem standard_apiPath : standard.apiPath = apiSchema.defaults := rfl

theorem standard_output : standard.output = outputSchema.defaults := rfl

theorem standard_binding : standard.binding = bindingSchema.defaults := rfl

theorem standard_binding_eq : standard.binding = Options.standard := rfl

def schema : Schema Settings where
  name := "Config"
  fields := [
    .ofReader "api" apiSchema.read fun s c => { c with apiPath := s },
    .ofReader "output" outputSchema.read fun o c => { c with output := o },
    .ofReader "bindgen" bindingSchema.read fun o c => { c with binding := o }]
  defaults := standard

/-- Reads the text of the settings file named `file`. -/
def parse (file source : String) : Except InputError Settings :=
  match document? source with
  | none => .error (.malformedSettings file .syntactic)
  | some ms =>
    match schema.readTable ms with
    | .error e => .error (.malformedSettings file (.invalid e.cause e.span))
    | .ok settings => .ok settings

end Settings

end BindingTables
