import BindingTables.Diagnostic
import BindingTables.Options

/-! Lints look at the API and the options, and report what they find. -/

namespace BindingTables

structure Lint where
  name : String
  description : String
  check : Api → Options → List Diagnostic

/-- The phase that runs lints, as their diagnostics name it. -/
def Lint.phase : String := "validate"

def Lint.report (severity : Severity) (message location : String) : Diagnostic :=
  ⟨severity, phase, message, some location⟩

end BindingTables
