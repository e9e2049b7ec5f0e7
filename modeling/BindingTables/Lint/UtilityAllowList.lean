import BindingTables.Lint.Basic
import BindingTables.Resolve.Utility

/-! Utility functions that scripts should get and the API does not declare. -/

namespace BindingTables.Lint.UtilityAllowList

def warning (u : Utility) : Diagnostic :=
  report .warning s!"utility function '{u.name}' is not declared by the API" "utility_functions"

def check (api : Api) (_ : Options) : List Diagnostic :=
  (Utility.allowList.filter fun u => (api.utility? u.name).isNone).map warning

end UtilityAllowList

def utilityAllowList : Lint where
  name := "utility-allow-list"
  description := "Check allow-listed utility functions exist in the API"
  check := UtilityAllowList.check

end BindingTables.Lint
