import BindingTables.Lint.EnumCollision
import BindingTables.Lint.MissingAccessor
import BindingTables.Lint.UtilityAllowList

/-! The lints that every run makes. -/

namespace BindingTables

def Lint.standard : List Lint := [missingAccessor, enumCollision, utilityAllowList]

end BindingTables
