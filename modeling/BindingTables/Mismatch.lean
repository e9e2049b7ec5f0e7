import BindingTables.Decimal.Shortest
import BindingTables.Text.Quoted

/-! What a document held where something else was expected, in words. -/

namespace BindingTables

inductive Found
  | null
  | flag (b : Bool)
  | whole (n : Int)
  /-- A whole number outside the 64-bit ranges. -/
  | wide (n : Int)
  /-- A number with a fraction or an exponent, as it is shown. -/
  | real (shown : String)
  | text (s : String)
  | sequence
  | map

def Found.describe : Found → String
  | null => "null"
  | flag b => s!"boolean `{b}`"
  | whole n => s!"integer `{n}`"
  | wide n => s!"integer `{n}` as i128"
  | real shown => s!"floating point `{shown}`"
  | text s => s!"string {Text.quoted s}"
  | sequence => "sequence"
  | map => "map"

def Found.insteadOf (found : Found) (expected : String) : String :=
  s!"invalid type: {found.describe}, expected {expected}"

end BindingTables
