import BindingTables.Statistics
import BindingTables.Text.Indent

/-! The statistics as a block of text. -/

namespace BindingTables.Statistics

def rows (s : Statistics) : List (String × String) := [
  ("Classes", s!"{s.builtinClasses} builtin, {s.classes} engine ({s.skippedClasses} skipped)"),
  ("Methods", s!"{s.methods} ({s.skippedMethods} skipped)"),
  ("Operators", s!"{s.operators} ({s.droppedOperators} dropped)"),
  ("Properties", s!"{s.properties} ({s.missingAccessors} missing accessors)"),
  ("Enums", s!"{s.enums} ({s.enumValues} values)"),
  ("Singletons", s!"{s.singletons}"),
  ("Utilities", s!"{s.utilities}")]

/-- The text, with blanks up to the width. -/
def padded (width : Nat) (s : String) : String :=
  s ++ .ofList (List.replicate (width - s.toList.length) ' ')

def listing (s : Statistics) (level : Nat) : Listing :=
  s.rows.foldl (fun l row => l.append level (padded 12 row.1 ++ row.2)) (.empty (.spaces 2))

def render (s : Statistics) (level : Nat) : String := (s.listing level).text

end BindingTables.Statistics
