import BindingTables.Bindings.Document
import BindingTables.FileTree

/-! The files that hold binding tables. -/

namespace BindingTables.Bindings

/-- The kind of output. -/
def target : String := "json"

def fileName : String := "bindings.json"

/-- The files with their content, by paths from the output directory. -/
def preview (b : Bindings) (pretty : Bool) : List (String × String) :=
  [(Path.join "" fileName, b.document pretty)]

/-- Writes the document into a directory unless it stands there already; tells whether it did. -/
def generate (b : Bindings) (pretty : Bool) (t : FileTree) (dir : String) :
    FileTree × Except WriteFailure (String × WriteOutcome) :=
  let path := Path.join dir fileName
  match t.storeUnder .ifChanged path (b.document pretty) with
  | (t, .error e) => (t, .error e)
  | (t, .ok outcome) => (t, .ok (path, outcome))

end BindingTables.Bindings
