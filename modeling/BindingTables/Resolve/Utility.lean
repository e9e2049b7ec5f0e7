/-! The utility functions that scripts get, in the order of their registration. -/

namespace BindingTables

structure Utility where
  name : String
  /-- The name in scripts, where it differs. -/
  rename : Option String
  /-- Takes any number of arguments of any type. -/
  isPrint : Bool
deriving DecidableEq

namespace Utility

def fixed (name : String) : Utility := ⟨name, none, false⟩

def renamed (name rename : String) : Utility := ⟨name, some rename, false⟩

def printing (name : String) : Utility := ⟨name, none, true⟩

def scriptName (u : Utility) : String := u.rename.getD u.name

def allowList : List Utility := [
  fixed "ease", renamed "lerpf" "lerp", fixed "cubic_interpolate", fixed "bezier_interpolate",
  fixed "lerp_angle", fixed "inverse_lerp", fixed "range_lerp", fixed "smoothstep",
  fixed "move_toward", fixed "linear2db", fixed "db2linear", renamed "wrapf" "wrap",
  fixed "pingpong", fixed "is_equal_approx",
  printing "print", printing "printraw", printing "printerr", printing "print_verbose",
  printing "print_rich", printing "push_error", printing "push_warning",
  fixed "hash", fixed "is_instance_valid"]

def find? (name : String) : Option Utility := allowList.find? (·.name = name)

end Utility

end BindingTables
