/-!
# The version of the library
-/

namespace Steward

/-- The version. -/
def version : String := "0.1.0"

end Steward
