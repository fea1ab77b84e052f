/-!
# TwoParty.Version

The version of the library and of its program.
-/

namespace TwoParty

/-- The version of the library. -/
def version : String := "0.1.0"

end TwoParty
