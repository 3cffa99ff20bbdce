/-!
# Version

The version of the library.
-/
namespace Covenant

/-- The version of the library. -/
def version : String := "0.1.0"

end Covenant
