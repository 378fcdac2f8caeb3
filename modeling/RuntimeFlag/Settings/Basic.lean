/-!
# Settings

What the settings file says: where the control plane is, whose session it is, and how listings are
fetched.
-/
namespace RuntimeFlag

structure Settings where
  endpoint : Option String
  accessToken : Option String
  username : Option String
  spaceGuid : Option String
  skipTlsChecks : Bool
  pageSize : Nat
  deriving DecidableEq, Repr

namespace Settings

/-- The greatest number of records that a page is asked for. -/
def maxPageSize : Nat := 100

/-- The settings of an empty file. -/
def empty : Settings := ⟨none, none, none, none, false, maxPageSize⟩

def effectivePageSize (settings : Settings) : Nat := max 1 (min maxPageSize settings.pageSize)

/-- The settings with another endpoint, if there is one. -/
def withEndpoint (settings : Settings) (endpoint : Option String) : Settings :=
  { settings with endpoint := endpoint.or settings.endpoint }

end Settings

end RuntimeFlag
