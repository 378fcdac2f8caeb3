/-!
# Runtimes

The two runtimes that an application can run on.
-/
namespace RuntimeFlag

inductive Runtime
  | diego
  | dea
  deriving DecidableEq, Repr

/-- The flag of the applications on a runtime. -/
def Runtime.flag : Runtime → Bool
  | .diego => true
  | .dea => false

/-- The name of a runtime in messages. -/
def Runtime.label : Runtime → String
  | .diego => "Diego"
  | .dea => "DEA"

end RuntimeFlag
