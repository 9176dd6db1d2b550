/-!
# `RootFold.Environment` — the variables a run is started with

The only variables that matter are those that choose colours and the log level.
-/

namespace RootFold

/-- **The variables of a run,** each with its text. -/
structure Environment where
  entries : List (String × String)
  deriving Inhabited

namespace Environment

/-- The text of a variable, if it is set. -/
def get? (env : Environment) (name : String) : Option String :=
  (env.entries.find? (·.1 == name)).map (·.2)

/-- Whether a variable is set. -/
def isSet (env : Environment) (name : String) : Bool := (env.get? name).isSome

end Environment

end RootFold
