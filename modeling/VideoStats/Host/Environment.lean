
namespace VideoStats.Host

structure Environment where
  vars : List (String × String) := []
  deriving DecidableEq, Repr, Inhabited

namespace Environment

def get? (env : Environment) (name : String) : Option String := env.vars.lookup name

def isSet (env : Environment) (name : String) : Bool := (env.get? name).isSome

def nonEmpty? (env : Environment) (name : String) : Option String :=
  (env.get? name).filter (!·.isEmpty)

def set (env : Environment) (name value : String) : Environment :=
  ⟨(name, value) :: env.vars.filter (·.1 != name)⟩

def unset (env : Environment) (name : String) : Environment :=
  ⟨env.vars.filter (·.1 != name)⟩

def setDefault (env : Environment) (name value : String) : Environment :=
  if env.isSet name then env else env.set name value

end Environment

end VideoStats.Host
