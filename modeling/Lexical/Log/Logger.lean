import Lexical.Log.Filter
/-! The logger of a process. -/
namespace Lexical.Log

/-- The filter of the logger, once there is one. -/
structure Logger where
  filter : Option Filter
  deriving DecidableEq, Repr

inductive InstallFault
  | alreadyInstalled
  deriving DecidableEq, Repr

def InstallFault.message : InstallFault → String
  | alreadyInstalled =>
    "attempted to set a logger after the logging system was already initialized"

/-- Installs a filter. The first one stays. -/
def Logger.install (l : Logger) (filter : Filter) : Except InstallFault Logger :=
  match l.filter with
  | none => .ok ⟨some filter⟩
  | some _ => .error .alreadyInstalled

end Lexical.Log
