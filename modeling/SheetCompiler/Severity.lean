/-!
# Severity

The rank of a finding. Only errors and critical findings fail a run.
-/

set_option autoImplicit false

namespace SheetCompiler

inductive Severity where
  | info
  | warning
  | error
  | critical
  deriving DecidableEq, Repr

namespace Severity

def all : List Severity := [.info, .warning, .error, .critical]

def isFailure : Severity → Bool
  | .error | .critical => true
  | .info | .warning => false

def name : Severity → String
  | .info => "info"
  | .warning => "warning"
  | .error => "error"
  | .critical => "critical"

/-- The severity of an exactly spelt name. -/
def ofName? (name : String) : Option Severity := all.find? fun severity => severity.name == name

end Severity

end SheetCompiler
