/-!
# Generation scope

Which generated targets a column belongs to.
-/

set_option autoImplicit false

namespace SheetCompiler

/-- A program for which code is generated. -/
inductive Target where
  | client
  | server
  deriving DecidableEq, Repr

namespace Target

def all : List Target := [.client, .server]

def name : Target → String
  | .client => "client"
  | .server => "server"

end Target

/-- The targets that see a column. -/
inductive Scope where
  | excluded
  | clientOnly
  | serverOnly
  | all
  deriving DecidableEq, Repr

namespace Scope

def isExcluded (scope : Scope) : Bool := scope == .excluded

def includes : Scope → Target → Bool
  | .excluded, _ => false
  | .all, _ => true
  | .clientOnly, target => target == .client
  | .serverOnly, target => target == .server

def name : Scope → String
  | .excluded => "none"
  | .clientOnly => "client"
  | .serverOnly => "server"
  | .all => "all"

end Scope

end SheetCompiler
