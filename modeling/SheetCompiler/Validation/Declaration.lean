import SheetCompiler.Condition.Row
import SheetCompiler.Text.Quoted
import SheetCompiler.Validation.RuleSet

/-!
# Declared rules

Rules as settings declare them, and the rule set of a declaration. Only the
pattern of a rule can be faulty.
-/

set_option autoImplicit false

namespace SheetCompiler

/-- A check with its parameters as they are written. -/
inductive DeclaredCheck where
  | required
  | minLength (length : Nat)
  | maxLength (length : Nat)
  | pattern (text : String)
  | range (least greatest : Binary64) (inclusive : Bool)
  deriving DecidableEq, Repr

/-- A rule for a field. Without a severity its findings are errors; with a
condition it only applies to the rows where that holds. -/
structure DeclaredRule where
  field : String
  check : DeclaredCheck
  severity : Option Severity
  condition : Option String
  deriving DecidableEq, Repr

/-- The rules of one table. -/
structure TableRules where
  stopsAtFirst : Bool
  rules : List DeclaredRule
  deriving DecidableEq, Repr

def TableRules.empty : TableRules := ⟨false, []⟩

/-- The pattern of a rule is not valid. -/
structure InvalidPattern where
  pattern : String
  cause : Pattern.Fault
  deriving DecidableEq, Repr

def InvalidPattern.message (fault : InvalidPattern) : String :=
  s!"Compiling pattern '{fault.pattern}'"

/-- A rule of a field cannot be built. -/
structure RuleFault where
  field : String
  cause : InvalidPattern
  deriving DecidableEq, Repr

namespace RuleFault

/-- The fault without its innermost cause. -/
def message (fault : RuleFault) : String :=
  let check := "Pattern \x7b pattern: " ++ Text.Quoted.write fault.cause.pattern ++ " \x7d"
  s!"Building {check} rule for field '{fault.field}': {fault.cause.message}"

/-- The fault with its innermost cause. -/
def fullMessage (fault : RuleFault) : String :=
  s!"{fault.message}: {fault.cause.cause.message}"

end RuleFault

namespace DeclaredCheck

/-- The check that a declaration asks for. -/
def build : DeclaredCheck → Except InvalidPattern Check
  | required => .ok .required
  | minLength length => .ok (.minLength length)
  | maxLength length => .ok (.maxLength length)
  | pattern text =>
      match Pattern.ofText text with
      | .ok compiled => .ok (.pattern text compiled)
      | .error cause => .error ⟨text, cause⟩
  | range least greatest inclusive => .ok (.range least greatest inclusive)

end DeclaredCheck

namespace DeclaredRule

def build (rule : DeclaredRule) : Except InvalidPattern FieldRule :=
  rule.check.build.map fun check => check.toRule (rule.severity.getD .error)

end DeclaredRule

namespace RuleSet

/-- Adds a declared rule to a rule set. -/
def addDeclared (rules : RuleSet) (declared : DeclaredRule) : Except RuleFault RuleSet :=
  match declared.build with
  | .error fault => .error ⟨declared.field, fault⟩
  | .ok rule =>
      match declared.condition with
      | some condition =>
          .ok (rules.addConditional ⟨declared.field, fun row => row.satisfies condition, rule⟩)
      | none => .ok (rules.addToField declared.field rule)

/-- The rule set of a declaration. -/
def ofDeclaration (declaration : TableRules) : Except RuleFault RuleSet :=
  declaration.rules.foldlM addDeclared { empty with stopsAtFirst := declaration.stopsAtFirst }

end RuleSet

end SheetCompiler
