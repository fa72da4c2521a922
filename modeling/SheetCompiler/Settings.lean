import SheetCompiler.Localization.Extraction
import SheetCompiler.Validation.Declaration

/-!
# Settings

What a project can set: how runs go, how texts are localized, which types are
known beside the tables, and the rules of each table.
-/

set_option autoImplicit false

namespace SheetCompiler

/-- The budget of a stage is in milliseconds. -/
structure RunSettings where
  nameSpace : String
  stopsAtFailure : Bool
  failsOnCycles : Bool
  stageBudget : Option Nat
  deriving DecidableEq, Repr

def RunSettings.standard : RunSettings := ⟨"", false, false, none⟩

/-- The rules are sorted by the name of their table. -/
structure Settings where
  run : RunSettings
  localization : LocalizationSettings
  knownTypes : List String
  rules : List (String × TableRules)
  deriving DecidableEq, Repr

namespace Settings

def standard : Settings := ⟨.standard, .standard, [], []⟩

/-- The rules of a table. -/
def rulesFor? (settings : Settings) (table : String) : Option TableRules :=
  (settings.rules.find? fun entry => entry.1 == table).map (·.2)

end Settings

end SheetCompiler
