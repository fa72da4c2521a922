import SheetCompiler.Condition

/-!
# Names in conditions

What a condition is worth depends on the names in it alone. Names of functions do not count,
since functions cannot be bound.
-/

set_option autoImplicit false

namespace SheetCompiler.Condition

variable {bindings others : Bindings} {name : String}

namespace Symbol

def name? : Symbol → Option String
  | binding name => some name
  | _ => none

theorem applied_congr (symbol : Symbol) (operands : List Operand)
    (agree : ∀ name ∈ symbol.name?, bindings.get? name = others.get? name) :
    symbol.apply? bindings operands = symbol.apply? others operands := by
  unfold Symbol.apply?
  -- only a binding looks a name up
  split <;> first | rfl | exact agree _ rfl

end Symbol

namespace Tree

mutual

/-- The names that have to be bound for a tree to have a value. -/
def names : Tree → List String
  | node symbol operands => symbol.name?.toList ++ namesIn operands

def namesIn : List Tree → List String
  | [] => []
  | tree :: trees => tree.names ++ namesIn trees

end

mutual

theorem value?_congr : (tree : Tree) →
    (∀ name ∈ tree.names, bindings.get? name = others.get? name) →
      tree.value? bindings = tree.value? others
  | node symbol operands, agree => by
      rw [names, List.forall_mem_append] at agree
      rw [value?, value?, values?_congr operands agree.2]
      refine congrArg _ (funext fun values => ?_)
      exact symbol.applied_congr values.reverse fun name named =>
        agree.1 name (Option.mem_toList.mpr named)

theorem values?_congr : (trees : List Tree) →
    (∀ name ∈ namesIn trees, bindings.get? name = others.get? name) →
      values? bindings trees = values? others trees
  | [], _ => rfl
  | tree :: trees, agree => by
      rw [namesIn, List.forall_mem_append] at agree
      rw [values?, values?, value?_congr tree agree.1, values?_congr trees agree.2]

end

end Tree

/-- The names in a condition. A malformed condition has none. -/
def namesOf (condition : String) : List String :=
  (((tokensOf? condition).bind Tree.ofTokens?).map Tree.names).getD []

theorem holds?_congr {condition : String}
    (agree : ∀ name ∈ namesOf condition, bindings.get? name = others.get? name) :
    holds? condition bindings = holds? condition others := by
  unfold holds?
  cases read : tokensOf? condition with
  | none => rfl
  | some tokens =>
      cases built : Tree.ofTokens? tokens with
      | none =>
          simp only [bind, Option.bind, built]
      | some tree =>
          have same : tree.value? bindings = tree.value? others := by
            refine tree.value?_congr fun name named => agree name ?_
            rw [namesOf, read, Option.bind_some, built]
            exact named
          simp only [bind, Option.bind, built, same]

end SheetCompiler.Condition
