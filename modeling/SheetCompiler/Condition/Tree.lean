import SheetCompiler.Condition.Token

/-!
# Condition trees

The tree of operators that the tokens of a condition build. Tokens are put into
the tree one by one, always at its last branch: an operator that binds weaker
than what stands there takes it over as its operand, any other goes below it.
Operators may stay without operands; such a tree has no value.
-/

set_option autoImplicit false

namespace SheetCompiler.Condition

/-- What stands at a node of the tree. A `group` is the whole condition, a part in
parentheses, or an item of a sequence. -/
inductive Symbol where
  | group
  | add | sub | neg | mul | div | rem | pow
  | equal | unequal | greater | less | greaterEqual | lessEqual
  | and | or | not
  | tuple | chain
  | constant (value : Operand)
  | binding (name : String)
  | function (name : String)
  deriving BEq, Repr

namespace Symbol

def isGroup : Symbol → Bool
  | group => true
  | _ => false

def isTuple : Symbol → Bool
  | tuple => true
  | _ => false

def isChain : Symbol → Bool
  | chain => true
  | _ => false

def isFunction : Symbol → Bool
  | function _ => true
  | _ => false

/-- Sequences take any number of operands. -/
def isSequence (symbol : Symbol) : Bool := symbol.isTuple || symbol.isChain

/-- How tightly an operator binds. -/
def precedence : Symbol → Nat
  | group | constant _ | binding _ => 200
  | function _ => 190
  | pow => 120
  | neg | not => 110
  | mul | div | rem => 100
  | add | sub => 95
  | equal | unequal | greater | less | greaterEqual | lessEqual => 80
  | and => 75
  | or => 70
  | tuple => 40
  | chain => 0

/-- The number of operands, where it is fixed. -/
def arity? : Symbol → Option Nat
  | constant _ | binding _ => some 0
  | group | neg | not | function _ => some 1
  | tuple | chain => none
  | _ => some 2

def isLeaf (symbol : Symbol) : Bool := symbol.arity? == some 0

/-- Whether `inner` may go below `outer`: it binds tighter, or both are functions. -/
def admits (outer inner : Symbol) : Bool :=
  outer.precedence < inner.precedence || (outer.isFunction && inner.isFunction)

end Symbol

/-- A symbol with its operands, latest first. -/
inductive Tree where
  | node (symbol : Symbol) (operands : List Tree)
  deriving Repr

namespace Tree

def symbol : Tree → Symbol
  | node symbol _ => symbol

def operands : Tree → List Tree
  | node _ operands => operands

def leaf (symbol : Symbol) : Tree := node symbol []

/-- A group that nothing has been put into. -/
def emptyGroup : Tree := leaf .group

def push (tree operand : Tree) : Tree := node tree.symbol (operand :: tree.operands)

/-- The tree `item` with an operand that it takes over inside `parent`. A group
stands beside another group only with an operator between them. -/
def takeOver? (parent : Symbol) (item operand : Tree) : Option Tree :=
  if item.symbol.isLeaf then none
  else if item.symbol.isGroup &&
      (parent.isGroup || !item.operands.isEmpty || operand.symbol.isGroup) then none
  else some (item.push operand)

/-- Puts an item into a tree at its last branch. The outermost tree takes
everything. -/
def insert? (item : Tree) (outermost : Bool) : Tree → Option Tree
  | node symbol operands =>
      if !outermost && !symbol.admits item.symbol then none
      else if symbol.isLeaf then none
      else
        match operands with
        | [] => some (node symbol [item])
        | last :: others =>
            if symbol.arity? != some (others.length + 1) then
              some (node symbol (item :: last :: others))
            else if last.symbol.admits item.symbol then
              (insert? item false last).map fun last => node symbol (last :: others)
            else (takeOver? symbol item last).map fun item => node symbol (item :: others)

/-- The trees that are still open, innermost first. -/
abbrev Stack := List Tree

/-- Puts an open tree into those around it up to the innermost group. -/
def closeSequences? (tree : Tree) : Stack → Option Stack
  | [] => if tree.symbol.isGroup && tree.operands.length ≤ 1 then some [tree] else none
  | outer :: stack =>
      if tree.symbol.isGroup then
        if tree.operands.length ≤ 1 then some (tree :: outer :: stack) else none
      else closeSequences? (outer.push tree) stack

/-- Puts an open tree into those around it that bind tighter than a sequence. -/
def closeTighter? (precedence : Nat) (tree : Tree) : Stack → Option (Tree × Stack)
  | [] => none
  | outer :: stack =>
      if precedence < outer.symbol.precedence then
        closeTighter? precedence (outer.push tree) stack
      else some (tree, outer :: stack)

/-- Puts the separator of a sequence behind the innermost open tree. -/
def separate? (separator : Symbol) (tree : Tree) (stack : Stack) : Option Stack :=
  if (tree.symbol.isTuple && separator.isTuple) || (tree.symbol.isChain && separator.isChain) then
    some (tree.push emptyGroup :: stack)
  else if tree.symbol.isGroup then
    some (node separator [emptyGroup, tree] :: emptyGroup :: stack)
  else if tree.symbol.precedence < separator.precedence then
    match tree.operands with
    | [] => none
    | last :: others =>
        some (node separator [emptyGroup, last] :: node tree.symbol others :: stack)
  else
    (closeTighter? separator.precedence tree stack).map fun (tree, stack) =>
      node separator [tree] :: stack

/-- Puts an item behind what the innermost open tree holds. -/
def append? (item : Tree) : Stack → Option Stack
  | [] => none
  | tree :: stack =>
      if item.symbol.isSequence then separate? item.symbol tree stack
      else if tree.symbol.isSequence then
        match tree.operands with
        | [] => none
        | last :: others =>
            (insert? item true last).map fun last => node tree.symbol (last :: others) :: stack
      else (insert? item true tree).map fun tree => tree :: stack

/-- The symbol of a token. A minus after an operand subtracts, and a name before
an operand calls a function. -/
def symbolOf (afterOperand beforeOperand : Bool) : Token → Symbol
  | .plus => .add
  | .minus => if afterOperand then .sub else .neg
  | .star => .mul
  | .slash => .div
  | .percent => .rem
  | .hat => .pow
  | .equal => .equal
  | .unequal => .unequal
  | .greater => .greater
  | .less => .less
  | .greaterEqual => .greaterEqual
  | .lessEqual => .lessEqual
  | .and => .and
  | .or => .or
  | .not => .not
  | .opening | .closing => .group
  | .comma => .tuple
  | .semicolon => .chain
  | .name text => if beforeOperand then .function text else .binding text
  | .constant value => .constant value

/-- Puts tokens into the open trees. -/
def ofTokensAfter? (afterOperand : Bool) : Stack → List Token → Option Tree
  | [], _ => none
  | tree :: stack, [] =>
      match closeSequences? tree stack with
      | some [tree] => some tree
      | _ => none
  | tree :: stack, token :: tokens =>
      let beforeOperand := (tokens.head?.map Token.beginsOperand).getD false
      let opened : Option Stack :=
        match token with
        | .opening => some (emptyGroup :: tree :: stack)
        | .closing =>
            if stack.isEmpty then none
            else
              match closeSequences? tree stack with
              | some (group :: stack) => append? group stack
              | _ => none
        | token => append? (leaf (symbolOf afterOperand beforeOperand token)) (tree :: stack)
      match opened with
      | some stack => ofTokensAfter? token.endsOperand stack tokens
      | none => none

def ofTokens? (tokens : List Token) : Option Tree := ofTokensAfter? false [emptyGroup] tokens

end Tree

end SheetCompiler.Condition
