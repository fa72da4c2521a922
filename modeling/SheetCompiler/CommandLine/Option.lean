import SheetCompiler.Text.Basic

/-!
# Options

Reading the arguments of a command: options with values, and flags. Nothing else is
taken. The occurrence of an option ends where the next one begins or where it can
take no more values, and only then is it looked at.
-/

set_option autoImplicit false

namespace SheetCompiler.CommandLine

/-- The values that an occurrence of an option takes. -/
inductive Arity where
  | none
  | one
  | many
  deriving DecidableEq, Repr

/-- An option by its long and short name. -/
structure OptionSpec where
  long : String
  short : Option Char
  arity : Arity
  /-- Whether it may occur again. -/
  repeats : Bool
  /-- Whether its values may be empty. -/
  takesEmpty : Bool
  deriving DecidableEq, Repr

/-- Why the arguments are not taken: an option asks for something else, or they are
misused. -/
inductive Interruption where
  | help
  | version
  | misuse
  deriving DecidableEq, Repr

/-- An occurrence of an option with its values. -/
structure Occurrence where
  option : OptionSpec
  values : List String
  deriving DecidableEq, Repr

/-- The options of a command, and those that interrupt it. -/
structure Grammar where
  options : List OptionSpec
  hasVersion : Bool
  deriving DecidableEq, Repr

namespace Grammar

/-- Whether a long or short name asks for help. -/
def isHelp (name : String ⊕ Char) : Bool := name == .inl "help" || name == .inr 'h'

def isVersion (grammar : Grammar) (name : String ⊕ Char) : Bool :=
  grammar.hasVersion && (name == .inl "version" || name == .inr 'V')

/-- The option of a long or short name. -/
def option? (grammar : Grammar) (name : String ⊕ Char) : Option OptionSpec :=
  grammar.options.find? fun option =>
    match name with
    | .inl text => option.long == text
    | .inr c => option.short == some c

end Grammar

/-- Arguments that are being read: the occurrences so far, in reverse, and an option
that may take more values. -/
structure Reading where
  done : List Occurrence
  pending : Option Occurrence
  deriving DecidableEq, Repr

namespace Reading

def start : Reading := ⟨[], none⟩

/-- Whether an occurrence has the values that it needs, none of them empty where that
is not taken, and does not repeat what occurs once. -/
def isProper (reading : Reading) (occurrence : Occurrence) : Bool :=
  let option := occurrence.option
  (option.arity = .none || !occurrence.values.isEmpty) &&
    (option.takesEmpty || occurrence.values.all fun value => !value.isEmpty) &&
    (option.repeats || reading.done.all fun former => former.option != option)

def add (reading : Reading) (occurrence : Occurrence) : Except Interruption Reading :=
  if reading.isProper occurrence then .ok ⟨occurrence :: reading.done, none⟩ else .error .misuse

/-- Ends the option that may take more values. -/
def settle (reading : Reading) : Except Interruption Reading :=
  match reading.pending with
  | some occurrence => ({ reading with pending := none } : Reading).add occurrence
  | none => .ok reading

/-- An option with the value that is written with it, if any. -/
def addOption (grammar : Grammar) (reading : Reading) (name : String ⊕ Char)
    (value : Option String) : Except Interruption Reading :=
  match grammar.option? name with
  | some option =>
      match option.arity, value with
      | .none, some _ => .error .misuse
      | .none, none => do (← reading.settle).add ⟨option, []⟩
      | _, some value => do (← reading.settle).add ⟨option, [value]⟩
      | _, none => return { (← reading.settle) with pending := some ⟨option, []⟩ }
  | none =>
      if value.isSome then .error .misuse
      else if Grammar.isHelp name then do
        let _ ← reading.settle
        .error .help
      else if grammar.isVersion name then do
        let _ ← reading.settle
        .error .version
      else .error .misuse

/-- Short options in one argument. The rest of the argument is the value of one that
takes a value. -/
def addShort (grammar : Grammar) (reading : Reading) : List Char → Except Interruption Reading
  | [] => .ok reading
  | c :: cs =>
      let takesValue :=
        ((grammar.option? (.inr c)).map fun option => option.arity != .none).getD false
      if takesValue then
        let value :=
          match cs with
          | [] => none
          | '=' :: value => some (String.ofList value)
          | value => some (String.ofList value)
        reading.addOption grammar (.inr c) value
      else do (← reading.addOption grammar (.inr c) none).addShort grammar cs

/-- An argument that begins with no sign: a value of the option that waits for one. -/
def addValue (reading : Reading) (value : String) : Except Interruption Reading :=
  match reading.pending with
  | some ⟨option, values⟩ =>
      let occurrence : Occurrence := ⟨option, values ++ [value]⟩
      if option.arity = .many then .ok { reading with pending := some occurrence }
      else ({ reading with pending := none } : Reading).add occurrence
  | none => .error .misuse

def addArgument (grammar : Grammar) (reading : Reading) (argument : String) :
    Except Interruption Reading :=
  match argument.toList with
  | '-' :: '-' :: cs =>
      match Text.cut? (fun c => c == '=') cs with
      | some (name, value) =>
          reading.addOption grammar (.inl (String.ofList name)) (some (String.ofList value))
      | none => reading.addOption grammar (.inl (String.ofList cs)) none
  | '-' :: c :: cs => reading.addShort grammar (c :: cs)
  | _ => reading.addValue argument

end Reading

/-- The occurrences of options in arguments. Nothing may follow two dashes on their
own. -/
def occurrences (grammar : Grammar) (reading : Reading) :
    List String → Except Interruption (List Occurrence)
  | [] => return (← reading.settle).done.reverse
  | "--" :: arguments =>
      if arguments.isEmpty then return (← reading.settle).done.reverse else .error .misuse
  | argument :: arguments => do
      occurrences grammar (← reading.addArgument grammar argument) arguments

/-- The values of an option in all its occurrences. -/
def valuesOf (found : List Occurrence) (long : String) : List String :=
  (found.filter fun occurrence => occurrence.option.long == long).flatMap (·.values)

def hasOption (found : List Occurrence) (long : String) : Bool :=
  found.any fun occurrence => occurrence.option.long == long

end SheetCompiler.CommandLine
