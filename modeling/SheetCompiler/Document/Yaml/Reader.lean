import SheetCompiler.Document.Yaml.Token
import SheetCompiler.Encoding

/-!
# Reading YAML

The document of a YAML text. A text holds one document at most, and the document of
a text without any is an empty scalar.

An alias stands for what its anchor names. Tags say nothing, and only a scalar can
be a key.
-/

set_option autoImplicit false

namespace SheetCompiler.Yaml

/-- What is left to read, and what the anchors so far name. -/
structure Source where
  tokens : List Token
  anchors : List (List Char × Document)

namespace Source

def drop (source : Source) : Source := { source with tokens := source.tokens.drop 1 }

def next? (source : Source) : Option Token := source.tokens.head?

/-- Whether one of some tokens comes next. -/
def isAt (source : Source) (tokens : List Token) : Bool :=
  (source.next?.map tokens.contains).getD false

/-- Gives a name to a document. -/
def name (source : Source) (anchor : Option (List Char)) (document : Document) : Source :=
  match anchor with
  | some anchor => { source with anchors := (anchor, document) :: source.anchors }
  | none => source

end Source

/-- The scalar that stands where nothing is written. -/
def nothing : Document := .plain ""

/-- The text of a key. -/
def keyOf? : Document → Option String
  | .plain text => some text
  | .string text => some text
  | _ => none

/-- Anchor and tag in front of a document: the name of the anchor, and whether
either is there. -/
def properties : List Token → Option (List Char) × Bool × List Token
  | .anchor name :: .tag :: tokens => (some name, true, tokens)
  | .tag :: .anchor name :: tokens => (some name, true, tokens)
  | .anchor name :: tokens => (some name, true, tokens)
  | .tag :: tokens => (none, true, tokens)
  | tokens => (none, false, tokens)

/-- Where a document may stand: in brackets, in a block, or in a block mapping, where
the entries of a sequence need no indentation. -/
inductive Site where
  | flow
  | block
  | mapping
  deriving DecidableEq, Repr

mutual

/-- Reads a document. Every level and every entry takes a unit of `fuel`. -/
def node? (fuel : Nat) (site : Site) (source : Source) : Option (Document × Source) :=
  match fuel with
  | 0 => none
  | fuel + 1 =>
      match source.next? with
      | some (.alias name) =>
          (source.anchors.lookup name).map fun document => (document, source.drop)
      | _ =>
          let (anchor, hasProperties, tokens) := properties source.tokens
          let source : Source := { source with tokens }
          let named (result : Option (Document × Source)) : Option (Document × Source) :=
            result.map fun (document, source) => (document, source.name anchor document)
          match source.next? with
          | some (.plain text) => named (some (.plain (String.ofList text), source.drop))
          | some (.quoted text) => named (some (.string (String.ofList text), source.drop))
          | some .flowSequence => named (flowItems? fuel true [] source.drop)
          | some .flowMapping => named (flowMembers? fuel true [] source.drop)
          | some .blockSequence =>
              if site = .flow then none else named (blockItems? fuel [] source.drop)
          | some .blockMapping =>
              if site = .flow then none else named (blockMembers? fuel [] source.drop)
          | some .blockEntry =>
              if site = .mapping then named (plainItems? fuel [] source)
              else if hasProperties then named (some (nothing, source))
              else none
          | _ => if hasProperties then named (some (nothing, source)) else none

/-- Reads a document, unless one of some tokens comes next. -/
def nodeUnless? (fuel : Nat) (site : Site) (stops : List Token) (source : Source) :
    Option (Document × Source) :=
  match fuel with
  | 0 => none
  | fuel + 1 => if source.isAt stops then some (nothing, source) else node? fuel site source

/-- Reads the entries of a block sequence, which are held in reverse. -/
def blockItems? (fuel : Nat) (items : List Document) (source : Source) :
    Option (Document × Source) :=
  match fuel with
  | 0 => none
  | fuel + 1 =>
      match source.next? with
      | some .blockEntry =>
          match nodeUnless? fuel .block [.blockEntry, .blockEnd] source.drop with
          | some (item, source) => blockItems? fuel (item :: items) source
          | none => none
      | some .blockEnd => some (.array items.reverse, source.drop)
      | _ => none

/-- Reads the entries of a sequence that is as deep as the mapping around it. -/
def plainItems? (fuel : Nat) (items : List Document) (source : Source) :
    Option (Document × Source) :=
  match fuel with
  | 0 => none
  | fuel + 1 =>
      if source.isAt [.blockEntry] then
        match nodeUnless? fuel .block [.blockEntry, .key, .value, .blockEnd] source.drop with
        | some (item, source) => plainItems? fuel (item :: items) source
        | none => none
      else some (.array items.reverse, source)

/-- Reads the members of a block mapping. -/
def blockMembers? (fuel : Nat) (members : List (String × Document)) (source : Source) :
    Option (Document × Source) :=
  match fuel with
  | 0 => none
  | fuel + 1 =>
      match source.next? with
      | some .key =>
          let stops : List Token := [.key, .value, .blockEnd]
          match nodeUnless? fuel .mapping stops source.drop with
          | none => none
          | some (key, source) =>
              let value :=
                if source.isAt [.value] then nodeUnless? fuel .mapping stops source.drop
                else some (nothing, source)
              match keyOf? key, value with
              | some key, some (value, source) =>
                  blockMembers? fuel ((key, value) :: members) source
              | _, _ => none
      | some .blockEnd => some (.object members.reverse, source.drop)
      | _ => none

/-- Reads the value behind a key in brackets. -/
def flowValue? (fuel : Nat) (stop : Token) (source : Source) : Option (Document × Source) :=
  match fuel with
  | 0 => none
  | fuel + 1 =>
      if source.isAt [.value] then nodeUnless? fuel .flow [.flowEntry, stop] source.drop
      else some (nothing, source)

/-- Reads the entries of a sequence in brackets. A key in front of an entry makes it
a mapping with one member. -/
def flowItems? (fuel : Nat) (isFirst : Bool) (items : List Document) (source : Source) :
    Option (Document × Source) :=
  match fuel with
  | 0 => none
  | fuel + 1 =>
      if source.isAt [.flowSequenceEnd] then some (.array items.reverse, source.drop)
      else if !isFirst && !source.isAt [.flowEntry] then none
      else
        let source := if isFirst then source else source.drop
        match source.next? with
        | some .flowSequenceEnd => some (.array items.reverse, source.drop)
        | some .key =>
            match node? fuel .flow source.drop with
            | none => none
            | some (key, source) =>
                match keyOf? key, flowValue? fuel .flowSequenceEnd source with
                | some key, some (value, source) =>
                    flowItems? fuel false (.object [(key, value)] :: items) source
                | _, _ => none
        | _ =>
            match node? fuel .flow source with
            | some (item, source) => flowItems? fuel false (item :: items) source
            | none => none

/-- Reads the members of a mapping in brackets. -/
def flowMembers? (fuel : Nat) (isFirst : Bool) (members : List (String × Document))
    (source : Source) : Option (Document × Source) :=
  match fuel with
  | 0 => none
  | fuel + 1 =>
      if source.isAt [.flowMappingEnd] then some (.object members.reverse, source.drop)
      else if !isFirst && !source.isAt [.flowEntry] then none
      else
        let source := if isFirst then source else source.drop
        match source.next? with
        | some .flowMappingEnd => some (.object members.reverse, source.drop)
        | some .key =>
            match nodeUnless? fuel .flow [.value, .flowEntry, .flowMappingEnd] source.drop with
            | none => none
            | some (key, source) =>
                match keyOf? key, flowValue? fuel .flowMappingEnd source with
                | some key, some (value, source) =>
                    flowMembers? fuel false ((key, value) :: members) source
                | _, _ => none
        | _ =>
            match node? fuel .flow source with
            | none => none
            | some (key, source) =>
                match keyOf? key with
                | some key => flowMembers? fuel false ((key, nothing) :: members) source
                | none => none

end

/-- The document of tokens, whose start may be marked. A directive needs the mark. -/
def documentOf? (tokens : List Token) : Option Document :=
  let fuel := 2 * tokens.length + 4
  let read (tokens : List Token) : Option (Document × List Token) :=
    (node? fuel .block ⟨tokens, []⟩).map fun (document, source) => (document, source.tokens)
  let content? (tokens : List Token) : Option (Document × List Token) :=
    match tokens with
    | [] | .documentEnd :: _ | .documentStart :: _ | .directive :: _ => some (nothing, tokens)
    | _ => read tokens
  let document? :=
    match tokens with
    | [] => some (nothing, [])
    | .directive :: .documentStart :: tokens => content? tokens
    | .documentStart :: tokens => content? tokens
    | _ => read tokens
  match document? with
  | some (document, rest) => if rest.all (· == .documentEnd) then some document else none
  | none => none

/-- The document of a text. -/
def read? (text : String) : Option Document := (tokens? text.toList).bind documentOf?

/-- The document of a file. -/
def ofBytes? (bytes : List UInt8) : Option Document :=
  (Encoding.utf8.decode bytes).toOption.bind read?

end SheetCompiler.Yaml
