import Registrar.Yaml.Token
/-!
# The structure of a YAML document

A document is a tree of scalars, sequences and mappings. An alias refers to the node that carries
its anchor, which may be found anywhere before it, so nodes with anchors are listed beside the tree.

A text that breaks a rule still has a structure up to that point. The tree then ends in a cut: the
place where the text stops making sense. Whoever reads the tree in order meets the cut exactly
when everything before it has been read.
-/

set_option autoImplicit false

namespace Registrar.Yaml

structure Scalar where
  text : String
  tag : Option String
  style : Style
deriving DecidableEq, Repr, Inhabited

inductive Node where
  | scalar (scalar : Scalar)
  | sequence (items : List Node)
  | mapping (entries : List (Node × Node))
  | alias (anchor : Nat)
  /-- The text makes no sense from here on. -/
  | cut
deriving Repr, Inhabited

namespace Node

def absent : Node :=
  scalar ⟨"", none, .plain⟩

mutual

def isCut : Node → Bool
  | cut => true
  | sequence items => anyCut items
  | mapping entries => anyEntryCut entries
  | _ => false

def anyCut : List Node → Bool
  | [] => false
  | item :: rest => item.isCut || anyCut rest

def anyEntryCut : List (Node × Node) → Bool
  | [] => false
  | (key, value) :: rest => key.isCut || value.isCut || anyEntryCut rest

end

end Node

structure Document where
  /-- The root, if there is one. -/
  root : Option Node
  /-- The nodes that aliases refer to, by the number of their anchor. -/
  anchors : List (Nat × Node)
  /-- How many steps it takes to walk through the document once. -/
  size : Nat
  /-- The rule that is broken in the document or right after it. -/
  fault : Option Fault
  /-- Whether anything follows the document. -/
  continued : Bool
deriving Repr

structure Builder where
  tokens : List Token
  /-- The rule broken after the last token. -/
  lexicalFault : Option Fault
  fault : Option Fault := none
  /-- The handles that tags may use, with what they stand for. -/
  handles : List (String × String) := []
  /-- The number that each name stands for at present. -/
  names : List (String × Nat) := []
  /-- The place of the node that each number stands for. -/
  places : List (Nat × Nat) := []
  /-- The finished nodes that carry an anchor, by place. -/
  finished : List (Nat × Node) := []
  size : Nat := 0

namespace Builder

abbrev Build := StateM Builder

def breakOff (fault : Fault) : Build Node := do
  modify fun builder => { builder with fault := some (builder.fault.getD fault) }
  return .cut

/-- The next token. If there is none, the text breaks a rule here. -/
def peek : Build (Option Token) := do
  let builder ← get
  match builder.fault, builder.tokens with
  | none, token :: _ => return some token
  | none, [] =>
      set { builder with fault := some (builder.lexicalFault.getD .unexpectedToken) }
      return none
  | some _, _ => return none

def skip : Build Unit :=
  modify fun builder => { builder with tokens := builder.tokens.drop 1 }

def isBroken : Build Bool :=
  return (← get).fault.isSome

def walk (steps : Nat) : Build Unit :=
  modify fun builder => { builder with size := builder.size + steps }

/-- Note that the node at this place carries an anchor. The number of the anchor is the count of
names that are in use; a name used again gets a new number. -/
def noteAnchor (anchor : Option String) : Build (Option Nat) := do
  match anchor with
  | none => return none
  | some name =>
      let builder ← get
      let number := builder.names.length
      let place := builder.size
      set { builder with
        names := (name, number) :: builder.names.filter (·.1 ≠ name)
        places := (number, place) :: builder.places }
      return some place

def finish (place : Option Nat) (node : Node) : Build Node := do
  match place with
  | some place =>
      modify fun builder => { builder with finished := (place, node) :: builder.finished }
  | none => pure ()
  return node

def scalarNode (anchor tag : Option String) (text : String) (style : Style) : Build Node := do
  let place ← noteAnchor anchor
  walk 1
  finish place (.scalar ⟨text, tag, style⟩)

def absentNode : Build Node :=
  scalarNode none none "" .plain

structure Properties where
  anchor : Option String := none
  tag : Option (String × String) := none

/-- Read an anchor and a tag, in either order and each at most once. -/
def readProperties : Build Properties := do
  match ← peek with
  | some (.anchor name) =>
      skip
      match ← peek with
      | some (.tag handle suffix) =>
          skip
          return ⟨some name, some (handle, suffix)⟩
      | _ => return ⟨some name, none⟩
  | some (.tag handle suffix) =>
      skip
      match ← peek with
      | some (.anchor name) =>
          skip
          return ⟨some name, some (handle, suffix)⟩
      | _ => return ⟨none, some (handle, suffix)⟩
  | _ => return {}

def resolveTag (tag : Option (String × String)) : Build (Option String) := do
  match tag with
  | none => return none
  | some ("", suffix) => return some suffix
  | some (handle, suffix) =>
      match (← get).handles.lookup handle with
      | some stem => return some (stem ++ suffix)
      | none =>
          let _ ← breakOff .badTag
          return none

/-- The end of a sequence: nothing, or the cut if the text breaks off. -/
def ending (items : List Node) : Build (List Node) := do
  if ← isBroken then return (items.reverse ++ [.cut]) else return items.reverse

/-- The end of a mapping: nothing, or the cut if the text breaks off. -/
def entriesEnding (entries : List (Node × Node)) : Build (List (Node × Node)) := do
  if ← isBroken then return (entries.reverse ++ [(.cut, .cut)]) else return entries.reverse

def itemsBreak (items : List Node) : Build (List Node) := do
  let _ ← breakOff .unexpectedToken
  ending items

def entriesBreak (entries : List (Node × Node)) : Build (List (Node × Node)) := do
  let _ ← breakOff .unexpectedToken
  entriesEnding entries

/-- Whether the token is one of several that show that a node is absent. -/
def isOneOf (token : Option Token) (tokens : List Token) : Bool :=
  match token with
  | some token => tokens.contains token
  | none => false

/-- A node that consists of its properties; without any it is missing. -/
def readBare (properties : Properties) (tag : Option String) : Build Node :=
  if properties.anchor.isSome || properties.tag.isSome then
    scalarNode properties.anchor tag "" .plain
  else breakOff .unexpectedToken

mutual

/-- Read a node. Blocks are allowed if `block` holds, and a sequence without indentation of its own
if `indentless` does. The fuel bounds the number of steps. -/
def readNode : Nat → Bool → Bool → Build Node
  | 0, _, _ => breakOff .unexpectedToken
  | fuel + 1, block, indentless => do
      match ← peek with
      | some (.alias name) =>
          skip
          match (← get).names.lookup name with
          | none => breakOff .unknownAnchor
          | some number =>
              walk 1
              return .alias number
      | _ =>
          let properties ← readProperties
          let tag ← resolveTag properties.tag
          match ← peek with
          | none => return .cut
          | some token => readContent fuel block indentless properties tag token

def readContent : Nat → Bool → Bool → Properties → Option String → Token → Build Node
  | 0, _, _, _, _, _ => breakOff .unexpectedToken
  | fuel + 1, block, indentless, properties, tag, token => do
      let collection (items : Build Node) : Build Node := do
        let place ← noteAnchor properties.anchor
        walk 1
        let node ← items
        if !(← isBroken) then walk 1
        finish place node
      match token with
      | .blockEntry =>
          if indentless then
            collection do return .sequence (← readIndentlessItems fuel [])
          else readBare properties tag
      | .scalar text style =>
          skip
          scalarNode properties.anchor (if tag = some "!" then none else tag) text style
      | .flowSequenceStart =>
          collection do
            skip
            return .sequence (← readFlowItems fuel [])
      | .flowMappingStart =>
          collection do
            skip
            return .mapping (← readFlowEntries fuel [])
      | .blockSequenceStart =>
          if block then
            collection do
              skip
              return .sequence (← readBlockItems fuel [])
          else readBare properties tag
      | .blockMappingStart =>
          if block then
            collection do
              skip
              return .mapping (← readBlockEntries fuel [])
          else readBare properties tag
      | _ => readBare properties tag

def readBlockItems : Nat → List Node → Build (List Node)
  | 0, items => itemsBreak items
  | fuel + 1, items => do
      match ← peek with
      | none => ending items
      | some .blockEntry =>
          skip
          match ← peek with
          | none => ending items
          | next =>
              let item ← if isOneOf next [.blockEntry, .blockEnd] then absentNode
                else readNode fuel true false
              if ← isBroken then return (item :: items).reverse
              readBlockItems fuel (item :: items)
      | some .blockEnd =>
          skip
          return items.reverse
      | some _ => itemsBreak items

/-- Read the items of a sequence without indentation after those already read. -/
def readIndentlessItems : Nat → List Node → Build (List Node)
  | 0, items => itemsBreak items
  | fuel + 1, items => do
      match ← peek with
      | none => ending items
      | some .blockEntry =>
          skip
          match ← peek with
          | none => ending items
          | next =>
              let item ← if isOneOf next [.blockEntry, .key, .value, .blockEnd] then absentNode
                else readNode fuel true false
              if ← isBroken then return (item :: items).reverse
              readIndentlessItems fuel (item :: items)
      | some _ => return items.reverse

def readBlockEntries : Nat → List (Node × Node) → Build (List (Node × Node))
  | 0, entries => entriesBreak entries
  | fuel + 1, entries => do
      let absence : List Token := [.key, .value, .blockEnd]
      match ← peek with
      | none => entriesEnding entries
      | some .key =>
          skip
          match ← peek with
          | none => entriesEnding entries
          | next =>
              let key ← if isOneOf next absence then absentNode else readNode fuel true true
              if ← isBroken then return ((key, .cut) :: entries).reverse
              match ← peek with
              | none => return ((key, .cut) :: entries).reverse
              | some .value =>
                  skip
                  match ← peek with
                  | none => return ((key, .cut) :: entries).reverse
                  | next =>
                      let value ← if isOneOf next absence then absentNode
                        else readNode fuel true true
                      if ← isBroken then return ((key, value) :: entries).reverse
                      readBlockEntries fuel ((key, value) :: entries)
              | some _ =>
                  let value ← absentNode
                  readBlockEntries fuel ((key, value) :: entries)
      | some .blockEnd =>
          skip
          return entries.reverse
      | some _ => entriesBreak entries

/-- Read the items of a sequence in brackets after those already read. -/
def readFlowItems : Nat → List Node → Build (List Node)
  | 0, items => itemsBreak items
  | fuel + 1, items => do
      match ← peek with
      | none => ending items
      | some .flowSequenceEnd =>
          skip
          return items.reverse
      | some token =>
          if !items.isEmpty && token ≠ .flowEntry then itemsBreak items
          else
            if !items.isEmpty then skip
            match ← peek with
            | none => ending items
            | some .flowSequenceEnd =>
                skip
                return items.reverse
            | some .key =>
                walk 1
                skip
                let item ← readFlowPair fuel
                if ← isBroken then return (item :: items).reverse
                walk 1
                readFlowItems fuel (item :: items)
            | some _ =>
                let item ← readNode fuel false false
                if ← isBroken then return (item :: items).reverse
                readFlowItems fuel (item :: items)

/-- Read a mapping of one entry that stands as an item in brackets, after the mark of its key. -/
def readFlowPair : Nat → Build Node
  | 0 => breakOff .unexpectedToken
  | fuel + 1 => do
      match ← peek with
      | none => return .mapping [(.cut, .cut)]
      | next =>
          let key ← if isOneOf next [.value, .flowEntry, .flowSequenceEnd] then
              skip
              absentNode
            else readNode fuel false false
          if ← isBroken then return .mapping [(key, .cut)]
          match ← peek with
          | none => return .mapping [(key, .cut)]
          | some .value =>
              skip
              match ← peek with
              | none => return .mapping [(key, .cut)]
              | next =>
                  let value ← if isOneOf next [.flowEntry, .flowSequenceEnd] then absentNode
                    else readNode fuel false false
                  return .mapping [(key, value)]
          | some _ => return .mapping [(key, ← absentNode)]

/-- Read the entries of a mapping in braces after those already read. -/
def readFlowEntries : Nat → List (Node × Node) → Build (List (Node × Node))
  | 0, entries => entriesBreak entries
  | fuel + 1, entries => do
      match ← peek with
      | none => entriesEnding entries
      | some .flowMappingEnd =>
          skip
          return entries.reverse
      | some token =>
          if !entries.isEmpty && token ≠ .flowEntry then entriesBreak entries
          else
            if !entries.isEmpty then skip
            match ← peek with
            | none => entriesEnding entries
            | some .flowMappingEnd =>
                skip
                return entries.reverse
            | some .key =>
                skip
                match ← peek with
                | none => entriesEnding entries
                | next =>
                    let key ← if isOneOf next [.value, .flowEntry, .flowMappingEnd] then absentNode
                      else readNode fuel false false
                    if ← isBroken then return ((key, .cut) :: entries).reverse
                    match ← peek with
                    | none => return ((key, .cut) :: entries).reverse
                    | some .value =>
                        skip
                        match ← peek with
                        | none => return ((key, .cut) :: entries).reverse
                        | next =>
                            let value ← if isOneOf next [.flowEntry, .flowMappingEnd] then absentNode
                              else readNode fuel false false
                            if ← isBroken then return ((key, value) :: entries).reverse
                            readFlowEntries fuel ((key, value) :: entries)
                    | some _ =>
                        let value ← absentNode
                        readFlowEntries fuel ((key, value) :: entries)
            | some _ =>
                let key ← readNode fuel false false
                if ← isBroken then return ((key, .cut) :: entries).reverse
                match ← peek with
                | none => return ((key, .cut) :: entries).reverse
                | some _ =>
                    let value ← absentNode
                    readFlowEntries fuel ((key, value) :: entries)

end

def commonHandles : List (String × String) :=
  [("!", "!"), ("!!", "tag:yaml.org,2002:")]

/-- Read the directives before a document. Only one version may be named, and it must be 1.1 or
1.2; a handle may be declared once. The fuel bounds their number. -/
def readDirectives : Nat → Bool → List (String × String) → Build Unit
  | 0, _, _ => return
  | fuel + 1, versioned, handles => do
      match ← peek with
      | some (.versionDirective major minor) =>
          if versioned || major ≠ 1 || (minor ≠ 1 && minor ≠ 2) then
            let _ ← breakOff .badDirective
          else
            skip
            readDirectives fuel true handles
      | some (.tagDirective handle stem) =>
          if (handles.lookup handle).isSome then
            let _ ← breakOff .badDirective
          else
            skip
            readDirectives fuel versioned (handles ++ [(handle, stem)])
      | _ => modify fun builder => { builder with handles := handles ++ commonHandles }

def readMarkedRoot (fuel : Nat) : Build Node := do
  match ← peek with
  | none => return .cut
  | some .documentStart =>
      skip
      match ← peek with
      | none => return .cut
      | some token =>
          match token with
          | .versionDirective _ _ => absentNode
          | .tagDirective _ _ => absentNode
          | .documentStart => absentNode
          | .documentEnd => absentNode
          | .streamEnd => absentNode
          | _ => readNode fuel true false
  | some _ => breakOff .unexpectedToken

def readRoot (fuel : Nat) : Build (Option Node) := do
  skip
  match ← peek with
  | none => return some .cut
  | some .streamEnd => return none
  | some token =>
      let marked :=
        match token with
        | .versionDirective _ _ => true
        | .tagDirective _ _ => true
        | .documentStart => true
        | _ => false
      readDirectives fuel false []
      if marked then return some (← readMarkedRoot fuel) else return some (← readNode fuel true false)

/-- Read the end of the document, and say whether anything follows it. -/
def readEnd : Build Bool := do
  match ← peek with
  | none => return true
  | some _ =>
      let builder ← get
      let rest := builder.tokens.dropWhile fun token => token = .documentEnd
      return rest ≠ [.streamEnd]

end Builder

def Document.ofText (text : String) : Document :=
  let stream := TokenStream.ofText text
  let builder : Builder := { tokens := stream.tokens, lexicalFault := stream.fault }
  let ((root, continued), builder) := (do
    let root ← Builder.readRoot (4 * stream.tokens.length + 8)
    match root with
    | none => return (none, false)
    | some root =>
        if ← Builder.isBroken then return (some root, true)
        else return (some root, ← Builder.readEnd) : Builder.Build (Option Node × Bool)).run builder
  { root := root
    anchors := builder.places.filterMap fun (number, place) =>
      (builder.finished.lookup place).map (number, ·)
    size := builder.size
    fault := builder.fault
    continued := continued }

end Registrar.Yaml
