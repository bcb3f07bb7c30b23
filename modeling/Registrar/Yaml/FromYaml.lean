import Registrar.Decode.Format
import Registrar.Text.Dictionary
import Registrar.Yaml.Plain
/-!
# Reading records from YAML

A document is read in its order, and a mismatch is reported with the path to it. Every scalar can
be a text. A place left empty counts as an empty sequence, mapping or record. Records are never
read from sequences, and their keys may not repeat.

Aliases are followed where a value is needed; there is a limit on how often.
-/

set_option autoImplicit false

namespace Registrar.Yaml

/-- Where a value stands in its document, and what is needed to read it. -/
structure Scope where
  anchors : List (Nat × Node)
  aliasLimit : Nat
  fault : Fault
  path : String := ""

/-- Reading a value; the state counts the aliases followed so far. -/
abbrev Reading :=
  ReaderT Scope (StateT Nat (Except Problem))

namespace Reading

def misfit {α : Type} (cause : Mismatch) : Reading α := do
  throw (.mismatch (← read).path cause)

def atKey {α : Type} (key : Option String) (reading : Reading α) : Reading α :=
  withReader (fun scope =>
    let name := key.getD "?"
    { scope with path := if scope.path = "" then name else scope.path ++ "." ++ name }) reading

def atIndex {α : Type} (index : Nat) (reading : Reading α) : Reading α :=
  withReader (fun scope =>
    { scope with path := scope.path ++ "[" ++ toString index ++ "]" }) reading

/-- The node that is meant, behind an alias if it is one. A cut is where the text breaks off. -/
def resolve (node : Node) : Reading Node := do
  match node with
  | .alias number =>
      let scope ← read
      let followed ← getModify (· + 1)
      if scope.aliasLimit < followed + 1 then throw .tooManyAliases
      return (scope.anchors.lookup number).getD .cut
  | .cut => throw (.malformed (← read).fault)
  | node => return node

def wrong {α : Type} (node : Node) (expected : String) : Reading α := do
  match node with
  | .scalar scalar => misfit (scalar.mismatch expected)
  | .sequence _ => misfit (.wrongType .sequence expected)
  | .mapping _ => misfit (.wrongType .map expected)
  | .alias _ => misfit (.wrongType .unit expected)
  | .cut => throw (.malformed (← read).fault)

/-- Read a text, called `title` if there is none. -/
def textNamed (title : String) (node : Node) : Reading String := do
  match ← resolve node with
  | .scalar scalar => return scalar.text
  | other => wrong other title

def text (node : Node) : Reading String :=
  textNamed "a string" node

def bool (node : Node) : Reading Bool := do
  match ← resolve node with
  | .scalar scalar =>
      match (if scalar.mayBe boolTag then boolNamed? scalar.text else none) with
      | some value => return value
      | none => wrong (.scalar scalar) "a boolean"
  | other => wrong other "a boolean"

/-- Read an integer of 32 bits. One of 64 bits is recognized but out of range. -/
def int32 (node : Node) : Reading Int32 := do
  match ← resolve node with
  | .scalar scalar =>
      match (if scalar.mayBe intTag then integerOf? scalar.text.toList else none) with
      | some value =>
          if Int32.minValue.toInt ≤ value ∧ value ≤ Int32.maxValue.toInt then
            return Int32.ofInt value
          else if Int64.minValue.toInt ≤ value ∧ value ≤ Int64.maxValue.toInt then
            misfit (.wrongValue (.integer value) "i32")
          else wrong (.scalar scalar) "i32"
      | none => wrong (.scalar scalar) "i32"
  | other => wrong other "i32"

def optional {α : Type} (inner : Node → Reading α) (node : Node) : Reading (Option α) := do
  match ← resolve node with
  | .scalar scalar =>
      if scalar.style ≠ .plain then return some (← inner (.scalar scalar))
      else
        match scalar.tag with
        | none =>
            if scalar.text = "" || isNullName scalar.text then return none
            else return some (← inner (.scalar scalar))
        | some tag =>
            if tag ≠ nullTag then return some (← inner (.scalar scalar))
            else if isNullName scalar.text then return none
            else misfit (.wrongValue (.string scalar.text) "null")
  | other => return some (← inner other)

def isEmptyPlace : Node → Bool
  | .scalar scalar => scalar.text = "" && scalar.style = .plain
  | _ => false

/-- Read the items of a sequence, the first of which has the given index. -/
def items {α : Type} (inner : Node → Reading α) : Nat → List Node → Reading (List α)
  | _, [] => return []
  | index, item :: rest => do
      if let .cut := item then throw (.malformed (← read).fault)
      let value ← atIndex index (inner item)
      return value :: (← items inner (index + 1) rest)

def list {α : Type} (inner : Node → Reading α) (node : Node) : Reading (List α) := do
  match ← resolve node with
  | .sequence nodes => items inner 0 nodes
  | other => if isEmptyPlace other then return [] else wrong other "a sequence"

/-- The name of a key in paths: only scalars have one. -/
def keyName : Node → Option String
  | .scalar scalar => some scalar.text
  | _ => none

def ignore (node : Node) : Reading Unit := do
  if node.isCut then throw (.malformed (← read).fault)

/-- Read the entries of a mapping of texts; a key that repeats replaces the earlier one. -/
def textEntries : Dictionary → List (Node × Node) → Reading Dictionary
  | dictionary, [] => return dictionary
  | dictionary, (key, value) :: rest => do
      let name ← text key
      let content ← atKey (keyName key) (text value)
      textEntries (dictionary.insert name content) rest

def dictionary (node : Node) : Reading Dictionary := do
  match ← resolve node with
  | .mapping entries => textEntries [] entries
  | other => if isEmptyPlace other then return [] else wrong other "a map"

def fields {δ : Type} (outline : Outline) (field : String → Node → δ → Reading δ) :
    List String → δ → List (Node × Node) → Reading δ
  | _, draft, [] => return draft
  | seen, draft, (key, value) :: rest => do
      let name ← textNamed "field identifier" key
      if outline.fields.contains name then
        if seen.contains name then misfit (.duplicateField name)
        else
          let draft ← atKey (keyName key) (field name value draft)
          fields outline field (name :: seen) draft rest
      else
        ignore value
        fields outline field seen draft rest

def finished {δ α : Type} (finish : δ → Decoded α) (draft : δ) : Reading α :=
  match finish draft with
  | .ok value => return value
  | .error cause => misfit cause

def record {δ α : Type} (outline : Outline) (blank : δ) (field : String → Node → δ → Reading δ)
    (finish : δ → Decoded α) (node : Node) : Reading α := do
  match ← resolve node with
  | .mapping entries => finished finish (← fields outline field [] blank entries)
  | other => if isEmptyPlace other then finished finish blank else wrong other outline.title

end Reading

instance : Format Node Reading where
  string := Reading.text
  bool := Reading.bool
  int32 := Reading.int32
  optional := Reading.optional
  list := Reading.list
  record := Reading.record

/-- Read the only document of a text. An empty text is read like an empty place. -/
def readDocument {α : Type} (read : Node → Reading α) (text : String) : Except Problem α := do
  let document := Document.ofText text
  let scope : Scope := {
    anchors := document.anchors
    aliasLimit := 100 * document.size
    fault := document.fault.getD .unexpectedToken }
  let (value, _) ← (read (document.root.getD .absent)).run scope |>.run 0
  match document.fault with
  | some fault => throw (.malformed fault)
  | none => if document.continued then throw .severalDocuments else return value

end Registrar.Yaml
