import Registrar.Log.Entry
/-!
# Log filters

A filter is a list of directives, told apart by commas. A directive is a level for everything, or
for the parts of the program whose names start with a given text; of several the longest name
decides. A directive for a span says nothing about entries outside of spans. A text with a directive
that is not well formed is no filter at all.
-/

set_option autoImplicit false

namespace Registrar.Log

structure Directive where
  /-- What the names of the parts start with; everything if there is none. -/
  target : Option String
  /-- Entries of this rank or less are let through. -/
  rank : Nat
  /-- Whether the rule is about spans. -/
  aboutSpans : Bool := false
deriving DecidableEq, Repr, Inhabited

abbrev Filter :=
  List Directive

def rankNamed? (text : String) : Option Nat :=
  [("off", 0), ("error", 1), ("warn", 2), ("info", 3), ("debug", 4), ("trace", 5), ("0", 0),
    ("1", 1), ("2", 2), ("3", 3), ("4", 4), ("5", 5)].lookup
      (String.ofList (text.toList.map Char.toLower))

namespace Directive

def isNameChar (c : Char) : Bool :=
  c.isAlphanum || c = '_' || c = ':' || c = '-' || 0x80 ≤ c.toNat

/-- Take a name or a span off the front of a text, and note it in a directive. -/
def takePart (directive : Directive) (text : List Char) : Option (Directive × List Char) :=
  match text with
  | '[' :: rest =>
      match rest.dropWhile (· ≠ ']') with
      | [] => none
      | _ :: after =>
          let content := rest.takeWhile (· ≠ ']')
          some ({ directive with aboutSpans := directive.aboutSpans || !content.isEmpty }, after)
  | _ =>
      let name := String.ofList (text.takeWhile isNameChar)
      if name = "" then none
      else
        some ({ directive with target := if (rankNamed? name).isSome then none else some name },
          text.dropWhile isNameChar)

/-- Read what follows the names: nothing, or a level after an equals sign. -/
def takeRank (directive : Directive) (text : List Char) : Option Directive :=
  match text with
  | [] => some directive
  | ['='] => some directive
  | '=' :: level =>
      (rankNamed? (String.ofList level)).map fun rank => { directive with rank := rank }
  | _ => none

/-- Read a directive. Without a level it lets everything through. -/
def parse? (text : String) : Option Directive :=
  match rankNamed? text with
  | some rank => some { target := none, rank := rank }
  | none => do
      let (directive, rest) ← takePart { target := none, rank := 5 } text.toList
      let (directive, rest) := (takePart directive rest).getD (directive, rest)
      directive.takeRank rest

def concerns (directive : Directive) (target : String) : Bool :=
  !directive.aboutSpans && directive.target.all fun start => target.startsWith start

def specificity (directive : Directive) : Nat :=
  directive.target.elim 0 fun start => start.length + 1

end Directive

namespace Filter

def ordinary : Filter :=
  [{ target := none, rank := 3 }]

/-- Read a filter. Without any directive only errors pass. -/
def parse? (text : String) : Option Filter := do
  let directives ← ((text.splitOn ",").filter (· ≠ "")).mapM Directive.parse?
  return if directives.isEmpty then [{ target := none, rank := 1 }] else directives

/-- The rule for a part of the program: the most specific one, and of equals the last. -/
def rule? (filter : Filter) (target : String) : Option Directive :=
  (filter.filter fun directive => directive.concerns target).foldl (fun best directive =>
    match best with
    | none => some directive
    | some held => if held.specificity ≤ directive.specificity then some directive else some held)
    none

def passes (filter : Filter) (entry : Entry) : Bool :=
  (filter.rule? entry.target).any fun directive => entry.level.rank ≤ directive.rank

end Filter

end Registrar.Log
