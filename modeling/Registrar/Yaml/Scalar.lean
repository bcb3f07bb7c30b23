import Registrar.Yaml.Cursor
/-!
# Scalars in a YAML text

A scalar is written plain, in one of two kinds of quotes, or as a block of lines. Line breaks
within a scalar are folded: a single break becomes a space, and of several breaks in a row the
first is dropped. A literal block keeps its breaks.
-/

set_option autoImplicit false

namespace Registrar.Yaml

inductive Style where
  | plain
  | singleQuoted
  | doubleQuoted
  | literal
  | folded
deriving DecidableEq, Repr, Inhabited

/-- A scalar while it is read: the text so far and the space since its last character, both in
reverse. The breaks are in order. -/
structure Gathered where
  text : List Char := []
  blanks : List Char := []
  firstBreak : List Char := []
  moreBreaks : List Char := []
  broken : Bool := false

namespace Gathered

def foldedBreaks (gathered : Gathered) : List Char :=
  if gathered.firstBreak = ['\n'] then
    if gathered.moreBreaks.isEmpty then [' '] else gathered.moreBreaks
  else gathered.firstBreak ++ gathered.moreBreaks

def settle (gathered : Gathered) : Gathered :=
  let space := if gathered.broken then gathered.foldedBreaks.reverse else gathered.blanks
  { text := space ++ gathered.text }

def push (gathered : Gathered) (c : Char) : Gathered :=
  { gathered with text := c :: gathered.text }

/-- Add a blank to the space; after a break it is indentation and counts for nothing. -/
def pushBlank (gathered : Gathered) (c : Char) : Gathered :=
  if gathered.broken then gathered else { gathered with blanks := c :: gathered.blanks }

def pushBreak (gathered : Gathered) (written : List Char) : Gathered :=
  if gathered.broken then { gathered with moreBreaks := gathered.moreBreaks ++ written }
  else { gathered with blanks := [], firstBreak := written, broken := true }

end Gathered

/-- Read blanks and breaks between the words of a scalar. Where `indent` is given, no tab may stand
in its place at the start of a line. -/
def readSpace (indent : Option Int) :
    Nat → Gathered → Cursor → Except Fault (Gathered × Cursor)
  | 0, gathered, cursor => .ok (gathered, cursor)
  | fuel + 1, gathered, cursor =>
      match cursor.head? with
      | none => .ok (gathered, cursor)
      | some c =>
          if isBlank c then
            let misplaced := indent.any fun indent => (cursor.column : Int) < indent
            if gathered.broken && c = '\t' && misplaced then .error .tabAsIndentation
            else readSpace indent fuel (gathered.pushBlank c) cursor.skip
          else if isBreak c then
            let (written, next) := cursor.takeBreak
            readSpace indent fuel (gathered.pushBreak written) next
          else .ok (gathered, cursor)

def isFlowIndicator (c : Char) : Bool :=
  c = ',' || c = '[' || c = ']' || c = '\x7b' || c = '\x7d'

/-- Read the characters of a plain scalar up to a blank, a break or an indicator. -/
def readPlainWord (flow : Bool) : Nat → Gathered → Cursor → Except Fault (Gathered × Cursor)
  | 0, gathered, cursor => .ok (gathered, cursor)
  | fuel + 1, gathered, cursor =>
      match cursor.head? with
      | none => .ok (gathered, cursor)
      | some c =>
          if isBlank c || isBreak c then .ok (gathered, cursor)
          else if flow && c = ':' && (cursor.ahead? 1).any (fun n => isFlowIndicator n || n = '?')
          then .error .unexpectedCharacter
          else if (c = ':' && cursor.endsWordAt 1) || (flow && isFlowIndicator c) then
            .ok (gathered, cursor)
          else readPlainWord flow fuel (gathered.settle.push c) cursor.skip

def readPlainWords (flow : Bool) (indent : Int) :
    Nat → Gathered → Cursor → Except Fault (Gathered × Cursor)
  | 0, gathered, cursor => .ok (gathered, cursor)
  | fuel + 1, gathered, cursor =>
      if cursor.atDocumentMark || cursor.at? '#' then .ok (gathered, cursor)
      else do
        let (gathered, cursor) ← readPlainWord flow (fuel + 1) gathered cursor
        if !cursor.has (fun c => isBlank c || isBreak c) then .ok (gathered, cursor)
        else
          let (gathered, cursor) ← readSpace (some indent) (fuel + 1) gathered cursor
          if !flow && (cursor.column : Int) < indent then .ok (gathered, cursor)
          else readPlainWords flow indent fuel gathered cursor

structure ScalarRead where
  text : String
  style : Style
  /-- Whether the scalar was followed by a break before the next token. -/
  brokenAfter : Bool
  next : Cursor

def readPlain (flow : Bool) (blockIndent : Int) (cursor : Cursor) : Except Fault ScalarRead := do
  let (gathered, next) ←
    readPlainWords flow (blockIndent + 1) (cursor.rest.length + 1) {} cursor
  return ⟨String.ofList gathered.text.reverse, .plain, gathered.broken, next⟩

def simpleEscapes : List (Char × Char) :=
  [('0', '\x00'), ('a', '\x07'), ('b', '\x08'), ('t', '\t'), ('\t', '\t'), ('n', '\n'),
    ('v', '\x0b'), ('f', '\x0c'), ('r', '\r'), ('e', '\x1b'), (' ', ' '), ('"', '"'), ('/', '/'),
    ('\\', '\\'), ('N', '\u0085'), ('_', '\u00a0'), ('L', '\u2028'), ('P', '\u2029')]

def hexValue? (c : Char) : Option Nat :=
  if c.isDigit then some (c.toNat - '0'.toNat)
  else if 'a' ≤ c && c ≤ 'f' then some (c.toNat - 'a'.toNat + 10)
  else if 'A' ≤ c && c ≤ 'F' then some (c.toNat - 'A'.toNat + 10)
  else none

def hexValues? (digits : List Char) : Option Nat :=
  digits.foldlM (fun value digit => (hexValue? digit).map (16 * value + ·)) 0

def escapeWidth? (c : Char) : Option Nat :=
  if c = 'x' then some 2 else if c = 'u' then some 4 else if c = 'U' then some 8 else none

def readEscape (cursor : Cursor) : Except Fault (Char × Cursor) :=
  match cursor.head? with
  | none => .error .badEscape
  | some c =>
      match simpleEscapes.lookup c, escapeWidth? c with
      | some value, _ => .ok (value, cursor.skip)
      | none, none => .error .badEscape
      | none, some width =>
          let digits := (cursor.rest.drop 1).take width
          match hexValues? digits with
          | none => .error .badEscape
          | some value =>
              if digits.length < width || (0xD800 ≤ value && value ≤ 0xDFFF) || 0x10FFFF < value
              then .error .badEscape
              else .ok (Char.ofNat value, cursor.skipMany (width + 1))

/-- Read the characters of a quoted scalar up to a blank, a break or the closing quote. -/
def readQuotedWord (single : Bool) : Nat → Gathered → Cursor → Except Fault (Gathered × Cursor)
  | 0, gathered, cursor => .ok (gathered, cursor)
  | fuel + 1, gathered, cursor =>
      match cursor.head? with
      | none => .ok (gathered, cursor)
      | some c =>
          if isBlank c || isBreak c then .ok (gathered, cursor)
          else if single && c = '\'' && cursor.ahead? 1 = some '\'' then
            readQuotedWord single fuel (gathered.push '\'') (cursor.skipMany 2)
          else if c = (if single then '\'' else '"') then .ok (gathered, cursor)
          else if !single && c = '\\' then
            if (cursor.ahead? 1).any isBreak then
              -- An escaped break joins the lines without a space.
              .ok ({ gathered with broken := true }, cursor.skip.skipBreak)
            else do
              let (value, next) ← readEscape cursor.skip
              readQuotedWord single fuel (gathered.push value) next
          else readQuotedWord single fuel (gathered.push c) cursor.skip

def readQuotedWords (single : Bool) :
    Nat → Gathered → Cursor → Except Fault (Gathered × Cursor)
  | 0, _, _ => .error .unfinishedQuote
  | fuel + 1, gathered, cursor =>
      if cursor.atDocumentMark then .error .unfinishedQuote
      else if cursor.head?.isNone then .error .unfinishedQuote
      else do
        let (gathered, cursor) ← readQuotedWord single (cursor.rest.length + 1) gathered cursor
        if cursor.at? (if single then '\'' else '"') then
          .ok (gathered, cursor.skip)
        else
          let (gathered, cursor) ← readSpace none (cursor.rest.length + 1) gathered cursor
          readQuotedWords single fuel gathered.settle cursor

def readQuoted (single : Bool) (cursor : Cursor) : Except Fault ScalarRead := do
  let (gathered, next) ← readQuotedWords single (cursor.rest.length + 1) {} cursor.skip
  return ⟨String.ofList gathered.text.reverse, if single then .singleQuoted else .doubleQuoted,
    false, next⟩

/-- What happens to the breaks at the end of a block scalar. -/
inductive Chomping where
  | strip
  | clip
  | keep
deriving DecidableEq, Repr

/-- The header of a block scalar: its chomping and the indentation it asks for. -/
structure BlockHeader where
  chomping : Chomping := .clip
  indent : Option Nat := none

def readChomping (cursor : Cursor) : Option Chomping × Cursor :=
  if cursor.at? '+' then (some .keep, cursor.skip)
  else if cursor.at? '-' then (some .strip, cursor.skip)
  else (none, cursor)

/-- Read an indicator of indentation, if there is one; it may not be zero. -/
def readIndent (cursor : Cursor) : Except Fault (Option Nat × Cursor) :=
  match cursor.head? with
  | none => .ok (none, cursor)
  | some c =>
      if c = '0' then .error .badScalarHeader
      else if c.isDigit then .ok (some (c.toNat - '0'.toNat), cursor.skip)
      else .ok (none, cursor)

/-- Read the header of a block scalar after its first character, with the end of its line. -/
def readBlockHeader (cursor : Cursor) : Except Fault (BlockHeader × Cursor) := do
  let (first, cursor) := readChomping cursor
  let (indent, cursor) ← readIndent cursor
  let (second, cursor) := if first.isNone && indent.isSome then readChomping cursor else (none, cursor)
  let chomping := (first <|> second).getD .clip
  let cursor := cursor.skipToLineEnd
  if cursor.endsLine then return ({ chomping, indent }, cursor.skipBreak)
  else throw .badScalarHeader

/-- Read the blank lines before a line of a block scalar. Without a known indentation the widest
of them counts; the widest so far is `widest`. -/
def readBlankLines (indent : Option Nat) :
    Nat → Nat → List Char → Cursor → Except Fault (Nat × List Char × Cursor)
  | 0, widest, breaks, cursor => .ok (widest, breaks, cursor)
  | fuel + 1, widest, breaks, cursor =>
      let spaces := (cursor.run (· = ' ')).length
      let width :=
        match indent with
        | some indent => min spaces (indent - cursor.column)
        | none => spaces
      let cursor := cursor.skipMany width
      let widest := max widest cursor.column
      let inIndentation := indent.all fun indent => cursor.column < indent
      if inIndentation && cursor.at? '\t' then .error .tabAsIndentation
      else if cursor.has isBreak then
        let (written, next) := cursor.takeBreak
        readBlankLines indent fuel widest (breaks ++ written) next
      else .ok (widest, breaks, cursor)

/-- A block scalar while it is read: its text in reverse, and the break after its last line. -/
structure BlockGathered where
  text : List Char := []
  lastBreak : List Char := []
  blankStart : Bool := false

/-- Read the lines of a block scalar, of which `breaks` blank lines have been passed. -/
def readBlockLines (literal : Bool) (indent : Nat) :
    Nat → BlockGathered → List Char → Cursor →
      Except Fault (BlockGathered × List Char × Cursor)
  | 0, gathered, breaks, cursor => .ok (gathered, breaks, cursor)
  | fuel + 1, gathered, breaks, cursor =>
      if cursor.column = indent && cursor.head?.isSome then do
        let blank := cursor.has isBlank
        let joined := !literal && gathered.lastBreak = ['\n'] && !gathered.blankStart && !blank
        let between :=
          if joined then (if breaks.isEmpty then [' '] else breaks)
          else gathered.lastBreak ++ breaks
        let line := cursor.run fun c => !isBreak c
        let (written, next) := (cursor.skipMany line.length).takeBreak
        let (_, breaks, next) ← readBlankLines (some indent) (next.rest.length + 1) 0 [] next
        readBlockLines literal indent fuel
          ⟨line.reverse ++ between.reverse ++ gathered.text, written, blank⟩ breaks next
      else .ok (gathered, breaks, cursor)

/-- Read a block scalar from its first character on, in a block of the given indentation. -/
def readBlock (literal : Bool) (blockIndent : Int) (cursor : Cursor) : Except Fault ScalarRead := do
  let (header, cursor) ← readBlockHeader cursor.skip
  let known := header.indent.map fun increment =>
    if 0 ≤ blockIndent then blockIndent.toNat + increment else increment
  let (widest, breaks, cursor) ← readBlankLines known (cursor.rest.length + 1) 0 [] cursor
  let indent := known.getD (max (max widest (blockIndent + 1).toNat) 1)
  let (gathered, breaks, next) ←
    readBlockLines literal indent (cursor.rest.length + 1) {} breaks cursor
  let ending :=
    match header.chomping with
    | .strip => []
    | .clip => gathered.lastBreak
    | .keep => gathered.lastBreak ++ breaks
  return ⟨String.ofList (gathered.text.reverse ++ ending), if literal then .literal else .folded,
    true, next⟩

end Registrar.Yaml
