import Registrar.Yaml.Scalar
/-!
# Tokens of a YAML text

The indentation of a block and the mark of a simple key are found while tokens are read, and a
token that turns out to be a key is announced by marks put in front of it. For that reason a token
is settled only when it can no longer become a key; when the text breaks a rule, the tokens settled
before that point are all that can be used of it.
-/

set_option autoImplicit false

namespace Registrar.Yaml

inductive Token where
  | streamStart
  | streamEnd
  | versionDirective (major minor : Nat)
  | tagDirective (handle stem : String)
  | documentStart
  | documentEnd
  | blockSequenceStart
  | blockMappingStart
  | blockEnd
  | flowSequenceStart
  | flowSequenceEnd
  | flowMappingStart
  | flowMappingEnd
  | blockEntry
  | flowEntry
  | key
  | value
  | alias (name : String)
  | anchor (name : String)
  | tag (handle suffix : String)
  | scalar (text : String) (style : Style)
deriving DecidableEq, Repr, Inhabited

/-- A token that may turn out to be a key, and where it starts. It must be one if it stands at the
indentation of a block. -/
structure KeyCandidate where
  required : Bool
  token : Nat
  line : Nat
  column : Nat
  index : Nat
deriving Repr

structure Lexer where
  cursor : Cursor
  tokens : Array Token := #[]
  /-- The indentation of the innermost block; −1 outside of all blocks. -/
  indent : Int := -1
  outerIndents : List Int := []
  /-- The candidates, the innermost bracket first; the last entry stands for no bracket. -/
  candidates : List (Option KeyCandidate) := [none]
  keyAllowed : Bool := true

namespace Lexer

abbrev Step := StateT Lexer (Except Fault)

def inFlow (lexer : Lexer) : Bool :=
  1 < lexer.candidates.length

def emit (token : Token) : Step Unit :=
  modify fun lexer => { lexer with tokens := lexer.tokens.push token }

def insertAt (number : Nat) (token : Token) : Step Unit :=
  modify fun lexer => { lexer with tokens := lexer.tokens.insertIdxIfInBounds number token }

def allowKey (allowed : Bool) : Step Unit :=
  modify fun lexer => { lexer with keyAllowed := allowed }

def moveTo (cursor : Cursor) : Step Unit :=
  modify fun lexer => { lexer with cursor := cursor }

/-- Whether a candidate lies too far back to be a key: on an earlier line or more than 1024
characters away. -/
def isStale (cursor : Cursor) (candidate : KeyCandidate) : Bool :=
  candidate.line < cursor.line || candidate.index + 1024 < cursor.index

def dropStale : Step Unit := do
  let lexer ← get
  let stale (entry : Option KeyCandidate) := entry.any (isStale lexer.cursor)
  if lexer.candidates.any fun entry => stale entry && entry.any (·.required) then
    throw .missingColon
  set { lexer with candidates := lexer.candidates.map fun entry => if stale entry then none else entry }

def dropCandidate : Step Unit := do
  let lexer ← get
  match lexer.candidates with
  | some candidate :: outer =>
      if candidate.required then throw .missingColon
      else set { lexer with candidates := none :: outer }
  | _ => return

/-- Note that the next token may be a key, if keys are allowed here. -/
def noteCandidate : Step Unit := do
  if (← get).keyAllowed then
    dropCandidate
    modify fun lexer =>
      let cursor := lexer.cursor
      { lexer with
        candidates := some {
          required := !lexer.inFlow && lexer.indent = cursor.column
          token := lexer.tokens.size
          line := cursor.line
          column := cursor.column
          index := cursor.index } :: lexer.candidates.drop 1 }

/-- Open a block at a column if it lies further in than the current one. -/
def openBlock (column : Nat) (number : Option Nat) (start : Token) : Step Unit := do
  let lexer ← get
  if !lexer.inFlow && lexer.indent < column then
    set { lexer with outerIndents := lexer.indent :: lexer.outerIndents, indent := column }
    match number with
    | some number => insertAt number start
    | none => emit start

/-- Close the blocks that lie further in than a column. The fuel is their number. -/
def closeBlocksTo (column : Int) : Nat → Lexer → Lexer
  | 0, lexer => lexer
  | fuel + 1, lexer =>
      if column < lexer.indent then
        closeBlocksTo column fuel { lexer with
          tokens := lexer.tokens.push .blockEnd
          indent := lexer.outerIndents.headD (-1)
          outerIndents := lexer.outerIndents.drop 1 }
      else lexer

def closeBlocks (column : Int) : Step Unit :=
  modify fun lexer =>
    if lexer.inFlow then lexer else closeBlocksTo column (lexer.outerIndents.length + 1) lexer

/-- Pass over blanks, comments and breaks before the next token. A tab counts as a blank only where
no indentation can stand. The fuel bounds the number of lines. -/
def skipSpace : Nat → Step Unit
  | 0 => return
  | fuel + 1 => do
      let lexer ← get
      let cursor := lexer.cursor
      let cursor := if cursor.index = 0 && cursor.at? '\ufeff' then cursor.skip else cursor
      let tabs := lexer.inFlow || !lexer.keyAllowed
      let cursor := cursor.skipWhile fun c => c = ' ' || (tabs && c = '\t')
      let cursor := if cursor.at? '#' then cursor.skipWhile (!isBreak ·) else cursor
      if cursor.has isBreak then
        moveTo cursor.skipBreak
        if !lexer.inFlow then allowKey true
        skipSpace fuel
      else moveTo cursor

/-- Read a number of a version: at most nine digits. -/
def readVersionNumber (cursor : Cursor) : Except Fault (Nat × Cursor) :=
  let digits := cursor.run Char.isDigit
  if digits.isEmpty || 9 < digits.length then .error .badDirective
  else
    .ok (digits.foldl (fun value digit => 10 * value + (digit.toNat - '0'.toNat)) 0,
      cursor.skipMany digits.length)

/-- Read the handle of a tag. In a directive it must be closed unless it is a single mark. -/
def readTagHandle (directive : Bool) (cursor : Cursor) : Except Fault (List Char × Cursor) :=
  if !cursor.at? '!' then .error .badTag
  else
    let word := cursor.skip.run isWordChar
    let next := cursor.skip.skipMany word.length
    if next.at? '!' then .ok ('!' :: word ++ ['!'], next.skip)
    else if directive && !word.isEmpty then .error .badTag
    else .ok ('!' :: word, next)

/-- The characters of a tag besides letters and digits; within angle brackets there are more. -/
def isTagChar (verbatim : Bool) (c : Char) : Bool :=
  isWordChar c ||
    [';', '/', '?', ':', '@', '&', '=', '+', '$', '.', '!', '~', '*', '\'', '(', ')'].contains c ||
    (verbatim && (c = ',' || c = '[' || c = ']'))

def escapedByte? : List Char → Option Nat
  | '%' :: high :: low :: _ => do
      let high ← hexValue? high
      let low ← hexValue? low
      return 16 * high + low
  | _ => none

/-- Read the escaped bytes that follow the first one of a character. -/
def readTrailingBytes : Nat → Nat → Cursor → Except Fault (Nat × Cursor)
  | 0, value, cursor => .ok (value, cursor)
  | fuel + 1, value, cursor =>
      match escapedByte? cursor.rest with
      | none => .error .badTag
      | some byte =>
          if 0x80 ≤ byte && byte < 0xC0 then
            readTrailingBytes fuel (64 * value + byte % 64) (cursor.skipMany 3)
          else .error .badTag

def readEscapedChar (cursor : Cursor) : Except Fault (Char × Cursor) :=
  match escapedByte? cursor.rest with
  | none => .error .badTag
  | some byte =>
      let next := cursor.skipMany 3
      if byte < 0x80 then .ok (Char.ofNat byte, next)
      else if 0xC0 ≤ byte && byte < 0xE0 then
        (readTrailingBytes 1 (byte % 32) next).map fun (value, next) => (Char.ofNat value, next)
      else if 0xE0 ≤ byte && byte < 0xF0 then
        (readTrailingBytes 2 (byte % 16) next).map fun (value, next) => (Char.ofNat value, next)
      else if 0xF0 ≤ byte && byte < 0xF8 then
        (readTrailingBytes 3 (byte % 8) next).map fun (value, next) => (Char.ofNat value, next)
      else .error .badTag

def readTagChars (verbatim : Bool) :
    Nat → List Char → Cursor → Except Fault (List Char × Cursor)
  | 0, read, cursor => .ok (read.reverse, cursor)
  | fuel + 1, read, cursor =>
      match cursor.head? with
      | none => .ok (read.reverse, cursor)
      | some c =>
          if c = '%' then do
            let (escaped, next) ← readEscapedChar cursor
            readTagChars verbatim fuel (escaped :: read) next
          else if isTagChar verbatim c then readTagChars verbatim fuel (c :: read) cursor.skip
          else .ok (read.reverse, cursor)

/-- Read a tag that starts with `front`; together they may not be empty. -/
def readTagText (verbatim : Bool) (front : List Char) (cursor : Cursor) :
    Except Fault (List Char × Cursor) := do
  let (read, next) ← readTagChars verbatim (cursor.rest.length + 1) [] cursor
  if front.isEmpty && read.isEmpty then throw .badTag
  return (front.drop 1 ++ read, next)

/-- Read a directive from its percent sign on, with the end of its line. -/
def readDirective (cursor : Cursor) : Except Fault (Token × Cursor) := do
  let cursor := cursor.skip
  let name := cursor.run isWordChar
  let cursor := cursor.skipMany name.length
  if name.isEmpty || !cursor.endsWordAt 0 then throw .badDirective
  let (token, cursor) ←
    if name = ['Y', 'A', 'M', 'L'] then do
      let (major, cursor) ← readVersionNumber (cursor.skipWhile isBlank)
      if !cursor.at? '.' then throw .badDirective
      let (minor, cursor) ← readVersionNumber cursor.skip
      pure (Token.versionDirective major minor, cursor)
    else if name = ['T', 'A', 'G'] then do
      let (handle, cursor) ← readTagHandle true (cursor.skipWhile isBlank)
      if !cursor.has isBlank then throw .badDirective
      let (stem, cursor) ← readTagText true [] (cursor.skipWhile isBlank)
      if !cursor.endsWordAt 0 then throw .badDirective
      pure (Token.tagDirective (String.ofList handle) (String.ofList stem), cursor)
    else throw .badDirective
  let cursor := cursor.skipToLineEnd
  if !cursor.endsLine then throw .badDirective
  return (token, cursor.skipBreak)

def readTag (inFlow : Bool) (cursor : Cursor) : Except Fault (Token × Cursor) := do
  let (handle, suffix, next) ←
    if cursor.ahead? 1 = some '<' then do
      let (suffix, next) ← readTagText true [] (cursor.skipMany 2)
      if !next.at? '>' then throw .badTag
      pure (([] : List Char), suffix, next.skip)
    else do
      let (handle, next) ← readTagHandle false cursor
      if 1 < handle.length && handle.getLast? = some '!' then
        let (suffix, next) ← readTagText false [] next
        pure (handle, suffix, next)
      else
        let (suffix, next) ← readTagText false handle next
        if suffix.isEmpty then pure (([] : List Char), ['!'], next) else pure (['!'], suffix, next)
  if !next.endsWordAt 0 && !(inFlow && next.at? ',') then throw .badTag
  return (.tag (String.ofList handle) (String.ofList suffix), next)

def readAnchorName (cursor : Cursor) : Except Fault (String × Cursor) :=
  let name := cursor.skip.run isWordChar
  let next := cursor.skip.skipMany name.length
  let ends := next.endsWordAt 0 ||
    next.has fun c => ['?', ':', ',', ']', '\x7d', '%', '@', '\x60'].contains c
  if name.isEmpty || !ends then .error .badAnchor else .ok (String.ofList name, next)

def emitSkip (token : Token) : Step Unit := do
  moveTo (← get).cursor.skip
  emit token

def lexEnd : Step Unit := do
  modify fun lexer => { lexer with cursor := lexer.cursor.endLine }
  closeBlocks (-1)
  dropCandidate
  allowKey false
  emit .streamEnd

def lexDirective : Step Unit := do
  closeBlocks (-1)
  dropCandidate
  allowKey false
  let (token, next) ← readDirective (← get).cursor
  moveTo next
  emit token

def lexDocumentMark (token : Token) : Step Unit := do
  closeBlocks (-1)
  dropCandidate
  allowKey false
  moveTo ((← get).cursor.skipMany 3)
  emit token

def lexOpen (token : Token) : Step Unit := do
  noteCandidate
  modify fun lexer => { lexer with candidates := none :: lexer.candidates }
  allowKey true
  emitSkip token

def lexClose (token : Token) : Step Unit := do
  dropCandidate
  modify fun lexer =>
    if lexer.inFlow then { lexer with candidates := lexer.candidates.drop 1 } else lexer
  allowKey false
  emitSkip token

def lexComma : Step Unit := do
  dropCandidate
  allowKey true
  emitSkip .flowEntry

def lexDash : Step Unit := do
  let lexer ← get
  if !lexer.inFlow then
    if !lexer.keyAllowed then throw .entryNotAllowed
    openBlock lexer.cursor.column none .blockSequenceStart
  dropCandidate
  allowKey true
  emitSkip .blockEntry

def lexKey : Step Unit := do
  let lexer ← get
  if !lexer.inFlow then
    if !lexer.keyAllowed then throw .keyNotAllowed
    openBlock lexer.cursor.column none .blockMappingStart
  dropCandidate
  allowKey (!lexer.inFlow)
  emitSkip .key

/-- The colon before a value. If a candidate stands before it, that one is a key. -/
def lexValue : Step Unit := do
  let lexer ← get
  match lexer.candidates with
  | some candidate :: outer =>
      insertAt candidate.token .key
      openBlock candidate.column (some candidate.token) .blockMappingStart
      modify fun lexer => { lexer with candidates := none :: outer }
      allowKey false
  | _ =>
      if !lexer.inFlow then
        if !lexer.keyAllowed then throw .valueNotAllowed
        openBlock lexer.cursor.column none .blockMappingStart
      allowKey (!lexer.inFlow)
  emitSkip .value

def lexAnchor (token : String → Token) : Step Unit := do
  noteCandidate
  allowKey false
  let (name, next) ← readAnchorName (← get).cursor
  moveTo next
  emit (token name)

def lexTag : Step Unit := do
  noteCandidate
  allowKey false
  let lexer ← get
  let (token, next) ← readTag lexer.inFlow lexer.cursor
  moveTo next
  emit token

def lexBlock (literal : Bool) : Step Unit := do
  dropCandidate
  allowKey true
  let lexer ← get
  let read ← readBlock literal lexer.indent lexer.cursor
  moveTo read.next
  emit (.scalar read.text read.style)

def lexQuoted (single : Bool) : Step Unit := do
  noteCandidate
  allowKey false
  let read ← readQuoted single (← get).cursor
  moveTo read.next
  emit (.scalar read.text read.style)

def lexPlain : Step Unit := do
  noteCandidate
  allowKey false
  let lexer ← get
  let read ← readPlain lexer.inFlow lexer.indent lexer.cursor
  moveTo read.next
  if read.brokenAfter then allowKey true
  emit (.scalar read.text read.style)

def isIndicator (c : Char) : Bool :=
  ['-', '?', ':', ',', '[', ']', '\x7b', '\x7d', '#', '&', '*', '!', '|', '>', '\'', '"', '%', '@',
    '\x60'].contains c

def lexAt (c : Char) : Step Unit := do
  let lexer ← get
  let cursor := lexer.cursor
  let flow := lexer.inFlow
  let spaced := cursor.endsWordAt 1
  if cursor.column = 0 && c = '%' then lexDirective
  else if cursor.atDocumentMark then
    lexDocumentMark (if c = '-' then .documentStart else .documentEnd)
  else if c = '[' then lexOpen .flowSequenceStart
  else if c = '\x7b' then lexOpen .flowMappingStart
  else if c = ']' then lexClose .flowSequenceEnd
  else if c = '\x7d' then lexClose .flowMappingEnd
  else if c = ',' then lexComma
  else if c = '-' && spaced then lexDash
  else if c = '?' && (flow || spaced) then lexKey
  else if c = ':' && (flow || spaced) then lexValue
  else if c = '*' then lexAnchor .alias
  else if c = '&' then lexAnchor .anchor
  else if c = '!' then lexTag
  else if c = '|' && !flow then lexBlock true
  else if c = '>' && !flow then lexBlock false
  else if c = '\'' then lexQuoted true
  else if c = '"' then lexQuoted false
  else if !(isBlank c || isIndicator c) || (c = '-' && !(cursor.ahead? 1).any isBlank) ||
      (!flow && (c = '?' || c = ':') && !spaced) then lexPlain
  else throw .unexpectedCharacter

def lexNext : Step Unit := do
  skipSpace ((← get).cursor.rest.length + 1)
  dropStale
  closeBlocks (← get).cursor.column
  match (← get).cursor.head? with
  | none => lexEnd
  | some c => lexAt c

/-- The number of tokens that are settled: those before the first that may still become a key. -/
def settled (lexer : Lexer) : Nat :=
  lexer.candidates.foldl (fun count entry =>
    match entry with
    | some candidate => min count candidate.token
    | none => count) lexer.tokens.size

end Lexer

/-- The tokens of a text as far as they can be used, and the rule the text breaks after them. -/
structure TokenStream where
  tokens : List Token
  fault : Option Fault

namespace Lexer

/-- Read tokens until the text ends or breaks a rule. `usable` counts those that were settled before
the last step: if that step left behind a candidate that has to be a key and no longer can, it has
settled nothing more. The fuel bounds the number of steps. -/
def run : Nat → Nat → Lexer → TokenStream
  | 0, _, lexer => ⟨lexer.tokens.toList, none⟩
  | fuel + 1, usable, lexer =>
      let broken (count : Nat) (fault : Fault) : TokenStream :=
        ⟨lexer.tokens.toList.take count, some fault⟩
      match dropStale lexer with
      | .error fault => broken usable fault
      | .ok ((), lexer) =>
          if lexer.tokens.back? = some .streamEnd then ⟨lexer.tokens.toList, none⟩
          else
            match lexNext lexer with
            | .error fault => broken lexer.settled fault
            | .ok ((), next) => run fuel lexer.settled next

end Lexer

/-- The tokens of a text. A forbidden character spoils all of it. -/
def TokenStream.ofText (text : String) : TokenStream :=
  let characters := text.toList
  if characters.all isAllowed then
    Lexer.run (characters.length + 2) 0 { cursor := { rest := characters }, tokens := #[.streamStart] }
  else ⟨[.streamStart], some .forbiddenCharacter⟩

end Registrar.Yaml
