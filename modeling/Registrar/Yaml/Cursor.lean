import Registrar.Yaml.Problem
/-!
# Positions in a YAML text

A cursor is the rest of a text with the place where it starts. Lines end at any of five breaks; a
carriage return with a line feed counts as one break.
-/

set_option autoImplicit false

namespace Registrar.Yaml

def isBlank (c : Char) : Bool :=
  c = ' ' || c = '\t'

def isBreak (c : Char) : Bool :=
  c = '\n' || c = '\r' || c.toNat = 0x85 || c.toNat = 0x2028 || c.toNat = 0x2029

def isWordChar (c : Char) : Bool :=
  c.isAlphanum || c = '-' || c = '_'

def isAllowed (c : Char) : Bool :=
  let n := c.toNat
  n = 0x09 || n = 0x0A || n = 0x0D || (0x20 ≤ n && n ≤ 0x7E) || n = 0x85 ||
    (0xA0 ≤ n && n ≤ 0xD7FF) || (0xE000 ≤ n && n ≤ 0xFFFD) || 0x10000 ≤ n

/-- The rest of a text, and the place where it starts. -/
structure Cursor where
  rest : List Char
  index : Nat := 0
  line : Nat := 0
  column : Nat := 0
deriving Repr, Inhabited

namespace Cursor

def head? (cursor : Cursor) : Option Char :=
  cursor.rest.head?

def ahead? (cursor : Cursor) (places : Nat) : Option Char :=
  cursor.rest[places]?

def at? (cursor : Cursor) (c : Char) : Bool :=
  cursor.head? = some c

/-- Whether the next character has a property; at the end of the text it has none. -/
def has (cursor : Cursor) (property : Char → Bool) : Bool :=
  cursor.head?.any property

/-- Whether a blank, a break or the end of the text lies a number of places ahead. -/
def endsWordAt (cursor : Cursor) (places : Nat) : Bool :=
  (cursor.ahead? places).all fun c => isBlank c || isBreak c

def endsLine (cursor : Cursor) : Bool :=
  cursor.head?.all isBreak

def skip (cursor : Cursor) : Cursor :=
  match cursor.rest with
  | [] => cursor
  | _ :: rest =>
      { cursor with rest := rest, index := cursor.index + 1, column := cursor.column + 1 }

def skipMany (cursor : Cursor) (count : Nat) : Cursor :=
  { cursor with
    rest := cursor.rest.drop count
    index := cursor.index + count
    column := cursor.column + count }

/-- Pass over the characters of a line as long as they have a property. -/
def skipWhile (cursor : Cursor) (property : Char → Bool) : Cursor :=
  cursor.skipMany (cursor.rest.takeWhile property).length

def run (cursor : Cursor) (property : Char → Bool) : List Char :=
  cursor.rest.takeWhile property

/-- Pass over one break, if there is one, and yield what it stands for in a scalar. -/
def takeBreak (cursor : Cursor) : List Char × Cursor :=
  let next (rest : List Char) (width : Nat) : Cursor :=
    { rest := rest, index := cursor.index + width, line := cursor.line + 1, column := 0 }
  match cursor.rest with
  | '\r' :: '\n' :: rest => (['\n'], next rest 2)
  | c :: rest =>
      if c.toNat = 0x2028 || c.toNat = 0x2029 then ([c], next rest 1)
      else if isBreak c then (['\n'], next rest 1)
      else ([], cursor)
  | [] => ([], cursor)

def skipBreak (cursor : Cursor) : Cursor :=
  cursor.takeBreak.2

def endLine (cursor : Cursor) : Cursor :=
  if cursor.column = 0 then cursor else { cursor with line := cursor.line + 1, column := 0 }

/-- Whether the line starts with one of the two marks between documents. -/
def atDocumentMark (cursor : Cursor) : Bool :=
  cursor.column = 0 &&
    (cursor.rest.take 3 = ['-', '-', '-'] || cursor.rest.take 3 = ['.', '.', '.']) &&
    cursor.endsWordAt 3

def skipToLineEnd (cursor : Cursor) : Cursor :=
  let cursor := cursor.skipWhile isBlank
  if cursor.at? '#' then cursor.skipWhile fun c => !isBreak c else cursor

end Cursor

end Registrar.Yaml
