import Registrar.Api.Message
/-!
# Addresses

An address names a server and perhaps a path on it. It is a scheme, an authority and a target, or an
authority alone, or a target alone. The authority can hold user information, a name or a bracketed
number, and a port; everything is looked at byte by byte from left to right, and the first fault is
reported.
-/

set_option autoImplicit false

namespace Registrar.Api

inductive AddressProblem where
  | empty
  | tooLong
  | invalidCharacter
  | invalidAuthority
  | invalidFormat
  | schemeTooLong
deriving DecidableEq, Repr

def AddressProblem.message : AddressProblem → String
  | empty => "empty string"
  | tooLong => "uri too long"
  | invalidCharacter => "invalid uri character"
  | invalidAuthority => "invalid authority"
  | invalidFormat => "invalid format"
  | schemeTooLong => "scheme too long"

namespace Address

def isSchemeChar (c : Char) : Bool :=
  c.isAlphanum || c = '+' || c = '-' || c = '.'

def isAuthorityChar (c : Char) : Bool :=
  c.isAlphanum || "!$&'()*+,-.:;=@[]_~".toList.contains c

def endsAuthority (c : Char) : Bool :=
  c = '/' || c = '?' || c = '#'

def schemeLength? (text : List Char) : Option Nat :=
  let scheme := text.takeWhile isSchemeChar
  match text.dropWhile isSchemeChar with
  | ':' :: '/' :: '/' :: _ => some scheme.length
  | _ => none

structure Seen where
  colons : Nat := 0
  opened : Bool := false
  closed : Bool := false
  percent : Bool := false
  /-- The last character was an at sign. -/
  afterAt : Bool := false
deriving DecidableEq, Repr, Inhabited

def Seen.next (seen : Seen) (c : Char) : Except AddressProblem Seen :=
  let seen := { seen with afterAt := c = '@' }
  if c = ':' then
    if 8 ≤ seen.colons then .error .invalidAuthority else .ok { seen with colons := seen.colons + 1 }
  else if c = '[' then
    if seen.percent || seen.opened then .error .invalidAuthority else .ok { seen with opened := true }
  else if c = ']' then
    if !seen.opened || seen.closed then .error .invalidAuthority
    else .ok { seen with closed := true, colons := 0, percent := false }
  else if c = '@' then .ok { seen with colons := 0, percent := false }
  else if c = '%' then .ok { seen with percent := true }
  else if isAuthorityChar c then .ok seen
  else .error .invalidCharacter

/-- Check a whole authority. A port needs a single colon, brackets come in pairs, and percent signs
belong into the user information. -/
def checkAuthority (text : List Char) : Except AddressProblem Unit := do
  let seen ← text.foldlM Seen.next ({} : Seen)
  if seen.opened ≠ seen.closed || 1 < seen.colons || seen.afterAt || seen.percent then
    .error .invalidAuthority
  else .ok ()

def checkTarget (text : List Char) : Except AddressProblem Unit :=
  match Target.parse? (String.ofList text) with
  | some _ => .ok ()
  | none => .error .invalidCharacter

/-- Check what follows the scheme, or the whole address if it has none. -/
def checkRest (hasScheme : Bool) (text : List Char) : Except AddressProblem Unit := do
  let authority := text.takeWhile (!endsAuthority ·)
  let target := text.dropWhile (!endsAuthority ·)
  checkAuthority authority
  if !hasScheme then
    if target.isEmpty then .ok () else .error .invalidFormat
  else if authority.isEmpty then .error .invalidFormat
  else checkTarget target

def check (text : String) : Except AddressProblem Unit :=
  let chars := text.toList
  if 65534 < text.utf8ByteSize then .error .tooLong
  else
    match chars with
    | [] => .error .empty
    | '/' :: _ => checkTarget chars
    | ['*'] => .ok ()
    | [c] => if endsAuthority c then .error .invalidCharacter else checkAuthority chars
    | _ =>
        match schemeLength? chars with
        | none => checkRest false chars
        | some length =>
            if 64 < length then .error .schemeTooLong else checkRest true (chars.drop (length + 3))

end Address

end Registrar.Api
