import Registrar.Manifest
/-!
# Where the lists come from

The manifest is a file that is read anew for every cycle, so a change takes effect with the next
one. It can be missing, and it can hold bytes that are no text.
-/

set_option autoImplicit false

namespace Registrar

/-- A file as it is found: its bytes, or nothing. -/
abbrev FileContent :=
  Option ByteArray

namespace FileContent

def ofText (text : String) : FileContent :=
  some text.toUTF8

def text (content : FileContent) : Except Failure String :=
  match content with
  | none => .error (.io (systemErrorMessage 2))
  | some bytes =>
      match String.fromUTF8? bytes with
      | some text => .ok text
      | none => .error (.io "stream did not contain valid UTF-8")

def managed (content : FileContent) : Except Failure ManagedRegistrations := do
  let text ← content.text
  let manifest ← Manifest.parse text
  return manifest.managed

end FileContent

inductive Source where
  | fixed (lists : ManagedRegistrations)
  | file (content : FileContent)
  | failing (failure : Failure)

def Source.list : Source → Except Failure ManagedRegistrations
  | fixed lists => .ok lists
  | file content => content.managed
  | failing failure => .error failure

end Registrar
