/-!
# Form encoding

The text of a parameter inside a query. Letters, digits and four marks stand for themselves, a space
becomes a plus sign, and every other byte becomes a percent sign with two hexadecimal digits.
-/

set_option autoImplicit false

namespace Registrar.Text

def isFormByte (byte : UInt8) : Bool :=
  let n := byte.toNat
  (0x30 ≤ n && n ≤ 0x39) || (0x41 ≤ n && n ≤ 0x5A) || (0x61 ≤ n && n ≤ 0x7A) ||
    n = 0x2A || n = 0x2D || n = 0x2E || n = 0x5F

def upperDigit (n : Nat) : Char :=
  (Nat.digitChar n).toUpper

def formByte (byte : UInt8) : List Char :=
  if isFormByte byte then [Char.ofNat byte.toNat]
  else if byte = 0x20 then ['+']
  else ['%', upperDigit (byte.toNat / 16), upperDigit (byte.toNat % 16)]

def formEncode (text : String) : String :=
  String.ofList (text.toUTF8.toList.flatMap formByte)

end Registrar.Text
