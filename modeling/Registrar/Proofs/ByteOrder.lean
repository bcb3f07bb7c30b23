import Mathlib.Data.String.Basic
/-!
# The order of texts is that of their bytes

Texts are compared character by character. In UTF-8 the greater character has the greater bytes, and no
character starts with the bytes of another one, so comparing the encoded texts byte by byte comes to
the same.
-/

set_option autoImplicit false

namespace Registrar.Text

/-- The text in UTF-8. -/
def bytes (text : String) : List UInt8 :=
  text.toUTF8.data.toList

theorem bytes_eq_flatMap (text : String) :
    bytes text = text.toList.flatMap String.utf8EncodeChar := by
  have encoded : text.toUTF8 = (text.toList.flatMap String.utf8EncodeChar).toByteArray :=
    String.utf8Encode_toList.symm
  unfold bytes
  rw [encoded]
  simp

theorem ofNat_lt_iff {left right : Nat} (leftSmall : left < 256) (rightSmall : right < 256) :
    UInt8.ofNat left < UInt8.ofNat right ↔ left < right := by
  rw [UInt8.lt_iff_toNat_lt, UInt8.toNat_ofNat_of_lt' leftSmall, UInt8.toNat_ofNat_of_lt' rightSmall]

theorem ofNat_inj_iff {left right : Nat} (leftSmall : left < 256) (rightSmall : right < 256) :
    UInt8.ofNat left = UInt8.ofNat right ↔ left = right := by
  rw [← UInt8.toNat_inj, UInt8.toNat_ofNat_of_lt' leftSmall, UInt8.toNat_ofNat_of_lt' rightSmall]

/-- Whatever follows, the bytes of the greater character are greater. -/
theorem utf8EncodeChar_append_lt {left right : Char} (less : left < right)
    (first last : List UInt8) :
    String.utf8EncodeChar left ++ first < String.utf8EncodeChar right ++ last := by
  have valid : right.val.toNat < 0x110000 := by
    rcases right.valid with small | ⟨-, large⟩
    · exact Nat.lt_trans small (by decide)
    · exact large
  have below : left.val.toNat < right.val.toNat := less
  unfold String.utf8EncodeChar
  dsimp only
  generalize left.val.toNat = low at *
  generalize right.val.toNat = high at *
  -- the first group of six bits in which the characters differ decides
  have top : low / 262144 < high / 262144 ∨ low / 262144 = high / 262144 := by omega
  have upper : low / 4096 < high / 4096 ∨ low / 4096 = high / 4096 := by omega
  have lower : low / 64 < high / 64 ∨ low / 64 = high / 64 := by omega
  split_ifs <;>
    simp (disch := omega) only [List.cons_append, List.nil_append, List.cons_lt_cons_iff,
      ofNat_lt_iff, ofNat_inj_iff] <;>
    rcases top with top | top <;> rcases upper with upper | upper <;>
    rcases lower with lower | lower <;> omega

theorem flatMap_utf8EncodeChar_lt {first last : List Char} (less : first < last) :
    first.flatMap String.utf8EncodeChar < last.flatMap String.utf8EncodeChar := by
  induction List.lex_lt.mpr less with
  | @nil c rest =>
      obtain ⟨byte, more, same⟩ :=
        List.exists_cons_of_ne_nil (String.utf8EncodeChar_ne_nil (c := c))
      rw [List.flatMap_nil, List.flatMap_cons, same]
      exact List.nil_lt_cons _ _
  | rel smaller => exact utf8EncodeChar_append_lt smaller _ _
  | cons rest ih => exact List.append_left_lt (ih (List.lex_lt.mp rest))

theorem bytes_lt_iff (left right : String) : bytes left < bytes right ↔ left < right := by
  have increasing : ∀ {first last : String}, first < last → bytes first < bytes last := by
    intro first last less
    rw [bytes_eq_flatMap, bytes_eq_flatMap]
    exact flatMap_utf8EncodeChar_lt (String.lt_iff.mp less)
  refine ⟨fun less => ?_, increasing⟩
  rcases lt_trichotomy left right with below | same | above
  · exact below
  · subst same
    exact absurd less (List.lt_irrefl _)
  · exact absurd (increasing above) (List.lt_asymm less)

theorem bytes_le_iff (left right : String) : bytes left ≤ bytes right ↔ left ≤ right := by
  rw [← List.not_lt, bytes_lt_iff, not_lt]

/-- Of two pairs of texts the first ones are compared, and the second ones only if these are equal. -/
theorem compare_then_compare_eq_lt_iff (first second otherFirst otherSecond : String) :
    (compare first otherFirst).then (compare second otherSecond) = .lt ↔
      bytes first < bytes otherFirst ∨
        first = otherFirst ∧ bytes second < bytes otherSecond := by
  rw [Ordering.then_eq_lt, compare_lt_iff_lt, compare_eq_iff_eq, compare_lt_iff_lt, bytes_lt_iff,
    bytes_lt_iff]

end Registrar.Text
