import Mathlib.Algebra.Group.Nat.Defs
import Registrar.Proofs.RoundTrip.Calendar
/-!
# Instants that are written and read

An instant is written to the second, so one of whole seconds is read back from what was written of
it. Each number is read from its digits, up to the mark that follows it, and the numbers of a date
and a time of day make up the same moment again.
-/

set_option autoImplicit false

namespace Registrar

/-! ## Attempts -/

/-- If there is a value at all, it has this property. -/
def Ensures {ε α : Type} (property : α → Prop) (attempt : Except ε α) : Prop :=
  ∀ value, attempt = .ok value → property value

namespace Ensures

variable {ε α β : Type} {property : β → Prop}

theorem ok {value : β} (holds : property value) : Ensures property (.ok value : Except ε β) := by
  intro other same
  cases same
  exact holds

theorem error (problem : ε) : Ensures property (.error problem : Except ε β) := by
  intro value same
  cases same

theorem bind {first : Except ε α} {next : α → Except ε β}
    (further : ∀ value, first = .ok value → Ensures property (next value)) :
    Ensures property (first >>= next) := by
  cases first with
  | error problem => exact error problem
  | ok value => exact further value rfl

theorem map {first : Except ε α} {write : α → β}
    (holds : Ensures (fun value => property (write value)) first) :
    Ensures property (first.map write) := by
  cases first with
  | error problem => exact error problem
  | ok value => exact ok (holds value rfl)

theorem foldlM {start : β} {items : List α} {step : β → α → Except ε β} (first : property start)
    (kept : ∀ item ∈ items, ∀ value, property value → Ensures property (step value item)) :
    Ensures property (items.foldlM step start) := by
  induction items generalizing start with
  | nil => exact ok first
  | cons item rest ih =>
      obtain ⟨here, later⟩ := List.forall_mem_cons.mp kept
      rw [List.foldlM_cons]
      exact bind fun value stepped => ih (here start first value stepped) later

theorem mapM {items : List α} {read : α → Except ε β}
    (each : ∀ item ∈ items, Ensures property (read item)) :
    Ensures (fun values => ∀ value ∈ values, property value) (items.mapM read) := by
  induction items with
  | nil => exact ok (List.forall_mem_nil _)
  | cons item rest ih =>
      obtain ⟨here, later⟩ := List.forall_mem_cons.mp each
      rw [List.mapM_cons]
      exact bind fun value first => bind fun values others =>
        ok (List.forall_mem_cons.mpr ⟨here value first, ih later values others⟩)

end Ensures

namespace Instant

variable {width n : Nat} {rest : List Char}

/-! ## Digits -/

theorem digitsValue_padded (width n : Nat) : digitsValue (padded width n) = n := by
  have zeros : ∀ count : Nat, digitsValue (List.replicate count '0') = 0 := by
    intro count
    induction count with
    | zero => rfl
    | succ count ih =>
        rw [List.replicate_succ]
        exact ih
  unfold padded digitsValue at *
  rw [List.foldl_append, zeros]
  exact Nat.ofDigitChars_toDigits (by decide) (by decide)

theorem isDigit_of_mem_padded {c : Char} (member : c ∈ padded width n) : c.isDigit = true := by
  rcases List.mem_append.mp member with zero | digit
  · obtain rfl := List.eq_of_mem_replicate zero
    rfl
  · exact Nat.isDigit_of_mem_toDigits (by decide) (by decide) digit

theorem length_padded (pos : 0 < width) (bounded : n < 10 ^ width) :
    (padded width n).length = width := by
  have short := (Nat.length_toDigits_le_iff (by decide) pos).mpr bounded
  unfold padded
  rw [List.length_append, List.length_replicate]
  omega

theorem exists_padded_eq_cons (width n : Nat) :
    ∃ digit digits, padded width n = digit :: digits ∧ digit.isDigit = true := by
  cases written : padded width n with
  | nil => exact absurd (List.append_eq_nil_iff.mp written).2 Nat.toDigits_ne_nil
  | cons digit digits =>
      exact ⟨digit, digits, rfl, isDigit_of_mem_padded (written ▸ List.mem_cons_self)⟩

theorem isBlank_of_isDigit {c : Char} (digit : c.isDigit = true) : Text.isBlank c = false := by
  obtain ⟨low, high⟩ := Char.isDigit_iff_toNat.mp digit
  have low : 48 ≤ c.toNat := low
  have high : c.toNat ≤ 57 := high
  simp [Text.isBlank]
  omega

theorem trimStart_padded (width n : Nat) (rest : List Char) :
    Text.trimStart (padded width n ++ rest) = padded width n ++ rest := by
  obtain ⟨digit, digits, written, isDigit⟩ := exists_padded_eq_cons width n
  rw [written]
  exact List.dropWhile_cons_of_neg (by simp [isBlank_of_isDigit isDigit])

/-- A number is read from the digits that are taken into account. -/
theorem readNumber_of_taken {limit : Nat}
    (taken : ((padded width n ++ rest).take limit).takeWhile Char.isDigit = padded width n) :
    readNumber limit (padded width n ++ rest) = .ok (n, rest) := by
  obtain ⟨digit, digits, written, -⟩ := exists_padded_eq_cons width n
  unfold readNumber
  dsimp only
  rw [taken, digitsValue_padded, List.drop_left, written]
  rfl

theorem readNumber_padded (pos : 0 < width) (bounded : n < 10 ^ width) (rest : List Char) :
    readNumber width (padded width n ++ rest) = .ok (n, rest) := by
  refine readNumber_of_taken ?_
  rw [List.take_left' (length_padded pos bounded)]
  have whole : (padded width n ++ []).takeWhile Char.isDigit =
      padded width n ++ [].takeWhile Char.isDigit :=
    List.takeWhile_append_of_pos fun c member => isDigit_of_mem_padded member
  rwa [List.append_nil, List.takeWhile_nil, List.append_nil] at whole

/-- Any number of digits is read up to the first other character. -/
theorem readNumber_unlimited (width n : Nat) {mark : Char} (other : mark.isDigit = false)
    (rest : List Char) :
    readNumber (padded width n ++ mark :: rest).length (padded width n ++ mark :: rest) =
      .ok (n, mark :: rest) := by
  refine readNumber_of_taken ?_
  rw [List.take_length, List.takeWhile_append_of_pos fun c member => isDigit_of_mem_padded member,
    List.takeWhile_cons_of_neg (by simp [other]), List.append_nil]

theorem readBounded_padded {low high : Nat} (least : low ≤ n) (most : n ≤ high) (fits : high < 100)
    (rest : List Char) : readBounded low high (padded 2 n ++ rest) = .ok (n, rest) := by
  unfold readBounded
  rw [trimStart_padded, readNumber_padded (by decide) (by omega)]
  exact if_pos ⟨least, most⟩

theorem expect_cons {mark : Char} (visible : Text.isBlank mark = false) (rest : List Char) :
    expect mark (mark :: rest) = .ok rest := by
  unfold expect Text.trimStart
  rw [List.dropWhile_cons_of_neg (by simp [visible])]
  exact if_pos rfl

/-! ## Years -/

def yearText (year : Int) : List Char :=
  (if year < 0 then ['-'] else if 9999 < year then ['+'] else []) ++ padded 4 year.natAbs

theorem readYear_padded (bounded : n < 10000) (rest : List Char) :
    readYear (padded 4 n ++ rest) = .ok ((n : Int), rest) := by
  have number : readNumber 4 (padded 4 n ++ rest) = .ok (n, rest) :=
    readNumber_padded (by decide) bounded rest
  obtain ⟨digit, digits, written, isDigit⟩ := exists_padded_eq_cons 4 n
  rw [written, List.cons_append] at number
  unfold readYear
  rw [trimStart_padded, written, List.cons_append]
  split
  · next same =>
      cases same
      cases isDigit
  · next same =>
      cases same
      cases isDigit
  · rw [number]
    rfl

theorem readYear_yearText (year : Int) (rest : List Char) :
    readYear (yearText year ++ '-' :: rest) = .ok (year, '-' :: rest) := by
  have number := readNumber_unlimited 4 year.natAbs (show '-'.isDigit = false by decide) rest
  unfold yearText
  split
  · next before =>
      have negative : (-(year.natAbs : Int)) = year := by omega
      refine (congrArg (Except.map _) number).trans ?_
      exact congrArg (fun year => Except.ok (year, '-' :: rest)) negative
  · split
    · next late =>
        have positive : (year.natAbs : Int) = year := by omega
        refine (congrArg (Except.map _) number).trans ?_
        exact congrArg (fun year => Except.ok (year, '-' :: rest)) positive
    · next before late =>
        have positive : (year.natAbs : Int) = year := by omega
        rw [List.nil_append, readYear_padded (by omega), positive]

/-! ## Whole texts -/

theorem write_eq (instant : Instant) :
    instant.write.toList =
      yearText (dateOfDays (instant.seconds / 86400)).1 ++
        '-' :: (padded 2 (dateOfDays (instant.seconds / 86400)).2.1 ++
        '-' :: (padded 2 (dateOfDays (instant.seconds / 86400)).2.2 ++
        'T' :: (padded 2 ((instant.seconds % 86400).toNat / 3600) ++
        ':' :: (padded 2 ((instant.seconds % 86400).toNat / 60 % 60) ++
        ':' :: (padded 2 ((instant.seconds % 86400).toNat % 60 + instant.nanoseconds / 1000000000) ++
        ['Z']))))) := by
  unfold write yearText
  dsimp only
  rw [String.toList_ofList]
  simp only [List.append_assoc, List.cons_append]

/-- The numbers of a text are read one after the other. -/
theorem parse_text {text : String} {year : Int} {month day hour minute second : Nat}
    (written : text.toList = yearText year ++ '-' :: (padded 2 month ++ '-' :: (padded 2 day ++
      'T' :: (padded 2 hour ++ ':' :: (padded 2 minute ++ ':' :: (padded 2 second ++ ['Z']))))))
    (month_pos : 1 ≤ month) (month_le : month ≤ 12) (day_pos : 1 ≤ day) (day_le : day ≤ 31)
    (hour_le : hour ≤ 23) (minute_le : minute ≤ 59) (second_le : second ≤ 60) :
    parse text = ofLocal year month day hour minute second 0 0 := by
  have hyphen := expect_cons (show Text.isBlank '-' = false by decide)
  have colon := expect_cons (show Text.isBlank ':' = false by decide)
  have separator (rest : List Char) : passSeparator ('T' :: rest) = .ok rest := rfl
  unfold parse
  rw [written]
  simp (disch := omega) only [bind, Except.bind, readYear_yearText, hyphen, colon, separator,
    readBounded_padded]
  rfl

/-! ## Moments -/

/-- An instant that can be read: its date is one that the calendar has, and a leap second is the last
one of a minute. -/
structure Regular (instant : Instant) : Prop where
  year : isYear (dateOfDays (instant.seconds / 86400)).1 = true
  leap : instant.nanoseconds < 1000000000 ∨
    instant.nanoseconds < 2000000000 ∧ instant.seconds % 60 = 59

def IsWhole (instant : Instant) : Prop :=
  instant.nanoseconds % 1000000000 = 0

theorem ofLocal_eq_ok_iff {year : Int} {month day hour minute second fraction : Nat} {offset : Int}
    {instant : Instant} :
    ofLocal year month day hour minute second fraction offset = .ok instant ↔
      isYear year = true ∧ day ≤ monthLength year month ∧ offset.natAbs < 86400 ∧
        instant.seconds = daysOfDate year month day * 86400 +
          (hour * 3600 + minute * 60 + (if second = 60 then 59 else second) : Nat) - offset ∧
        isYear (dateOfDays (instant.seconds / 86400)).1 = true ∧
        instant.nanoseconds = if second = 60 then fraction + 1000000000 else fraction := by
  obtain ⟨seconds, nanoseconds⟩ := instant
  unfold ofLocal
  grind

theorem monthLength_le (year : Int) (month : Nat) : monthLength year month ≤ 31 := by
  unfold monthLength
  grind

theorem parse_write {instant : Instant} (regular : Regular instant) (whole : IsWhole instant) :
    parse instant.write = .ok instant := by
  obtain ⟨year, leap⟩ := regular
  unfold IsWhole at whole
  have date := isDate_dateOfDays (instant.seconds / 86400)
  have short := monthLength_le (dateOfDays (instant.seconds / 86400)).1
    (dateOfDays (instant.seconds / 86400)).2.1
  rw [parse_text (write_eq instant) date.month_pos date.month_le date.day_pos
    (date.day_le.trans short) (by omega) (by omega) (by omega), ofLocal_eq_ok_iff]
  refine ⟨year, date.day_le, by decide, ?_, year, ?_⟩
  · rw [date.days_eq]
    split <;> omega
  · split <;> omega

/-! ## What was read -/

theorem foldl_digits_lt {digits : List Char} (all : ∀ c ∈ digits, c.isDigit = true) (start : Nat) :
    digits.foldl (fun value digit => 10 * value + (digit.toNat - '0'.toNat)) start <
      (start + 1) * 10 ^ digits.length := by
  induction digits generalizing start with
  | nil => simp
  | cons digit digits ih =>
      obtain ⟨here, later⟩ := List.forall_mem_cons.mp all
      obtain ⟨-, high⟩ := Char.isDigit_iff_toNat.mp here
      have small : digit.toNat - '0'.toNat ≤ 9 := Nat.sub_le_sub_right high _
      rw [List.foldl_cons, List.length_cons, Nat.pow_succ, Nat.mul_comm _ 10, ← Nat.mul_assoc]
      exact (ih later _).trans_le (Nat.mul_le_mul_right _ (by omega))

theorem digitsValue_lt {digits : List Char} (all : ∀ c ∈ digits, c.isDigit = true) :
    digitsValue digits < 10 ^ digits.length := by
  have bound := foldl_digits_lt all 0
  rwa [Nat.zero_add, Nat.one_mul] at bound

theorem ensures_readFraction (text : List Char) :
    Ensures (fun read => read.1 < 1000000000) (readFraction text) := by
  unfold readFraction
  split
  · next rest =>
      refine .bind fun _ _ => .ok ?_
      have all : ∀ c ∈ (rest.takeWhile Char.isDigit).take 9, c.isDigit = true := fun c member =>
        List.all_eq_true.mp List.all_takeWhile c (List.mem_of_mem_take member)
      have short : ((rest.takeWhile Char.isDigit).take 9).length ≤ 9 := List.length_take_le 9 _
      calc digitsValue ((rest.takeWhile Char.isDigit).take 9) *
            10 ^ (9 - ((rest.takeWhile Char.isDigit).take 9).length)
          < 10 ^ ((rest.takeWhile Char.isDigit).take 9).length *
            10 ^ (9 - ((rest.takeWhile Char.isDigit).take 9).length) :=
            Nat.mul_lt_mul_of_pos_right (digitsValue_lt all) (Nat.pow_pos (by decide))
        _ = 10 ^ 9 := by rw [← Nat.pow_add, Nat.add_sub_cancel' short]
  · exact .ok (Nat.zero_lt_succ _)

theorem ensures_readOffsetSize (text : List Char) :
    Ensures (fun read => read.1 % 60 = 0) (readOffsetSize text) := by
  unfold readOffsetSize
  refine .bind fun _ _ => .bind fun _ _ => ?_
  dsimp only
  split
  · exact .error _
  · refine .ok ?_
    dsimp only
    omega

theorem ensures_signed (signed : Nat → Int)
    (keeps : ∀ size : Nat, size % 60 = 0 → signed size % 60 = 0) (text : List Char) :
    Ensures (fun read => read.1 % 60 = 0)
      ((readOffsetSize text).map fun (size, rest) => (signed size, rest)) := by
  exact .map fun sized read => keeps _ (ensures_readOffsetSize text sized read)

theorem ensures_readOffset (text : List Char) :
    Ensures (fun read => read.1 % 60 = 0) (readOffset text) := by
  unfold readOffset
  split
  · exact .error _
  · dsimp only
    split
    · exact .ok rfl
    · split
      · exact .ok rfl
      · split
        · exact ensures_signed (fun size => (size : Int)) (by omega) _
        · split
          · exact ensures_signed (fun size => -(size : Int)) (by omega) _
          · exact .error _

/-- Whatever is read is an instant that can be read. -/
theorem ensures_parse (text : String) : Ensures Regular (parse text) := by
  unfold parse
  refine .bind fun year _ => .bind fun _ _ => .bind fun month _ => .bind fun _ _ =>
    .bind fun day _ => .bind fun _ _ => .bind fun hour _ => .bind fun _ _ => .bind fun minute _ =>
    .bind fun _ _ => .bind fun second _ => .bind fun fraction fractional => ?_
  dsimp only
  split
  · exact .bind nofun
  · refine .bind fun offset shifted => ?_
    split
    · exact .bind nofun
    · intro instant named
      have fine := ensures_readFraction _ _ fractional
      -- an offset of whole minutes leaves a leap second at the end of a minute
      have even := ensures_readOffset _ _ shifted
      obtain ⟨-, -, -, seconds, year, nanoseconds⟩ := ofLocal_eq_ok_iff.mp named
      refine ⟨year, ?_⟩
      split at nanoseconds
      · next last =>
          rw [if_pos last] at seconds
          exact .inr ⟨by omega, by omega⟩
      · exact .inl (by omega)

end Instant

end Registrar
