import Mathlib.Algebra.Group.Nat.Defs
import Registrar.Controller.Policy
/-!
# Delays in exact numbers

The arithmetic of delays stops at the largest 64-bit number and at an exponent of ten. The largest
number never shows: a delay is the base, doubled with every attempt up to the tenth, and never more
than the cap. That the doubling ends there shows just if the tenth attempt does not reach the cap,
as it does in all delays that a controller plans.
-/

set_option autoImplicit false

namespace Registrar.Retry

theorem toNat_min_of_words (left right : UInt64) :
    (min left right).toNat = min left.toNat right.toNat := by
  change (if left ≤ right then left else right).toNat = _
  split
  · next below => exact (Nat.min_eq_left (UInt64.le_iff_toNat_le.mp below)).symm
  · next above =>
      have less := Nat.lt_of_not_le (mt UInt64.le_iff_toNat_le.mpr above)
      exact (Nat.min_eq_right (Nat.le_of_lt less)).symm

theorem toNat_min_ten (attempt : UInt32) : (min attempt 10).toNat = min attempt.toNat 10 := by
  change (if attempt ≤ 10 then attempt else 10).toNat = _
  split
  · next below => exact (Nat.min_eq_left (UInt32.le_iff_toNat_le.mp below)).symm
  · next above =>
      have less := Nat.lt_of_not_le (mt UInt32.le_iff_toNat_le.mpr above)
      exact (Nat.min_eq_right (Nat.le_of_lt less)).symm

theorem toNat_le_largest (value : UInt64) : value.toNat ≤ largest :=
  Nat.le_sub_one_of_lt value.toNat_lt_size

theorem toNat_ofNat_min (value : Nat) :
    (UInt64.ofNat (min value largest)).toNat = min value largest :=
  UInt64.toNat_ofNat_of_lt' (Nat.lt_of_le_of_lt (Nat.min_le_right _ _) (by decide))

theorem toNat_saturatingPow_two {exponent : Nat} (small : exponent ≤ 10) :
    (saturatingPow 2 exponent).toNat = 2 ^ exponent := by
  have bounded : 2 ^ exponent ≤ 2 ^ 10 := Nat.pow_le_pow_right (by decide) small
  have fits : 2 ^ 10 ≤ largest := by decide
  exact (toNat_ofNat_min _).trans (Nat.min_eq_left (Nat.le_trans bounded fits))

/-- A delay in exact numbers: what is cut off at the largest number is beyond every cap. -/
theorem toNat_delay (attempt : UInt32) (base cap : Option UInt64) :
    (delay attempt base cap).toNat =
      min ((base.getD defaultBase).toNat * 2 ^ min attempt.toNat 10)
        (cap.getD defaultCap).toNat := by
  unfold delay saturatingMul
  rw [toNat_min_of_words, toNat_ofNat_min, toNat_min_ten,
    toNat_saturatingPow_two (Nat.min_le_right _ _), Nat.min_assoc,
    Nat.min_eq_right (toNat_le_largest _)]

/-- A cap that the tenth attempt reaches hides that the exponent has stopped growing. -/
theorem min_doubled_of_reached {base cap : Nat} (reached : cap ≤ base * 2 ^ 10) (attempt : Nat) :
    min (base * 2 ^ min attempt 10) cap = min (base * 2 ^ attempt) cap := by
  rcases Nat.le_total attempt 10 with early | late
  · rw [Nat.min_eq_left early]
  · have grown : base * 2 ^ 10 ≤ base * 2 ^ attempt :=
      Nat.mul_le_mul_left base (Nat.pow_le_pow_right (by decide) late)
    rw [Nat.min_eq_right late, Nat.min_eq_right reached,
      Nat.min_eq_right (Nat.le_trans reached grown)]

/-- The tenth attempt reaches the cap. -/
def CapReached (base cap : Option UInt64) : Prop :=
  (cap.getD 300).toNat ≤ 1024 * (base.getD 15).toNat

theorem delay_le_cap (attempt : UInt32) (base cap : Option UInt64) :
    delay attempt base cap ≤ cap.getD 300 := by
  rw [UInt64.le_iff_toNat_le, toNat_delay]
  exact Nat.min_le_right _ _

theorem delay_mono {attempt later : UInt32} {base larger cap higher : Option UInt64}
    (after : attempt ≤ later) (wider : base.getD 15 ≤ larger.getD 15)
    (raised : cap.getD 300 ≤ higher.getD 300) :
    delay attempt base cap ≤ delay later larger higher := by
  have exponents : min attempt.toNat 10 ≤ min later.toNat 10 := by
    have attempts := UInt32.le_iff_toNat_le.mp after
    omega
  have products : (base.getD defaultBase).toNat * 2 ^ min attempt.toNat 10 ≤
      (larger.getD defaultBase).toNat * 2 ^ min later.toNat 10 :=
    Nat.mul_le_mul (UInt64.le_iff_toNat_le.mp wider)
      (Nat.pow_le_pow_right (by decide) exponents)
  have caps : (cap.getD defaultCap).toNat ≤ (higher.getD defaultCap).toNat :=
    UInt64.le_iff_toNat_le.mp raised
  rw [UInt64.le_iff_toNat_le, toNat_delay, toNat_delay]
  omega

/-- A delay doubles with every attempt, however late, just if its cap is reached before the exponent
stops growing or there is nothing to double. -/
theorem doubles_iff (base cap : Option UInt64) :
    (∀ attempt : UInt32, (delay attempt base cap).toNat =
      min ((base.getD 15).toNat * 2 ^ attempt.toNat) (cap.getD 300).toNat) ↔
      CapReached base cap ∨ base.getD 15 = 0 := by
  unfold CapReached
  constructor
  · intro doubles
    -- the eleventh attempt is the first one whose exponent is cut off
    have shown : min ((base.getD 15).toNat * 1024) (cap.getD 300).toNat =
        min ((base.getD 15).toNat * 2048) (cap.getD 300).toNat :=
      (toNat_delay 11 base cap).symm.trans (doubles 11)
    rw [← UInt64.toNat_inj, UInt64.toNat_zero]
    omega
  · intro hidden attempt
    refine (toNat_delay attempt base cap).trans ?_
    rcases hidden with reached | nothing
    · exact min_doubled_of_reached (Nat.mul_comm 1024 _ ▸ reached) _
    · have zero : base.getD defaultBase = 0 := nothing
      rw [zero, nothing, UInt64.toNat_zero, Nat.zero_mul, Nat.zero_mul]
      rfl

/-- The delays of a base with a cap, in numbers that have no largest one. -/
structure Exact (base cap : Option UInt64) : Prop where
  seconds : ∀ attempt : UInt32, (delay attempt base cap).toNat =
    min ((base.getD 15).toNat * 2 ^ min attempt.toNat 10) (cap.getD 300).toNat
  le_cap : ∀ attempt, delay attempt base cap ≤ cap.getD 300
  mono : ∀ attempt later larger higher, attempt ≤ later → base.getD 15 ≤ larger.getD 15 →
    cap.getD 300 ≤ higher.getD 300 → delay attempt base cap ≤ delay later larger higher
  doubles : CapReached base cap → ∀ attempt : UInt32, (delay attempt base cap).toNat =
    min ((base.getD 15).toNat * 2 ^ attempt.toNat) (cap.getD 300).toNat
  /-- No weaker condition would do: at any other cap the end of the doubling shows. -/
  shows : ¬ CapReached base cap → base.getD 15 ≠ 0 → ∃ attempt : UInt32,
    (delay attempt base cap).toNat ≠
      min ((base.getD 15).toNat * 2 ^ attempt.toNat) (cap.getD 300).toNat

theorem delay_exact (base cap : Option UInt64) : Exact base cap := by
  refine ⟨fun attempt => toNat_delay attempt base cap, fun attempt => delay_le_cap attempt base cap,
    fun _ _ _ _ => delay_mono, fun reached => (doubles_iff base cap).mpr (.inl reached), ?_⟩
  intro beyond some
  refine Classical.not_forall.mp fun doubles => ?_
  rcases (doubles_iff base cap).mp doubles with reached | nothing
  · exact beyond reached
  · exact some nothing

end Registrar.Retry

namespace Registrar.Controller

/-- The pairs of base and cap that are in use: where the cluster is to blame, where it is not, and
where none are given. -/
inductive InUse : Option UInt64 → Option UInt64 → Prop where
  | transient : InUse (some 1) (some 60)
  | lasting : InUse (some 15) (some 300)
  | unset : InUse none none

theorem InUse.capReached {base cap : Option UInt64} (used : InUse base cap) :
    Retry.CapReached base cap := by
  unfold Retry.CapReached
  cases used <;> decide

theorem exists_inUse (failure : Failure) (streak : UInt32) :
    ∃ base cap, InUse base cap ∧ retryDelay failure streak = Retry.delay streak base cap := by
  unfold retryDelay
  split
  · exact ⟨_, _, .transient, rfl⟩
  · exact ⟨_, _, .lasting, rfl⟩

/-- For every attempt, base and cap of their widths: a delay is what exact arithmetic gives, its cap
bounds it, and it never falls as one of the three grows. It doubles with every attempt up to its cap
if the tenth attempt reaches that cap, as it does in all delays that are planned. -/
theorem delays_exact :
    (∀ base cap, Retry.Exact base cap) ∧
    (∀ base cap, InUse base cap → Retry.CapReached base cap) ∧
    ∀ failure streak, ∃ base cap, InUse base cap ∧
      retryDelay failure streak = Retry.delay streak base cap :=
  ⟨Retry.delay_exact, fun _ _ => InUse.capReached, exists_inUse⟩

/-- A delay in use goes on doubling past the tenth attempt as far as its cap lets it; a cap of two
thousand seconds over a base of one would show that the exponent does not. -/
theorem delays_exact_past_tenth :
    (Retry.delay 40 (some 1) (some 60)).toNat = min (1 * 2 ^ 40) 60 ∧
      Retry.delay 3 (some 1) (some 60) ≤ Retry.delay 40 none none ∧
      ∃ attempt : UInt32, (Retry.delay attempt (some 1) (some 2000)).toNat ≠
        min (1 * 2 ^ attempt.toNat) 2000 := by
  obtain ⟨compared, reached, _⟩ := delays_exact
  exact ⟨(compared _ _).doubles (reached _ _ .transient) 40,
    (compared _ _).mono 3 40 none none (by decide) (by decide) (by decide),
    (compared (some 1) (some 2000)).shows (by decide : ¬ 2000 ≤ 1024 * 1) (by decide)⟩

end Registrar.Controller
