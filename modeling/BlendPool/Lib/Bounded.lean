/-
# `BlendPool.Lib.Bounded` — machine integers as integers with explicit bounds

A signed 128-bit quantity is an `Int`; what the machine type adds is that an
operation may leave the range.  The three readings of that, for a result `n`
computed in `Int`: `i128? n` is the checked one (`none` outside the range),
`clampI128 n` the saturating one, and a trapping one is `i128?` with the trap
as its `none`.  Division rounds toward zero.

Unsigned 64-bit quantities that are only compared and added (timestamps,
durations) are `Nat`s with a saturating addition; those whose range matters are
`UInt64`s, and `addU64?` / `subU64?` are their checked operations.
-/
import Mathlib.Algebra.Order.Ring.Int
import Mathlib.Tactic.Common

namespace Bounded

/-! ## Signed 128-bit -/

def i128Max : Int := 170141183460469231731687303715884105727

def i128Min : Int := -170141183460469231731687303715884105728

theorem i128Min_nonpos : i128Min ≤ 0 := by decide

def InI128 (n : Int) : Prop := i128Min ≤ n ∧ n ≤ i128Max

instance decInI128 (n : Int) : Decidable (InI128 n) := by
  unfold InI128; infer_instance

/-- The result of a checked operation: `none` when it leaves the range. -/
def i128? (n : Int) : Option Int := if InI128 n then some n else none

/-- The result of a saturating operation. -/
def clampI128 (n : Int) : Int := max i128Min (min i128Max n)

def checkedAdd (a b : Int) : Option Int := i128? (a + b)

def checkedSub (a b : Int) : Option Int := i128? (a - b)

def checkedMul (a b : Int) : Option Int := i128? (a * b)

/-- Checked division: a zero divisor is a failure too. -/
def checkedDiv (a b : Int) : Option Int := if b = 0 then none else i128? (a.tdiv b)

def saturatingSub (a b : Int) : Int := clampI128 (a - b)

/-- Truncation to 32 bits, as an unsigned cast does it. -/
def toU32 (n : Int) : Nat := (n % 4294967296).toNat

theorem i128?_eq_some {n m : Int} : i128? n = some m ↔ InI128 n ∧ m = n := by
  unfold i128?
  by_cases h : InI128 n
  · simp [h, eq_comm]
  · simp [h]

theorem i128?_of_in {n : Int} (h : InI128 n) : i128? n = some n := if_pos h

theorem clampI128_of_in {n : Int} (h : InI128 n) : clampI128 n = n := by
  unfold clampI128
  rw [min_eq_right h.2, max_eq_right h.1]

theorem inI128_of_nonneg {n : Int} (h₀ : 0 ≤ n) (h : n ≤ i128Max) : InI128 n := by
  unfold InI128 i128Min
  omega

/-- What saturating subtraction measures: the part of a balance that came on
top of the balance before, provided that part is itself representable. -/
theorem saturatingSub_add_left {b r : Int} (h₀ : 0 ≤ r) (h : r ≤ i128Max) :
    saturatingSub (b + r) b = r := by
  unfold saturatingSub
  rw [show b + r - b = r by omega]
  exact clampI128_of_in (inI128_of_nonneg h₀ h)

theorem saturatingSub_nonneg {a b : Int} (ha : 0 ≤ a) (hb : 0 ≤ b) (ha' : a ≤ i128Max)
    (hb' : b ≤ i128Max) : saturatingSub a b = a - b := by
  refine clampI128_of_in ⟨?_, ?_⟩
  · unfold i128Min; unfold i128Max at hb'; omega
  · omega

theorem saturatingSub_of_le {a b : Int} (hb : 0 ≤ b) (h : b ≤ a) (ha : a ≤ i128Max) :
    saturatingSub a b = a - b :=
  saturatingSub_nonneg (le_trans hb h) hb ha (le_trans h ha)

theorem saturatingSub_nonpos {a b : Int} (h : a ≤ b) : saturatingSub a b ≤ 0 := by
  have hmin : min i128Max (a - b) ≤ 0 := le_trans (min_le_right _ _) (by omega)
  exact max_le (by decide) hmin

theorem toU32_of_lt {n : Int} (h₀ : 0 ≤ n) (h : n < 4294967296) : toU32 n = n.toNat := by
  unfold toU32
  rw [Int.emod_eq_of_lt h₀ h]

/-! ## Unsigned 64-bit -/

def u64Max : Nat := 18446744073709551615

def u128Max : Nat := 340282366920938463463374607431768211455

/-- Saturating addition of two unsigned 64-bit quantities. -/
def saturatingAddU64 (a b : Nat) : Nat := min (a + b) u64Max

/-- Checked addition. -/
def addU64? (a b : UInt64) : Option UInt64 :=
  if a.toNat + b.toNat ≤ u64Max then some (a + b) else none

/-- Checked subtraction. -/
def subU64? (a b : UInt64) : Option UInt64 :=
  if b.toNat ≤ a.toNat then some (a - b) else none

theorem toNat_le_u64Max (a : UInt64) : a.toNat ≤ u64Max := by
  have := a.toNat_lt
  unfold u64Max
  omega

theorem addU64?_eq_some {a b c : UInt64} :
    addU64? a b = some c ↔ c.toNat = a.toNat + b.toNat := by
  unfold addU64? u64Max
  by_cases h : a.toNat + b.toNat ≤ 18446744073709551615
  · rw [if_pos h]
    have hadd : (a + b).toNat = a.toNat + b.toNat := by
      rw [UInt64.toNat_add, Nat.mod_eq_of_lt (by omega)]
    constructor
    · rintro ⟨⟩
      exact hadd
    · intro hc
      rw [Option.some.injEq, ← UInt64.toNat_inj, hadd, hc]
  · rw [if_neg h]
    constructor
    · intro hc; cases hc
    · intro hc
      have := c.toNat_lt
      omega

theorem addU64?_eq_none {a b : UInt64} : addU64? a b = none ↔ u64Max < a.toNat + b.toNat := by
  unfold addU64?
  by_cases h : a.toNat + b.toNat ≤ u64Max
  · simp [h]
  · simp [h, Nat.lt_of_not_le h]

theorem subU64?_eq_some {a b c : UInt64} :
    subU64? a b = some c ↔ a.toNat = c.toNat + b.toNat := by
  unfold subU64?
  by_cases h : b.toNat ≤ a.toNat
  · rw [if_pos h]
    have hsub : (a - b).toNat = a.toNat - b.toNat := UInt64.toNat_sub_of_le a b h
    constructor
    · rintro ⟨⟩
      omega
    · intro hc
      rw [Option.some.injEq, ← UInt64.toNat_inj, hsub]
      omega
  · rw [if_neg h]
    constructor
    · intro hc; cases hc
    · intro hc; omega

theorem subU64?_isSome {a b : UInt64} (h : b.toNat ≤ a.toNat) : (subU64? a b).isSome = true := by
  rw [subU64?, if_pos h]
  rfl

end Bounded
