/-
# `BlendPool.Handler.Regulator` — the policy as a regulator

Seen from the policy a pool is two numbers, what is liquid and what could be
pulled, and a configuration is four: the target, the band, the dust floor and the
cap.  A tick makes the capped correction.  `room` is how far ticks can still bring
the liquid balance in the one direction it can go; a tick that moves takes the
cap off it, or all of it.

There is no handler here, and no contract: `BlendPool.Handler.Convergence` says
when a tick of the handler is a tick of the regulator.
-/
import Mathlib.Algebra.Order.Floor.Div
import BlendPool.Handler.Policy

namespace BlendPool.Handler

structure Holding where
  liquid : Int
  principal : Int

structure Regulator where
  target : Int
  band : Int
  minFloor : Int
  maxCap : Int

/-- What a decision does to the two numbers. -/
def Decision.apply (h : Holding) : Decision → Holding
  | .hold => h
  | .toBlend amount => ⟨h.liquid - amount, h.principal + amount⟩
  | .fromBlend amount => ⟨h.liquid + amount, h.principal - amount⟩

namespace Regulator

variable (R : Regulator) (h : Holding)

def decision : Decision :=
  (correction R.minFloor R.target R.band h.liquid h.principal).limit R.maxCap

def tick : Holding := (R.decision h).apply h

/-- How far the liquid balance can go towards the target. -/
def room : Int :=
  if R.target ≤ h.liquid then h.liquid - R.target
  else max 0 (min (R.target - h.liquid) h.principal)

/-- Why a tick does nothing: inside the band, over it by dust, or under it with
nothing to pull but dust. -/
def Stalled : Prop :=
  (R.target - R.band ≤ h.liquid ∧ h.liquid ≤ R.target + R.band) ∨
    (R.target + R.band < h.liquid ∧ h.liquid - R.target < R.minFloor) ∨
    (h.liquid < R.target - R.band ∧
      min (R.target - h.liquid) h.principal < max 1 R.minFloor)

instance decStalled : Decidable (R.Stalled h) := inferInstanceAs (Decidable (_ ∨ _ ∨ _))

variable {R h}

theorem room_le : R.room h ≤ (h.liquid - R.target).natAbs := by
  rw [room]
  split
  · omega
  · omega

/-! ## One tick -/

theorem decision_toBlend {amount : Int} (hd : R.decision h = .toBlend amount) :
    R.target + R.band < h.liquid ∧ amount = capped R.maxCap (h.liquid - R.target) := by
  obtain ⟨n, hn, rfl⟩ := limit_toBlend.mp hd
  obtain ⟨hover, -, rfl⟩ := correction_toBlend.mp hn
  exact ⟨hover, rfl⟩

theorem decision_fromBlend (hband : 0 ≤ R.band) {amount : Int}
    (hd : R.decision h = .fromBlend amount) :
    h.liquid < R.target - R.band ∧ 1 ≤ min (R.target - h.liquid) h.principal ∧
      amount = capped R.maxCap (min (R.target - h.liquid) h.principal) := by
  obtain ⟨n, hn, rfl⟩ := limit_fromBlend.mp hd
  obtain ⟨hunder, hfloor, rfl⟩ := (correction_fromBlend hband).mp hn
  exact ⟨hunder, (le_max_left _ _).trans hfloor, rfl⟩

theorem decision_hold (hband : 0 ≤ R.band) : R.decision h = .hold ↔ R.Stalled h := by
  have hlimit : R.decision h = .hold ↔
      correction R.minFloor R.target R.band h.liquid h.principal = .hold := by
    rw [decision]
    cases correction R.minFloor R.target R.band h.liquid h.principal with
    | hold => exact Iff.rfl
    | toBlend n => simp [Decision.limit]
    | fromBlend n => simp [Decision.limit]
  rw [hlimit, correction, Stalled]
  rcases lt_or_ge (R.target + R.band) h.liquid with hover | hnotOver
  · rw [if_pos hover]
    constructor
    · intro hhold
      split at hhold
      · cases hhold
      · next hdust => exact .inr (.inl ⟨hover, not_le.mp hdust⟩)
    · intro hstalled
      exact if_neg (by omega)
  · rw [if_neg (not_lt.mpr hnotOver)]
    rcases lt_or_ge h.liquid (R.target - R.band) with hunder | hinside
    · rw [if_pos hunder]
      constructor
      · intro hhold
        split at hhold
        · cases hhold
        · next hdust => exact .inr (.inr ⟨hunder, not_le.mp hdust⟩)
      · intro hstalled
        exact if_neg (by omega)
    · rw [if_neg (not_lt.mpr hinside)]
      exact ⟨fun _ => .inl ⟨hinside, hnotOver⟩, fun _ => rfl⟩

/-- What a tick that moves achieves: it comes closer without crossing the target,
in the one direction, never pulls what is not there, and takes the capped room off
the room. -/
structure Approaches (R : Regulator) (h h' : Holding) : Prop where
  above : R.target ≤ h.liquid → R.target ≤ h'.liquid
  below : h.liquid ≤ R.target → h'.liquid ≤ R.target
  closer : (h'.liquid - R.target).natAbs < (h.liquid - R.target).natAbs
  drawn : min 0 h.principal ≤ h'.principal
  moving : 0 < R.room h
  room : R.room h' = R.room h - capped R.maxCap (R.room h)

theorem approaches_toBlend (hover : R.target < h.liquid) {amount : Int}
    (hamount : amount = capped R.maxCap (h.liquid - R.target)) :
    R.Approaches h ((Decision.toBlend amount).apply h) := by
  have hroom : R.room h = h.liquid - R.target := if_pos hover.le
  have hpos : 0 < amount := by
    rw [hamount]
    exact capped_pos (Int.sub_pos_of_lt hover)
  have hle : amount ≤ h.liquid - R.target := by
    rw [hamount]
    exact capped_le _ _
  have hstays : R.target ≤ h.liquid - amount := by omega
  have hleft : R.room ((Decision.toBlend amount).apply h) = h.liquid - amount - R.target :=
    if_pos hstays
  exact
    { above := fun _ => hstays
      below := fun hbelow => absurd hover (not_lt.mpr hbelow)
      closer := by
        show (h.liquid - amount - R.target).natAbs < _
        omega
      drawn := by
        show _ ≤ h.principal + amount
        omega
      moving := by omega
      room := by
        rw [hleft, hroom, ← hamount]
        omega }

theorem approaches_fromBlend (hunder : h.liquid < R.target)
    (hunit : 1 ≤ min (R.target - h.liquid) h.principal) {amount : Int}
    (hamount : amount = capped R.maxCap (min (R.target - h.liquid) h.principal)) :
    R.Approaches h ((Decision.fromBlend amount).apply h) := by
  have hroom : R.room h = min (R.target - h.liquid) h.principal :=
    (if_neg (not_le.mpr hunder)).trans (max_eq_right (by omega))
  have hpos : 0 < amount := by
    rw [hamount]
    exact capped_pos hunit
  have hle : amount ≤ min (R.target - h.liquid) h.principal := by
    rw [hamount]
    exact capped_le _ _
  have hstays : h.liquid + amount ≤ R.target := by omega
  -- on the target there is no room; short of it, both bounds have come down
  have hleft : R.room ((Decision.fromBlend amount).apply h) =
      min (R.target - h.liquid) h.principal - amount := by
    show (if R.target ≤ h.liquid + amount then h.liquid + amount - R.target
      else max 0 (min (R.target - (h.liquid + amount)) (h.principal - amount))) = _
    split
    · omega
    · omega
  exact
    { above := fun habove => absurd hunder (not_lt.mpr habove)
      below := fun _ => hstays
      closer := by
        show (h.liquid + amount - R.target).natAbs < _
        omega
      drawn := by
        show _ ≤ h.principal - amount
        omega
      moving := by omega
      room := by
        rw [hleft, hroom, ← hamount] }

theorem tick_approaches (hband : 0 ≤ R.band) (hmove : R.decision h ≠ .hold) :
    R.Approaches h (R.tick h) := by
  cases hd : R.decision h with
  | hold => exact absurd hd hmove
  | toBlend amount =>
      obtain ⟨hover, hamount⟩ := decision_toBlend hd
      rw [tick, hd]
      exact approaches_toBlend (by omega) hamount
  | fromBlend amount =>
      obtain ⟨hunder, hunit, hamount⟩ := decision_fromBlend hband hd
      rw [tick, hd]
      exact approaches_fromBlend (by omega) hunit hamount

theorem stalled_of_room (hband : 0 ≤ R.band) (hroom : R.room h = 0) : R.Stalled h := by
  rw [← decision_hold hband]
  by_contra hmove
  exact absurd hroom (tick_approaches hband hmove).moving.ne'

theorem stalled_tick (hband : 0 ≤ R.band) (hcap : R.maxCap = 0) : R.Stalled (R.tick h) := by
  rcases Decidable.em (R.decision h = .hold) with hhold | hmove
  · rw [tick, hhold]
    exact (decision_hold hband).mp hhold
  · refine stalled_of_room hband ?_
    rw [(tick_approaches hband hmove).room, hcap]
    exact Int.sub_self _

/-! ## How many ticks move -/

theorem ceilDiv_sub {n c : ℕ} (hn : 0 < n) (hc : 0 < c) :
    1 + (n - min c n) ⌈/⌉ c ≤ n ⌈/⌉ c := by
  rcases le_or_gt c n with hle | hlt
  · have hshift : n + c - 1 = n - c + c - 1 + c := by omega
    rw [min_eq_left hle, Nat.ceilDiv_eq_add_pred_div, Nat.ceilDiv_eq_add_pred_div, hshift,
      Nat.add_div_right _ hc]
    omega
  · rw [min_eq_right hlt.le, Nat.sub_self, zero_ceilDiv, Nat.ceilDiv_eq_add_pred_div]
    exact (Nat.one_le_div_iff hc).mpr (by omega)

/-- The number of capped moves there is room for. -/
def moves (R : Regulator) (h : Holding) : ℕ := (R.room h).toNat ⌈/⌉ R.maxCap.toNat

theorem moves_le (hcap : 0 < R.maxCap) :
    R.moves h ≤ (h.liquid - R.target).natAbs ⌈/⌉ R.maxCap.toNat := by
  have hc : 0 < R.maxCap.toNat := by omega
  have hroom : (R.room h).toNat ≤ (h.liquid - R.target).natAbs := Int.toNat_le.mpr room_le
  exact (gc_mul_ceilDiv hc).monotone_l hroom

theorem moves_tick (hband : 0 ≤ R.band) (hcap : 0 < R.maxCap) (hmove : R.decision h ≠ .hold) :
    1 + R.moves (R.tick h) ≤ R.moves h := by
  have happroach := tick_approaches hband hmove
  have hpos := happroach.moving
  have hnext : (R.room (R.tick h)).toNat =
      (R.room h).toNat - min R.maxCap.toNat (R.room h).toNat := by
    rw [happroach.room, capped]
    split
    · omega
    · omega
  rw [moves, hnext]
  exact ceilDiv_sub (by omega) (by omega)

end Regulator

end BlendPool.Handler
