/-
# `BlendPool.Handler.Books` — the accounting the actions are for

Six amounts of USDC in four hands: the counter the handler keeps of what it
supplied, the pool's liquid and delegated USDC, the USDC Blend holds and the
handler's position in it, and what the handler itself holds.  A `Flow` is one
way to move them.  Everything the money actions do is one of six flows, and what
a flow preserves is arithmetic:

| | |
| :-- | :-- |
| `pot` | liquid, in Blend and on the handler, together: no flow changes it |
| `pooled` | liquid and delegated together: a flow adds what it donates |
| `gap` | delegated less principal: a flow adds what it came back short |
| `stake` | position and handler's USDC less principal: shortfalls add to it, donations take |

No contract, no storage and no error path appears here; that the handler's
entry points perform flows is `BlendPool.Handler.Flows`.
-/
import BlendPool.Lib.Bounded

namespace BlendPool.Handler

open Bounded

@[ext]
structure Books where
  principal : Int
  liquid : Int
  delegated : Int
  held : Int
  position : Int
  usdc : Int
  deriving DecidableEq

namespace Books

/-- USDC outside the pool's delegated counter, wherever it is. -/
def pot (b : Books) : Int := b.liquid + b.held + b.usdc

/-- What the pool counts as its own. -/
def pooled (b : Books) : Int := b.liquid + b.delegated

/-- What the pool believes is out there, beyond what the handler accounts for. -/
def gap (b : Books) : Int := b.delegated - b.principal

/-- What is in the handler's hands beyond what it accounts for: unharvested interest. -/
def stake (b : Books) : Int := b.position + b.usdc - b.principal

end Books

inductive Flow where
  /-- nothing moves -/
  | idle
  /-- `amount` of the pool's liquid balance into Blend -/
  | toBlend (amount : Int)
  /-- `redeemed` out of Blend, `amount` back into the pool -/
  | fromBlend (amount redeemed : Int)
  /-- `redeemed` out of Blend, the principal back into it, the rest donated -/
  | harvest (redeemed : Int)
  /-- `redeemed` out of Blend and into the pool, principal first -/
  | unwind (redeemed : Int)
  /-- an unwind with nothing to take out -/
  | reset
  deriving DecidableEq

namespace Flow

def apply (b : Books) : Flow → Books
  | .idle => b
  | .toBlend amount =>
      { b with
        principal := b.principal + amount
        liquid := b.liquid - amount
        delegated := b.delegated + amount
        held := b.held + amount
        position := b.position + amount }
  | .fromBlend amount redeemed =>
      { principal := b.principal - amount
        liquid := b.liquid + amount
        delegated := b.delegated - amount
        held := b.held - redeemed
        position := b.position - redeemed
        usdc := b.usdc + redeemed - amount }
  | .harvest redeemed =>
      { b with
        principal := min b.principal redeemed
        liquid := b.liquid + (redeemed - min b.principal redeemed)
        held := b.held - redeemed + min b.principal redeemed
        position := b.position - redeemed + min b.principal redeemed }
  | .unwind redeemed =>
      { b with
        principal := 0
        liquid := b.liquid + redeemed
        delegated := b.delegated - min redeemed b.principal
        held := b.held - redeemed
        position := b.position - redeemed }
  | .reset => { b with principal := 0 }

/-- When a flow may happen. -/
def Legal (b : Books) : Flow → Prop
  | .idle => True
  | .toBlend amount => 0 ≤ amount ∧ b.principal + amount ≤ i128Max
  | .fromBlend amount redeemed =>
      0 < amount ∧ amount ≤ b.principal ∧ 0 ≤ redeemed ∧ redeemed ≤ amount
  | .harvest redeemed | .unwind redeemed => 0 < b.principal ∧ 0 ≤ redeemed
  | .reset => b.principal ≤ 0

/-- By how much what came back fell short of the principal. -/
def shortfall (b : Books) : Flow → Int
  | .harvest redeemed | .unwind redeemed => max 0 (b.principal - redeemed)
  | .idle | .toBlend _ | .fromBlend _ _ | .reset => 0

/-- What was donated to the pool. -/
def donated (b : Books) : Flow → Int
  | .harvest redeemed | .unwind redeemed => max 0 (redeemed - b.principal)
  | .idle | .toBlend _ | .fromBlend _ _ | .reset => 0

/-- What came out of Blend, if anything was taken out. -/
def redeemed : Flow → Option Int
  | .fromBlend _ redeemed | .harvest redeemed | .unwind redeemed => some redeemed
  | .idle | .toBlend _ | .reset => none

/-- The flows of the actions that take everything out of Blend, and of those
that do not; nothing may move in either. -/
def Fits (drains : Bool) : Flow → Prop
  | .idle => True
  | .toBlend _ | .fromBlend _ _ => drains = false
  | .harvest _ | .unwind _ | .reset => drains = true

variable {b : Books} {f : Flow}

theorem shortfall_nonneg (b : Books) (f : Flow) : 0 ≤ f.shortfall b := by
  cases f with
  | harvest _ | unwind _ => exact le_max_left _ _
  | idle | toBlend _ | fromBlend _ _ | reset => exact le_refl 0

theorem donated_nonneg (b : Books) (f : Flow) : 0 ≤ f.donated b := by
  cases f with
  | harvest _ | unwind _ => exact le_max_left _ _
  | idle | toBlend _ | fromBlend _ _ | reset => exact le_refl 0

/-- A partial move reveals no loss; a drain reveals that of each withdrawal. -/
theorem shortfall_of_fits {drains : Bool} (h : f.Fits drains) :
    f.shortfall b =
      if drains then (f.redeemed.toList.map fun r => max 0 (b.principal - r)).sum else 0 := by
  cases f with
  | idle =>
      show 0 = ite _ 0 0
      rw [ite_self]
  | toBlend _ | fromBlend _ _ =>
      cases (h : drains = false)
      rfl
  | harvest r | unwind r =>
      cases (h : drains = true)
      exact List.sum_singleton.symm
  | reset =>
      cases (h : drains = true)
      rfl

/-- A partial move donates nothing; a drain, what came out beyond the principal. -/
theorem donated_of_fits {drains : Bool} (h : f.Fits drains) :
    f.donated b =
      if drains then (f.redeemed.toList.map fun r => max 0 (r - b.principal)).sum else 0 := by
  cases f with
  | idle =>
      show 0 = ite _ 0 0
      rw [ite_self]
  | toBlend _ | fromBlend _ _ =>
      cases (h : drains = false)
      rfl
  | harvest r | unwind r =>
      cases (h : drains = true)
      exact List.sum_singleton.symm
  | reset =>
      cases (h : drains = true)
      rfl

theorem principal_apply_nonneg (hp : 0 ≤ b.principal) (h : f.Legal b) :
    0 ≤ (f.apply b).principal := by
  cases f with
  | idle => exact hp
  | toBlend amount => exact Int.add_nonneg hp h.1
  | fromBlend amount redeemed => exact Int.sub_nonneg_of_le h.2.1
  | harvest redeemed => exact le_min h.1.le h.2
  | unwind _ | reset => exact le_refl 0

theorem principal_apply_le (hp : b.principal ≤ i128Max) (h : f.Legal b) :
    (f.apply b).principal ≤ i128Max := by
  cases f with
  | idle => exact hp
  | toBlend amount => exact h.2
  | fromBlend amount redeemed => exact (Int.sub_le_self _ h.1.le).trans hp
  | harvest redeemed => exact (min_le_left _ _).trans hp
  | unwind _ | reset =>
      show (0 : Int) ≤ i128Max
      decide

theorem pot_apply (b : Books) (f : Flow) : (f.apply b).pot = b.pot := by
  cases f with
  | idle | reset => rfl
  | toBlend _ | fromBlend _ _ | harvest _ | unwind _ =>
      dsimp only [apply, Books.pot]
      omega

theorem pooled_apply (b : Books) (f : Flow) :
    (f.apply b).pooled = b.pooled + f.donated b := by
  cases f with
  | idle | toBlend _ | fromBlend _ _ | harvest _ | unwind _ | reset =>
      dsimp only [apply, Books.pooled, donated]
      omega

theorem gap_apply (hp : 0 ≤ b.principal) (h : f.Legal b) :
    (f.apply b).gap = b.gap + f.shortfall b := by
  cases f with
  | idle | toBlend _ | fromBlend _ _ | harvest _ | unwind _ =>
      dsimp only [apply, Books.gap, shortfall]
      omega
  | reset =>
      have hzero : b.principal = 0 := le_antisymm h hp
      dsimp only [apply, Books.gap, shortfall]
      omega

theorem stake_apply (hp : 0 ≤ b.principal) (h : f.Legal b) :
    (f.apply b).stake = b.stake + f.shortfall b - f.donated b := by
  cases f with
  | idle | toBlend _ | fromBlend _ _ | harvest _ | unwind _ =>
      dsimp only [apply, Books.stake, shortfall, donated]
      omega
  | reset =>
      have hzero : b.principal = 0 := le_antisymm h hp
      dsimp only [apply, Books.stake, shortfall, donated]
      omega

end Flow

end BlendPool.Handler
