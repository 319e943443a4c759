/-
# `BlendPool.Handler.State` — what the automation handler stores

One record for the handler's instance storage, with the defaults the getters
fall back to already in place (`constructor` writes them), plus the persistent
set of event ids.  Quantities of tokens are `i128` and appear as integers;
basis points, ledgers and timestamps are unsigned and appear as naturals.  The
errors and the events are those of `error.rs` and `events.rs`, with the texts
of the assertions.
-/
import BlendPool.Host
import BlendPool.Lib.Bounded
import BlendPool.Verification.Contract

namespace BlendPool.Handler

open Bounded Verification

/-- `BPS_DEN`: basis points in one. -/
def bpsDen : Int := 10000

theorem bpsDen_pos : 0 < bpsDen := by decide

/-- `BLEND_HEALTHY_STATUS_MAX`: above it the Blend pool is frozen or in setup. -/
def blendHealthyStatusMax : Nat := 3

/-- `MAX_REFERENCE_BLOCK_AGE`, in ledgers. -/
def maxReferenceBlockAge : Nat := 200

inductive RebalanceAction where
  | rebalance
  | harvestYield
  deriving DecidableEq, Repr

structure XlmEnvelope where
  eventId : BytesN 20
  payload : Bytes

structure Ed25519SignatureData where
  signatures : List Ed25519Signature
  signers : List Ed25519PubKey
  referenceBlock : Nat

/-- The handler's storage; `eventSeen` is the set of the keys `EventSeen(_)`. -/
structure Storage where
  admin : Address
  pendingAdmin : Option Address
  verificationContract : Address
  blendedPool : Address
  blendPool : Address
  usdc : Address
  xlm : Address
  blndTreasury : Address
  usdcReserveTokenId : Nat
  targetRatioBps : Nat
  rebalanceBandBps : Nat
  criticalLiquidFloorBps : Nat
  minTotalUsdc : Int
  maxRebalanceAmount : Int
  minRebalanceAmount : Int
  rebalanceCooldownSecs : Nat
  lastRebalanceTs : Nat
  lastHarvestTs : Nat
  principalSupplied : Int
  paused : Bool
  version : String
  eventSeen : Finset (BytesN 20)

/-- The storage with another principal. -/
def Storage.withPrincipal (st : Storage) (principal : Int) : Storage :=
  { st with principalSupplied := principal }

def Storage.withLastRebalance (st : Storage) (ts : Nat) : Storage :=
  { st with lastRebalanceTs := ts }

def Storage.withLastHarvest (st : Storage) (ts : Nat) : Storage :=
  { st with lastHarvestTs := ts }

def Storage.markSeen (st : Storage) (eventId : BytesN 20) : Storage :=
  { st with eventSeen := insert eventId st.eventSeen }

/-! ## Calls, errors and events -/

/-- The state-changing calls the handler makes, with their arguments: the
contract, the token, the amount.  A withdrawal also has what it delivered, a
claim what it routed. -/
inductive ExtCall where
  | withdrawToDelegate (pool token : Address) (amount : Int)
  | depositFromDelegate (pool token : Address) (amount : Int)
  | donate (pool token : Address) (amount : Int)
  | supply (blend token : Address) (amount : Int)
  | withdraw (blend token : Address) (requested redeemed : Int)
  | claim (blend : Address) (reserveTokenIds : List Nat) (recipient : Address) (routed : Int)
  deriving DecidableEq

inductive LocalError where
  | paused
  | usdcLeak
  | invalidReserveTokenId
  deriving DecidableEq, Repr

inductive HandlerError where
  | invalidEnvelope
  | eventAlreadySeen
  | invalidReferenceBlock
  | unknownVerificationError
  | otherInvocationError
  /-- `HandlerError::from` of the verification contract's error -/
  | ofVerify (e : VerifyError)
  deriving DecidableEq, Repr

/-- Why a call rolled back. -/
inductive Failure where
  /-- the call returned an error, or panicked with one -/
  | handler (e : HandlerError)
  /-- `panic_with_error!` of a code of this contract -/
  | localError (e : LocalError)
  /-- `assert!` and `expect` -/
  | assertion (message : String)
  /-- `require_auth` -/
  | unauthorized
  /-- a contract that was called trapped -/
  | external
  /-- the call would have moved more than a balance holds -/
  | insufficient (c : ExtCall)
  /-- an arithmetic operation left its type's range -/
  | overflow
  deriving DecidableEq

inductive Event where
  | rebalanceExecuted (direction : Symbol) (amount liquidAfter delegatedAfter principalAfter : Int)
  | harvestCompleted (interestDonated blndRouted principalAfter : Int)
  | configUpdated (field : Symbol) (value : Int)
  | pauseToggled (paused : Bool)
  | emergencyUnwound (redeemed principalBefore : Int)
  | addressConfigUpdated (field : Symbol) (value : Address)
  | badDebtDetected (previousPrincipal redeemable shortfall : Int)
  | criticalRebalance (liquidRatioBps floorBps bypassedCooldownSecs : Nat)
  | criticalBypassUnavailable (liquidRatioBps floorBps : Nat) (principalSupplied : Int)
      (reason : Symbol)
  | harvestPartial (blndRouted : Int)
  | harvestSkipped (reason : Symbol)
  | verified (eventId : BytesN 20)
  | contractUpgraded (version : String)
  deriving DecidableEq

/-- `DIRECTION_TO_BLEND`. -/
def directionToBlend : Symbol := "to_blend"

/-- `DIRECTION_FROM_BLEND`. -/
def directionFromBlend : Symbol := "frm_blnd"

/-! ## The constructor -/

/-- The arguments of `__constructor`. -/
structure Config where
  admin : Address
  verificationContract : Address
  blendedPool : Address
  blendPool : Address
  usdc : Address
  xlm : Address
  blndTreasury : Address
  usdcReserveTokenId : Nat
  targetRatioBps : Nat
  rebalanceBandBps : Nat
  minTotalUsdc : Int
  rebalanceCooldownSecs : Nat
  criticalLiquidFloorBps : Nat

/-- The lower end of the routine window, `target.saturating_sub(band)`. -/
def lowerBandBps (target band : Nat) : Nat := target - band

/-- `__constructor`. -/
def constructor (c : Config) : Except Failure Storage :=
  if ¬ (0 < c.targetRatioBps ∧ c.targetRatioBps < 10000) then
    .error (.assertion "target_ratio_bps must be in (0, 10000)")
  else if ¬ c.rebalanceBandBps < 10000 then
    .error (.assertion "rebalance_band_bps must be < 10000")
  else if ¬ c.criticalLiquidFloorBps < lowerBandBps c.targetRatioBps c.rebalanceBandBps then
    .error (.assertion "critical_liquid_floor_bps must be < target_ratio_bps - rebalance_band_bps")
  else if ¬ 0 ≤ c.minTotalUsdc then
    .error (.assertion "min_total_usdc must be non-negative")
  else if c.usdcReserveTokenId % 2 = 0 then
    .error (.localError .invalidReserveTokenId)
  else
    .ok
      { admin := c.admin
        pendingAdmin := none
        verificationContract := c.verificationContract
        blendedPool := c.blendedPool
        blendPool := c.blendPool
        usdc := c.usdc
        xlm := c.xlm
        blndTreasury := c.blndTreasury
        usdcReserveTokenId := c.usdcReserveTokenId
        targetRatioBps := c.targetRatioBps
        rebalanceBandBps := c.rebalanceBandBps
        criticalLiquidFloorBps := c.criticalLiquidFloorBps
        minTotalUsdc := c.minTotalUsdc
        maxRebalanceAmount := 0
        minRebalanceAmount := 0
        rebalanceCooldownSecs := c.rebalanceCooldownSecs
        lastRebalanceTs := 0
        lastHarvestTs := 0
        principalSupplied := 0
        paused := false
        version := "0.1.0"
        eventSeen := ∅ }

/-- What the constructor promises about the storage it writes. -/
structure Fresh (st : Storage) : Prop where
  target_pos : 0 < st.targetRatioBps
  target_lt : st.targetRatioBps < 10000
  band_lt : st.rebalanceBandBps < 10000
  floor_lt : st.criticalLiquidFloorBps < lowerBandBps st.targetRatioBps st.rebalanceBandBps
  minTotal_nonneg : 0 ≤ st.minTotalUsdc
  maxAmount_eq : st.maxRebalanceAmount = 0
  minAmount_eq : st.minRebalanceAmount = 0
  lastRebalance_eq : st.lastRebalanceTs = 0
  lastHarvest_eq : st.lastHarvestTs = 0
  principal_eq : st.principalSupplied = 0
  unpaused : st.paused = false
  reserve_odd : st.usdcReserveTokenId % 2 = 1
  unseen : st.eventSeen = ∅

theorem constructor_fresh {c : Config} {st : Storage} (h : constructor c = .ok st) : Fresh st := by
  rw [constructor] at h
  split at h
  · cases h
  · next htarget =>
      split at h
      · cases h
      · next hband =>
          split at h
          · cases h
          · next hfloor =>
              split at h
              · cases h
              · next hmin =>
                  split at h
                  · cases h
                  · next hodd =>
                      cases h
                      have htarget := not_not.mp htarget
                      exact
                        { target_pos := htarget.1
                          target_lt := htarget.2
                          band_lt := not_not.mp hband
                          floor_lt := not_not.mp hfloor
                          minTotal_nonneg := not_not.mp hmin
                          maxAmount_eq := rfl
                          minAmount_eq := rfl
                          lastRebalance_eq := rfl
                          lastHarvest_eq := rfl
                          principal_eq := rfl
                          unpaused := rfl
                          reserve_odd := Nat.mod_two_ne_zero.mp hodd
                          unseen := rfl }

end BlendPool.Handler
