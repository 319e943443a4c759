/-
# `BlendPool.Handler.Rebalance` — the policy and its two moves

`execute_rebalance` reads the pool, computes everything it needs before the
cooldown gate (`gauge`), and then supplies an excess to Blend, pulls a deficit
back, or does neither.  The dust floor returns before the residue check, all
other ends go through it.
-/
import BlendPool.Handler.Externals

namespace BlendPool.Handler

open Bounded

/-! ## The gauge -/

/-- The side of a delegate state that is USDC: tokens are ordered by address. -/
structure Side where
  liquid : Int
  delegated : Int
  total : Int

def usdcSide (st : Storage) (state : DelegateState) : Side :=
  if st.usdc < st.xlm then ⟨state.liquidA, state.delegatedA, state.totalA⟩
  else ⟨state.liquidB, state.delegatedB, state.totalB⟩

/-- `mul_div`: `a * b / c`, or an error. -/
def mulDiv (a b c : Int) : Except Failure Int :=
  match (checkedMul a b).bind fun v => checkedDiv v c with
  | some n => .ok n
  | none => .error (.handler .otherInvocationError)

/-- `ok_or(HandlerError::OtherInvocationError)`. -/
def okOr : Option Int → Except Failure Int
  | some n => .ok n
  | none => .error (.handler .otherInvocationError)

/-- What `execute_rebalance` computes before it decides. -/
structure Gauge where
  targetLiquid : Int
  upper : Int
  lower : Int
  cooldownActive : Bool
  liquidRatioBps : Nat
  isCritical : Bool

def cooldownActive (st : Storage) (now : Nat) : Bool :=
  now < saturatingAddU64 st.lastRebalanceTs st.rebalanceCooldownSecs

def isCritical (st : Storage) (liquidRatioBps : Nat) (liquidUsdc targetLiquid : Int) : Bool :=
  0 < st.criticalLiquidFloorBps ∧ liquidRatioBps < st.criticalLiquidFloorBps ∧
    liquidUsdc < targetLiquid

def gauge (st : Storage) (now : Nat) (liquidUsdc totalUsdc : Int) : Except Failure Gauge := do
  let targetLiquid ← mulDiv totalUsdc st.targetRatioBps bpsDen
  let band ← mulDiv totalUsdc st.rebalanceBandBps bpsDen
  let upper ← okOr (checkedAdd targetLiquid band)
  let ratio ← if 0 < totalUsdc then mulDiv liquidUsdc bpsDen totalUsdc else pure 0
  pure
    { targetLiquid := targetLiquid
      upper := upper
      lower := saturatingSub targetLiquid band
      cooldownActive := cooldownActive st now
      liquidRatioBps := toU32 ratio
      isCritical := isCritical st (toU32 ratio) liquidUsdc targetLiquid }

/-- The per-call cap; zero means no cap. -/
def capped (maxCap n : Int) : Int := if 0 < maxCap ∧ maxCap < n then maxCap else n

theorem capped_le (maxCap n : Int) : capped maxCap n ≤ n := by
  rw [capped]
  split
  · next h => exact h.2.le
  · exact le_refl n

/-! ### The gauge in range -/

/-- The USDC that should be liquid, of `total`. -/
def targetOf (st : Storage) (total : Int) : Int := total * st.targetRatioBps / bpsDen

/-- Half the width of the routine window. -/
def bandOf (st : Storage) (total : Int) : Int := total * st.rebalanceBandBps / bpsDen

/-- The liquid share in basis points, rounded down. -/
def ratioOf (side : Side) : Nat := (side.liquid * bpsDen / side.total).toNat

/-- The gauge of a snapshot on which nothing overflows. -/
def gaugeOf (st : Storage) (now : Nat) (side : Side) : Gauge where
  targetLiquid := targetOf st side.total
  upper := targetOf st side.total + bandOf st side.total
  lower := targetOf st side.total - bandOf st side.total
  cooldownActive := cooldownActive st now
  liquidRatioBps := ratioOf side
  isCritical := isCritical st (ratioOf side) side.liquid (targetOf st side.total)

/-- No product of the gauge overflows on a snapshot. -/
structure GaugeFits (st : Storage) (side : Side) : Prop where
  target : side.total * st.targetRatioBps ≤ i128Max
  band : side.total * st.rebalanceBandBps ≤ i128Max
  ratio : side.liquid * bpsDen ≤ i128Max

/-- The gauge of such a snapshot, with the share cast to 32 bits. -/
def gaugeAt (st : Storage) (now : Nat) (side : Side) : Gauge where
  targetLiquid := targetOf st side.total
  upper := targetOf st side.total + bandOf st side.total
  lower := targetOf st side.total - bandOf st side.total
  cooldownActive := cooldownActive st now
  liquidRatioBps := toU32 (side.liquid * bpsDen / side.total)
  isCritical := isCritical st (toU32 (side.liquid * bpsDen / side.total)) side.liquid
    (targetOf st side.total)

/-- An under-liquid snapshot on which no product of the gauge overflows. -/
structure UnderLiquid (st : Storage) (side : Side) : Prop where
  liquid_nonneg : 0 ≤ side.liquid
  liquid_le : side.liquid ≤ side.total
  below : side.liquid < targetOf st side.total - bandOf st side.total
  total_fits : side.total ≤ i128Max
  target_fits : side.total * st.targetRatioBps ≤ i128Max
  band_fits : side.total * st.rebalanceBandBps ≤ i128Max
  ratio_fits : side.liquid * bpsDen ≤ i128Max

theorem mulDiv_of_nonneg {a b c : Int} (ha : 0 ≤ a) (hb : 0 ≤ b) (hc : 0 < c)
    (h : a * b ≤ i128Max) : mulDiv a b c = .ok (a * b / c) := by
  have hab : 0 ≤ a * b := Int.mul_nonneg ha hb
  have hdiv : (a * b).tdiv c = a * b / c := Int.tdiv_eq_ediv_of_nonneg hab
  have hle : a * b / c ≤ i128Max := (Int.ediv_le_self c hab).trans h
  have hmul : checkedMul a b = some (a * b) := i128?_of_in (inI128_of_nonneg hab h)
  have hquot : checkedDiv (a * b) c = some (a * b / c) := by
    rw [checkedDiv, if_neg hc.ne', hdiv]
    exact i128?_of_in (inI128_of_nonneg (Int.ediv_nonneg hab hc.le) hle)
  rw [mulDiv, hmul, Option.bind_some, hquot]

theorem mulDiv_eq_ok {a b c n : Int} (ha : 0 ≤ a) (hb : 0 ≤ b) (hc : 0 < c) :
    mulDiv a b c = .ok n ↔ a * b ≤ i128Max ∧ a * b / c = n := by
  constructor
  · intro h
    rcases Decidable.em (a * b ≤ i128Max) with hfits | hover
    · rw [mulDiv_of_nonneg ha hb hc hfits] at h
      exact ⟨hfits, Except.ok.inj h⟩
    · -- the product overflows
      have hmul : checkedMul a b = none := if_neg fun hin => hover hin.2
      rw [mulDiv, hmul] at h
      cases h
  · rintro ⟨hfits, rfl⟩
    exact mulDiv_of_nonneg ha hb hc hfits

section Gauge

variable {st : Storage} {side : Side} {now : Nat}

theorem targetOf_nonneg (st : Storage) {total : Int} (h : 0 ≤ total) : 0 ≤ targetOf st total :=
  Int.ediv_nonneg (Int.mul_nonneg h (Int.natCast_nonneg _)) bpsDen_pos.le

theorem bandOf_nonneg (st : Storage) {total : Int} (h : 0 ≤ total) : 0 ≤ bandOf st total :=
  Int.ediv_nonneg (Int.mul_nonneg h (Int.natCast_nonneg _)) bpsDen_pos.le

theorem GaugeFits.target_le (h : GaugeFits st side) :
    targetOf st side.total ≤ i128Max / 10000 :=
  Int.ediv_le_ediv (by decide) h.target

theorem GaugeFits.band_le (h : GaugeFits st side) : bandOf st side.total ≤ i128Max / 10000 :=
  Int.ediv_le_ediv (by decide) h.band

theorem ratio_cast (hliquid : 0 ≤ side.liquid) (hle : side.liquid ≤ side.total)
    (htotal : 0 < side.total) :
    toU32 (side.liquid * bpsDen / side.total) = ratioOf side := by
  have hshare : side.liquid * bpsDen / side.total ≤ bpsDen := by
    refine Int.ediv_le_of_le_mul htotal ?_
    rw [Int.mul_comm]
    exact Int.mul_le_mul_of_nonneg_left hle bpsDen_pos.le
  refine toU32_of_lt (Int.ediv_nonneg ?_ htotal.le) (hshare.trans_lt (by decide))
  exact Int.mul_nonneg hliquid bpsDen_pos.le

theorem gauge_of_fits (hliquid : 0 ≤ side.liquid) (htotal : 0 < side.total)
    (h : GaugeFits st side) (now : Nat) :
    gauge st now side.liquid side.total = .ok (gaugeAt st now side) := by
  have htarget : mulDiv side.total st.targetRatioBps bpsDen = .ok (targetOf st side.total) :=
    mulDiv_of_nonneg htotal.le (Int.natCast_nonneg _) bpsDen_pos h.target
  have hband : mulDiv side.total st.rebalanceBandBps bpsDen = .ok (bandOf st side.total) :=
    mulDiv_of_nonneg htotal.le (Int.natCast_nonneg _) bpsDen_pos h.band
  have hratio : mulDiv side.liquid bpsDen side.total = .ok (side.liquid * bpsDen / side.total) :=
    mulDiv_of_nonneg hliquid bpsDen_pos.le htotal h.ratio
  have hmax : i128Max / 10000 + i128Max / 10000 ≤ i128Max := by decide
  have htargetPos := targetOf_nonneg st htotal.le
  have hbandPos := bandOf_nonneg st htotal.le
  have hupper : checkedAdd (targetOf st side.total) (bandOf st side.total) =
      some (targetOf st side.total + bandOf st side.total) :=
    i128?_of_in (inI128_of_nonneg (Int.add_nonneg htargetPos hbandPos)
      ((Int.add_le_add h.target_le h.band_le).trans hmax))
  have hlower : saturatingSub (targetOf st side.total) (bandOf st side.total) =
      targetOf st side.total - bandOf st side.total :=
    saturatingSub_nonneg htargetPos hbandPos (h.target_le.trans (by decide))
      (h.band_le.trans (by decide))
  rw [gauge, htarget]
  show (mulDiv side.total st.rebalanceBandBps bpsDen >>= _) = _
  rw [hband]
  show (okOr (checkedAdd (targetOf st side.total) (bandOf st side.total)) >>= _) = _
  rw [hupper]
  show (if 0 < side.total then _ else _) = _
  rw [if_pos htotal, hratio, gaugeAt, ← hlower]
  rfl

/-- On a snapshot that is not empty, the gauge is read exactly when nothing overflows. -/
theorem gauge_eq_ok (hliquid : 0 ≤ side.liquid) (htotal : 0 < side.total) {g : Gauge} :
    gauge st now side.liquid side.total = .ok g ↔
      GaugeFits st side ∧ gaugeAt st now side = g := by
  constructor
  · intro h
    have hread := h
    obtain ⟨target, htarget, h⟩ := Txn.except_do_eq_ok.mp h
    obtain ⟨band, hband, h⟩ := Txn.except_do_eq_ok.mp h
    obtain ⟨upper, -, h⟩ := Txn.except_do_eq_ok.mp h
    rw [if_pos htotal] at h
    obtain ⟨ratio, hratio, -⟩ := Txn.except_do_eq_ok.mp h
    have hfits : GaugeFits st side :=
      { target := ((mulDiv_eq_ok htotal.le (Int.natCast_nonneg _) bpsDen_pos).mp htarget).1
        band := ((mulDiv_eq_ok htotal.le (Int.natCast_nonneg _) bpsDen_pos).mp hband).1
        ratio := ((mulDiv_eq_ok hliquid bpsDen_pos.le htotal).mp hratio).1 }
    rw [gauge_of_fits hliquid htotal hfits] at hread
    exact ⟨hfits, Except.ok.inj hread⟩
  · rintro ⟨hfits, rfl⟩
    exact gauge_of_fits hliquid htotal hfits now

end Gauge

section UnderLiquid

variable {st : Storage} {side : Side}

theorem UnderLiquid.fits (h : UnderLiquid st side) : GaugeFits st side :=
  ⟨h.target_fits, h.band_fits, h.ratio_fits⟩

theorem UnderLiquid.total_pos (h : UnderLiquid st side) : 0 < side.total := by
  have hnonneg : 0 ≤ side.total := h.liquid_nonneg.trans h.liquid_le
  refine lt_of_le_of_ne hnonneg ?_
  intro hzero
  have hbelow := h.below
  rw [targetOf, bandOf, ← hzero, Int.zero_mul, Int.zero_mul] at hbelow
  exact absurd hbelow (not_lt.mpr h.liquid_nonneg)

theorem UnderLiquid.band_nonneg (h : UnderLiquid st side) : 0 ≤ bandOf st side.total :=
  bandOf_nonneg st h.total_pos.le

theorem UnderLiquid.target_le (h : UnderLiquid st side) :
    targetOf st side.total ≤ i128Max / 10000 := h.fits.target_le

theorem gauge_of_underLiquid (h : UnderLiquid st side) (now : Nat) :
    gauge st now side.liquid side.total = .ok (gaugeOf st now side) := by
  rw [gauge_of_fits h.liquid_nonneg h.total_pos h.fits, gaugeAt, gaugeOf,
    ratio_cast h.liquid_nonneg h.liquid_le h.total_pos]

end UnderLiquid

/-! ### Failures of the gauge -/

theorem mulDiv_error {a b c : Int} {e : Failure} (h : mulDiv a b c = .error e) :
    e = .handler .otherInvocationError := by
  rw [mulDiv] at h
  split at h
  · cases h
  · exact (Except.error.inj h).symm

theorem okOr_error {o : Option Int} {e : Failure} (h : okOr o = .error e) :
    e = .handler .otherInvocationError := by
  cases o with
  | none => exact (Except.error.inj h).symm
  | some n => cases h

theorem gauge_error {st : Storage} {now : Nat} {liquid total : Int} {e : Failure}
    (h : gauge st now liquid total = .error e) : e = .handler .otherInvocationError := by
  obtain h | ⟨_, h⟩ := Txn.except_do_error h
  · exact mulDiv_error h
  obtain h | ⟨_, h⟩ := Txn.except_do_error h
  · exact mulDiv_error h
  obtain h | ⟨_, h⟩ := Txn.except_do_error h
  · exact okOr_error h
  split at h
  · obtain h | ⟨_, h⟩ := Txn.except_do_error h
    · exact mulDiv_error h
    · cases h
  · cases h

/-! ## The two moves -/

/-- Over-liquid: supply the excess to Blend. -/
def rebalanceToBlend (env : Env) (st : Storage) (now : Nat) (g : Gauge)
    (liquidUsdc delegatedBefore : Int) : Exec Unit := do
  let natural ← Txn.orAbort (.handler .otherInvocationError) (checkedSub liquidUsdc g.targetLiquid)
  if natural < st.minRebalanceAmount then pure ()
  else do
    let amount := capped st.maxRebalanceAmount natural
    withdrawToDelegate env st.blendedPool st.usdc amount
    blendSubmitSupply env st.blendPool st.usdc amount
    let principalAfter ← Txn.orAbort (.handler .otherInvocationError)
      (checkedAdd st.principalSupplied amount)
    setPrincipalSupplied principalAfter
    setLastRebalanceTs now
    let liquidAfter ← Txn.orAbort .overflow (i128? (liquidUsdc - amount))
    let delegatedAfter ← Txn.orAbort .overflow (i128? (delegatedBefore + amount))
    publish (.rebalanceExecuted directionToBlend amount liquidAfter delegatedAfter principalAfter)
    assertNoUsdcResidue

/-- The bypass is at work: critical, and the cooldown would have stopped it. -/
def Gauge.Bypass (g : Gauge) : Prop := g.isCritical = true ∧ g.cooldownActive = true

instance decBypass (g : Gauge) : Decidable g.Bypass :=
  inferInstanceAs (Decidable (g.isCritical = true ∧ g.cooldownActive = true))

/-- The event of a pull that ignored the cooldown. -/
def criticalRebalanceEvent (st : Storage) (now : Nat) (g : Gauge) : Event :=
  .criticalRebalance g.liquidRatioBps st.criticalLiquidFloorBps
    (saturatingAddU64 st.lastRebalanceTs st.rebalanceCooldownSecs - now)

/-- The event of a bypass that had nothing to pull. -/
def criticalUnavailableEvent (st : Storage) (g : Gauge) : Event :=
  .criticalBypassUnavailable g.liquidRatioBps st.criticalLiquidFloorBps st.principalSupplied
    "no_princ"

/-- Under-liquid: pull from Blend to top up. -/
def rebalanceFromBlend (env : Env) (st : Storage) (now : Nat) (g : Gauge)
    (liquidUsdc delegatedBefore : Int) : Exec Unit := do
  let natural ← Txn.orAbort (.handler .otherInvocationError) (checkedSub g.targetLiquid liquidUsdc)
  let bounded := min natural st.principalSupplied
  if bounded < st.minRebalanceAmount then pure ()
  else do
    let amount := capped st.maxRebalanceAmount bounded
    if 0 < amount then do
      blendSubmitWithdraw env st.blendPool st.usdc amount
      depositFromDelegate env st.blendedPool st.usdc amount
      let rest ← Txn.orAbort .overflow (i128? (st.principalSupplied - amount))
      let principalAfter := max rest 0
      setPrincipalSupplied principalAfter
      setLastRebalanceTs now
      let liquidAfter ← Txn.orAbort .overflow (i128? (liquidUsdc + amount))
      let delegatedAfter ← Txn.orAbort .overflow (i128? (delegatedBefore - amount))
      publish
        (.rebalanceExecuted directionFromBlend amount liquidAfter delegatedAfter principalAfter)
      Txn.when g.Bypass (publish (criticalRebalanceEvent st now g))
      assertNoUsdcResidue
    else do
      Txn.when g.Bypass (publish (criticalUnavailableEvent st g))
      assertNoUsdcResidue

/-- The policy on a snapshot of the pool's USDC. -/
def rebalanceOn (env : Env) (st : Storage) (now : Nat) (side : Side) : Exec Unit :=
  if side.total < st.minTotalUsdc then pure ()
  else if side.liquid < 0 ∨ side.total ≤ 0 then throw (.handler .invalidEnvelope)
  else do
    let g ← Txn.lift (gauge st now side.liquid side.total)
    if g.cooldownActive = true ∧ ¬ g.isCritical = true then pure ()
    else do
      let delegatedBefore ← Txn.orAbort .overflow (i128? (side.total - side.liquid))
      if g.upper < side.liquid then
        rebalanceToBlend env st now g side.liquid delegatedBefore
      else if side.liquid < g.lower then
        rebalanceFromBlend env st now g side.liquid delegatedBefore
      else assertNoUsdcResidue

def executeRebalance (env : Env) : Exec Unit := do
  let w ← getWorld
  let status ← blendStatus env
  if blendHealthyStatusMax < status then pure ()
  else do
    let state ← queryDelegateState env
    rebalanceOn env w.storage w.timestamp (usdcSide w.storage state)

/-! ## What a committed rebalance did -/

section

variable {env : Env} {s t : Session}

theorem executeRebalance_eq_ok :
    executeRebalance env s = .ok ((), t) ↔
      ∃ status, env.status s.world.venue = some status ∧
        (blendHealthyStatusMax < status ∧ s = t ∨
          ¬ blendHealthyStatusMax < status ∧
            ∃ state, env.queryDelegateState s.world.venue = some state ∧
              rebalanceOn env s.world.storage s.world.timestamp (usdcSide s.world.storage state) s =
                .ok ((), t)) := by
  simp only [executeRebalance, getWorld_bind, blendStatus_bind_eq_ok, Txn.ite_eq_ok,
    queryDelegateState_bind_eq_ok, Txn.pure_eq_ok, true_and]

theorem rebalanceOn_eq_ok {st : Storage} {now : Nat} {side : Side} :
    rebalanceOn env st now side s = .ok ((), t) ↔
      side.total < st.minTotalUsdc ∧ s = t ∨
        ¬ side.total < st.minTotalUsdc ∧ ¬ (side.liquid < 0 ∨ side.total ≤ 0) ∧
          ∃ g, gauge st now side.liquid side.total = .ok g ∧
            ((g.cooldownActive = true ∧ ¬ g.isCritical = true) ∧ s = t ∨
              ¬ (g.cooldownActive = true ∧ ¬ g.isCritical = true) ∧
                ∃ delegatedBefore, i128? (side.total - side.liquid) = some delegatedBefore ∧
                  (g.upper < side.liquid ∧
                      rebalanceToBlend env st now g side.liquid delegatedBefore s = .ok ((), t) ∨
                    ¬ g.upper < side.liquid ∧
                      (side.liquid < g.lower ∧
                          rebalanceFromBlend env st now g side.liquid delegatedBefore s =
                            .ok ((), t) ∨
                        ¬ side.liquid < g.lower ∧ s.world.handlerUsdc = 0 ∧ t = s))) := by
  simp only [rebalanceOn, Txn.ite_eq_ok, Txn.lift_bind_eq_ok, Txn.orAbort_bind_eq_ok,
    Txn.pure_eq_ok, Txn.throw_eq_ok, assertNoUsdcResidue_eq_ok, true_and, and_false, false_or]

/-- All a rebalance that returns can have done: nothing, or one of its two moves. -/
theorem executeRebalance_branches (h : executeRebalance env s = .ok ((), t)) :
    t = s ∨ ∃ g liquid delegated,
      rebalanceToBlend env s.world.storage s.world.timestamp g liquid delegated s = .ok ((), t) ∨
        rebalanceFromBlend env s.world.storage s.world.timestamp g liquid delegated s =
          .ok ((), t) := by
  obtain ⟨_, -, ⟨-, rfl⟩ | ⟨-, _, -, hon⟩⟩ := executeRebalance_eq_ok.mp h
  · exact .inl rfl
  obtain ⟨-, rfl⟩ | ⟨-, -, g, -, ⟨-, rfl⟩ | ⟨-, delegated, -, hmove⟩⟩ := rebalanceOn_eq_ok.mp hon
  · exact .inl rfl
  · exact .inl rfl
  obtain ⟨-, hto⟩ | ⟨-, ⟨-, hfrom⟩ | ⟨-, -, rfl⟩⟩ := hmove
  · exact .inr ⟨g, _, delegated, .inl hto⟩
  · exact .inr ⟨g, _, delegated, .inr hfrom⟩
  · exact .inl rfl

/-- The session after a supply that came from the pool. -/
def Session.supplied (s : Session) (st : Storage) (amount principalAfter : Int) : Session :=
  ((s.after (.withdrawToDelegate st.blendedPool st.usdc amount)).after
    (.supply st.blendPool st.usdc amount)).update fun st => st.withPrincipal principalAfter

/-- The session after a withdrawal that went to the pool. -/
def Session.pulled (s : Session) (st : Storage) (amount redeemed principalAfter : Int) : Session :=
  ((s.after (.withdraw st.blendPool st.usdc amount redeemed)).after
    (.depositFromDelegate st.blendedPool st.usdc amount)).update fun st =>
      st.withPrincipal principalAfter

theorem rebalanceToBlend_eq_ok {st : Storage} {now : Nat} {g : Gauge} {liquid delegated : Int} :
    rebalanceToBlend env st now g liquid delegated s = .ok ((), t) ↔
      ∃ natural, checkedSub liquid g.targetLiquid = some natural ∧
        (natural < st.minRebalanceAmount ∧ s = t ∨
          ¬ natural < st.minRebalanceAmount ∧
            let amount := capped st.maxRebalanceAmount natural
            let c := ExtCall.withdrawToDelegate st.blendedPool st.usdc amount
            let d := ExtCall.supply st.blendPool st.usdc amount
            (env.accepts s.world.venue c = true ∧ c.Feasible s.world) ∧
            (env.accepts (s.after c).world.venue d = true ∧ d.Feasible (s.after c).world) ∧
            ∃ principalAfter, checkedAdd st.principalSupplied amount = some principalAfter ∧
            ∃ liquidAfter, i128? (liquid - amount) = some liquidAfter ∧
            ∃ delegatedAfter, i128? (delegated + amount) = some delegatedAfter ∧
              (s.supplied st amount principalAfter).world.handlerUsdc = 0 ∧
              t = ((s.supplied st amount principalAfter).update (·.withLastRebalance now)).emit
                (.rebalanceExecuted directionToBlend amount liquidAfter delegatedAfter
                  principalAfter)) := by
  simp only [rebalanceToBlend, Txn.orAbort_bind_eq_ok, Txn.ite_eq_ok, Txn.pure_eq_ok,
    withdrawToDelegate, blendSubmitSupply, request_bind_eq_ok, setPrincipalSupplied,
    setLastRebalanceTs, updateStorage_bind, publish_bind, assertNoUsdcResidue_eq_ok, true_and,
    and_assoc, Session.supplied, Session.emit_world, Session.update_world_handlerUsdc]

theorem rebalanceFromBlend_eq_ok {st : Storage} {now : Nat} {g : Gauge} {liquid delegated : Int} :
    rebalanceFromBlend env st now g liquid delegated s = .ok ((), t) ↔
      ∃ natural, checkedSub g.targetLiquid liquid = some natural ∧
        let bounded := min natural st.principalSupplied
        let amount := capped st.maxRebalanceAmount bounded
        (bounded < st.minRebalanceAmount ∧ s = t ∨
          ¬ bounded < st.minRebalanceAmount ∧
            (0 < amount ∧
                (∃ delivery, env.withdraw s.world.venue amount = some delivery ∧
                  delivery.val ≤ s.world.venue.blend.held ∧
                  let c := ExtCall.withdraw st.blendPool st.usdc amount delivery.val
                  let d := ExtCall.depositFromDelegate st.blendedPool st.usdc amount
                  (env.accepts (s.after c).world.venue d = true ∧ d.Feasible (s.after c).world) ∧
                  ∃ rest, i128? (st.principalSupplied - amount) = some rest ∧
                  ∃ liquidAfter, i128? (liquid + amount) = some liquidAfter ∧
                  ∃ delegatedAfter, i128? (delegated - amount) = some delegatedAfter ∧
                    (s.pulled st amount delivery.val (max rest 0)).world.handlerUsdc = 0 ∧
                    t = (((s.pulled st amount delivery.val (max rest 0)).update
                      (·.withLastRebalance now)).emit
                        (.rebalanceExecuted directionFromBlend amount liquidAfter delegatedAfter
                          (max rest 0))).emitIf g.Bypass (criticalRebalanceEvent st now g)) ∨
              ¬ 0 < amount ∧ s.world.handlerUsdc = 0 ∧
                t = s.emitIf g.Bypass (criticalUnavailableEvent st g))) := by
  simp only [rebalanceFromBlend, Txn.orAbort_bind_eq_ok, Txn.ite_eq_ok, Txn.pure_eq_ok,
    depositFromDelegate, request_bind_eq_ok, blendSubmitWithdraw_bind_eq_ok, setPrincipalSupplied,
    setLastRebalanceTs, updateStorage_bind, publish_bind, true_and,
    and_assoc, Session.pulled, when_publish_bind, assertNoUsdcResidue_eq_ok, Session.emitIf_world,
    Session.emit_world, Session.update_world_handlerUsdc]

end

end BlendPool.Handler
