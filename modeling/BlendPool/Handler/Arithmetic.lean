/-
# `BlendPool.Handler.Arithmetic` — the machine arithmetic of `execute_rebalance`

The executor mixes checked, saturating and plain operators, and a plain one that
leaves 128 bits panics.  None of them does, whatever the pool reports: the snapshot
has passed the sign check, and each plain operator stands behind a comparison with
the target, the band or the principal.  What can fail is a product of the gauge,
before anything has moved, and the counter of the principal.
-/
import BlendPool.Handler.Cooldown

namespace BlendPool.Handler

open Bounded

/-! ## Evaluation on a known snapshot -/

section

variable {env : Env} {s : Session} {status : Nat} {state : DelegateState}

theorem executeRebalance_of_status_none (hstatus : env.status s.world.venue = none) :
    executeRebalance env s = .error .external := by
  rw [executeRebalance, getWorld_bind, blendStatus, bind_assoc, getWorld_bind, hstatus]
  rfl

theorem executeRebalance_of_frozen (hstatus : env.status s.world.venue = some status)
    (hfrozen : blendHealthyStatusMax < status) : executeRebalance env s = .ok ((), s) := by
  rw [executeRebalance, getWorld_bind, blendStatus, bind_assoc, getWorld_bind, hstatus,
    Txn.orAbort_some_bind, if_pos hfrozen]
  rfl

theorem executeRebalance_of_state_none (hstatus : env.status s.world.venue = some status)
    (hhealthy : status ≤ blendHealthyStatusMax)
    (hstate : env.queryDelegateState s.world.venue = none) :
    executeRebalance env s = .error .external := by
  rw [executeRebalance, getWorld_bind, blendStatus, bind_assoc, getWorld_bind, hstatus,
    Txn.orAbort_some_bind, if_neg (not_lt.mpr hhealthy), queryDelegateState, bind_assoc,
    getWorld_bind, hstate]
  rfl

theorem executeRebalance_of_snapshot (hstatus : env.status s.world.venue = some status)
    (hhealthy : status ≤ blendHealthyStatusMax)
    (hstate : env.queryDelegateState s.world.venue = some state) :
    executeRebalance env s =
      rebalanceOn env s.world.storage s.world.timestamp (usdcSide s.world.storage state) s := by
  rw [executeRebalance, getWorld_bind, blendStatus, bind_assoc, getWorld_bind, hstatus,
    Txn.orAbort_some_bind, if_neg (not_lt.mpr hhealthy), queryDelegateState, bind_assoc,
    getWorld_bind, hstate, Txn.orAbort_some_bind]

end

/-! ## A snapshot that passed the sign check -/

/-- Two machine integers, the liquid balance not negative and the total positive. -/
structure Side.Valid (side : Side) : Prop where
  liquid_nonneg : 0 ≤ side.liquid
  total_pos : 0 < side.total
  liquid_le : side.liquid ≤ i128Max
  total_le : side.total ≤ i128Max

section

variable {env : Env} {st : Storage} {now : Nat} {side : Side} {s : Session}

theorem Side.Valid.signs (h : side.Valid) : ¬ (side.liquid < 0 ∨ side.total ≤ 0) := by
  rintro (hneg | hnone)
  · exact absurd h.liquid_nonneg (not_le.mpr hneg)
  · exact absurd h.total_pos (not_lt.mpr hnone)

theorem Side.Valid.delegated_in (h : side.Valid) : InI128 (side.total - side.liquid) := by
  have hmin : i128Min + i128Max ≤ 0 := by decide
  obtain ⟨h₁, h₂, h₃, h₄⟩ := h
  exact ⟨by omega, by omega⟩

theorem rebalanceOn_of_small (hsmall : side.total < st.minTotalUsdc) :
    rebalanceOn env st now side s = .ok ((), s) := by
  rw [rebalanceOn, if_pos hsmall]
  rfl

theorem rebalanceOn_of_signs (henough : st.minTotalUsdc ≤ side.total)
    (hsigns : side.liquid < 0 ∨ side.total ≤ 0) :
    rebalanceOn env st now side s = .error (.handler .invalidEnvelope) := by
  rw [rebalanceOn, if_neg (not_lt.mpr henough), if_pos hsigns]
  rfl

theorem rebalanceOn_of_gauge_error (henough : st.minTotalUsdc ≤ side.total)
    (hsigns : ¬ (side.liquid < 0 ∨ side.total ≤ 0)) {e : Failure}
    (hg : gauge st now side.liquid side.total = .error e) :
    rebalanceOn env st now side s = .error e := by
  rw [rebalanceOn, if_neg (not_lt.mpr henough), if_neg hsigns, hg]
  rfl

/-- Past the gauge: the cooldown, and one of the two moves or none. -/
theorem rebalanceOn_of_fits (henough : st.minTotalUsdc ≤ side.total) (hv : side.Valid)
    (hfits : GaugeFits st side) :
    let g := gaugeAt st now side
    rebalanceOn env st now side =
      if g.cooldownActive = true ∧ ¬ g.isCritical = true then pure ()
      else if g.upper < side.liquid then
        rebalanceToBlend env st now g side.liquid (side.total - side.liquid)
      else if side.liquid < g.lower then
        rebalanceFromBlend env st now g side.liquid (side.total - side.liquid)
      else assertNoUsdcResidue := by
  rw [rebalanceOn, if_neg (not_lt.mpr henough), if_neg hv.signs,
    gauge_of_fits hv.liquid_nonneg hv.total_pos hfits, i128?_of_in hv.delegated_in]
  rfl

/-- The gauge fails exactly where one of its products leaves the range: no divisor is zero. -/
theorem gauge_fails_iff (hv : side.Valid) :
    (∃ e, gauge st now side.liquid side.total = .error e) ↔ ¬ GaugeFits st side := by
  constructor
  · rintro ⟨e, he⟩ hfits
    rw [gauge_of_fits hv.liquid_nonneg hv.total_pos hfits] at he
    cases he
  · intro hover
    cases hg : gauge st now side.liquid side.total with
    | error e => exact ⟨e, rfl⟩
    | ok g => exact absurd ((gauge_eq_ok hv.liquid_nonneg hv.total_pos).mp hg).1 hover

end

/-! ## The moves -/

/-- A failure of the executor itself: the others are refusals of the contracts it
calls and the residue check. -/
def Failure.Own : Failure → Prop
  | .overflow | .handler _ => True
  | _ => False

section

variable {env : Env} {st : Storage} {now : Nat} {g : Gauge} {liquid delegated : Int}
  {Q : Failure → Prop}

theorem raises_perform {c : ExtCall} (hc : Q (.insufficient c)) : Txn.Raises Q (perform c) := by
  refine (Txn.Raises.read _).bind ?_
  intro w
  exact .seq (.ensure hc) (.modify _)

theorem raises_request {c : ExtCall} (hexternal : Q .external) (hc : Q (.insufficient c)) :
    Txn.Raises Q (request env c) := by
  refine (Txn.Raises.read _).bind ?_
  intro w
  exact .seq (.ensure hexternal) (raises_perform hc)

theorem raises_blendSubmitWithdraw {blendPool usdc : Address} {amount : Int}
    (hexternal : Q .external) (hc : ∀ r, Q (.insufficient (.withdraw blendPool usdc amount r))) :
    Txn.Raises Q (blendSubmitWithdraw env blendPool usdc amount) := by
  refine (Txn.Raises.read _).bind ?_
  intro w
  refine Txn.Raises.bind (.orAbort fun _ => hexternal) ?_
  intro delivery
  exact raises_perform (hc delivery.val)

theorem raises_assertNoUsdcResidue (hleak : Q (.localError .usdcLeak)) :
    Txn.Raises Q assertNoUsdcResidue := by
  refine (Txn.Raises.read _).bind ?_
  intro balance
  exact .ensure hleak

/-- A supply fails of its own accord only where the principal does not fit. -/
theorem rebalanceToBlend_raises (hnatural : InI128 (liquid - g.targetLiquid))
    (hliquid : InI128 (liquid - capped st.maxRebalanceAmount (liquid - g.targetLiquid)))
    (hdelegated : InI128 (delegated + capped st.maxRebalanceAmount (liquid - g.targetLiquid))) :
    Txn.Raises
      (fun e => e.Own → e = .handler .otherInvocationError ∧
        st.minRebalanceAmount ≤ liquid - g.targetLiquid ∧
        ¬ InI128 (st.principalSupplied + capped st.maxRebalanceAmount (liquid - g.targetLiquid)))
      (rebalanceToBlend env st now g liquid delegated) := by
  rw [rebalanceToBlend, checkedSub, i128?_of_in hnatural, Txn.orAbort_some_bind]
  refine .ite (fun _ => .pure ()) ?_
  intro hdust
  dsimp only
  rw [i128?_of_in hliquid, i128?_of_in hdelegated]
  simp only [Txn.orAbort_some_bind]
  refine Txn.Raises.seq (raises_request False.elim False.elim) ?_
  refine Txn.Raises.seq (raises_request False.elim False.elim) ?_
  refine Txn.Raises.bind (.orAbort ?_) ?_
  · intro hnone _
    refine ⟨rfl, not_lt.mp hdust, ?_⟩
    intro hin
    rw [checkedAdd, i128?_of_in hin] at hnone
    cases hnone
  · intro principalAfter
    refine .seq (.modify _) ?_
    refine .seq (.modify _) ?_
    exact .seq (.modify _) (raises_assertNoUsdcResidue False.elim)

theorem rebalanceFromBlend_raises (hnatural : InI128 (g.targetLiquid - liquid))
    (hmove : ∀ amount, amount = capped st.maxRebalanceAmount
        (min (g.targetLiquid - liquid) st.principalSupplied) → 0 < amount →
      InI128 (st.principalSupplied - amount) ∧ InI128 (liquid + amount) ∧
        InI128 (delegated - amount)) :
    Txn.Raises (fun e => ¬ e.Own) (rebalanceFromBlend env st now g liquid delegated) := by
  rw [rebalanceFromBlend, checkedSub, i128?_of_in hnatural, Txn.orAbort_some_bind]
  refine .ite (fun _ => .pure ()) ?_
  intro _
  refine .ite ?_ ?_
  · intro hpos
    obtain ⟨hprincipal, hliquid, hdelegated⟩ := hmove _ rfl hpos
    rw [i128?_of_in hprincipal, i128?_of_in hliquid, i128?_of_in hdelegated]
    simp only [Txn.orAbort_some_bind]
    refine .seq (raises_blendSubmitWithdraw id fun _ => id) ?_
    refine .seq (raises_request id id) ?_
    refine .seq (.modify _) ?_
    refine .seq (.modify _) ?_
    refine .seq (.modify _) ?_
    exact .seq (.when (.modify _)) (raises_assertNoUsdcResidue id)
  · intro _
    exact .seq (.when (.modify _)) (raises_assertNoUsdcResidue id)

end

/-! ## The plain operators -/

section

variable {env : Env} {st : Storage} {now : Nat} {side : Side}

theorem toBlend_fits (hv : side.Valid)
    (hover : targetOf st side.total + bandOf st side.total < side.liquid) :
    let natural := side.liquid - targetOf st side.total
    let amount := capped st.maxRebalanceAmount natural
    0 < amount ∧ InI128 natural ∧ InI128 (side.liquid - amount) ∧
      InI128 (side.total - side.liquid + amount) := by
  intro natural amount
  have htarget := targetOf_nonneg st hv.total_pos.le
  have hband := bandOf_nonneg st hv.total_pos.le
  have hpos : 0 < amount := capped_pos (by omega)
  have hle : amount ≤ natural := capped_le _ _
  have hmin : i128Min + i128Max ≤ 0 := by decide
  obtain ⟨h₁, h₂, h₃, h₄⟩ := hv
  exact ⟨hpos, inI128_of_nonneg (by omega) (by omega), inI128_of_nonneg (by omega) (by omega),
    ⟨by omega, by omega⟩⟩

/-- Under-liquid: what is pulled is no more than the principal, nor than what is missing. -/
theorem fromBlend_fits (hst : st.targetRatioBps < 10000) (hv : side.Valid)
    (hp : st.principalSupplied ≤ i128Max) (hunder : side.liquid < targetOf st side.total) :
    InI128 (targetOf st side.total - side.liquid) ∧
      ∀ amount, amount = capped st.maxRebalanceAmount
          (min (targetOf st side.total - side.liquid) st.principalSupplied) → 0 < amount →
        InI128 (st.principalSupplied - amount) ∧ InI128 (side.liquid + amount) ∧
          InI128 (side.total - side.liquid - amount) := by
  have htarget := targetOf_le hst hv.total_pos.le
  obtain ⟨h₁, h₂, h₃, h₄⟩ := hv
  refine ⟨inI128_of_nonneg (by omega) (by omega), ?_⟩
  intro amount hamount hpos
  have hle : amount ≤ min (targetOf st side.total - side.liquid) st.principalSupplied := by
    rw [hamount]
    exact capped_le _ _
  obtain ⟨hnatural, hprincipal⟩ := le_min_iff.mp hle
  exact ⟨inI128_of_nonneg (by omega) (by omega), inI128_of_nonneg (by omega) (by omega),
    inI128_of_nonneg (by omega) (by omega)⟩

/-- Past the gauge the executor fails of its own accord only on the principal of a supply. -/
theorem rebalanceOn_raises (hst : st.targetRatioBps < 10000) (hp : st.principalSupplied ≤ i128Max)
    (henough : st.minTotalUsdc ≤ side.total) (hv : side.Valid) (hfits : GaugeFits st side) :
    Txn.Raises
      (fun e => e.Own → e = .handler .otherInvocationError ∧
        (CooldownElapsed st now ∨ Critical st side) ∧ Over st side ∧
        ¬ InI128 (st.principalSupplied +
          capped st.maxRebalanceAmount (side.liquid - targetOf st side.total)))
      (rebalanceOn env st now side) := by
  rw [rebalanceOn_of_fits henough hv hfits]
  refine .ite (fun _ => .pure ()) ?_
  intro hdue
  rw [waits_iff hst hv.liquid_nonneg hv.total_pos, not_not] at hdue
  refine .ite ?_ ?_
  · intro hover
    obtain ⟨-, hnatural, hliquid, hdelegated⟩ := toBlend_fits hv hover
    intro s e he hown
    obtain ⟨hkind, hdust, hoverflow⟩ :=
      rebalanceToBlend_raises (g := gaugeAt st now side) hnatural hliquid hdelegated s e he hown
    exact ⟨hkind, hdue, ⟨hover, hdust⟩, hoverflow⟩
  intro _
  refine .ite ?_ ?_
  · intro hunder
    have hband := bandOf_nonneg st hv.total_pos.le
    have hbelow : side.liquid < targetOf st side.total - bandOf st side.total := hunder
    obtain ⟨hnatural, hmove⟩ := fromBlend_fits hst hv hp (by omega)
    intro s e he hown
    exact absurd hown
      (rebalanceFromBlend_raises (g := gaugeAt st now side) hnatural hmove s e he)
  · intro _
    exact raises_assertNoUsdcResidue False.elim

end

/-! ## The whole call -/

/-- The same answers, but nothing that would move a token is accepted. -/
def Env.refusing (env : Env) : Env :=
  { env with accepts := fun _ _ => false, withdraw := fun _ _ => none }

/-- A failure that comes before the first call that would move a token: it is the same
when every such call would be refused. -/
def FailsBeforeMoving (env : Env) (s : Session) (e : Failure) : Prop :=
  executeRebalance env s = .error e ∧ executeRebalance env.refusing s = .error e

/-- The machine integers of a call: what the pool reports and the counter. -/
structure MachineInts (env : Env) (w : World) : Prop where
  principal : 0 ≤ w.storage.principalSupplied ∧ w.storage.principalSupplied ≤ i128Max
  liquid : ∀ state, env.queryDelegateState w.venue = some state →
    InI128 (usdcSide w.storage state).liquid
  total : ∀ state, env.queryDelegateState w.venue = some state →
    InI128 (usdcSide w.storage state).total

section

variable {env : Env} {s : Session}

theorem executeRebalance_own (hst : InRange s.world.storage) (hm : MachineInts env s.world)
    {e : Failure} (he : executeRebalance env s = .error e) (hown : e.Own) :
    (∃ reason, e = .handler reason) ∧ FailsBeforeMoving env s e ∨
      e = .handler .otherInvocationError ∧ ∃ status state amount,
        env.status s.world.venue = some status ∧
        env.queryDelegateState s.world.venue = some state ∧
        policy s.world.storage status s.world.timestamp (usdcSide s.world.storage state) =
          .toBlend amount ∧
        i128Max < s.world.storage.principalSupplied + amount := by
  cases hstatus : env.status s.world.venue with
  | none =>
      rw [executeRebalance_of_status_none hstatus] at he
      cases he
      exact hown.elim
  | some status =>
  rcases lt_or_ge blendHealthyStatusMax status with hfrozen | hhealthy
  · rw [executeRebalance_of_frozen hstatus hfrozen] at he
    cases he
  cases hstate : env.queryDelegateState s.world.venue with
  | none =>
      rw [executeRebalance_of_state_none hstatus hhealthy hstate] at he
      cases he
      exact hown.elim
  | some state =>
  have hrun := executeRebalance_of_snapshot hstatus hhealthy hstate
  -- the refusing environment reports the same snapshot
  have hrefused := @executeRebalance_of_snapshot env.refusing s status state hstatus hhealthy hstate
  have hliquid := hm.liquid state hstate
  have htotal := hm.total state hstate
  obtain ⟨side, hside⟩ : ∃ side, usdcSide s.world.storage state = side := ⟨_, rfl⟩
  rw [hside] at hrun hrefused hliquid htotal
  rcases lt_or_ge side.total s.world.storage.minTotalUsdc with hsmall | henough
  · rw [hrun, rebalanceOn_of_small hsmall] at he
    cases he
  rcases Decidable.em (side.liquid < 0 ∨ side.total ≤ 0) with hsigns | hsigns
  · have hinvalid := hrun.trans (rebalanceOn_of_signs henough hsigns)
    rw [hinvalid] at he
    cases he
    exact .inl ⟨⟨_, rfl⟩, hinvalid, hrefused.trans (rebalanceOn_of_signs henough hsigns)⟩
  obtain ⟨hnotNeg, hsome⟩ := not_or.mp hsigns
  have hv : side.Valid := ⟨not_lt.mp hnotNeg, not_le.mp hsome, hliquid.2, htotal.2⟩
  cases hg : gauge s.world.storage s.world.timestamp side.liquid side.total with
  | error e' =>
      have hfails := hrun.trans (rebalanceOn_of_gauge_error henough hv.signs hg)
      rw [hfails] at he
      cases he
      exact .inl ⟨⟨_, gauge_error hg⟩, hfails,
        hrefused.trans (rebalanceOn_of_gauge_error henough hv.signs hg)⟩
  | ok g =>
      obtain ⟨hfits, -⟩ := (gauge_eq_ok hv.liquid_nonneg hv.total_pos).mp hg
      rw [hrun] at he
      obtain ⟨hkind, hdue, hover, hoverflow⟩ :=
        rebalanceOn_raises hst.target.2 hm.principal.2 henough hv hfits s e he hown
      refine .inr ⟨hkind, status, state,
        capped s.world.storage.maxRebalanceAmount
          (side.liquid - targetOf s.world.storage side.total), rfl, rfl, ?_, ?_⟩
      · rw [hside]
        exact policy_toBlend.mpr ⟨⟨hhealthy, henough, hdue⟩, hover, rfl⟩
      · have hpos := hover.amount_pos hv.total_pos.le
        have hnonneg := hm.principal.1
        by_contra hin
        exact hoverflow (inI128_of_nonneg (by omega) (not_lt.mp hin))

/-- What a pull reports as still delegated: the target is within the total. -/
theorem fromBlend_reported {w : World} {t : Session} (hst : InRange w.storage)
    (h : executeRebalance env (.start w) = .ok ((), t))
    {amount liquidAfter delegatedAfter principalAfter : Int}
    (he : .rebalanceExecuted directionFromBlend amount liquidAfter delegatedAfter principalAfter ∈
      t.events) : 0 ≤ delegatedAfter := by
  have hannounced : .rebalanceExecuted directionFromBlend amount liquidAfter delegatedAfter
      principalAfter ∈ t.announced := List.mem_filter.mpr ⟨he, rfl⟩
  obtain rfl | ⟨status, state, -, -, htotal, hdone⟩ :=
    executeRebalance_cases (s := .start w) hst.target.2 h
  · cases he
  have htotal : 0 < (usdcSide w.storage state).total := htotal
  have hdone : CarriedOut (.start w) t (usdcSide w.storage state)
      (policy w.storage status w.timestamp (usdcSide w.storage state)) := hdone
  cases hp : policy w.storage status w.timestamp (usdcSide w.storage state) with
  | hold =>
      rw [hp] at hdone
      rw [hdone.2.2] at hannounced
      cases hannounced
  | toBlend a =>
      rw [hp] at hdone
      rw [Moved.announced hdone] at hannounced
      have hdirection := (Event.rebalanceExecuted.inj (List.mem_singleton.mp hannounced)).1
      exact absurd hdirection (by decide)
  | fromBlend a =>
      rw [hp] at hdone
      obtain ⟨redeemed, hmoved⟩ := hdone
      rw [hmoved.announced] at hannounced
      obtain ⟨-, -, -, rfl, -⟩ := Event.rebalanceExecuted.inj (List.mem_singleton.mp hannounced)
      obtain ⟨-, -, ha⟩ := (policy_fromBlend htotal.le).mp hp
      have hmissing := (ha.le.trans (capped_le _ _)).trans (min_le_left _ _)
      have htarget := targetOf_le hst.target.2 htotal.le
      show 0 ≤ (usdcSide w.storage state).total - (usdcSide w.storage state).liquid + -a
      omega

end

/-- The arithmetic of `execute_rebalance` is total: whatever the pool reports, no plain
operator overflows; the gauge fails by a product that does not fit, never by a division,
and the cast of the liquid share does not change whether the pool is critical; every
other failure of the executor's own comes before it has moved anything, but for a
supply on which the principal leaves 128 bits; and a pull never reports a negative
delegated balance. -/
theorem arithmetic_total (env : Env) {w : World} (hst : InRange w.storage)
    (hm : MachineInts env w) :
    let st := w.storage
    let result := executeRebalance env (.start w)
    result ≠ .error .overflow ∧
    (∀ side : Side, side.Valid →
      ((∃ e, gauge st w.timestamp side.liquid side.total = .error e) ↔ ¬ GaugeFits st side) ∧
      (isCritical st (toU32 (side.liquid * bpsDen / side.total)) side.liquid
        (targetOf st side.total) = true ↔ Critical st side)) ∧
    (∀ reason, result = .error (.handler reason) →
      FailsBeforeMoving env (.start w) (.handler reason) ∨
        reason = .otherInvocationError ∧ ∃ status state amount,
          env.status w.venue = some status ∧ env.queryDelegateState w.venue = some state ∧
          policy st status w.timestamp (usdcSide st state) = .toBlend amount ∧
          i128Max < st.principalSupplied + amount) ∧
    ∀ t, result = .ok ((), t) → ∀ amount liquidAfter delegatedAfter principalAfter,
      .rebalanceExecuted directionFromBlend amount liquidAfter delegatedAfter principalAfter ∈
        t.events → 0 ≤ delegatedAfter := by
  intro st result
  refine ⟨?_, ?_, ?_, ?_⟩
  · intro hoverflow
    obtain ⟨⟨_, hreason⟩, -⟩ | ⟨hreason, -⟩ := executeRebalance_own (s := .start w) hst hm hoverflow
      trivial
    · cases hreason
    · cases hreason
  · intro side hv
    exact ⟨gauge_fails_iff hv, isCritical_iff hst.target.2 hv.liquid_nonneg hv.total_pos⟩
  · intro reason he
    obtain ⟨-, hbefore⟩ | ⟨hkind, hcounter⟩ := executeRebalance_own (s := .start w) hst hm he trivial
    · exact .inl hbefore
    · exact .inr ⟨Failure.handler.inj hkind, hcounter⟩
  · intro t ht amount liquidAfter delegatedAfter principalAfter he
    exact fromBlend_reported hst ht he

/-- The sample deployment over a pool with all the USDC an `i128` can count. -/
def fullWorld : World := { sampleWorld with venue := ⟨⟨i128Max, 0, 5000⟩, ⟨0, 0⟩⟩ }

/-- There the target does not fit, and the call returns an error. -/
theorem arithmetic_total_full :
    executeRebalance .honest (.start fullWorld) ≠ .error .overflow ∧
      executeRebalance .honest (.start fullWorld) =
        .error (.handler .otherInvocationError) := by
  have hm : MachineInts .honest fullWorld := by
    refine ⟨by decide, ?_, ?_⟩
    · rintro _ ⟨⟩
      decide
    · rintro _ ⟨⟩
      decide
  exact ⟨(arithmetic_total .honest sampleStorage_inRange hm).1, rfl⟩

end BlendPool.Handler
