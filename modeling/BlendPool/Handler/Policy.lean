/-
# `BlendPool.Handler.Policy` — what `execute_rebalance` decides

The policy is a function of the configuration and of one snapshot of the pool:
`correction` is the amount that would bring the liquid balance back to its target,
once it has left the band around it, and `policy` puts the gates before it and the
cap on it.  `execute_rebalance` computes it with rounded thresholds in machine
integers, in ten steps of which each can end the call; `executeRebalance_decides`
says that where it returns, it has done what the policy says, and only that.
-/
import BlendPool.Handler.Flows
import BlendPool.Handler.Settings

namespace BlendPool.Handler

open Bounded

/-! ## The policy -/

/-- What to do about the pool's liquid USDC. -/
inductive Decision where
  | hold
  | toBlend (amount : Int)
  | fromBlend (amount : Int)
  deriving DecidableEq

/-- A decision under the per-call cap. -/
def Decision.limit (maxCap : Int) : Decision → Decision
  | .hold => .hold
  | .toBlend amount => .toBlend (capped maxCap amount)
  | .fromBlend amount => .fromBlend (capped maxCap amount)

/-- What brings `liquid` back to `target`: nothing inside the band, and nothing
below the dust floor; never more out of Blend than the principal. -/
def correction (minFloor target band liquid principal : Int) : Decision :=
  if target + band < liquid then
    if minFloor ≤ liquid - target then .toBlend (liquid - target) else .hold
  else if liquid < target - band then
    if max 1 minFloor ≤ min (target - liquid) principal then
      .fromBlend (min (target - liquid) principal)
    else .hold
  else .hold

/-- The cooldown after the last move is over. -/
def CooldownElapsed (st : Storage) (now : Nat) : Prop :=
  min (st.lastRebalanceTs + st.rebalanceCooldownSecs) u64Max ≤ now

/-- Liquid USDC is below the critical floor, and below the target. -/
def Critical (st : Storage) (side : Side) : Prop :=
  0 < st.criticalLiquidFloorBps ∧
    side.liquid * bpsDen / side.total < st.criticalLiquidFloorBps ∧
    side.liquid < targetOf st side.total

/-- The gates before the policy. -/
structure GatesOpen (st : Storage) (status now : Nat) (side : Side) : Prop where
  healthy : status ≤ blendHealthyStatusMax
  enough : st.minTotalUsdc ≤ side.total
  due : CooldownElapsed st now ∨ Critical st side

instance decCooldownElapsed (st : Storage) (now : Nat) : Decidable (CooldownElapsed st now) :=
  inferInstanceAs (Decidable (_ ≤ _))

instance decCritical (st : Storage) (side : Side) : Decidable (Critical st side) :=
  inferInstanceAs (Decidable (_ ∧ _))

instance decGatesOpen (st : Storage) (status now : Nat) (side : Side) :
    Decidable (GatesOpen st status now side) :=
  decidable_of_iff (status ≤ blendHealthyStatusMax ∧ st.minTotalUsdc ≤ side.total ∧
      (CooldownElapsed st now ∨ Critical st side))
    ⟨fun h => ⟨h.1, h.2.1, h.2.2⟩, fun h => ⟨h.healthy, h.enough, h.due⟩⟩

/-- The correction a configuration asks for on a snapshot. -/
def correctionOf (st : Storage) (side : Side) : Decision :=
  correction st.minRebalanceAmount (targetOf st side.total) (bandOf st side.total) side.liquid
    st.principalSupplied

def policy (st : Storage) (status now : Nat) (side : Side) : Decision :=
  if GatesOpen st status now side then (correctionOf st side).limit st.maxRebalanceAmount
  else .hold

/-! ### What a correction is -/

theorem correction_toBlend {minFloor target band liquid principal n : Int} :
    correction minFloor target band liquid principal = .toBlend n ↔
      target + band < liquid ∧ minFloor ≤ liquid - target ∧ n = liquid - target := by
  rw [correction]
  constructor
  · intro h
    split at h
    · next hover =>
        split at h
        · next hdust =>
            cases h
            exact ⟨hover, hdust, rfl⟩
        · cases h
    · split at h
      · split at h
        · cases h
        · cases h
      · cases h
  · rintro ⟨hover, hdust, rfl⟩
    rw [if_pos hover, if_pos hdust]

theorem correction_fromBlend {minFloor target band liquid principal n : Int} (hband : 0 ≤ band) :
    correction minFloor target band liquid principal = .fromBlend n ↔
      liquid < target - band ∧ max 1 minFloor ≤ min (target - liquid) principal ∧
        n = min (target - liquid) principal := by
  rw [correction]
  constructor
  · intro h
    split at h
    · split at h
      · cases h
      · cases h
    · split at h
      · next hunder =>
          split at h
          · next hdust =>
              cases h
              exact ⟨hunder, hdust, rfl⟩
          · cases h
      · cases h
  · rintro ⟨hunder, hdust, rfl⟩
    have hnot : ¬ target + band < liquid := by omega
    rw [if_neg hnot, if_pos hunder, if_pos hdust]

theorem capped_pos {maxCap n : Int} (hn : 0 < n) : 0 < capped maxCap n := by
  rw [capped]
  split
  · next h => exact h.1
  · exact hn

/-! ## Reading the gauge -/

theorem targetOf_le {st : Storage} {total : Int} (hst : st.targetRatioBps < 10000)
    (h : 0 ≤ total) : targetOf st total ≤ total := by
  refine Int.ediv_le_of_le_mul bpsDen_pos ?_
  exact Int.mul_le_mul_of_nonneg_left (by unfold bpsDen; omega) h

theorem cooldownActive_iff {st : Storage} {now : Nat} :
    cooldownActive st now = true ↔ ¬ CooldownElapsed st now := by
  rw [cooldownActive, decide_eq_true_eq, CooldownElapsed, saturatingAddU64, not_le]

/-- The cast of the ratio to 32 bits only loses something far above the target. -/
theorem isCritical_iff {st : Storage} {side : Side} (hst : st.targetRatioBps < 10000)
    (hliquid : 0 ≤ side.liquid) (htotal : 0 < side.total) :
    isCritical st (toU32 (side.liquid * bpsDen / side.total)) side.liquid
        (targetOf st side.total) = true ↔ Critical st side := by
  rw [isCritical, decide_eq_true_eq, Critical]
  refine and_congr_right fun _ => and_congr_left fun hbelow => ?_
  have hle : side.liquid < side.total := hbelow.trans_le (targetOf_le hst htotal.le)
  have hnonneg : 0 ≤ side.liquid * bpsDen / side.total :=
    Int.ediv_nonneg (Int.mul_nonneg hliquid bpsDen_pos.le) htotal.le
  rw [ratio_cast hliquid hle.le htotal, ratioOf]
  omega

/-- The test that ends a rebalance on cooldown, read as the gate. -/
theorem waits_iff {st : Storage} {side : Side} {now : Nat} (hst : st.targetRatioBps < 10000)
    (hliquid : 0 ≤ side.liquid) (htotal : 0 < side.total) :
    ((gaugeAt st now side).cooldownActive = true ∧ ¬ (gaugeAt st now side).isCritical = true) ↔
      ¬ (CooldownElapsed st now ∨ Critical st side) := by
  rw [not_or]
  exact and_congr cooldownActive_iff (not_congr (isCritical_iff hst hliquid htotal))

/-! ## What was done -/

def Event.isRebalance : Event → Bool
  | .rebalanceExecuted _ _ _ _ _ => true
  | _ => false

/-- The moves a session has announced. -/
def Session.announced (s : Session) : List Event := s.events.filter Event.isRebalance

theorem announced_emit (s : Session) (e : Event) (h : e.isRebalance = true) :
    (s.emit e).announced = s.announced ++ [e] := by
  rw [Session.announced, Session.emit_events, List.filter_append, List.filter_singleton, h]
  rfl

theorem announced_emitIf (s : Session) (p : Prop) [Decidable p] {e : Event}
    (h : e.isRebalance = false) : (s.emitIf p e).announced = s.announced := by
  rw [Session.announced, Session.emitIf_events, List.filter_append]
  split
  · rw [List.filter_singleton, h]
    exact List.append_nil _
  · exact List.append_nil _

/-- A move of `amount`: `delta` more of the pool's USDC is in Blend than before. -/
structure Moved (s t : Session) (side : Side) (direction : Symbol) (amount delta : Int) (f : Flow)
    (calls : List ExtCall) : Prop where
  performs : Performs f s t
  calls : t.calls = s.calls ++ calls
  storage : t.world.storage =
    (s.world.storage.withPrincipal (s.world.storage.principalSupplied + delta)).withLastRebalance
      s.world.timestamp
  announced : t.announced = s.announced ++
    [.rebalanceExecuted direction amount (side.liquid - delta)
      (side.total - side.liquid + delta) (s.world.storage.principalSupplied + delta)]

/-- The session `t` is what carrying out a decision in `s` leaves. -/
def CarriedOut (s t : Session) (side : Side) : Decision → Prop
  | .hold => t.world = s.world ∧ t.calls = s.calls ∧ t.announced = s.announced
  | .toBlend amount =>
      Moved s t side directionToBlend amount amount (.toBlend amount)
        [.withdrawToDelegate s.world.storage.blendedPool s.world.storage.usdc amount,
          .supply s.world.storage.blendPool s.world.storage.usdc amount]
  | .fromBlend amount => ∃ redeemed,
      Moved s t side directionFromBlend amount (-amount) (.fromBlend amount redeemed)
        [.withdraw s.world.storage.blendPool s.world.storage.usdc amount redeemed,
          .depositFromDelegate s.world.storage.blendedPool s.world.storage.usdc amount]

section

variable {env : Env} {s t : Session} {side : Side}

theorem carriedOut_refl (s : Session) (side : Side) : CarriedOut s s side .hold := ⟨rfl, rfl, rfl⟩

theorem rebalanceToBlend_decides {now : Nat} {g : Gauge} (hnow : now = s.world.timestamp)
    (hover : targetOf s.world.storage side.total + bandOf s.world.storage side.total < side.liquid)
    (hg : g.targetLiquid = targetOf s.world.storage side.total)
    (h : rebalanceToBlend env s.world.storage now g side.liquid (side.total - side.liquid) s =
      .ok ((), t)) :
    CarriedOut s t side
      ((correctionOf s.world.storage side).limit s.world.storage.maxRebalanceAmount) := by
  subst hnow
  obtain ⟨natural, hnatural, hcases⟩ := rebalanceToBlend_eq_ok.mp h
  obtain rfl := (i128?_eq_some.mp hnatural).2
  rw [hg] at hcases
  rw [correctionOf, correction, if_pos hover]
  obtain ⟨hdust, rfl⟩ | ⟨hdust, hmove⟩ := hcases
  · rw [if_neg (not_le.mpr hdust)]
    exact carriedOut_refl s side
  · rw [if_pos (not_lt.mp hdust)]
    obtain ⟨⟨-, hfeasible⟩, -, _, hprincipal, _, hliquid, _, hdelegated, -, rfl⟩ := hmove
    have hmoved := Performs.supplied s.world.storage hfeasible.1 hprincipal
    obtain rfl := (i128?_eq_some.mp hprincipal).2
    obtain rfl := (i128?_eq_some.mp hliquid).2
    obtain rfl := (i128?_eq_some.mp hdelegated).2
    exact
      { performs := hmoved.congr_right rfl rfl
        calls := List.append_assoc _ _ _
        storage := rfl
        announced := announced_emit _ _ rfl }

theorem rebalanceFromBlend_decides {now : Nat} {g : Gauge} (hnow : now = s.world.timestamp)
    (hband : 0 ≤ bandOf s.world.storage side.total)
    (hunder : side.liquid < targetOf s.world.storage side.total - bandOf s.world.storage side.total)
    (hg : g.targetLiquid = targetOf s.world.storage side.total)
    (h : rebalanceFromBlend env s.world.storage now g side.liquid (side.total - side.liquid) s =
      .ok ((), t)) :
    CarriedOut s t side
      ((correctionOf s.world.storage side).limit s.world.storage.maxRebalanceAmount) := by
  subst hnow
  obtain ⟨natural, hnatural, hcases⟩ := rebalanceFromBlend_eq_ok.mp h
  obtain rfl := (i128?_eq_some.mp hnatural).2
  rw [hg] at hcases
  have hnot : ¬ targetOf s.world.storage side.total + bandOf s.world.storage side.total <
      side.liquid := by omega
  have hprincipal : min (targetOf s.world.storage side.total - side.liquid)
      s.world.storage.principalSupplied ≤ s.world.storage.principalSupplied := min_le_right _ _
  rw [correctionOf, correction, if_neg hnot, if_pos hunder]
  generalize min (targetOf s.world.storage side.total - side.liquid)
    s.world.storage.principalSupplied = n at hcases hprincipal ⊢
  have hcap := capped_le s.world.storage.maxRebalanceAmount n
  obtain ⟨hdust, rfl⟩ | ⟨hdust, ⟨hpos, hmove⟩ | ⟨hzero, -, rfl⟩⟩ := hcases
  · have hless : ¬ max 1 s.world.storage.minRebalanceAmount ≤ n := by omega
    rw [if_neg hless]
    exact carriedOut_refl s side
  · have hunit : max 1 s.world.storage.minRebalanceAmount ≤ n := by omega
    rw [if_pos hunit]
    obtain ⟨delivery, -, -, -, _, hrest, _, hliquid, _, hdelegated, -, rfl⟩ := hmove
    have hmoved := Performs.pulled s.world.storage hpos (hcap.trans hprincipal) delivery.property
      (i128?_eq_some.mp hrest).2
    obtain rfl := (i128?_eq_some.mp hrest).2
    obtain rfl := (i128?_eq_some.mp hliquid).2
    obtain rfl := (i128?_eq_some.mp hdelegated).2
    rw [max_eq_left (Int.sub_nonneg_of_le (hcap.trans hprincipal))] at hmoved ⊢
    refine ⟨delivery.val, ?_⟩
    exact
      { performs := hmoved.congr_right rfl rfl
        calls := List.append_assoc _ _ _
        storage := rfl
        announced := by
          rw [announced_emitIf _ _ rfl, sub_neg_eq_add]
          exact announced_emit _ _ rfl }
  · -- nothing to pull, whatever the dust floor
    have hnone : ¬ max 1 s.world.storage.minRebalanceAmount ≤ n := by
      intro hunit
      exact hzero (capped_pos (lt_of_lt_of_le Int.one_pos ((le_max_left _ _).trans hunit)))
    rw [if_neg hnone]
    exact ⟨rfl, rfl, announced_emitIf _ _ rfl⟩

/-- Where it returns, `execute_rebalance` has carried out the policy. -/
theorem executeRebalance_decides {status : Nat} {state : DelegateState}
    (hst : s.world.storage.targetRatioBps < 10000)
    (hstatus : env.status s.world.venue = some status)
    (hstate : env.queryDelegateState s.world.venue = some state)
    (hside : side = usdcSide s.world.storage state) (hliquid : 0 ≤ side.liquid)
    (htotal : 0 < side.total) (h : executeRebalance env s = .ok ((), t)) :
    CarriedOut s t side (policy s.world.storage status s.world.timestamp side) := by
  have hheld : ¬ GatesOpen s.world.storage status s.world.timestamp side → s = t →
      CarriedOut s t side (policy s.world.storage status s.world.timestamp side) := by
    rintro hshut rfl
    rw [policy, if_neg hshut]
    exact carriedOut_refl s side
  obtain ⟨status', hstatus', hcases⟩ := executeRebalance_eq_ok.mp h
  obtain rfl := Option.some.inj (hstatus.symm.trans hstatus')
  obtain ⟨hfrozen, hst'⟩ | ⟨hhealthy, state', hstate', hon⟩ := hcases
  · exact hheld (fun hopen => absurd hopen.healthy (not_le.mpr hfrozen)) hst'
  obtain rfl := Option.some.inj (hstate.symm.trans hstate')
  rw [← hside] at hon
  obtain ⟨hsmall, hst'⟩ | ⟨hlarge, -, g, hg, hcases⟩ := rebalanceOn_eq_ok.mp hon
  · exact hheld (fun hopen => absurd hopen.enough (not_le.mpr hsmall)) hst'
  obtain ⟨-, rfl⟩ := (gauge_eq_ok hliquid htotal).mp hg
  rw [waits_iff hst hliquid htotal] at hcases
  obtain ⟨hwait, hst'⟩ | ⟨hdue, delegated, hdelegated, hmove⟩ := hcases
  · exact hheld (fun hopen => hwait hopen.due) hst'
  obtain rfl := (i128?_eq_some.mp hdelegated).2
  rw [policy, if_pos ⟨not_lt.mp hhealthy, not_lt.mp hlarge, not_not.mp hdue⟩]
  have hband := bandOf_nonneg s.world.storage htotal.le
  obtain ⟨hover, hto⟩ | ⟨hnotOver, ⟨hunder, hfrom⟩ | ⟨hnotUnder, -, rfl⟩⟩ := hmove
  · exact rebalanceToBlend_decides rfl hover rfl hto
  · exact rebalanceFromBlend_decides rfl hband hunder rfl hfrom
  · have hinside : correctionOf t.world.storage side = .hold :=
      (if_neg hnotOver).trans (if_neg hnotUnder)
    rw [hinside]
    exact carriedOut_refl t side

/-- A rebalance that returns has done nothing, or has carried out the policy on a
snapshot it accepted. -/
theorem executeRebalance_cases (hst : s.world.storage.targetRatioBps < 10000)
    (h : executeRebalance env s = .ok ((), t)) :
    t = s ∨ ∃ status state, env.status s.world.venue = some status ∧
      env.queryDelegateState s.world.venue = some state ∧
      0 < (usdcSide s.world.storage state).total ∧
      CarriedOut s t (usdcSide s.world.storage state)
        (policy s.world.storage status s.world.timestamp (usdcSide s.world.storage state)) := by
  obtain ⟨status, hstatus, ⟨-, rfl⟩ | ⟨-, state, hstate, hon⟩⟩ := executeRebalance_eq_ok.mp h
  · exact .inl rfl
  obtain ⟨-, rfl⟩ | ⟨-, hvalid, -⟩ := rebalanceOn_eq_ok.mp hon
  · exact .inl rfl
  obtain ⟨hliquid, htotal⟩ := not_or.mp hvalid
  exact .inr ⟨status, state, hstatus, hstate, not_le.mp htotal,
    executeRebalance_decides hst hstatus hstate rfl (not_lt.mp hliquid) (not_le.mp htotal) h⟩

end

/-! ## When it moves, and how much -/

section

variable {st : Storage} {status now : Nat} {side : Side} {a : Int}

theorem limit_toBlend {maxCap : Int} {d : Decision} :
    d.limit maxCap = .toBlend a ↔ ∃ n, d = .toBlend n ∧ capped maxCap n = a := by
  cases d with
  | hold => simp [Decision.limit]
  | toBlend n => simp [Decision.limit]
  | fromBlend n => simp [Decision.limit]

theorem limit_fromBlend {maxCap : Int} {d : Decision} :
    d.limit maxCap = .fromBlend a ↔ ∃ n, d = .fromBlend n ∧ capped maxCap n = a := by
  cases d with
  | hold => simp [Decision.limit]
  | toBlend n => simp [Decision.limit]
  | fromBlend n => simp [Decision.limit]

/-- Over-liquid by more than the band, and not by dust. -/
def Over (st : Storage) (side : Side) : Prop :=
  targetOf st side.total + bandOf st side.total < side.liquid ∧
    st.minRebalanceAmount ≤ side.liquid - targetOf st side.total

/-- Under-liquid by more than the band, with something to pull that is not dust. -/
def Under (st : Storage) (side : Side) : Prop :=
  side.liquid < targetOf st side.total - bandOf st side.total ∧
    max 1 st.minRebalanceAmount ≤ min (targetOf st side.total - side.liquid) st.principalSupplied

theorem policy_toBlend :
    policy st status now side = .toBlend a ↔
      GatesOpen st status now side ∧ Over st side ∧
        a = capped st.maxRebalanceAmount (side.liquid - targetOf st side.total) := by
  rw [policy]
  split
  · next hopen =>
      simp only [limit_toBlend, correctionOf, correction_toBlend, hopen, true_and, Over]
      constructor
      · rintro ⟨n, ⟨hover, hdust, rfl⟩, rfl⟩
        exact ⟨⟨hover, hdust⟩, rfl⟩
      · rintro ⟨⟨hover, hdust⟩, rfl⟩
        exact ⟨_, ⟨hover, hdust, rfl⟩, rfl⟩
  · next hshut => simp [hshut]

theorem policy_fromBlend (htotal : 0 ≤ side.total) :
    policy st status now side = .fromBlend a ↔
      GatesOpen st status now side ∧ Under st side ∧
        a = capped st.maxRebalanceAmount
          (min (targetOf st side.total - side.liquid) st.principalSupplied) := by
  rw [policy]
  split
  · next hopen =>
      simp only [limit_fromBlend, correctionOf, correction_fromBlend (bandOf_nonneg st htotal),
        hopen, true_and, Under]
      constructor
      · rintro ⟨n, ⟨hunder, hdust, rfl⟩, rfl⟩
        exact ⟨⟨hunder, hdust⟩, rfl⟩
      · rintro ⟨⟨hunder, hdust⟩, rfl⟩
        exact ⟨_, ⟨hunder, hdust, rfl⟩, rfl⟩
  · next hshut => simp [hshut]

theorem Over.amount_pos (h : Over st side) (htotal : 0 ≤ side.total) :
    0 < capped st.maxRebalanceAmount (side.liquid - targetOf st side.total) := by
  have hband := bandOf_nonneg st htotal
  refine capped_pos ?_
  have hover := h.1
  omega

theorem Under.amount_pos (h : Under st side) :
    0 < capped st.maxRebalanceAmount
      (min (targetOf st side.total - side.liquid) st.principalSupplied) :=
  capped_pos (Int.one_pos.trans_le ((le_max_left _ _).trans h.2))

theorem Moved.calls_ne {s t : Session} {direction : Symbol} {amount delta : Int} {f : Flow}
    {c : ExtCall} {cs : List ExtCall}
    (h : Moved s t side direction amount delta f (c :: cs)) : t.calls ≠ s.calls := by
  rw [h.calls]
  intro hsame
  have hnil := List.append_right_eq_self.mp hsame
  cases hnil

end

/-! ## When a move goes through -/

/-- The pool and Blend play their part in a move, and no USDC is left on the handler. -/
def GoesThrough (env : Env) (w : World) : Decision → Prop
  | .hold => True
  | .toBlend amount =>
      let c := ExtCall.withdrawToDelegate w.storage.blendedPool w.storage.usdc amount
      env.accepts w.venue c = true ∧ amount ≤ w.venue.pool.liquid ∧
        env.accepts (c.applyVenue w.venue) (.supply w.storage.blendPool w.storage.usdc amount) =
          true ∧
        w.handlerUsdc = 0
  | .fromBlend amount =>
      ∃ delivery, env.withdraw w.venue amount = some delivery ∧
        let c := ExtCall.withdraw w.storage.blendPool w.storage.usdc amount delivery.val
        delivery.val ≤ w.venue.blend.held ∧
          env.accepts (c.applyVenue w.venue)
            (.depositFromDelegate w.storage.blendedPool w.storage.usdc amount) = true ∧
          amount ≤ w.venue.pool.delegated ∧ w.handlerUsdc + delivery.val = amount

section

variable {env : Env} {w : World} {status : Nat} {state : DelegateState} {side : Side}

/-- The target share is at least one basis point, so the total itself fits. -/
theorem GaugeFits.total_le {st : Storage} (h : GaugeFits st side) (hst : InRange st)
    (htotal : 0 ≤ side.total) : side.total ≤ i128Max := by
  have hshare : (1 : Int) ≤ st.targetRatioBps := by
    have hpos := hst.target.1
    omega
  exact (le_mul_of_one_le_right htotal hshare).trans h.target

variable (hst : InRange w.storage) (hstatus : env.status w.venue = some status)
  (hstate : env.queryDelegateState w.venue = some state) (hside : usdcSide w.storage state = side)
  (hliquid : 0 ≤ side.liquid) (htotal : 0 < side.total) (hfits : GaugeFits w.storage side)
  (hopen : GatesOpen w.storage status w.timestamp side)

include hst hstatus hstate hside hliquid htotal hfits hopen

/-- Past the gates, all that is left of `execute_rebalance` are its three branches. -/
theorem executeRebalance_open (t : Session) :
    let g := gaugeAt w.storage w.timestamp side
    executeRebalance env (.start w) = .ok ((), t) ↔
      g.upper < side.liquid ∧ rebalanceToBlend env w.storage w.timestamp g side.liquid
          (side.total - side.liquid) (.start w) = .ok ((), t) ∨
        ¬ g.upper < side.liquid ∧
          (side.liquid < g.lower ∧ rebalanceFromBlend env w.storage w.timestamp g side.liquid
              (side.total - side.liquid) (.start w) = .ok ((), t) ∨
            ¬ side.liquid < g.lower ∧ w.handlerUsdc = 0 ∧ t = .start w) := by
  intro g
  have hgauge : gauge w.storage w.timestamp side.liquid side.total = .ok g :=
    gauge_of_fits hliquid htotal hfits w.timestamp
  have hdue : ¬ (g.cooldownActive = true ∧ ¬ g.isCritical = true) := by
    rw [waits_iff hst.target.2 hliquid htotal]
    exact not_not.mpr hopen.due
  have hvalid : ¬ (side.liquid < 0 ∨ side.total ≤ 0) := by omega
  have hdelegated : i128? (side.total - side.liquid) = some (side.total - side.liquid) := by
    have hall := hfits.total_le hst htotal.le
    have hratio := hfits.ratio
    unfold bpsDen at hratio
    have hmin : i128Min ≤ -i128Max := by decide
    exact i128?_of_in ⟨by omega, by omega⟩
  rw [executeRebalance_eq_ok]
  constructor
  · rintro ⟨status', hstatus', hcases⟩
    obtain rfl := Option.some.inj (hstatus.symm.trans hstatus')
    obtain ⟨hfrozen, -⟩ | ⟨-, state', hstate', hon⟩ := hcases
    · exact absurd hfrozen (not_lt.mpr hopen.healthy)
    obtain rfl := Option.some.inj (hstate.symm.trans hstate')
    have hon : rebalanceOn env w.storage w.timestamp (usdcSide w.storage state) (.start w) =
        .ok ((), t) := hon
    rw [hside] at hon
    obtain ⟨hsmall, -⟩ | ⟨-, -, g', hg', hcases⟩ := rebalanceOn_eq_ok.mp hon
    · exact absurd hsmall (not_lt.mpr hopen.enough)
    obtain rfl := Except.ok.inj (hgauge.symm.trans hg')
    obtain ⟨hwait, -⟩ | ⟨-, delegated, hout, hmove⟩ := hcases
    · exact absurd hwait hdue
    · obtain rfl := (i128?_eq_some.mp hout).2
      exact hmove
  · intro hmove
    refine ⟨status, hstatus, .inr ⟨not_lt.mpr hopen.healthy, state, hstate, ?_⟩⟩
    show rebalanceOn env w.storage w.timestamp (usdcSide w.storage state) (.start w) = _
    rw [hside]
    exact rebalanceOn_eq_ok.mpr (.inr ⟨not_lt.mpr hopen.enough, hvalid, g, hgauge,
      .inr ⟨hdue, _, hdelegated, hmove⟩⟩)

/-- A supply that is due goes through if the pool pays it, Blend takes it, and the handler
was empty. -/
theorem toBlend_goesThrough (hover : Over w.storage side)
    (hprincipal : 0 ≤ w.storage.principalSupplied)
    (hnew : w.storage.principalSupplied + capped w.storage.maxRebalanceAmount
      (side.liquid - targetOf w.storage side.total) ≤ i128Max) :
    (∃ t, executeRebalance env (.start w) = .ok ((), t)) ↔
      GoesThrough env w (.toBlend (capped w.storage.maxRebalanceAmount
        (side.liquid - targetOf w.storage side.total))) := by
  have hreach := executeRebalance_open hst hstatus hstate hside hliquid htotal hfits hopen
  have hpos := hover.amount_pos htotal.le
  have hle := capped_le w.storage.maxRebalanceAmount
    (side.liquid - targetOf w.storage side.total)
  have htarget := targetOf_nonneg w.storage htotal.le
  constructor
  · rintro ⟨t, h⟩
    obtain ⟨-, hto⟩ | ⟨hnot, -⟩ := (hreach t).mp h
    · obtain ⟨natural, hnatural, hcases⟩ := rebalanceToBlend_eq_ok.mp hto
      obtain rfl := (i128?_eq_some.mp hnatural).2
      obtain ⟨hdust, -⟩ | ⟨-, ⟨hpays, -, hpool⟩, ⟨htakes, -⟩, _, -, _, -, _, -, hzero, -⟩ := hcases
      · exact absurd hdust (not_lt.mpr hover.2)
      · exact ⟨hpays, hpool, htakes, (Int.add_neg_cancel_right _ _).symm.trans hzero⟩
    · exact absurd hover.1 hnot
  · rintro ⟨hpays, hpool, htakes, hempty⟩
    have hratio := hfits.ratio
    have hall := hfits.total_le hst htotal.le
    have hmin : i128Min ≤ -i128Max := by decide
    unfold bpsDen at hratio
    let amount := capped w.storage.maxRebalanceAmount
      (side.liquid - targetOf w.storage side.total)
    have hpos : 0 < amount := hpos
    have hle : amount ≤ side.liquid - targetOf w.storage side.total := hle
    have hnatural : checkedSub side.liquid (targetOf w.storage side.total) =
        some (side.liquid - targetOf w.storage side.total) := i128?_of_in ⟨by omega, by omega⟩
    have hprincipalAfter : checkedAdd w.storage.principalSupplied amount =
        some (w.storage.principalSupplied + amount) := i128?_of_in ⟨by omega, hnew⟩
    have hliquidAfter : i128? (side.liquid - amount) = some (side.liquid - amount) :=
      i128?_of_in ⟨by omega, by omega⟩
    have hdelegatedAfter : i128? (side.total - side.liquid + amount) =
        some (side.total - side.liquid + amount) := i128?_of_in ⟨by omega, by omega⟩
    have hsupplies : amount ≤ w.handlerUsdc + amount := by omega
    have hclean : w.handlerUsdc + amount + -amount = 0 := by omega
    exact ⟨_, (hreach _).mpr (.inl ⟨hover.1, rebalanceToBlend_eq_ok.mpr ⟨_, hnatural,
      .inr ⟨not_lt.mpr hover.2, ⟨hpays, hpos.le, hpool⟩, ⟨htakes, hpos.le, hsupplies⟩, _,
        hprincipalAfter, _, hliquidAfter, _, hdelegatedAfter, hclean, rfl⟩⟩⟩)⟩

/-- A pull that is due goes through if Blend's delivery, with what the handler had, is what
is asked for, and the pool takes it. -/
theorem fromBlend_goesThrough (hunder : Under w.storage side)
    (hprincipal : w.storage.principalSupplied ≤ i128Max) :
    (∃ t, executeRebalance env (.start w) = .ok ((), t)) ↔
      GoesThrough env w (.fromBlend (capped w.storage.maxRebalanceAmount
        (min (targetOf w.storage side.total - side.liquid) w.storage.principalSupplied))) := by
  have hreach := executeRebalance_open hst hstatus hstate hside hliquid htotal hfits hopen
  have hband := bandOf_nonneg w.storage htotal.le
  have hbelow := hunder.1
  have hnotOver : ¬ targetOf w.storage side.total + bandOf w.storage side.total < side.liquid := by
    omega
  have hdust : ¬ min (targetOf w.storage side.total - side.liquid) w.storage.principalSupplied <
      w.storage.minRebalanceAmount := not_lt.mpr ((le_max_right _ _).trans hunder.2)
  have hpos := hunder.amount_pos
  constructor
  · rintro ⟨t, h⟩
    obtain ⟨hover, -⟩ | ⟨-, ⟨-, hfrom⟩ | ⟨hnotUnder, -⟩⟩ := (hreach t).mp h
    · exact absurd hover hnotOver
    · obtain ⟨natural, hnatural, hcases⟩ := rebalanceFromBlend_eq_ok.mp hfrom
      obtain rfl := (i128?_eq_some.mp hnatural).2
      obtain ⟨hless, -⟩ | ⟨-, ⟨-, hmove⟩ | ⟨hnone, -⟩⟩ := hcases
      · exact absurd hless hdust
      · obtain ⟨delivery, hdelivery, hheld, ⟨htakes, -, -, hpool⟩, _, -, _, -, _, -, hzero, -⟩ :=
          hmove
        exact ⟨delivery, hdelivery, hheld, htakes, hpool, Int.eq_of_sub_eq_zero hzero⟩
      · exact absurd hpos hnone
    · exact absurd hbelow hnotUnder
  · rintro ⟨delivery, hdelivery, hheld, htakes, hpool, hsum⟩
    have htarget := targetOf_le hst.target.2 htotal.le
    have hall := hfits.total_le hst htotal.le
    have hmin : i128Min ≤ 0 := i128Min_nonpos
    let bounded := min (targetOf w.storage side.total - side.liquid) w.storage.principalSupplied
    let amount := capped w.storage.maxRebalanceAmount bounded
    have hpos : 0 < amount := hpos
    have hle : amount ≤ bounded := capped_le _ _
    have hdeficit : bounded ≤ targetOf w.storage side.total - side.liquid := min_le_left _ _
    have hbounded : bounded ≤ w.storage.principalSupplied := min_le_right _ _
    have hnatural : checkedSub (targetOf w.storage side.total) side.liquid =
        some (targetOf w.storage side.total - side.liquid) := i128?_of_in ⟨by omega, by omega⟩
    have hrest : i128? (w.storage.principalSupplied - amount) =
        some (w.storage.principalSupplied - amount) := i128?_of_in ⟨by omega, by omega⟩
    have hliquidAfter : i128? (side.liquid + amount) = some (side.liquid + amount) :=
      i128?_of_in ⟨by omega, by omega⟩
    have hdelegatedAfter : i128? (side.total - side.liquid - amount) =
        some (side.total - side.liquid - amount) := i128?_of_in ⟨by omega, by omega⟩
    have hcovers : amount ≤ w.handlerUsdc + delivery.val := hsum.ge
    have hclean : w.handlerUsdc + delivery.val + -amount = 0 := Int.sub_eq_zero_of_eq hsum
    exact ⟨_, (hreach _).mpr (.inr ⟨hnotOver, .inl ⟨hbelow, rebalanceFromBlend_eq_ok.mpr
      ⟨_, hnatural, .inr ⟨hdust, .inl ⟨hpos, delivery, hdelivery, hheld,
        ⟨htakes, hpos.le, hcovers, hpool⟩, _, hrest, _, hliquidAfter, _, hdelegatedAfter, hclean,
          rfl⟩⟩⟩⟩⟩)⟩

end

/-- The policy, in one theorem.  On a snapshot on which `execute_rebalance` returns:
it moves funds exactly when the gates are open and the liquid balance is over or
under by more than the band and not by dust; what it moves is one amount, capped,
towards the target and never across it, and onto it unless capped or short of
principal; and when it does not move it changes nothing. -/
theorem rebalance_policy (env : Env) {s t : Session} {status : Nat} {state : DelegateState}
    (hst : InRange s.world.storage) (hstatus : env.status s.world.venue = some status)
    (hstate : env.queryDelegateState s.world.venue = some state)
    (hliquid : 0 ≤ (usdcSide s.world.storage state).liquid)
    (htotal : 0 < (usdcSide s.world.storage state).total)
    (h : executeRebalance env s = .ok ((), t)) :
    let st := s.world.storage
    let side := usdcSide st state
    let target := targetOf st side.total
    let maxCap := st.maxRebalanceAmount
    let Moves := GatesOpen st status s.world.timestamp side ∧ (Over st side ∨ Under st side)
    (t.calls ≠ s.calls ↔ Moves) ∧
    (¬ Moves → t.world = s.world ∧ t.announced = s.announced) ∧
    (Moves → Over st side →
      let n := side.liquid - target
      let a := if 0 < maxCap ∧ maxCap < n then maxCap else n
      0 < a ∧ target ≤ side.liquid - a ∧
        (¬ (0 < maxCap ∧ maxCap < n) → side.liquid - a = target) ∧
        Moved s t side directionToBlend a a (.toBlend a)
          [.withdrawToDelegate st.blendedPool st.usdc a, .supply st.blendPool st.usdc a]) ∧
    (Moves → Under st side →
      let n := min (target - side.liquid) st.principalSupplied
      let a := if 0 < maxCap ∧ maxCap < n then maxCap else n
      0 < a ∧ side.liquid + a ≤ target ∧
        (¬ (0 < maxCap ∧ maxCap < n) → target - side.liquid ≤ st.principalSupplied →
          side.liquid + a = target) ∧
        ∃ redeemed, Moved s t side directionFromBlend a (-a) (.fromBlend a redeemed)
          [.withdraw st.blendPool st.usdc a redeemed,
            .depositFromDelegate st.blendedPool st.usdc a]) := by
  intro st side target maxCap Moves
  have hdone : CarriedOut s t side (policy st status s.world.timestamp side) :=
    executeRebalance_decides hst.target.2 hstatus hstate rfl hliquid htotal h
  have hheld : ¬ Moves → CarriedOut s t side .hold := by
    intro hnot
    have hhold : policy st status s.world.timestamp side = .hold := by
      cases hp : policy st status s.world.timestamp side with
      | hold => rfl
      | toBlend a =>
          obtain ⟨hopen, hover, -⟩ := policy_toBlend.mp hp
          exact absurd ⟨hopen, .inl hover⟩ hnot
      | fromBlend a =>
          obtain ⟨hopen, hunder, -⟩ := (policy_fromBlend htotal.le).mp hp
          exact absurd ⟨hopen, .inr hunder⟩ hnot
    rw [hhold] at hdone
    exact hdone
  have hto : Moves → Over st side → CarriedOut s t side
      (.toBlend (capped maxCap (side.liquid - target))) := by
    intro hmoves hover
    rw [policy_toBlend.mpr ⟨hmoves.1, hover, rfl⟩] at hdone
    exact hdone
  have hfrom : Moves → Under st side → CarriedOut s t side
      (.fromBlend (capped maxCap (min (target - side.liquid) st.principalSupplied))) := by
    intro hmoves hunder
    rw [(policy_fromBlend htotal.le).mpr ⟨hmoves.1, hunder, rfl⟩] at hdone
    exact hdone
  refine ⟨⟨?_, ?_⟩, ?_, ?_, ?_⟩
  · intro hcalls
    by_contra hnot
    exact hcalls (hheld hnot).2.1
  · rintro ⟨hopen, hover | hunder⟩
    · exact (hto ⟨hopen, .inl hover⟩ hover).calls_ne
    · obtain ⟨redeemed, hmoved⟩ := hfrom ⟨hopen, .inr hunder⟩ hunder
      exact hmoved.calls_ne
  · intro hnot
    exact ⟨(hheld hnot).1, (hheld hnot).2.2⟩
  · intro hmoves hover n a
    have hle : a ≤ n := capped_le maxCap n
    refine ⟨hover.amount_pos htotal.le, by omega, ?_, hto hmoves hover⟩
    intro huncapped
    have ha : a = n := if_neg huncapped
    omega
  · intro hmoves hunder n a
    have hle : a ≤ n := capped_le maxCap n
    have hn : n ≤ target - side.liquid := min_le_left _ _
    refine ⟨hunder.amount_pos, by omega, ?_, hfrom hmoves hunder⟩
    intro huncapped hsuffices
    have ha : a = n := if_neg huncapped
    have hfull : n = target - side.liquid := min_eq_left hsuffices
    omega

theorem sampleStorage_inRange : InRange sampleStorage := by
  obtain ⟨c, hc⟩ := sampleWorld_deployed.constructed
  exact (constructor_fresh hc).inRange

/-- The sample pool has 1000 of 1000 liquid and wants 500. -/
theorem rebalance_policy_sample :
    ∃ t, executeRebalance .honest (.start sampleWorld) = .ok ((), t) ∧
      t.calls = [.withdrawToDelegate 30 1 500, .supply 40 1 500] ∧
      t.world.storage.principalSupplied = 500 ∧ t.world.storage.lastRebalanceTs = 1000 := by
  obtain ⟨t, ht⟩ : ∃ t, executeRebalance .honest (.start sampleWorld) = .ok ((), t) := ⟨_, rfl⟩
  have hopen : GatesOpen sampleStorage 1 1000 ⟨1000, 0, 1000⟩ := by decide
  have hover : Over sampleStorage ⟨1000, 0, 1000⟩ := by
    unfold Over
    decide
  obtain ⟨-, -, -, hmoved⟩ := (rebalance_policy .honest sampleStorage_inRange rfl rfl
    (by decide) (by decide) ht).2.2.1 ⟨hopen, .inl hover⟩ hover
  refine ⟨t, ht, hmoved.calls.trans (by decide), ?_, ?_⟩
  · rw [hmoved.storage]
    decide
  · rw [hmoved.storage]
    decide

end BlendPool.Handler
