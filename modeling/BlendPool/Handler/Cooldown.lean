/-
# `BlendPool.Handler.Cooldown` — the rate limit

`last_rebalance_ts` is written by the two moving branches of `execute_rebalance`
and by nothing else: not by its other branches, not by a harvest, not by the
admin's moves or setters.  So between two moves of a run it is the time of the
first, and the gate of the second is a statement about the two times.
-/
import BlendPool.Handler.Policy

namespace BlendPool.Handler

open Bounded

/-! ## What the other actions write -/

theorem afterIf_storage (s : Session) (p : Prop) [Decidable p] (c : ExtCall) :
    (s.afterIf p c).world.storage = s.world.storage := by
  rw [Session.afterIf]
  split
  · rfl
  · rfl

theorem settled_storage (s : Session) (st : Storage) (r : Int) :
    (s.settled st r).world.storage =
      s.world.storage.withPrincipal (min st.principalSupplied r) := by
  rw [Session.settled, afterIf_storage, Session.emitIf_world, Session.update_world_storage,
    afterIf_storage]

theorem returned_storage (s : Session) (st : Storage) (r : Int) :
    (s.returned st r).world.storage = s.world.storage := by
  rw [Session.returned, afterIf_storage, afterIf_storage]

theorem reported_storage (s : Session) (now : Nat) (routed : Int) (leg : Int × Int)
    (healthy : Bool) (principal : Int) :
    ∃ ts, (s.reported now routed leg healthy principal).world.storage =
      s.world.storage.withLastHarvest ts := by
  rw [Session.reported]
  split
  · exact ⟨now, rfl⟩
  · exact ⟨s.world.storage.lastHarvestTs, rfl⟩

section

variable {env : Env} {s t : Session}

theorem executeHarvestYield_storage (h : executeHarvestYield env s = .ok ((), t)) :
    ∃ principal ts,
      t.world.storage = (s.world.storage.withPrincipal principal).withLastHarvest ts := by
  obtain ⟨routed, -, status, -, ⟨hgo, leg, v, hleg, -, rfl⟩ | ⟨-, -, rfl⟩⟩ :=
    executeHarvestYield_eq_ok.mp h
  · obtain ⟨ts, hts⟩ := reported_storage v s.world.timestamp routed leg
      (decide (status ≤ blendHealthyStatusMax)) s.world.storage.principalSupplied
    rw [hts]
    obtain ⟨delivery, -, -, hsettle⟩ | ⟨-, -, rfl⟩ := interestLeg_eq_ok.mp hleg
    · obtain ⟨hr, hmax⟩ := delivery.property
      obtain ⟨-, -, -, -, rfl⟩ := (settleInterest_eq_ok hgo.1 hr hmax).mp hsettle
      exact ⟨_, ts, congrArg (·.withLastHarvest ts) (settled_storage _ _ _)⟩
    · exact ⟨s.world.storage.principalSupplied, ts, rfl⟩
  · obtain ⟨ts, hts⟩ := reported_storage
      (s.after (.claim s.world.storage.blendPool [s.world.storage.usdcReserveTokenId]
        s.world.storage.blndTreasury routed)) s.world.timestamp routed
      (0, s.world.storage.principalSupplied) (decide (status ≤ blendHealthyStatusMax))
      s.world.storage.principalSupplied
    exact ⟨s.world.storage.principalSupplied, ts, hts⟩

theorem emergencyUnwind_storage (h : emergencyUnwind env s = .ok ((), t)) :
    t.world.storage = s.world.storage.withPrincipal 0 := by
  obtain ⟨-, ⟨hp, redeemed, u, hdrain, -, rfl⟩ | ⟨-, -, rfl⟩⟩ := emergencyUnwind_eq_ok.mp h
  · obtain ⟨delivery, -, -, -, -, rfl⟩ := (drain_eq_ok hp).mp hdrain
    exact congrArg (·.withPrincipal 0) (returned_storage _ _ _)
  · rfl

theorem manualToBlend_storage {amount : Int} (h : manualToBlend env amount s = .ok ((), t)) :
    ∃ principal, t.world.storage = s.world.storage.withPrincipal principal := by
  obtain ⟨-, -, -, _, -, -, -, -, principalAfter, -, _, -, -, rfl⟩ := manualToBlend_eq_ok.mp h
  exact ⟨principalAfter, rfl⟩

theorem manualFromBlend_storage {amount : Int} (h : manualFromBlend env amount s = .ok ((), t)) :
    ∃ principal, t.world.storage = s.world.storage.withPrincipal principal := by
  obtain ⟨-, -, -, -, delivery, -, -, -, rest, -, _, -, -, rfl⟩ := manualFromBlend_eq_ok.mp h
  exact ⟨max rest 0, rfl⟩

end

/-! ## Automatic moves -/

/-- The move that a rebalance's log shows. -/
def moveOf : List ExtCall → Decision
  | .withdrawToDelegate _ _ amount :: _ => .toBlend amount
  | .withdraw _ _ requested _ :: _ => .fromBlend requested
  | _ => .hold

/-- A submission that decodes to a rebalance. -/
def EntryPoint.rebalances (P : Shared) : EntryPoint → Bool
  | .verifyXlm envelopeBytes _ =>
      (P.decodeEnvelope envelopeBytes).bind (fun e => P.decodeAction e.payload) = some .rebalance
  | _ => false

/-- What a step moves as an execution of a rebalance. -/
def autoMove (P : Shared) (w : World) : Action → Decision
  | .invoke env entry =>
      match invoke P env w entry with
      | .ok t => if entry.rebalances P then moveOf t.calls else .hold
      | .error _ => .hold
  | _ => .hold

theorem autoMove_ok {P : Shared} {env : Env} {w : World} {entry : EntryPoint} {t : Session}
    (h : invoke P env w entry = .ok t) :
    autoMove P w (.invoke env entry) = if entry.rebalances P then moveOf t.calls else .hold := by
  rw [autoMove, h]

theorem autoMove_error {P : Shared} {env : Env} {w : World} {entry : EntryPoint} {e : Failure}
    (h : invoke P env w entry = .error e) : autoMove P w (.invoke env entry) = .hold := by
  rw [autoMove, h]

theorem moveOf_carriedOut {w : World} {t : Session} {side : Side} {d : Decision}
    (h : CarriedOut (.start w) t side d) : moveOf t.calls = d := by
  cases d with
  | hold => rw [h.2.1]; rfl
  | toBlend amount => rw [Moved.calls h]; rfl
  | fromBlend amount =>
      obtain ⟨redeemed, hmoved⟩ := h
      rw [hmoved.calls]
      rfl

theorem lastRebalance_carriedOut {s t : Session} {side : Side} {d : Decision}
    (h : CarriedOut s t side d) :
    t.world.storage.lastRebalanceTs =
      if d = .hold then s.world.storage.lastRebalanceTs else s.world.timestamp := by
  cases d with
  | hold => rw [h.1]; rfl
  | toBlend amount => exact congrArg Storage.lastRebalanceTs (Moved.storage h)
  | fromBlend amount =>
      obtain ⟨redeemed, hmoved⟩ := h
      exact congrArg Storage.lastRebalanceTs hmoved.storage

section

variable {P : Shared} {env : Env} {w : World} {entry : EntryPoint} {t : Session}

/-- A rebalance that goes through is the executor's, and the mark of its event. -/
theorem invoke_rebalance (h : invoke P env w entry = .ok t) (hentry : entry.rebalances P = true) :
    ∃ u id, executeRebalance env (.start w) = .ok ((), u) ∧
      t = (u.update (·.markSeen id)).emit (.verified id) := by
  cases entry with
  | verifyXlm envelopeBytes sigData =>
      obtain ⟨-, envelope, henvelope, -, -, -, action, haction, u, hu, rfl⟩ :=
        verifyXlm_eq_ok.mp (invoke_eq_ok.mp h)
      have hdecoded : (P.decodeEnvelope envelopeBytes).bind (fun e => P.decodeAction e.payload) =
          some .rebalance := of_decide_eq_true hentry
      rw [henvelope, Option.bind_some, haction] at hdecoded
      obtain rfl := Option.some.inj hdecoded
      exact ⟨u, envelope.eventId, hu, rfl⟩
  | _ => cases hentry

theorem lastRebalance_other (h : invoke P env w entry = .ok t)
    (hentry : entry.rebalances P = false) :
    t.world.storage.lastRebalanceTs = w.storage.lastRebalanceTs := by
  cases invoke_done h with
  | @submission _ _ _ action u henvelope haction hu =>
      cases action with
      | rebalance =>
          refine absurd ?_ (of_decide_eq_false hentry)
          rw [henvelope]
          exact haction
      | harvestYield =>
          obtain ⟨principal, ts, hst⟩ := executeHarvestYield_storage hu
          show u.world.storage.lastRebalanceTs = _
          rw [hst]
          rfl
  | emergencyUnwind hbody =>
      rw [emergencyUnwind_storage hbody]
      rfl
  | manualToBlend hbody =>
      obtain ⟨principal, hst⟩ := manualToBlend_storage hbody
      rw [hst]
      rfl
  | manualFromBlend hbody =>
      obtain ⟨principal, hst⟩ := manualFromBlend_storage hbody
      rw [hst]
      rfl
  | setting _ hwrote => exact hwrote.lastRebalance

theorem lastRebalance_step (hw : InRange w.storage) (a : Action) :
    (step P w a).storage.lastRebalanceTs =
      if autoMove P w a = .hold then w.storage.lastRebalanceTs else w.timestamp := by
  cases a with
  | invoke env entry =>
      cases h : invoke P env w entry with
      | error e => rw [step_invoke_error h, autoMove_error h, if_pos rfl]
      | ok t =>
          rw [step_invoke_ok h, autoMove_ok h]
          cases hentry : entry.rebalances P with
          | false => exact lastRebalance_other h hentry
          | true =>
              obtain ⟨u, id, hu, rfl⟩ := invoke_rebalance h hentry
              show u.world.storage.lastRebalanceTs = if moveOf u.calls = .hold then _ else _
              obtain rfl | ⟨status, state, -, -, -, hdone⟩ :=
                executeRebalance_cases (s := .start w) hw.target.2 hu
              · rfl
              · rw [moveOf_carriedOut hdone]
                exact lastRebalance_carriedOut hdone
  | trade _ _ | accrue _ | writeDown _ | blendHolds _ | send _ | advance _ _ => rfl

/-- An automatic move is what the policy says on the snapshot the pool reported. -/
theorem autoMove_policy (hw : InRange w.storage) {a : Action} (h : autoMove P w a ≠ .hold) :
    ∃ env entry status state, a = .invoke env entry ∧
      env.queryDelegateState w.venue = some state ∧ 0 < (usdcSide w.storage state).total ∧
      autoMove P w a = policy w.storage status w.timestamp (usdcSide w.storage state) := by
  cases a with
  | invoke env entry =>
      cases hcall : invoke P env w entry with
      | error e => exact absurd (autoMove_error hcall) h
      | ok t =>
          rw [autoMove_ok hcall] at h ⊢
          cases hentry : entry.rebalances P with
          | false =>
              rw [hentry] at h
              exact absurd rfl h
          | true =>
              rw [hentry] at h
              obtain ⟨u, id, hu, rfl⟩ := invoke_rebalance hcall hentry
              obtain rfl | ⟨status, state, -, hstate, htotal, hdone⟩ :=
                executeRebalance_cases (s := .start w) hw.target.2 hu
              · exact absurd rfl h
              · have hmove : moveOf u.calls = policy w.storage status w.timestamp
                    (usdcSide w.storage state) := moveOf_carriedOut hdone
                exact ⟨env, entry, status, state, rfl, hstate, htotal, hmove⟩
  | trade _ _ | accrue _ | writeDown _ | blendHolds _ | send _ | advance _ _ => exact absurd rfl h

end

/-! ## Two moves of a run -/

/-- The second move came after the cooldown, or was a pull on a critically low pool. -/
theorem due_of_policy {st : Storage} {status now : Nat} {side : Side} {d : Decision}
    (htotal : 0 ≤ side.total) (hd : d = policy st status now side) (hne : d ≠ .hold) :
    CooldownElapsed st now ∨ (∃ amount, d = .fromBlend amount) ∧ Critical st side := by
  cases d with
  | hold => exact absurd rfl hne
  | toBlend amount =>
      obtain ⟨hopen, hover, -⟩ := policy_toBlend.mp hd.symm
      refine .inl (hopen.due.resolve_right ?_)
      -- over-liquid and critical exclude each other
      intro hcritical
      have hband := bandOf_nonneg st htotal
      have habove := hover.1
      have hbelow := hcritical.2.2
      omega
  | fromBlend amount =>
      obtain ⟨hopen, -, -⟩ := (policy_fromBlend htotal).mp hd.symm
      exact hopen.due.imp_right fun hcritical => ⟨⟨amount, rfl⟩, hcritical⟩

/-- Between two automatic moves with none in between, in a run from the deployment:
the cooldown as it is configured at the second has passed since the first, or the
second pulls from Blend on a snapshot that is critically low.  A move to Blend is
never made inside the cooldown. -/
theorem rate_limit (P : Shared) {w₀ : World} (h₀ : Deployed w₀) (before between : List Action)
    (a₁ a₂ : Action) :
    let w₁ := Runs.run (step P) w₀ before
    let w₂ := Runs.run (step P) (step P w₁ a₁) between
    autoMove P w₁ a₁ ≠ .hold →
      Runs.Along (step P) (fun w a => autoMove P w a = .hold) (step P w₁ a₁) between →
      autoMove P w₂ a₂ ≠ .hold →
    let Elapsed := min (w₁.timestamp + w₂.storage.rebalanceCooldownSecs) u64Max ≤ w₂.timestamp
    w₁.timestamp ≤ w₂.timestamp ∧
      (Elapsed ∨ (∃ amount, autoMove P w₂ a₂ = .fromBlend amount) ∧
        ∃ env entry state, a₂ = .invoke env entry ∧
          env.queryDelegateState w₂.venue = some state ∧
          Critical w₂.storage (usdcSide w₂.storage state)) ∧
      ∀ amount, autoMove P w₂ a₂ = .toBlend amount → Elapsed := by
  intro w₁ w₂ hfirst hnone hsecond Elapsed
  have hrange : InRange w₁.storage := inRange_run P h₀ before
  have hwritten : (step P w₁ a₁).storage.lastRebalanceTs = w₁.timestamp := by
    rw [lastRebalance_step hrange, if_neg hfirst]
  have hkept : ∀ w a, InRange w.storage ∧ w.storage.lastRebalanceTs = w₁.timestamp →
      autoMove P w a = .hold →
      InRange (step P w a).storage ∧ (step P w a).storage.lastRebalanceTs = w₁.timestamp := by
    rintro w a ⟨hw, hts⟩ hhold
    refine ⟨inRange_step hw a, ?_⟩
    rw [lastRebalance_step hw, if_pos hhold]
    exact hts
  obtain ⟨hw₂, hlast⟩ : InRange w₂.storage ∧ w₂.storage.lastRebalanceTs = w₁.timestamp :=
    Runs.Along.run (step P) hkept ⟨inRange_step hrange a₁, hwritten⟩ hnone
  have htime : w₁.timestamp ≤ w₂.timestamp :=
    (clock_step P w₁ a₁).1.trans (timestamp_run P _ between)
  obtain ⟨env, entry, status, state, ha, hstate, htotal, hpolicy⟩ := autoMove_policy hw₂ hsecond
  have helapsed : CooldownElapsed w₂.storage w₂.timestamp ↔ Elapsed := by
    rw [CooldownElapsed, hlast]
  have hdue := due_of_policy htotal.le hpolicy hsecond
  rw [helapsed] at hdue
  refine ⟨htime, ?_, ?_⟩
  · exact hdue.imp_right fun hpull => ⟨hpull.1, env, entry, state, ha, hstate, hpull.2⟩
  · intro amount hto
    refine hdue.resolve_right ?_
    rintro ⟨⟨other, hfrom⟩, -⟩
    rw [hto] at hfrom
    cases hfrom

/-- An event of the sample deployment that asks for a rebalance. -/
def rebalanceEvent (env : Env) (id : Byte) : Action :=
  .invoke env (.verifyXlm (List.replicate 20 id ++ [0]) ⟨[], [], 500⟩)

/-- The sample pool fills up again after its first move, and a minute later the
second one is due. -/
theorem rate_limit_sample :
    let w₁ := step .sample sampleWorld (rebalanceEvent .honest 1)
    let w₂ := Runs.run (step .sample) w₁ [.trade 1500 5000, .advance 60 0]
    autoMove .sample w₂ (rebalanceEvent .honest 2) = .toBlend 500 ∧
      min (sampleWorld.timestamp + w₂.storage.rebalanceCooldownSecs) u64Max ≤ w₂.timestamp := by
  intro w₁ w₂
  have hfirst : autoMove .sample sampleWorld (rebalanceEvent .honest 1) ≠ .hold := by decide
  have hsecond : autoMove .sample w₂ (rebalanceEvent .honest 2) = .toBlend 500 := by decide
  have hmoves : autoMove .sample w₂ (rebalanceEvent .honest 2) ≠ .hold := by
    rw [hsecond]
    decide
  obtain ⟨-, -, hlimit⟩ := rate_limit .sample sampleWorld_deployed []
    [.trade 1500 5000, .advance 60 0] (rebalanceEvent .honest 1) (rebalanceEvent .honest 2)
    hfirst ⟨rfl, rfl, trivial⟩ hmoves
  exact ⟨hsecond, hlimit 500 hsecond⟩

end BlendPool.Handler
