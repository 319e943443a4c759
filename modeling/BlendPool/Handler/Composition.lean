/-
# `BlendPool.Handler.Composition` — what the actions are made of

An action looks at the world, checks, calls out, writes the principal or a
timestamp, publishes, and ends in the residue check.  Its own balance it reads
only to measure: before and after a withdrawal, for the difference.  `Composed`
is what can be put together from these steps, the calls being those `ok` allows.

So a property that the steps have and sequences inherit is a property of the
actions.  They are taken apart once, here; the property is one induction.
-/
import BlendPool.Handler.System

namespace BlendPool.Handler

open Bounded

/-! ## Deposits

What the handler asks the pool to take back is never more than the principal it
read, whether or not the call goes through in the end.  A call that trapped on a
transfer names the transfer, so this is a statement about errors. -/

/-- The deposit a failure names. -/
def Failure.deposit? : Failure → Option Int
  | .insufficient (.depositFromDelegate _ _ amount) => some amount
  | _ => none

/-- Not a deposit of more than `bound`. -/
def DepositWithin (bound : Int) (e : Failure) : Prop :=
  ∀ amount, e.deposit? = some amount → amount ≤ bound

theorem depositWithin_of_le {bound amount : Int} {pool token : Address} (h : amount ≤ bound) :
    DepositWithin bound (.insufficient (.depositFromDelegate pool token amount)) := by
  intro _ he
  cases he
  exact h

theorem depositWithin_of_none {bound : Int} {e : Failure} (h : e.deposit? = none) :
    DepositWithin bound e := by
  intro amount he
  rw [h] at he
  cases he

/-- `ok` allows every call but deposits of more than `bound`. -/
def Permits (bound : Int) (ok : ExtCall → Prop) : Prop :=
  ∀ c, DepositWithin bound (.insufficient c) → ok c

theorem Permits.deposit {bound amount : Int} {ok : ExtCall → Prop} (h : Permits bound ok)
    {pool token : Address} (hle : amount ≤ bound) : ok (.depositFromDelegate pool token amount) :=
  h _ (depositWithin_of_le hle)

theorem Permits.other {bound : Int} {ok : ExtCall → Prop} (h : Permits bound ok) {c : ExtCall}
    (hc : (Failure.insufficient c).deposit? = none) : ok c :=
  h _ (depositWithin_of_none hc)

/-- Every call. -/
def AnyCall : ExtCall → Prop := fun _ => True

theorem permits_anyCall (bound : Int) : Permits bound AnyCall := fun _ _ => trivial

/-! ## The steps -/

/-- Put together from the steps of an action, with calls from `ok`. -/
inductive Composed (env : Env) (ok : ExtCall → Prop) : {α : Type} → Exec α → Prop
  | pure {α : Type} (a : α) : Composed env ok (Pure.pure a)
  | fail {α : Type} {e : Failure} : e.deposit? = none → Composed env ok (throw e : Exec α)
  | call {c : ExtCall} : ok c → Composed env ok (perform c)
  /-- looking at the world, but not at the handler's balance -/
  | look {α : Type} {k : World → Exec α} :
      (∀ w, Composed env ok (k w)) → (∀ w usdc, k { w with handlerUsdc := usdc } = k w) →
      Composed env ok (getWorld >>= k)
  | storage : Composed env ok getStorage
  | principal (amount : Int) : Composed env ok (setPrincipalSupplied amount)
  | rebalanced (ts : Nat) : Composed env ok (setLastRebalanceTs ts)
  | harvested (ts : Nat) : Composed env ok (setLastHarvestTs ts)
  | publish (e : Event) : Composed env ok (publish e)
  | residue : Composed env ok assertNoUsdcResidue
  /-- the difference of the balance around `x` -/
  | measure {α β : Type} {x : Exec α} {k : α → Int → Exec β} :
      Composed env ok x → (∀ a r, Composed env ok (k a r)) →
      Composed env ok (usdcBalance >>= fun before => x >>= fun a => usdcBalance >>=
        fun balance => k a (saturatingSub balance before))
  | attempt {blendPool usdc : Address} {amount : Int} :
      Composed env ok (blendSubmitWithdraw env blendPool usdc amount) →
      Composed env ok (Txn.attempt (blendSubmitWithdraw env blendPool usdc amount))
  | bind {α β : Type} {x : Exec α} {f : α → Exec β} :
      Composed env ok x → (∀ a, Composed env ok (f a)) → Composed env ok (x >>= f)
  | ite {α : Type} {p : Prop} [Decidable p] {x y : Exec α} :
      (p → Composed env ok x) → (¬ p → Composed env ok y) → Composed env ok (if p then x else y)

section

variable {env : Env} {ok : ExtCall → Prop}

theorem Composed.seq {α : Type} {x : Exec Unit} {y : Exec α} (hx : Composed env ok x)
    (hy : Composed env ok y) : Composed env ok (x >>= fun _ => y) :=
  hx.bind fun _ => hy

theorem Composed.ensure {p : Prop} [Decidable p] {e : Failure} (he : e.deposit? = none) :
    Composed env ok (Txn.ensure p e) :=
  .ite (fun _ => .pure ()) fun _ => .fail he

theorem Composed.orAbort {α : Type} {e : Failure} (he : e.deposit? = none) :
    ∀ o : Option α, Composed env ok (Txn.orAbort e o)
  | some a => .pure a
  | none => .fail he

theorem Composed.lift {α : Type} {x : Except Failure α}
    (hx : ∀ e, x = .error e → e.deposit? = none) : Composed env ok (Txn.lift x) := by
  cases x with
  | ok a => exact .pure a
  | error e => exact .fail (hx e rfl)

theorem Composed.when {p : Prop} [Decidable p] {x : Exec Unit} (hx : Composed env ok x) :
    Composed env ok (Txn.when p x) :=
  .ite (fun _ => hx) fun _ => .pure ()

theorem Composed.request {c : ExtCall} (hc : ok c) : Composed env ok (request env c) := by
  refine .look ?_ fun _ _ => rfl
  intro w
  exact (Composed.ensure rfl).seq (.call hc)

theorem composed_requireAdmin : Composed env ok (requireAdmin env) := by
  refine Composed.storage.bind ?_
  intro st
  exact .ensure rfl

theorem composed_blendStatus : Composed env ok (blendStatus env) :=
  .look (fun _ => .orAbort rfl _) fun _ _ => rfl

theorem composed_queryDelegateState : Composed env ok (queryDelegateState env) :=
  .look (fun _ => .orAbort rfl _) fun _ _ => rfl

variable {bound : Int}

theorem composed_blendSubmitWithdraw (hok : Permits bound ok) (blendPool usdc : Address)
    (amount : Int) : Composed env ok (blendSubmitWithdraw env blendPool usdc amount) := by
  refine .look ?_ fun _ _ => rfl
  intro w
  refine (Composed.orAbort rfl _).bind ?_
  intro delivery
  exact .call (hok.other rfl)

theorem composed_blendClaim (hok : Permits bound ok) (blendPool recipient : Address)
    (ids : List Nat) : Composed env ok (blendClaim env blendPool ids recipient) := by
  refine .look ?_ fun _ _ => rfl
  intro w
  refine (Composed.orAbort rfl _).bind ?_
  intro routed
  refine Composed.seq ?_ (.pure routed)
  exact .call (hok.other rfl)

/-! ## The actions -/

variable (st : Storage) (now : Nat)

theorem composed_rebalanceToBlend (hok : Permits bound ok) (g : Gauge) (liquid delegated : Int) :
    Composed env ok (rebalanceToBlend env st now g liquid delegated) := by
  refine (Composed.orAbort rfl _).bind ?_
  intro natural
  refine .ite (fun _ => .pure ()) ?_
  intro _
  refine (Composed.request (hok.other rfl)).seq ?_
  refine (Composed.request (hok.other rfl)).seq ?_
  refine (Composed.orAbort rfl _).bind ?_
  intro principalAfter
  refine (Composed.principal _).seq ?_
  refine (Composed.rebalanced now).seq ?_
  refine (Composed.orAbort rfl _).bind ?_
  intro liquidAfter
  refine (Composed.orAbort rfl _).bind ?_
  intro delegatedAfter
  exact (Composed.publish _).seq .residue

theorem composed_rebalanceFromBlend (hok : Permits st.principalSupplied ok) (g : Gauge)
    (liquid delegated : Int) :
    Composed env ok (rebalanceFromBlend env st now g liquid delegated) := by
  refine (Composed.orAbort rfl _).bind ?_
  intro natural
  have hamount : capped st.maxRebalanceAmount (min natural st.principalSupplied) ≤
      st.principalSupplied := (capped_le _ _).trans (min_le_right _ _)
  refine .ite (fun _ => .pure ()) ?_
  intro _
  refine .ite ?_ ?_
  · intro _
    refine (composed_blendSubmitWithdraw hok _ _ _).seq ?_
    refine (Composed.request (hok.deposit hamount)).seq ?_
    refine (Composed.orAbort rfl _).bind ?_
    intro rest
    refine (Composed.principal _).seq ?_
    refine (Composed.rebalanced now).seq ?_
    refine (Composed.orAbort rfl _).bind ?_
    intro liquidAfter
    refine (Composed.orAbort rfl _).bind ?_
    intro delegatedAfter
    refine (Composed.publish _).seq ?_
    exact (Composed.publish _).when.seq .residue
  · intro _
    exact (Composed.publish _).when.seq .residue

theorem composed_rebalanceOn (hok : Permits st.principalSupplied ok) (side : Side) :
    Composed env ok (rebalanceOn env st now side) := by
  refine .ite (fun _ => .pure ()) ?_
  intro _
  refine .ite (fun _ => .fail rfl) ?_
  intro _
  have hgauge : ∀ e, gauge st now side.liquid side.total = .error e → e.deposit? = none := by
    intro e h
    cases gauge_error h
    rfl
  refine (Composed.lift hgauge).bind ?_
  intro g
  refine .ite (fun _ => .pure ()) ?_
  intro _
  refine (Composed.orAbort rfl _).bind ?_
  intro delegatedBefore
  refine .ite (fun _ => composed_rebalanceToBlend st now hok g _ _) ?_
  intro _
  exact .ite (fun _ => composed_rebalanceFromBlend st now hok g _ _) fun _ => .residue

theorem composed_announceBadDebt (principal redeemed : Int) :
    Composed env ok (announceBadDebt principal redeemed) := by
  refine (Composed.orAbort rfl _).bind ?_
  intro badDebt
  exact .publish _

theorem composed_settleInterest (hok : Permits bound ok) (r : Int) :
    Composed env ok (settleInterest env st r) := by
  refine (Composed.request (hok.other rfl)).when.seq ?_
  refine (Composed.principal _).seq ?_
  refine (composed_announceBadDebt _ _).when.seq ?_
  exact (Composed.request (hok.other rfl)).when.seq (.pure _)

/-- The interest leg, measuring before it looks at how the withdrawal went. -/
theorem interestLeg_eq (routed : Int) :
    interestLeg env st routed = (usdcBalance >>= fun before =>
      Txn.attempt (blendSubmitWithdraw env st.blendPool st.usdc i128Max) >>= fun withdrawn =>
        usdcBalance >>= fun balance =>
          match withdrawn with
          | .error _ => publish (.harvestPartial routed) >>= fun _ => pure (0, st.principalSupplied)
          | .ok _ => settleInterest env st (saturatingSub balance before)) := by
  rw [interestLeg]
  refine bind_congr ?_
  intro before
  refine bind_congr ?_
  intro withdrawn
  cases withdrawn with
  | error e => rfl
  | ok a => rfl

theorem composed_interestLeg (hok : Permits bound ok) (routed : Int) :
    Composed env ok (interestLeg env st routed) := by
  rw [interestLeg_eq]
  refine Composed.measure (k := fun withdrawn r =>
    match withdrawn with
    | .error _ => publish (.harvestPartial routed) >>= fun _ => pure (0, st.principalSupplied)
    | .ok _ => settleInterest env st r)
    (.attempt (composed_blendSubmitWithdraw hok _ _ _)) ?_
  intro withdrawn r
  cases withdrawn with
  | error e => exact (Composed.publish _).seq (.pure _)
  | ok a => exact composed_settleInterest st hok r

theorem composed_reportHarvest (routed : Int) (leg : Int × Int) (healthy : Bool)
    (principal : Int) : Composed env ok (reportHarvest now routed leg healthy principal) := by
  refine .ite ?_ ?_
  · intro _
    exact (Composed.harvested now).seq ((Composed.publish _).seq .residue)
  · intro _
    exact (Composed.publish _).seq .residue

theorem composed_executeHarvestYield (hok : Permits bound ok) :
    Composed env ok (executeHarvestYield env) := by
  refine .look ?_ fun _ _ => rfl
  intro w
  refine (composed_blendClaim hok _ _ _).bind ?_
  intro routed
  refine composed_blendStatus.bind ?_
  intro status
  refine .ite ?_ fun _ => composed_reportHarvest _ _ _ _ _
  intro _
  refine (composed_interestLeg _ hok _).bind ?_
  intro leg
  exact composed_reportHarvest _ _ _ _ _

theorem composed_returnToPool (hok : Permits st.principalSupplied ok) (redeemed : Int) :
    Composed env ok (returnToPool env st redeemed) := by
  refine (Composed.request (hok.deposit (min_le_right _ _))).when.seq ?_
  exact (Composed.request (hok.other rfl)).when

theorem composed_drain (hok : Permits st.principalSupplied ok) :
    Composed env ok (drain env st) := by
  refine Composed.measure (k := fun _ redeemed =>
    Txn.when (0 < redeemed) (returnToPool env st redeemed) >>= fun _ => pure redeemed)
    (composed_blendSubmitWithdraw hok _ _ _) ?_
  intro _ redeemed
  exact (composed_returnToPool st hok redeemed).when.seq (.pure _)

theorem composed_finishUnwind (redeemed principalBefore : Int) :
    Composed env ok (finishUnwind redeemed principalBefore) :=
  (Composed.principal 0).seq ((Composed.publish _).seq .residue)

theorem composed_manualToBlend (hok : Permits bound ok) (amount : Int) :
    Composed env ok (manualToBlend env amount) := by
  refine composed_requireAdmin.seq ?_
  refine (Composed.ensure rfl).seq ?_
  refine Composed.storage.bind ?_
  intro st
  refine (Composed.ensure rfl).seq ?_
  refine composed_blendStatus.bind ?_
  intro status
  refine (Composed.ensure rfl).seq ?_
  refine (Composed.request (hok.other rfl)).seq ?_
  refine (Composed.request (hok.other rfl)).seq ?_
  refine (Composed.orAbort rfl _).bind ?_
  intro principalAfter
  refine (Composed.principal _).seq ?_
  refine composed_queryDelegateState.bind ?_
  intro state
  exact (Composed.publish _).seq .residue

end

/-! ## The five money actions -/

/-- The ways to move money. -/
inductive Operation where
  | executeRebalance
  | executeHarvestYield
  | emergencyUnwind
  | manualToBlend (amount : Int)
  | manualFromBlend (amount : Int)

def Operation.body (env : Env) : Operation → Exec Unit
  | .executeRebalance => Handler.executeRebalance env
  | .executeHarvestYield => Handler.executeHarvestYield env
  | .emergencyUnwind => Handler.emergencyUnwind env
  | .manualToBlend amount => Handler.manualToBlend env amount
  | .manualFromBlend amount => Handler.manualFromBlend env amount

/-! ### Composed, with any call -/

section

variable (env : Env)

theorem composed_executeRebalance : Composed env AnyCall (executeRebalance env) := by
  refine .look ?_ fun _ _ => rfl
  intro w
  refine composed_blendStatus.bind ?_
  intro status
  refine .ite (fun _ => .pure ()) ?_
  intro _
  refine composed_queryDelegateState.bind ?_
  intro state
  exact composed_rebalanceOn _ _ (permits_anyCall _) _

theorem composed_emergencyUnwind : Composed env AnyCall (emergencyUnwind env) := by
  refine composed_requireAdmin.seq ?_
  refine Composed.storage.bind ?_
  intro st
  refine .ite ?_ fun _ => composed_finishUnwind _ _
  intro _
  refine (composed_drain st (permits_anyCall _)).bind ?_
  intro redeemed
  exact composed_finishUnwind _ _

theorem composed_manualFromBlend (amount : Int) :
    Composed env AnyCall (manualFromBlend env amount) := by
  refine composed_requireAdmin.seq ?_
  refine (Composed.ensure rfl).seq ?_
  refine Composed.storage.bind ?_
  intro st
  refine (Composed.ensure rfl).seq ?_
  refine (Composed.ensure rfl).seq ?_
  refine (composed_blendSubmitWithdraw (permits_anyCall 0) _ _ _).seq ?_
  refine (Composed.request trivial).seq ?_
  refine (Composed.orAbort rfl _).bind ?_
  intro rest
  refine (Composed.principal _).seq ?_
  refine composed_queryDelegateState.bind ?_
  intro state
  exact (Composed.publish _).seq .residue

theorem composed_operation (o : Operation) : Composed env AnyCall (o.body env) := by
  cases o with
  | executeRebalance => exact composed_executeRebalance env
  | executeHarvestYield => exact composed_executeHarvestYield (permits_anyCall 0)
  | emergencyUnwind => exact composed_emergencyUnwind env
  | manualToBlend amount => exact composed_manualToBlend (permits_anyCall 0) amount
  | manualFromBlend amount => exact composed_manualFromBlend env amount

theorem composed_dispatch (action : RebalanceAction) :
    Composed env AnyCall (dispatch env action) := by
  cases action with
  | rebalance => exact composed_operation env .executeRebalance
  | harvestYield => exact composed_operation env .executeHarvestYield

end

/-! ## Relations between the two ends -/

/-- A preorder on sessions that every step of an action respects. -/
structure StepRelation (R : Session → Session → Prop) : Prop where
  refl : ∀ s, R s s
  trans : ∀ {s t u}, R s t → R t u → R s u
  after : ∀ s c, R s (s.after c)
  principal : ∀ s amount, R s (s.update (·.withPrincipal amount))
  rebalanced : ∀ s ts, R s (s.update (·.withLastRebalance ts))
  harvested : ∀ s ts, R s (s.update (·.withLastHarvest ts))
  emit : ∀ s e, R s (s.emit e)

section Respects

variable {R : Session → Session → Prop} {α β : Type}

theorem StepRelation.read (hR : StepRelation R) (v : Session → α) :
    Txn.Respects R (v <$> get : Exec α) :=
  .read hR.refl v

theorem StepRelation.bind (hR : StepRelation R) {x : Exec α} {f : α → Exec β}
    (hx : Txn.Respects R x) (hf : ∀ a, Txn.Respects R (f a)) : Txn.Respects R (x >>= f) :=
  Txn.Respects.bind (R := R) hR.trans hx hf

theorem StepRelation.perform (hR : StepRelation R) (c : ExtCall) :
    Txn.Respects R (perform c) := by
  refine hR.bind (hR.read _) ?_
  intro w
  refine hR.bind (.ensure hR.refl _) ?_
  intro _
  exact .modify fun s => hR.after s c

theorem StepRelation.assertNoUsdcResidue (hR : StepRelation R) :
    Txn.Respects R assertNoUsdcResidue := by
  refine hR.bind (hR.read _) ?_
  intro balance
  exact .ensure hR.refl _

/-- The actions respect what their steps respect. -/
theorem Composed.respects (hR : StepRelation R) {env : Env} {ok : ExtCall → Prop} {x : Exec α}
    (h : Composed env ok x) : Txn.Respects R x := by
  induction h with
  | pure a => exact .pure hR.refl a
  | fail _ => exact .throw _
  | call _ => exact hR.perform _
  | look _ _ ih => exact hR.bind (hR.read _) ih
  | storage => exact hR.read _
  | principal amount => exact .modify fun s => hR.principal s amount
  | rebalanced ts => exact .modify fun s => hR.rebalanced s ts
  | harvested ts => exact .modify fun s => hR.harvested s ts
  | publish e => exact .modify fun s => hR.emit s e
  | residue => exact hR.assertNoUsdcResidue
  | measure _ _ ihx ihk =>
      refine hR.bind (hR.read _) ?_
      intro before
      refine hR.bind ihx ?_
      intro a
      refine hR.bind (hR.read _) ?_
      intro balance
      exact ihk a _
  | attempt _ ih => exact .attempt hR.refl ih
  | bind _ _ ihx ihf => exact hR.bind ihx ihf
  | ite _ _ ihx ihy => exact .ite ihx ihy

end Respects

/-! ## What the entry points do -/

/-- The entry points that write settings: the admin's setters and the admin transfer. -/
def EntryPoint.setting : EntryPoint → Bool
  | .verifyXlm _ _ | .emergencyUnwind | .manualToBlend _ | .manualFromBlend _ => false
  | _ => true

/-- A setting was written: nothing moved, and what the actions keep is as it was. -/
structure Wrote (w : World) (t : Session) : Prop where
  world : t.world = { w with storage := t.world.storage }
  calls : t.calls = []
  verifier : t.world.storage.verificationContract = w.storage.verificationContract
  principal : t.world.storage.principalSupplied = w.storage.principalSupplied
  lastRebalance : t.world.storage.lastRebalanceTs = w.storage.lastRebalanceTs
  lastHarvest : t.world.storage.lastHarvestTs = w.storage.lastHarvestTs
  seen : t.world.storage.eventSeen = w.storage.eventSeen

/-- What a call that went through has done. -/
inductive Done (P : Shared) (env : Env) (w : World) : EntryPoint → Session → Prop
  | submission {envelopeBytes : Bytes} {sigData : Ed25519SignatureData} {envelope : XlmEnvelope}
      {action : RebalanceAction} {u : Session} :
      P.decodeEnvelope envelopeBytes = some envelope →
      P.decodeAction envelope.payload = some action →
      dispatch env action (.start w) = .ok ((), u) →
      Done P env w (.verifyXlm envelopeBytes sigData)
        ((u.update (·.markSeen envelope.eventId)).emit (.verified envelope.eventId))
  | emergencyUnwind {t : Session} :
      emergencyUnwind env (.start w) = .ok ((), t) → Done P env w .emergencyUnwind t
  | manualToBlend {amount : Int} {t : Session} :
      manualToBlend env amount (.start w) = .ok ((), t) → Done P env w (.manualToBlend amount) t
  | manualFromBlend {amount : Int} {t : Session} :
      manualFromBlend env amount (.start w) = .ok ((), t) →
      Done P env w (.manualFromBlend amount) t
  | setting {entry : EntryPoint} {t : Session} :
      entry.setting = true → Wrote w t → Done P env w entry t

theorem invoke_done {P : Shared} {env : Env} {w : World} {entry : EntryPoint} {t : Session}
    (h : invoke P env w entry = .ok t) : Done P env w entry t := by
  have hbody := invoke_eq_ok.mp h
  cases entry with
  | verifyXlm envelopeBytes sigData =>
      obtain ⟨-, envelope, henvelope, -, -, -, action, haction, u, hu, rfl⟩ :=
        verifyXlm_eq_ok.mp hbody
      exact .submission henvelope haction hu
  | emergencyUnwind => exact .emergencyUnwind hbody
  | manualToBlend amount => exact .manualToBlend hbody
  | manualFromBlend amount => exact .manualFromBlend hbody
  | setMaxRebalanceAmount _ | setMinRebalanceAmount _ | pause | unpause | setTargetRatioBps _
  | setRebalanceBandBps _ | setCriticalLiquidFloorBps _ | setMinTotalUsdc _
  | setRebalanceCooldownSecs _ | setBlndTreasury _ | setUsdcReserveTokenId _ | upgrade _ =>
      obtain ⟨-, -, rfl⟩ := configure_eq_ok.mp hbody
      exact .setting rfl ⟨rfl, rfl, rfl, rfl, rfl, rfl, rfl⟩
  | proposeAdmin newAdmin =>
      obtain ⟨pending, -, rfl⟩ := proposeAdmin_eq_ok.mp hbody
      exact .setting rfl ⟨rfl, rfl, rfl, rfl, rfl, rfl, rfl⟩
  | acceptAdmin =>
      obtain ⟨accepted, -, rfl⟩ := acceptAdmin_eq_ok.mp hbody
      exact .setting rfl ⟨rfl, rfl, rfl, rfl, rfl, rfl, rfl⟩

/-! ## The clock -/

/-- A call happens in one ledger. -/
def SameClock (s t : Session) : Prop :=
  t.world.timestamp = s.world.timestamp ∧ t.world.sequence = s.world.sequence

theorem sameClock_stepRelation : StepRelation SameClock where
  refl _ := ⟨rfl, rfl⟩
  trans h h' := ⟨h'.1.trans h.1, h'.2.trans h.2⟩
  after _ _ := ⟨rfl, rfl⟩
  principal _ _ := ⟨rfl, rfl⟩
  rebalanced _ _ := ⟨rfl, rfl⟩
  harvested _ _ := ⟨rfl, rfl⟩
  emit _ _ := ⟨rfl, rfl⟩

theorem operation_clock {env : Env} {o : Operation} {s t : Session}
    (h : o.body env s = .ok ((), t)) : SameClock s t :=
  (composed_operation env o).respects sameClock_stepRelation s () t h

theorem invoke_clock {P : Shared} {env : Env} {w : World} {entry : EntryPoint} {t : Session}
    (h : invoke P env w entry = .ok t) : SameClock (.start w) t := by
  cases invoke_done h with
  | @submission _ _ _ action u _ _ hu =>
      have hclock : SameClock (.start w) u :=
        (composed_dispatch env action).respects sameClock_stepRelation _ () u hu
      exact hclock
  | emergencyUnwind hbody => exact operation_clock (o := .emergencyUnwind) hbody
  | manualToBlend hbody => exact operation_clock (o := .manualToBlend _) hbody
  | manualFromBlend hbody => exact operation_clock (o := .manualFromBlend _) hbody
  | setting _ hwrote =>
      rw [SameClock, hwrote.world]
      exact ⟨rfl, rfl⟩

theorem clock_step (P : Shared) (w : World) (a : Action) :
    w.timestamp ≤ (step P w a).timestamp ∧ w.sequence ≤ (step P w a).sequence := by
  cases a with
  | invoke env entry =>
      cases h : invoke P env w entry with
      | ok t =>
          obtain ⟨htime, hsequence⟩ := invoke_clock h
          rw [step_invoke_ok h]
          exact ⟨htime.ge, hsequence.ge⟩
      | error e =>
          rw [step_invoke_error h]
          exact ⟨le_refl _, le_refl _⟩
  | advance secs ledgers => exact ⟨Nat.le_add_right _ _, Nat.le_add_right _ _⟩
  | trade _ _ | accrue _ | writeDown _ | blendHolds _ | send _ => exact ⟨le_refl _, le_refl _⟩

theorem timestamp_run (P : Shared) (w : World) (as : List Action) :
    w.timestamp ≤ (Runs.run (step P) w as).timestamp := by
  have hstep : ∀ v a, w.timestamp ≤ v.timestamp → w.timestamp ≤ (step P v a).timestamp :=
    fun v a h => h.trans (clock_step P v a).1
  exact Runs.Invariant.run (step P) hstep (le_refl _) as

end BlendPool.Handler
