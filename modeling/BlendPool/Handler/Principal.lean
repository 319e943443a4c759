/-
# `BlendPool.Handler.Principal` — the principal and the pool's delegated counter

Two counters for one quantity, kept by two contracts.  They start equal, every
move changes them alike, and they part only where Blend came back short of the
principal; so over a whole run

    delegated − principal  =  Σ  max 0 (principal before − redeemed)

over the withdrawals of its harvests and unwinds.
-/
import BlendPool.Handler.Flows

namespace BlendPool.Handler

open Bounded

/-! ## Runs -/

/-- What the drains of a step came back short of the principal. -/
def shortfall (P : Shared) (w : World) : Action → Int
  | .invoke env entry =>
      match invoke P env w entry with
      | .ok t =>
          if entry.drains P then
            ((redemptions t.calls).map fun r => max 0 (w.storage.principalSupplied - r)).sum
          else 0
      | .error _ => 0
  | _ => 0

theorem shortfall_invoke_ok {P : Shared} {env : Env} {w : World} {entry : EntryPoint}
    {t : Session} (h : invoke P env w entry = .ok t) :
    shortfall P w (.invoke env entry) =
      if entry.drains P then
        ((redemptions t.calls).map fun r => max 0 (w.storage.principalSupplied - r)).sum
      else 0 := by
  rw [shortfall, h]

theorem shortfall_invoke_error {P : Shared} {env : Env} {w : World} {entry : EntryPoint}
    {e : Failure} (h : invoke P env w entry = .error e) :
    shortfall P w (.invoke env entry) = 0 := by
  rw [shortfall, h]

theorem shortfall_of_performs {P : Shared} {env : Env} {w : World} {entry : EntryPoint}
    {t : Session} {f : Flow} (h : invoke P env w entry = .ok t) (hf : Performs f (.start w) t)
    (hfits : f.Fits (entry.drains P)) :
    shortfall P w (.invoke env entry) = f.shortfall w.books := by
  have hlog : redemptions t.calls = f.redeemed.toList := hf.redemptions
  rw [shortfall_invoke_ok h, Flow.shortfall_of_fits hfits, hlog]
  rfl

theorem shortfall_nonneg (P : Shared) (w : World) (a : Action) : 0 ≤ shortfall P w a := by
  cases a with
  | invoke env entry =>
      cases h : invoke P env w entry with
      | ok t =>
          obtain ⟨f, hf, hfits⟩ := invoke_performs h
          rw [shortfall_of_performs h hf hfits]
          exact Flow.shortfall_nonneg _ f
      | error e =>
          rw [shortfall_invoke_error h]
  | trade _ _ | accrue _ | writeDown _ | blendHolds _ | send _ | advance _ _ => exact le_refl 0

/-- The principal is not negative, and fits its type. -/
def PrincipalFits (w : World) : Prop := 0 ≤ w.books.principal ∧ w.books.principal ≤ i128Max

theorem counters_step (P : Shared) (w : World) (a : Action) (hp : PrincipalFits w) :
    PrincipalFits (step P w a) ∧
      (step P w a).books.gap = w.books.gap + shortfall P w a := by
  cases a with
  | invoke env entry =>
      cases h : invoke P env w entry with
      | ok t =>
          obtain ⟨f, hf, hfits⟩ := invoke_performs h
          have hbooks : t.world.books = f.apply w.books := hf.books
          rw [step_invoke_ok h, shortfall_of_performs h hf hfits, PrincipalFits, hbooks]
          exact ⟨⟨Flow.principal_apply_nonneg hp.1 hf.legal, Flow.principal_apply_le hp.2 hf.legal⟩,
            Flow.gap_apply hp.1 hf.legal⟩
      | error e =>
          rw [step_invoke_error h, shortfall_invoke_error h]
          exact ⟨hp, (Int.add_zero _).symm⟩
  | trade _ _ | accrue _ | writeDown _ | blendHolds _ | send _ | advance _ _ =>
      exact ⟨hp, (Int.add_zero _).symm⟩

theorem Deployed.principal_eq {w : World} (h : Deployed w) : w.books.principal = 0 := by
  obtain ⟨c, hc⟩ := h.constructed
  exact (constructor_fresh hc).principal_eq

theorem Deployed.gap_eq {w : World} (h : Deployed w) : w.books.gap = 0 := by
  rw [Books.gap, h.principal_eq]
  exact (Int.sub_zero _).trans h.undelegated

variable {P : Shared} {w₀ : World}

theorem Deployed.principalFits {w : World} (h : Deployed w) : PrincipalFits w := by
  rw [PrincipalFits, h.principal_eq]
  decide

theorem principalFits_run (h₀ : Deployed w₀) (as : List Action) :
    PrincipalFits (Runs.run (step P) w₀ as) := by
  refine Runs.Invariant.run (step P) ?_ h₀.principalFits as
  intro w a hp
  exact (counters_step P w a hp).1

theorem gap_eq_tally (h₀ : Deployed w₀) (as : List Action) :
    (Runs.run (step P) w₀ as).books.gap = Runs.tally (step P) (shortfall P) w₀ as := by
  have htally : (Runs.run (step P) w₀ as).books.gap =
      w₀.books.gap + Runs.tally (step P) (shortfall P) w₀ as := by
    refine Runs.tally_account (step P) (I := PrincipalFits) (f := fun w => w.books.gap) ?_ ?_
      h₀.principalFits as
    · intro w a hp
      exact (counters_step P w a hp).1
    · intro w a hp
      exact (counters_step P w a hp).2
  rw [htally, h₀.gap_eq, Int.zero_add]

theorem principal_le_delegated (h₀ : Deployed w₀) (as : List Action) :
    (Runs.run (step P) w₀ as).books.principal ≤ (Runs.run (step P) w₀ as).books.delegated := by
  have hgap : 0 ≤ (Runs.run (step P) w₀ as).books.gap := by
    rw [gap_eq_tally h₀]
    exact Runs.tally_nonneg (step P) (shortfall_nonneg P) w₀ as
  exact Int.le_of_sub_nonneg hgap

/-! ## Deposits -/

/-- Transactions that never trap on a deposit of more than `bound`. -/
abbrev Covered (bound : Int) {α : Type} (x : Exec α) : Prop := Txn.Raises (DepositWithin bound) x

/-- The calls among which there is no deposit of more than `bound`. -/
def CallWithin (bound : Int) (c : ExtCall) : Prop := DepositWithin bound (.insufficient c)

theorem permits_callWithin (bound : Int) : Permits bound (CallWithin bound) := fun _ h => h

section Covered

variable {bound : Int}

theorem covered_perform {c : ExtCall} (hc : CallWithin bound c) : Covered bound (perform c) := by
  refine (Txn.Raises.read _).bind ?_
  intro w
  refine Txn.Raises.seq (.ensure hc) ?_
  exact .modify _

theorem covered_assertNoUsdcResidue : Covered bound assertNoUsdcResidue := by
  refine (Txn.Raises.read _).bind ?_
  intro balance
  exact .ensure (depositWithin_of_none rfl)

/-- Nothing that makes only calls within the bound traps on a deposit beyond it. -/
theorem Composed.covered {env : Env} {α : Type} {x : Exec α}
    (h : Composed env (CallWithin bound) x) : Covered bound x := by
  induction h with
  | pure a => exact .pure a
  | fail he => exact .throw (depositWithin_of_none he)
  | call hc => exact covered_perform hc
  | look _ _ ih => exact (Txn.Raises.read _).bind ih
  | storage => exact .read _
  | principal amount => exact .modify _
  | rebalanced ts => exact .modify _
  | harvested ts => exact .modify _
  | publish e => exact .modify _
  | residue => exact covered_assertNoUsdcResidue
  | measure _ _ ihx ihk =>
      refine (Txn.Raises.read _).bind ?_
      intro before
      refine ihx.bind ?_
      intro a
      refine (Txn.Raises.read _).bind ?_
      intro balance
      exact ihk a _
  | attempt _ _ => exact .attempt _
  | bind _ _ ihx ihf => exact ihx.bind ihf
  | ite _ _ ihx ihy => exact .ite ihx ihy

/-! ### From the state the call started in -/

variable (env : Env) {s : Session} {e : Failure}

theorem executeRebalance_deposits (h : executeRebalance env s = .error e) :
    DepositWithin s.world.storage.principalSupplied e := by
  have hok := permits_callWithin s.world.storage.principalSupplied
  rw [executeRebalance, getWorld_bind] at h
  refine (composed_blendStatus.bind ?_).covered s e h
  intro status
  refine .ite (fun _ => .pure ()) ?_
  intro _
  refine composed_queryDelegateState.bind ?_
  intro state
  exact composed_rebalanceOn _ _ hok _

theorem dispatch_deposits {action : RebalanceAction} (h : dispatch env action s = .error e) :
    DepositWithin s.world.storage.principalSupplied e := by
  cases action with
  | rebalance => exact executeRebalance_deposits env h
  | harvestYield => exact (composed_executeHarvestYield (permits_callWithin _)).covered s e h

theorem verifyXlm_deposits {P : Shared} {envelopeBytes : Bytes} {sigData : Ed25519SignatureData}
    (h : verifyXlm P env envelopeBytes sigData s = .error e) :
    DepositWithin s.world.storage.principalSupplied e := by
  -- the checks leave the session alone, so the action starts from `s`
  rw [verifyXlm, getWorld_bind] at h
  obtain rfl | ⟨-, h⟩ := Txn.ensure_bind_error h
  · exact depositWithin_of_none rfl
  obtain rfl | ⟨envelope, h⟩ := Txn.orAbort_bind_error h
  · exact depositWithin_of_none rfl
  obtain rfl | ⟨-, h⟩ := Txn.ensure_bind_error h
  · exact depositWithin_of_none rfl
  obtain rfl | ⟨-, h⟩ := Txn.ensure_bind_error h
  · exact depositWithin_of_none rfl
  obtain ⟨reason, rfl⟩ | h := requireAccepted_bind_error h
  · exact depositWithin_of_none rfl
  obtain rfl | ⟨action, h⟩ := Txn.orAbort_bind_error h
  · exact depositWithin_of_none rfl
  obtain h | ⟨_, t, _, h⟩ := Txn.bind_error h
  · exact dispatch_deposits env h
  · -- nothing after the action fails
    cases h

theorem emergencyUnwind_deposits (h : emergencyUnwind env s = .error e) :
    DepositWithin s.world.storage.principalSupplied e := by
  have hok := permits_callWithin s.world.storage.principalSupplied
  rw [emergencyUnwind] at h
  obtain rfl | h := requireAdmin_bind_error h
  · exact depositWithin_of_none rfl
  rw [getStorage_bind] at h
  split at h
  · refine ((composed_drain _ hok).bind ?_).covered s e h
    intro redeemed
    exact composed_finishUnwind _ _
  · have hrest : Composed env (CallWithin s.world.storage.principalSupplied)
        (finishUnwind 0 s.world.storage.principalSupplied) := composed_finishUnwind _ _
    exact hrest.covered s e h

theorem manualFromBlend_deposits {amount : Int} (h : manualFromBlend env amount s = .error e) :
    DepositWithin s.world.storage.principalSupplied e := by
  have hok := permits_callWithin s.world.storage.principalSupplied
  rw [manualFromBlend] at h
  obtain rfl | h := requireAdmin_bind_error h
  · exact depositWithin_of_none rfl
  obtain rfl | ⟨-, h⟩ := Txn.ensure_bind_error h
  · exact depositWithin_of_none rfl
  rw [getStorage_bind] at h
  obtain rfl | ⟨-, h⟩ := Txn.ensure_bind_error h
  · exact depositWithin_of_none rfl
  -- the check that bounds the deposit
  obtain rfl | ⟨hle, h⟩ := Txn.ensure_bind_error h
  · exact depositWithin_of_none rfl
  refine ((composed_blendSubmitWithdraw hok _ _ _).seq ?_).covered s e h
  refine (Composed.request (hok.deposit hle)).seq ?_
  refine (Composed.orAbort rfl _).bind ?_
  intro rest
  refine (Composed.principal _).seq ?_
  refine composed_queryDelegateState.bind ?_
  intro state
  exact (Composed.publish _).seq .residue

theorem configure_deposits {valid : Storage → Bool} {failure : Failure}
    {write : Storage → Storage} {event : Event} (hfailure : failure.deposit? = none)
    (h : configure env valid failure write event s = .error e) :
    DepositWithin s.world.storage.principalSupplied e := by
  rw [configure] at h
  obtain rfl | h := requireAdmin_bind_error h
  · exact depositWithin_of_none rfl
  rw [getStorage_bind] at h
  obtain rfl | ⟨-, h⟩ := Txn.ensure_bind_error h
  · exact depositWithin_of_none hfailure
  · cases h

/-- No call traps on a deposit of more than the principal it started with. -/
theorem invoke_deposits {P : Shared} {w : World} {entry : EntryPoint}
    (h : invoke P env w entry = .error e) : DepositWithin w.storage.principalSupplied e := by
  have hbody := invoke_eq_error.mp h
  cases entry with
  | verifyXlm envelopeBytes sigData => exact verifyXlm_deposits env hbody
  | emergencyUnwind => exact emergencyUnwind_deposits env hbody
  | manualToBlend amount =>
      exact (composed_manualToBlend (permits_callWithin _) amount).covered _ _ hbody
  | manualFromBlend amount => exact manualFromBlend_deposits env hbody
  | setMaxRebalanceAmount _ | setMinRebalanceAmount _ | setTargetRatioBps _
  | setRebalanceBandBps _ | setCriticalLiquidFloorBps _ | setMinTotalUsdc _
  | pause | unpause | setRebalanceCooldownSecs _ | setBlndTreasury _ | setUsdcReserveTokenId _
  | upgrade _ =>
      exact configure_deposits env rfl hbody
  | proposeAdmin newAdmin =>
      rw [EntryPoint.body, proposeAdmin, getStorage_bind] at hbody
      obtain rfl | ⟨_, h⟩ := Txn.orAbort_bind_error hbody
      · exact depositWithin_of_none rfl
      · cases h
  | acceptAdmin =>
      rw [EntryPoint.body, acceptAdmin, getStorage_bind] at hbody
      obtain rfl | ⟨_, h⟩ := Txn.orAbort_bind_error hbody
      · exact depositWithin_of_none rfl
      · cases h

end Covered

/-! ## The accounting -/

/-- In every reachable state: the principal is not negative, the pool's counter
exceeds it by the shortfalls so far and so is never below it, and no deposit a
call asks for is more than the pool's counter. -/
theorem principal_accounting (P : Shared) {w₀ : World} (h₀ : Deployed w₀) (as : List Action) :
    let w := Runs.run (step P) w₀ as
    0 ≤ w.storage.principalSupplied ∧
      w.venue.pool.delegated - w.storage.principalSupplied =
        Runs.tally (step P) (shortfall P) w₀ as ∧
      w.storage.principalSupplied ≤ w.venue.pool.delegated ∧
      ∀ env entry pool token amount,
        invoke P env w entry = .error (.insufficient (.depositFromDelegate pool token amount)) →
          amount ≤ w.venue.pool.delegated := by
  have hle := principal_le_delegated (P := P) h₀ as
  refine ⟨(principalFits_run h₀ as).1, gap_eq_tally h₀ as, hle, ?_⟩
  intro env entry pool token amount h
  exact (invoke_deposits env h amount rfl).trans hle

/-- Supply 600, lose 100 in Blend, harvest: the counters part by 100. -/
theorem principal_accounting_writeDown :
    let as := [.invoke .honest (.manualToBlend 600), .writeDown 100,
      .invoke .honest (.verifyXlm (List.replicate 20 7 ++ [1]) ⟨[], [], 500⟩)]
    let w := Runs.run (step .sample) sampleWorld as
    w.storage.principalSupplied = 500 ∧ w.venue.pool.delegated = 600 ∧
      w.venue.pool.delegated - w.storage.principalSupplied =
        Runs.tally (step .sample) (shortfall .sample) sampleWorld as :=
  ⟨by decide, by decide, (principal_accounting .sample sampleWorld_deployed _).2.1⟩

end BlendPool.Handler
