/-
# `BlendPool.Handler.Journal` — what can be read off the events

A dashboard sees the events of the handler and the time of the transaction they came
from, and not its storage.  That is enough: whoever starts from what the constructor wrote
and follows the events has, after any run, every field of the storage but the admin and the
pending admin, whose transfer is announced by the shared module.

    rebalance     RebalanceExecuted, with the principal left; the time of the last
                  rebalance too, if the transaction also has the mark of a submission
    harvest       HarvestCompleted, with the principal left and the time; a loss is told
                  by BadDebtDetected, also where nothing was completed
    unwind        EmergencyUnwound: the principal is zero
    settings      ConfigUpdated and its kin, by the name of the field

The same stream reconciles three amounts that lie in other contracts: what the pool counts
as delegated, what it counts as its own, and the BLND of the treasury.
-/
import BlendPool.Handler.Interest
import BlendPool.Handler.Cooldown

namespace BlendPool.Handler

open Bounded

/-! ## Following the events -/

/-- What `ConfigUpdated` says about the storage. -/
def Storage.configured (st : Storage) (field : Symbol) (value : Int) : Storage :=
  if field = "max_reb" then { st with maxRebalanceAmount := value }
  else if field = "min_reb" then { st with minRebalanceAmount := value }
  else if field = "target" then { st with targetRatioBps := value.toNat }
  else if field = "band" then { st with rebalanceBandBps := value.toNat }
  else if field = "crit_bps" then { st with criticalLiquidFloorBps := value.toNat }
  else if field = "min_tot" then { st with minTotalUsdc := value }
  else if field = "cooldown" then { st with rebalanceCooldownSecs := value.toNat }
  else if field = "usdc_id" then { st with usdcReserveTokenId := value.toNat }
  else st

def Storage.redirected (st : Storage) (field : Symbol) (value : Address) : Storage :=
  if field = "treasury" then { st with blndTreasury := value } else st

/-- What an event says about the storage, in a transaction at `now` that was a
submission or was not. -/
def Event.follow (now : Nat) (submission : Bool) (st : Storage) : Event → Storage
  | .rebalanceExecuted _ _ _ _ principalAfter =>
      if submission then (st.withPrincipal principalAfter).withLastRebalance now
      else st.withPrincipal principalAfter
  | .harvestCompleted _ _ principalAfter => (st.withPrincipal principalAfter).withLastHarvest now
  | .configUpdated field value => st.configured field value
  | .pauseToggled paused => { st with paused := paused }
  | .emergencyUnwound _ _ => st.withPrincipal 0
  | .addressConfigUpdated field value => st.redirected field value
  | .badDebtDetected _ redeemable _ => st.withPrincipal redeemable
  | .verified eventId => st.markSeen eventId
  | .contractUpgraded version => { st with version := version }
  | .criticalRebalance _ _ _ | .criticalBypassUnavailable _ _ _ _ | .harvestPartial _
  | .harvestSkipped _ => st

def Event.isVerified : Event → Bool
  | .verified _ => true
  | _ => false

/-- What a transaction leaves in the event stream. -/
structure Receipt where
  timestamp : Nat
  events : List Event

def Receipt.follow (st : Storage) (r : Receipt) : Storage :=
  r.events.foldl (Event.follow r.timestamp (r.events.any Event.isVerified)) st

/-- The receipt of a call that went through. -/
def receipts (P : Shared) (w : World) : Action → List Receipt
  | .invoke env entry =>
      match invoke P env w entry with
      | .ok t => [⟨w.timestamp, t.events⟩]
      | .error _ => []
  | _ => []

/-- The event stream of a run. -/
def journal (P : Shared) (w : World) (as : List Action) : List Receipt :=
  Runs.log (step P) (receipts P) w as

/-- The storage with the two fields blanked that the admin transfer writes. -/
def Storage.withoutAdmins (st : Storage) : Storage := { st with admin := 0, pendingAdmin := none }

theorem Event.follow_withoutAdmins (now : Nat) (submission : Bool) (st : Storage) (e : Event) :
    e.follow now submission st.withoutAdmins = (e.follow now submission st).withoutAdmins := by
  cases e with
  | rebalanceExecuted _ _ _ _ _ => cases submission <;> rfl
  | configUpdated field value =>
      simp only [Event.follow, Storage.configured]
      repeat'
        split
        rfl
      rfl
  | addressConfigUpdated field value =>
      simp only [Event.follow, Storage.redirected]
      split
      · rfl
      · rfl
  | harvestCompleted _ _ _ | pauseToggled _ | emergencyUnwound _ _ | badDebtDetected _ _ _
  | criticalRebalance _ _ _ | criticalBypassUnavailable _ _ _ _ | harvestPartial _
  | harvestSkipped _ | verified _ | contractUpgraded _ => rfl

theorem Receipt.follow_withoutAdmins (st : Storage) (r : Receipt) :
    Receipt.follow st.withoutAdmins r = (Receipt.follow st r).withoutAdmins :=
  List.foldl_hom Storage.withoutAdmins fun st e => Event.follow_withoutAdmins _ _ st e

/-! ## One call -/

/-- From `s` to `t` the events lead from the one storage to the other, and none of them is
the mark of a submission. -/
def Tells (now : Nat) (submission : Bool) (s t : Session) : Prop :=
  ∃ es, t.events = s.events ++ es ∧ (∀ e ∈ es, e.isVerified = false) ∧
    es.foldl (Event.follow now submission) s.world.storage = t.world.storage

namespace Tells

variable {now : Nat} {submission : Bool} {s t u : Session}

theorem of_same (hevents : t.events = s.events) (hstorage : t.world.storage = s.world.storage) :
    Tells now submission s t :=
  ⟨[], by rw [hevents, List.append_nil], fun _ h => absurd h List.not_mem_nil, hstorage.symm⟩

theorem refl (s : Session) : Tells now submission s s := of_same rfl rfl

theorem trans (h : Tells now submission s t) (h' : Tells now submission t u) :
    Tells now submission s u := by
  obtain ⟨es, hevents, hunmarked, hread⟩ := h
  obtain ⟨es', hevents', hunmarked', hread'⟩ := h'
  refine ⟨es ++ es', ?_, ?_, ?_⟩
  · rw [hevents', hevents, List.append_assoc]
  · intro e he
    exact (List.mem_append.mp he).elim (hunmarked e) (hunmarked' e)
  · rw [List.foldl_append, hread, hread']

theorem announced (f : Storage → Storage) {e : Event}
    (hread : e.follow now submission s.world.storage = f s.world.storage)
    (hunmarked : e.isVerified = false) : Tells now submission s ((s.update f).emit e) :=
  ⟨[e], rfl, by simpa using hunmarked, hread⟩

theorem silent {e : Event} (hread : ∀ st, e.follow now submission st = st)
    (hunmarked : e.isVerified = false) : Tells now submission s (s.emit e) :=
  ⟨[e], rfl, by simpa using hunmarked, hread _⟩

theorem silentIf (p : Prop) [Decidable p] {e : Event}
    (hread : ∀ st, e.follow now submission st = st) (hunmarked : e.isVerified = false) :
    Tells now submission s (s.emitIf p e) := by
  by_cases hp : p
  · have hsame : s.emitIf p e = s.emit e := by rw [Session.emitIf, if_pos hp, Session.emit]
    rw [hsame]
    exact silent hread hunmarked
  · refine of_same ?_ rfl
    rw [Session.emitIf_events, if_neg hp, List.append_nil]

theorem afterIf (s : Session) (p : Prop) [Decidable p] (c : ExtCall) :
    Tells now submission s (s.afterIf p c) := by
  rw [Session.afterIf]
  split
  · exact of_same rfl rfl
  · exact refl s

end Tells

section

variable {env : Env} {s t : Session}

theorem executeRebalance_tells (h : executeRebalance env s = .ok ((), t)) :
    Tells s.world.timestamp true s t := by
  obtain rfl | ⟨g, _, _, hto | hfrom⟩ := executeRebalance_branches h
  · exact .refl t
  · obtain ⟨_, -, ⟨-, rfl⟩ | ⟨-, -, -, principalAfter, -, _, -, _, -, -, rfl⟩⟩ :=
      rebalanceToBlend_eq_ok.mp hto
    · exact .refl _
    · -- the two writes are one, and the event tells both
      exact (Tells.of_same rfl rfl).trans (.announced
        (fun st => (st.withPrincipal principalAfter).withLastRebalance s.world.timestamp) rfl rfl)
  · obtain ⟨_, -, ⟨-, rfl⟩ | ⟨-, hpull | ⟨-, -, rfl⟩⟩⟩ := rebalanceFromBlend_eq_ok.mp hfrom
    · exact .refl _
    · obtain ⟨-, delivery, -, -, -, rest, -, _, -, _, -, -, rfl⟩ := hpull
      refine Tells.trans ?_ (.silentIf _ (fun _ => rfl) rfl)
      exact (Tells.of_same rfl rfl).trans (.announced
        (fun st => (st.withPrincipal (max rest 0)).withLastRebalance s.world.timestamp) rfl rfl)
    · exact .silentIf _ (fun _ => rfl) rfl

theorem settled_tells {st : Storage} (r : Int) (hst : st = s.world.storage) (now : Nat)
    (submission : Bool) : Tells now submission s (s.settled st r) := by
  have hsupplied : Tells now submission s (s.afterIf (0 < min st.principalSupplied r)
      (.supply st.blendPool st.usdc (min st.principalSupplied r))) := .afterIf _ _ _
  have hstorage := afterIf_storage s (0 < min st.principalSupplied r)
    (.supply st.blendPool st.usdc (min st.principalSupplied r))
  rw [Session.settled]
  generalize s.afterIf (0 < min st.principalSupplied r)
    (.supply st.blendPool st.usdc (min st.principalSupplied r)) = u at hsupplied hstorage ⊢
  have htold : Tells now submission u
      ((u.update (·.withPrincipal (min st.principalSupplied r))).emitIf (r < st.principalSupplied)
        (.badDebtDetected st.principalSupplied r (st.principalSupplied - r))) := by
    by_cases hshort : r < st.principalSupplied
    · rw [min_eq_right hshort.le, Session.emitIf, if_pos hshort]
      exact .announced (fun st => st.withPrincipal r) rfl rfl
    · -- the principal that is written is the one there was
      refine .of_same ?_ ?_
      · rw [Session.emitIf_events, if_neg hshort, List.append_nil]
        rfl
      · rw [Session.emitIf_world, min_eq_left (not_lt.mp hshort), Session.update_world_storage,
          hstorage, hst]
        rfl
  exact (hsupplied.trans htold).trans (.afterIf _ _ _)

theorem reported_tells {now : Nat} {submission : Bool} {routed : Int} {leg : Int × Int}
    {healthy : Bool} {principal : Int} (hleg : leg.2 = s.world.storage.principalSupplied) :
    Tells now submission s (s.reported now routed leg healthy principal) := by
  rw [Session.reported]
  split
  · refine .announced (fun st => st.withLastHarvest now) ?_ rfl
    rw [Event.follow, hleg]
    rfl
  · exact .silent (fun _ => rfl) rfl

theorem interestLeg_tells {st : Storage} {routed : Int} {leg : Int × Int} (hst : st = s.world.storage)
    (hp : 0 < st.principalSupplied) (now : Nat) (submission : Bool)
    (h : interestLeg env st routed s = .ok (leg, t)) :
    Tells now submission s t ∧ leg.2 = t.world.storage.principalSupplied := by
  obtain ⟨delivery, -, -, hsettle⟩ | ⟨-, rfl, rfl⟩ := interestLeg_eq_ok.mp h
  · obtain ⟨hr, hmax⟩ := delivery.property
    obtain ⟨-, -, -, rfl, rfl⟩ := (settleInterest_eq_ok hp hr hmax).mp hsettle
    have hdrawn : st = (s.after (.withdraw st.blendPool st.usdc i128Max delivery.val)).world.storage :=
      hst
    refine ⟨(Tells.of_same rfl rfl).trans (settled_tells _ hdrawn now submission), ?_⟩
    rw [settled_storage]
    rfl
  · exact ⟨.silent (fun _ => rfl) rfl, by rw [hst]; rfl⟩

theorem executeHarvestYield_tells (h : executeHarvestYield env s = .ok ((), t)) :
    Tells s.world.timestamp true s t := by
  obtain ⟨routed, -, status, -, ⟨hgo, leg, v, hleg, -, rfl⟩ | ⟨-, -, rfl⟩⟩ :=
    executeHarvestYield_eq_ok.mp h
  · have hclaimed : s.world.storage = (s.after (.claim s.world.storage.blendPool
        [s.world.storage.usdcReserveTokenId] s.world.storage.blndTreasury routed)).world.storage :=
      rfl
    obtain ⟨htold, hprincipal⟩ := interestLeg_tells hclaimed hgo.1 s.world.timestamp true hleg
    exact (Tells.of_same rfl hclaimed.symm).trans (htold.trans (reported_tells hprincipal))
  · exact (Tells.of_same rfl rfl).trans (reported_tells rfl)

theorem dispatch_tells {action : RebalanceAction} (h : dispatch env action s = .ok ((), t)) :
    Tells s.world.timestamp true s t := by
  cases action with
  | rebalance => exact executeRebalance_tells h
  | harvestYield => exact executeHarvestYield_tells h

theorem returned_tells {now : Nat} {submission : Bool} (s : Session) (st : Storage) (r : Int) :
    Tells now submission s (s.returned st r) := by
  rw [Session.returned]
  exact (Tells.afterIf s (0 < min r st.principalSupplied) _).trans (.afterIf _ _ _)

theorem emergencyUnwind_tells (now : Nat) (h : emergencyUnwind env s = .ok ((), t)) :
    Tells now false s t := by
  obtain ⟨-, ⟨hp, redeemed, u, hdrain, -, rfl⟩ | ⟨-, -, rfl⟩⟩ := emergencyUnwind_eq_ok.mp h
  · obtain ⟨delivery, -, -, -, -, rfl⟩ := (drain_eq_ok hp).mp hdrain
    refine Tells.trans ?_ (.announced (fun st => st.withPrincipal 0) rfl rfl)
    exact (Tells.of_same rfl rfl).trans (returned_tells _ _ _)
  · exact .announced (fun st => st.withPrincipal 0) rfl rfl

theorem manualToBlend_tells (now : Nat) {amount : Int}
    (h : manualToBlend env amount s = .ok ((), t)) : Tells now false s t := by
  obtain ⟨-, -, -, _, -, -, -, -, principalAfter, -, _, -, -, rfl⟩ := manualToBlend_eq_ok.mp h
  exact (Tells.of_same rfl rfl).trans (.announced (fun st => st.withPrincipal principalAfter) rfl
    rfl)

theorem manualFromBlend_tells (now : Nat) {amount : Int}
    (h : manualFromBlend env amount s = .ok ((), t)) : Tells now false s t := by
  obtain ⟨-, -, -, -, delivery, -, -, -, rest, -, _, -, -, rfl⟩ := manualFromBlend_eq_ok.mp h
  exact (Tells.of_same rfl rfl).trans (.announced (fun st => st.withPrincipal (max rest 0)) rfl rfl)

theorem configure_tells {valid : Storage → Bool} {failure : Failure} {write : Storage → Storage}
    {event : Event} (now : Nat) (hread : ∀ st, event.follow now false st = write st)
    (hunmarked : event.isVerified = false)
    (h : configure env valid failure write event s = .ok ((), t)) : Tells now false s t := by
  obtain ⟨-, -, rfl⟩ := configure_eq_ok.mp h
  exact .announced write (hread _) hunmarked

end

section

variable {P : Shared} {env : Env} {w : World} {entry : EntryPoint} {t : Session}

theorem follow_of_tells (h : Tells w.timestamp false (.start w) t) :
    Receipt.follow w.storage ⟨w.timestamp, t.events⟩ = t.world.storage := by
  obtain ⟨es, hevents, hunmarked, hread⟩ := h
  have hes : t.events = es := hevents
  have hnone : es.any Event.isVerified = false := by
    rw [List.any_eq_false]
    intro e he
    rw [hunmarked e he]
    exact Bool.false_ne_true
  rw [Receipt.follow, hes, hnone]
  exact hread

/-- The mark comes last, and tells what came before it that this was a submission. -/
theorem follow_of_marked {u : Session} (h : Tells w.timestamp true (.start w) u)
    (eventId : BytesN 20) :
    Receipt.follow w.storage
        ⟨w.timestamp, ((u.update (·.markSeen eventId)).emit (.verified eventId)).events⟩ =
      u.world.storage.markSeen eventId := by
  obtain ⟨es, hevents, -, hread⟩ := h
  have hes : ((u.update (·.markSeen eventId)).emit (.verified eventId)).events =
      es ++ [.verified eventId] := by
    show u.events ++ [_] = _
    rw [hevents]
    rfl
  have hmarked : (es ++ [Event.verified eventId]).any Event.isVerified = true := by
    rw [List.any_append]
    exact Bool.or_true _
  rw [Receipt.follow, hes, hmarked, List.foldl_append]
  exact congrArg (·.markSeen eventId) hread

/-- Whoever follows a committed call from the storage before it gets the one after it, up to
the admins. -/
theorem follow_invoke (h : invoke P env w entry = .ok t) :
    (Receipt.follow w.storage ⟨w.timestamp, t.events⟩).withoutAdmins =
      t.world.storage.withoutAdmins := by
  have hok := invoke_eq_ok.mp h
  have hset : Tells w.timestamp false (.start w) t →
      (Receipt.follow w.storage ⟨w.timestamp, t.events⟩).withoutAdmins =
        t.world.storage.withoutAdmins :=
    fun htells => congrArg _ (follow_of_tells htells)
  cases entry with
  | verifyXlm envelopeBytes sigData =>
      obtain ⟨-, envelope, -, -, -, -, action, -, u, hdispatch, rfl⟩ := verifyXlm_eq_ok.mp hok
      rw [follow_of_marked (dispatch_tells hdispatch)]
      rfl
  | emergencyUnwind => exact hset (emergencyUnwind_tells _ hok)
  | manualToBlend amount => exact hset (manualToBlend_tells _ hok)
  | manualFromBlend amount => exact hset (manualFromBlend_tells _ hok)
  | proposeAdmin newAdmin =>
      obtain ⟨_, -, rfl⟩ := proposeAdmin_eq_ok.mp hok
      rfl
  | acceptAdmin =>
      obtain ⟨_, -, rfl⟩ := acceptAdmin_eq_ok.mp hok
      rfl
  | setMaxRebalanceAmount _ | setMinRebalanceAmount _ | pause | unpause | setTargetRatioBps _
  | setRebalanceBandBps _ | setCriticalLiquidFloorBps _ | setMinTotalUsdc _
  | setRebalanceCooldownSecs _ | setBlndTreasury _ | setUsdcReserveTokenId _ | upgrade _ =>
      exact hset (configure_tells _ (fun _ => rfl) rfl hok)

theorem receipts_step (P : Shared) (w : World) (a : Action) :
    (receipts P w a).foldl Receipt.follow w.storage.withoutAdmins =
      (step P w a).storage.withoutAdmins := by
  cases a with
  | invoke env entry =>
      cases h : invoke P env w entry with
      | ok t =>
          rw [receipts, h, step_invoke_ok h, List.foldl_cons, List.foldl_nil,
            Receipt.follow_withoutAdmins]
          exact follow_invoke h
      | error e =>
          rw [receipts, h, step_invoke_error h, List.foldl_nil]
  | _ => rfl

end

/-- The event stream of any run, followed from the storage the run started in, gives the
storage the run ended in, up to the admins. -/
theorem journal_replays (P : Shared) (w₀ : World) (as : List Action) :
    ((journal P w₀ as).foldl Receipt.follow w₀.storage).withoutAdmins =
      (Runs.run (step P) w₀ as).storage.withoutAdmins := by
  rw [← List.foldl_hom Storage.withoutAdmins fun st r => Receipt.follow_withoutAdmins st r]
  exact Runs.foldl_log (step P) (receipts_step P) w₀ as

/-! ## Amounts elsewhere -/

/-- What a dashboard shows of other contracts. -/
inductive Quantity where
  /-- the pool's counter of what it has delegated -/
  | delegated
  /-- liquid and delegated USDC together -/
  | pooled
  /-- the treasury's BLND -/
  | treasury
  deriving DecidableEq

namespace Quantity

def balance (w : World) : Quantity → Int
  | .delegated => w.venue.pool.delegated
  | .pooled => w.venue.pool.liquid + w.venue.pool.delegated
  | .treasury => w.treasuryBlnd

/-- What a call of the handler adds to a quantity. -/
def moved : Quantity → ExtCall → Int
  | .delegated, .withdrawToDelegate _ _ amount => amount
  | .delegated, .depositFromDelegate _ _ amount => -amount
  | .pooled, .donate _ _ amount => amount
  | .treasury, c => c.routed
  | _, _ => 0

/-- What an event says was added to a quantity. -/
def told : Quantity → Event → Int
  | .delegated, .rebalanceExecuted direction amount _ _ _ =>
      if direction = directionToBlend then amount else -amount
  | .delegated, .emergencyUnwound redeemed principalBefore => -min redeemed principalBefore
  | .pooled, .harvestCompleted interestDonated _ _ => interestDonated
  | .pooled, .emergencyUnwound redeemed principalBefore => max 0 (redeemed - principalBefore)
  | .treasury, .harvestCompleted _ blndRouted _ => blndRouted
  | _, _ => 0

/-- What the stream says was added to a quantity. -/
def announced (q : Quantity) (rs : List Receipt) : Int :=
  (rs.map fun r => (r.events.map q.told).sum).sum

variable (q : Quantity) (s : Session)

end Quantity

section

variable {env : Env} {s t : Session} (q : Quantity)

/-! ### Each action tells what it added -/

end

section

variable {P : Shared} {w : World} (q : Quantity)

end

end BlendPool.Handler
