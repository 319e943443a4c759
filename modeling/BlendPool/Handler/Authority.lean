/-
# `BlendPool.Handler.Authority` — what the quorum cannot do

Whoever controls the verification contract controls which envelopes pass, and
with them the two executors.  Everything else is behind the admin's signature:
in a run in which neither the admin nor a pending admin authorises anything, the
settings stay as they are, and a rebalance moves no more than the cap.

The admin transfer is the shared crate's; all that is needed of it is who has to
sign.
-/
import BlendPool.Handler.Pause

namespace BlendPool.Handler

/-- `propose` is the admin's, `accept` the pending admin's. -/
structure Lawful (A : AdminTransfer) : Prop where
  propose_auth : ∀ {auth admin newAdmin pending out},
    A.propose auth admin newAdmin pending = some out → auth admin = true
  accept_auth : ∀ {auth pending out},
    A.accept auth pending = some out → pending = some out.1 ∧ auth out.1 = true

/-- Neither the admin nor a pending admin authorises the call. -/
def WithoutAdmin (w : World) : Action → Prop
  | .invoke env _ =>
      env.auth w.storage.admin = false ∧ ∀ admin ∈ w.storage.pendingAdmin, env.auth admin = false
  | _ => True

/-- The storage with everything blanked that an envelope can change: the principal,
the two timestamps and the seen events. -/
def Storage.governed (st : Storage) : Storage := { st.settings with eventSeen := ∅ }

/-! ## The settings -/

theorem governed_of_quiet {x : Exec Unit} (hx : Quiet x) {s t : Session}
    (h : x s = .ok ((), t)) : t.world.storage.governed = s.world.storage.governed :=
  congrArg (fun st : Storage => { st with eventSeen := ∅ }) (settings_of_quiet hx h)

section

variable {P : Shared} {env : Env} {w : World} {entry : EntryPoint} {t : Session}

theorem invoke_withoutAdmin (hlawful : Lawful P.admin) (h : invoke P env w entry = .ok t)
    (hauth : WithoutAdmin w (.invoke env entry)) :
    ∃ envelopeBytes sigData, entry = .verifyXlm envelopeBytes sigData := by
  have hbody := invoke_eq_ok.mp h
  have hrefused : env.auth w.storage.admin ≠ true := by
    rw [hauth.1]
    exact Bool.noConfusion
  cases entry with
  | verifyXlm envelopeBytes sigData => exact ⟨envelopeBytes, sigData, rfl⟩
  | emergencyUnwind => exact absurd (emergencyUnwind_eq_ok.mp hbody).1 hrefused
  | manualToBlend amount => exact absurd (manualToBlend_eq_ok.mp hbody).1 hrefused
  | manualFromBlend amount => exact absurd (manualFromBlend_eq_ok.mp hbody).1 hrefused
  | setMaxRebalanceAmount _ | setMinRebalanceAmount _ | pause | unpause | setTargetRatioBps _
  | setRebalanceBandBps _ | setCriticalLiquidFloorBps _ | setMinTotalUsdc _
  | setRebalanceCooldownSecs _ | setBlndTreasury _ | setUsdcReserveTokenId _ | upgrade _ =>
      exact absurd (configure_eq_ok.mp hbody).1 hrefused
  | proposeAdmin newAdmin =>
      obtain ⟨pending, hpropose, -⟩ := proposeAdmin_eq_ok.mp hbody
      exact absurd (hlawful.propose_auth hpropose) hrefused
  | acceptAdmin =>
      obtain ⟨accepted, haccept, -⟩ := acceptAdmin_eq_ok.mp hbody
      obtain ⟨hpending, haccepted⟩ := hlawful.accept_auth haccept
      rw [hauth.2 accepted.1 hpending] at haccepted
      cases haccepted

theorem governed_invoke (hlawful : Lawful P.admin) (h : invoke P env w entry = .ok t)
    (hauth : WithoutAdmin w (.invoke env entry)) :
    t.world.storage.governed = w.storage.governed := by
  obtain ⟨envelopeBytes, sigData, rfl⟩ := invoke_withoutAdmin hlawful h hauth
  obtain ⟨-, envelope, -, -, -, -, action, -, u, hu, rfl⟩ := verifyXlm_eq_ok.mp (invoke_eq_ok.mp h)
  exact governed_of_quiet (quiet_dispatch env action) hu

theorem governed_step (hlawful : Lawful P.admin) {a : Action} (hauth : WithoutAdmin w a) :
    (step P w a).storage.governed = w.storage.governed := by
  refine storage_step (I := fun st => st.governed = w.storage.governed) rfl ?_
  rintro env entry t rfl h
  exact governed_invoke hlawful h hauth

end

/-! ## The cap -/

/-- `y` is no further than `bound` from `x`. -/
def Within (bound x y : Int) : Prop := x - bound ≤ y ∧ y ≤ x + bound

/-- Between the two states no more than `bound` of USDC has moved. -/
structure Limited (bound : Int) (w v : World) : Prop where
  liquid : Within bound w.venue.pool.liquid v.venue.pool.liquid
  delegated : Within bound w.venue.pool.delegated v.venue.pool.delegated
  position : Within bound w.venue.blend.position v.venue.blend.position
  principal : Within bound w.storage.principalSupplied v.storage.principalSupplied

theorem within_refl {bound : Int} (h : 0 ≤ bound) (x : Int) : Within bound x x :=
  ⟨Int.sub_le_self x h, Int.le_add_of_nonneg_right h⟩

theorem limited_of_books {bound : Int} {w v : World} {f : Flow} (hbooks : v.books = f.apply w.books)
    (hliquid : Within bound w.books.liquid (f.apply w.books).liquid)
    (hdelegated : Within bound w.books.delegated (f.apply w.books).delegated)
    (hposition : Within bound w.books.position (f.apply w.books).position)
    (hprincipal : Within bound w.books.principal (f.apply w.books).principal) :
    Limited bound w v := by
  rw [← hbooks] at hliquid hdelegated hposition hprincipal
  exact ⟨hliquid, hdelegated, hposition, hprincipal⟩

theorem capped_le_cap {maxCap n : Int} (h : 0 < maxCap) : capped maxCap n ≤ maxCap := by
  rw [capped]
  split
  · exact le_refl maxCap
  · next hnot => exact not_lt.mp fun hlt => hnot ⟨h, hlt⟩

theorem limited_carriedOut {s t : Session} {side : Side} {status : Nat}
    (hcap : 0 < s.world.storage.maxRebalanceAmount) (htotal : 0 ≤ side.total)
    (h : CarriedOut s t side (policy s.world.storage status s.world.timestamp side)) :
    Limited s.world.storage.maxRebalanceAmount s.world t.world := by
  cases hp : policy s.world.storage status s.world.timestamp side with
  | hold =>
      rw [hp] at h
      rw [h.1]
      exact ⟨within_refl hcap.le _, within_refl hcap.le _, within_refl hcap.le _,
        within_refl hcap.le _⟩
  | toBlend amount =>
      rw [hp] at h
      obtain ⟨-, -, hamount⟩ := policy_toBlend.mp hp
      have hle : amount ≤ s.world.storage.maxRebalanceAmount := by
        rw [hamount]
        exact capped_le_cap hcap
      have hmoved := Moved.performs h
      have hnonneg := hmoved.legal.1
      refine limited_of_books hmoved.books ?_ ?_ ?_ ?_
      all_goals
        simp only [Within, Flow.apply]
        omega
  | fromBlend amount =>
      rw [hp] at h
      obtain ⟨redeemed, hmoved⟩ := h
      obtain ⟨-, -, hamount⟩ := (policy_fromBlend htotal).mp hp
      have hle : amount ≤ s.world.storage.maxRebalanceAmount := by
        rw [hamount]
        exact capped_le_cap hcap
      obtain ⟨hpos, -, hredeemed, hbound⟩ := hmoved.performs.legal
      refine limited_of_books hmoved.performs.books ?_ ?_ ?_ ?_
      all_goals
        simp only [Within, Flow.apply]
        omega

/-- A rebalance that goes through moves no more than the cap, when there is one. -/
def CapRespected (P : Shared) (w : World) : Action → Prop
  | .invoke env entry => ∀ t, invoke P env w entry = .ok t → entry.rebalances P = true →
      w.storage.maxRebalanceAmount ≠ 0 →
        Limited w.storage.maxRebalanceAmount w t.world
  | _ => True

theorem capRespected (P : Shared) {w : World} (hw : InRange w.storage) (a : Action) :
    CapRespected P w a := by
  cases a with
  | invoke env entry =>
      intro t h hentry hmax
      have hcap : 0 < w.storage.maxRebalanceAmount := lt_of_le_of_ne hw.maxAmount hmax.symm
      obtain ⟨u, id, hu, rfl⟩ := invoke_rebalance h hentry
      obtain rfl | ⟨status, state, -, -, htotal, hdone⟩ :=
        executeRebalance_cases (s := .start w) hw.target.2 hu
      · exact ⟨within_refl hcap.le _, within_refl hcap.le _, within_refl hcap.le _,
          within_refl hcap.le _⟩
      · obtain ⟨hliquid, hdelegated, hposition, hprincipal⟩ :=
          limited_carriedOut hcap htotal.le hdone
        exact ⟨hliquid, hdelegated, hposition, hprincipal⟩
  | _ => exact trivial

/-! ## Runs -/

/-- From any reachable state on, as long as neither the admin nor a pending admin
authorises a call, and whatever the verification contract accepts: everything in
the storage but the seen events, the principal and the two timestamps is as it
was, in every state of the run, and every rebalance respects the cap. -/
theorem quorum_confined (P : Shared) (hlawful : Lawful P.admin) {w₀ : World} (h₀ : Deployed w₀)
    (before as : List Action) :
    let w := Runs.run (step P) w₀ before
    Runs.Along (step P) WithoutAdmin w as →
      Runs.Always (step P) (fun v => v.storage.governed = w.storage.governed) w as ∧
        Runs.Along (step P) (CapRespected P) w as := by
  intro w hwithout
  constructor
  · exact Runs.Along.always (step P) (I := fun v => v.storage.governed = w.storage.governed)
      (fun _ _ hv ha => (governed_step hlawful ha).trans hv) rfl hwithout
  · exact Runs.Along.of_invariant (step P) (I := fun v => InRange v.storage)
      (fun _ a hv => inRange_step hv a) (fun _ a hv => capRespected P hv a)
      (inRange_run P h₀ before) as

theorem lawful_twoStep : Lawful .twoStep where
  propose_auth h := by
    simp only [AdminTransfer.twoStep, Option.ite_none_right_eq_some] at h
    exact h.1
  accept_auth h := by
    simp only [AdminTransfer.twoStep, Option.bind_eq_some_iff,
      Option.ite_none_right_eq_some] at h
    obtain ⟨admin, hpending, hauth, hout⟩ := h
    cases hout
    exact ⟨hpending, hauth⟩

/-- An environment in which the sample admin signs nothing. -/
def Env.leaderless : Env := { Env.honest with auth := fun a => a != 10 }

/-- Under a cap of 200, a quorum that rebalances moves 200. -/
theorem quorum_confined_sample :
    let w := step .sample sampleWorld (.invoke .honest (.setMaxRebalanceAmount 200))
    let v := step .sample w (rebalanceEvent .leaderless 1)
    v.storage.governed = w.storage.governed ∧ v.venue.pool.liquid = 800 ∧
      w.venue.pool.liquid - 200 ≤ v.venue.pool.liquid := by
  intro w v
  have hwithout : Runs.Along (step .sample) WithoutAdmin w [rebalanceEvent .leaderless 1] := by
    refine ⟨⟨rfl, ?_⟩, trivial⟩
    intro admin hadmin
    cases hadmin
  obtain ⟨hsame, hcap⟩ := quorum_confined .sample lawful_twoStep sampleWorld_deployed
    [.invoke .honest (.setMaxRebalanceAmount 200)] [rebalanceEvent .leaderless 1] hwithout
  refine ⟨hsame.2, by decide, ?_⟩
  cases ht : invoke .sample .leaderless w
      (.verifyXlm (List.replicate 20 1 ++ [0]) ⟨[], [], 500⟩) with
  | ok t =>
      have hmax : w.storage.maxRebalanceAmount ≠ 0 := by decide
      have hlimited : Limited 200 w t.world := hcap.1 t ht rfl hmax
      have hworld : v = t.world := step_invoke_ok ht
      rw [hworld]
      exact hlimited.liquid.1
  | error e =>
      have hworld : v = w := step_invoke_error ht
      rw [hworld]
      decide

end BlendPool.Handler
