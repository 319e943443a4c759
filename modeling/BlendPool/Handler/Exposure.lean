/-
# `BlendPool.Handler.Exposure` — what a quorum can have in Blend

The cap bounds one rebalance and the cooldown spaces two of them.  Together they bound
how much of the pool a quorum can have put into Blend, however many envelopes it signs:
with cap `c` and cooldown `C`, from `t₀` to `t₁` at most

    c · ((t₁ − t₀) / C + 1)

beyond what was there, as long as neither admin nor pending admin signs anything.  The
potential behind it is what the pool has delegated and `c` for each move still due.
-/
import BlendPool.Handler.Authority
import BlendPool.Lib.Slots

namespace BlendPool.Handler

open Bounded Slots

/-- What a decision takes out of the pool. -/
def Decision.outflow : Decision → Int
  | .toBlend amount => amount
  | .hold | .fromBlend _ => 0

section

variable {P : Shared} {env : Env} {w : World} {entry : EntryPoint} {t : Session}

/-- What came out of Blend is never sent back there as delegated. -/
theorem delegated_of_drain {f : Flow} {s u : Session} (hf : Performs f s u) (hfits : f.Fits true) :
    u.world.books.delegated ≤ s.world.books.delegated := by
  have hlegal := hf.legal
  rw [hf.books]
  cases f with
  | idle | harvest _ | reset => exact le_refl _
  | toBlend _ | fromBlend _ _ => cases hfits
  | unwind redeemed =>
      obtain ⟨hp, hr⟩ := hlegal
      dsimp only [Flow.apply]
      omega

theorem delegated_carriedOut {s u : Session} {side : Side} {d : Decision}
    (h : CarriedOut s u side d) :
    u.world.books.delegated ≤ s.world.books.delegated + d.outflow := by
  cases d with
  | hold =>
      rw [h.1]
      exact le_add_of_nonneg_right (le_refl _)
  | toBlend amount =>
      rw [(Moved.performs h).books]
      exact le_refl _
  | fromBlend amount =>
      obtain ⟨redeemed, hmoved⟩ := h
      have hpos := hmoved.performs.legal.1
      rw [hmoved.performs.books]
      dsimp only [Flow.apply, Decision.outflow]
      omega

/-- Without the admin, only an automatic move takes anything out of the pool. -/
theorem delegated_step (hlawful : Lawful P.admin) (hw : InRange w.storage) {a : Action}
    (hauth : WithoutAdmin w a) :
    (step P w a).venue.pool.delegated ≤ w.venue.pool.delegated + (autoMove P w a).outflow := by
  cases a with
  | invoke env entry =>
      cases h : invoke P env w entry with
      | error e =>
          rw [step_invoke_error h, autoMove_error h]
          exact le_add_of_nonneg_right (le_refl _)
      | ok t =>
          rw [step_invoke_ok h, autoMove_ok h]
          cases hentry : entry.rebalances P with
          | true =>
              obtain ⟨u, id, hu, rfl⟩ := invoke_rebalance h hentry
              obtain rfl | ⟨status, state, -, -, -, hdone⟩ :=
                executeRebalance_cases (s := .start w) hw.target.2 hu
              · exact le_add_of_nonneg_right (le_refl _)
              · rw [← moveOf_carriedOut hdone] at hdone
                exact delegated_carriedOut hdone
          | false =>
              obtain ⟨envelopeBytes, sigData, rfl⟩ := invoke_withoutAdmin hlawful h hauth
              obtain ⟨-, envelope, henvelope, -, -, -, action, haction, u, hu, rfl⟩ :=
                verifyXlm_eq_ok.mp (invoke_eq_ok.mp h)
              cases action with
              | rebalance =>
                  refine absurd ?_ (of_decide_eq_false hentry)
                  rw [henvelope]
                  exact haction
              | harvestYield =>
                  obtain ⟨f, hf, hfits⟩ := executeHarvestYield_performs hu
                  have hdrain := delegated_of_drain hf hfits
                  exact hdrain.trans (le_add_of_nonneg_right (le_refl _))
  | trade _ _ | accrue _ | writeDown _ | blendHolds _ | send _ | advance _ _ =>
      exact le_add_of_nonneg_right (le_refl _)

/-! ## The potential -/

/-- What is delegated, and the cap for every move that can still be made until `horizon`. -/
def World.exposure (cap : Int) (cooldown horizon : Nat) (w : World) : Int :=
  w.venue.pool.delegated +
    cap * slots cooldown horizon (w.storage.lastRebalanceTs + cooldown) w.timestamp

/-- What the bound needs to know of a state: the settings, and that the last move is past. -/
structure Capped (cap : Int) (cooldown : Nat) (w : World) : Prop where
  inRange : InRange w.storage
  cap_eq : w.storage.maxRebalanceAmount = cap
  cooldown_eq : w.storage.rebalanceCooldownSecs = cooldown
  last_le : w.storage.lastRebalanceTs ≤ w.timestamp

theorem last_step (hw : InRange w.storage) (hlast : w.storage.lastRebalanceTs ≤ w.timestamp)
    (a : Action) : (step P w a).storage.lastRebalanceTs ≤ (step P w a).timestamp := by
  have hclock := (clock_step P w a).1
  rw [lastRebalance_step hw]
  split
  · exact hlast.trans hclock
  · exact hclock

theorem capped_step {cap : Int} {cooldown : Nat} (hlawful : Lawful P.admin)
    (hw : Capped cap cooldown w) {a : Action} (hauth : WithoutAdmin w a) :
    Capped cap cooldown (step P w a) := by
  have hgoverned := governed_step (P := P) hlawful hauth
  have hcap := congrArg Storage.maxRebalanceAmount hgoverned
  have hcooldown := congrArg Storage.rebalanceCooldownSecs hgoverned
  exact
    { inRange := inRange_step hw.inRange a
      cap_eq := hcap.trans hw.cap_eq
      cooldown_eq := hcooldown.trans hw.cooldown_eq
      last_le := last_step hw.inRange hw.last_le a }

/-- An automatic move to Blend comes after the cooldown and is no more than the cap. -/
theorem outflow_le {cap : Int} {cooldown horizon : Nat} (hw : Capped cap cooldown w)
    (hcap : 0 < cap) (hnow : w.timestamp ≤ horizon) (hend : horizon < u64Max) {a : Action}
    {amount : Int} (h : autoMove P w a = .toBlend amount) :
    w.storage.lastRebalanceTs + cooldown ≤ w.timestamp ∧ amount ≤ cap := by
  have hmoves : autoMove P w a ≠ .hold := by
    rw [h]
    exact Decision.noConfusion
  obtain ⟨_, _, status, state, -, -, htotal, hpolicy⟩ := autoMove_policy hw.inRange hmoves
  rw [h] at hpolicy
  obtain ⟨-, -, hamount⟩ := policy_toBlend.mp hpolicy.symm
  obtain helapsed | ⟨⟨_, hfrom⟩, -⟩ := due_of_policy htotal.le hpolicy Decision.noConfusion
  · rw [CooldownElapsed, hw.cooldown_eq] at helapsed
    rw [hw.cap_eq] at hamount
    refine ⟨by omega, ?_⟩
    rw [hamount]
    exact capped_le_cap hcap
  · cases hfrom

theorem exposure_step {cap : Int} {cooldown horizon : Nat} (hlawful : Lawful P.admin)
    (hw : Capped cap cooldown w) (hcap : 0 < cap) (hcooldown : 0 < cooldown)
    (hend : horizon < u64Max) {a : Action} (hauth : WithoutAdmin w a)
    (hnow : w.timestamp ≤ horizon) :
    (step P w a).exposure cap cooldown horizon ≤ w.exposure cap cooldown horizon := by
  have hdelegated := delegated_step hlawful hw.inRange hauth
  have hclock := (clock_step P w a).1
  have hlast := lastRebalance_step (P := P) hw.inRange a
  have hscale : ∀ {m n : Nat}, m ≤ n → cap * (m : Int) ≤ cap * (n : Int) := fun hmn =>
    Int.mul_le_mul_of_nonneg_left (Int.ofNat_le.mpr hmn) hcap.le
  -- after a move the gate is closed anew
  have hclosed : slots cooldown horizon (w.timestamp + cooldown) (step P w a).timestamp ≤
      slots cooldown horizon (w.timestamp + cooldown) w.timestamp :=
    slots_anti (max_le_max (le_refl _) hclock)
  rw [World.exposure, World.exposure]
  cases hmove : autoMove P w a with
  | hold =>
      rw [hmove, if_pos rfl] at hlast
      rw [hmove] at hdelegated
      have hwaited : slots cooldown horizon (w.storage.lastRebalanceTs + cooldown)
            (step P w a).timestamp ≤
          slots cooldown horizon (w.storage.lastRebalanceTs + cooldown) w.timestamp :=
        slots_anti (max_le_max (le_refl _) hclock)
      rw [hlast]
      exact add_le_add (hdelegated.trans_eq (Int.add_zero _)) (hscale hwaited)
  | toBlend amount =>
      rw [hmove, if_neg Decision.noConfusion] at hlast
      rw [hmove] at hdelegated
      obtain ⟨hdue, hamount⟩ := outflow_le hw hcap hnow hend hmove
      have hpass : cap * (slots cooldown horizon (w.timestamp + cooldown) w.timestamp + 1 : Nat) ≤
          cap * (slots cooldown horizon (w.storage.lastRebalanceTs + cooldown) w.timestamp : Nat) :=
        hscale (slots_pass hcooldown hdue hnow)
      have hshut := hscale hclosed
      rw [Nat.cast_add, Nat.cast_one, Int.mul_add, Int.mul_one] at hpass
      rw [hlast]
      dsimp only [Decision.outflow] at hdelegated
      omega
  | fromBlend amount =>
      rw [hmove, if_neg Decision.noConfusion] at hlast
      rw [hmove] at hdelegated
      have hshut := hclosed.trans (slots_close (Nat.add_le_add_right hw.last_le cooldown))
      rw [hlast]
      exact add_le_add (hdelegated.trans_eq (Int.add_zero _)) (hscale hshut)

theorem along_until {horizon : Nat} {as : List Action}
    (h : (Runs.run (step P) w as).timestamp ≤ horizon) :
    Runs.Along (step P) (fun v _ => v.timestamp ≤ horizon) w as := by
  induction as generalizing w with
  | nil => exact trivial
  | cons a as ih => exact ⟨(timestamp_run P w (a :: as)).trans h, ih h⟩

theorem Deployed.last_le {w₀ : World} (h₀ : Deployed w₀) (as : List Action) :
    (Runs.run (step P) w₀ as).storage.lastRebalanceTs ≤ (Runs.run (step P) w₀ as).timestamp := by
  obtain ⟨c, hc⟩ := h₀.constructed
  have hstart : w₀.storage.lastRebalanceTs ≤ w₀.timestamp := by
    rw [(constructor_fresh hc).lastRebalance_eq]
    exact Nat.zero_le _
  exact (Runs.Invariant.run (step P)
    (I := fun w => InRange w.storage ∧ w.storage.lastRebalanceTs ≤ w.timestamp)
    (fun _ a hw => ⟨inRange_step hw.1 a, last_step hw.1 hw.2 a⟩)
    ⟨(constructor_fresh hc).inRange, hstart⟩ as).2

end

/-! ## Runs -/

/-- From any reachable state on, with a cap and a cooldown, as long as neither the admin nor
a pending admin authorises a call: what the pool has delegated at the end is at most what it
had delegated at the start and the cap for each cooldown that fits in between, and once
more. -/
theorem quorum_exposure (P : Shared) (hlawful : Lawful P.admin) {w₀ : World} (h₀ : Deployed w₀)
    (before as : List Action) :
    let w := Runs.run (step P) w₀ before
    let v := Runs.run (step P) w as
    Runs.Along (step P) WithoutAdmin w as → 0 < w.storage.maxRebalanceAmount →
      0 < w.storage.rebalanceCooldownSecs → v.timestamp < u64Max →
    v.venue.pool.delegated ≤ w.venue.pool.delegated + w.storage.maxRebalanceAmount *
      (((v.timestamp - w.timestamp) / w.storage.rebalanceCooldownSecs + 1 : Nat) : Int) := by
  intro w v hwithout hcap hcooldown hend
  have hstart : Capped w.storage.maxRebalanceAmount w.storage.rebalanceCooldownSecs w :=
    ⟨inRange_run P h₀ before, rfl, rfl, h₀.last_le before⟩
  generalize w.storage.maxRebalanceAmount = cap at hcap hstart ⊢
  generalize w.storage.rebalanceCooldownSecs = cooldown at hcooldown hstart ⊢
  have hsteps := Runs.Along.and (step P) hwithout (along_until (le_refl v.timestamp))
  obtain ⟨-, hpaid⟩ := Runs.Along.run (step P)
    (I := fun u => Capped cap cooldown u ∧
      u.exposure cap cooldown v.timestamp ≤ w.exposure cap cooldown v.timestamp)
    (fun u a hu ha => ⟨capped_step hlawful hu.1 ha.1,
      (exposure_step hlawful hu.1 hcap hcooldown hend ha.1 ha.2).trans hu.2⟩)
    ⟨hstart, le_refl _⟩ hsteps
  -- the cap for the moves still due: nothing less than zero at the end, the bound at the start
  have hleft : 0 ≤ cap * (slots cooldown v.timestamp (v.storage.lastRebalanceTs + cooldown)
      v.timestamp : Int) := Int.mul_nonneg hcap.le (Int.natCast_nonneg _)
  have hslots : slots cooldown v.timestamp (w.storage.lastRebalanceTs + cooldown) w.timestamp ≤
      (v.timestamp - w.timestamp) / cooldown + 1 := slots_le (timestamp_run P w as)
  calc v.venue.pool.delegated
      ≤ v.exposure cap cooldown v.timestamp := le_add_of_nonneg_right hleft
    _ ≤ w.exposure cap cooldown v.timestamp := hpaid
    _ ≤ _ := Int.add_le_add_left
        (Int.mul_le_mul_of_nonneg_left (Int.ofNat_le.mpr hslots) hcap.le) _

/-- Under a cap of 200 and with a minute between, two rebalances delegate 400, and the bound
is no more. -/
theorem quorum_exposure_sample :
    let w := Runs.run (step .sample) sampleWorld [.invoke .honest (.setMaxRebalanceAmount 200)]
    let v := Runs.run (step .sample) w
      [rebalanceEvent .leaderless 1, .advance 60 0, rebalanceEvent .leaderless 2]
    v.venue.pool.delegated = 400 ∧ v.venue.pool.delegated ≤ 400 := by
  intro w v
  have hsilent : ∀ u : World, u.storage.governed = w.storage.governed → ∀ id,
      WithoutAdmin u (rebalanceEvent .leaderless id) := by
    intro u hgoverned id
    have hadmin : u.storage.admin = 10 := congrArg Storage.admin hgoverned
    have hpending : u.storage.pendingAdmin = none := congrArg Storage.pendingAdmin hgoverned
    refine ⟨?_, ?_⟩
    · rw [hadmin]
      rfl
    · rw [hpending]
      intro admin hmem
      cases hmem
  have hfirst := hsilent w rfl 1
  have hmoved := governed_step (P := .sample) lawful_twoStep hfirst
  generalize hmid : step .sample w (rebalanceEvent .leaderless 1) = u at hmoved
  have hwaited := governed_step (P := .sample) (w := u) (a := .advance 60 0) lawful_twoStep trivial
  have hwithout : Runs.Along (step .sample) WithoutAdmin w
      [rebalanceEvent .leaderless 1, .advance 60 0, rebalanceEvent .leaderless 2] :=
    ⟨hfirst, trivial, by
      rw [hmid]
      exact hsilent _ (hwaited.trans hmoved) 2, trivial⟩
  have hcap : 0 < w.storage.maxRebalanceAmount := by decide
  have hcooldown : 0 < w.storage.rebalanceCooldownSecs := by decide
  have hend : v.timestamp < u64Max := by decide
  have hlimit := quorum_exposure .sample lawful_twoStep sampleWorld_deployed
    [.invoke .honest (.setMaxRebalanceAmount 200)] _ hwithout hcap hcooldown hend
  have hbound : w.venue.pool.delegated + w.storage.maxRebalanceAmount *
      (((v.timestamp - w.timestamp) / w.storage.rebalanceCooldownSecs + 1 : Nat) : Int) = 400 := by
    decide
  have hdelegated : v.venue.pool.delegated = 400 := by decide
  have hw : w = Runs.run (step .sample) sampleWorld
    [.invoke .honest (.setMaxRebalanceAmount 200)] := rfl
  have hv : v = Runs.run (step .sample) w
    [rebalanceEvent .leaderless 1, .advance 60 0, rebalanceEvent .leaderless 2] := rfl
  -- from here on the two worlds are only names
  clear_value v w
  rw [← hw, ← hv, hbound] at hlimit
  exact ⟨hdelegated, hlimit⟩

end BlendPool.Handler
