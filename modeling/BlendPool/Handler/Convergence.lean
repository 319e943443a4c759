/-
# `BlendPool.Handler.Convergence` — repeated rebalances settle

A capped rebalance stops short of the target, and the next one goes on.  In a run
in which nothing else happens every submission is a tick of one and the same
regulator; so what one tick does to the distance and to the room, a run does as
often as it moves, and the room bounds how often that is.
-/
import BlendPool.Handler.Tick

namespace BlendPool.Handler

open Bounded

/-! ## Runs of ticks -/

/-- One for each step that moves. -/
def moved (P : Shared) (w : World) (a : Action) : ℤ := if autoMove P w a = .hold then 0 else 1

/-- How much liquid USDC there is above the target. -/
def World.excess (w : World) : Int := w.venue.pool.liquid - w.regulator.target

section

variable {P : Shared} {w : World} {a : Action}

theorem Ticked.excess_of_hold (h : Ticked P w a) (hhold : autoMove P w a = .hold) :
    (step P w a).excess = w.excess := by
  have hliquid := congrArg Holding.liquid (h.holding_of_hold hhold)
  have htarget := congrArg Regulator.target h.regulator
  exact congrArg₂ (· - ·) hliquid htarget

theorem excess_closer (hw : Steady w) (ha : Tick P w a) (hmove : autoMove P w a ≠ .hold) :
    (step P w a).excess.natAbs < w.excess.natAbs := by
  have ht := ticked hw ha
  have hcloser := (ht.approaches hw hmove).2.2.closer
  rw [World.excess, ht.regulator]
  exact hcloser

theorem excess_nonneg_step (hw : Steady w) (ha : Tick P w a) (h : 0 ≤ w.excess) :
    0 ≤ (step P w a).excess ∧ ∀ amount, autoMove P w a ≠ .fromBlend amount := by
  have ht := ticked hw ha
  have habove : w.regulator.target ≤ w.holding.liquid := Int.le_of_sub_nonneg h
  constructor
  · rcases Decidable.em (autoMove P w a = .hold) with hhold | hmove
    · rw [ht.excess_of_hold hhold]
      exact h
    · rw [World.excess, ht.regulator]
      exact Int.sub_nonneg_of_le ((ht.approaches hw hmove).2.2.above habove)
  · intro amount hfrom
    have hdecision := ht.decision_of_move hfrom Decision.noConfusion
    have hunder := (Regulator.decision_fromBlend hw.band_nonneg hdecision).1
    have hband := hw.band_nonneg
    omega

theorem excess_nonpos_step (hw : Steady w) (ha : Tick P w a) (h : w.excess ≤ 0) :
    (step P w a).excess ≤ 0 ∧ ∀ amount, autoMove P w a ≠ .toBlend amount := by
  have ht := ticked hw ha
  have hbelow : w.holding.liquid ≤ w.regulator.target := Int.le_of_sub_nonpos h
  constructor
  · rcases Decidable.em (autoMove P w a = .hold) with hhold | hmove
    · rw [ht.excess_of_hold hhold]
      exact h
    · rw [World.excess, ht.regulator]
      exact Int.sub_nonpos_of_le ((ht.approaches hw hmove).2.2.below hbelow)
  · intro amount hto
    have hdecision := ht.decision_of_move hto Decision.noConfusion
    have hover := (Regulator.decision_toBlend hdecision).1
    have hband := hw.band_nonneg
    omega

/-- A tick that moves uses up one of the moves there is room for. -/
theorem moved_add_moves (hw : Steady w) (ha : Tick P w a) (hcap : 0 < w.regulator.maxCap) :
    moved P w a + ((step P w a).regulator.moves (step P w a).holding : ℤ) ≤
      (w.regulator.moves w.holding : ℤ) := by
  have ht := ticked hw ha
  rw [ht.regulator, moved]
  split
  · next hhold =>
      rw [ht.holding_of_hold hhold, zero_add]
  · next hmove =>
      obtain ⟨hdecision, htick, -⟩ := ht.approaches hw hmove
      rw [htick]
      exact_mod_cast Regulator.moves_tick hw.band_nonneg hcap hdecision

theorem settled_tick (hw : Steady w) {env : Env} {entry : EntryPoint}
    (ha : Tick P w (.invoke env entry)) (hcap : w.regulator.maxCap = 0) :
    Settled (step P w (.invoke env entry)) := by
  have ht := ticked hw ha
  have hdue := ht.due env entry rfl
  rcases Decidable.em (autoMove P w (.invoke env entry) = .hold) with hhold | hmove
  · refine ht.settled_of_hold hw hhold ((due_eq_hold hw).mp ?_)
    rw [← hdue]
    exact hhold
  · obtain ⟨-, htick, -⟩ := ht.approaches hw hmove
    refine .inl ?_
    rw [ht.regulator, htick]
    exact Regulator.stalled_tick hw.band_nonneg hcap

theorem settled_step (hw : Steady w) (ha : Tick P w a) (hsettled : Settled w) :
    Settled (step P w a) ∧ autoMove P w a = .hold := by
  have ht := ticked hw ha
  have hhold : autoMove P w a = .hold := by
    cases a with
    | invoke env entry =>
        rw [ht.due env entry rfl]
        exact (due_eq_hold hw).mpr hsettled
    | trade _ _ | accrue _ | writeDown _ | blendHolds _ | send _ | advance _ _ => rfl
  exact ⟨ht.settled_of_hold hw hhold hsettled, hhold⟩

end

/-- A condition that every tick keeps in a steady world holds throughout a run of
ticks, and what such a tick does every one of them does. -/
theorem steady_run {P : Shared} {J : World → Prop} {Q : World → Action → Prop}
    (hstep : ∀ w a, Steady w → Tick P w a → J w → J (step P w a) ∧ Q w a) {w₀ : World}
    (h₀ : Steady w₀) (hJ : J w₀) {as : List Action} (has : Runs.Along (step P) (Tick P) w₀ as) :
    Runs.Always (step P) J w₀ as ∧ Runs.Along (step P) Q w₀ as := by
  have hkeep : ∀ w a, Steady w ∧ J w → Tick P w a → Steady (step P w a) ∧ J (step P w a) := by
    rintro w a ⟨hw, hj⟩ ha
    exact ⟨(ticked hw ha).steady hw, (hstep w a hw ha hj).1⟩
  constructor
  · exact (has.always (step P) hkeep ⟨h₀, hJ⟩).imp (step P) fun _ hw => hw.2
  · refine has.imp (step P) (I := fun w => Steady w ∧ J w) ?_ ⟨h₀, hJ⟩
    intro w a hw ha
    exact ⟨hkeep w a hw ha, (hstep w a hw.1 ha hw.2).2⟩

theorem tally_moved_le {P : Shared} {w₀ : World} (h₀ : Steady w₀) {as : List Action}
    (has : Runs.Along (step P) (Tick P) w₀ as) (hcap : 0 < w₀.regulator.maxCap) :
    Runs.tally (step P) (moved P) w₀ as ≤ (w₀.regulator.moves w₀.holding : ℤ) := by
  refine has.tally_le (step P) (I := fun w => Steady w ∧ 0 < w.regulator.maxCap)
    (m := fun w => (w.regulator.moves w.holding : ℤ)) ?_ ?_ ⟨h₀, hcap⟩
  · rintro w a ⟨hw, hpos⟩ ha
    have ht := ticked hw ha
    refine ⟨⟨ht.steady hw, ?_⟩, moved_add_moves hw ha hpos⟩
    rw [ht.regulator]
    exact hpos
  · intro w _
    exact Int.natCast_nonneg _

/-- Repeated rebalances, from any steady state, one at a time and with nothing else
going on.  Target, band, floor and cap stay what they are.  All moves go one way,
each strictly closer to the target and none across it.  Under a cap `c` no more than
`⌈|liquid − target| / c⌉` submissions move anything.  A submission moves nothing
exactly when the world is settled; and without a cap it is after the first one. -/
theorem rebalance_converges (P : Shared) {w₀ : World} (h₀ : Steady w₀) {as : List Action}
    (has : Runs.Along (step P) (Tick P) w₀ as) :
    let c := w₀.storage.maxRebalanceAmount
    Runs.Always (step P) (fun w => w.regulator = w₀.regulator) w₀ as ∧
      (0 ≤ w₀.excess → Runs.Always (step P) (fun w => 0 ≤ w.excess) w₀ as ∧
        Runs.Along (step P) (fun w a => ∀ amount, autoMove P w a ≠ .fromBlend amount) w₀ as) ∧
      (w₀.excess ≤ 0 → Runs.Always (step P) (fun w => w.excess ≤ 0) w₀ as ∧
        Runs.Along (step P) (fun w a => ∀ amount, autoMove P w a ≠ .toBlend amount) w₀ as) ∧
      Runs.Along (step P) (fun w a =>
        (autoMove P w a ≠ .hold → (step P w a).excess.natAbs < w.excess.natAbs) ∧
        (autoMove P w a = .hold → (step P w a).venue = w.venue)) w₀ as ∧
      (0 < c → Runs.tally (step P) (moved P) w₀ as ≤ (w₀.excess.natAbs ⌈/⌉ c.toNat : ℕ)) ∧
      Runs.Along (step P) (fun w a => ∀ env entry, a = .invoke env entry →
        (autoMove P w a = .hold ↔ Settled w)) w₀ as ∧
      (c = 0 → ∀ env entry rest, as = .invoke env entry :: rest →
        Runs.Along (step P) (fun w a => autoMove P w a = .hold)
          (step P w₀ (.invoke env entry)) rest) := by
  intro c
  refine ⟨?_, ?_, ?_, ?_, ?_, ?_, ?_⟩
  · refine (steady_run (J := fun w => w.regulator = w₀.regulator) (Q := fun _ _ => True) ?_ h₀ rfl
      has).1
    intro w a hw ha hsame
    exact ⟨(ticked hw ha).regulator.trans hsame, trivial⟩
  · intro habove
    exact steady_run (fun _ _ hw ha h => excess_nonneg_step hw ha h) h₀ habove has
  · intro hbelow
    exact steady_run (fun _ _ hw ha h => excess_nonpos_step hw ha h) h₀ hbelow has
  · refine (steady_run (J := fun _ => True) ?_ h₀ trivial has).2
    intro w a hw ha _
    exact ⟨trivial, excess_closer hw ha, (ticked hw ha).follows.held⟩
  · intro hcap
    have hroom := Regulator.moves_le (h := w₀.holding) (R := w₀.regulator) hcap
    exact (tally_moved_le h₀ has hcap).trans (Int.ofNat_le.mpr hroom)
  · refine (steady_run (J := fun _ => True) ?_ h₀ trivial has).2
    intro w a hw ha _
    refine ⟨trivial, ?_⟩
    intro env entry hentry
    rw [(ticked hw ha).due env entry hentry]
    exact due_eq_hold hw
  · rintro hcap env entry rest rfl
    have hsettled : Settled (step P w₀ (.invoke env entry)) := settled_tick h₀ has.1 hcap
    exact (steady_run (fun _ _ hw ha h => settled_step hw ha h) ((ticked h₀ has.1).steady h₀)
      hsettled has.2).2

theorem tick_rebalanceEvent {w : World} (id : Byte)
    (h : w.storage.paused = false ∧ w.storage.usdc < w.storage.xlm ∧
      (500 ≤ w.sequence ∧ w.sequence ≤ 700) ∧
      ⟨List.replicate 20 id, List.length_replicate⟩ ∉ w.storage.eventSeen ∧
      (0 ≤ w.venue.blend.position ∧ w.venue.blend.position ≤ w.venue.blend.held) ∧
      CooldownElapsed w.storage w.timestamp) :
    Tick .sample w (rebalanceEvent .honest id) := by
  obtain ⟨hunpaused, htokens, hrecent, hunseen, ⟨hnonneg, hheld⟩, helapsed⟩ := h
  exact
    { admitted := ⟨_, _, _, rfl,
        { decoded := rfl
          unpaused := hunpaused
          unseen := hunseen
          recent := hrecent
          verified := rfl }⟩
      rebalances := rfl
      calm :=
        { pays := paysPosition_honest hnonneg hheld
          accepts := fun _ _ => rfl
          truthful := ⟨_, rfl, if_pos htokens⟩ }
      elapsed := helapsed }

theorem steady_sampleWorld : Steady sampleWorld where
  range := sampleStorage_inRange
  liquid := by decide
  delegated := by decide
  fits := ⟨by decide, by decide, by decide⟩
  representable := by decide
  pooled := by decide
  covered := by decide

/-- The sample deployment with another minimum and a cap. -/
def sampleWith (minTotalUsdc maxRebalanceAmount : Int) : World :=
  { sampleWorld with storage :=
      { sampleStorage with
        minTotalUsdc := minTotalUsdc, maxRebalanceAmount := maxRebalanceAmount } }

theorem steady_sampleWith {minTotalUsdc maxRebalanceAmount : Int} (hmin : 0 ≤ minTotalUsdc)
    (hmax : 0 ≤ maxRebalanceAmount) : Steady (sampleWith minTotalUsdc maxRebalanceAmount) :=
  { steady_sampleWorld with
    range := { sampleStorage_inRange with minTotal := hmin, maxAmount := hmax }
    fits := { steady_sampleWorld.fits with } }

/-- Under a cap of 300, 500 too much goes in two moves. -/
theorem rebalance_converges_sample :
    let as := [rebalanceEvent .honest 1, .advance 60 0, rebalanceEvent .honest 2]
    Runs.tally (step .sample) (moved .sample) (sampleWith 0 300) as ≤ 2 ∧
      (Runs.run (step .sample) (sampleWith 0 300) as).venue.pool.liquid = 500 := by
  intro as
  have has : Runs.Along (step .sample) (Tick .sample) (sampleWith 0 300) as := by
    refine ⟨?_, trivial, ?_, trivial⟩
    · exact tick_rebalanceEvent 1 (by decide)
    · exact tick_rebalanceEvent 2 (by decide)
  obtain ⟨-, -, -, -, hcount, -, -⟩ := rebalance_converges .sample
    (steady_sampleWith (le_refl 0) (by decide)) has
  exact ⟨hcount (by decide), by decide⟩

/-- Where a rebalance takes 2000, a pool with 1000 stays far outside the band. -/
theorem small_pool_stalls :
    ¬ ∀ (P : Shared) (w₀ : World) (as : List Action), Steady w₀ → w₀.handlerUsdc = 0 →
        0 < w₀.storage.maxRebalanceAmount → Runs.Along (step P) (Tick P) w₀ as →
        Runs.Along (step P) (fun w a => ∀ env entry, a = .invoke env entry →
          autoMove P w a = .hold → w.regulator.Stalled w.holding) w₀ as := by
  intro hclaim
  have htick : Tick .sample (sampleWith 2000 300) (rebalanceEvent .honest 1) :=
    tick_rebalanceEvent 1 (by decide)
  have hstalled := (hclaim .sample (sampleWith 2000 300) [rebalanceEvent .honest 1]
    (steady_sampleWith (by decide) (by decide)) rfl (by decide) ⟨htick, trivial⟩).1 _ _ rfl
      (by decide)
  have hout : ¬ (sampleWith 2000 300).regulator.Stalled (sampleWith 2000 300).holding := by decide
  exact hout hstalled

end BlendPool.Handler
