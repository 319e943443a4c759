/-
# `BlendPool.Handler.Absorption` — harvests repeat, and unwinds absorb them

A harvest and an unwind divide what Blend delivers between the principal and the rest
in code of their own: one puts the principal back and donates the rest, the other
deposits the principal and donates the rest.  With Blend delivering the position
exactly, a harvest on top of a harvest is one harvest, and an unwind on top of a
harvest is an unwind, whether the position is worth more than the principal, less, or
nothing.
-/
import BlendPool.Handler.Flows
import BlendPool.Handler.Cooldown

namespace BlendPool.Handler

open Bounded

/-! ## On the books -/

namespace Books

/-- What the books say after a harvest of the whole position. -/
def harvested (b : Books) : Books := (Flow.harvest b.position).apply b

/-- What they say after an unwind: without a principal it takes nothing out. -/
def unwound (b : Books) : Books :=
  if 0 < b.principal then (Flow.unwind b.position).apply b else Flow.reset.apply b

theorem harvested_harvested (b : Books) : b.harvested.harvested = b.harvested := by
  rw [harvested, harvested]
  ext1
  all_goals dsimp only [Flow.apply]
  all_goals omega

/-- What a harvest donates and puts back, an unwind deposits and donates. -/
theorem unwound_harvested {b : Books} (hp : 0 < b.principal) (hr : 0 ≤ b.position) :
    b.harvested.unwound = b.unwound := by
  have hleft : b.harvested.principal = min b.principal b.position := rfl
  rw [unwound, unwound, if_pos hp, hleft]
  split
  · rw [harvested]
    ext1
    all_goals dsimp only [Flow.apply]
    all_goals omega
  · -- everything was lost
    rw [harvested]
    ext1
    all_goals dsimp only [Flow.apply]
    all_goals omega

/-- The handler is empty, and Blend has what the position is worth. -/
structure Redeemable (b : Books) : Prop where
  empty : b.usdc = 0
  principal_le : b.principal ≤ i128Max
  position_nonneg : 0 ≤ b.position
  position_le : b.position ≤ i128Max
  held : b.position ≤ b.held

theorem Redeemable.harvested {b : Books} (h : b.Redeemable) (hp : 0 < b.principal) :
    b.harvested.Redeemable := by
  obtain ⟨h₁, h₂, h₃, h₄, h₅⟩ := h
  refine ⟨h₁, ?_, ?_, ?_, ?_⟩
  all_goals dsimp only [Books.harvested, Flow.apply]
  all_goals omega

end Books

/-! ## The two actions -/

/-- Everything is answered; a withdrawal of everything delivers the position, and supplies,
deposits and donations are taken. -/
structure Env.Exact (env : Env) : Prop where
  status : ∀ v, ∃ status, env.status v = some status
  claim : ∀ v, ∃ routed, env.claim v = some routed
  withdraw : ∀ v, 0 ≤ v.blend.position → v.blend.position ≤ i128Max →
    ∃ delivery, env.withdraw v i128Max = some delivery ∧ delivery.val = v.blend.position
  accepts : ∀ v c, env.accepts v c = true

/-- A harvest in this world gets to its interest leg. -/
def HasInterestLeg (env : Env) (w : World) : Prop :=
  0 < w.storage.principalSupplied ∧
    ∃ status, env.status w.venue = some status ∧ status ≤ blendHealthyStatusMax

section

variable {env : Env} {s : Session} {w : World}

theorem handlerUsdc_afterIf {p : Prop} [Decidable p] {c : ExtCall}
    (h : ¬ p → c.credit = 0) :
    (s.afterIf p c).world.handlerUsdc = s.world.handlerUsdc + c.credit := by
  rw [Session.afterIf]
  split
  · rfl
  · next hp => rw [h hp, Int.add_zero]

theorem interestLeg_exact (henv : env.Exact) (hb : s.world.books.Redeemable)
    (hp : 0 < s.world.storage.principalSupplied) (routed : Int) :
    ∃ leg v, interestLeg env s.world.storage routed s = .ok (leg, v) ∧
      v.world.books = s.world.books.harvested := by
  obtain ⟨delivery, hdelivery, hval⟩ :=
    henv.withdraw s.world.venue hb.position_nonneg hb.position_le
  obtain ⟨hr, hmax⟩ := delivery.property
  have hheld : delivery.val ≤ s.world.venue.blend.held := by
    rw [hval]
    exact hb.held
  have hempty : s.world.handlerUsdc = 0 := hb.empty
  have hprincipal : s.world.storage.principalSupplied ≤ i128Max := hb.principal_le
  refine ⟨_, _, interestLeg_eq_ok.mpr (.inl ⟨delivery, hdelivery, hheld,
    (settleInterest_eq_ok hp hr hmax).mpr ⟨?_, ?_, ?_, rfl, rfl⟩⟩), ?_⟩
  · intro hsome
    refine ⟨henv.accepts _ _, hsome.le, ?_⟩
    show min s.world.storage.principalSupplied delivery.val ≤ s.world.handlerUsdc + delivery.val
    omega
  · intro hless
    exact inI128_of_nonneg (by omega) (by omega)
  · intro hsome
    refine ⟨henv.accepts _ _, hsome.le, ?_⟩
    rw [handlerUsdc_afterIf]
    · show delivery.val - min s.world.storage.principalSupplied delivery.val ≤
        s.world.handlerUsdc + delivery.val + -min s.world.storage.principalSupplied delivery.val
      omega
    · intro hnone
      show -min s.world.storage.principalSupplied delivery.val = 0
      omega
  · rw [(Performs.settled rfl hp hr).books, hval]
    rfl

/-- A harvest goes through: it takes everything out and settles it, or moves nothing. -/
theorem harvest_exact (henv : env.Exact) (hb : w.books.Redeemable) :
    ∃ t, executeHarvestYield env (.start w) = .ok ((), t) ∧
      (HasInterestLeg env w ∧ t.world.books = w.books.harvested ∨
        ¬ HasInterestLeg env w ∧ t.world.venue = w.venue ∧ t.world.books = w.books) := by
  obtain ⟨routed, hrouted⟩ := henv.claim w.venue
  obtain ⟨status, hstatus⟩ := henv.status w.venue
  obtain ⟨u, hu⟩ : ∃ u, (Session.start w).after (.claim w.storage.blendPool
    [w.storage.usdcReserveTokenId] w.storage.blndTreasury routed) = u := ⟨_, rfl⟩
  have hbooks : u.world.books = w.books := by
    rw [← hu]
    exact books_after (.start w) _
  rcases Decidable.em (0 < w.storage.principalSupplied ∧
    decide (status ≤ blendHealthyStatusMax) = true) with hgo | hstop
  · have hstorage : u.world.storage = w.storage := by rw [← hu]; rfl
    obtain ⟨leg, v, hleg, hv⟩ := interestLeg_exact (s := u) henv (by rw [hbooks]; exact hb)
      (by rw [hstorage]; exact hgo.1) routed
    rw [hstorage, ← hu] at hleg
    rw [hbooks] at hv
    have hclean : v.world.handlerUsdc = 0 := (congrArg Books.usdc hv).trans hb.empty
    refine ⟨_, executeHarvestYield_eq_ok.mpr ⟨routed, hrouted, status, hstatus,
      .inl ⟨hgo, leg, v, hleg, hclean, rfl⟩⟩, .inl ⟨⟨hgo.1, status, hstatus,
      of_decide_eq_true hgo.2⟩, ?_⟩⟩
    exact (v.reported_books _ _ _ _ _).1.trans hv
  · refine ⟨_, executeHarvestYield_eq_ok.mpr ⟨routed, hrouted, status, hstatus,
      .inr ⟨hstop, hb.empty, rfl⟩⟩, .inr ⟨?_, ?_, ?_⟩⟩
    · rintro ⟨hp, status', hstatus', hhealthy⟩
      obtain rfl := Option.some.inj (hstatus.symm.trans hstatus')
      exact hstop ⟨hp, decide_eq_true hhealthy⟩
    · rw [Session.reported]
      split
      · rfl
      · rfl
    · refine (Session.reported_books _ _ _ _ _ _).1.trans ?_
      exact books_after (.start w) _

theorem harvest_again (henv : env.Exact) (hb : w.books.Redeemable) {t : Session}
    (ht : HasInterestLeg env w ∧ t.world.books = w.books.harvested ∨
      ¬ HasInterestLeg env w ∧ t.world.venue = w.venue ∧ t.world.books = w.books) :
    ∃ v, executeHarvestYield env (.start t.world) = .ok ((), v) ∧
      v.world.books = t.world.books := by
  have hagain : t.world.books.Redeemable := by
    obtain ⟨hleg, hbooks⟩ | ⟨-, -, hbooks⟩ := ht
    · rw [hbooks]
      exact hb.harvested hleg.1
    · rw [hbooks]
      exact hb
  obtain ⟨v, hv, ⟨hleg', hvbooks⟩ | ⟨-, -, hvbooks⟩⟩ := harvest_exact (w := t.world) henv hagain
  · refine ⟨v, hv, ?_⟩
    obtain ⟨-, hbooks⟩ | ⟨hnone, hvenue, hbooks⟩ := ht
    · rw [hvbooks, hbooks, Books.harvested_harvested]
    · -- nothing has changed that decides about the interest leg
      have hprincipal : t.world.storage.principalSupplied = w.storage.principalSupplied :=
        congrArg Books.principal hbooks
      rw [HasInterestLeg, hvenue, hprincipal] at hleg'
      exact absurd hleg' hnone
  · exact ⟨v, hv, hvbooks⟩

/-- The pool has delegated what an unwind of these books would give back to it. -/
def Books.Returnable (b : Books) : Prop :=
  0 < min b.position b.principal → min b.position b.principal ≤ b.delegated

theorem unwind_exact (henv : env.Exact) (hb : w.books.Redeemable)
    (hauth : env.auth w.storage.admin = true) (hcover : w.books.Returnable) :
    ∃ u, emergencyUnwind env (.start w) = .ok ((), u) ∧ u.world.books = w.books.unwound := by
  have hempty : w.handlerUsdc = 0 := hb.empty
  rcases lt_or_ge 0 w.storage.principalSupplied with hp | hp
  · obtain ⟨delivery, hdelivery, hval⟩ := henv.withdraw w.venue hb.position_nonneg hb.position_le
    have hnonneg := delivery.property.1
    have hheld : delivery.val ≤ w.venue.blend.held := by
      rw [hval]
      exact hb.held
    have hcover : 0 < min delivery.val w.storage.principalSupplied →
        min delivery.val w.storage.principalSupplied ≤ w.venue.pool.delegated := by
      rw [hval]
      exact hcover
    have hreturn : CanReturn env ((Session.start w).after (.withdraw w.storage.blendPool
        w.storage.usdc i128Max delivery.val)) w.storage delivery.val := by
      refine ⟨?_, ?_⟩
      · intro hsome
        refine ⟨henv.accepts _ _, hsome.le, ?_, hcover hsome⟩
        show min delivery.val w.storage.principalSupplied ≤ w.handlerUsdc + delivery.val
        omega
      · intro hsome
        refine ⟨henv.accepts _ _, hsome.le, ?_⟩
        rw [handlerUsdc_afterIf]
        · show delivery.val - min delivery.val w.storage.principalSupplied ≤
            w.handlerUsdc + delivery.val + -min delivery.val w.storage.principalSupplied
          omega
        · intro hnone
          show -min delivery.val w.storage.principalSupplied = 0
          omega
    have hbooks := (Performs.returned (s := .start w) (rfl : w.storage = w.storage) hp hnonneg
      rfl).books
    have hclean := congrArg Books.usdc hbooks
    refine ⟨_, emergencyUnwind_eq_ok.mpr ⟨hauth, .inl ⟨hp, _, _, (drain_eq_ok hp).mpr ⟨delivery,
      hdelivery, hheld, hreturn, rfl, rfl⟩, hclean.trans hb.empty, rfl⟩⟩, ?_⟩
    rw [Books.unwound, if_pos (show 0 < w.books.principal from hp)]
    refine hbooks.trans ?_
    rw [hval]
    rfl
  · refine ⟨_, emergencyUnwind_eq_ok.mpr ⟨hauth, .inr ⟨not_lt.mpr hp, hempty, rfl⟩⟩, ?_⟩
    rw [Books.unwound, if_neg (show ¬ 0 < w.books.principal from not_lt.mpr hp)]
    rfl

theorem unwind_exact_inv (henv : env.Exact) (hb : w.books.Redeemable) {u : Session}
    (h : emergencyUnwind env (.start w) = .ok ((), u)) :
    env.auth w.storage.admin = true ∧ w.books.Returnable ∧ u.world.books = w.books.unwound := by
  obtain ⟨hauth, ⟨hp, redeemed, v, hdrain, -, rfl⟩ | ⟨hp, -, rfl⟩⟩ := emergencyUnwind_eq_ok.mp h
  · obtain ⟨delivery, hdelivery, -, hreturn, rfl, hv⟩ := (drain_eq_ok hp).mp hdrain
    obtain ⟨delivery', hdelivery', hval⟩ :=
      henv.withdraw w.venue hb.position_nonneg hb.position_le
    obtain rfl := Option.some.inj (hdelivery.symm.trans hdelivery')
    refine ⟨hauth, ?_, ?_⟩
    · intro hsome
      have hdeposit : 0 < min delivery.val w.storage.principalSupplied := by
        rw [hval]
        exact hsome
      have hcover : min delivery.val w.storage.principalSupplied ≤ w.venue.pool.delegated :=
        (hreturn.1 hdeposit).2.2.2
      rw [hval] at hcover
      exact hcover
    · rw [(Performs.returned (s := .start w) rfl hp delivery.property.1 hv).books, Books.unwound,
        if_pos (show 0 < w.books.principal from hp), hval]
      rfl
  · refine ⟨hauth, ?_, ?_⟩
    · intro hsome
      exact absurd (hsome.trans_le (min_le_right _ _)) hp
    · rw [Books.unwound, if_neg (show ¬ 0 < w.books.principal from hp)]
      rfl

end

/-- With Blend exact and the handler empty, whatever the position is worth: a harvest goes
through, a second one leaves the books as the first did, and an unwind after it goes
through when it would have without it, and leaves the books the same.  Without it, it
goes through when the pool has delegated the principal. -/
theorem harvest_absorbed {env : Env} (henv : env.Exact) {w : World} (hb : w.books.Redeemable) :
    ∃ t, executeHarvestYield env (.start w) = .ok ((), t) ∧
      (∃ v, executeHarvestYield env (.start t.world) = .ok ((), v) ∧
        v.world.books = t.world.books) ∧
      (∀ u, emergencyUnwind env (.start w) = .ok ((), u) →
        ∃ v, emergencyUnwind env (.start t.world) = .ok ((), v) ∧
          v.world.books = u.world.books) ∧
      (env.auth w.storage.admin = true → w.books.principal ≤ w.books.delegated →
        ∃ u, emergencyUnwind env (.start w) = .ok ((), u)) := by
  obtain ⟨t, ht, hbooks⟩ := harvest_exact henv hb
  refine ⟨t, ht, harvest_again henv hb hbooks, ?_, ?_⟩
  · intro u hu
    obtain ⟨hauth, hcover, hunwound⟩ := unwind_exact_inv henv hb hu
    have hadmin : t.world.storage.admin = w.storage.admin := by
      obtain ⟨principal, ts, hst⟩ := executeHarvestYield_storage ht
      rw [hst]
      rfl
    have hafter : t.world.books.Redeemable ∧ t.world.books.Returnable ∧
        t.world.books.unwound = w.books.unwound := by
      obtain ⟨hleg, hbooks⟩ | ⟨-, -, hbooks⟩ := hbooks
      · rw [hbooks]
        refine ⟨hb.harvested hleg.1, ?_, Books.unwound_harvested hleg.1 hb.position_nonneg⟩
        -- what is left in Blend is the smaller of the two
        have hposition : w.books.harvested.position =
            min w.books.position w.books.principal := by
          show w.books.position - w.books.position + min w.books.principal w.books.position = _
          omega
        have hprincipal : w.books.harvested.principal =
            min w.books.position w.books.principal := min_comm _ _
        rw [Books.Returnable, hposition, hprincipal, min_self]
        exact hcover
      · rw [hbooks]
        exact ⟨hb, hcover, rfl⟩
    obtain ⟨v, hv, hvbooks⟩ := unwind_exact (w := t.world) henv hafter.1
      (by rw [hadmin]; exact hauth) hafter.2.1
    exact ⟨v, hv, hvbooks.trans (hafter.2.2.trans hunwound.symm)⟩
  · intro hauth hle
    obtain ⟨u, hu, -⟩ := unwind_exact henv hb hauth fun _ => (min_le_right _ _).trans hle
    exact ⟨u, hu⟩

theorem honestWithdraw_of_nonneg (v : Venue) {x : Int} (hx : 0 ≤ x) :
    ∃ delivery, honestWithdraw v x = some delivery ∧
      delivery.val = min x (max v.blend.position 0) := ⟨_, dif_pos hx, rfl⟩

theorem exact_honest : Env.honest.Exact where
  status _ := ⟨1, rfl⟩
  claim _ := ⟨0, rfl⟩
  withdraw v hnonneg hle := by
    obtain ⟨delivery, hdelivery, hval⟩ := honestWithdraw_of_nonneg v (hnonneg.trans hle)
    refine ⟨delivery, hdelivery, ?_⟩
    rw [hval, max_eq_left hnonneg, min_eq_right hle]
  accepts _ _ := rfl

/-- The sample deployment with 600 in Blend that are worth 650. -/
def earningWorld : World :=
  { sampleWorld with
    storage := sampleStorage.withPrincipal 600
    venue := ⟨⟨400, 600, 5000⟩, ⟨1000, 650⟩⟩ }

theorem harvest_absorbed_earning :
    ∃ t t' u v, executeHarvestYield .honest (.start earningWorld) = .ok ((), t) ∧
      t.world.books = ⟨600, 450, 600, 950, 600, 0⟩ ∧
      executeHarvestYield .honest (.start t.world) = .ok ((), t') ∧
      t'.world.books = t.world.books ∧
      emergencyUnwind .honest (.start earningWorld) = .ok ((), u) ∧
      emergencyUnwind .honest (.start t.world) = .ok ((), v) ∧
      v.world.books = u.world.books ∧ u.world.books = ⟨0, 1050, 0, 350, 0, 0⟩ := by
  have hb : earningWorld.books.Redeemable :=
    ⟨rfl, by decide, by decide, by decide, by decide⟩
  obtain ⟨t, ht, ⟨t', ht', hagain⟩, hunwind, -⟩ := harvest_absorbed exact_honest hb
  obtain ⟨t₀, ht₀, hharvested⟩ : ∃ t₀, executeHarvestYield .honest (.start earningWorld) =
      .ok ((), t₀) ∧ t₀.world.books = ⟨600, 450, 600, 950, 600, 0⟩ := ⟨_, rfl, by decide⟩
  cases ht.symm.trans ht₀
  obtain ⟨u, hu, hbooks⟩ : ∃ u, emergencyUnwind .honest (.start earningWorld) = .ok ((), u) ∧
      u.world.books = ⟨0, 1050, 0, 350, 0, 0⟩ := ⟨_, rfl, by decide⟩
  obtain ⟨v, hv, hsame⟩ := hunwind u hu
  exact ⟨t, t', u, v, ht, hharvested, ht', hagain, hu, hv, hsame, hbooks⟩

end BlendPool.Handler
