/-
# `BlendPool.Stack.Retirement` — a removed signer has 200 ledgers left

The submitter chooses the block at which weights are read.  What bounds the choice
is the handler's age limit, and what makes the reading right is the registry's
window; both are 200 ledgers.  So a signer counts in ledger `c` only if it had a
weight in one of the ledgers from `c - 200` to `c`, and a signer removed in ledger
`R` and not added again does not count from `R + 200` on.
-/
import BlendPool.Stack.System

namespace BlendPool.Stack

open Timeline Security Verification

/-! ## A key that is gone -/

/-- From ledger `R` on, the key weighs nothing in any map of the log. -/
def Gone (k : Ed25519PubKey) (R : Nat) (m : Mirrored) : Prop :=
  m.current k = 0 ∧ ∀ b, R ≤ b → valueAt m.log b k = 0

/-- The step does not add the key to the registry. -/
def RegistryKeepsOut (D : Deps) (k : Ed25519PubKey) (c : Chain) : Security.Action → Prop
  | .call auth (.addSigner key weight) =>
      key = k → ∀ r, Security.invoke D auth c (.addSigner key weight) ≠ .ok r
  | _ => True

section

variable {D : Deps} {k : Ed25519PubKey} {R : Nat} {m : Mirrored}

theorem applyTo_gone {entry : Security.EntryPoint} {M : Weights} (hM : M k = 0)
    (hentry : ∀ key weight, entry = .addSigner key weight → key ≠ k) : entry.applyTo M k = 0 := by
  cases entry with
  | addSigner key weight =>
      show M.set key weight k = 0
      rw [Weights.set_apply, if_neg (hentry key weight rfl).symm]
      exact hM
  | removeSigner key =>
      show M.erase key k = 0
      rw [← Weights.set_zero, Weights.set_apply]
      split
      · rfl
      · exact hM
  | setThreshold _ _ | upgrade _ | proposeAdmin _ | acceptAdmin => exact hM

theorem gone_snoc (h : Gone k R m) {e : Entry Weights} (he : e.value k = 0)
    {chain : Chain} {keys : Finset Ed25519PubKey} :
    Gone k R { chain := chain, log := m.log ++ [e], keys := keys } := by
  constructor
  · rw [Mirrored.current, lastValue_snoc]
    exact he
  · intro b hb
    rw [valueAt_snoc]
    split
    · exact he
    · exact h.2 b hb

theorem gone_step {a : Security.Action} (h : Gone k R m)
    (ha : RegistryKeepsOut D k m.chain a) : Gone k R (mirror D m a) := by
  cases a with
  | close n => exact h
  | call auth entry =>
      cases hok : Security.invoke D auth m.chain entry with
      | error e =>
          rw [mirror_call_error hok]
          exact h
      | ok p =>
          obtain ⟨st, ev⟩ := p
          rw [mirror_call_ok hok]
          refine gone_snoc h (applyTo_gone h.1 ?_)
          rintro key weight rfl hkey
          exact ha hkey (st, ev) hok

theorem gone_removed {auth : Address → Bool} {st : Registry} {ev : List Security.Event}
    (h : Security.invoke D auth m.chain (.removeSigner k) = .ok (st, ev)) :
    Gone k m.chain.ledger (mirror D m (.call auth (.removeSigner k))) := by
  have herased : (Security.EntryPoint.removeSigner k).applyTo m.current k = 0 := by
    show m.current.erase k k = 0
    exact Finsupp.erase_same
  rw [mirror_call_ok h]
  constructor
  · rw [Mirrored.current, lastValue_snoc]
    exact herased
  · intro b hb
    rw [valueAt_snoc, if_pos hb]
    exact herased

theorem gone_run {as : List Security.Action} (h : Gone k R m)
    (has : Runs.Along (Security.step D) (RegistryKeepsOut D k) m.chain as) :
    Gone k R (Runs.run (mirror D) m as) := by
  have hmirror : Runs.Along (mirror D) (fun m a => RegistryKeepsOut D k m.chain a) m as :=
    (Runs.along_comap (mirror D) (mirror_chain D)).mpr has
  exact Runs.Along.run (mirror D) (fun _ _ hm ha => gone_step hm ha) h hmirror

end

/-! ## What a listed signer had -/

section

variable {S : Setup} {c₀ : Chain} {earlier : List Security.Action} {s₀ : State}

/-- What the registry did, in a run of the stack. -/
def registryRun (earlier : List Security.Action) (as : List Action) : List Security.Action :=
  earlier ++ as.flatMap Action.toRegistry

theorem Deployed.chain_run (h₀ : Deployed S c₀ earlier s₀) (as : List Action) :
    (Runs.run (step S) s₀ as).chain =
      Runs.run (Security.step S.deps) c₀ (registryRun earlier as) := by
  rw [Stack.chain_run, h₀.since, registryRun, Runs.run_append]

/-- The log of the maps the registry has had. -/
noncomputable def logOf (S : Setup) (c₀ : Chain) (earlier : List Security.Action)
    (as : List Action) : List (Entry Weights) :=
  (Runs.run (mirror S.deps) (.start c₀) (registryRun earlier as)).log

theorem listed_weight (hH : S.deps.hist.Lawful historyCutoff) (h₀ : Deployed S c₀ earlier s₀)
    (as : List Action) {env : Handler.Env} {envelopeBytes : Bytes}
    {sigData : Handler.Ed25519SignatureData}
    (h : Submits S (Runs.run (step S) s₀ as) env envelopeBytes sigData) {k : Ed25519PubKey}
    (hk : k ∈ sigData.signers) :
    valueAt (logOf S c₀ earlier as) sigData.referenceBlock k ≠ 0 := by
  obtain ⟨-, hrecent, hverify⟩ := h.verified (wired_run h₀.wired as)
  rw [h₀.chain_run] at hrecent hverify
  obtain ⟨required, haccepted⟩ := (verify_eq_ok (length_getSignerWeightsAt _ _)).mp hverify
  obtain ⟨⟨sp, tp, ht⟩, -⟩ := tracked_run hH.honest h₀.registry (registryRun earlier as)
  rw [run_mirror_chain] at ht
  have hweight : valueAt (logOf S c₀ earlier as) sigData.referenceBlock k ∈
      (SecurityClient.of S.deps.hist (Runs.run (Security.step S.deps) c₀
        (registryRun earlier as))).getSignerWeightsAt sigData.signers sigData.referenceBlock :=
    List.mem_map.mpr ⟨k, hk, ht.getSignerWeightAt_window hH hrecent k⟩
  exact haccepted.registered _ hweight

/-- A weight in the log at `b` is one the registry had when `b` closed. -/
theorem exists_stoodAt_of_weight {D : Deps} (hH : D.hist.Lawful historyCutoff)
    (h₀ : Security.Deployed c₀) (acts : List Security.Action) {b : Nat} {k : Ed25519PubKey}
    (h : valueAt (Runs.run (mirror D) (.start c₀) acts).log b k ≠ 0) :
    ∃ cb, StoodAt D c₀ acts b cb ∧
      Ed25519Security.getSignerWeight D.hist cb.registry k ≠ 0 := by
  rcases Nat.lt_or_ge b c₀.ledger with hlt | hge
  · -- before the deployment there was nothing
    rw [valueAt_run_later (callsAfter_of_lt D hlt acts)] at h
    exact absurd rfl h
  · obtain ⟨cb, hcb⟩ := exists_stoodAt D acts hge
    refine ⟨cb, hcb, ?_⟩
    rw [← (hcb.valueAt_log hH h₀).1 k]
    exact h

end

/-! ## Runs -/

/-- The step does not add the key to the registry. -/
def KeepsOut (S : Setup) (k : Ed25519PubKey) (s : State) : Action → Prop
  | .registry auth entry => RegistryKeepsOut S.deps k s.chain (.call auth entry)
  | .handler _ => True

theorem keepsOut_toRegistry {S : Setup} {k : Ed25519PubKey} {s : State} {a : Action}
    (h : KeepsOut S k s a) :
    Runs.Along (Security.step S.deps) (RegistryKeepsOut S.deps k) s.chain a.toRegistry := by
  cases a with
  | registry auth entry => exact ⟨h, trivial⟩
  | handler a =>
      cases a with
      | advance secs ledgers => exact ⟨trivial, trivial⟩
      | invoke _ _ | trade _ _ | accrue _ | writeDown _ | blendHolds _ | send _ => exact trivial

theorem gone_after {S : Setup} {c₀ : Chain} {earlier : List Security.Action} {s₀ : State}
    (h₀ : Deployed S c₀ earlier s₀) (before after : List Action) {auth : Address → Bool}
    {k : Ed25519PubKey} :
    let s₁ := Runs.run (step S) s₀ before
    let removal := Action.registry auth (.removeSigner k)
    (∃ r, Security.invoke S.deps auth s₁.chain (.removeSigner k) = .ok r) →
    Runs.Along (step S) (KeepsOut S k) (step S s₁ removal) after →
      ∀ b, s₁.world.sequence ≤ b →
        valueAt (logOf S c₀ earlier (before ++ removal :: after)) b k = 0 := by
  intro s₁ removal hremoved hout
  obtain ⟨⟨st, ev⟩, hremoved⟩ := hremoved
  let m := Runs.run (mirror S.deps) (.start c₀) (registryRun earlier before)
  have hm : m.chain = s₁.chain := (run_mirror_chain _ _ _).trans (h₀.chain_run before).symm
  have hremoved : Security.invoke S.deps auth m.chain (.removeSigner k) = .ok (st, ev) := by
    rw [hm]
    exact hremoved
  have hgone : Gone k m.chain.ledger (mirror S.deps m (.call auth (.removeSigner k))) :=
    gone_removed hremoved
  have hchain : (mirror S.deps m (.call auth (.removeSigner k))).chain =
      (step S s₁ removal).chain := by
    rw [mirror_chain, hm]
    exact (chain_step S s₁ removal).symm
  have hafter : Runs.Along (Security.step S.deps) (RegistryKeepsOut S.deps k)
      (mirror S.deps m (.call auth (.removeSigner k))).chain
      (after.flatMap Action.toRegistry) := by
    rw [hchain]
    exact Runs.Along.project (step S) (chain_step S) (fun _ _ h => keepsOut_toRegistry h) hout
  have hrun : Runs.run (mirror S.deps) (.start c₀)
      (registryRun earlier (before ++ removal :: after)) =
        Runs.run (mirror S.deps) (mirror S.deps m (.call auth (.removeSigner k)))
          (after.flatMap Action.toRegistry) := by
    rw [registryRun, List.flatMap_append, List.flatMap_cons, ← List.append_assoc, Runs.run_append]
    rfl
  intro b hb
  rw [logOf, hrun]
  have hledger : m.chain.ledger = s₁.world.sequence := congrArg Chain.ledger hm
  exact (gone_run hgone hafter).2 b (hledger.trans_le hb)

/-- In every run of registry, verifier and handler together, with the registry's
history exact for 200 ledgers: every signer of a submission that goes through in
ledger `c` had a weight when some block of `[c - 200, c]` closed; and if `k` was
removed in ledger `R` and not added again, a submission that lists `k` goes through
before ledger `R + 200` or not at all. -/
theorem retired_signer (S : Setup) (hH : S.deps.hist.Lawful historyCutoff) {c₀ : Chain}
    {earlier : List Security.Action} {s₀ : State} (h₀ : Deployed S c₀ earlier s₀) :
    (∀ as env envelopeBytes sigData,
      let s := Runs.run (step S) s₀ as
      Submits S s env envelopeBytes sigData → ∀ k ∈ sigData.signers,
        ∃ b cb, s.world.sequence ≤ b + 200 ∧ b ≤ s.world.sequence ∧
          StoodAt S.deps c₀ (registryRun earlier as) b cb ∧
          Ed25519Security.getSignerWeight S.deps.hist cb.registry k ≠ 0) ∧
    (∀ before after auth k env envelopeBytes sigData,
      let s₁ := Runs.run (step S) s₀ before
      let removal := Action.registry auth (.removeSigner k)
      let s := Runs.run (step S) (step S s₁ removal) after
      (∃ r, Security.invoke S.deps auth s₁.chain (.removeSigner k) = .ok r) →
      Runs.Along (step S) (KeepsOut S k) (step S s₁ removal) after →
      Submits S s env envelopeBytes sigData → k ∈ sigData.signers →
        s.world.sequence < s₁.world.sequence + 200) := by
  constructor
  · intro as env envelopeBytes sigData s h k hk
    obtain ⟨hle, hrecent, -⟩ := h.verified (wired_run h₀.wired as)
    obtain ⟨cb, hcb, hweight⟩ :=
      exists_stoodAt_of_weight hH h₀.registry _ (listed_weight hH h₀ as h hk)
    exact ⟨sigData.referenceBlock, cb, hrecent, hle, hcb, hweight⟩
  · intro before after auth k env envelopeBytes sigData s₁ removal s hremoved hout h hk
    have hs : s = Runs.run (step S) s₀ (before ++ removal :: after) :=
      (Runs.run_append (step S) s₀ before (removal :: after)).symm
    rw [hs] at h ⊢
    obtain ⟨-, hrecent, -⟩ := h.verified (wired_run h₀.wired _)
    have hweight := listed_weight hH h₀ _ h hk
    have hblock : sigData.referenceBlock < s₁.world.sequence := by
      refine Nat.lt_of_not_le ?_
      intro hb
      exact hweight (gone_after h₀ before after hremoved hout _ hb)
    exact hrecent.trans_lt (Nat.add_lt_add_right hblock 200)

/-- The reference modules and the sample handler, whose verifier is at address 20. -/
def sampleSetup : Setup := ⟨sampleCrypto, .reference, .sample, 20⟩

/-- Everything deployed in ledger 500. -/
def sampleState : State := ⟨freshChain.registry, Handler.sampleWorld⟩

theorem sampleState_deployed : Deployed sampleSetup sampleState.chain [] sampleState where
  handler := Handler.sampleWorld_deployed
  registry := ⟨1, 4, 5, rfl⟩
  since := rfl
  wired := rfl

/-- Two operators join, and a ledger later the second one is removed. -/
def twoOperators : List Action :=
  [.registry (fun _ => true) (.addSigner (.const 32 1) 1),
    .registry (fun _ => true) (.addSigner (.const 32 2) 1), .handler (.advance 60 1)]

/-- Both sign a rebalance, at the weights of ledger 500. -/
def bothSign : Handler.Ed25519SignatureData :=
  ⟨[.const 64 1, .const 64 2], [.const 32 1, .const 32 2], 500⟩

/-- Ten ledgers after its removal the second operator still counts, which it could
have done for 190 more. -/
theorem retired_signer_sample :
    let s₁ := Runs.run (step sampleSetup) sampleState twoOperators
    let s := Runs.run (step sampleSetup)
      (step sampleSetup s₁ (.registry (fun _ => true) (.removeSigner (.const 32 2))))
      [.handler (.advance 600 10)]
    Submits sampleSetup s .honest (List.replicate 20 7 ++ [0]) bothSign ∧
      s.world.sequence = 511 ∧ s.world.sequence < s₁.world.sequence + 200 := by
  intro s₁ s
  have hsubmits : Submits sampleSetup s .honest (List.replicate 20 7 ++ [0]) bothSign := by
    decide
  exact ⟨hsubmits, rfl,
    (retired_signer sampleSetup (pruning_lawful _) sampleState_deployed).2 twoOperators
      [.handler (.advance 600 10)] (fun _ => true) (.const 32 2) .honest _ bothSign ⟨_, rfl⟩
      ⟨trivial, trivial⟩ hsubmits (by decide)⟩

end BlendPool.Stack
