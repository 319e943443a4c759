/-
# `BlendPool.Stack.Verdict` — a verdict on a closed block stands

What is submitted has been signed before, and the registry can be called in between.
A verdict reads the registry at the block the submission names and nowhere else, except
for the threshold, of which there is only the present one.  So once that block has
closed, the verifier says of a submission what it will say of it as long as the handler
accepts the block: no signer added, removed or weighed anew since then counts for or
against it.

The block has to be closed.  While the ledger is still at `b`, a call can change the
weights at `b` themselves.
-/
import BlendPool.Stack.Retirement

namespace BlendPool.Stack

open Timeline Security Verification

/-- `verify` asks the registry two things. -/
theorem verify_congr {C : Crypto} {A B : SecurityClient} {signerPubkeys : List Ed25519PubKey}
    {referenceBlock : Nat}
    (hweights : A.getSignerWeightsAt signerPubkeys referenceBlock =
      B.getSignerWeightsAt signerPubkeys referenceBlock)
    (hrequired : A.requiredWeightAt referenceBlock = B.requiredWeightAt referenceBlock)
    (envelope : Bytes) (signatures : List Ed25519Signature) :
    verify C A envelope signatures signerPubkeys referenceBlock =
      verify C B envelope signatures signerPubkeys referenceBlock := by
  simp only [verify, hweights, hrequired]

section

variable {S : Setup} {c₀ : Chain} {earlier : List Security.Action} {s₀ : State}

/-- The registry's answers at a closed block, after any run. -/
theorem answers_stand (hH : S.deps.hist.Lawful historyCutoff) (h₀ : Deployed S c₀ earlier s₀)
    (before later : List Action) {b : Nat} :
    let s := Runs.run (step S) s₀ before
    let t := Runs.run (step S) s later
    b < s.chain.ledger → t.chain.ledger ≤ b + historyCutoff →
      (∀ k, getSignerWeightAt S.deps.hist t.chain.ledger t.registry k b =
          getSignerWeightAt S.deps.hist s.chain.ledger s.registry k b) ∧
        getTotalWeightAt S.deps.hist t.chain.ledger t.registry b =
          getTotalWeightAt S.deps.hist s.chain.ledger s.registry b := by
  intro s t hclosed hwindow
  have htracked := tracked_run hH.honest h₀.registry (registryRun earlier before)
  have hs : (Runs.run (mirror S.deps) (.start c₀) (registryRun earlier before)).chain = s.chain :=
    (run_mirror_chain _ _ _).trans (h₀.chain_run before).symm
  have ht : t.chain = Runs.run (Security.step S.deps) s.chain (later.flatMap Action.toRegistry) :=
    chain_run S s later
  have hstable := htracked.window_stable hH b (later.flatMap Action.toRegistry)
    (callsAfter_of_lt _ (hs ▸ hclosed) _)
  rw [hs] at hstable
  dsimp only at hstable
  rw [← ht] at hstable
  exact hstable hwindow

end

/-- In every run of registry, verifier and handler together: once the block that a
submission names has closed, and as long as the handler accepts that block, the verifier's
answer to its signatures stays the same unless the threshold is changed.  So a submission
that could have gone to the handler still can: what can keep it out is a pause, or that
its event has been executed. -/
theorem in_flight (S : Setup) (hH : S.deps.hist.Lawful historyCutoff) {c₀ : Chain}
    {earlier : List Security.Action} {s₀ : State} (h₀ : Deployed S c₀ earlier s₀)
    (before later : List Action) (sigData : Handler.Ed25519SignatureData) :
    let s := Runs.run (step S) s₀ before
    let t := Runs.run (step S) s later
    let verdict := fun (u : State) envelopeBytes => verify S.crypto (.of S.deps.hist u.chain)
      envelopeBytes sigData.signatures sigData.signers sigData.referenceBlock
    sigData.referenceBlock < s.chain.ledger →
    t.chain.ledger ≤ sigData.referenceBlock + Handler.maxReferenceBlockAge →
    t.registry.threshold = s.registry.threshold →
      (∀ envelopeBytes, verdict t envelopeBytes = verdict s envelopeBytes) ∧
      ∀ env env' envelopeBytes id,
        Handler.Admitted S.shared (connect S s env) s.world envelopeBytes sigData id →
        t.world.storage.paused = false → id ∉ t.world.storage.eventSeen →
          Handler.Admitted S.shared (connect S t env') t.world envelopeBytes sigData id := by
  intro s t verdict hclosed hwindow hthreshold
  have hsame : ∀ envelopeBytes, verdict t envelopeBytes = verdict s envelopeBytes := by
    obtain ⟨hweights, htotal⟩ := answers_stand hH h₀ before later hclosed hwindow
    intro envelopeBytes
    refine verify_congr ?_ ?_ envelopeBytes sigData.signatures
    · exact List.map_congr_left fun k _ => hweights k
    · show fraction (getTotalWeightAt S.deps.hist t.chain.ledger t.registry _)
          t.registry.threshold =
        fraction (getTotalWeightAt S.deps.hist s.chain.ledger s.registry _) s.registry.threshold
      rw [htotal, hthreshold]
  refine ⟨hsame, ?_⟩
  intro env env' envelopeBytes id hadmitted hunpaused hunseen
  have hwired : s.world.storage.verificationContract = S.verifier := wired_run h₀.wired before
  have hwired' : t.world.storage.verificationContract = S.verifier := wired_run hwired later
  have hgrown : s.chain.ledger ≤ t.chain.ledger := by
    rw [show t.chain = _ from chain_run S s later]
    exact ledger_le_run S.deps s.chain _
  have hverdict : reported (verdict s envelopeBytes) = .accepted :=
    (if_pos hwired).symm.trans hadmitted.verified
  exact
    { decoded := hadmitted.decoded
      unpaused := hunpaused
      unseen := hunseen
      recent := ⟨hclosed.le.trans hgrown, hwindow⟩
      verified := by
        show (if _ then _ else _) = _
        rw [if_pos hwired']
        exact (congrArg reported (hsame envelopeBytes)).trans hverdict }

/-- Both have signed at ledger 500, and one of them is removed before it is submitted. -/
theorem in_flight_sample :
    let s := Runs.run (step sampleSetup) sampleState twoOperators
    let t := Runs.run (step sampleSetup) s
      [.registry (fun _ => true) (.removeSigner (.const 32 2)), .handler (.advance 600 10)]
    Handler.Admitted sampleSetup.shared (connect sampleSetup t .honest) t.world
      (List.replicate 20 7 ++ [0]) bothSign (.const 20 7) := by
  intro s t
  have hadmitted : Handler.Admitted sampleSetup.shared (connect sampleSetup s .honest) s.world
      (List.replicate 20 7 ++ [0]) bothSign (.const 20 7) :=
    { decoded := rfl
      unpaused := rfl
      unseen := Finset.notMem_empty _
      recent := by decide
      verified := by decide }
  have hclosed : 500 < s.chain.ledger := by decide
  have hwindow : t.chain.ledger ≤ 500 + Handler.maxReferenceBlockAge := by decide
  exact (in_flight sampleSetup (pruning_lawful _) sampleState_deployed twoOperators _ bothSign
    hclosed hwindow rfl).2 .honest .honest _ _ hadmitted rfl (Finset.notMem_empty _)

end BlendPool.Stack
