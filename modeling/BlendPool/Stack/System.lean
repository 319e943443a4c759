/-
# `BlendPool.Stack.System` — the three contracts on one ledger

The handler calls the verifier it was deployed with, and the verifier asks the
registry, in the ledger of the call.  The stack is the registry and the handler's
world side by side; the verifier keeps nothing of its own.  Everything else the
handler meets is still the environment of the call.

Seen from the registry a run of the stack is a run of the registry: the handler's
actions close ledgers, and otherwise leave it alone (`chain_run`).
-/
import BlendPool.Verification.Quorum
import BlendPool.Handler.Replay

namespace BlendPool.Stack

open Security Verification

/-- What the stack is given from outside, and the verifier's address. -/
structure Setup where
  crypto : Crypto
  deps : Deps
  shared : Handler.Shared
  verifier : Address

structure State where
  registry : Registry
  world : Handler.World

/-- The registry in the ledger of the handler. -/
def State.chain (s : State) : Chain := ⟨s.world.sequence, s.registry⟩

/-- How `try_verify` reports what `verify` did. -/
def reported : Except Rejection Unit → Handler.VerifyOutcome
  | .ok () => .accepted
  | .error (.err e) => .rejected e
  | .error .trap => .trapped

/-- The environment of a call, with the verifier at its address. -/
def connect (S : Setup) (s : State) (env : Handler.Env) : Handler.Env :=
  { env with
    verify := fun address envelope signatures signers referenceBlock =>
      if address = S.verifier then
        reported (verify S.crypto (.of S.deps.hist s.chain) envelope signatures signers
          referenceBlock)
      else env.verify address envelope signatures signers referenceBlock }

inductive Action where
  /-- a call of the registry -/
  | registry (auth : Address → Bool) (entry : Security.EntryPoint)
  /-- a call of the handler, or anything else that happens around it -/
  | handler (a : Handler.Action)

def step (S : Setup) (s : State) : Action → State
  | .registry auth entry =>
      { s with registry := (Security.step S.deps s.chain (.call auth entry)).registry }
  | .handler (.invoke env entry) =>
      { s with world := Handler.step S.shared s.world (.invoke (connect S s env) entry) }
  | .handler a => { s with world := Handler.step S.shared s.world a }

/-- A submission to the handler of the stack that goes through. -/
def Submits (S : Setup) (s : State) (env : Handler.Env) (envelopeBytes : Bytes)
    (sigData : Handler.Ed25519SignatureData) : Prop :=
  ∃ t, Handler.invoke S.shared (connect S s env) s.world (.verifyXlm envelopeBytes sigData) = .ok t

theorem submits_iff {S : Setup} {s : State} {env : Handler.Env} {envelopeBytes : Bytes}
    {sigData : Handler.Ed25519SignatureData} :
    Submits S s env envelopeBytes sigData ↔
      (Handler.invoke S.shared (connect S s env) s.world (.verifyXlm envelopeBytes sigData)).isOk =
        true := by
  rw [Submits]
  cases Handler.invoke S.shared (connect S s env) s.world (.verifyXlm envelopeBytes sigData) with
  | ok t => exact iff_of_true ⟨t, rfl⟩ rfl
  | error e =>
      refine iff_of_false ?_ Bool.false_ne_true
      rintro ⟨t, ht⟩
      cases ht

instance decSubmits (S : Setup) (s : State) (env : Handler.Env) (envelopeBytes : Bytes)
    (sigData : Handler.Ed25519SignatureData) : Decidable (Submits S s env envelopeBytes sigData) :=
  decidable_of_iff' _ submits_iff

/-- The handler was just deployed, with this verifier; the registry has been there
since `c₀` and may have been called. -/
structure Deployed (S : Setup) (c₀ : Chain) (earlier : List Security.Action) (s : State) :
    Prop where
  handler : Handler.Deployed s.world
  registry : Security.Deployed c₀
  since : s.chain = Runs.run (Security.step S.deps) c₀ earlier
  wired : s.world.storage.verificationContract = S.verifier

theorem reported_accepted {r : Except Rejection Unit} (h : reported r = .accepted) :
    r = .ok () := by
  cases r with
  | ok u => rfl
  | error e =>
      cases e with
      | err e => cases h
      | trap => cases h

/-! ## Seen from the registry -/

/-- What an action of the stack is to the registry. -/
def Action.toRegistry : Action → List Security.Action
  | .registry auth entry => [.call auth entry]
  | .handler (.advance _ ledgers) => [.close ledgers]
  | .handler _ => []

theorem sequence_call (D : Deps) (c : Chain) (auth : Address → Bool)
    (entry : Security.EntryPoint) :
    (Security.step D c (.call auth entry)).ledger = c.ledger := by
  rw [Security.step]
  split
  · rfl
  · rfl

theorem chain_step (S : Setup) (s : State) (a : Action) :
    (step S s a).chain = Runs.run (Security.step S.deps) s.chain a.toRegistry := by
  cases a with
  | registry auth entry =>
      have hledger := sequence_call S.deps s.chain auth entry
      show Chain.mk s.world.sequence (Security.step S.deps s.chain (.call auth entry)).registry =
        Security.step S.deps s.chain (.call auth entry)
      rw [← show (Security.step S.deps s.chain (.call auth entry)).ledger = s.world.sequence from
        hledger]
  | handler a =>
      cases a with
      | invoke env entry =>
          -- a call stays in its ledger
          have hsequence : (Handler.step S.shared s.world
              (.invoke (connect S s env) entry)).sequence = s.world.sequence := by
            cases h : Handler.invoke S.shared (connect S s env) s.world entry with
            | ok t =>
                rw [Handler.step_invoke_ok h]
                exact (Handler.invoke_clock h).2
            | error e => rw [Handler.step_invoke_error h]
          show Chain.mk _ s.registry = Chain.mk s.world.sequence s.registry
          rw [← hsequence]
          rfl
      | trade _ _ | accrue _ | writeDown _ | blendHolds _ | send _ | advance _ _ => rfl

/-- A run of the stack is a run of the registry. -/
theorem chain_run (S : Setup) (s : State) (as : List Action) :
    (Runs.run (step S) s as).chain =
      Runs.run (Security.step S.deps) s.chain (as.flatMap Action.toRegistry) :=
  Runs.run_project (step S) (chain_step S) s as

/-! ## The wiring -/

theorem verifier_of_quiet {x : Handler.Exec Unit} (hx : Handler.Quiet x) {s t : Handler.Session}
    (h : x s = .ok ((), t)) :
    t.world.storage.verificationContract = s.world.storage.verificationContract :=
  congrArg (fun st => st.verificationContract) (Handler.settings_of_quiet hx h)

theorem verifier_invoke {P : Handler.Shared} {env : Handler.Env} {w : Handler.World}
    {entry : Handler.EntryPoint} {t : Handler.Session} (h : Handler.invoke P env w entry = .ok t) :
    t.world.storage.verificationContract = w.storage.verificationContract := by
  cases Handler.invoke_done h with
  | submission _ _ hu => exact verifier_of_quiet (Handler.quiet_dispatch env _) hu
  | emergencyUnwind hbody =>
      exact verifier_of_quiet (Handler.quiet_operation env .emergencyUnwind) hbody
  | manualToBlend hbody =>
      exact verifier_of_quiet (Handler.quiet_operation env (.manualToBlend _)) hbody
  | manualFromBlend hbody =>
      exact verifier_of_quiet (Handler.quiet_operation env (.manualFromBlend _)) hbody
  | setting _ hwrote => exact hwrote.verifier

theorem verifier_handlerStep (P : Handler.Shared) (w : Handler.World) (a : Handler.Action) :
    (Handler.step P w a).storage.verificationContract = w.storage.verificationContract := by
  refine Handler.storage_step
    (I := fun st => st.verificationContract = w.storage.verificationContract) rfl ?_
  intro env entry t _ h
  exact verifier_invoke h

theorem wired_run {S : Setup} {s : State} (h : s.world.storage.verificationContract = S.verifier)
    (as : List Action) :
    (Runs.run (step S) s as).world.storage.verificationContract = S.verifier := by
  refine Runs.Invariant.run (step S)
    (I := fun s => s.world.storage.verificationContract = S.verifier) ?_ h as
  intro s a hs
  cases a with
  | registry auth entry => exact hs
  | handler a =>
      cases a with
      | invoke env entry => exact (verifier_handlerStep _ _ _).trans hs
      | trade _ _ | accrue _ | writeDown _ | blendHolds _ | send _ | advance _ _ => exact hs

theorem Submits.verified {S : Setup} {s : State} {env : Handler.Env} {envelopeBytes : Bytes}
    {sigData : Handler.Ed25519SignatureData} (h : Submits S s env envelopeBytes sigData)
    (hwired : s.world.storage.verificationContract = S.verifier) :
    sigData.referenceBlock ≤ s.chain.ledger ∧ s.chain.ledger ≤ sigData.referenceBlock + 200 ∧
      verify S.crypto (.of S.deps.hist s.chain) envelopeBytes sigData.signatures sigData.signers
        sigData.referenceBlock = .ok () := by
  obtain ⟨t, ht⟩ := h
  obtain ⟨id, hadmitted, -⟩ := Handler.verifyXlm_admitted ht
  have hverified := hadmitted.verified
  rw [hwired] at hverified
  have haccepted : reported (verify S.crypto (.of S.deps.hist s.chain) envelopeBytes
      sigData.signatures sigData.signers sigData.referenceBlock) = .accepted :=
    (if_pos rfl).symm.trans hverified
  exact ⟨hadmitted.recent.1, hadmitted.recent.2, reported_accepted haccepted⟩

end BlendPool.Stack
