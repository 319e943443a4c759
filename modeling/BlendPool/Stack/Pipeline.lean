/-
# `BlendPool.Stack.Pipeline` — from a trigger to what the handler executes

The operators see the triggers, run the circuit, and sign the envelopes that its answers
make; whoever collects signatures submits them.  Between the trigger and the execution
there is a network in which anything may be sent by anyone, in any order and any number of
times, by operators that do not follow the protocol too.

    trigger      the framework wakes the operators, under an event id
    sign         an operator that follows the protocol signs what the circuit answered
    stack        anything on the ledger: calls of the registry and of the handler by
                 anyone, trades, the passing of time

Two things are asked of a run.  Nobody signs for an operator that follows the protocol
(`Unforged`), and those that do not follow it do not have the required weight among them
(`Outweighed`).  Then everything the handler executes was asked for by a trigger, once.
-/
import BlendPool.Components.Circuit
import BlendPool.Stack.Retirement
import BlendPool.Verification.Acceptance

namespace BlendPool.Pipeline

open Components Handler Verification

/-- What the pipeline is made of. -/
structure Network where
  setup : Stack.Setup
  wire : Wire
  /-- the envelope as the framework writes it -/
  encodeEnvelope : XlmEnvelope → Bytes
  /-- the keys of the operators that follow the protocol -/
  honest : Finset Ed25519PubKey

/-- What the framework and the two codecs are relied on for. -/
structure Network.Lawful (N : Network) : Prop where
  carries : N.wire.Carries
  envelope : ∀ e, N.setup.shared.decodeEnvelope (N.encodeEnvelope e) = some e
  action : ∀ payload,
    N.setup.shared.decodeAction payload = (N.wire.fromXdr payload).bind RebalanceAction.ofScVal

structure State where
  stack : Stack.State
  /-- the triggers so far, with their event ids -/
  triggers : List (BytesN 20 × TriggerData)
  /-- what the operators that follow the protocol have signed -/
  signed : List (Ed25519PubKey × Bytes)

inductive Action where
  | trigger (id : BytesN 20) (data : TriggerData)
  | sign (key : Ed25519PubKey) (id : BytesN 20) (data : TriggerData)
  | stack (a : Stack.Action)

/-- The envelopes of what the circuit answers to a trigger. -/
def envelopes (N : Network) (id : BytesN 20) (data : TriggerData) : List Bytes :=
  match run N.wire data with
  | .ok responses => responses.map fun r => N.encodeEnvelope ⟨id, r.payload⟩
  | .error _ => []

def step (N : Network) (s : State) : Action → State
  | .trigger id data => { s with triggers := s.triggers ++ [(id, data)] }
  | .sign key id data =>
      if key ∈ N.honest ∧ (id, data) ∈ s.triggers then
        { s with signed := s.signed ++ (envelopes N id data).map fun bytes => (key, bytes) }
      else s
  | .stack a => { s with stack := Stack.step N.setup s.stack a }

/-- Nothing is signed yet, and the handler asks this verifier. -/
structure Initial (N : Network) (s : State) : Prop where
  unsigned : s.signed = []
  wired : s.stack.world.storage.verificationContract = N.setup.verifier

/-! ## What is asked of a run -/

/-- A signature that passes as that of an operator that follows the protocol is one it made. -/
def Unforged (N : Network) (s : State) : Action → Prop
  | .stack (.handler (.invoke _ (.verifyXlm envelopeBytes sigData))) =>
      ∀ x ∈ sigData.signatures.zip sigData.signers, x.2 ∈ N.honest →
        ValidSignature N.setup.crypto (sep053Hash N.setup.crypto envelopeBytes) x.1 x.2 →
          (x.2, envelopeBytes) ∈ s.signed
  | _ => True

/-- The other keys together weigh less than what is required, at the block of a submission
if that is a recent one. -/
def Outweighed (N : Network) (s : State) : Action → Prop
  | .stack (.handler (.invoke _ (.verifyXlm _ sigData))) =>
      let client := SecurityClient.of N.setup.deps.hist s.stack.chain
      s.stack.chain.ledger ≤ sigData.referenceBlock + 200 →
      ∀ keys : List Ed25519PubKey, keys.Nodup → (∀ k ∈ keys, k ∉ N.honest) →
        ∀ required ∈ client.requiredWeightAt sigData.referenceBlock,
          weightSum (client.getSignerWeightsAt keys sigData.referenceBlock) < required.toNat ∨
            required = 0
  | _ => True

/-! ## What is executed -/

/-- The submission a step carries out: its event and its action. -/
def executed (N : Network) (s : State) : Action → List (BytesN 20 × RebalanceAction)
  | .stack (.handler (.invoke env (.verifyXlm envelopeBytes sigData))) =>
      match Handler.invoke N.setup.shared (Stack.connect N.setup s.stack env) s.stack.world
          (.verifyXlm envelopeBytes sigData) with
      | .ok _ =>
          ((N.setup.shared.decodeEnvelope envelopeBytes).bind fun envelope =>
            (N.setup.shared.decodeAction envelope.payload).map fun action =>
              (envelope.eventId, action)).toList
      | .error _ => []
  | _ => []

/-- What the triggers so far ask for. -/
def State.requests (N : Network) (s : State) : List (BytesN 20 × RebalanceAction) :=
  s.triggers.filterMap fun x => (requested N.wire x.2).map fun d => (x.1, d.action)

/-- Every envelope that was signed is for something that was asked for. -/
def Backed (N : Network) (s : State) : Prop :=
  ∀ x ∈ s.signed, ∃ envelope action,
    N.setup.shared.decodeEnvelope x.2 = some envelope ∧
      N.setup.shared.decodeAction envelope.payload = some action ∧
      (envelope.eventId, action) ∈ s.requests N

section

variable {N : Network} {s : State}

theorem mem_requests {id : BytesN 20} {data : TriggerData} {d : Direction}
    (h : (id, data) ∈ s.triggers) (hd : requested N.wire data = some d) :
    (id, d.action) ∈ s.requests N :=
  List.mem_filterMap.mpr ⟨(id, data), h, by rw [hd]; rfl⟩

/-- What the circuit's answer to a trigger is at the handler. -/
theorem envelopes_decode (hN : N.Lawful) {id : BytesN 20} {data : TriggerData} {bytes : Bytes}
    (h : bytes ∈ envelopes N id data) :
    ∃ envelope d, N.setup.shared.decodeEnvelope bytes = some envelope ∧ envelope.eventId = id ∧
      requested N.wire data = some d ∧
      N.setup.shared.decodeAction envelope.payload = some d.action := by
  rw [envelopes] at h
  cases hrun : run N.wire data with
  | error e =>
      rw [hrun] at h
      cases h
  | ok responses =>
      rw [hrun] at h
      obtain ⟨r, hr, rfl⟩ := List.mem_map.mp h
      obtain ⟨-, -, -, d, hd, hread⟩ := run_decodes hN.carries hrun hr
      exact ⟨⟨id, r.payload⟩, d, hN.envelope _, rfl, hd, (hN.action _).trans hread⟩

theorem triggers_step (N : Network) (s : State) (a : Action) :
    s.triggers ⊆ (step N s a).triggers := by
  cases a with
  | trigger id data => exact List.subset_append_left _ _
  | sign key id data =>
      rw [step]
      split
      · exact List.Subset.refl _
      · exact List.Subset.refl _
  | stack a => exact List.Subset.refl _

theorem requests_step (N : Network) (s : State) (a : Action) :
    s.requests N ⊆ (step N s a).requests N :=
  List.filterMap_subset _ (triggers_step N s a)

theorem backed_step (hN : N.Lawful) (h : Backed N s) (a : Action) : Backed N (step N s a) := by
  have hold : ∀ x ∈ s.signed, ∃ envelope action,
      N.setup.shared.decodeEnvelope x.2 = some envelope ∧
        N.setup.shared.decodeAction envelope.payload = some action ∧
        (envelope.eventId, action) ∈ (step N s a).requests N := by
    intro x hx
    obtain ⟨envelope, action, henvelope, haction, hrequest⟩ := h x hx
    exact ⟨envelope, action, henvelope, haction, requests_step N s a hrequest⟩
  cases a with
  | trigger id data => exact hold
  | stack a => exact hold
  | sign key id data =>
      by_cases hsigns : key ∈ N.honest ∧ (id, data) ∈ s.triggers
      · have hstep : step N s (.sign key id data) =
            { s with signed :=
                s.signed ++ (envelopes N id data).map fun bytes => (key, bytes) } := if_pos hsigns
        intro x hx
        rw [hstep, List.mem_append] at hx
        obtain hx | hx := hx
        · exact hold x hx
        · obtain ⟨bytes, hbytes, rfl⟩ := List.mem_map.mp hx
          obtain ⟨envelope, d, henvelope, rfl, hd, haction⟩ := envelopes_decode hN hbytes
          refine ⟨envelope, d.action, henvelope, haction, ?_⟩
          rw [hstep]
          exact mem_requests hsigns.2 hd
      · have hstep : step N s (.sign key id data) = s := if_neg hsigns
        rw [hstep]
        exact h

/-! ## One submission -/

/-- A submission that goes through was signed by an operator that follows the protocol. -/
theorem signed_of_submits {env : Env} {envelopeBytes : Bytes} {sigData : Ed25519SignatureData}
    (hwired : s.stack.world.storage.verificationContract = N.setup.verifier)
    (h : Stack.Submits N.setup s.stack env envelopeBytes sigData)
    (hunforged : Unforged N s (.stack (.handler (.invoke env (.verifyXlm envelopeBytes sigData)))))
    (houtweighed :
      Outweighed N s (.stack (.handler (.invoke env (.verifyXlm envelopeBytes sigData))))) :
    ∃ key ∈ sigData.signers, key ∈ N.honest ∧ (key, envelopeBytes) ∈ s.signed := by
  obtain ⟨-, hrecent, hverify⟩ := h.verified hwired
  obtain ⟨required, haccepted⟩ :=
    (verify_eq_ok (length_getSignerWeightsAt _ _)).mp hverify
  have hsome : ∃ key ∈ sigData.signers, key ∈ N.honest := by
    by_contra hnone
    have hfaulty : ∀ k ∈ sigData.signers, k ∉ N.honest := fun k hk hhonest =>
      hnone ⟨k, hk, hhonest⟩
    obtain hless | hzero := houtweighed hrecent sigData.signers
      (haccepted.ordered.imp ne_of_lt) hfaulty required haccepted.required_eq
    · exact absurd haccepted.enough (Nat.not_le.mpr hless)
    · exact haccepted.required_pos hzero
  obtain ⟨key, hkey, hhonest⟩ := hsome
  obtain ⟨i, hi, rfl⟩ := List.mem_iff_getElem.mp hkey
  have hsig : i < sigData.signatures.length := hi.trans_eq haccepted.sameLength.symm
  have hzip : (sigData.signatures[i], sigData.signers[i]) ∈
      sigData.signatures.zip sigData.signers := by
    rw [List.mem_iff_getElem]
    refine ⟨i, ?_, List.getElem_zip⟩
    rw [List.length_zip]
    exact lt_min hsig hi
  exact ⟨_, hkey, hhonest, hunforged _ hzip hhonest (haccepted.valid _ hzip)⟩

theorem executed_requested (hwired : s.stack.world.storage.verificationContract =
      N.setup.verifier) (hbacked : Backed N s) {a : Action} (hunforged : Unforged N s a)
    (houtweighed : Outweighed N s a) :
    ∀ x ∈ executed N s a, x ∈ (step N s a).requests N := by
  intro x hx
  cases a with
  | trigger id data => cases hx
  | sign key id data => cases hx
  | stack a =>
      cases a with
      | registry auth entry => cases hx
      | handler a =>
          cases a with
          | trade _ _ | accrue _ | writeDown _ | blendHolds _ | send _ | advance _ _ => cases hx
          | invoke env entry =>
              cases entry with
              | verifyXlm envelopeBytes sigData =>
                  rw [executed] at hx
                  cases hcall : Handler.invoke N.setup.shared (Stack.connect N.setup s.stack env)
                      s.stack.world (.verifyXlm envelopeBytes sigData) with
                  | error e =>
                      rw [hcall] at hx
                      cases hx
                  | ok t =>
                      rw [hcall] at hx
                      obtain ⟨key, -, -, hsigned⟩ :=
                        signed_of_submits hwired ⟨t, hcall⟩ hunforged houtweighed
                      obtain ⟨envelope, action, henvelope, haction, hrequest⟩ :=
                        hbacked _ hsigned
                      have hx : x = (envelope.eventId, action) := by
                        simpa [henvelope, haction] using hx
                      rw [hx]
                      exact hrequest
              | _ => cases hx

/-! ## At most once -/

/-- What an action is to the handler, with the verifier at its address. -/
def toHandler (N : Network) (s : State) : Action → Option Handler.Action
  | .stack (.handler (.invoke env entry)) =>
      some (.invoke (Stack.connect N.setup s.stack env) entry)
  | .stack (.handler a) => some a
  | _ => none

/-- The event a step uses up. -/
def fires (N : Network) (s : State) (a : Action) : Option (BytesN 20) :=
  (toHandler N s a).bind (Handler.fires N.setup.shared s.stack.world)

def State.seen (s : State) : Finset (BytesN 20) := s.stack.world.storage.eventSeen

theorem seen_records (N : Network) : Runs.Records (step N) (fires N) State.seen := by
  intro s a
  have hhandler := Handler.eventSeen_records N.setup.shared s.stack.world
  cases a with
  | trigger id data => exact (Finset.union_empty _).symm
  | sign key id data =>
      rw [step]
      split
      · exact (Finset.union_empty _).symm
      · exact (Finset.union_empty _).symm
  | stack a =>
      cases a with
      | registry auth entry => exact (Finset.union_empty _).symm
      | handler a =>
          cases a with
          | invoke env entry => exact hhandler _
          | trade _ _ | accrue _ | writeDown _ | blendHolds _ | send _ | advance _ _ =>
              exact hhandler _

theorem fires_fresh {a : Action} {id : BytesN 20} (h : fires N s a = some id) : id ∉ s.seen := by
  obtain ⟨b, -, hb⟩ := Option.bind_eq_some_iff.mp h
  exact Handler.fires_unseen hb

/-- What is carried out goes by the event it uses up. -/
theorem executed_ids (N : Network) (s : State) (a : Action) :
    (executed N s a).map Prod.fst = (fires N s a).toList := by
  cases a with
  | trigger _ _ | sign _ _ _ => rfl
  | stack a =>
      cases a with
      | registry auth entry => rfl
      | handler a =>
          cases a with
          | trade _ _ | accrue _ | writeDown _ | blendHolds _ | send _ | advance _ _ => rfl
          | invoke env entry =>
              cases entry with
              | verifyXlm envelopeBytes sigData =>
                  rw [executed, fires, toHandler, Option.bind_some]
                  cases hcall : Handler.invoke N.setup.shared (Stack.connect N.setup s.stack env)
                      s.stack.world (.verifyXlm envelopeBytes sigData) with
                  | error e =>
                      rw [fires_of_error hcall]
                      rfl
                  | ok t =>
                      obtain ⟨-, envelope, henvelope, -, -, -, action, haction, -⟩ :=
                        verifyXlm_eq_ok.mp (invoke_eq_ok.mp hcall)
                      rw [fires_of_ok hcall, henvelope]
                      simp [haction]
              | _ => rfl

end

/-! ## Runs -/

/-- The actions a list of executions carried out, of one kind. -/
def count (action : RebalanceAction) (xs : List (BytesN 20 × RebalanceAction)) : Nat :=
  (xs.filter fun x => x.2 = action).length

/-- In every run of the pipeline in which no signature of an operator that follows the
protocol is forged and the others are outweighed: what the handler executes was asked for by a
trigger, under its event id and as the action that the circuit chose for it; no event is
executed twice; and so there are no more executions of either action than triggers that ask
for it. -/
theorem executed_authentic (N : Network) (hN : N.Lawful) {s₀ : State} (h₀ : Initial N s₀)
    (as : List Action) (hunforged : Runs.Along (step N) (Unforged N) s₀ as)
    (houtweighed : Runs.Along (step N) (Outweighed N) s₀ as) :
    let s := Runs.run (step N) s₀ as
    let done := Runs.log (step N) (executed N) s₀ as
    (∀ x ∈ done, x ∈ s.requests N) ∧ (done.map Prod.fst).Nodup ∧
      ∀ action, count action done ≤ count action (s.requests N) := by
  intro s done
  have hasked : ∀ x ∈ done, x ∈ s.requests N := by
    have hsteps : Runs.Along (step N)
        (fun s a => ∀ x ∈ executed N s a, x ∈ (step N s a).requests N) s₀ as := by
      refine Runs.Along.imp (step N)
        (I := fun s => s.stack.world.storage.verificationContract = N.setup.verifier ∧ Backed N s)
        ?_ ⟨h₀.wired, ?_⟩ (Runs.Along.and (step N) hunforged houtweighed)
      · rintro s a ⟨hwired, hbacked⟩ ⟨hun, hout⟩
        refine ⟨⟨?_, backed_step hN hbacked a⟩, executed_requested hwired hbacked hun hout⟩
        cases a with
        | trigger id data => exact hwired
        | sign key id data =>
            rw [step]
            split
            · exact hwired
            · exact hwired
        | stack a => exact Stack.wired_run hwired [a]
      · intro x hx
        rw [h₀.unsigned] at hx
        cases hx
    intro x hx
    exact Runs.Along.mem_log (step N) (Q := fun s x => x ∈ s.requests N)
      (fun s a x hx => requests_step N s a hx) hsteps hx
  have hids : (done.map Prod.fst).Nodup := by
    have hfired : done.map Prod.fst = Runs.fired (step N) (fires N) s₀ as := by
      rw [Runs.map_log, Runs.fired_eq_log, Runs.log_congr (step N) (executed_ids N)]
    rw [hfired]
    exact (Runs.fired_nodup (seen_records N) (fun _ _ _ => fires_fresh) s₀ as).1
  refine ⟨hasked, hids, ?_⟩
  intro action
  have hnodup : (done.filter fun x => x.2 = action).Nodup := (hids.of_map _).filter _
  refine (hnodup.subperm ?_).length_le
  intro x hx
  obtain ⟨hdone, haction⟩ := List.mem_filter.mp hx
  exact List.mem_filter.mpr ⟨hasked x hdone, haction⟩

/-! ## Seen from the stack -/

/-- What the pipeline did, as actions of the stack. -/
def Action.toStack : Action → List Stack.Action
  | .stack a => [a]
  | .trigger _ _ | .sign _ _ _ => []

theorem stack_run (N : Network) (s : State) (as : List Action) :
    (Runs.run (step N) s as).stack =
      Runs.run (Stack.step N.setup) s.stack (as.flatMap Action.toStack) := by
  refine Runs.run_project (step N) (f := State.stack) ?_ s as
  intro s a
  cases a with
  | trigger id data => rfl
  | stack a => rfl
  | sign key id data =>
      rw [step]
      split
      · rfl
      · rfl

theorem weightSum_sort (client : SecurityClient) (keys : Finset Ed25519PubKey) (b : Nat) :
    weightSum ((keys.sort (· ≤ ·)).map fun k => client.getSignerWeightAt k b) =
      ∑ k ∈ keys, (client.getSignerWeightAt k b).toNat := by
  rw [weightSum, List.map_map, ← List.sum_toFinset _ (Finset.sort_nodup keys (· ≤ ·)),
    Finset.sort_toFinset]
  rfl

/-- What the honest operators weigh leaves less than what is required. -/
theorem outweighed_of_honest (N : Network)
    (hH : N.setup.deps.hist.Lawful Security.historyCutoff) {c₀ : Security.Chain}
    {earlier : List Security.Action} {s₀ : State}
    (h₀ : Stack.Deployed N.setup c₀ earlier s₀.stack) (as : List Action) (env : Env)
    (envelopeBytes : Bytes) (sigData : Ed25519SignatureData) :
    let s := Runs.run (step N) s₀ as
    let client := SecurityClient.of N.setup.deps.hist s.stack.chain
    let b := sigData.referenceBlock
    (∀ required ∈ client.requiredWeightAt b,
      (Security.getTotalWeightAt N.setup.deps.hist s.stack.chain.ledger s.stack.chain.registry
        b).toNat < ∑ k ∈ N.honest, (client.getSignerWeightAt k b).toNat + required.toNat) →
    Outweighed N s (.stack (.handler (.invoke env (.verifyXlm envelopeBytes sigData)))) := by
  intro s client b hhonest hrecent keys hnodup hfaulty required hrequired
  have hchain : s.stack.chain = Runs.run (Security.step N.setup.deps) c₀
      (Stack.registryRun earlier (as.flatMap Action.toStack)) := by
    rw [← h₀.chain_run, ← stack_run N s₀ as]
  obtain ⟨M, hM, htotal⟩ := exists_weights (b := b) hH h₀.registry
    (Stack.registryRun earlier (as.flatMap Action.toStack)) (hchain ▸ hrecent)
  rw [← hchain] at hM htotal
  have hall : (keys ++ N.honest.sort (· ≤ ·)).Nodup := by
    refine List.nodup_append.mpr ⟨hnodup, Finset.sort_nodup _ _, ?_⟩
    rintro k hk _ hk' rfl
    exact hfaulty k hk ((Finset.mem_sort _).mp hk')
  have hsum := weightSum_le_total (M := M) hall
  rw [List.map_append, weightSum_append, ← htotal, ← hM, ← hM] at hsum
  have hsorted := weightSum_sort client N.honest b
  have hless := hhonest required hrequired
  refine .inl ?_
  rw [← hsorted] at hless
  have hsame : weightSum (List.map (fun k => client.getSignerWeightAt k b)
      (N.honest.sort (· ≤ ·))) = weightSum (Security.getSignerWeightsAt N.setup.deps.hist
        s.stack.chain.ledger s.stack.chain.registry (N.honest.sort (· ≤ ·)) b) := rfl
  show weightSum (Security.getSignerWeightsAt N.setup.deps.hist s.stack.chain.ledger
    s.stack.chain.registry keys b) < _
  omega

/-! ## A network to compute with -/

/-- The two payloads in XDR: a vector, present, of one symbol. -/
def sampleXdr : Direction → Bytes
  | .rebalance =>
      [0, 0, 0, 16, 0, 0, 0, 1, 0, 0, 0, 1, 0, 0, 0, 15, 0, 0, 0, 9,
        82, 101, 98, 97, 108, 97, 110, 99, 101, 0, 0, 0]
  | .harvestYield =>
      [0, 0, 0, 16, 0, 0, 0, 1, 0, 0, 0, 1, 0, 0, 0, 15, 0, 0, 0, 12,
        72, 97, 114, 118, 101, 115, 116, 89, 105, 101, 108, 100]

/-- The codec on the two payloads, and on the topic `swap` as a symbol or a string. -/
def sampleWire : Wire where
  toXdr
    | .vec (some [.symbol tag]) =>
        if tag = "Rebalance" then some (sampleXdr .rebalance)
        else if tag = "HarvestYield" then some (sampleXdr .harvestYield)
        else none
    | _ => none
  fromXdr bytes :=
    if bytes = sampleXdr .rebalance then some (.vec (some [.symbol "Rebalance"]))
    else if bytes = sampleXdr .harvestYield then some (.vec (some [.symbol "HarvestYield"]))
    else none
  fromXdrBase64 text :=
    if text = "AAAADwAAAARzd2Fw" then some (.symbol "swap")
    else if text = "AAAADgAAAARzd2Fw" then some (.string "swap")
    else none

/-- The sample handler with the sample codec; one operator of two follows the protocol. -/
def sampleNetwork : Network where
  setup :=
    { crypto := sampleCrypto
      deps := .reference
      shared :=
        { decodeEnvelope := fun bytes =>
            if h : 20 ≤ bytes.length then
              some ⟨⟨bytes.take 20, by rw [List.length_take]; omega⟩, bytes.drop 20⟩
            else none
          decodeAction := fun payload =>
            (sampleWire.fromXdr payload).bind RebalanceAction.ofScVal
          admin := .twoStep }
      verifier := 20 }
  wire := sampleWire
  encodeEnvelope e := e.eventId.val ++ e.payload
  honest := {.const 32 1}

theorem sampleNetwork_lawful : sampleNetwork.Lawful where
  carries := by
    intro d
    cases d with
    | rebalance => exact ⟨sampleXdr .rebalance, rfl, rfl⟩
    | harvestYield => exact ⟨sampleXdr .harvestYield, rfl, rfl⟩
  envelope := by
    rintro ⟨⟨id, hid⟩, payload⟩
    have hlength : 20 ≤ (id ++ payload).length := by
      rw [List.length_append]
      omega
    show (if h : 20 ≤ (id ++ payload).length then some _ else none) = _
    rw [dif_pos hlength]
    congr 2
    · exact Subtype.ext (List.take_left' hid)
    · exact List.drop_left' hid
  action _ := rfl

/-- Everything deployed, and nothing triggered. -/
def samplePipeline : State := ⟨Stack.sampleState, [], []⟩

theorem samplePipeline_initial : Initial sampleNetwork samplePipeline := ⟨rfl, rfl⟩

theorem samplePipeline_deployed :
    Stack.Deployed sampleNetwork.setup Stack.sampleState.chain [] samplePipeline.stack where
  handler := Handler.sampleWorld_deployed
  registry := ⟨1, 4, 5, rfl⟩
  since := rfl
  wired := rfl

/-- A swap on the pool. -/
def swapEvent : TriggerData := .stellarContractEvent ["AAAADgAAAARzd2Fw"]

/-- Its envelope, under the event id of sevens. -/
def swapEnvelope : Bytes := List.replicate 20 7 ++ sampleXdr .rebalance

/-- The operators join with weights 4 and 1, and a swap is signed by the first. -/
def swapSigned : List Action :=
  [.stack (.registry (fun _ => true) (.addSigner (.const 32 1) 4)),
    .stack (.registry (fun _ => true) (.addSigner (.const 32 2) 1)),
    .stack (.handler (.advance 60 1)), .trigger (.const 20 7) swapEvent,
    .sign (.const 32 1) (.const 20 7) swapEvent]

/-- The first operator's signature is submitted, and submitted again; the swap is answered
once. -/
theorem executed_authentic_sample :
    let submission := Action.stack (.handler (.invoke .honest (.verifyXlm swapEnvelope
      ⟨[.const 64 1], [.const 32 1], 500⟩)))
    let as := swapSigned ++ [submission, submission]
    let done := Runs.log (step sampleNetwork) (executed sampleNetwork) samplePipeline as
    done = [(.const 20 7, .rebalance)] ∧ count .rebalance done ≤
      count .rebalance ((Runs.run (step sampleNetwork) samplePipeline as).requests
        sampleNetwork) := by
  intro submission as done
  have hunforged : Runs.Along (step sampleNetwork) (Unforged sampleNetwork) samplePipeline as := by
    refine ⟨trivial, trivial, trivial, trivial, trivial, ?_, ?_, trivial⟩
    · intro x hx _ _
      obtain rfl := List.mem_singleton.mp hx
      decide
    · intro x hx _ _
      obtain rfl := List.mem_singleton.mp hx
      decide
  have hfour : ∀ as', (SecurityClient.of sampleNetwork.setup.deps.hist
      (Runs.run (step sampleNetwork) samplePipeline (swapSigned ++ as')).stack.chain
      ).requiredWeightAt 500 = some 4 → (Security.getTotalWeightAt
        sampleNetwork.setup.deps.hist (Runs.run (step sampleNetwork) samplePipeline
          (swapSigned ++ as')).stack.chain.ledger (Runs.run (step sampleNetwork) samplePipeline
          (swapSigned ++ as')).stack.chain.registry 500).toNat <
        ∑ k ∈ sampleNetwork.honest, ((SecurityClient.of sampleNetwork.setup.deps.hist
          (Runs.run (step sampleNetwork) samplePipeline
            (swapSigned ++ as')).stack.chain).getSignerWeightAt k 500).toNat + 4 →
      Outweighed sampleNetwork (Runs.run (step sampleNetwork) samplePipeline (swapSigned ++ as'))
        submission := by
    intro as' hrequired hless
    refine outweighed_of_honest sampleNetwork (Timeline.pruning_lawful _) samplePipeline_deployed
      (swapSigned ++ as') .honest swapEnvelope ⟨[.const 64 1], [.const 32 1], 500⟩ ?_
    intro required hmem
    obtain rfl := Option.some.inj (hrequired.symm.trans hmem)
    exact hless
  have houtweighed :
      Runs.Along (step sampleNetwork) (Outweighed sampleNetwork) samplePipeline as :=
    ⟨trivial, trivial, trivial, trivial, trivial, hfour [] (by decide) (by decide),
      hfour [submission] (by decide) (by decide), trivial⟩
  exact ⟨by decide, (executed_authentic sampleNetwork sampleNetwork_lawful
    samplePipeline_initial as hunforged houtweighed).2.2 .rebalance⟩

end BlendPool.Pipeline
