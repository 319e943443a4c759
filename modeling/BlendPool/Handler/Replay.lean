/-
# `BlendPool.Handler.Replay` — an event is executed at most once

`verify_xlm` looks its event up first and marks it last.  In between anything
may fail, and then nothing is marked because nothing happened; nothing else in
the handler writes the set of seen events.  So the set is a record of the
submissions that went through (`Runs.Records`), and the library's rules for
one-shot keys give the rest.
-/
import BlendPool.Handler.Settings

namespace BlendPool.Handler

/-! ## One submission -/

/-- What a submission of the event `id` passed before it was executed. -/
structure Admitted (P : Shared) (env : Env) (w : World) (envelopeBytes : Bytes)
    (sigData : Ed25519SignatureData) (id : BytesN 20) : Prop where
  decoded : (P.decodeEnvelope envelopeBytes).map XlmEnvelope.eventId = some id
  unpaused : w.storage.paused = false
  unseen : id ∉ w.storage.eventSeen
  recent : sigData.referenceBlock ≤ w.sequence ∧ w.sequence ≤ sigData.referenceBlock + 200
  verified : env.verify w.storage.verificationContract envelopeBytes sigData.signatures
    sigData.signers sigData.referenceBlock = .accepted

theorem eventSeen_of_quiet {x : Exec Unit} (hx : Quiet x) {s t : Session}
    (h : x s = .ok ((), t)) : t.world.storage.eventSeen = s.world.storage.eventSeen :=
  congrArg (fun st => st.eventSeen) (settings_of_quiet hx h)

theorem verifyXlm_admitted {P : Shared} {env : Env} {w : World} {envelopeBytes : Bytes}
    {sigData : Ed25519SignatureData} {t : Session}
    (h : invoke P env w (.verifyXlm envelopeBytes sigData) = .ok t) :
    ∃ id, Admitted P env w envelopeBytes sigData id ∧
      t.world.storage.eventSeen = insert id w.storage.eventSeen := by
  obtain ⟨hpaused, envelope, hdecoded, hunseen, ⟨hle, hage⟩, hverified, action, -, u, hu, rfl⟩ :=
    verifyXlm_eq_ok.mp (invoke_eq_ok.mp h)
  refine ⟨envelope.eventId, ?_, ?_⟩
  · exact
      { decoded := by rw [hdecoded]; rfl
        unpaused := hpaused
        unseen := hunseen
        recent := ⟨hle, Nat.sub_le_iff_le_add'.mp hage⟩
        verified := hverified }
  · exact congrArg (insert envelope.eventId) (eventSeen_of_quiet (quiet_dispatch env action) hu)

/-- A submission of the event `id` with which all is well, the event's history apart. -/
structure ValidSubmission (P : Shared) (env : Env) (w : World) (envelopeBytes : Bytes)
    (sigData : Ed25519SignatureData) (id : BytesN 20) : Prop where
  unpaused : w.storage.paused = false
  recent : sigData.referenceBlock ≤ w.sequence ∧ w.sequence ≤ sigData.referenceBlock + 200
  verified : env.verify w.storage.verificationContract envelopeBytes sigData.signatures
    sigData.signers sigData.referenceBlock = .accepted
  executes : ∃ envelope action u, P.decodeEnvelope envelopeBytes = some envelope ∧
    envelope.eventId = id ∧ P.decodeAction envelope.payload = some action ∧
    dispatch env action (.start w) = .ok ((), u)

/-- Which submissions go through. -/
theorem verifyXlm_succeeds_iff {P : Shared} {env : Env} {w : World} {envelopeBytes : Bytes}
    {sigData : Ed25519SignatureData} :
    (∃ t, invoke P env w (.verifyXlm envelopeBytes sigData) = .ok t) ↔
      ∃ id, ValidSubmission P env w envelopeBytes sigData id ∧ id ∉ w.storage.eventSeen := by
  constructor
  · rintro ⟨t, h⟩
    obtain ⟨hpaused, envelope, hdecoded, hunseen, ⟨hle, hage⟩, hverified, action, haction, u, hu,
      -⟩ := verifyXlm_eq_ok.mp (invoke_eq_ok.mp h)
    refine ⟨envelope.eventId, ?_, hunseen⟩
    exact
      { unpaused := hpaused
        recent := ⟨hle, Nat.sub_le_iff_le_add'.mp hage⟩
        verified := hverified
        executes := ⟨envelope, action, u, hdecoded, rfl, haction, hu⟩ }
  · rintro ⟨id, h, hunseen⟩
    obtain ⟨envelope, action, u, hdecoded, rfl, haction, hu⟩ := h.executes
    have hrecent : sigData.referenceBlock ≤ w.sequence ∧
        w.sequence - sigData.referenceBlock ≤ maxReferenceBlockAge :=
      ⟨h.recent.1, Nat.sub_le_iff_le_add'.mpr h.recent.2⟩
    refine ⟨(u.update (·.markSeen envelope.eventId)).emit (.verified envelope.eventId), ?_⟩
    exact invoke_eq_ok.mpr (verifyXlm_eq_ok.mpr ⟨h.unpaused, envelope, hdecoded, hunseen, hrecent,
      h.verified, action, haction, u, hu, rfl⟩)

theorem eventSeen_other {P : Shared} {env : Env} {w : World} {entry : EntryPoint} {t : Session}
    (h : invoke P env w entry = .ok t)
    (hother : ∀ envelopeBytes sigData, entry ≠ .verifyXlm envelopeBytes sigData) :
    t.world.storage.eventSeen = w.storage.eventSeen := by
  cases invoke_done h with
  | submission _ _ _ => exact absurd rfl (hother _ _)
  | emergencyUnwind hbody => exact eventSeen_of_quiet (quiet_operation env .emergencyUnwind) hbody
  | manualToBlend hbody => exact eventSeen_of_quiet (quiet_operation env (.manualToBlend _)) hbody
  | manualFromBlend hbody =>
      exact eventSeen_of_quiet (quiet_operation env (.manualFromBlend _)) hbody
  | setting _ hwrote => exact hwrote.seen

/-! ## Runs -/

/-- The event a step executes: that of a submission that goes through. -/
def fires (P : Shared) (w : World) : Action → Option (BytesN 20)
  | .invoke env (.verifyXlm envelopeBytes sigData) =>
      match invoke P env w (.verifyXlm envelopeBytes sigData) with
      | .ok _ => (P.decodeEnvelope envelopeBytes).map XlmEnvelope.eventId
      | .error _ => none
  | _ => none

theorem fires_of_ok {P : Shared} {env : Env} {w : World} {envelopeBytes : Bytes}
    {sigData : Ed25519SignatureData} {t : Session}
    (h : invoke P env w (.verifyXlm envelopeBytes sigData) = .ok t) :
    fires P w (.invoke env (.verifyXlm envelopeBytes sigData)) =
      (P.decodeEnvelope envelopeBytes).map XlmEnvelope.eventId := by
  rw [fires, h]

theorem fires_of_error {P : Shared} {env : Env} {w : World} {entry : EntryPoint} {e : Failure}
    (h : invoke P env w entry = .error e) : fires P w (.invoke env entry) = none := by
  cases entry with
  | verifyXlm envelopeBytes sigData => rw [fires, h]
  | _ => rfl

/-- Whether a step is a submission of an event not seen before. -/
theorem fires_unseen {P : Shared} {w : World} {a : Action} {id : BytesN 20}
    (h : fires P w a = some id) : id ∉ w.storage.eventSeen := by
  cases a with
  | invoke env entry =>
      cases entry with
      | verifyXlm envelopeBytes sigData =>
          cases hcall : invoke P env w (.verifyXlm envelopeBytes sigData) with
          | ok t =>
              obtain ⟨id', hadmitted, -⟩ := verifyXlm_admitted hcall
              rw [fires_of_ok hcall, hadmitted.decoded] at h
              cases h
              exact hadmitted.unseen
          | error e =>
              rw [fires_of_error hcall] at h
              cases h
      | _ => cases h
  | _ => cases h

/-- The set of seen events records what fired, step by step. -/
theorem eventSeen_records (P : Shared) :
    Runs.Records (step P) (fires P) fun w => w.storage.eventSeen := by
  intro w a
  cases a with
  | invoke env entry =>
      cases hcall : invoke P env w entry with
      | error e =>
          rw [step_invoke_error hcall, fires_of_error hcall]
          exact (Finset.union_empty _).symm
      | ok t =>
          rw [step_invoke_ok hcall]
          cases entry with
          | verifyXlm envelopeBytes sigData =>
              obtain ⟨id, hadmitted, hseen⟩ := verifyXlm_admitted hcall
              show t.world.storage.eventSeen = w.storage.eventSeen ∪ _
              rw [hseen, fires_of_ok hcall, hadmitted.decoded, Finset.union_comm]
              rfl
          | _ => exact (eventSeen_other hcall nofun).trans (Finset.union_empty _).symm
  | _ => exact (Finset.union_empty _).symm

/-- What holds of each call of a run: one that fails changes nothing, and a
submission that succeeds was admitted and counts as a firing of its event. -/
def Guarded (P : Shared) (w : World) : Action → Prop
  | .invoke env entry =>
      (∀ e, invoke P env w entry = .error e → step P w (.invoke env entry) = w) ∧
        ∀ envelopeBytes sigData t, entry = .verifyXlm envelopeBytes sigData →
          invoke P env w entry = .ok t →
            ∃ id, fires P w (.invoke env entry) = some id ∧
              Admitted P env w envelopeBytes sigData id
  | _ => True

theorem guarded (P : Shared) (w : World) (a : Action) : Guarded P w a := by
  cases a with
  | invoke env entry =>
      constructor
      · intro e h
        exact step_invoke_error h
      · rintro envelopeBytes sigData t rfl h
        obtain ⟨id, hadmitted, -⟩ := verifyXlm_admitted h
        exact ⟨id, (fires_of_ok h).trans hadmitted.decoded, hadmitted⟩
  | _ => exact trivial

/-- Along every run: no event is executed twice or again, the seen events are the
old ones and the executed ones, and every call is guarded.  After it a submission goes
through exactly if it is valid and its event has not been executed, however often it
was submitted in vain. -/
theorem at_most_once (P : Shared) (w : World) (as : List Action) :
    let executed := Runs.fired (step P) (fires P) w as
    let v := Runs.run (step P) w as
    executed.Nodup ∧ (∀ id ∈ executed, id ∉ w.storage.eventSeen) ∧
      v.storage.eventSeen = w.storage.eventSeen ∪ executed.toFinset ∧
      Runs.Along (step P) (Guarded P) w as ∧
      ∀ env envelopeBytes sigData,
        (∃ t, invoke P env v (.verifyXlm envelopeBytes sigData) = .ok t) ↔
          ∃ id, ValidSubmission P env v envelopeBytes sigData id ∧
            id ∉ w.storage.eventSeen ∧ id ∉ executed := by
  intro executed v
  obtain ⟨hnodup, hfresh⟩ := Runs.fired_nodup (eventSeen_records P) (fun _ _ _ => fires_unseen) w as
  have hseen : v.storage.eventSeen = w.storage.eventSeen ∪ executed.toFinset :=
    Runs.seen_run (eventSeen_records P) w as
  have hguarded : Runs.Along (step P) (Guarded P) w as :=
    Runs.Along.of_invariant (step P) (I := fun _ => True) (fun _ _ _ => trivial)
      (fun s a _ => guarded P s a) trivial as
  refine ⟨hnodup, hfresh, hseen, hguarded, ?_⟩
  intro env envelopeBytes sigData
  rw [verifyXlm_succeeds_iff]
  refine exists_congr fun id => and_congr_right fun _ => ?_
  rw [hseen, Finset.mem_union, List.mem_toFinset, not_or]

/-- Submitted during a pause in vain, and again after it. -/
theorem at_most_once_retry :
    let submission : EntryPoint := .verifyXlm (List.replicate 20 7 ++ [0]) ⟨[], [], 500⟩
    let v := Runs.run (step .sample) sampleWorld
      [.invoke .honest .pause, .invoke .honest submission, .invoke .honest .unpause]
    ∃ t, invoke .sample .honest v submission = .ok t := by
  intro submission v
  obtain ⟨-, -, -, -, hretry⟩ := at_most_once .sample sampleWorld
    [.invoke .honest .pause, .invoke .honest submission, .invoke .honest .unpause]
  have hv : v = sampleWorld := rfl
  obtain ⟨u, hu⟩ : ∃ u, dispatch .honest .rebalance (.start sampleWorld) = .ok ((), u) := ⟨_, rfl⟩
  refine (hretry .honest _ _).mpr ⟨.const 20 7, ?_, Finset.notMem_empty _, by decide⟩
  exact
    { unpaused := rfl
      recent := by decide
      verified := rfl
      executes := ⟨⟨.const 20 7, [0]⟩, .rebalance, u, rfl, rfl, rfl, hv ▸ hu⟩ }

end BlendPool.Handler
