/-
# `BlendPool.Security.Refine` — every run of the registry is a run of the map

The calls of the contract are inverted once, one lemma per kind of call; after
that no proof looks inside an entry point.  `mirror` runs the contract beside
its specification: each committed call appends to the log the map it leaves,
`EntryPoint.applyTo`, and the log is read at any ledger as the map of that
ledger.  `Tracked` — the stored registry `Tracks` the log — holds of every run,
and what the queries answer follows from it.
-/
import BlendPool.Security.Model

namespace BlendPool.Security

open Bounded Timeline

/-! ## What a committed call did -/

@[simp] theorem getRegistry_bind {β : Type} (f : Registry → Call β) (s : Session) :
    (getRegistry >>= f) s = f s.registry s := rfl

@[simp] theorem setRegistry_bind {β : Type} (st : Registry) (f : Unit → Call β) (s : Session) :
    (setRegistry st >>= f) s = f () { s with registry := st } := rfl

@[simp] theorem setRegistry_run (st : Registry) (s : Session) :
    setRegistry st s = .ok ((), { s with registry := st }) := rfl

@[simp] theorem publish_run (e : Event) (s : Session) :
    publish e s = .ok ((), { s with events := s.events ++ [e] }) := rfl

theorem requireAdmin_bind_eq_ok {β : Type} {auth : Address → Bool} {f : Unit → Call β}
    {s : Session} {r : β × Session} :
    (requireAdmin auth >>= f) s = .ok r ↔ auth s.registry.admin = true ∧ f () s = .ok r := by
  show ((getRegistry >>= fun st => Txn.ensure (auth st.admin = true) .unauthorized) >>= f) s = _ ↔ _
  rw [bind_assoc, getRegistry_bind, Txn.ensure_bind_eq_ok]

section Invoke

variable {D : Deps} {auth : Address → Bool} {c : Chain} {st : Registry} {ev : List Event}

theorem invoke_eq_ok {entry : EntryPoint} :
    invoke D auth c entry = .ok (st, ev) ↔
      entry.body D auth c.ledger ⟨c.registry, []⟩ = .ok ((), ⟨st, ev⟩) := by
  rw [invoke]
  cases entry.body D auth c.ledger ⟨c.registry, []⟩ with
  | error e => simp
  | ok p => obtain ⟨⟨⟩, s⟩ := p; cases s; simp

/-- The outcomes of `add_signer`, in the order its checks are made. -/
theorem invoke_addSigner_eq (key : Ed25519PubKey) (weight : UInt64) :
    invoke D auth c (.addSigner key weight) =
      if auth c.registry.admin = true then
        if weight = 0 then .error (.err .zeroWeight)
        else match addSigner D.hist c.ledger c.registry key weight with
          | some st => .ok (st, [.ed25519SignerAdded key weight])
          | none => .error .trap
      else .error .unauthorized := by
  simp only [invoke, EntryPoint.body, Ed25519Security.addSigner, requireAdmin, bind_assoc,
    getRegistry_bind, Txn.ensure]
  by_cases hauth : auth c.registry.admin = true
  · by_cases hw : weight = 0
    · simp [hauth, hw]
    · cases hadd : addSigner D.hist c.ledger c.registry key weight with
      | none => simp [hauth, hw, hadd, Txn.orAbort_none_bind_run]
      | some st => simp [hauth, hw, hadd]
  · simp [hauth]

theorem invoke_removeSigner_eq (key : Ed25519PubKey) :
    invoke D auth c (.removeSigner key) =
      if auth c.registry.admin = true then
        match removeSigner D.hist c.ledger c.registry key with
        | some st => .ok (st, [.ed25519SignerRemoved key])
        | none => .error .trap
      else .error .unauthorized := by
  simp only [invoke, EntryPoint.body, Ed25519Security.removeSigner, requireAdmin, bind_assoc,
    getRegistry_bind, Txn.ensure]
  by_cases hauth : auth c.registry.admin = true
  · cases hrem : removeSigner D.hist c.ledger c.registry key with
    | none => simp [hauth, hrem, Txn.orAbort_none_bind_run]
    | some st => simp [hauth, hrem]
  · simp [hauth]

theorem invoke_addSigner {key : Ed25519PubKey} {weight : UInt64}
    (h : invoke D auth c (.addSigner key weight) = .ok (st, ev)) :
    auth c.registry.admin = true ∧ weight ≠ 0 ∧
      addSigner D.hist c.ledger c.registry key weight = some st ∧
      ev = [.ed25519SignerAdded key weight] := by
  rw [invoke_addSigner_eq] at h
  split at h
  · next hauth =>
      split at h
      · cases h
      · next hw =>
          cases hadd : addSigner D.hist c.ledger c.registry key weight with
          | none => rw [hadd] at h; cases h
          | some st' => rw [hadd] at h; cases h; exact ⟨hauth, hw, rfl, rfl⟩
  · cases h

theorem invoke_removeSigner {key : Ed25519PubKey}
    (h : invoke D auth c (.removeSigner key) = .ok (st, ev)) :
    auth c.registry.admin = true ∧ removeSigner D.hist c.ledger c.registry key = some st ∧
      ev = [.ed25519SignerRemoved key] := by
  rw [invoke_removeSigner_eq] at h
  split at h
  · next hauth =>
      cases hrem : removeSigner D.hist c.ledger c.registry key with
      | none => rw [hrem] at h; cases h
      | some st' => rw [hrem] at h; cases h; exact ⟨hauth, rfl, rfl⟩
  · cases h

theorem invoke_setThreshold {numerator denominator : UInt64}
    (h : invoke D auth c (.setThreshold numerator denominator) = .ok (st, ev)) :
    ∃ t, checkThreshold numerator denominator = .ok t ∧
      st = { c.registry with threshold := t } := by
  have hbody := invoke_eq_ok.mp h
  simp only [EntryPoint.body, Ed25519Security.setThreshold, requireAdmin_bind_eq_ok,
    getRegistry_bind, Txn.lift_bind_eq_ok, setRegistry_bind, publish_run] at hbody
  obtain ⟨-, t, ht, hend⟩ := hbody
  cases hend
  refine ⟨t, ?_, rfl⟩
  cases hc : checkThreshold numerator denominator with
  | error e => rw [hc] at ht; cases ht
  | ok t' => rw [hc] at ht; cases ht; rfl

theorem invoke_upgrade {newVersion : String}
    (h : invoke D auth c (.upgrade newVersion) = .ok (st, ev)) :
    st = { c.registry with version := newVersion } := by
  have hbody := invoke_eq_ok.mp h
  simp only [EntryPoint.body, Ed25519Security.upgrade, requireAdmin_bind_eq_ok,
    getRegistry_bind, setRegistry_bind, publish_run] at hbody
  obtain ⟨-, hend⟩ := hbody
  cases hend
  rfl

theorem invoke_proposeAdmin {newAdmin : Address}
    (h : invoke D auth c (.proposeAdmin newAdmin) = .ok (st, ev)) :
    ∃ pending, st = { c.registry with pendingAdmin := pending } := by
  have hbody := invoke_eq_ok.mp h
  simp only [EntryPoint.body, Ed25519Security.proposeAdmin, getRegistry_bind,
    Txn.orAbort_bind_eq_ok, setRegistry_run] at hbody
  obtain ⟨pending, -, hend⟩ := hbody
  cases hend
  exact ⟨pending, rfl⟩

theorem invoke_acceptAdmin (h : invoke D auth c .acceptAdmin = .ok (st, ev)) :
    ∃ admin pending, st = { c.registry with admin := admin, pendingAdmin := pending } := by
  have hbody := invoke_eq_ok.mp h
  simp only [EntryPoint.body, Ed25519Security.acceptAdmin, getRegistry_bind,
    Txn.orAbort_bind_eq_ok, setRegistry_run] at hbody
  obtain ⟨accepted, -, hend⟩ := hbody
  cases hend
  exact ⟨accepted.1, accepted.2, rfl⟩

theorem constructor_ok {admin : Address} {numerator denominator : UInt64}
    (h : constructor admin numerator denominator = .ok st) :
    ∃ t, checkThreshold numerator denominator = .ok t ∧
      st = { admin := admin, pendingAdmin := none, version := "0.1.0", threshold := t,
             allSigners := [], signerWeightHist := fun _ => [], totalWeightHist := [] } := by
  cases hc : checkThreshold numerator denominator with
  | error e => rw [constructor, hc] at h; cases h
  | ok t => rw [constructor, hc] at h; cases h; exact ⟨t, rfl, rfl⟩

/-- The calls that do not touch what the registry knows about signers. -/
def EntryPoint.IsSetting : EntryPoint → Prop
  | .addSigner _ _ | .removeSigner _ => False
  | .setThreshold _ _ | .upgrade _ | .proposeAdmin _ | .acceptAdmin => True

/-- The same keys and the same timelines. -/
def SameSigners (st st' : Registry) : Prop :=
  st'.allSigners = st.allSigners ∧ st'.signerWeightHist = st.signerWeightHist ∧
    st'.totalWeightHist = st.totalWeightHist

theorem invoke_setting {entry : EntryPoint} (hs : entry.IsSetting)
    (h : invoke D auth c entry = .ok (st, ev)) : SameSigners c.registry st := by
  cases entry with
  | addSigner key weight => exact hs.elim
  | removeSigner key => exact hs.elim
  | setThreshold numerator denominator =>
      obtain ⟨t, -, rfl⟩ := invoke_setThreshold h
      exact ⟨rfl, rfl, rfl⟩
  | upgrade newVersion => rw [invoke_upgrade h]; exact ⟨rfl, rfl, rfl⟩
  | proposeAdmin newAdmin =>
      obtain ⟨pending, rfl⟩ := invoke_proposeAdmin h
      exact ⟨rfl, rfl, rfl⟩
  | acceptAdmin =>
      obtain ⟨admin, pending, rfl⟩ := invoke_acceptAdmin h
      exact ⟨rfl, rfl, rfl⟩

/-- The threshold only ever changes to one that passed the checks. -/
theorem invoke_threshold {entry : EntryPoint} (h : invoke D auth c entry = .ok (st, ev)) :
    st.threshold = c.registry.threshold ∨
      ∃ numerator denominator, checkThreshold numerator denominator = .ok st.threshold := by
  cases entry with
  | addSigner key weight =>
      obtain ⟨-, -, hadd, -⟩ := invoke_addSigner h
      exact .inl (addSigner_threshold D.hist hadd)
  | removeSigner key =>
      obtain ⟨-, hrem, -⟩ := invoke_removeSigner h
      exact .inl (removeSigner_threshold D.hist hrem)
  | setThreshold numerator denominator =>
      obtain ⟨t, ht, rfl⟩ := invoke_setThreshold h
      exact .inr ⟨numerator, denominator, ht⟩
  | upgrade newVersion => rw [invoke_upgrade h]; exact .inl rfl
  | proposeAdmin newAdmin =>
      obtain ⟨pending, rfl⟩ := invoke_proposeAdmin h
      exact .inl rfl
  | acceptAdmin =>
      obtain ⟨admin, pending, rfl⟩ := invoke_acceptAdmin h
      exact .inl rfl

end Invoke

/-! ## The contract beside its specification -/

/-- What a committed call does to the map. -/
noncomputable def EntryPoint.applyTo (M : Weights) : EntryPoint → Weights
  | .addSigner key weight => M.set key weight
  | .removeSigner key => M.erase key
  | _ => M

/-- The keys a committed call registers. -/
def EntryPoint.registers : EntryPoint → Finset Ed25519PubKey
  | .addSigner key _ => {key}
  | _ => ∅

/-- The contract, the maps it has had, and every key it ever registered. -/
structure Mirrored where
  chain : Chain
  log : List (Entry Weights)
  keys : Finset Ed25519PubKey

/-- The map now. -/
noncomputable def Mirrored.current (m : Mirrored) : Weights := lastValue m.log

def Mirrored.start (c : Chain) : Mirrored := ⟨c, [], ∅⟩

noncomputable def mirror (D : Deps) (m : Mirrored) : Action → Mirrored
  | .close n => { m with chain := step D m.chain (.close n) }
  | .call auth entry =>
      match invoke D auth m.chain entry with
      | .ok (st, _) =>
          { chain := { m.chain with registry := st }
            log := m.log ++ [⟨m.chain.ledger, entry.applyTo m.current⟩]
            keys := entry.registers ∪ m.keys }
      | .error _ => m

theorem mirror_call_ok {D : Deps} {m : Mirrored} {auth : Address → Bool} {entry : EntryPoint}
    {st : Registry} {ev : List Event} (h : invoke D auth m.chain entry = .ok (st, ev)) :
    mirror D m (.call auth entry) =
      { chain := { m.chain with registry := st }
        log := m.log ++ [⟨m.chain.ledger, entry.applyTo m.current⟩]
        keys := entry.registers ∪ m.keys } := by
  simp [mirror, h]

theorem mirror_call_error {D : Deps} {m : Mirrored} {auth : Address → Bool} {entry : EntryPoint}
    {e : Abort} (h : invoke D auth m.chain entry = .error e) :
    mirror D m (.call auth entry) = m := by
  simp [mirror, h]

/-- The mirror does not disturb what it mirrors. -/
theorem mirror_chain (D : Deps) (m : Mirrored) (a : Action) :
    (mirror D m a).chain = step D m.chain a := by
  cases a with
  | close n => rfl
  | call auth entry =>
      cases h : invoke D auth m.chain entry with
      | error e => rw [mirror_call_error h]; simp [step, h]
      | ok p => obtain ⟨st, ev⟩ := p; rw [mirror_call_ok h]; simp [step, h]

theorem run_mirror_chain (D : Deps) (m : Mirrored) (as : List Action) :
    (Runs.run (mirror D) m as).chain = Runs.run (step D) m.chain as := by
  induction as generalizing m with
  | nil => rfl
  | cons a as ih => rw [Runs.run_cons, ih, mirror_chain, Runs.run_cons]

/-! ## The invariant -/

/-- The stored registry tracks the log, and `keys` covers every map in it. -/
structure Tracked (D : Deps) (m : Mirrored) : Prop where
  tracks : ∃ sp tp, Tracks D.hist m.chain.ledger m.chain.registry m.log sp tp
  covered : ∀ p ∈ m.log, p.value.support ⊆ m.keys

/-- Writing the map that is already there is not visible. -/
theorem Tracks.stutter {H : History UInt64} {now : Nat} {st : Registry} {log : List (Entry Weights)}
    {sp : Ed25519PubKey → List (Entry UInt64)} {tp : List (Entry UInt64)}
    (h : Tracks H now st log sp tp) :
    Tracks H now st (log ++ [⟨now, lastValue log⟩]) sp tp := by
  have hat : ∀ b, valueAt (log ++ [⟨now, lastValue log⟩]) b = valueAt log b := by
    intro b
    rw [valueAt_snoc]
    split
    · next hb => exact (valueAt_eq_lastValue fun p hp => (h.log_past p hp).trans hb).symm
    · rfl
  exact
    { h with
      log_past := past_snoc h.log_past
      signer_at := fun k b => by rw [hat]; exact h.signer_at k b
      total_at := fun b => by rw [hat]; exact h.total_at b
      mem_allSigners := fun k => by rw [lastValue_snoc]; exact h.mem_allSigners k }

theorem Tracks.same {H : History UInt64} {now : Nat} {st st' : Registry}
    {log : List (Entry Weights)} {sp : Ed25519PubKey → List (Entry UInt64)}
    {tp : List (Entry UInt64)}
    (h : Tracks H now st log sp tp) (hs : SameSigners st st') : Tracks H now st' log sp tp := by
  obtain ⟨hall, hsigner, htotal⟩ := hs
  exact
    { h with
      signer := fun k => by rw [hsigner]; exact h.signer k
      total := htotal.trans h.total
      ascending := hall ▸ h.ascending
      mem_allSigners := fun k => by rw [hall]; exact h.mem_allSigners k }

theorem tracked_start (D : Deps) {c : Chain} (h : Deployed c) : Tracked D (.start c) := by
  obtain ⟨admin, numerator, denominator, hc⟩ := h
  obtain ⟨t, -, hst⟩ := constructor_ok hc
  refine ⟨⟨fun _ => [], [], ?_⟩, fun p hp => absurd hp List.not_mem_nil⟩
  exact
    { signer := fun k => by rw [Mirrored.start, hst]; rfl
      total := by rw [Mirrored.start, hst]; rfl
      signer_chron := fun _ => List.Pairwise.nil
      total_chron := List.Pairwise.nil
      signer_past := fun _ p hp => absurd hp List.not_mem_nil
      total_past := fun p hp => absurd hp List.not_mem_nil
      log_past := fun p hp => absurd hp List.not_mem_nil
      signer_at := fun _ _ => rfl
      total_at := fun _ => rfl
      ascending := by rw [Mirrored.start, hst]; exact List.Pairwise.nil
      mem_allSigners := fun k => by rw [Mirrored.start, hst]; simp }

/-- One committed call: the map it leaves is the map the registry then tracks. -/
theorem Tracks.call {D : Deps} (hH : D.hist.Honest historyCutoff) {c : Chain}
    {log : List (Entry Weights)} {sp : Ed25519PubKey → List (Entry UInt64)}
    {tp : List (Entry UInt64)} (h : Tracks D.hist c.ledger c.registry log sp tp)
    {auth : Address → Bool} {entry : EntryPoint} {st : Registry} {ev : List Event}
    (hok : invoke D auth c entry = .ok (st, ev)) :
    ∃ sp' tp', Tracks D.hist c.ledger st
      (log ++ [⟨c.ledger, entry.applyTo (lastValue log)⟩]) sp' tp' := by
  cases entry with
  | addSigner key weight =>
      obtain ⟨-, hw, hadd, -⟩ := invoke_addSigner hok
      exact h.addSigner hH hw hadd
  | removeSigner key =>
      obtain ⟨-, hrem, -⟩ := invoke_removeSigner hok
      show ∃ sp' tp', Tracks _ _ _ (log ++ [⟨c.ledger, (lastValue log).erase key⟩]) sp' tp'
      rw [← Weights.set_zero]
      rcases eq_or_ne (lastValue log key) 0 with h0 | h0
      · -- not registered: nothing is written, and the map is as it was
        have hsame : (lastValue log).set key 0 = lastValue log := by
          ext k
          rw [Weights.set_apply]
          split
          · next hk => rw [hk, h0]
          · rfl
        rw [h.removeSigner_absent hH h0, Option.some.injEq] at hrem
        rw [hsame, ← hrem]
        exact ⟨sp, tp, h.stutter⟩
      · exact h.removeSigner hH h0 hrem
  | setThreshold numerator denominator =>
      exact ⟨sp, tp, (h.same (invoke_setting (by trivial) hok)).stutter⟩
  | upgrade newVersion => exact ⟨sp, tp, (h.same (invoke_setting (by trivial) hok)).stutter⟩
  | proposeAdmin newAdmin => exact ⟨sp, tp, (h.same (invoke_setting (by trivial) hok)).stutter⟩
  | acceptAdmin => exact ⟨sp, tp, (h.same (invoke_setting (by trivial) hok)).stutter⟩

theorem Tracks.invoke_removeSigner_ne_trap {D : Deps} (hH : D.hist.Honest historyCutoff) {c : Chain}
    {log : List (Entry Weights)} {sp : Ed25519PubKey → List (Entry UInt64)}
    {tp : List (Entry UInt64)} (h : Tracks D.hist c.ledger c.registry log sp tp)
    (auth : Address → Bool) (key : Ed25519PubKey) :
    invoke D auth c (.removeSigner key) ≠ .error .trap := by
  obtain ⟨st, hst⟩ := Option.isSome_iff_exists.mp (h.removeSigner_isSome hH key)
  rw [invoke_removeSigner_eq, hst]
  split
  · exact nofun
  · exact nofun

theorem Tracks.invoke_addSigner_trap {D : Deps} (hH : D.hist.Honest historyCutoff) {c : Chain}
    {log : List (Entry Weights)} {sp : Ed25519PubKey → List (Entry UInt64)}
    {tp : List (Entry UInt64)} (h : Tracks D.hist c.ledger c.registry log sp tp)
    (auth : Address → Bool) (key : Ed25519PubKey) (weight : UInt64) :
    invoke D auth c (.addSigner key weight) = .error .trap ↔
      auth c.registry.admin = true ∧ u64Max < ((lastValue log).set key weight).total := by
  rw [invoke_addSigner_eq]
  by_cases hauth : auth c.registry.admin = true
  · rw [if_pos hauth]
    split
    · next hw =>
        -- a weight of zero is refused before anything is added up, and would fit
        have hset := (lastValue log).total_set key weight
        have hfits := toNat_le_u64Max (getTotalWeight D.hist c.registry)
        rw [h.getTotalWeight_eq hH] at hfits
        rw [hw, UInt64.toNat_zero] at hset
        refine iff_of_false nofun ?_
        rw [hw]
        omega
    · rw [← h.addSigner_eq_none hH]
      cases Security.addSigner D.hist c.ledger c.registry key weight with
      | none => simp [hauth]
      | some st => simp
  · rw [if_neg hauth]
    exact iff_of_false nofun fun h => hauth h.1

/-- A call registers every key its map has beyond the map before. -/
theorem EntryPoint.support_applyTo (entry : EntryPoint) (M : Weights) :
    (entry.applyTo M).support ⊆ entry.registers ∪ M.support := by
  intro k hk
  cases entry with
  | addSigner key weight =>
      have hk' : M.set key weight k ≠ 0 := Finsupp.mem_support_iff.mp hk
      rw [Weights.set_apply] at hk'
      rcases eq_or_ne k key with rfl | hne
      · exact Finset.mem_union_left _ (Finset.mem_singleton_self k)
      · rw [if_neg hne] at hk'
        exact Finset.mem_union_right _ (Finsupp.mem_support_iff.mpr hk')
  | removeSigner key =>
      have hk' : k ∈ M.support.erase key := by rw [← Finsupp.support_erase]; exact hk
      exact Finset.mem_union_right _ (Finset.mem_of_mem_erase hk')
  | setThreshold numerator denominator => exact Finset.mem_union_right _ hk
  | upgrade newVersion => exact Finset.mem_union_right _ hk
  | proposeAdmin newAdmin => exact Finset.mem_union_right _ hk
  | acceptAdmin => exact Finset.mem_union_right _ hk

theorem tracked_step {D : Deps} (hH : D.hist.Honest historyCutoff) (m : Mirrored) (a : Action)
    (h : Tracked D m) : Tracked D (mirror D m a) := by
  obtain ⟨⟨sp, tp, ht⟩, hcov⟩ := h
  cases a with
  | close n => exact ⟨⟨sp, tp, ht.later (Nat.le_add_right _ n)⟩, hcov⟩
  | call auth entry =>
      cases hok : invoke D auth m.chain entry with
      | error e => rw [mirror_call_error hok]; exact ⟨⟨sp, tp, ht⟩, hcov⟩
      | ok p =>
          obtain ⟨st, ev⟩ := p
          rw [mirror_call_ok hok]
          have hcur : m.current.support ⊆ m.keys := by
            rcases lastValue_mem m.log with h0 | ⟨p, hp, hv⟩
            · show (lastValue m.log).support ⊆ _
              rw [h0]
              exact Finset.empty_subset _
            · have hp' := hcov p hp
              rw [hv] at hp'
              exact hp'
          refine ⟨ht.call hH hok, ?_⟩
          intro p hp
          rcases List.mem_append.mp hp with hp | hp
          · exact (hcov p hp).trans Finset.subset_union_right
          · rw [List.mem_singleton.mp hp]
            exact (entry.support_applyTo _).trans (Finset.union_subset_union_right hcur)

theorem tracked_run {D : Deps} (hH : D.hist.Honest historyCutoff) {c : Chain} (h : Deployed c)
    (as : List Action) : Tracked D (Runs.run (mirror D) (.start c) as) :=
  Runs.Invariant.run (mirror D) (tracked_step hH) (tracked_start D h) as

end BlendPool.Security
