/-
# `BlendPool.Frontend.Requests` — the two loops over the ledger's server

The dashboard asks the server for a contract's events page by page, and for the
status of a transaction again and again.  Both loops have a bound, as neither the
cursor nor the status says when there will be no more to wait for.

A server answers a page from a position up to another: where it has caught up with
the ledger, where it has looked far enough, or where the page is full.  What the
dashboard collects is then the events from the start of the window up to some
position, in order, none twice and none left out (`fetch_complete`), and where the
window is not too long for sixteen such pages, all of them.

A status can be read in two ways, of which the second is for answers that the first
cannot decode.  Whichever was used, the verdict is the network's, unless one of the
polls fails, whose error ends the wait (`confirmed_iff`).
-/
import BlendPool.Lib.Loops
import BlendPool.Lib.Txn
import Mathlib.Algebra.Order.Ring.Nat
import Mathlib.Order.Monotone.Basic

namespace BlendPool.Frontend

open Loops

/-! ## Events -/

/-- Where a page begins. -/
inductive From where
  | startLedger (ledger : Nat)
  | cursor (cursor : String)

/-- A call of `getEvents`; the filter is the contract's, and the same in all of them. -/
structure Request where
  start : From
  limit : Nat

structure Response (Event : Type) where
  events : Option (List Event)
  cursor : Option String

def eventsPageLimit : Nat := 200

def eventsMaxPages : Nat := 16

section

variable {Event : Type}

/-- The variables of the loop. -/
structure Fetch (Event : Type) where
  all : List Event
  cursor : Option String
  prevCursor : String

/-- No cursor and an empty one are the same. -/
def Fetch.req (startLedger : Nat) (s : Fetch Event) : Request :=
  if s.cursor.getD "" = "" then ⟨.startLedger startLedger, eventsPageLimit⟩
  else ⟨.cursor (s.cursor.getD ""), eventsPageLimit⟩

def fetchPage (getEvents : Nat → Request → Response Event) (startLedger page : Nat)
    (s : Fetch Event) : Pass (Fetch Event) :=
  let res := getEvents page (s.req startLedger)
  let all := s.all ++ res.events.getD []
  if res.cursor.getD "" = "" ∨ res.cursor.getD "" = s.prevCursor then
    .stop { s with all := all, cursor := res.cursor }
  else .next ⟨all, res.cursor, res.cursor.getD ""⟩

/-- `getEvents` answers each page in its turn, from a ledger that has grown meanwhile. -/
def fetchEventsPaginated (getEvents : Nat → Request → Response Event) (latest : Nat)
    (eventLookbackLedgers : Option Nat) : List Event :=
  let lookback := eventLookbackLedgers.getD 17280
  let startLedger := max 1 (latest - lookback)
  (upTo (fetchPage getEvents startLedger) eventsMaxPages 0 ⟨[], none, ""⟩).state.all

/-! ## What a server has to say -/

/-- A contract's events by position, as they will have been once and for all.  A ledger
takes up `width` positions. -/
structure Feed (Event : Type) where
  log : Nat → List Event
  width : Nat
  /-- the position a cursor stands for -/
  position : String → Nat
  /-- the first ledger not closed yet when a page is asked for -/
  closed : Nat → Nat
  /-- how many ledgers an answer covers where it does not stop for another reason -/
  scan : Nat

/-- The events from one position up to another. -/
def between (log : Nat → List Event) (p q : Nat) : List Event :=
  (List.range' p (q - p)).flatMap log

namespace Feed

def startOf (F : Feed Event) (ledger : Nat) : Nat := ledger * F.width

def startsAt (F : Feed Event) : From → Nat
  | .startLedger ledger => F.startOf ledger
  | .cursor cursor => F.position cursor

/-- How far an answer goes: it has caught up, or looked far enough, or is full. -/
structure Answers (F : Feed Event) (page : Nat) (req : Request) (res : Response Event)
    (cursor : String) : Prop where
  returned : res.cursor = some cursor
  named : cursor ≠ ""
  goes_on : F.startsAt req.start ≤ F.position cursor
  events : res.events.getD [] = between F.log (F.startsAt req.start) (F.position cursor)
  far : F.startOf (F.closed page) ≤ F.position cursor ∨
    F.startsAt req.start + F.startOf F.scan ≤ F.position cursor ∨
    req.limit ≤ (res.events.getD []).length

/-- The server of a feed. -/
structure Serves (F : Feed Event) (getEvents : Nat → Request → Response Event) : Prop where
  closed_mono : Monotone F.closed
  width_pos : 0 < F.width
  scan_pos : 0 < F.scan
  answers : ∀ page req, ∃ cursor, F.Answers page req (getEvents page req) cursor

end Feed

/-! ## Slices -/

section

variable {log : Nat → List Event} {p q r : Nat}

@[simp] theorem between_self : between log p p = [] := by
  simp [between]

theorem between_append (hpq : p ≤ q) (hqr : q ≤ r) :
    between log p q ++ between log q r = between log p r := by
  rw [between, between, between, ← List.flatMap_append]
  have hrange : List.range' p (q - p) ++ List.range' (p + 1 * (q - p)) (r - q) =
      List.range' p (q - p + (r - q)) := List.range'_append
  rw [Nat.one_mul, Nat.add_sub_cancel' hpq] at hrange
  rw [hrange, Nat.add_comm, Nat.sub_add_sub_cancel hqr hpq]

theorem length_between (hpq : p ≤ q) (hqr : q ≤ r) :
    (between log p r).length = (between log p q).length + (between log q r).length := by
  rw [← between_append hpq hqr, List.length_append]

end

/-! ## One page -/

variable {F : Feed Event} {getEvents : Nat → Request → Response Event} {startLedger : Nat}

/-- Up to where the feed has been read. -/
def Fetch.reached (F : Feed Event) (startLedger : Nat) (s : Fetch Event) : Nat :=
  F.startsAt (s.req startLedger).start

/-- What has been collected is what there was to read, and the cursor of the last page
has been kept. -/
structure Gathered (F : Feed Event) (startLedger : Nat) (s : Fetch Event) : Prop where
  prev : s.prevCursor = s.cursor.getD ""
  start_le : F.startOf startLedger ≤ s.reached F startLedger
  all : s.all = between F.log (F.startOf startLedger) (s.reached F startLedger)

theorem limit_req (s : Fetch Event) : (s.req startLedger).limit = eventsPageLimit := by
  rw [Fetch.req]
  split
  · rfl
  · rfl

theorem reached_of_cursor {s : Fetch Event} {cursor : String} (h : s.cursor.getD "" = cursor)
    (hne : cursor ≠ "") : s.reached F startLedger = F.position cursor := by
  simp [Fetch.reached, Fetch.req, h, hne, Feed.startsAt]

/-- All there is up to a cursor. -/
def Feed.fetched (F : Feed Event) (startLedger : Nat) (cursor : String) : Fetch Event :=
  ⟨between F.log (F.startOf startLedger) (F.position cursor), some cursor, cursor⟩

theorem reached_fetched {cursor : String} (hne : cursor ≠ "") :
    (F.fetched startLedger cursor).reached F startLedger = F.position cursor :=
  reached_of_cursor rfl hne

theorem gathered_fetched {cursor : String} (hne : cursor ≠ "")
    (hle : F.startOf startLedger ≤ F.position cursor) :
    Gathered F startLedger (F.fetched startLedger cursor) := by
  refine ⟨rfl, ?_, ?_⟩
  · rw [reached_fetched hne]
    exact hle
  · rw [reached_fetched hne]
    rfl

/-- A page goes on from where the last one ended, up to the cursor it returns; the one
before ends the loop. -/
theorem fetchPage_eq (hF : F.Serves getEvents) (page : Nat) {s : Fetch Event}
    (h : Gathered F startLedger s) :
    ∃ cursor, cursor ≠ "" ∧ s.reached F startLedger ≤ F.position cursor ∧
      (F.startOf (F.closed page) ≤ F.position cursor ∨
        s.reached F startLedger + F.startOf F.scan ≤ F.position cursor ∨
        eventsPageLimit ≤
          (between F.log (s.reached F startLedger) (F.position cursor)).length) ∧
      fetchPage getEvents startLedger page s =
        if cursor = s.prevCursor then .stop (F.fetched startLedger cursor)
        else .next (F.fetched startLedger cursor) := by
  obtain ⟨cursor, hanswer⟩ := hF.answers page (s.req startLedger)
  have hgoes : s.reached F startLedger ≤ F.position cursor := hanswer.goes_on
  have hevents : (getEvents page (s.req startLedger)).events.getD [] =
      between F.log (s.reached F startLedger) (F.position cursor) := hanswer.events
  have hfar := hanswer.far
  rw [hevents, limit_req] at hfar
  have hall : s.all ++ between F.log (s.reached F startLedger) (F.position cursor) =
      between F.log (F.startOf startLedger) (F.position cursor) := by
    rw [h.all]
    exact between_append h.start_le hgoes
  refine ⟨cursor, hanswer.named, hgoes, hfar, ?_⟩
  by_cases hsame : cursor = s.prevCursor
  · simp [fetchPage, hanswer.returned, hanswer.named, hevents, hall, hsame.symm, Feed.fetched]
  · simp [fetchPage, hanswer.returned, hanswer.named, hevents, hall, hsame, Feed.fetched]

/-- It ends the loop only where there is nothing more to read, and else it has covered much
ground or many events. -/
theorem fetchPage_gathered (hF : F.Serves getEvents) (page : Nat) {s : Fetch Event}
    (h : Gathered F startLedger s) :
    ∃ t, (fetchPage getEvents startLedger page s).state = t ∧ Gathered F startLedger t ∧
      s.reached F startLedger ≤ t.reached F startLedger ∧
      (F.startOf (F.closed page) ≤ t.reached F startLedger ∨
        fetchPage getEvents startLedger page s = .next t ∧
          (s.reached F startLedger + F.startOf F.scan ≤ t.reached F startLedger ∨
            eventsPageLimit ≤
              (between F.log (s.reached F startLedger) (t.reached F startLedger)).length)) := by
  obtain ⟨cursor, hne, hgoes, hfar, hpage⟩ := fetchPage_eq hF page h
  have hgathered : Gathered F startLedger (F.fetched startLedger cursor) :=
    gathered_fetched hne (h.start_le.trans hgoes)
  by_cases hsame : cursor = s.prevCursor
  · -- the cursor has not moved, so there is nothing between
    have hstays : s.reached F startLedger = F.position cursor :=
      reached_of_cursor (h.prev.symm.trans hsame.symm) hne
    refine ⟨F.fetched startLedger cursor, by rw [hpage, if_pos hsame]; rfl, hgathered, ?_, .inl ?_⟩
    · rw [reached_fetched hne]
      exact hgoes
    · rw [reached_fetched hne]
      rcases hfar with hfar | hfar | hfar
      · exact hfar
      · have hscan : 0 < F.startOf F.scan := Nat.mul_pos hF.scan_pos hF.width_pos
        omega
      · rw [hstays, between_self] at hfar
        exact absurd hfar (Nat.not_succ_le_zero 199)
  · refine ⟨F.fetched startLedger cursor, by rw [hpage, if_neg hsame]; rfl, hgathered, ?_, ?_⟩
    · rw [reached_fetched hne]
      exact hgoes
    · rw [reached_fetched hne, hpage, if_neg hsame]
      rcases hfar with hfar | hfar
      · exact .inl hfar
      · exact .inr ⟨rfl, hfar⟩

/-! ## All pages -/

/-- How many pages it can still take to `tip`, at most. -/
def Feed.pagesLeft (F : Feed Event) (tip p : Nat) : Nat :=
  (tip - p) / F.startOf F.scan + (between F.log p tip).length / eventsPageLimit

theorem pagesLeft_lt (hF : F.Serves getEvents) {tip p q : Nat} (hpq : p ≤ q) (hq : q ≤ tip)
    (hfar : p + F.startOf F.scan ≤ q ∨ eventsPageLimit ≤ (between F.log p q).length) :
    F.pagesLeft tip q < F.pagesLeft tip p := by
  have hscan : 0 < F.startOf F.scan := Nat.mul_pos hF.scan_pos hF.width_pos
  have hlen : (between F.log p tip).length =
      (between F.log p q).length + (between F.log q tip).length := length_between hpq hq
  have hground : (tip - q) / F.startOf F.scan ≤ (tip - p) / F.startOf F.scan :=
    Nat.div_le_div_right (Nat.sub_le_sub_left hpq tip)
  rw [Feed.pagesLeft, Feed.pagesLeft, hlen, eventsPageLimit]
  rw [eventsPageLimit] at hfar
  rcases hfar with hfar | hfar
  · have hstep : (tip - q) / F.startOf F.scan + 1 ≤ (tip - p) / F.startOf F.scan := by
      rw [← Nat.add_div_right _ hscan]
      exact Nat.div_le_div_right (by omega)
    omega
  · omega

/-- What is collected is the events from the start of the window up to some position,
each once and in order; and all there are, as long as the window is not too long for the
pages there may be: each covers the ledgers of a scan or is full. -/
theorem fetch_complete (F : Feed Event) {getEvents : Nat → Request → Response Event}
    (hF : F.Serves getEvents) (latest : Nat) (eventLookbackLedgers : Option Nat) :
    let startLedger := max 1 (latest - eventLookbackLedgers.getD 17280)
    let first := F.startOf startLedger
    let tip := F.startOf (F.closed 0)
    ∃ reached, first ≤ reached ∧
      fetchEventsPaginated getEvents latest eventLookbackLedgers = between F.log first reached ∧
      ((F.closed 0 - startLedger) / F.scan +
          (between F.log first tip).length / eventsPageLimit < eventsMaxPages →
        tip ≤ reached) := by
  intro startLedger first tip
  have hfirst : Fetch.reached F startLedger (⟨[], none, ""⟩ : Fetch Event) = first := by
    simp [Fetch.reached, Fetch.req, Feed.startsAt, first]
  have hstart : Gathered F startLedger ⟨[], none, ""⟩ := by
    refine ⟨rfl, hfirst.ge, ?_⟩
    rw [hfirst, between_self]
  have hkeeps : ∀ page (s : Fetch Event), Gathered F startLedger s →
      Gathered F startLedger (fetchPage getEvents startLedger page s).state := by
    intro page s hs
    obtain ⟨t, rfl, ht, -⟩ := fetchPage_gathered hF page hs
    exact ht
  have hend := upTo_invariant hkeeps eventsMaxPages 0 hstart
  refine ⟨_, hend.start_le, hend.all, ?_⟩
  intro hbudget
  refine upTo_reaches (I := Gathered F startLedger) (G := fun s => tip ≤ s.reached F startLedger)
    (m := fun s => F.pagesLeft tip (s.reached F startLedger)) hkeeps ?_ ?_ 0 hstart ?_
  · intro page s hs hgoal
    obtain ⟨t, rfl, -, hmono, -⟩ := fetchPage_gathered hF page hs
    exact hgoal.trans hmono
  · intro page s hs
    obtain ⟨t, rfl, -, hmono, hfar⟩ := fetchPage_gathered hF page hs
    by_cases hgoal : tip ≤ (fetchPage getEvents startLedger page s).state.reached F startLedger
    · exact .inl hgoal
    · rcases hfar with hfar | ⟨hnext, hfar⟩
      · have htip : tip ≤ F.startOf (F.closed page) :=
          Nat.mul_le_mul_right _ (hF.closed_mono (Nat.zero_le page))
        exact .inl (htip.trans hfar)
      · exact .inr ⟨_, hnext, pagesLeft_lt hF hmono (Nat.le_of_not_le hgoal) hfar⟩
  · have hledgers : (tip - first) / F.startOf F.scan = (F.closed 0 - startLedger) / F.scan :=
      calc (tip - first) / F.startOf F.scan
          = (F.closed 0 - startLedger) * F.width / (F.scan * F.width) := by
            rw [Nat.sub_mul]
            rfl
        _ = (F.closed 0 - startLedger) / F.scan := Nat.mul_div_mul_right _ _ hF.width_pos
    rw [hfirst, Feed.pagesLeft, hledgers]
    exact hbudget

end

/-- An event a ledger, and ten ledgers a page. -/
def sampleFeed : Feed Nat where
  log := fun p => [p]
  width := 1
  position := fun cursor => cursor.toList.length
  closed := fun _ => 35
  scan := 10

def sampleServer (_ : Nat) (req : Request) : Response Nat :=
  let p := sampleFeed.startsAt req.start
  let q := max p (min (p + 10) 35)
  ⟨some (between sampleFeed.log p q), some (String.ofList (List.replicate q 'x'))⟩

theorem sampleServer_serves : sampleFeed.Serves sampleServer where
  closed_mono := monotone_const
  width_pos := by decide
  scan_pos := by decide
  answers := by
    intro page req
    have hposition : ∀ q, sampleFeed.position (String.ofList (List.replicate q 'x')) = q := by
      intro q
      simp [sampleFeed]
    refine ⟨_, rfl, ?_, ?_, ?_, ?_⟩
    · intro hempty
      have hlen := congrArg sampleFeed.position hempty
      rw [hposition, show sampleFeed.position "" = 0 from rfl] at hlen
      omega
    · rw [hposition]
      exact le_max_left _ _
    · rw [hposition]
      rfl
    · rw [hposition, show sampleFeed.startOf (sampleFeed.closed page) = 35 from rfl,
        show sampleFeed.startOf sampleFeed.scan = 10 from rfl]
      omega

/-- Twenty-five ledgers are three pages and one that finds nothing more. -/
theorem fetch_complete_sample : ∃ reached, 35 ≤ reached ∧
    fetchEventsPaginated sampleServer 34 (some 24) = between sampleFeed.log 10 reached := by
  obtain ⟨reached, -, hall, hcomplete⟩ := fetch_complete sampleFeed sampleServer_serves 34 (some 24)
  exact ⟨reached, hcomplete (by decide), hall⟩

/-! ## The status of a transaction -/

structure TxStatus where
  status : String
  errorMessage : Option String
  deriving DecidableEq

/-- What the server answers to a request without the decoder; the error is its message, or
all of it where there is none. -/
structure RawAnswer where
  error : Option String
  status : Option String

/-- `/Bad union switch|XDR/i`. -/
def isDecodeFailure (msg : String) : Bool :=
  (msg.toList.map Char.toLower).tails.any fun rest =>
    "bad union switch".toList.isPrefixOf rest || "xdr".toList.isPrefixOf rest

/-- The status as the decoder reads it, and where the decoder fails, as the server says it. -/
def getTxStatus (getTransaction : Except String String) (fetch : Except String RawAnswer) :
    Except String TxStatus :=
  match getTransaction with
  | .ok status => .ok ⟨status, none⟩
  | .error msg =>
      if isDecodeFailure msg = false then .error msg
      else do
        let json ← fetch
        match json.error with
        | some text => .error ("raw getTransaction: " ++ text)
        | none =>
            let status := json.status.getD ""
            .ok { status := if status = "" then "UNKNOWN" else status
                  errorMessage := some "SDK decode failed; result fetched via raw RPC" }

def isPending (status : String) : Bool := status = "NOT_FOUND" ∨ status = "PENDING"

/-- One poll, the `i`-th; an error ends the loop as well. -/
def poll (getTransaction : Nat → Except String String) (fetch : Nat → Except String RawAnswer)
    (i : Nat) : Pass (Except String (Option TxStatus)) :=
  match getTxStatus (getTransaction i) (fetch i) with
  | .error msg => .stop (.error msg)
  | .ok result =>
      if isPending result.status then .next (.ok (some result)) else .stop (.ok (some result))

/-- The end of `buildAndSubmit`, from the hash of what was sent. -/
def awaitConfirmation (getTransaction : Nat → Except String String)
    (fetch : Nat → Except String RawAnswer) (hash : String) : Except String String := do
  let result ← (upTo (fun i _ => poll getTransaction fetch i) 30 0 (.ok none)).state
  let status := (result.map TxStatus.status).getD ""
  let errorMessage := (result.bind TxStatus.errorMessage).getD ""
  if status = "SUCCESS" then .ok hash
  else
    .error ("tx " ++ hash ++ " ended status=" ++ (if status = "" then "TIMEOUT" else status) ++
      if errorMessage = "" then "" else ": " ++ errorMessage)

/-- The answers that come are the network's: what the decoder reads and what the raw
request is told are the status there is, and one that is not pending is there to stay. -/
structure Reports (onChain : Nat → String) (getTransaction : Nat → Except String String)
    (fetch : Nat → Except String RawAnswer) : Prop where
  decoded : ∀ i status, getTransaction i = .ok status → status = onChain i
  fetched : ∀ i json, fetch i = .ok json → json.error = none → json.status = some (onChain i)
  named : ∀ i, onChain i ≠ ""
  final : ∀ i j, i ≤ j → isPending (onChain i) = false → onChain j = onChain i

section

variable (getTransaction : Nat → Except String String) (fetch : Nat → Except String RawAnswer)

/-- The `i`-th poll is made: all before it have found the transaction pending. -/
def Asked (i : Nat) : Prop :=
  ∀ k < i, ∃ result, getTxStatus (getTransaction k) (fetch k) = .ok result ∧
    isPending result.status = true

/-- Every poll that is made gets a status. -/
def Answered : Prop :=
  ∀ i < 30, Asked getTransaction fetch i →
    ∃ result, getTxStatus (getTransaction i) (fetch i) = .ok result

end

section

variable {onChain : Nat → String} {getTransaction : Nat → Except String String}
  {fetch : Nat → Except String RawAnswer}

theorem getTxStatus_status (h : Reports onChain getTransaction fetch) {i : Nat} {result : TxStatus}
    (hresult : getTxStatus (getTransaction i) (fetch i) = .ok result) :
    result.status = onChain i := by
  rw [getTxStatus.eq_def] at hresult
  split at hresult
  · next status hok =>
      cases hresult
      exact h.decoded i status hok
  · split at hresult
    · cases hresult
    · rw [Txn.except_do_eq_ok] at hresult
      obtain ⟨json, hfetch, hresult⟩ := hresult
      split at hresult
      · cases hresult
      · next hnone =>
          cases hresult
          simp [h.fetched i json hfetch hnone, h.named i]

theorem poll_next {i : Nat} : (∃ t, poll getTransaction fetch i = .next t) ↔
    ∃ result, getTxStatus (getTransaction i) (fetch i) = .ok result ∧
      isPending result.status = true := by
  rw [poll]
  cases getTxStatus (getTransaction i) (fetch i) with
  | error msg => simp
  | ok result =>
      by_cases hpending : isPending result.status = true
      · simp [hpending]
      · simp [hpending]

theorem poll_error {i : Nat} {msg : String}
    (h : getTxStatus (getTransaction i) (fetch i) = .error msg) :
    poll getTransaction fetch i = .stop (.error msg) := by
  rw [poll, h]

theorem poll_ok {i : Nat} {result : TxStatus}
    (h : getTxStatus (getTransaction i) (fetch i) = .ok result) :
    (poll getTransaction fetch i).state = .ok (some result) := by
  rw [poll, h]
  dsimp only
  split
  · rfl
  · rfl

/-- The loop ends at a poll that is made, and before the last only where that one finds no
pending status. -/
theorem polled_eq (getTransaction : Nat → Except String String)
    (fetch : Nat → Except String RawAnswer) :
    ∃ j ≤ 29, upTo (fun i _ => poll getTransaction fetch i) 30 0 (.ok none) =
        poll getTransaction fetch j ∧
      Asked getTransaction fetch j ∧
      (j < 29 → ¬ ∃ t, poll getTransaction fetch j = .next t) := by
  obtain ⟨j, hj, hloop, hbefore, hstop⟩ := upTo_last (poll getTransaction fetch) 29 0 (.ok none)
  simp only [Nat.zero_add] at hloop hbefore hstop
  refine ⟨j, hj, hloop, fun k hk => poll_next.mp (hbefore k hk), ?_⟩
  rintro hlt ⟨t, hnext⟩
  obtain ⟨u, hstop⟩ := hstop hlt
  rw [hstop] at hnext
  cases hnext

theorem awaitConfirmation_of_error {i : Nat} {msg : String} (hi : i < 30)
    (hasked : Asked getTransaction fetch i)
    (h : getTxStatus (getTransaction i) (fetch i) = .error msg) (hash : String) :
    awaitConfirmation getTransaction fetch hash = .error msg := by
  obtain ⟨j, hj, hloop, hmade, hlast⟩ := polled_eq getTransaction fetch
  have hfails := poll_error h
  have hsame : j = i := by
    rcases Nat.lt_trichotomy j i with hlt | heq | hgt
    · exact absurd (poll_next.mpr (hasked j hlt)) (hlast (by omega))
    · exact heq
    · obtain ⟨t, hnext⟩ := poll_next.mpr (hmade i hgt)
      rw [hfails] at hnext
      cases hnext
  rw [awaitConfirmation, hloop, hsame, hfails]
  rfl

/-- If no poll fails, the wait ends with the status there is at the last. -/
theorem awaitConfirmation_of_answered (h : Reports onChain getTransaction fetch)
    (hanswered : Answered getTransaction fetch) (hash : String) :
    ∃ detail, awaitConfirmation getTransaction fetch hash =
      if onChain 29 = "SUCCESS" then .ok hash
      else .error ("tx " ++ hash ++ " ended status=" ++ onChain 29 ++ detail) := by
  obtain ⟨j, hj, hloop, hmade, hlast⟩ := polled_eq getTransaction fetch
  obtain ⟨result, hresult⟩ := hanswered j (Nat.lt_succ_of_le hj) hmade
  have hstatus : result.status = onChain 29 := by
    rw [getTxStatus_status h hresult]
    rcases Nat.lt_or_eq_of_le hj with hlt | rfl
    · have hfinal : isPending result.status = false :=
        Bool.eq_false_iff.mpr fun hpending =>
          hlast hlt (poll_next.mpr ⟨result, hresult, hpending⟩)
      rw [getTxStatus_status h hresult] at hfinal
      exact (h.final j 29 hj hfinal).symm
    · rfl
  refine ⟨if result.errorMessage.getD "" = "" then "" else ": " ++ result.errorMessage.getD "", ?_⟩
  rw [awaitConfirmation, hloop, poll_ok hresult]
  simp [bind, Except.bind, hstatus, h.named 29]

end

/-- A submission succeeds exactly if no poll that is made fails and the network holds a
success when the last would be, however the answers had to be read.  Else the wait ends
with the error of the poll that failed, or with the status the network holds. -/
theorem confirmed_iff {onChain : Nat → String} {getTransaction : Nat → Except String String}
    {fetch : Nat → Except String RawAnswer} (h : Reports onChain getTransaction fetch)
    (hash : String) :
    (∀ answer, awaitConfirmation getTransaction fetch hash = .ok answer ↔
      answer = hash ∧ onChain 29 = "SUCCESS" ∧ Answered getTransaction fetch) ∧
    (∀ i < 30, ∀ msg, Asked getTransaction fetch i →
      getTxStatus (getTransaction i) (fetch i) = .error msg →
      awaitConfirmation getTransaction fetch hash = .error msg) ∧
    (Answered getTransaction fetch → onChain 29 ≠ "SUCCESS" →
      ∃ detail, awaitConfirmation getTransaction fetch hash =
        .error ("tx " ++ hash ++ " ended status=" ++ onChain 29 ++ detail)) := by
  refine ⟨?_, fun i hi msg hasked herror => awaitConfirmation_of_error hi hasked herror hash, ?_⟩
  · intro answer
    by_cases hanswered : Answered getTransaction fetch
    · obtain ⟨detail, hend⟩ := awaitConfirmation_of_answered h hanswered hash
      rw [hend]
      split
      · next hsuccess => simp [hsuccess, hanswered, eq_comm]
      · next hfailed => simp [hfailed]
    · refine iff_of_false ?_ fun h => hanswered h.2.2
      simp only [Answered, not_forall] at hanswered
      obtain ⟨i, hi, hasked, hnone⟩ := hanswered
      cases hread : getTxStatus (getTransaction i) (fetch i) with
      | ok result => exact absurd ⟨result, hread⟩ hnone
      | error msg =>
          rw [awaitConfirmation_of_error hi hasked hread hash]
          exact fun hok => nomatch hok
  · intro hanswered hfailed
    obtain ⟨detail, hend⟩ := awaitConfirmation_of_answered h hanswered hash
    exact ⟨detail, hend.trans (if_neg hfailed)⟩

/-- Two polls too early and then one that the decoder fails at; and one poll that gets no
answer at all. -/
theorem confirmed_iff_sample :
    let onChain := fun i => if i < 2 then "NOT_FOUND" else "SUCCESS"
    let fetch := fun i => Except.ok ⟨none, some (onChain i)⟩
    awaitConfirmation (fun i => if i = 2 then .error "Bad union switch: 4" else .ok (onChain i))
        fetch "7f3a" = .ok "7f3a" ∧
      awaitConfirmation (fun _ => .error "Network Error") fetch "7f3a" =
        .error "Network Error" := by
  intro onChain fetch
  have hfetched : ∀ i json, fetch i = .ok json → json.error = none →
      json.status = some (onChain i) := by
    intro i json hjson hnone
    cases hjson
    rfl
  have hnamed : ∀ i, onChain i ≠ "" := by
    intro i
    simp only [onChain]
    split
    · decide
    · decide
  have hstays : ∀ i j, i ≤ j → isPending (onChain i) = false → onChain j = onChain i := by
    intro i j hle hfinal
    have hlate : ¬ i < 2 := by
      intro hearly
      rw [show onChain i = "NOT_FOUND" from if_pos hearly] at hfinal
      exact absurd hfinal (by decide)
    have hlate' : ¬ j < 2 := by omega
    simp only [onChain, hlate, hlate', if_false]
  constructor
  · refine ((confirmed_iff ⟨?_, hfetched, hnamed, hstays⟩ "7f3a").1 "7f3a").mpr ⟨rfl, rfl, ?_⟩
    · intro i status hok
      by_cases hfails : i = 2
      · rw [if_pos hfails] at hok
        cases hok
      · rw [if_neg hfails] at hok
        cases hok
        rfl
    · intro i _ _
      by_cases hfails : i = 2
      · subst hfails
        exact ⟨_, rfl⟩
      · simp only [if_neg hfails]
        exact ⟨_, rfl⟩
  · refine (confirmed_iff ⟨?_, hfetched, hnamed, hstays⟩ "7f3a").2.1 0 (by decide) _
      (fun k hk => absurd hk (Nat.not_lt_zero k)) rfl
    intro i status hok
    cases hok

end BlendPool.Frontend
