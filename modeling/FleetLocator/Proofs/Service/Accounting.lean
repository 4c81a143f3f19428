import FleetLocator.Proofs.Service.Operations
import FleetLocator.Rest.Api

/-!
# Every request is counted once

What the service counts is what its answers tell: how many searches found drivers or failed, how many drivers
they found, and how many updates of each kind succeeded or failed. What is refused is not counted, and neither
are lookups.
-/
namespace FleetLocator.Service

/-- An operation with what became of it. -/
abbrev Event := Operation × Except Rejection Answer

/-- The kind of change that an operation makes. -/
def Operation.kind? : Operation → Option Driver.ChangeKind
  | updateLocation _ _ _ => some .location
  | updateStatus _ _ _ => some .status
  | _ => none

namespace Event

/-- A search that was carried out, with this outcome. -/
def isSearch (outcome : Outcome) : Event → Bool
  | (_, .ok (.search r)) => decide (.ofBool r.success = outcome)
  | _ => false

/-- The number of drivers that a search returned with success. -/
def found? : Event → Option Nat
  | (_, .ok (.search r)) => if r.success then some r.drivers.length else none
  | _ => none

/-- An update of a kind that was carried out, with this outcome. -/
def isUpdate (kind : Driver.ChangeKind) (outcome : Outcome) : Event → Bool
  | (o, .ok (.mutation m)) => decide (o.kind? = some kind ∧ .ofBool m.success = outcome)
  | _ => false

end Event

/-- How many searches were carried out. -/
def searched (events : List Event) : ℕ :=
  events.countP (Event.isSearch .success) + events.countP (Event.isSearch .error)

/-- The counts after an event. -/
def Metrics.record (m : Metrics) : Event → Metrics
  | (_, .ok (.search r)) => if r.success then m.searchFound r.drivers.length else m.searchFailed
  | (o, .ok (.mutation u)) => o.kind?.elim m fun kind => m.updated kind (.ofBool u.success)
  | _ => m

/-- The counts are those of the events. -/
structure Accounts (m : Metrics) (events : List Event) : Prop where
  searches : ∀ outcome, m.searches.count outcome = events.countP (Event.isSearch outcome)
  retrievals : m.retrievals = m.searches.count .success + m.searches.count .error
  returned : m.returned.count = m.searches.count .success
  sum : m.returned.sum = (events.filterMap Event.found?).sum
  bounds : m.returned.within.map Prod.fst = [0, 1, 2, 5, 10, 20, 50, 100]
  within : ∀ entry ∈ m.returned.within,
    entry.2 = (events.filterMap Event.found?).countP fun drivers => decide (drivers ≤ entry.1)
  updates : ∀ kind outcome, (m.updates kind).count outcome = events.countP (Event.isUpdate kind outcome)

theorem accounts_nil : Accounts {} [] where
  searches outcome := by cases outcome <;> rfl
  retrievals := rfl
  returned := rfl
  sum := rfl
  bounds := rfl
  within := by decide
  updates kind outcome := by cases kind <;> cases outcome <;> rfl

namespace Accounts

variable {m : Metrics} {events : List Event}

/-- What is not counted leaves the counts as they are. -/
theorem skip (h : Accounts m events) {e : Event} (hsearch : ∀ outcome, e.isSearch outcome = false)
    (hfound : e.found? = none) (hupdate : ∀ kind outcome, e.isUpdate kind outcome = false) :
    Accounts m (events ++ [e]) where
  searches outcome := by simp [h.searches, hsearch]
  retrievals := h.retrievals
  returned := h.returned
  sum := by simp [h.sum, hfound]
  bounds := h.bounds
  within entry hentry := by simp [h.within entry hentry, hfound]
  updates kind outcome := by simp [h.updates, hupdate]

theorem found (h : Accounts m events) (o : Operation) {r : Search.Result} (hr : r.success = true) :
    Accounts (m.searchFound r.drivers.length) (events ++ [(o, .ok (.search r))]) where
  searches outcome := by
    simp [Metrics.searchFound, h.searches, List.countP_singleton, Event.isSearch, hr, Outcome.ofBool, eq_comm]
  retrievals := by
    simp only [Metrics.searchFound, h.retrievals, Tally.count_add, if_true, reduceCtorEq, if_false]
    omega
  returned := by simp [Metrics.searchFound, Histogram.observe, h.returned]
  sum := by simp [Metrics.searchFound, Histogram.observe, h.sum, Event.found?, hr]
  bounds := by
    rw [Metrics.searchFound, Histogram.observe, List.map_map]
    exact h.bounds
  within entry hentry := by
    obtain ⟨before, hbefore, rfl⟩ := List.mem_map.mp hentry
    simp only [List.filterMap_append, List.countP_append, ← h.within before hbefore, Event.found?, hr, if_true,
      List.filterMap_cons, List.filterMap_nil, List.countP_singleton, decide_eq_true_eq]
    split <;> rfl
  updates kind outcome := by
    simp only [List.countP_append, ← h.updates kind outcome, List.countP_singleton, Event.isUpdate]
    cases kind <;> rfl

theorem failed (h : Accounts m events) (o : Operation) {r : Search.Result} (hr : r.success = false) :
    Accounts m.searchFailed (events ++ [(o, .ok (.search r))]) where
  searches outcome := by
    simp [Metrics.searchFailed, h.searches, List.countP_singleton, Event.isSearch, hr, Outcome.ofBool, eq_comm]
  retrievals := by
    simp only [Metrics.searchFailed, h.retrievals, Tally.count_add, if_true, reduceCtorEq, if_false]
    omega
  returned := by simp [Metrics.searchFailed, h.returned]
  sum := by simp [Metrics.searchFailed, h.sum, Event.found?, hr]
  bounds := h.bounds
  within entry hentry := by simp [h.within entry hentry, Event.found?, hr]
  updates kind outcome := by
    simp only [List.countP_append, ← h.updates kind outcome, List.countP_singleton, Event.isUpdate]
    cases kind <;> rfl

private theorem filterMap_found?_mutation (events : List Event) (o : Operation) (u : Mutation) :
    (events ++ [(o, Except.ok (Answer.mutation u))]).filterMap Event.found? = events.filterMap Event.found? := by
  rw [List.filterMap_append]
  exact List.append_nil _

theorem updated (h : Accounts m events) {o : Operation} {kind : Driver.ChangeKind} (hkind : o.kind? = some kind)
    (u : Mutation) : Accounts (m.updated kind (.ofBool u.success)) (events ++ [(o, .ok (.mutation u))]) where
  searches outcome := by
    simp only [List.countP_append, ← h.searches outcome, List.countP_singleton, Event.isSearch]
    cases kind <;> rfl
  retrievals := by cases kind <;> exact h.retrievals
  returned := by cases kind <;> exact h.returned
  sum := by
    rw [filterMap_found?_mutation]
    cases kind <;> exact h.sum
  bounds := by cases kind <;> exact h.bounds
  within := by
    rw [filterMap_found?_mutation]
    cases kind <;> exact h.within
  updates other outcome := by
    simp only [List.countP_append, ← h.updates other outcome, List.countP_singleton, Event.isUpdate, hkind,
      Metrics.updates_updated, Option.some.injEq, decide_eq_true_eq]
    by_cases hother : other = kind
    · subst hother
      simp [eq_comm]
    · simp [hother, Ne.symm hother]

/-- Each event is counted once, or not at all. -/
theorem record (h : Accounts m events) (e : Event) : Accounts (m.record e) (events ++ [e]) := by
  obtain ⟨o, result⟩ := e
  cases result with
  | error reason => exact h.skip (fun _ => rfl) rfl fun _ _ => rfl
  | ok a =>
    cases a with
    | search r =>
      cases hr : r.success with
      | true =>
        rw [Metrics.record, if_pos hr]
        exact h.found o hr
      | false =>
        rw [Metrics.record, if_neg (by simp [hr])]
        exact h.failed o hr
    | lookup l => exact h.skip (fun _ => rfl) rfl fun _ _ => rfl
    | mutation u =>
      cases hkind : o.kind? with
      | none =>
        rw [Metrics.record, hkind]
        exact h.skip (fun _ => rfl) rfl fun kind outcome => by simp [Event.isUpdate, hkind]
      | some kind =>
        rw [Metrics.record, hkind]
        exact h.updated hkind u

theorem retrievals_eq_searched (h : Accounts m events) : m.retrievals = searched events := by
  rw [h.retrievals, h.searches, h.searches, searched]

theorem foldl (h : Accounts m events) (more : List Event) :
    Accounts (more.foldl Metrics.record m) (events ++ more) := by
  induction more generalizing m events with
  | nil => rwa [List.append_nil]
  | cons e more ih => simpa using ih (h.record e)

end Accounts

section

variable {σ : Type} {desk : Desk σ} {s : State σ}

/-- An operation counts what its answer tells, and nothing else. -/
theorem metrics_perform (o : Operation) :
    (o.perform desk s).2.metrics = s.metrics.record (o, (o.perform desk s).1) := by
  by_cases ho : o.IsValid
  · cases o with
    | findNearby q =>
      rw [Operation.perform, Desk.findNearby, checkQuery_of_isValid ho]
      dsimp only
      cases (desk.backend.candidates { q with limit := min q.limit desk.maxLimit } s.store).1 <;> rfl
    | driverStatus id =>
      obtain ⟨l, hl, -⟩ : ∃ l, desk.driverStatus id s = (.ok l, ⟨_, s.metrics⟩) ∧ _ := driverStatus_of_ne ho
      rw [Operation.perform, hl]
      rfl
    | updateLocation now id point =>
      rw [Operation.perform, Desk.updateLocation, checkId_of_ne ho.1, Geo.Point.error?_eq_none_iff.mpr ho.2]
      rfl
    | updateStatus now id status =>
      rw [Operation.perform, Desk.updateStatus, checkId_of_ne ho]
      rfl
  · obtain ⟨reason, hreason⟩ := @Operation.perform_of_not_isValid _ desk s _ ho
    rw [hreason]
    rfl

theorem metrics_run (s : State σ) (os : List Operation) :
    (Operation.run desk s os).metrics = (Operation.results desk s os).foldl Metrics.record s.metrics := by
  induction os generalizing s with
  | nil => rfl
  | cons o os ih =>
    rw [Operation.results, List.foldl_cons, ← metrics_perform]
    exact ih (o.perform desk s).2

theorem retrievalSamples_eq_nil_iff (source name : String) (retrievals : ℕ) (durations : Option Durations) :
    retrievalSamples source name retrievals durations = [] ↔ retrievals = 0 := by
  unfold retrievalSamples
  split
  · next h => simp [h]
  · next h => cases durations <;> simp [h, histogramSamples]

/-- The samples of the retrievals end with how many there were, under the name of their source. -/
theorem getLast?_retrievalSamples (source name : String) {retrievals : ℕ} (h : retrievals ≠ 0)
    (durations : Option Durations) :
    (retrievalSamples source name retrievals durations).getLast? =
      some (countSample name [("source", source)] retrievals) := by
  unfold retrievalSamples
  rw [if_neg h]
  cases durations with
  | none => rfl
  | some d => exact List.getLast?_append_cons ..

/-- The metrics end with what is said of the retrievals. -/
theorem perform_metrics (api : Rest.Api σ) (now : Int64) (query : List UInt8) (request : Rest.Request) (s : State σ)
    (durations : Option Durations) :
    ∃ before, (api.perform now .metrics query request s durations).1 = .metrics (before ++
      family "nearby_query_latency_seconds" "Latency of candidate retrieval in seconds" "histogram"
        (retrievalSamples api.desk.backend.name "nearby_query_latency_seconds" s.metrics.retrievals durations)) :=
  ⟨_, rfl⟩

end

/-- Whatever the backend does, a service that begins without counts has counted each search and each update
that was carried out, once and under its outcome. What is refused and what is looked up leaves the counts as they are.
However long the retrievals took, its metrics end with the samples of as many retrievals as searches were carried out,
the last of which says how many these are, under the name of the backend. -/
theorem metrics_account {σ : Type} (desk : Desk σ) (store : σ) (os : List Operation) :
    Accounts (Operation.run desk ⟨store, {}⟩ os).metrics (Operation.results desk ⟨store, {}⟩ os) ∧
      (∀ (s : State σ) (o : Operation),
        (∃ reason, (o.perform desk s).1 = .error reason) ∨ (∃ id, o = .driverStatus id) →
          (o.perform desk s).2.metrics = s.metrics) ∧
      ∀ defaultLimit now query request durations, ∃ before samples,
        (Rest.Api.perform ⟨desk, defaultLimit⟩ now .metrics query request (Operation.run desk ⟨store, {}⟩ os)
          durations).1 = .metrics (before ++ family "nearby_query_latency_seconds"
            "Latency of candidate retrieval in seconds" "histogram" samples) ∧
        samples = retrievalSamples desk.backend.name "nearby_query_latency_seconds"
          (searched (Operation.results desk ⟨store, {}⟩ os)) durations ∧
        (samples = [] ↔ searched (Operation.results desk ⟨store, {}⟩ os) = 0) ∧
        ∀ last ∈ samples.getLast?, last = sample "nearby_query_latency_seconds_count"
          [("source", desk.backend.name)] (toString (searched (Operation.results desk ⟨store, {}⟩ os))) := by
  have haccounts : Accounts (Operation.run desk ⟨store, {}⟩ os).metrics (Operation.results desk ⟨store, {}⟩ os) := by
    rw [metrics_run]
    exact accounts_nil.foldl _
  refine ⟨haccounts, ?_, fun defaultLimit now query request durations => ?_⟩
  · rintro s o (⟨reason, hreason⟩ | ⟨id, rfl⟩)
    · rw [metrics_perform, hreason]
      rfl
    · rw [metrics_perform, Operation.perform]
      cases (desk.driverStatus id s).1 <;> rfl
  · obtain ⟨before, hbefore⟩ := perform_metrics ⟨desk, defaultLimit⟩ now query request
      (Operation.run desk ⟨store, {}⟩ os) durations
    rw [haccounts.retrievals_eq_searched] at hbefore
    refine ⟨before, _, hbefore, rfl, ?_, ?_⟩
    · exact retrievalSamples_eq_nil_iff ..
    · intro last hlast
      by_cases hnone : searched (Operation.results desk ⟨store, {}⟩ os) = 0
      · rw [(retrievalSamples_eq_nil_iff ..).mpr hnone] at hlast
        cases hlast
      · rw [getLast?_retrievalSamples _ _ hnone] at hlast
        exact (Option.some.inj hlast).symm

/-- Of a search that is carried out, one that is refused, an update that concerns two drivers and a lookup that
is not answered in time, the first and the third are counted. -/
theorem metrics_account_of_four :
    let desk : Desk Unit := ⟨.scripted (.done [{ id := "a" }]) .silent (.done 2), 100, 10⟩
    let s := Operation.run desk ⟨(), {}⟩ [.findNearby ⟨⟨1, 2⟩, 5, 3⟩, .findNearby ⟨⟨1, 2⟩, 5, 0⟩,
      .updateStatus 7 "a" .busy, .driverStatus "a"]
    s.metrics.searches.count .success = 1 ∧ s.metrics.searches.count .error = 0 ∧ s.metrics.retrievals = 1 ∧
      s.metrics.returned.count = 1 ∧ (s.metrics.updates .status).count .error = 1 ∧
      (s.metrics.updates .location).count .error = 0 ∧
      (∀ s : State Unit, ((Operation.driverStatus "a").perform desk s).2.metrics = s.metrics) ∧
      ∀ query request durations, ∃ before samples,
        (Rest.Api.perform ⟨desk, 5⟩ 7 .metrics query request s durations).1 = .metrics (before ++
          family "nearby_query_latency_seconds" "Latency of candidate retrieval in seconds" "histogram" samples) ∧
        samples.getLast? = some "nearby_query_latency_seconds_count\x7bsource=\"stub\"\x7d 1\n" := by
  intro desk s
  obtain ⟨h, hskip, htext⟩ := metrics_account desk () [.findNearby ⟨⟨1, 2⟩, 5, 3⟩, .findNearby ⟨⟨1, 2⟩, 5, 0⟩,
    .updateStatus 7 "a" .busy, .driverStatus "a"]
  have hfound := h.searches .success
  have hfailed := h.searches .error
  have hretrievals : s.metrics.retrievals = 1 := by
    change (Operation.run desk ⟨(), {}⟩ _).metrics.retrievals = 1
    rw [h.retrievals, hfound, hfailed]
    rfl
  refine ⟨hfound, hfailed, hretrievals, h.returned.trans hfound, h.updates .status .error, h.updates .location .error,
    fun s => hskip s _ (.inr ⟨"a", rfl⟩), fun query request durations => ?_⟩
  obtain ⟨before, samples, hanswer, -, hnil, hlast⟩ := htext 5 7 query request durations
  rw [← h.retrievals_eq_searched, hretrievals] at hnil hlast
  refine ⟨before, samples, hanswer, ?_⟩
  cases hsamples : samples.getLast? with
  | none => exact absurd (hnil.mp (List.getLast?_eq_none_iff.mp hsamples)) one_ne_zero
  | some last =>
    rw [hlast last hsamples]
    decide +kernel

end FleetLocator.Service
