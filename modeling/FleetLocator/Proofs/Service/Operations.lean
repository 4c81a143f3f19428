import FleetLocator.Proofs.Geo.Point
import FleetLocator.Service.Operations

/-!
# The four operations as one

An operation that is not valid is refused. A valid one puts a single question to the backend, and what
it answers depends on the reply.
-/
namespace FleetLocator.Service

open Search (Query Result)

/-- What a backend is asked. -/
inductive Question
  | candidates (q : Query)
  | fetch (id : String)
  | apply (id : String) (u : Driver.Update)
  deriving DecidableEq

namespace Backend

variable {σ : Type} (b : Backend σ)

/-- The state of a backend after a question. -/
def after (store : σ) : Question → σ
  | .candidates q => (b.candidates q store).2
  | .fetch id => (b.fetch id store).2
  | .apply id u => (b.apply id u store).2

/-- The backend replies with drivers, with a driver, or that it changed just one. -/
def Fulfils (store : σ) : Question → Prop
  | .candidates q => ∃ found, (b.candidates q store).1 = .done found
  | .fetch id => ∃ driver, (b.fetch id store).1 = .done (some driver)
  | .apply id u => (b.apply id u store).1 = .done 1

end Backend

inductive Operation
  | findNearby (q : Query)
  | driverStatus (id : String)
  | updateLocation (now : Int64) (id : String) (point : Geo.Point)
  | updateStatus (now : Int64) (id : String) (status : Driver.Status)

inductive Answer
  | search (r : Result)
  | lookup (l : Lookup)
  | mutation (m : Mutation)

def Answer.success : Answer → Bool
  | search r => r.success
  | lookup l => l.success
  | mutation m => m.success

/-- The origin is on the earth, the radius is a positive number, and some drivers are wanted. -/
structure IsValidQuery (q : Query) : Prop where
  origin : q.origin.isValid = true
  finite : q.radius.isFinite = true
  positive : 0 < q.radius
  limit : q.limit ≠ 0

theorem isValidQuery_iff {q : Query} :
    IsValidQuery q ↔ (q.origin.isValid = true ∧ q.radius.isFinite = true) ∧ 0 < q.radius ∧ q.limit ≠ 0 :=
  ⟨fun h => ⟨⟨h.1, h.2⟩, h.3, h.4⟩, fun h => ⟨h.1.1, h.1.2, h.2.1, h.2.2⟩⟩

instance (q : Query) : Decidable (IsValidQuery q) := decidable_of_iff _ isValidQuery_iff.symm

namespace Operation

/-- A search is valid, an identifier is not blank, and a new place is on the earth. -/
def IsValid : Operation → Prop
  | findNearby q => IsValidQuery q
  | driverStatus id => Text.trim id ≠ ""
  | updateLocation _ id point => Text.trim id ≠ "" ∧ point.isValid = true
  | updateStatus _ id _ => Text.trim id ≠ ""

instance (o : Operation) : Decidable o.IsValid := by unfold IsValid; cases o <;> infer_instance

/-- What the backend is asked. It hears of an identifier without blanks at its ends. -/
def question (maxLimit : UInt32) : Operation → Question
  | findNearby q => .candidates { q with limit := min q.limit maxLimit }
  | driverStatus id => .fetch (Text.trim id)
  | updateLocation now id point =>
    .apply (Text.trim id) ⟨.location point (point.geohash Geo.defaultPrecision), now⟩
  | updateStatus now id status => .apply (Text.trim id) ⟨.status status, now⟩

def perform {σ : Type} (desk : Desk σ) (s : State σ) : Operation → Except Rejection Answer × State σ
  | findNearby q => ((desk.findNearby q s).1.map .search, (desk.findNearby q s).2)
  | driverStatus id => ((desk.driverStatus id s).1.map .lookup, (desk.driverStatus id s).2)
  | updateLocation now id point =>
    ((desk.updateLocation now id point s).1.map .mutation, (desk.updateLocation now id point s).2)
  | updateStatus now id status =>
    ((desk.updateStatus now id status s).1.map .mutation, (desk.updateStatus now id status s).2)

/-- The state after operations. -/
def run {σ : Type} (desk : Desk σ) (s : State σ) (os : List Operation) : State σ :=
  os.foldl (fun s o => (o.perform desk s).2) s

/-- The operations, each with what becomes of it. -/
def results {σ : Type} (desk : Desk σ) : State σ → List Operation → List (Operation × Except Rejection Answer)
  | _, [] => []
  | s, o :: os => (o, (o.perform desk s).1) :: results desk (o.perform desk s).2 os

/-- The answer to a failed operation: a search has no drivers but says what was searched, and a lookup has
no driver. -/
def IsBare : Operation → Answer → Prop
  | findNearby q, .search r => r.drivers = [] ∧ r.origin = q.origin ∧ r.radius = q.radius
  | driverStatus _, .lookup l => l.driver = none
  | updateLocation _ _ _, .mutation _ => True
  | updateStatus _ _ _, .mutation _ => True
  | _, _ => False

end Operation

section

variable {q : Query} {maxLimit : UInt32} {id : String}

theorem checkQuery_of_isValid (h : IsValidQuery q) :
    checkQuery maxLimit q = .ok { q with limit := min q.limit maxLimit } := by
  have hpositive : ¬q.radius ≤ 0 := Decimal.not_le_of_lt h.positive
  rw [checkQuery, Geo.Point.error?_eq_none_iff.mpr h.origin]
  simp [h.finite, hpositive, h.limit]

theorem checkQuery_of_not_isValid (h : ¬IsValidQuery q) : ∃ reason, checkQuery maxLimit q = .error reason := by
  unfold checkQuery
  cases horigin : q.origin.error? with
  | some e => exact ⟨_, rfl⟩
  | none =>
    dsimp only
    split
    · exact ⟨_, rfl⟩
    · next hradius =>
      rw [Bool.or_eq_true, Bool.not_eq_true', decide_eq_true_eq, not_or, Bool.not_eq_false] at hradius
      obtain ⟨hfinite, hpositive⟩ := hradius
      rw [← Decimal.not_lt_iff (by decide) (Decimal.isNaN_of_isFinite hfinite), not_not] at hpositive
      split
      · exact ⟨_, rfl⟩
      · next hlimit =>
        exact absurd ⟨Geo.Point.error?_eq_none_iff.mp horigin, hfinite, hpositive, hlimit⟩ h

theorem checkId_of_ne (h : Text.trim id ≠ "") : checkId id = .ok (Text.trim id) := by
  simp [checkId, h]

theorem checkId_of_eq (h : Text.trim id = "") : checkId id = .error .driverId := by
  simp [checkId, h]

end

section

variable {σ : Type} {desk : Desk σ} {s : State σ} {q : Query} {id : String}

theorem findNearby_of_done (h : IsValidQuery q) {found : List Driver.Record}
    (hreply : (desk.backend.candidates { q with limit := min q.limit desk.maxLimit } s.store).1 = .done found) :
    (desk.findNearby q s).1 =
      .ok (.found q (Query.rank { q with limit := min q.limit desk.maxLimit } found)) := by
  rw [Desk.findNearby, checkQuery_of_isValid h]
  simp only [hreply, Reply.outcome]
  rfl

theorem findNearby_of_ne_done (h : IsValidQuery q)
    (hreply : ∀ found, (desk.backend.candidates { q with limit := min q.limit desk.maxLimit } s.store).1 ≠
      .done found) :
    ∃ reason, (desk.findNearby q s).1 = .ok (.failed q reason) := by
  rw [Desk.findNearby, checkQuery_of_isValid h]
  dsimp only
  cases hr : (desk.backend.candidates { q with limit := min q.limit desk.maxLimit } s.store).1 with
  | done found => exact absurd hr (hreply found)
  | failed fault => exact ⟨_, rfl⟩
  | silent => exact ⟨_, rfl⟩

theorem store_findNearby (h : IsValidQuery q) :
    (desk.findNearby q s).2.store =
      (desk.backend.candidates { q with limit := min q.limit desk.maxLimit } s.store).2 := by
  rw [Desk.findNearby, checkQuery_of_isValid h]
  dsimp only
  cases (desk.backend.candidates { q with limit := min q.limit desk.maxLimit } s.store).1 <;> rfl

theorem driverStatus_of_ne (h : Text.trim id ≠ "") :
    ∃ l, desk.driverStatus id s = (.ok l, ⟨(desk.backend.fetch (Text.trim id) s.store).2, s.metrics⟩) ∧
      (l.success = true ↔ ∃ driver, (desk.backend.fetch (Text.trim id) s.store).1 = .done (some driver)) ∧
      (l.success = false → l.driver = none) := by
  rw [Desk.driverStatus, checkId_of_ne h]
  dsimp only
  refine ⟨_, rfl, ?_⟩
  cases (desk.backend.fetch (Text.trim id) s.store).1 with
  | done driver => cases driver <;> simp [Reply.outcome]
  | failed fault => simp [Reply.outcome]
  | silent => simp [Reply.outcome]

theorem fst_updateMessage (kind : Driver.ChangeKind) (timeout : Nat) (reply : Reply Nat) :
    (updateMessage kind id (reply.outcome timeout)).1 = true ↔ reply = .done 1 := by
  cases reply with
  | done affected => rcases affected with _ | _ | n <;> simp [Reply.outcome, updateMessage]
  | failed fault => simp [Reply.outcome, updateMessage]
  | silent => simp [Reply.outcome, updateMessage]

/-- An update is a success if one driver was changed in time. -/
theorem success_change (u : Driver.Update) :
    (desk.change id u s).1 = true ↔ (desk.backend.apply id u s.store).1 = .done 1 :=
  fst_updateMessage u.change.kind desk.timeout (desk.backend.apply id u s.store).1

variable {now : Int64} {m : Mutation}

/-- An update that is accepted tells where the driver is now. -/
theorem updateLocation_eq_ok {p : Geo.Point} (h : (desk.updateLocation now id p s).1 = .ok m) :
    p.isValid = true ∧ m.location = some p ∧ m.geohash = some (p.geohash Geo.defaultPrecision) := by
  unfold Desk.updateLocation at h
  cases hid : checkId id with
  | error reason => simp [hid] at h
  | ok trimmed =>
    cases hp : p.error? with
    | some e => simp [hid, hp] at h
    | none =>
      rw [hid, hp] at h
      obtain rfl := Except.ok.inj h
      exact ⟨Geo.Point.error?_eq_none_iff.mp hp, rfl, rfl⟩

theorem updateStatus_eq_ok {status : Driver.Status} (h : (desk.updateStatus now id status s).1 = .ok m) :
    m.status = some status := by
  unfold Desk.updateStatus at h
  cases hid : checkId id with
  | error reason => simp [hid] at h
  | ok trimmed =>
    rw [hid] at h
    obtain rfl := Except.ok.inj h
    rfl

end

namespace Operation

variable {σ : Type} {desk : Desk σ} {s : State σ} {o : Operation}

/-- An operation that is not valid fails, and nothing happens. -/
theorem perform_of_not_isValid (h : ¬o.IsValid) : ∃ reason, o.perform desk s = (.error reason, s) := by
  cases o with
  | findNearby q =>
    obtain ⟨reason, hreason⟩ : ∃ reason, checkQuery desk.maxLimit q = .error reason := checkQuery_of_not_isValid h
    refine ⟨reason, ?_⟩
    rw [perform, Desk.findNearby, hreason]
    rfl
  | driverStatus id =>
    refine ⟨.driverId, ?_⟩
    rw [perform, Desk.driverStatus, checkId_of_eq (not_not.mp h)]
    rfl
  | updateLocation now id point =>
    by_cases hid : Text.trim id = ""
    · refine ⟨.driverId, ?_⟩
      rw [perform, Desk.updateLocation, checkId_of_eq hid]
      rfl
    · have hpoint : point.error? ≠ none := fun hnone => h ⟨hid, Geo.Point.error?_eq_none_iff.mp hnone⟩
      obtain ⟨e, he⟩ := Option.ne_none_iff_exists'.mp hpoint
      refine ⟨.location e, ?_⟩
      rw [perform, Desk.updateLocation, checkId_of_ne hid]
      simp only [he]
      rfl
  | updateStatus now id status =>
    refine ⟨.driverId, ?_⟩
    rw [perform, Desk.updateStatus, checkId_of_eq (not_not.mp h)]
    rfl

/-- A valid operation asks its question and no other. -/
theorem store_perform (h : o.IsValid) :
    (o.perform desk s).2.store = desk.backend.after s.store (o.question desk.maxLimit) := by
  cases o with
  | findNearby q => exact store_findNearby h
  | driverStatus id =>
    obtain ⟨l, hl, -⟩ : ∃ l, desk.driverStatus id s = (.ok l, ⟨_, _⟩) ∧ _ := driverStatus_of_ne h
    rw [perform, hl]
    rfl
  | updateLocation now id point =>
    rw [perform, Desk.updateLocation, checkId_of_ne h.1, Geo.Point.error?_eq_none_iff.mpr h.2]
    rfl
  | updateStatus now id status =>
    rw [perform, Desk.updateStatus, checkId_of_ne h]
    rfl

/-- A valid operation is answered, with success if the backend fulfils it. -/
theorem perform_of_isValid (h : o.IsValid) :
    ∃ a, (o.perform desk s).1 = .ok a ∧
      (a.success = true ↔ desk.backend.Fulfils s.store (o.question desk.maxLimit)) ∧
      (a.success = false → o.IsBare a) := by
  cases o with
  | findNearby q =>
    by_cases hdone : desk.backend.Fulfils s.store ((findNearby q).question desk.maxLimit)
    · obtain ⟨found, hfound⟩ := hdone
      rw [perform, findNearby_of_done h hfound]
      exact ⟨_, rfl, iff_of_true rfl ⟨found, hfound⟩, fun hfailed => absurd hfailed.symm Bool.false_ne_true⟩
    · obtain ⟨reason, hreason⟩ := findNearby_of_ne_done h fun found hfound => hdone ⟨found, hfound⟩
      rw [perform, hreason]
      exact ⟨_, rfl, iff_of_false Bool.false_ne_true hdone, fun _ => ⟨rfl, rfl, rfl⟩⟩
  | driverStatus id =>
    obtain ⟨l, hl, hsuccess⟩ : ∃ l, desk.driverStatus id s = (.ok l, ⟨_, _⟩) ∧ _ := driverStatus_of_ne h
    refine ⟨.lookup l, ?_, hsuccess⟩
    rw [perform, hl]
    rfl
  | updateLocation now id point =>
    rw [perform, Desk.updateLocation, checkId_of_ne h.1, Geo.Point.error?_eq_none_iff.mpr h.2]
    exact ⟨_, rfl, success_change _, fun _ => trivial⟩
  | updateStatus now id status =>
    rw [perform, Desk.updateStatus, checkId_of_ne h]
    exact ⟨_, rfl, success_change _, fun _ => trivial⟩

theorem isValid_of_ok {a : Answer} (h : (o.perform desk s).1 = .ok a) : o.IsValid := by
  by_contra hvalid
  obtain ⟨reason, hreason⟩ := @perform_of_not_isValid _ desk s _ hvalid
  rw [hreason] at h
  cases h

end Operation

end FleetLocator.Service
