import FleetLocator.Proofs.Service.Operations
import FleetLocator.Rest.Api
import FleetLocator.Rpc.Method

/-!
# Only requests that are not valid fail

Whatever a backend does, an operation fails if and only if what it is asked is not valid. Then the
backend is not asked, and nothing is counted. All that can go wrong in the backend is part of an answer.
-/
namespace FleetLocator.Service

/-- The backend, which also lists what it is asked. -/
def Backend.recorded {σ : Type} (b : Backend σ) : Backend (σ × List Question) where
  name := b.name
  candidates q s := ((b.candidates q s.1).1, ((b.candidates q s.1).2, s.2 ++ [.candidates q]))
  fetch id s := ((b.fetch id s.1).1, ((b.fetch id s.1).2, s.2 ++ [.fetch id]))
  apply id u s := ((b.apply id u s.1).1, ((b.apply id u s.1).2, s.2 ++ [.apply id u]))

def Desk.recorded {σ : Type} (desk : Desk σ) : Desk (σ × List Question) :=
  ⟨desk.backend.recorded, desk.timeout, desk.maxLimit⟩

section

variable {σ : Type} (b : Backend σ)

theorem after_recorded (s : σ × List Question) (k : Question) :
    b.recorded.after s k = (b.after s.1 k, s.2 ++ [k]) := by
  cases k <;> rfl

end

/-- An operation fails if and only if it is not valid. Then nothing changes, and the backend is not asked.
Otherwise it is asked once, and whether it fulfils the operation is all that decides about success. -/
structure Disciplined {σ : Type} (desk : Desk σ) (o : Operation) : Prop where
  fails_iff : ∀ s, (∃ reason, (o.perform desk s).1 = .error reason) ↔ ¬o.IsValid
  unchanged : ¬o.IsValid → ∀ s, (o.perform desk s).2 = s
  unasked : ¬o.IsValid → ∀ s, (o.perform desk.recorded s).2.store.2 = s.store.2
  asked : o.IsValid → ∀ s, (o.perform desk.recorded s).2.store.2 = s.store.2 ++ [o.question desk.maxLimit]
  answered : o.IsValid → ∀ s, ∃ a, (o.perform desk s).1 = .ok a ∧
    (a.success = true ↔ desk.backend.Fulfils s.store (o.question desk.maxLimit)) ∧
    (a.success = false → o.IsBare a)

theorem disciplined {σ : Type} (desk : Desk σ) (o : Operation) : Disciplined desk o where
  fails_iff s := by
    constructor
    · rintro ⟨reason, hreason⟩ hvalid
      obtain ⟨a, ha, -⟩ : ∃ a, (o.perform desk s).1 = .ok a ∧ _ := Operation.perform_of_isValid hvalid
      rw [ha] at hreason
      exact absurd hreason (by simp)
    · intro hvalid
      obtain ⟨reason, hreason⟩ : ∃ reason, o.perform desk s = (.error reason, s) :=
        Operation.perform_of_not_isValid hvalid
      exact ⟨reason, by rw [hreason]⟩
  unchanged hvalid s := by
    obtain ⟨reason, hreason⟩ : ∃ reason, o.perform desk s = (.error reason, s) :=
      Operation.perform_of_not_isValid hvalid
    rw [hreason]
  unasked hvalid s := by
    obtain ⟨reason, hreason⟩ : ∃ reason, o.perform desk.recorded s = (.error reason, s) :=
      Operation.perform_of_not_isValid hvalid
    rw [hreason]
  asked hvalid s := by
    rw [Operation.store_perform hvalid, Desk.recorded, after_recorded]
  answered hvalid s := Operation.perform_of_isValid hvalid

/-- A remote call ends well, or with the code of an argument that is not valid. -/
def OnlyInvalidArgument {α : Type} (answer : Except Rpc.Failure α) : Prop :=
  ∀ failure, answer = .error failure → failure.code = .invalidArgument

/-- A request is carried out, or said to be bad. -/
def OnlyBadRequest (response : Rest.Response) : Prop :=
  response.status = .ok ∨ response.status = .badRequest

theorem onlyInvalidArgument_ofRejection {α : Type} (reason : Rejection) :
    OnlyInvalidArgument (.error (.ofRejection reason) : Except Rpc.Failure α) := by
  rintro failure h
  cases h
  rfl

theorem onlyInvalidArgument_ok {α : Type} (a : α) : OnlyInvalidArgument (.ok a) := by
  rintro failure h
  cases h

section

variable {σ : Type} (desk : Desk σ) (s : State σ) (now : Int64)

theorem findNearby_onlyInvalidArgument (request : Rpc.NearbyRequest) :
    OnlyInvalidArgument (Rpc.findNearby desk request s).1 := by
  unfold Rpc.findNearby
  split
  · exact onlyInvalidArgument_ofRejection _
  · split
    · exact onlyInvalidArgument_ofRejection _
    · exact onlyInvalidArgument_ok _

theorem driverStatus_onlyInvalidArgument (request : Rpc.LookupRequest) :
    OnlyInvalidArgument (Rpc.driverStatus desk request s).1 := by
  unfold Rpc.driverStatus
  split
  · exact onlyInvalidArgument_ofRejection _
  · exact onlyInvalidArgument_ok _

theorem updateLocation_onlyInvalidArgument (request : Rpc.LocationRequest) :
    OnlyInvalidArgument (Rpc.updateLocation desk now request s).1 := by
  unfold Rpc.updateLocation
  split
  · exact onlyInvalidArgument_ofRejection _
  · exact onlyInvalidArgument_ok _

theorem updateStatus_onlyInvalidArgument (request : Rpc.StatusRequest) :
    OnlyInvalidArgument (Rpc.updateStatus desk now request s).1 := by
  unfold Rpc.updateStatus
  split
  · exact onlyInvalidArgument_ofRejection _
  · split
    · exact onlyInvalidArgument_ofRejection _
    · exact onlyInvalidArgument_ok _

theorem refused_onlyBadRequest (reason : Rest.Refusal) : OnlyBadRequest (.refused reason) := by
  cases reason <;> exact .inr rfl

theorem ofExcept_onlyBadRequest {α : Type} (document : α → Json.Document) (result : Except Rejection α) :
    OnlyBadRequest (.ofExcept document result) := by
  cases result with
  | ok a => exact .inl rfl
  | error reason => exact refused_onlyBadRequest (.rejected reason)

/-- Each route answers in one of two ways. -/
theorem perform_onlyBadRequest (api : Rest.Api σ) (route : Rest.Route) (query : List UInt8)
    (request : Rest.Request) (durations : Option Durations) :
    OnlyBadRequest (api.perform now route query request s durations).1 := by
  cases route with
  | nearby =>
    change OnlyBadRequest (api.findNearby query s).1
    unfold Rest.Api.findNearby
    split
    · exact refused_onlyBadRequest _
    · dsimp only
      exact ofExcept_onlyBadRequest _ _
  | driver id =>
    change OnlyBadRequest (api.driverStatus id s).1
    unfold Rest.Api.driverStatus
    split
    · exact refused_onlyBadRequest _
    · dsimp only
      exact ofExcept_onlyBadRequest _ _
  | location id =>
    change OnlyBadRequest (api.updateLocation now id request s).1
    unfold Rest.Api.updateLocation
    split
    · exact refused_onlyBadRequest _
    · split
      · exact refused_onlyBadRequest _
      · dsimp only
        exact ofExcept_onlyBadRequest _ _
  | status id =>
    change OnlyBadRequest (api.updateStatus now id request s).1
    unfold Rest.Api.updateStatus
    split
    · exact refused_onlyBadRequest _
    · split
      · exact refused_onlyBadRequest _
      · split
        · exact refused_onlyBadRequest _
        · dsimp only
          exact ofExcept_onlyBadRequest _ _
  | health => exact .inl rfl
  | metrics => exact .inl rfl

end

/-- Whatever the backend of a desk does, only what is not valid fails, and only that is said to have
failed. -/
theorem error_discipline {σ : Type} (desk : Desk σ) :
    (∀ o, Disciplined desk o) ∧
    (∀ now s,
      (∀ request, OnlyInvalidArgument (Rpc.findNearby desk request s).1) ∧
      (∀ request, OnlyInvalidArgument (Rpc.driverStatus desk request s).1) ∧
      (∀ request, OnlyInvalidArgument (Rpc.updateLocation desk now request s).1) ∧
      (∀ request, OnlyInvalidArgument (Rpc.updateStatus desk now request s).1) ∧
      ∀ defaultLimit route query request durations,
        OnlyBadRequest (Rest.Api.perform ⟨desk, defaultLimit⟩ now route query request s durations).1) :=
  ⟨disciplined desk, fun now s => ⟨findNearby_onlyInvalidArgument desk s, driverStatus_onlyInvalidArgument desk s,
    updateLocation_onlyInvalidArgument desk s now, updateStatus_onlyInvalidArgument desk s now,
    fun _ => perform_onlyBadRequest s now _⟩⟩

end FleetLocator.Service
