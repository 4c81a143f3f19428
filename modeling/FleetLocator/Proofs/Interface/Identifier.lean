import FleetLocator.Proofs.Rest.Route
import FleetLocator.Proofs.Service.Operations
import FleetLocator.RowStore.Database
import FleetLocator.Rpc.Method

/-!
# One driver, named in two ways

A driver is named on the web by a segment of a path that spells its identifier. The request is then carried
out as the remote call with that identifier is. Only the name of the search stands for no driver where a
driver is looked up; its identifier has other spellings.
-/
namespace FleetLocator.Interface

open Json (Document)
open Rest (Api IsPlain Request Route)
open Rpc (Failure LocationResponse LookupResponse StatusResponse)
open RowStore (Database)
open Service (Desk Lookup Mutation Rejection State)

/-- A segment of a path that an identifier is read from. -/
structure Spells (segment : List UInt8) (id : String) : Prop where
  plain : IsPlain segment
  decodes : Route.decodeId? segment = some id

theorem spells_encodeId (id : String) : Spells (Route.encodeId id) id :=
  ⟨Route.isPlain_encodeId id, Route.decodeId?_encodeId id⟩

theorem Spells.ne_nil {segment : List UInt8} {id : String} (h : Spells segment id) (hid : id ≠ "") :
    segment ≠ [] := by
  rintro rfl
  have hempty : Route.decodeId? [] = some "" := by decide
  exact hid (Option.some.inj (h.decodes.symm.trans hempty))

/-- Each identifier has a spelling that is not the name of the search. -/
theorem exists_spelling (id : String) : ∃ segment, segment ≠ Route.word "nearby" ∧ Spells segment id := by
  by_cases hid : id = "nearby"
  · rw [hid]
    exact ⟨Route.word "%6Eearby", by decide, by decide, by decide⟩
  · exact ⟨_, Route.encodeId_eq_nearby_iff.not.mpr hid, spells_encodeId id⟩

section

variable {σ α β : Type}

/-- The two ways give back, each in its form, what one operation of the desk returns. -/
structure Relays (returned : Except Rejection α × State σ) (document : α → Document) (message : α → β)
    (web : Rest.Response × State σ) (remote : Except Failure β × State σ) : Prop where
  web : web = (.ofExcept document returned.1, returned.2)
  remote : remote = ((returned.1.map message).mapError Failure.ofRejection, returned.2)

end

section

variable {σ : Type} (api : Api σ) (now : Int64) (s : State σ)

/-- What requests do that name a driver by a segment. The remote calls have the identifier itself. -/
structure Named (segment : List UInt8) (id : String) : Prop where
  lookup : segment ≠ Route.word "nearby" → ∀ r : Request, r.Asks "GET" [Route.word "drivers", segment] →
    (∃ l, (api.desk.driverStatus id s).1 = .ok l) ∧
      Relays (api.desk.driverStatus id s) Lookup.document LookupResponse.ofLookup (api.handle now r s)
        (Rpc.driverStatus api.desk ⟨id⟩ s)
  location : ∀ r : Request, r.Asks "PUT" [Route.word "drivers", segment, Route.word "location"] →
    (∀ reason, r.read Rest.readLocation = .error reason → api.handle now r s = (.refused reason, s)) ∧
      ∀ p, r.read Rest.readLocation = .ok p →
        Relays (api.desk.updateLocation now id p s) Mutation.document
          (LocationResponse.ofMutation · ⟨id, p.lat, p.lng⟩) (api.handle now r s)
          (Rpc.updateLocation api.desk now ⟨id, p.lat, p.lng⟩ s)
  status : ∀ r : Request, r.Asks "PUT" [Route.word "drivers", segment, Route.word "status"] →
    (∀ reason, r.read Rest.readStatus = .error reason → api.handle now r s = (.refused reason, s)) ∧
      ∀ text, r.read Rest.readStatus = .ok text →
        (Driver.Status.parse? text = none → ∀ message : Mutation → StatusResponse,
          Relays (.error (.status text), s) Mutation.document message (api.handle now r s)
            (Rpc.updateStatus api.desk now ⟨id, text⟩ s)) ∧
        ∀ status, Driver.Status.parse? text = some status →
          Relays (api.desk.updateStatus now id status s) Mutation.document (StatusResponse.ofMutation · status)
            (api.handle now r s) (Rpc.updateStatus api.desk now ⟨id, text⟩ s)

variable {api now s} {segment : List UInt8} {id : String} {r : Request}

theorem handle_driver (h : Spells segment id) (hid : id ≠ "") (hname : segment ≠ Route.word "nearby")
    (hasks : r.Asks "GET" [Route.word "drivers", segment]) :
    api.handle now r s =
      (.ofExcept Lookup.document (api.desk.driverStatus id s).1, (api.desk.driverStatus id s).2) := by
  rw [api.handle_of_asks now s hasks (Route.isPlain_driver h.plain)
    (Route.ofPath?_driver h.plain (h.ne_nil hid) hname) List.mem_cons_self (by decide), Api.perform,
    Api.driverStatus, h.decodes]

theorem handle_location (h : Spells segment id)
    (hasks : r.Asks "PUT" [Route.word "drivers", segment, Route.word "location"]) :
    api.handle now r s = api.updateLocation now segment r s :=
  api.handle_of_asks now s hasks (Route.isPlain_part h.plain Route.isPlain_words.2.2.1)
    (Route.ofPath?_location h.plain) List.mem_cons_self (by decide)

theorem handle_status (h : Spells segment id)
    (hasks : r.Asks "PUT" [Route.word "drivers", segment, Route.word "status"]) :
    api.handle now r s = api.updateStatus now segment r s :=
  api.handle_of_asks now s hasks (Route.isPlain_part h.plain Route.isPlain_words.2.2.2)
    (Route.ofPath?_status h.plain) List.mem_cons_self (by decide)

theorem handle_search (hasks : r.Asks "GET" [Route.word "drivers", Route.word "nearby"]) :
    api.handle now r s = api.findNearby (Rest.splitTarget r.target).2 s :=
  api.handle_of_asks now s hasks (Route.isPlain_driver Route.isPlain_words.2.1) Route.ofPath?_nearby
    List.mem_cons_self (by decide)

theorem relays_driverStatus (h : Spells segment id) (hid : id ≠ "") (hname : segment ≠ Route.word "nearby")
    (hasks : r.Asks "GET" [Route.word "drivers", segment]) :
    Relays (api.desk.driverStatus id s) Lookup.document LookupResponse.ofLookup (api.handle now r s)
      (Rpc.driverStatus api.desk ⟨id⟩ s) := by
  refine ⟨handle_driver h hid hname hasks, ?_⟩
  rw [Rpc.driverStatus]
  rcases api.desk.driverStatus id s with ⟨reason | l, after⟩ <;> rfl

theorem relays_updateLocation {p : Geo.Point} (h : Spells segment id)
    (hasks : r.Asks "PUT" [Route.word "drivers", segment, Route.word "location"])
    (hread : r.read Rest.readLocation = .ok p) :
    Relays (api.desk.updateLocation now id p s) Mutation.document (LocationResponse.ofMutation · ⟨id, p.lat, p.lng⟩)
      (api.handle now r s) (Rpc.updateLocation api.desk now ⟨id, p.lat, p.lng⟩ s) := by
  constructor
  case web =>
    rw [handle_location h hasks, Api.updateLocation, h.decodes]
    simp only [hread]
  case remote =>
    rw [Rpc.updateLocation]
    rcases api.desk.updateLocation now id p s with ⟨reason | m, after⟩ <;> rfl

theorem relays_updateStatus {text : String} {status : Driver.Status} (h : Spells segment id)
    (hasks : r.Asks "PUT" [Route.word "drivers", segment, Route.word "status"])
    (hread : r.read Rest.readStatus = .ok text) (hstatus : Driver.Status.parse? text = some status) :
    Relays (api.desk.updateStatus now id status s) Mutation.document (StatusResponse.ofMutation · status)
      (api.handle now r s) (Rpc.updateStatus api.desk now ⟨id, text⟩ s) := by
  constructor
  case web =>
    rw [handle_status h hasks, Api.updateStatus, h.decodes]
    simp only [hread, hstatus]
  case remote =>
    rw [Rpc.updateStatus]
    simp only [hstatus]
    rcases api.desk.updateStatus now id status s with ⟨reason | m, after⟩ <;> rfl

/-- A status that is not known is refused in both ways. -/
theorem relays_unknown {text : String} (h : Spells segment id)
    (hasks : r.Asks "PUT" [Route.word "drivers", segment, Route.word "status"])
    (hread : r.read Rest.readStatus = .ok text) (hunknown : Driver.Status.parse? text = none)
    (message : Mutation → StatusResponse) :
    Relays (.error (.status text), s) Mutation.document message (api.handle now r s)
      (Rpc.updateStatus api.desk now ⟨id, text⟩ s) := by
  constructor
  case web =>
    rw [handle_status h hasks, Api.updateStatus, h.decodes]
    simp only [hread, hunknown]
    rfl
  case remote =>
    rw [Rpc.updateStatus]
    simp only [hunknown]
    rfl

theorem named (h : Spells segment id) (hid : Text.trim id ≠ "") : Named api now s segment id := by
  have hne : id ≠ "" := by
    rintro rfl
    exact hid rfl
  constructor
  case lookup =>
    intro hname r hasks
    obtain ⟨l, hl, -⟩ : ∃ l, api.desk.driverStatus id s = (.ok l, ⟨_, _⟩) ∧ _ := Service.driverStatus_of_ne hid
    exact ⟨⟨l, congrArg Prod.fst hl⟩, relays_driverStatus h hne hname hasks⟩
  case location =>
    refine fun r hasks => ⟨fun reason hreason => ?_, fun p hread => relays_updateLocation h hasks hread⟩
    rw [handle_location h hasks, Api.updateLocation, h.decodes]
    simp only [hreason]
  case status =>
    refine fun r hasks => ⟨fun reason hreason => ?_, fun text hread => ⟨?_, ?_⟩⟩
    · rw [handle_status h hasks, Api.updateStatus, h.decodes]
      simp only [hreason]
    · exact fun hunknown message => relays_unknown h hasks hread hunknown message
    · exact fun status hstatus => relays_updateStatus h hasks hread hstatus

end

/-- Every driver whose identifier is not blank can be named on the web, in each spelling of its identifier, and
the segment written for it is one. Only if the identifier is the name of the search is this segment taken for
the search where a driver is looked up, and then there is another. -/
theorem drivers_named {σ : Type} (api : Api σ) (now : Int64) (s : State σ) {id : String} (h : Text.trim id ≠ "") :
    (∀ segment, Spells segment id → Named api now s segment id) ∧
      Spells (Route.encodeId id) id ∧
      (Route.encodeId id = Route.word "nearby" ↔ id = "nearby") ∧
      (∃ segment, segment ≠ Route.word "nearby" ∧ Spells segment id) ∧
      ∀ r : Request, r.Asks "GET" [Route.word "drivers", Route.word "nearby"] →
        api.handle now r s = api.findNearby (Rest.splitTarget r.target).2 s :=
  ⟨fun _ hspells => named hspells h, spells_encodeId id, Route.encodeId_eq_nearby_iff, exists_spelling id,
    fun _ hasks => handle_search hasks⟩

/-- A slash in an identifier is written in percent signs, and the driver is looked up. -/
theorem drivers_named_of_slash :
    ∃ db, Database.empty.insert { id := "a/b" } = .ok db ∧ Text.trim "a/b" ≠ "" ∧
      Route.encodeId "a/b" = Route.word "a%2Fb" ∧
      (Api.handle ⟨⟨RowStore.backend, 100, 10⟩, 5⟩ 7 ⟨"GET", Route.word "/drivers/a%2Fb", none, []⟩ ⟨db, {}⟩).1 =
        .json .ok (Lookup.document ⟨"a/b", some { id := "a/b" }, true, "driver status retrieved"⟩) := by
  refine ⟨⟨some [.ofRecord { id := "a/b" }]⟩, rfl, by decide, by decide, ?_⟩
  obtain ⟨hnamed, hspells, hname, -⟩ := drivers_named ⟨⟨RowStore.backend, 100, 10⟩, 5⟩ 7
    ⟨⟨some [.ofRecord { id := "a/b" }]⟩, {}⟩ (show Text.trim "a/b" ≠ "" by decide)
  obtain ⟨-, hrelays⟩ := (hnamed _ hspells).lookup (hname.not.mpr (by decide))
    ⟨"GET", Route.word "/drivers/a%2Fb", none, []⟩ ⟨rfl, none, by decide⟩
  rw [hrelays.web]
  rfl

/-- The segment for an identifier that is the name of the search leads to the search, although there is a driver
with the identifier. -/
theorem handle_of_id_nearby :
    ∃ db, Database.empty.insert { id := "nearby" } = .ok db ∧ Text.trim "nearby" ≠ "" ∧
      Request.Asks ⟨"GET", Route.word "/drivers/nearby", none, []⟩ "GET"
        [Route.word "drivers", Route.encodeId "nearby"] ∧
      (Desk.driverStatus ⟨RowStore.backend, 100, 10⟩ "nearby" ⟨db, {}⟩).1 =
        .ok ⟨"nearby", some { id := "nearby" }, true, "driver status retrieved"⟩ ∧
      (Api.handle ⟨⟨RowStore.backend, 100, 10⟩, 5⟩ 7 ⟨"GET", Route.word "/drivers/nearby", none, []⟩ ⟨db, {}⟩).1 =
        .refused (.parameters (.missing "latitude")) ∧
      ∀ d, Rest.Response.refused (.parameters (.missing "latitude")) ≠ .json .ok d := by
  have hstatus : Web.Status.badRequest ≠ Web.Status.ok := by decide
  exact ⟨_, rfl, by decide, ⟨rfl, none, by decide⟩, rfl, rfl, fun _ h =>
    hstatus (congrArg Rest.Response.status h)⟩

end FleetLocator.Interface
