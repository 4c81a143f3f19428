import FleetLocator.Proofs.Driver.Locality
import FleetLocator.Proofs.Interface.Identifier
import FleetLocator.Proofs.Service.Discipline
import FleetLocator.Proofs.Text.Spelling

/-!
# One way to write a status, everywhere

A text stands for a status if and only if it is a variant of its label, with letters of ASCII in any case and blanks
around it. This is so in a document, in a request on the web and in a remote call. All else is no status: a
document that has it is read as if it said nothing of the status, and requests are refused before the backend is
asked.
-/
namespace FleetLocator.Driver

open Json (Document Value)
open Text (IsVariant)

/-- The text is a variant of no label. -/
def Status.Unknown (text : String) : Prop := ∀ status : Status, ¬IsVariant status.label text

namespace Status

variable {text other : String} {status : Status}

theorem ofLabel?_eq_some_iff : ofLabel? text = some status ↔ status.label = text := by
  constructor
  · intro h
    have hlabel : (status.label == text) = true := List.find?_some (p := fun s : Status => s.label == text) h
    exact beq_iff_eq.mp hlabel
  · rintro rfl
    exact ofLabel?_label status

theorem normalize_label (status : Status) : normalize status.label = status.label := by
  cases status <;> decide

theorem parse?_eq_some_iff : parse? text = some status ↔ IsVariant status.label text := by
  rw [parse?, ofLabel?_eq_some_iff, eq_comm]
  exact Text.upper_trim_eq_iff (normalize_label status)

theorem parse?_eq_none_iff : parse? text = none ↔ Unknown text := by
  rw [Option.eq_none_iff_forall_ne_some]
  exact forall_congr' fun status => not_congr parse?_eq_some_iff

/-- Letter case and blanks at the ends are of no account, whether or not the text stands for a status. -/
theorem parse?_variant (h : IsVariant text other) : parse? other = parse? text :=
  congrArg ofLabel? h.upper_trim_eq

end Status

variable {d : Document} {text : String}

theorem Record.status_decode_of_text (h : d.get? Field.status.name = some (.text text)) :
    (decode d).status = (Status.parse? text).getD .offline := by
  rw [status_decode, optional_string, h, Option.bind_some, Value.text?, Option.bind_some]

/-- Only a text can be a status. -/
theorem Record.status_decode_of_not_text (h : ∀ text, d.get? Field.status.name ≠ some (.text text)) :
    (decode d).status = .offline := by
  have hnone : (d.get? Field.status.name).bind Value.text? = none := by
    cases hget : d.get? Field.status.name with
    | none => rfl
    | some v =>
      cases v with
      | text text => exact absurd hget (h text)
      | _ => rfl
  rw [status_decode, optional_string, hnone]
  rfl

end FleetLocator.Driver

namespace FleetLocator.Interface

open Driver (Field Record Status)
open Json (Document)
open Rest (Api Request Route)
open Rpc (StatusResponse)
open Service (Desk Mutation Operation Question State)
open Text (IsVariant)

section

variable {σ : Type}

/-- The service, with a backend that also lists what it is asked. -/
def recorded (api : Api σ) : Api (σ × List Question) := ⟨api.desk.recorded, api.defaultLimit⟩

theorem desk_recorded (api : Api σ) : (recorded api).desk = api.desk.recorded := rfl

variable (api : Api σ) (now : Int64) (id text : String) (r : Request)

/-- What becomes of a text for the status of a driver, in a request on the web and in a remote call. -/
structure Chosen : Prop where
  accepted : ∀ status : Status, IsVariant status.label text → ∀ s,
    Relays (api.desk.updateStatus now id status s) Mutation.document (StatusResponse.ofMutation · status)
      (api.handle now r s) (Rpc.updateStatus api.desk now ⟨id, text⟩ s)
  asked : ∀ status : Status, IsVariant status.label text → Text.trim id ≠ "" → ∀ s,
    ((recorded api).handle now r s).2.store.2 = s.store.2 ++ [.apply (Text.trim id) ⟨.status status, now⟩] ∧
      (Rpc.updateStatus api.desk.recorded now ⟨id, text⟩ s).2.store.2 =
        s.store.2 ++ [.apply (Text.trim id) ⟨.status status, now⟩]
  refused : Status.Unknown text → ∀ s,
    api.handle now r s = (.json .badRequest (Document.empty.put "error" (Status.unknownMessage text)), s) ∧
      Rpc.updateStatus api.desk now ⟨id, text⟩ s = (.error ⟨.invalidArgument, Status.unknownMessage text⟩, s)
  unasked : Status.Unknown text → ∀ s,
    ((recorded api).handle now r s).2.store.2 = s.store.2 ∧
      (Rpc.updateStatus api.desk.recorded now ⟨id, text⟩ s).2.store.2 = s.store.2

variable {api now id text r} {segment : List UInt8}

theorem refused_of_unknown (api : Api σ) (now : Int64) (h : Spells segment id)
    (hasks : r.Asks "PUT" [Route.word "drivers", segment, Route.word "status"])
    (hread : r.read Rest.readStatus = .ok text) (hunknown : Status.Unknown text) (s : State σ) :
    api.handle now r s = (.json .badRequest (Document.empty.put "error" (Status.unknownMessage text)), s) ∧
      Rpc.updateStatus api.desk now ⟨id, text⟩ s =
        (.error ⟨.invalidArgument, Status.unknownMessage text⟩, s) := by
  obtain ⟨hweb, hremote⟩ : Relays (.error (.status text), s) Mutation.document (StatusResponse.ofMutation · .offline)
      (api.handle now r s) (Rpc.updateStatus api.desk now ⟨id, text⟩ s) :=
    relays_unknown h hasks hread (Status.parse?_eq_none_iff.mpr hunknown) _
  exact ⟨hweb, hremote⟩

theorem asked_updateStatus (desk : Desk σ) (now : Int64) (status : Status) (hid : Text.trim id ≠ "")
    (s : State (σ × List Question)) : (desk.recorded.updateStatus now id status s).2.store.2 =
      s.store.2 ++ [.apply (Text.trim id) ⟨.status status, now⟩] := by
  have hstore : (Operation.perform desk.recorded s (.updateStatus now id status)).2.store =
      desk.recorded.backend.after s.store (Operation.question desk.maxLimit (.updateStatus now id status)) :=
    Operation.store_perform hid
  rw [Operation.perform] at hstore
  rw [hstore, Desk.recorded, Service.after_recorded, Operation.question]

theorem chosen (h : Spells segment id)
    (hasks : r.Asks "PUT" [Route.word "drivers", segment, Route.word "status"])
    (hread : r.read Rest.readStatus = .ok text) : Chosen api now id text r where
  accepted status hstatus _ := relays_updateStatus h hasks hread (Status.parse?_eq_some_iff.mpr hstatus)
  asked status hstatus hid s := by
    have hasked := asked_updateStatus api.desk now status hid s
    obtain ⟨hweb, hremote⟩ : Relays ((recorded api).desk.updateStatus now id status s) Mutation.document
        (StatusResponse.ofMutation · status) ((recorded api).handle now r s)
        (Rpc.updateStatus (recorded api).desk now ⟨id, text⟩ s) :=
      relays_updateStatus h hasks hread (Status.parse?_eq_some_iff.mpr hstatus)
    rw [desk_recorded] at hweb hremote
    rw [hweb, hremote]
    dsimp only
    exact ⟨hasked, hasked⟩
  refused := refused_of_unknown api now h hasks hread
  unasked hunknown s := by
    obtain ⟨hweb, hremote⟩ := refused_of_unknown (recorded api) now h hasks hread hunknown s
    rw [desk_recorded] at hremote
    rw [hweb, hremote]
    exact ⟨rfl, rfl⟩

end

/-- What a text is worth as a status. There is one answer, wherever the text is. -/
structure Uniform (text : String) : Prop where
  parse : ∀ status : Status, Status.parse? text = some status ↔ IsVariant status.label text
  variant : ∀ other, IsVariant text other → Status.parse? other = Status.parse? text
  label : ∀ status : Status, Status.parse? text = some status → Status.parse? status.label = some status
  known : ∀ d : Document, d.get? Field.status.name = some (.text text) → ∀ status : Status,
    IsVariant status.label text → (Record.decode d).status = status
  unknown : ∀ d : Document, d.get? Field.status.name = some (.text text) → Status.Unknown text →
    (Record.decode d).status = .offline
  request : ∀ {σ : Type} (api : Api σ) (now : Int64) (segment : List UInt8) (id : String) (r : Request),
    Spells segment id → r.Asks "PUT" [Route.word "drivers", segment, Route.word "status"] →
      r.read Rest.readStatus = .ok text → Chosen api now id text r

/-- Every text is a status or is none in the same way everywhere, and what is no text is no status. -/
theorem status_uniform : (∀ text, Uniform text) ∧
    ∀ d : Document, (∀ text, d.get? Field.status.name ≠ some (.text text)) → (Record.decode d).status = .offline := by
  refine ⟨fun text => ?_, fun d h => Record.status_decode_of_not_text h⟩
  constructor
  case parse => exact fun status => Status.parse?_eq_some_iff
  case variant => exact fun other h => Status.parse?_variant h
  case label => exact fun status _ => Status.parse?_label status
  case known =>
    intro d hd status hstatus
    rw [Record.status_decode_of_text hd, Status.parse?_eq_some_iff.mpr hstatus, Option.getD_some]
  case unknown =>
    intro d hd hunknown
    rw [Record.status_decode_of_text hd, Status.parse?_eq_none_iff.mpr hunknown, Option.getD_none]
  case request => exact fun api now segment id r hspells hasks hread => chosen hspells hasks hread

/-- A status in letters of both cases with wide blanks around it. A text with a letter whose capital is an S, but not in
ASCII, is no status, and neither is a number. -/
theorem status_uniform_of_padded :
    IsVariant Status.onBreak.label "\u00a0oN_bReAk\u3000" ∧ Status.Unknown "bu\u017fy" ∧
      Status.parse? "\u00a0oN_bReAk\u3000" = some .onBreak ∧
      (Record.decode (Document.empty.put Field.status.name "\u00a0oN_bReAk\u3000")).status = .onBreak ∧
      (Record.decode (Document.empty.put Field.status.name "bu\u017fy")).status = .offline ∧
      (Record.decode (Document.empty.put Field.status.name (1 : Int64))).status = .offline ∧
      ((recorded ⟨⟨RowStore.backend, 100, 10⟩, 5⟩).handle 7 ⟨"PUT", Route.word "/drivers/a/status",
        some "application/json", Route.word "[\"\u00a0oN_bReAk\u3000\"]"⟩ ⟨(.empty, []), {}⟩).2.store.2 =
          [.apply "a" ⟨.status .onBreak, 7⟩] ∧
      (Api.handle ⟨⟨RowStore.backend, 100, 10⟩, 5⟩ 7 ⟨"PUT", Route.word "/drivers/a/status",
        some "application/json", Route.word "[\"bu\u017fy\"]"⟩ ⟨.empty, {}⟩).1 =
          .json .badRequest (Document.empty.put "error" (Status.unknownMessage "bu\u017fy")) ∧
      (Rpc.updateStatus ⟨RowStore.backend, 100, 10⟩ 7 ⟨"a", "bu\u017fy"⟩ ⟨.empty, {}⟩).1 =
        .error ⟨.invalidArgument, Status.unknownMessage "bu\u017fy"⟩ := by
  obtain ⟨htexts, hothers⟩ := status_uniform
  have hpadded : IsVariant Status.onBreak.label "\u00a0oN_bReAk\u3000" :=
    ⟨['\u00a0'], "oN_bReAk".toList, ['\u3000'], by decide, List.forall_mem_singleton.mpr rfl,
      List.forall_mem_singleton.mpr rfl, by decide⟩
  have hunknown : Status.Unknown "bu\u017fy" := Status.parse?_eq_none_iff.mp (by decide)
  have hspells : Spells (Route.word "a") "a" := ⟨by decide, by decide⟩
  have htarget : Route.word "/drivers/a/status" =
      Route.path [Route.word "drivers", Route.word "a", Route.word "status"] ++ [] := by decide
  have hrequest (text : String) := (htexts text).request ⟨⟨RowStore.backend, 100, 10⟩, 5⟩ 7 (Route.word "a") "a"
    ⟨"PUT", Route.word "/drivers/a/status", some "application/json", Route.word ("[\"" ++ text ++ "\"]")⟩ hspells
    ⟨rfl, none, htarget⟩
  have haccepted := (hrequest "\u00a0oN_bReAk\u3000" (by decide +kernel)).asked .onBreak hpadded (by decide)
  have hrefused := (hrequest "bu\u017fy" (by decide +kernel)).refused hunknown
  refine ⟨hpadded, hunknown, ((htexts _).parse .onBreak).mpr hpadded, (htexts _).known _ rfl .onBreak hpadded,
    (htexts _).unknown _ rfl hunknown, hothers _ ?_, (haccepted ⟨(.empty, []), {}⟩).1,
    congrArg Prod.fst (hrefused ⟨.empty, {}⟩).1, congrArg Prod.fst (hrefused ⟨.empty, {}⟩).2⟩
  rintro text h
  cases h

end FleetLocator.Interface
