import FleetLocator.Proofs.RowStore.Interleaving
import FleetLocator.Proofs.RowStore.Reachable
import FleetLocator.Proofs.Service.History

/-!
# What an update leaves as it was

An update over a database succeeds if it is valid and a row has the identifier, without the blanks at its ends.
It then changes this row and no other, and of this row the cells that it is about. In all other cases every
cell stays as it was.
-/
namespace FleetLocator.Service

open Driver (Update)
open RowStore (Alone Database Reachable Row concerned)

/-- An update is carried out. -/
def Succeeds (result : Except Rejection Mutation) : Prop := ∃ m, result = .ok m ∧ m.success = true

/-- What is said of an update that changed more than one driver, of whichever identifier. -/
def SaysMany (message : String) : Prop :=
  ∃ (id : String) (n : ℕ), message = "update of driver " ++ id ++ " touched " ++ toString n ++ " records"

/-- An update of a database, and of the driver with this very identifier, changes the one row that it should
or nothing. What it says is one of three things. -/
structure Frames (db : Database) (valid : Prop) (id : String) (u : Update)
    (outcome : Except Rejection Mutation × State Database) : Prop where
  succeeds_iff : Succeeds outcome.1 ↔ valid ∧ ∃ rows ∈ db.rows, ∃ r ∈ rows, r.hasId id = true
  changed : Succeeds outcome.1 → ∃ before row after, db.rows = some (before ++ row :: after) ∧
    Alone (before ++ row :: after) before row after id ∧
    outcome.2.store.rows = some (before ++ row.change u :: after) ∧
    (∀ c ∉ concerned u.change, (row.change u).get c = row.get c) ∧ Row.Settles [u] row (row.change u)
  kept : ¬Succeeds outcome.1 → outcome.2.store = db
  told : ∀ m, outcome.1 = .ok m → m.message =
    if m.success then "driver " ++ u.change.kind.label ++ " updated"
    else if db.rows = none then RowStore.missingTable.message else missingMessage id
  never_many : ∀ m, outcome.1 = .ok m → ¬SaysMany m.message

section

variable {db : Database} {valid : Prop} {id : String} {u : Update}

/-- No other message begins in the same way. -/
theorem not_saysMany_of_take {message : String} (h : message.toList.take 3 ≠ ['u', 'p', 'd']) :
    ¬SaysMany message := by
  rintro ⟨id, n, rfl⟩
  simp at h

theorem not_saysMany_updated (kind : Driver.ChangeKind) : ¬SaysMany ("driver " ++ kind.label ++ " updated") :=
  not_saysMany_of_take (by cases kind <;> decide)

theorem not_saysMany_missing (id : String) : ¬SaysMany (missingMessage id) :=
  not_saysMany_of_take (by simp [missingMessage])

theorem not_saysMany_missingTable : ¬SaysMany RowStore.missingTable.message :=
  not_saysMany_of_take (by decide)

theorem frames_of_rejected {reason : Rejection} {s : State Database} (h : ¬valid) :
    Frames s.store valid id u (.error reason, s) where
  succeeds_iff := iff_of_false (fun ⟨_, hm, _⟩ => nomatch hm) fun hvalid => h hvalid.1
  changed := fun ⟨_, hm, _⟩ => nomatch hm
  kept _ := rfl
  told _ hm := nomatch hm
  never_many _ hm := nomatch hm

theorem succeeds_ok_iff {m : Mutation} : Succeeds (.ok m) ↔ m.success = true :=
  ⟨fun ⟨_, hn, h⟩ => Except.ok.inj hn ▸ h, fun h => ⟨m, rfl, h⟩⟩

/-- An update that finds nothing to change. -/
theorem frames_of_kept {m : Mutation} {s after : State Database} {message : String} (hafter : after.store = s.store)
    (hnone : ¬∃ rows ∈ s.store.rows, ∃ r ∈ rows, r.hasId id = true) (hm : (m.success, m.message) = (false, message))
    (htold : message = if s.store.rows = none then RowStore.missingTable.message else missingMessage id)
    (hmany : ¬SaysMany message) : Frames s.store valid id u (.ok m, after) where
  succeeds_iff := by
    rw [succeeds_ok_iff, (Prod.mk.inj hm).1]
    exact iff_of_false Bool.false_ne_true fun h => hnone h.2
  changed h := by
    rw [succeeds_ok_iff, (Prod.mk.inj hm).1] at h
    cases h
  kept _ := hafter
  told n hn := by
    obtain rfl := Except.ok.inj hn
    rw [(Prod.mk.inj hm).1, (Prod.mk.inj hm).2, htold]
    rfl
  never_many n hn := by
    obtain rfl := Except.ok.inj hn
    rwa [(Prod.mk.inj hm).2]

/-- What a change does to a database is what its update does there. -/
theorem frames_of_change {timeout : ℕ} {s : State Database} {m : Mutation}
    (hreach : Reachable s.store) (hvalid : valid) (hlegal : u.change.Legal)
    (hm : (m.success, m.message) = updateMessage u.change.kind id
      ((Reply.ofExcept (s.store.apply id u).1).outcome timeout))
    {after : State Database} (hafter : after.store = (s.store.apply id u).2) :
    Frames s.store valid id u (.ok m, after) := by
  rcases hreach.apply_cases id u with ⟨hrows, happly⟩ | ⟨rows, hrows, hnone, happly⟩ |
    ⟨rows, before, row, rest, hrows, halone, happly⟩
  · rw [happly] at hm hafter
    refine frames_of_kept hafter ?_ hm (if_pos hrows).symm not_saysMany_missingTable
    rintro ⟨rows, hsome, -⟩
    rw [hrows] at hsome
    cases hsome
  · rw [happly] at hm hafter
    refine frames_of_kept hafter ?_ hm (if_neg (by simp [hrows])).symm (not_saysMany_missing id)
    rintro ⟨others, hsome, r, hr, hid⟩
    obtain rfl : rows = others := Option.some.inj (hrows.symm.trans hsome)
    rw [hnone r hr] at hid
    cases hid
  · rw [happly] at hm hafter
    obtain ⟨hsuccess, hmessage⟩ := Prod.mk.inj hm
    have hdone : Succeeds (.ok m) := succeeds_ok_iff.mpr hsuccess
    obtain rfl := halone.split
    have hrow : ∃ r ∈ before ++ row :: rest, r.hasId id = true :=
      ⟨row, List.mem_append_right _ List.mem_cons_self, halone.hasId⟩
    constructor
    case succeeds_iff => exact iff_of_true hdone ⟨hvalid, _, hrows, hrow⟩
    case changed =>
      exact fun _ => ⟨before, row, rest, hrows, halone, congrArg Database.rows hafter,
        fun c hc => row.get_change_of_not_mem hc,
        Row.settles_foldl [u] (List.forall_mem_singleton.mpr hlegal) row⟩
    case kept => exact fun h => absurd hdone h
    case told =>
      intro n hn
      obtain rfl := Except.ok.inj hn
      rw [hmessage, hsuccess]
      rfl
    case never_many =>
      intro n hn
      obtain rfl := Except.ok.inj hn
      rw [hmessage]
      exact not_saysMany_updated u.change.kind

end

/-- Whatever was written to a database, an update there that is valid and names a row changes this row in its own
columns, and every other update changes nothing. More than one row is never changed. -/
theorem update_frames (timeout : ℕ) (maxLimit : UInt32) {s : State Database} (h : Reachable s.store) (now : Int64)
    (id : String) :
    (∀ point : Geo.Point, Frames s.store (Text.trim id ≠ "" ∧ point.isValid = true) (Text.trim id)
      ⟨.location point (point.geohash Geo.defaultPrecision), now⟩
      ((rowDesk timeout maxLimit).updateLocation now id point s)) ∧
    ∀ status, Frames s.store (Text.trim id ≠ "") (Text.trim id) ⟨.status status, now⟩
      ((rowDesk timeout maxLimit).updateStatus now id status s) := by
  constructor
  · intro point
    rw [Desk.updateLocation]
    by_cases hid : Text.trim id = ""
    · rw [checkId_of_eq hid]
      exact frames_of_rejected fun hvalid => hvalid.1 hid
    rw [checkId_of_ne hid]
    cases hpoint : point.error? with
    | some e =>
      refine frames_of_rejected fun hvalid => ?_
      rw [Geo.Point.error?_eq_none_iff.mpr hvalid.2] at hpoint
      cases hpoint
    | none =>
      have hvalid : point.isValid = true := Geo.Point.error?_eq_none_iff.mp hpoint
      refine frames_of_change h ⟨hid, hvalid⟩ ?_ rfl rfl
      exact hvalid
  · intro status
    rw [Desk.updateStatus]
    by_cases hid : Text.trim id = ""
    · rw [checkId_of_eq hid]
      exact frames_of_rejected fun hvalid => hvalid hid
    · rw [checkId_of_ne hid]
      refine frames_of_change h hid ?_ rfl rfl
      trivial

/-- Other programs left a row without an identifier and one whose identifier is bytes. An update of the third row
succeeds, and one that only the bytes would fit changes nothing. -/
theorem update_frames_of_three :
    let rows : List Row := [(Row.ofRecord { id := "" }).set .id .null,
      (Row.ofRecord { id := "" }).set .id (.blob [0x62]), .ofRecord { id := "a" }]
    Reachable ⟨some rows⟩ ∧
      Succeeds ((rowDesk 100 10).updateStatus 7 " a " .busy ⟨⟨some rows⟩, {}⟩).1 ∧
      ¬Succeeds ((rowDesk 100 10).updateLocation 7 "b" ⟨1, 2⟩ ⟨⟨some rows⟩, {}⟩).1 ∧
      ((rowDesk 100 10).updateLocation 7 "b" ⟨1, 2⟩ ⟨⟨some rows⟩, {}⟩).2.store = ⟨some rows⟩ := by
  intro rows
  have hreach : Reachable ⟨some rows⟩ := .others (some rows) fun rs hrs => by
    obtain rfl : rows = rs := Option.some.inj hrs
    decide
  have hstatus := (update_frames 100 10 (s := ⟨⟨some rows⟩, {}⟩) hreach 7 " a ").2 .busy
  have hlocation := (update_frames 100 10 (s := ⟨⟨some rows⟩, {}⟩) hreach 7 "b").1 ⟨1, 2⟩
  have hnone : ¬Succeeds ((rowDesk 100 10).updateLocation 7 "b" ⟨1, 2⟩ ⟨⟨some rows⟩, {}⟩).1 := by
    rw [hlocation.succeeds_iff]
    rintro ⟨-, rs, hrs, r, hr, hid⟩
    obtain rfl : rows = rs := Option.some.inj hrs
    exact absurd ⟨r, hr, hid⟩ (by decide : ¬∃ r ∈ rows, r.hasId (Text.trim "b") = true)
  exact ⟨hreach, hstatus.succeeds_iff.mpr ⟨by decide, rows, rfl, by decide⟩, hnone, hlocation.kept hnone⟩

end FleetLocator.Service
