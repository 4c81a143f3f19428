import FleetLocator.Proofs.Geo.Point
import FleetLocator.Proofs.Service.History

/-!
# The geohash of a driver is that of its place

Drivers come in without a geohash or with that of their place. Whatever the service is then asked to do, the
database gives no driver with another geohash; and a driver that was moved is at its new place, under the
geohash of this place, until it is moved again.
-/
namespace FleetLocator.Driver

/-- A geohash that the record has is that of its place. -/
def Record.IsFresh (r : Record) : Prop :=
  ∀ text ∈ r.geohash, ∃ p ∈ r.location, text = p.geohash Geo.defaultPrecision

instance (r : Record) : Decidable r.IsFresh := by unfold Record.IsFresh; infer_instance

/-- The record is at a point and has the geohash of this point. -/
structure Record.IsAt (r : Record) (p : Geo.Point) : Prop where
  location : r.location = some p
  geohash : r.geohash = some (p.geohash Geo.defaultPrecision)

/-- A new place comes with its geohash. -/
def Change.IsFresh : Change → Prop
  | .location point text => text = point.geohash Geo.defaultPrecision
  | .status _ => True

namespace Record

variable {r : Record} {p : Geo.Point}

theorem IsAt.isFresh (h : r.IsAt p) : r.IsFresh := by
  intro text htext
  rw [h.geohash, Option.mem_some_iff] at htext
  exact ⟨p, h.location, htext.symm⟩

theorem IsAt.unsignZeros (h : r.IsAt p) : r.unsignZeros.IsAt p.unsignZeros where
  location := by rw [Record.unsignZeros, h.location, Option.map_some]
  geohash := by rw [Record.unsignZeros, h.geohash, Geo.Point.geohash_unsignZeros]

theorem isFresh_unsignZeros (h : r.IsFresh) : r.unsignZeros.IsFresh := by
  intro text htext
  obtain ⟨p, hp, rfl⟩ := h text htext
  exact ⟨p.unsignZeros, Option.mem_map_of_mem _ hp, (Geo.Point.geohash_unsignZeros _ p).symm⟩

end Record

namespace Update

variable {r : Record} {p : Geo.Point}

theorem isAt_apply (p : Geo.Point) (now : Int64) (r : Record) :
    ((Update.mk (.location p (p.geohash Geo.defaultPrecision)) now).apply r).IsAt p := ⟨rfl, rfl⟩

theorem isAt_apply_status (h : r.IsAt p) (status : Status) (now : Int64) :
    ((Update.mk (.status status) now).apply r).IsAt p := ⟨h.location, h.geohash⟩

theorem isFresh_apply {u : Update} (hu : u.change.IsFresh) (h : r.IsFresh) : (u.apply r).IsFresh := by
  obtain ⟨change, now⟩ := u
  cases change with
  | location point text =>
    obtain rfl : text = point.geohash Geo.defaultPrecision := hu
    exact (isAt_apply point now r).isFresh
  | status status => exact h

end Update

end FleetLocator.Driver

namespace FleetLocator.RowStore

def Fleet.IsFresh (f : Fleet) : Prop := ∀ id r, f id = some r → r.IsFresh

def Write.IsFresh : Write → Prop
  | insert record => record.IsFresh
  | update _ u => u.change.IsFresh

/-- A write keeps every geohash that of its place, for it writes both or neither. -/
theorem Fleet.IsFresh.record {f : Fleet} (h : f.IsFresh) {w : Write} (hw : w.IsFresh) :
    (w.record f).IsFresh := by
  intro id r hr
  cases w with
  | insert record =>
    rw [Write.record, insert, Function.update_apply] at hr
    split at hr
    · obtain rfl := Option.some.inj hr
      exact hw
    · exact h id r hr
  | update other u =>
    rw [Write.record, update, Function.update_apply] at hr
    split at hr
    · obtain ⟨s, hs, rfl⟩ := Option.map_eq_some_iff.mp hr
      exact Driver.Update.isFresh_apply hw (h other s hs)
    · exact h id r hr

theorem Fleet.isFresh_afterWrites {ws : List Write} (hws : ∀ w ∈ ws, w.IsFresh) : (afterWrites ws).IsFresh :=
  List.foldlRecOn ws _ (fun _ _ hr => nomatch hr) fun _ h w hw => h.record (hws w hw)

end FleetLocator.RowStore

namespace FleetLocator.Service

open Driver (Record)
open RowStore (Database Fleet Mirrors)

def Call.IsFresh : Call → Prop
  | insert record => record.IsFresh
  | operation _ => True

instance : (c : Call) → Decidable c.IsFresh
  | .insert record => inferInstanceAs (Decidable record.IsFresh)
  | .operation _ => inferInstanceAs (Decidable True)

theorem Call.isFresh_write? {c : Call} (hc : c.IsFresh) {w : RowStore.Write} (hw : w ∈ c.write?) : w.IsFresh := by
  cases c with
  | insert record =>
    obtain rfl := Option.some.inj hw
    exact hc
  | operation o =>
    cases o with
    | findNearby q => cases hw
    | driverStatus id => cases hw
    | updateLocation now id point =>
      obtain ⟨-, hw⟩ := Option.ite_none_right_eq_some.mp hw
      obtain rfl := Option.some.inj hw
      rfl
    | updateStatus now id status =>
      obtain ⟨-, hw⟩ := Option.ite_none_right_eq_some.mp hw
      obtain rfl := Option.some.inj hw
      trivial

theorem isFresh_fleetAfterCalls {calls : List Call} (hcalls : ∀ c ∈ calls, c.IsFresh) :
    (fleetAfterCalls calls).IsFresh := by
  refine Fleet.isFresh_afterWrites fun w hw => ?_
  obtain ⟨c, hc, hwrite⟩ := List.mem_filterMap.mp hw
  exact Call.isFresh_write? (hcalls c hc) hwrite

theorem isFresh_of_fetch {db : Database} {f : Fleet} (h : Mirrors db f) (hf : f.IsFresh) {id : String} {r : Record}
    (hr : db.fetch id = .ok (some r)) : r.IsFresh := by
  rw [h.fetch_eq, Except.ok.injEq] at hr
  obtain ⟨s, hs, rfl⟩ := Option.map_eq_some_iff.mp hr
  exact Record.isFresh_unsignZeros (hf id s hs)

theorem isFresh_candidates {db : Database} {f : Fleet} (h : Mirrors db f) (hf : f.IsFresh) :
    ∃ found, db.candidates = .ok found ∧ ∀ r ∈ found, r.IsFresh := by
  obtain ⟨found, hfound, -, hmem⟩ := h.candidates
  refine ⟨found, hfound, fun r hr => ?_⟩
  obtain ⟨s, hs, rfl, -⟩ := (hmem r).mp hr
  exact Record.isFresh_unsignZeros (hf _ s hs)

/-- The operation gives a driver a new place, with success. -/
def Operation.Moves {σ : Type} (desk : Desk σ) (s : State σ) (id : String) (o : Operation) : Prop :=
  ∃ now text point m, o = .updateLocation now text point ∧ Text.trim text = id ∧
    (desk.updateLocation now text point s).1 = .ok m ∧ m.success = true

/-- None of the operations of a run moves the driver. -/
def Stays {σ : Type} (desk : Desk σ) (id : String) : State σ → List Operation → Prop
  | _, [] => True
  | s, o :: os => ¬o.Moves desk s id ∧ Stays desk id (o.perform desk s).2 os

/-- The driver that was last written under an identifier is at a point. -/
def KeptAt (f : Fleet) (id : String) (p : Geo.Point) : Prop := ∃ r, f id = some r ∧ r.IsAt p

section

variable {timeout : Nat} {maxLimit : UInt32} {s : State Database} {f : Fleet} {id : String} {p : Geo.Point}

/-- An update of a driver that is there succeeds. -/
theorem moves_of_isSome (h : Mirrors s.store f) {now : Int64} {text : String} {point : Geo.Point}
    (hvalid : (Operation.updateLocation now text point).IsValid) (hf : (f (Text.trim text)).isSome = true) :
    (Operation.updateLocation now text point).Moves (rowDesk timeout maxLimit) s (Text.trim text) := by
  obtain ⟨a, ha, hsuccess, -⟩ := @Operation.perform_of_isValid _ (rowDesk timeout maxLimit) s _ hvalid
  have hdone : a.success = true := by
    refine hsuccess.mpr ?_
    change Reply.ofExcept (s.store.apply (Text.trim text) _).1 = .done 1
    rw [h.apply_eq, if_pos hf]
    rfl
  cases hm : ((rowDesk timeout maxLimit).updateLocation now text point s).1 with
  | error reason => simp [Operation.perform, hm, Except.map] at ha
  | ok m =>
    obtain rfl : Answer.mutation m = a := by simpa [Operation.perform, hm, Except.map] using ha
    exact ⟨now, text, point, m, rfl, rfl, hm, hdone⟩

/-- An update that succeeds is valid, and the driver is there. -/
theorem isSome_of_success (h : Mirrors s.store f) {now : Int64} {text : String} {point : Geo.Point} {m : Mutation}
    (hm : ((rowDesk timeout maxLimit).updateLocation now text point s).1 = .ok m) (hsuccess : m.success = true) :
    (Operation.updateLocation now text point).IsValid ∧ (f (Text.trim text)).isSome = true := by
  have hperform : ((Operation.updateLocation now text point).perform (rowDesk timeout maxLimit) s).1 =
      .ok (.mutation m) := by rw [Operation.perform, hm]; rfl
  have hvalid := Operation.isValid_of_ok hperform
  obtain ⟨a, ha, hfulfils, -⟩ := @Operation.perform_of_isValid _ (rowDesk timeout maxLimit) s _ hvalid
  obtain rfl := Except.ok.inj (hperform.symm.trans ha)
  have hdone : Reply.ofExcept (s.store.apply (Text.trim text) _).1 = .done 1 := hfulfils.mp hsuccess
  rw [h.apply_eq] at hdone
  refine ⟨hvalid, ?_⟩
  by_contra hnone
  rw [if_neg hnone] at hdone
  cases hdone

/-- What does not move a driver leaves it where it is. -/
theorem keptAt_write? (h : Mirrors s.store f) (hkept : KeptAt f id p) {o : Operation}
    (ho : ¬o.Moves (rowDesk timeout maxLimit) s id) :
    KeptAt ((Call.operation o).write?.elim f fun w => w.record f) id p := by
  obtain ⟨r, hr, hplaced⟩ := hkept
  cases o with
  | findNearby q => exact ⟨r, hr, hplaced⟩
  | driverStatus other => exact ⟨r, hr, hplaced⟩
  | updateLocation now text point =>
    by_cases hvalid : (Operation.updateLocation now text point).IsValid
    · have hne : id ≠ Text.trim text := by
        rintro rfl
        exact ho (moves_of_isSome h hvalid (by rw [hr]; rfl))
      have hwrite : Text.trim text ≠ "" ∧ point.isValid = true := hvalid
      refine ⟨r, ?_, hplaced⟩
      rw [Call.write?, if_pos hwrite, Option.elim_some, RowStore.Write.record, Fleet.update,
        Function.update_of_ne hne, hr]
    · rw [write?_of_not_isValid hvalid]
      exact ⟨r, hr, hplaced⟩
  | updateStatus now text status =>
    by_cases hvalid : (Operation.updateStatus now text status).IsValid
    · have hwrite : Text.trim text ≠ "" := hvalid
      rw [Call.write?, if_pos hwrite, Option.elim_some, RowStore.Write.record, Fleet.update]
      by_cases hid : id = Text.trim text
      · subst hid
        exact ⟨_, by rw [Function.update_self, hr]; rfl, Driver.Update.isAt_apply_status hplaced status now⟩
      · exact ⟨r, by rw [Function.update_of_ne hid, hr], hplaced⟩
    · rw [write?_of_not_isValid hvalid]
      exact ⟨r, hr, hplaced⟩

/-- A run that does not move a driver leaves it where it is. -/
theorem keptAt_run (h : Mirrors s.store f) (hkept : KeptAt f id p) {os : List Operation}
    (hos : Stays (rowDesk timeout maxLimit) id s os) :
    ∃ g, Mirrors (Operation.run (rowDesk timeout maxLimit) s os).store g ∧ KeptAt g id p := by
  induction os generalizing s f with
  | nil => exact ⟨f, h, hkept⟩
  | cons o os ih =>
    obtain ⟨ho, hos⟩ := hos
    obtain ⟨next, hnext, hmirrors⟩ := @mirrors_perform timeout maxLimit s f h (.operation o) trivial
    obtain rfl := Except.ok.inj hnext
    exact ih hmirrors (keptAt_write? h hkept ho) hos

/-- A driver that was moved is at its new place. -/
theorem keptAt_of_success (h : Mirrors s.store f) {now : Int64} {text : String} {m : Mutation}
    (hm : ((rowDesk timeout maxLimit).updateLocation now text p s).1 = .ok m) (hsuccess : m.success = true) :
    ∃ g, Mirrors ((rowDesk timeout maxLimit).updateLocation now text p s).2.store g ∧
      KeptAt g (Text.trim text) p := by
  obtain ⟨hvalid, hsome⟩ := isSome_of_success h hm hsuccess
  obtain ⟨r, hr⟩ := Option.isSome_iff_exists.mp hsome
  obtain ⟨next, hnext, hmirrors⟩ := @mirrors_perform timeout maxLimit s f h
    (.operation (.updateLocation now text p)) trivial
  obtain rfl := Except.ok.inj hnext
  refine ⟨_, hmirrors, ?_⟩
  have hwrite : Text.trim text ≠ "" ∧ p.isValid = true := hvalid
  rw [Call.write?, if_pos hwrite, Option.elim_some, RowStore.Write.record, Fleet.update]
  exact ⟨_, by rw [Function.update_self, hr]; rfl, Driver.Update.isAt_apply p now r⟩

end

/-- Every geohash that a database gives is that of the driver's place. A driver that was moved is given at its
new place, up to the sign of a zero, under the geohash that was told, until it is moved again. -/
theorem geohash_never_stale (timeout : Nat) (maxLimit : UInt32) (calls : List Call)
    (hcalls : ∀ c ∈ calls, c.Legal ∧ c.IsFresh) :
    ∃ s, afterCalls (rowDesk timeout maxLimit) calls = .ok s ∧
      (∀ id r, s.store.fetch id = .ok (some r) → r.IsFresh) ∧
      (∃ found, s.store.candidates = .ok found ∧ ∀ r ∈ found, r.IsFresh) ∧
      ∀ now text point m, ((rowDesk timeout maxLimit).updateLocation now text point s).1 = .ok m →
        m.success = true →
        m.location = some point ∧ m.geohash = some (point.geohash Geo.defaultPrecision) ∧
        ∀ os, Stays (rowDesk timeout maxLimit) (Text.trim text)
            ((rowDesk timeout maxLimit).updateLocation now text point s).2 os →
          ∃ r, (Operation.run (rowDesk timeout maxLimit)
              ((rowDesk timeout maxLimit).updateLocation now text point s).2 os).store.fetch (Text.trim text) =
                .ok (some r) ∧
            r.location = some point.unsignZeros ∧ point.unsignZeros.SameDegrees point ∧ r.geohash = m.geohash := by
  obtain ⟨s, hs, h⟩ : ∃ s, afterCalls (rowDesk timeout maxLimit) calls = .ok s ∧ Mirrors s.store _ :=
    mirrors_afterCalls fun c hc => (hcalls c hc).1
  have hfresh := isFresh_fleetAfterCalls fun c hc => (hcalls c hc).2
  refine ⟨s, hs, fun id r hr => isFresh_of_fetch h hfresh hr, isFresh_candidates h hfresh, ?_⟩
  intro now text point m hm hsuccess
  obtain ⟨hvalid, hlocation, hgeohash⟩ := updateLocation_eq_ok hm
  refine ⟨hlocation, hgeohash, fun os hos => ?_⟩
  obtain ⟨f, hmirrors, hkept⟩ := keptAt_of_success h hm hsuccess
  obtain ⟨g, hmirrors, r, hr, hat⟩ := keptAt_run hmirrors hkept hos
  refine ⟨r.unsignZeros, ?_, hat.unsignZeros.location, Geo.Point.sameDegrees_unsignZeros hvalid, ?_⟩
  · rw [hmirrors.fetch_eq, hr, Option.map_some]
  · rw [hat.unsignZeros.geohash, Geo.Point.geohash_unsignZeros, hgeohash]

/-- A driver with a geohash is moved to the edge of the earth, at a zero with a sign. It stays there when it
becomes busy, and when an update names a point that is not on the earth. -/
theorem geohash_never_stale_of_moved :
    ∃ s m r, afterCalls (rowDesk 100 10)
        [.insert { id := "a", location := some ⟨57.64911, 10.40744⟩, geohash := some "u4pruydq" },
          .operation (.updateStatus 7 "a" .available)] = .ok s ∧
      ((rowDesk 100 10).updateLocation 8 " a " ⟨-0.0, 180⟩ s).1 = .ok m ∧ m.success = true ∧
      (Operation.run (rowDesk 100 10) ((rowDesk 100 10).updateLocation 8 " a " ⟨-0.0, 180⟩ s).2
        [.updateStatus 9 "a" .busy, .updateLocation 10 "a" ⟨91, 0⟩]).store.fetch "a" = .ok (some r) ∧
      r.location = some ⟨0, 180⟩ ∧ r.geohash = some "xbpbpbpb" := by
  have hstays (s : State Database) : Stays (rowDesk 100 10) "a" s
      [.updateStatus 9 "a" .busy, .updateLocation 10 "a" ⟨91, 0⟩] := by
    refine ⟨?_, ?_, trivial⟩
    · rintro ⟨now, text, point, m, h, -⟩
      cases h
    · rintro ⟨now, text, point, m, h, -, hm, -⟩
      cases h
      cases hm
  obtain ⟨s, hs, -, -, hmoved⟩ := geohash_never_stale 100 10
    [.insert { id := "a", location := some ⟨57.64911, 10.40744⟩, geohash := some "u4pruydq" },
      .operation (.updateStatus 7 "a" .available)] (by decide +kernel)
  cases hs
  obtain ⟨-, hgeohash, hkept⟩ := hmoved 8 " a " ⟨-0.0, 180⟩ _ rfl rfl
  obtain ⟨r, hr, hlocation, -, hsame⟩ := hkept _ (hstays _)
  refine ⟨_, _, r, rfl, rfl, rfl, hr, hlocation, hsame.trans (hgeohash.trans ?_)⟩
  decide +kernel

end FleetLocator.Service
