import FleetLocator.Proofs.Driver.Exchange
import FleetLocator.Proofs.Json.Reader

/-!
# A driver and a place on the wire

The texts and the integers of a record survive being written as text and read again. A double does if its shortest
digits are few; of more digits the reader may make the next double, which is legal whenever the first is.
-/
namespace FleetLocator.Geo

/-- The point with the degrees that are read from their own texts. -/
def Point.reread (p : Point) : Point := ⟨Json.reread p.lat, Json.reread p.lng⟩

theorem Point.isValid_reread {p : Point} (h : p.isValid = true) : p.reread.isValid = true := by
  obtain ⟨-, ⟨hsouth, hnorth⟩, hwest, heast⟩ := isValid_iff.mp h
  obtain ⟨hlat, hlatlow, hlathigh⟩ := Json.isBound_ninety.reread_between hsouth hnorth
  obtain ⟨hlng, hlnglow, hlnghigh⟩ := Json.isBound_turn.reread_between hwest heast
  exact isValid_iff.mpr ⟨⟨hlat, hlng⟩, ⟨hlatlow, hlathigh⟩, hlnglow, hlnghigh⟩

theorem Point.moderate {p : Point} (h : p.isValid = true) : Json.Moderate p.lat ∧ Json.Moderate p.lng := by
  obtain ⟨-, ⟨hsouth, hnorth⟩, hwest, heast⟩ := isValid_iff.mp h
  exact ⟨Json.isBound_ninety.moderate hsouth hnorth, Json.isBound_turn.moderate hwest heast⟩

/-- Both degrees have few digits. -/
def Point.FewDigits (p : Point) : Prop := Json.FewDigits p.lat ∧ Json.FewDigits p.lng

instance (p : Point) : Decidable p.FewDigits := by unfold Point.FewDigits; infer_instance

theorem Point.reread_of_fewDigits {p : Point} (h : p.FewDigits) : p.reread = p := by
  rw [reread, Json.reread_of_fewDigits h.1, Json.reread_of_fewDigits h.2]

/-- Each degree that is not close to zero is the same double in both, or the next one. -/
def Point.Adjacent (p q : Point) : Prop :=
  (2 ^ (-19 : ℤ) < |Decimal.toRat p.lat| → Decimal.Adjacent p.lat q.lat) ∧
    (2 ^ (-19 : ℤ) < |Decimal.toRat p.lng| → Decimal.Adjacent p.lng q.lng)

theorem Point.adjacent_reread {p : Point} (h : p.isValid = true) : p.Adjacent p.reread := by
  obtain ⟨hlat, hlng⟩ := moderate h
  exact ⟨fun hfar => Json.adjacent_reread (Json.fewPlaces_of_moderate hlat hfar),
    fun hfar => Json.adjacent_reread (Json.fewPlaces_of_moderate hlng hfar)⟩

end FleetLocator.Geo

namespace FleetLocator.Driver

open Json (Document FieldValue Value plain_float plain_int64 reread_float reread_int64)

variable {r : Record}

namespace Record

/-- The record with the degrees and the rating that are read from their own texts. -/
def reread (r : Record) : Record :=
  { r with location := r.location.map Geo.Point.reread, rating := Json.reread r.rating }

theorem rating_between (h : r.InDomain) : 0 ≤ r.rating ∧ r.rating ≤ 5 := isRating_iff.mp h.2

theorem moderate_rating (h : r.InDomain) : Json.Moderate r.rating := by
  obtain ⟨hzero, hfive⟩ := rating_between h
  exact Json.isBound_five.moderate (Json.isBound_five.neg_le hzero hfive) hfive

theorem inDomain_reread (h : r.InDomain) : r.reread.InDomain := by
  obtain ⟨hzero, hfive⟩ := rating_between h
  refine ⟨fun p hp => ?_, isRating_iff.mpr ⟨Json.isBound_five.reread_nonneg hzero hfive, ?_⟩⟩
  · obtain ⟨q, hq, rfl⟩ := Option.map_eq_some_iff.mp hp
    exact Geo.Point.isValid_reread (h.1 q hq)
  · exact (Json.isBound_five.reread_between (Json.isBound_five.neg_le hzero hfive) hfive).2.2

theorem plain_value (h : r.InDomain) (f : Field) : (f.value r).Plain := by
  cases f with
  | latitude =>
    cases hp : r.location with
    | none => simp [Field.value, hp, Value.Plain]
    | some p => simpa [Field.value, hp] using plain_float (Geo.Point.moderate (h.1 p hp)).1
  | longitude =>
    cases hp : r.location with
    | none => simp [Field.value, hp, Value.Plain]
    | some p => simpa [Field.value, hp] using plain_float (Geo.Point.moderate (h.1 p hp)).2
  | rating => exact plain_float (moderate_rating h)
  | totalTrips => exact plain_int64 r.trips
  | timestamp => exact plain_int64 r.updatedAt
  | geohash => cases hs : r.geohash <;> simp [Field.value, hs, Value.Plain, FieldValue.toValue]
  | _ => trivial

theorem reread_value (h : r.InDomain) (f : Field) : (f.value r).reread = f.value r.reread := by
  have hlat (p : Geo.Point) (hp : p.isValid = true) :
      (FieldValue.toValue p.lat : Value).reread = FieldValue.toValue p.reread.lat :=
    reread_float (Geo.Point.isValid_iff.mp hp).1.1 (Geo.Point.isValid_iff.mp (Geo.Point.isValid_reread hp)).1.1
  have hlng (p : Geo.Point) (hp : p.isValid = true) :
      (FieldValue.toValue p.lng : Value).reread = FieldValue.toValue p.reread.lng :=
    reread_float (Geo.Point.isValid_iff.mp hp).1.2 (Geo.Point.isValid_iff.mp (Geo.Point.isValid_reread hp)).1.2
  cases f with
  | latitude =>
    cases hp : r.location with
    | none => simp [Field.value, reread, hp, Value.reread]
    | some p => simpa [Field.value, reread, hp] using hlat p (h.1 p hp)
  | longitude =>
    cases hp : r.location with
    | none => simp [Field.value, reread, hp, Value.reread]
    | some p => simpa [Field.value, reread, hp] using hlng p (h.1 p hp)
  | rating => exact reread_float (isFinite_of_isRating h.2) (isFinite_of_isRating (inDomain_reread h).2)
  | totalTrips => exact reread_int64 r.trips
  | timestamp => exact reread_int64 r.updatedAt
  | geohash => cases hs : r.geohash <;> simp [Field.value, reread, hs, Value.reread, FieldValue.toValue]
  | _ => rfl

theorem sorted_encode (r : Record) (fields : List Field) : (r.encode fields).Sorted :=
  r.encode_induction fields Document.sorted_empty fun _ _ _ hd => Document.sorted_insert hd _ _

theorem flat_encode (h : r.InDomain) (fields : List Field) : (r.encode fields).Flat :=
  r.encode_induction fields Document.flat_empty fun _ f _ hd => Document.flat_insert hd (plain_value h f) _

/-- What is read from the text of a record. -/
theorem decode_parse (h : r.InDomain) :
    (Document.parse (Text.Utf8.encode (r.encode Field.all).render)).map decode = .ok r.reread := by
  have hread : decode (r.encode Field.all).reread = r.reread := by
    apply decode_of_get? (inDomain_reread h)
    intro f
    rw [Document.get?_reread, get?_encode, if_pos f.mem_all, Option.map_some, reread_value h]
  rw [Document.parse_render (sorted_encode r Field.all) (flat_encode h Field.all), ← hread]
  rfl

end Record

/-- What is read from the text of a change of place. -/
theorem Change.decodeLocation_parse {p : Geo.Point} (h : p.isValid = true) (hash : String) :
    (Document.parse (Text.Utf8.encode (Change.location p hash).encode.render)).map decodeLocation =
      .ok (some p.reread) := by
  obtain ⟨hlat, hlng⟩ := Geo.Point.moderate h
  obtain ⟨⟨hlatfin, hlngfin⟩, -⟩ := Geo.Point.isValid_iff.mp h
  obtain ⟨⟨hlatfin', hlngfin'⟩, -⟩ := Geo.Point.isValid_iff.mp (Geo.Point.isValid_reread h)
  have hsorted : (Change.location p hash).encode.Sorted :=
    Document.sorted_insert (Document.sorted_insert Document.sorted_empty _ _) _ _
  have hflat : (Change.location p hash).encode.Flat :=
    Document.flat_insert (Document.flat_insert Document.flat_empty (plain_float hlat) _) (plain_float hlng) _
  have hne : Field.latitude.name ≠ Field.longitude.name := by decide
  have hread : decodeLocation (Change.location p hash).encode.reread = some p.reread := by
    apply decodeLocation_of_get? (fun q hq => by rw [← Option.some.inj hq]; exact Geo.Point.isValid_reread h)
    · rw [Document.get?_reread, encode, Document.put, Document.get?_insert_of_ne _ _ hne, Document.put,
        Document.get?_insert_self, Option.map_some, reread_float hlatfin hlatfin']
      rfl
    · rw [Document.get?_reread, encode, Document.put, Document.get?_insert_self, Option.map_some,
        reread_float hlngfin hlngfin']
      rfl
  rw [Document.parse_render hsorted hflat, ← hread]
  rfl

theorem Record.reread_of_fewDigits (hloc : ∀ q ∈ r.location, q.FewDigits) (hrating : Json.FewDigits r.rating) :
    r.reread = r := by
  have hlocation : r.location.map Geo.Point.reread = r.location := by
    cases hq : r.location with
    | none => rfl
    | some q => exact congrArg some (Geo.Point.reread_of_fewDigits (hloc q hq))
  rw [reread, hlocation, Json.reread_of_fewDigits hrating]

/-- The text of a legal record is read as the record but for its doubles, and the text of a change of place as the
place but for its degrees. What is read is legal. Doubles of few digits are the same again, and of the others
those that are not close to zero are the same or the next. -/
theorem Record.wire {p : Geo.Point} (hash : String) (hr : r.InDomain) (hp : p.isValid = true) :
    ((Document.parse (Text.Utf8.encode (r.encode Field.all).render)).map decode = .ok r.reread ∧
      r.reread.InDomain ∧
      ((∀ q ∈ r.location, q.FewDigits) → Json.FewDigits r.rating → r.reread = r) ∧
      (∀ q ∈ r.location, q.Adjacent q.reread) ∧
      (2 ^ (-19 : ℤ) < |Decimal.toRat r.rating| → Decimal.Adjacent r.rating r.reread.rating)) ∧
    (Document.parse (Text.Utf8.encode (Change.location p hash).encode.render)).map decodeLocation =
      .ok (some p.reread) ∧
    p.reread.isValid = true ∧ (p.FewDigits → p.reread = p) ∧ p.Adjacent p.reread :=
  ⟨⟨decode_parse hr, inDomain_reread hr, reread_of_fewDigits, fun q hq => Geo.Point.adjacent_reread (hr.1 q hq),
      fun hfar => Json.adjacent_reread (Json.fewPlaces_of_moderate (moderate_rating hr) hfar)⟩,
    Change.decodeLocation_parse hp hash, Geo.Point.isValid_reread hp, Geo.Point.reread_of_fewDigits,
    Geo.Point.adjacent_reread hp⟩

theorem Record.wire_of_few_digits :
    let p : Geo.Point := ⟨12.9716, -77.594600000001⟩
    let r : Record := { id := "d", location := some p, rating := 4.85, trips := 9007199254740993 }
    (Document.parse (Text.Utf8.encode (r.encode Field.all).render)).map decode = .ok r ∧
    (Document.parse (Text.Utf8.encode (Change.location p "").encode.render)).map decodeLocation = .ok (some p) := by
  intro p r
  have hp : p.FewDigits := by decide +kernel
  have hlegal : r.InDomain ∧ p.isValid = true := by decide +kernel
  obtain ⟨⟨hrecord, -, hr, -⟩, hplace, -, hsame, -⟩ := wire "" hlegal.1 hlegal.2
  rw [hr (fun q hq => Option.some.inj hq ▸ hp) (by decide +kernel)] at hrecord
  rw [hsame hp] at hplace
  exact ⟨hrecord, hplace⟩

/-- Of seventeen digits the reader makes the neighbours of the two degrees. -/
theorem Record.wire_of_many_digits :
    let p : Geo.Point := ⟨21.760192765045154, 97.45424510282939⟩
    let q : Geo.Point := ⟨21.76019276504515, 97.4542451028294⟩
    let r : Record := { id := "d", location := some p }
    (r.InDomain ∧ p.isValid = true) ∧ q.lat ≠ p.lat ∧ q.lng ≠ p.lng ∧
    (Document.parse (Text.Utf8.encode (r.encode Field.all).render)).map decode =
      .ok { r with location := some q } ∧
    (Document.parse (Text.Utf8.encode (Change.location p "").encode.render)).map decodeLocation = .ok (some q) := by
  intro p q r
  have hr : r.InDomain := by decide +kernel
  have hp : p.isValid = true := by decide +kernel
  have hreread : p.reread = q := by decide +kernel
  have hrecord : r.reread = { r with location := some q } := by
    have hrating : Json.reread 0 = 0 := by decide +kernel
    change { r with location := some p.reread, rating := Json.reread 0 } = { r with location := some q, rating := 0 }
    rw [hreread, hrating]
  refine ⟨⟨hr, hp⟩, by decide +kernel, by decide +kernel, ?_, ?_⟩
  · rw [decode_parse hr, hrecord]
  · rw [Change.decodeLocation_parse hp, hreread]

end FleetLocator.Driver
