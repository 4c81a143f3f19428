import FleetLocator.Proofs.Text.Percent
import FleetLocator.Rest.Api

/-!
# Paths, and the routes they lead to

A path leads where its segments lead. The segment that is written for an identifier spells it, has none of
the marks that end a segment in it, and is a fixed name only if the identifier is.
-/
namespace FleetLocator.Rest

open Service (State)

/-- None of the marks is in the segment that ends a segment, the path or the target. -/
def IsPlain (segment : List UInt8) : Prop := ∀ b ∈ segment, b ≠ Route.slash ∧ b ≠ 0x3F ∧ b ≠ 0x23

instance (segment : List UInt8) : Decidable (IsPlain segment) :=
  decidable_of_iff ((segment.all fun b => b != Route.slash && b != 0x3F && b != 0x23) = true)
    (by simp [IsPlain, and_assoc])

namespace Route

/-- The path of some segments, with a slash before each of them. -/
def path (segments : List (List UInt8)) : List UInt8 := segments.flatMap (slash :: ·)

theorem path_eq_intercalate {segments : List (List UInt8)} (h : segments ≠ []) :
    path segments = [slash].intercalate ([] :: segments) := by
  induction segments with
  | nil => exact absurd rfl h
  | cons segment segments ih =>
    cases segments with
    | nil => simp [path, List.intercalate]
    | cons next rest =>
      rw [path, List.flatMap_cons, ← path, ih (List.cons_ne_nil _ _)]
      simp [List.intercalate]

theorem ofPath?_path {segments : List (List UInt8)} (hne : segments ≠ [])
    (h : ∀ segment ∈ segments, IsPlain segment) : ofPath? (path segments) = ofSegments? segments := by
  have hslash : ∀ segment ∈ [] :: segments, slash ∉ segment := by
    rintro segment hmem hslash
    rcases List.mem_cons.mp hmem with rfl | hmem
    · exact List.not_mem_nil hslash
    · exact (h segment hmem slash hslash).1 rfl
  rw [ofPath?, path_eq_intercalate hne, List.splitOn_intercalate slash hslash (List.cons_ne_nil _ _)]

theorem mem_path {segments : List (List UInt8)} (h : ∀ segment ∈ segments, IsPlain segment) :
    ∀ b ∈ path segments, b ≠ 0x3F ∧ b ≠ 0x23 := by
  intro b hb
  obtain ⟨segment, hsegment, hmem⟩ := List.mem_flatMap.mp hb
  rcases List.mem_cons.mp hmem with rfl | hmem
  · decide
  · exact (h segment hsegment b hmem).2

theorem decodeId?_encodeId (id : String) : decodeId? (encodeId id) = some id := by
  rw [decodeId?, encodeId, Text.Utf8.encode, String.toList_ofList, Text.Percent.decode_encode (by decide)]
  exact Text.Utf8.decode_encode id

theorem hexUpper_ne : ∀ n < 16, Text.Percent.hexUpper n ≠ '/' ∧ Text.Percent.hexUpper n ≠ '?' ∧
    Text.Percent.hexUpper n ≠ '#' := by
  decide

theorem isPlain_encodeId (id : String) : IsPlain (encodeId id) := by
  intro b hb
  obtain ⟨c, hc, hb⟩ := List.mem_flatMap.mp hb
  rw [String.toList_ofList] at hc
  obtain ⟨hlow, hfree⟩ := Text.Percent.mem_encode hc
  rw [Text.Percent.encodeChar_of_lt hlow, List.mem_singleton] at hb
  have hmark (m : Char) (hm : m.toNat < 0x80) (hne : c ≠ m) : b ≠ UInt8.ofNat m.toNat := by
    rintro rfl
    have hnat := congrArg UInt8.toNat hb
    rw [UInt8.toNat_ofNat_of_lt' (show m.toNat < 256 by omega),
      UInt8.toNat_ofNat_of_lt' (show c.toNat < 256 by omega)] at hnat
    exact hne (Char.toNat_inj.mp hnat.symm)
  have hne : c ≠ '/' ∧ c ≠ '?' ∧ c ≠ '#' := by
    rcases hfree with hfree | rfl | ⟨n, hn, rfl⟩
    · refine ⟨?_, ?_, ?_⟩ <;> rintro rfl <;> exact absurd hfree (by decide)
    · decide
    · exact hexUpper_ne n hn
  exact ⟨hmark '/' (by decide) hne.1, hmark '?' (by decide) hne.2.1, hmark '#' (by decide) hne.2.2⟩

theorem encodeId_injective : Function.Injective encodeId := fun id other h => by
  have hid := decodeId?_encodeId id
  rw [h, decodeId?_encodeId] at hid
  exact (Option.some.inj hid).symm

/-- An identifier is written like the name of the search only if it is the name. -/
theorem encodeId_eq_nearby_iff {id : String} : encodeId id = word "nearby" ↔ id = "nearby" := by
  have hname : encodeId "nearby" = word "nearby" := by decide
  rw [← hname, encodeId_injective.eq_iff]

theorem isPlain_words : IsPlain (word "drivers") ∧ IsPlain (word "nearby") ∧ IsPlain (word "location") ∧
    IsPlain (word "status") := by
  decide

section

variable {segment part : List UInt8}

theorem isPlain_driver (h : IsPlain segment) : ∀ x ∈ [word "drivers", segment], IsPlain x := by
  simp [isPlain_words, h]

theorem isPlain_part (h : IsPlain segment) (hpart : IsPlain part) :
    ∀ x ∈ [word "drivers", segment, part], IsPlain x := by
  simp [isPlain_words, h, hpart]

theorem ofPath?_driver (h : IsPlain segment) (hsome : segment ≠ []) (hname : segment ≠ word "nearby") :
    ofPath? (path [word "drivers", segment]) = some (.driver segment) := by
  rw [ofPath?_path (List.cons_ne_nil _ _) (isPlain_driver h)]
  simp [ofSegments?, hsome, hname]

theorem ofPath?_nearby : ofPath? (path [word "drivers", word "nearby"]) = some .nearby := by decide

theorem ofPath?_location (h : IsPlain segment) :
    ofPath? (path [word "drivers", segment, word "location"]) = some (.location segment) := by
  rw [ofPath?_path (List.cons_ne_nil _ _) (isPlain_part h isPlain_words.2.2.1)]
  simp [ofSegments?]

theorem ofPath?_status (h : IsPlain segment) :
    ofPath? (path [word "drivers", segment, word "status"]) = some (.status segment) := by
  have hne : word "status" ≠ word "location" := by decide
  rw [ofPath?_path (List.cons_ne_nil _ _) (isPlain_part h isPlain_words.2.2.2)]
  simp [ofSegments?, hne]

end

end Route

/-- A request of a method for a path, perhaps with a query. -/
structure Request.Asks (r : Request) (method : String) (segments : List (List UInt8)) : Prop where
  method : r.method = method
  target : ∃ query : Option (List UInt8), r.target = Route.path segments ++ query.elim [] (0x3F :: ·)

theorem Request.Asks.path {r : Request} {method : String} {segments : List (List UInt8)}
    (h : r.Asks method segments) (hplain : ∀ segment ∈ segments, IsPlain segment) :
    (splitTarget r.target).1 = Route.path segments := by
  obtain ⟨query, hquery⟩ := h.target
  have hmem := Route.mem_path hplain
  rw [hquery, splitTarget, List.takeWhile_append_of_pos (by simpa using fun b hb => (hmem b hb).2)]
  dsimp only
  rw [List.takeWhile_append_of_pos (by simpa using fun b hb => (hmem b hb).1)]
  cases query <;> simp

namespace Api

variable {σ : Type} (api : Api σ) (now : Int64) (s : State σ) {r : Request} {route : Route}
  {durations : Option Service.Durations}

/-- A request with a method of its route, and not for the head alone, is carried out. -/
theorem handle_eq_perform (hroute : Route.ofPath? (splitTarget r.target).1 = some route)
    (hmethod : r.method ∈ route.methods) (hhead : r.method ≠ "HEAD") :
    api.handle now r s durations = api.perform now route (splitTarget r.target).2 r s durations := by
  have hoptions : r.method ≠ "OPTIONS" := by
    intro heq
    rw [heq] at hmethod
    cases route <;> simp [Route.methods] at hmethod
  simp only [handle, hroute, if_neg hoptions, if_neg hhead, List.contains_iff_mem.mpr hmethod, if_true]

theorem handle_of_asks {method : String} {segments : List (List UInt8)} (hasks : r.Asks method segments)
    (hplain : ∀ segment ∈ segments, IsPlain segment) (hroute : Route.ofPath? (Route.path segments) = some route)
    (hmethod : method ∈ route.methods) (hhead : method ≠ "HEAD") :
    api.handle now r s durations = api.perform now route (splitTarget r.target).2 r s durations :=
  api.handle_eq_perform now s (by rw [hasks.path hplain, hroute]) (hasks.method ▸ hmethod) (hasks.method ▸ hhead)

end Api

end FleetLocator.Rest
