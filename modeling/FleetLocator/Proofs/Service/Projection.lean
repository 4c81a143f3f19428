import FleetLocator.Proofs.Driver.Wire
import FleetLocator.Proofs.Json.Reader
import FleetLocator.Proofs.Peer.RoundTrip

/-!
# Documents that say part of a driver

A document in the order of its names is known by what it has under each name, so that it can be compared with a part
of another one name by name. A document of some fields is the part of the document of all fields that these fields
are, however they are listed. What is found nearby has a distance besides, and what is written of a change is the
part of the changed driver that the change is about.
-/
namespace FleetLocator.Json.Document

variable {d e : Document} {name : String}

theorem get?_eq_none_iff : d.get? name = none ↔ name ∉ d.names := by
  rw [get?, List.lookup_eq_none_iff, names, List.mem_map]
  constructor
  · rintro h ⟨field, hfield, rfl⟩
    exact absurd (h field hfield) (by simp)
  · intro h field hfield
    exact bne_iff_ne.mpr fun heq => h ⟨field, hfield, heq.symm⟩

theorem mem_names_insert {other : String} (d : Document) (value : Value) :
    other ∈ (d.insert name value).names ↔ other = name ∨ other ∈ d.names := by
  by_cases hother : other = name
  · subst hother
    have hsome : (d.insert other value).get? other ≠ none := by simp
    exact iff_of_true (not_not.mp (mt get?_eq_none_iff.mpr hsome)) (.inl rfl)
  · rw [← not_iff_not, ← get?_eq_none_iff, get?_insert_of_ne d value hother, get?_eq_none_iff]
    simp [hother]

theorem Sorted.nodup_names (h : d.Sorted) : d.names.Nodup := by
  refine List.pairwise_map.mpr (h.imp fun hlt => ?_)
  exact ne_of_lt hlt

/-- The fields of a sorted document are its values under their names. -/
theorem Sorted.mem_fields_iff (h : d.Sorted) {field : String × Value} :
    field ∈ d.fields ↔ d.get? field.1 = some field.2 := by
  rw [get?, List.lookup_eq_some_iff]
  constructor
  · intro hfield
    obtain ⟨before, after, hsplit⟩ := List.append_of_mem hfield
    refine ⟨before, after, hsplit, fun other hother => ?_⟩
    rw [Sorted, hsplit] at h
    exact bne_iff_ne.mpr (ne_of_gt ((List.pairwise_append.mp h).2.2 other hother field List.mem_cons_self))
  · rintro ⟨before, after, hsplit, -⟩
    rw [hsplit]
    exact List.mem_append_right before List.mem_cons_self

/-- Two sorted documents with the same values under all names are the same. -/
theorem Sorted.ext (hd : d.Sorted) (he : e.Sorted) (h : ∀ name, d.get? name = e.get? name) : d = e := by
  have hnodup {c : Document} (hc : c.Sorted) : c.fields.Nodup := hc.nodup_names.of_map
  have hperm : d.fields.Perm e.fields := by
    rw [List.perm_ext_iff_of_nodup (hnodup hd) (hnodup he)]
    intro field
    rw [hd.mem_fields_iff, he.mem_fields_iff, h]
  have hfields : d.fields = e.fields := hperm.eq_of_pairwise
    (fun f g _ _ hfg hgf => absurd hgf (lt_asymm hfg)) hd he
  rw [← show Document.mk d.fields = d from rfl, hfields]

/-- The document with what it has under the listed names, and nothing else. -/
def restrict (d : Document) (names : List String) : Document := ⟨d.fields.filter fun field => names.contains field.1⟩

theorem Sorted.restrict (h : d.Sorted) (names : List String) : (d.restrict names).Sorted :=
  h.sublist List.filter_sublist

theorem Sorted.without (h : d.Sorted) (name : String) : (d.without name).Sorted :=
  h.sublist List.filter_sublist

theorem Sorted.get?_restrict (h : d.Sorted) (names : List String) (name : String) :
    (d.restrict names).get? name = if name ∈ names then d.get? name else none := by
  ext v
  have hmem : (name, v) ∈ (d.restrict names).fields ↔ (d.restrict names).get? name = some v :=
    (h.restrict names).mem_fields_iff
  rw [← hmem, Document.restrict, List.mem_filter, h.mem_fields_iff]
  by_cases hname : name ∈ names <;> simp [hname]

/-- Without the name that was added to it, a document is what it was. -/
theorem Sorted.without_insert (h : d.Sorted) (hname : name ∉ d.names) (value : Value) :
    (d.insert name value).without name = d := by
  refine ((sorted_insert h name value).without name).ext h fun other => ?_
  by_cases hother : other = name
  · rw [hother, get?_without_self, get?_eq_none_iff.mpr hname]
  · rw [get?_without_of_ne _ hother, get?_insert_of_ne d value hother]

end FleetLocator.Json.Document

namespace FleetLocator.Driver

open Json (Document)

namespace Record

variable {fields others : List Field} {d : Document} {name : String}

theorem get?_encode_of_ne (r : Record) (h : ∀ f ∈ fields, f.name ≠ name) : (r.encode fields).get? name = none :=
  r.encode_induction (P := fun d => d.get? name = none) fields rfl fun d f hf hd => by
    rw [d.get?_insert_of_ne _ (h f hf).symm, hd]

/-- A document has the names of the listed fields, and no others. -/
theorem mem_names_encode (r : Record) : name ∈ (r.encode fields).names ↔ ∃ f ∈ fields, f.name = name := by
  rw [← not_iff_not, ← Document.get?_eq_none_iff]
  constructor
  · rintro hnone ⟨f, hf, rfl⟩
    rw [get?_encode, if_pos hf] at hnone
    cases hnone
  · exact fun h => r.get?_encode_of_ne fun f hf hname => h ⟨f, hf, hname⟩

/-- A sorted document with the values of the listed fields and nothing else is the document of these fields. -/
theorem encode_eq {r : Record} (hd : d.Sorted)
    (hfield : ∀ f : Field, d.get? f.name = if f ∈ fields then some (f.value r) else none)
    (hother : ∀ name, (∀ f : Field, f.name ≠ name) → d.get? name = none) : r.encode fields = d := by
  refine (sorted_encode r fields).ext hd fun name => ?_
  by_cases hname : ∃ f : Field, f.name = name
  · obtain ⟨f, rfl⟩ := hname
    rw [get?_encode, hfield]
  · have hne : ∀ f : Field, f.name ≠ name := fun f hf => hname ⟨f, hf⟩
    rw [get?_encode_of_ne r fun f _ => hne f, hother name hne]

/-- In which order the fields are listed, and how often, does not matter. -/
theorem encode_congr (r : Record) (h : ∀ f, f ∈ others ↔ f ∈ fields) : r.encode others = r.encode fields :=
  encode_eq (sorted_encode r fields) (fun f => by rw [get?_encode]; simp only [h])
    fun _ hname => r.get?_encode_of_ne fun f _ => hname f

/-- The document of some fields is the part that they are of the document of all fields. -/
theorem encode_eq_restrict (r : Record) (fields : List Field) :
    r.encode fields = (r.encode Field.all).restrict (fields.map Field.name) := by
  have hall := sorted_encode r Field.all
  refine encode_eq (hall.restrict _) (fun f => ?_) fun name hname => ?_
  · have hmem : f.name ∈ fields.map Field.name ↔ f ∈ fields :=
      List.mem_map_of_injective fun _ _ h => Field.name_injective h
    rw [hall.get?_restrict, get?_encode, if_pos f.mem_all]
    simp only [hmem]
  · rw [hall.get?_restrict, r.get?_encode_of_ne fun f _ => hname f, ite_self]

end Record

namespace Change

/-- The fields that a change is written with. -/
def fields : Change → List Field
  | .location _ _ => [.latitude, .longitude]
  | .status _ => [.status]

/-- The record has the place or the status that the change gives. -/
def IsMadeIn (r : Record) : Change → Prop
  | .location point _ => r.location = some point
  | .status chosen => r.status = chosen

theorem isMadeIn_apply (u : Update) (r : Record) : u.change.IsMadeIn (u.apply r) := by
  obtain ⟨change, timestamp⟩ := u
  cases change <;> exact rfl

/-- A change is written as its fields are of any record that it is made in. -/
theorem encode_eq {r : Record} {c : Change} (h : c.IsMadeIn r) : c.encode = r.encode c.fields := by
  cases c with
  | location point geohash =>
    have hlocation : r.location = some point := h
    simp only [fields, Record.encode, List.foldl_cons, List.foldl_nil, Field.write, hlocation]
    rfl
  | status chosen =>
    obtain rfl : r.status = chosen := h
    rfl

end Change

end FleetLocator.Driver

namespace FleetLocator.Service

open Driver (Change Field Record Update)
open Json (Document FieldValue)

/-- What a list of fields, the neighbourhood and a change leave of the document of a driver. -/
theorem documents_projected (r : Record) (fields : List Field) (m : Search.Match) (c : Change) :
    ((∀ name, name ∈ (r.encode fields).names ↔ ∃ f ∈ fields, f.name = name) ∧
      (r.encode fields).names.Nodup ∧
      r.encode fields = (r.encode Field.all).restrict (fields.map Field.name) ∧
      ∀ others, (∀ f, f ∈ others ↔ f ∈ fields) → r.encode others = r.encode fields) ∧
    ("distance" ∉ (m.driver.encode Field.all).names ∧
      (∀ name, name ∈ (nearbyDocument m).names ↔ name = "distance" ∨ name ∈ (m.driver.encode Field.all).names) ∧
      (nearbyDocument m).get? "distance" = some (FieldValue.toValue (reportedDistance m.distance)) ∧
      (nearbyDocument m).without "distance" = m.driver.encode Field.all) ∧
    (∀ name, name ∈ c.encode.names ↔ ∃ f ∈ c.fields, f.name = name) ∧
    (∀ changed, c.IsMadeIn changed → c.encode = changed.encode c.fields) ∧
    ∀ now, c.IsMadeIn (Update.apply ⟨c, now⟩ r) := by
  have hdistance : "distance" ∉ (m.driver.encode Field.all).names := by
    rw [Record.mem_names_encode]
    rintro ⟨f, -, hf⟩
    exact Peer.name_ne_of_mem_envelope (by decide) f hf
  refine ⟨⟨fun _ => r.mem_names_encode, (Driver.Record.sorted_encode r fields).nodup_names,
      r.encode_eq_restrict fields, fun _ => r.encode_congr⟩,
    ⟨hdistance, fun name => Document.mem_names_insert _ _, Document.get?_insert_self _ _ _,
      (Driver.Record.sorted_encode m.driver Field.all).without_insert hdistance _⟩, ?_, ?_, ?_⟩
  · intro name
    rw [Change.encode_eq (Change.isMadeIn_apply ⟨c, 0⟩ r)]
    exact Record.mem_names_encode _
  · exact fun _ => Change.encode_eq
  · exact fun now => Change.isMadeIn_apply ⟨c, now⟩ r

/-- Three fields of a driver without a place, of which one is listed twice, and a place as another driver has it. -/
theorem documents_projected_of_repeated :
    let r : Record := { id := "d", status := .busy }
    let placed : Record := { id := "e", location := some ⟨1.5, 2.5⟩ }
    (∀ f, f ∈ [Field.driverId, .latitude, .status] ↔ f ∈ [Field.status, .driverId, .status, .latitude]) ∧
      r.encode [.driverId, .latitude, .status] = r.encode [.status, .driverId, .status, .latitude] ∧
      (Change.location ⟨1.5, 2.5⟩ "s00").IsMadeIn placed ∧
      (Change.location ⟨1.5, 2.5⟩ "s00").encode = placed.encode [.latitude, .longitude] := by
  intro r placed
  have hfields : ∀ f, f ∈ [Field.driverId, .latitude, .status] ↔ f ∈ [Field.status, .driverId, .status, .latitude] := by
    intro f
    cases f <;> decide
  obtain ⟨⟨-, -, -, hlisted⟩, -, -, hmade, -⟩ := documents_projected r [.status, .driverId, .status, .latitude]
    ⟨placed, 0⟩ (.location ⟨1.5, 2.5⟩ "s00")
  exact ⟨hfields, hlisted _ hfields, rfl, hmade placed rfl⟩

end FleetLocator.Service
