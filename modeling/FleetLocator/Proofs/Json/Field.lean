import FleetLocator.Json.Field
import Mathlib.Data.Int.Order.Basic

/-!
# Values that are read back from a document

A text, a truth value, an integer of 64 bits, a finite double and a list of documents are read from the
value that is written for them, and what is written into a document under different names stays apart.
-/
namespace FleetLocator.Json

open Decimal (saturate)

@[simp] theorem saturate_toInt (n : Int64) : saturate n.toInt = n := by
  have hlow := n.minValue_le_toInt
  have hhigh := n.toInt_le
  rw [saturate, min_eq_left hhigh, max_eq_right hlow, Int64.ofInt_toInt]

theorem toInt_toInt64 {n : UInt64} (h : n < 0x8000000000000000) : n.toInt64.toInt = n.toNat := by
  have hlt : n.toNat < 2 ^ 63 := UInt64.lt_iff_toNat_lt.mp h
  change n.toBitVec.toInt = n.toNat
  rw [BitVec.toInt_eq_toNat_of_lt]
  · rfl
  · change 2 * n.toNat < 2 ^ 64
    omega

@[simp] theorem Number.whole?_ofInt64 (n : Int64) : (Number.ofInt64 n).whole? = some n := by
  unfold Number.ofInt64
  split
  · rfl
  · next h =>
    have hn : 0 ≤ n.toInt := by
      rw [Int64.lt_iff_toInt_lt] at h
      exact not_lt.mp h
    have hsmall : n.toInt.toNat < 2 ^ 63 := by
      have := n.toInt_lt
      omega
    have hnat : (UInt64.ofNat n.toInt.toNat).toNat = n.toInt.toNat :=
      UInt64.toNat_ofNat_of_lt' (Nat.lt_trans hsmall (by decide))
    have hlt : UInt64.ofNat n.toInt.toNat < 0x8000000000000000 := by
      rw [UInt64.lt_iff_toNat_lt, hnat]
      exact hsmall
    have hint : (UInt64.ofNat n.toInt.toNat).toInt64.toInt = n.toInt := by
      rw [toInt_toInt64 hlt, hnat, Int.toNat_of_nonneg hn]
    rw [Number.whole?, if_pos hlt, Int64.toInt_inj.mp hint]

theorem Number.toInt64?_of_whole? {v : Number} {n : Int64} (h : v.whole? = some n) : v.toInt64? = some n := by
  rw [toInt64?, h]
  rfl

@[simp] theorem Number.toInt64?_ofInt64 (n : Int64) : (Number.ofInt64 n).toInt64? = some n :=
  toInt64?_of_whole? (whole?_ofInt64 n)

/-- What is written for the value is there, and the value is read from it. -/
def Faithful {α : Type} [FieldValue α] (a : α) : Prop :=
  (FieldValue.toValue a).isNull = false ∧ FieldValue.ofValue? (FieldValue.toValue a) = some a

theorem faithful_string (s : String) : Faithful s := ⟨rfl, rfl⟩

theorem faithful_int64 (n : Int64) : Faithful n := ⟨rfl, Number.toInt64?_ofInt64 n⟩

theorem faithful_float {x : Float} (h : x.isFinite = true) : Faithful x := by
  have hvalue : FieldValue.toValue x = .number (.real x) := if_pos h
  constructor
  · rw [hvalue]
    rfl
  · rw [hvalue]
    rfl

theorem faithful_bool (b : Bool) : Faithful b := ⟨rfl, rfl⟩

theorem faithful_document (d : Document) : Faithful d := ⟨rfl, rfl⟩

theorem faithful_documents (ds : List Document) : Faithful ds := by
  constructor
  · rfl
  · have hitem : Value.document? ∘ (fun d : Document => Value.document d.fields) = some := rfl
    change some ((ds.map fun d => Value.document d.fields).filterMap Value.document?) = some ds
    rw [List.filterMap_map, hitem, List.filterMap_some]

namespace Document

variable {α : Type} [FieldValue α] {d : Document} {name : String}

theorem optional_of_get? {a : α} (ha : Faithful a) (h : d.get? name = some (FieldValue.toValue a)) :
    d.optional α name = some a := by
  simp only [optional, h, Option.bind_some, ha.1, Bool.false_eq_true, if_false, ha.2]

theorem optional_of_get?_null (h : d.get? name = some .null) : d.optional α name = none := by
  simp only [optional, h, Option.bind_some, Value.isNull, if_true]

/-- A kind that null is not of needs no test for it. -/
theorem optional_eq_bind (h : (FieldValue.ofValue? .null : Option α) = none) (d : Document) (name : String) :
    d.optional α name = (d.get? name).bind FieldValue.ofValue? := by
  unfold optional
  congr
  funext v
  cases v with
  | null => simp [Value.isNull, h]
  | _ => simp [Value.isNull]

/-- An optional value is read back whether it is there or not. -/
theorem optional_of_get?_elim {a : Option α} (ha : ∀ x ∈ a, Faithful x)
    (h : d.get? name = some (a.elim .null FieldValue.toValue)) : d.optional α name = a := by
  cases a with
  | none => exact optional_of_get?_null h
  | some x => exact optional_of_get? (ha x rfl) h

theorem field_of_get? {a : α} (ha : Faithful a) (h : d.get? name = some (FieldValue.toValue a))
    (default : α) : d.field name default = a := by
  rw [field, optional_of_get? ha h, Option.getD_some]

/-- Of values inserted one after the other under names of their own, each is there. -/
theorem get?_foldl_insert {γ : Type} [DecidableEq γ] {name : γ → String}
    (hname : Function.Injective name) (value : γ → Value) (cs : List γ) (d : Document) (c : γ) :
    (cs.foldl (fun d c => d.insert (name c) (value c)) d).get? (name c) =
      if c ∈ cs then some (value c) else d.get? (name c) := by
  induction cs generalizing d with
  | nil => simp
  | cons b cs ih =>
    rw [List.foldl_cons, ih]
    by_cases hmem : c ∈ cs
    · rw [if_pos hmem, if_pos (List.mem_cons_of_mem b hmem)]
    by_cases hcb : c = b
    · subst hcb
      rw [if_neg hmem, if_pos List.mem_cons_self, get?_insert_self]
    · have hne : name c ≠ name b := fun h => hcb (hname h)
      rw [if_neg hmem, if_neg (by simp [hcb, hmem]), get?_insert_of_ne d (value b) hne]

/-- The document with nothing under a name. -/
def without (d : Document) (name : String) : Document := ⟨d.fields.filter fun field => field.1 != name⟩

private theorem lookup_filter_self (name : String) (fields : List (String × Value)) :
    (fields.filter fun field => field.1 != name).lookup name = none := by
  rw [List.lookup_eq_none_iff]
  intro field hfield
  exact bne_iff_ne.mpr (bne_iff_ne.mp (List.mem_filter.mp hfield).2).symm

private theorem lookup_filter_of_ne {name other : String} (h : other ≠ name) (fields : List (String × Value)) :
    (fields.filter fun field => field.1 != name).lookup other = fields.lookup other := by
  induction fields with
  | nil => rfl
  | cons field rest ih =>
    by_cases hname : field.1 = name
    · have hother : (other == field.1) = false := beq_false_of_ne (hname ▸ h)
      rw [List.filter_cons_of_neg (by simp [hname]), ih, List.lookup_cons, hother]
    · rw [List.filter_cons_of_pos (by simp [hname]), List.lookup_cons, List.lookup_cons, ih]

@[simp] theorem get?_without_self (d : Document) (name : String) : (d.without name).get? name = none :=
  lookup_filter_self name d.fields

@[simp] theorem get?_without_of_ne (d : Document) {name other : String} (h : other ≠ name) :
    (d.without name).get? other = d.get? other := lookup_filter_of_ne h d.fields

end Document

end FleetLocator.Json
