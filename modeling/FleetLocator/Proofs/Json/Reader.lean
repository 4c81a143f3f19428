import FleetLocator.Json.Reader
import FleetLocator.Proofs.Json.Field
import FleetLocator.Proofs.Json.Number

/-!
# A document is read from its own text

Of a document whose values have no parts the reader makes the same fields in the same order, with the doubles
that it reads of their digits.
-/
namespace FleetLocator.Json

variable {b : UInt8} {rest : List UInt8} {fuel depth : ℕ} {x : Float}

namespace Value

/-- What is read from the text of a value without parts. -/
def reread : Value → Value
  | .number n => .number n.reread
  | v => v

/-- A value that has no parts and whose number is legible. -/
def Plain : Value → Prop
  | .number n => n.Legible
  | .list _ => False
  | .document _ => False
  | _ => True

end Value

theorem skipBlank_cons (h : isBlankByte b = false) (rest : List UInt8) : skipBlank (b :: rest) = b :: rest := by
  rw [skipBlank, List.dropWhile_cons, h]
  rfl

theorem exists_digit_of_readNumber {positive : Bool} {input : List UInt8} {found : Number × List UInt8}
    (h : readNumber positive input = .ok found) : ∃ b rest, input = b :: rest ∧ isDigit b = true := by
  cases input with
  | nil => exact absurd h (by simp [readNumber])
  | cons b rest =>
    refine ⟨b, rest, rfl, ?_⟩
    by_contra hb
    have hzero : b ≠ 0x30 := by
      rintro rfl
      exact hb rfl
    rw [readNumber, if_neg hzero, if_neg hb] at h
    cases h

/-- A value that begins with a digit is a number. -/
theorem readValue_digit (h : isDigit b = true) (rest : List UInt8) :
    readValue (fuel + 1) depth (b :: rest) =
      (readNumber true (b :: rest)).map fun found => (.number found.1, found.2) := by
  have hne {c : UInt8} (hc : isDigit c = false) : b ≠ c := fun heq => by
    rw [heq, hc] at h
    exact Bool.false_ne_true h
  have hblank : isBlankByte b = false := by
    simp [isBlankByte, hne (c := 0x20) rfl, hne (c := 0x0A) rfl, hne (c := 0x09) rfl, hne (c := 0x0D) rfl]
  rw [readValue, skipBlank_cons hblank]
  dsimp only
  rw [if_neg (hne rfl), if_neg (hne rfl), if_neg (hne rfl), if_neg (hne rfl), if_pos h]

theorem readValue_minus (rest : List UInt8) :
    readValue (fuel + 1) depth (0x2D :: rest) =
      (readNumber false rest).map fun found => (.number found.1, found.2) := by
  rw [readValue]
  rfl

theorem readValue_quote (rest : List UInt8) :
    readValue (fuel + 1) depth (quote :: rest) = (readText rest).map fun found => (.text found.1, found.2) := by
  rw [readValue]
  rfl

theorem readValue_number {n : Number} (hn : n.Legible) (hrest : Stops rest) :
    readValue (fuel + 1) depth (bytesOf n.write.toList ++ rest) = .ok (.number n.reread, rest) := by
  rcases Number.readNumber_write hn hrest with hread | ⟨cs, hbytes, hread⟩
  · obtain ⟨b, input, hinput, hb⟩ := exists_digit_of_readNumber hread
    rw [hinput] at hread ⊢
    rw [readValue_digit hb, hread]
    rfl
  · rw [hbytes, List.cons_append, readValue_minus, hread]
    rfl

/-- A value without parts is read up to what follows it. -/
theorem readValue_plain {v : Value} (hv : v.Plain) (hrest : Stops rest) :
    readValue (fuel + 1) depth (bytesOf (writeValue v) ++ rest) = .ok (v.reread, rest) := by
  cases v with
  | null => rw [readValue]; rfl
  | bool b => cases b <;> rw [readValue] <;> rfl
  | number n =>
    rw [writeValue]
    exact readValue_number hv hrest
  | text s =>
    rw [writeValue, bytesOf_writeText, readValue_quote, readText_writeText]
    rfl
  | list items => exact hv.elim
  | document fields => exact hv.elim

theorem plain_float (h : Moderate x) : (FieldValue.toValue x : Value).Plain := by
  obtain ⟨d, hx, hlt⟩ := h
  have hvalue : FieldValue.toValue x = .number (.real x) := if_pos (Decimal.isFinite_of_ofFloat hx)
  rw [hvalue]
  exact ⟨d, hx, hlt⟩

theorem reread_float (h : x.isFinite = true) (hreread : (reread x).isFinite = true) :
    (FieldValue.toValue x : Value).reread = FieldValue.toValue (reread x) := by
  have hvalue {y : Float} (hy : y.isFinite = true) : FieldValue.toValue y = .number (.real y) := if_pos hy
  rw [hvalue h, hvalue hreread]
  rfl

theorem plain_int64 (n : Int64) : (FieldValue.toValue n : Value).Plain := by
  change (Number.ofInt64 n).Legible
  unfold Number.ofInt64
  split
  · next h => exact h
  · trivial

theorem reread_int64 (n : Int64) : (FieldValue.toValue n : Value).reread = FieldValue.toValue n := by
  change Value.number (Number.ofInt64 n).reread = .number (Number.ofInt64 n)
  unfold Number.ofInt64
  split <;> rfl

theorem stops_comma (rest : List UInt8) : Stops (0x2C :: rest) := by
  rintro b hb
  obtain rfl : 0x2C = b := Option.some.inj hb
  decide

theorem stops_brace (rest : List UInt8) : Stops (0x7D :: rest) := by
  rintro b hb
  obtain rfl : 0x7D = b := Option.some.inj hb
  decide

/-- The bytes of further fields, each behind a comma, and of the closing bracket. -/
def furtherFields : List (String × Value) → List UInt8
  | [] => [0x7D]
  | (name, value) :: fields =>
    0x2C :: (bytesOf (writeText name) ++ 0x3A :: (bytesOf (writeValue value) ++ furtherFields fields))

theorem stops_furtherFields (fields : List (String × Value)) (rest : List UInt8) :
    Stops (furtherFields fields ++ rest) := by
  cases fields with
  | nil => exact stops_brace rest
  | cons field fields => exact stops_comma _

theorem bytesOf_writeFields (name : String) (value : Value) (fields : List (String × Value)) :
    bytesOf (writeFields ((name, value) :: fields)) ++ [0x7D] =
      bytesOf (writeText name) ++ 0x3A :: (bytesOf (writeValue value) ++ furtherFields fields) := by
  induction fields generalizing name value with
  | nil =>
    rw [writeFields, bytesOf_append, List.append_assoc]
    rfl
  | cons field fields ih =>
    obtain ⟨next, after⟩ := field
    have hsplit : writeFields ((name, value) :: (next, after) :: fields) =
        writeText name ++ ':' :: (writeValue value ++ ',' :: writeFields ((next, after) :: fields)) := by
      rw [writeFields, List.append_assoc]
      · rfl
      · exact List.cons_ne_nil _ _
    have hcolon (cs : List Char) : bytesOf (':' :: cs) = 0x3A :: bytesOf cs := rfl
    have hcomma (cs : List Char) : bytesOf (',' :: cs) = 0x2C :: bytesOf cs := rfl
    rw [hsplit, bytesOf_append, hcolon, bytesOf_append, hcomma, furtherFields, ← ih]
    simp only [List.append_assoc, List.cons_append]

theorem length_lt_furtherFields (fields : List (String × Value)) : fields.length < (furtherFields fields).length := by
  induction fields with
  | nil => exact one_pos
  | cons field fields ih =>
    simp only [furtherFields, List.length_cons, List.length_append]
    omega

theorem length_le_writeFields (fields : List (String × Value)) :
    fields.length ≤ (bytesOf (writeFields fields)).length := by
  cases fields with
  | nil => exact Nat.zero_le _
  | cons field fields =>
    obtain ⟨name, value⟩ := field
    have hbytes := congrArg List.length (bytesOf_writeFields name value fields)
    have hlt := length_lt_furtherFields fields
    simp only [List.length_append, List.length_cons, List.length_nil] at hbytes ⊢
    omega

/-- The fields that are read so far and one that is read after them. -/
def addReread (fields : List (String × Value)) (field : String × Value) : List (String × Value) :=
  insertField field.1 field.2.reread fields

section Fields

variable {first : Bool} {name : String} {value : Value} {tail input : List UInt8} {fields fs : List (String × Value)}

/-- One step takes a name and a plain value. -/
theorem readFields_more (hnext : nextName first input = .ok (.more
      (bytesOf (name.toList.flatMap writeChar) ++ quote :: 0x3A :: (bytesOf (writeValue value) ++ tail))))
    (hv : value.Plain) (htail : Stops tail) :
    readFields (fuel + 2) depth first fields input =
      readFields (fuel + 1) depth false (insertField name value.reread fields) tail := by
  have hcolon (rest : List UInt8) : readColon (0x3A :: rest) = .ok rest := rfl
  rw [readFields, hnext]
  dsimp only
  rw [readText_writeText]
  dsimp only
  rw [hcolon]
  dsimp only
  rw [readValue_plain hv htail]

theorem readFields_furtherFields (h : ∀ f ∈ fs, f.2.Plain) (hfuel : fs.length < fuel) (rest : List UInt8) :
    readFields fuel depth false fields (furtherFields fs ++ rest) = .ok (fs.foldl addReread fields, rest) := by
  induction fs generalizing fuel fields with
  | nil =>
    obtain ⟨fuel, rfl⟩ : ∃ n, fuel = n + 1 := ⟨fuel - 1, by omega⟩
    rw [readFields]
    rfl
  | cons field fs ih =>
    obtain ⟨name, value⟩ := field
    obtain ⟨fuel, rfl⟩ : ∃ n, fuel = n + 2 := ⟨fuel - 2, by rw [List.length_cons] at hfuel; omega⟩
    have hinput : furtherFields ((name, value) :: fs) ++ rest = 0x2C :: quote ::
        (bytesOf (name.toList.flatMap writeChar) ++ quote :: 0x3A ::
          (bytesOf (writeValue value) ++ (furtherFields fs ++ rest))) := by
      rw [furtherFields, bytesOf_writeText]
      simp only [List.append_assoc, List.cons_append]
    rw [hinput, readFields_more rfl (h _ List.mem_cons_self) (stops_furtherFields fs rest),
      ih (fun f hf => h f (List.mem_cons_of_mem _ hf)) (by rw [List.length_cons] at hfuel; omega)]
    rfl

theorem readFields_writeFields (h : ∀ f ∈ fs, f.2.Plain) (hfuel : fs.length < fuel) (rest : List UInt8) :
    readFields fuel depth true [] (bytesOf (writeFields fs) ++ 0x7D :: rest) = .ok (fs.foldl addReread [], rest) := by
  cases fs with
  | nil =>
    obtain ⟨fuel, rfl⟩ : ∃ n, fuel = n + 1 := ⟨fuel - 1, by omega⟩
    rw [readFields]
    rfl
  | cons field fs =>
    obtain ⟨name, value⟩ := field
    obtain ⟨fuel, rfl⟩ : ∃ n, fuel = n + 2 := ⟨fuel - 2, by rw [List.length_cons] at hfuel; omega⟩
    have hinput : bytesOf (writeFields ((name, value) :: fs)) ++ 0x7D :: rest = quote ::
        (bytesOf (name.toList.flatMap writeChar) ++ quote :: 0x3A ::
          (bytesOf (writeValue value) ++ (furtherFields fs ++ rest))) := by
      rw [List.append_cons, bytesOf_writeFields, List.append_assoc, bytesOf_writeText]
      simp only [List.append_assoc, List.cons_append]
    rw [hinput, readFields_more rfl (h _ List.mem_cons_self) (stops_furtherFields fs rest),
      readFields_furtherFields (fun f hf => h f (List.mem_cons_of_mem _ hf))
        (by rw [List.length_cons] at hfuel; omega)]
    rfl

theorem readValue_document (h : ∀ f ∈ fs, f.2.Plain) (hfuel : fs.length < fuel) (hdepth : 1 < depth)
    (rest : List UInt8) :
    readValue (fuel + 1) depth (bytesOf (writeValue (.document fs)) ++ rest) =
      .ok (.document (fs.foldl addReread []), rest) := by
  have hinput : bytesOf (writeValue (.document fs)) ++ rest =
      0x7B :: (bytesOf (writeFields fs) ++ 0x7D :: rest) := by
    rw [writeValue, bytesOf_append, List.append_assoc]
    rfl
  have hopen (input : List UInt8) : readValue (fuel + 1) depth (0x7B :: input) =
      if depth ≤ 1 then .error ⟨.tooDeep, input⟩
      else (readFields fuel (depth - 1) true [] input).map fun found => (.document found.1, found.2) := by
    rw [readValue]
    rfl
  rw [hinput, hopen, if_neg (not_le.mpr hdepth), readFields_writeFields h hfuel]
  rfl

/-- A name that comes after all others is put at the end. -/
theorem insertField_of_lt (h : ∀ f ∈ fields, f.1 < name) :
    insertField name value fields = fields ++ [(name, value)] := by
  induction fields with
  | nil => rfl
  | cons field fields ih =>
    have hlt := h field List.mem_cons_self
    rw [insertField, if_neg (String.lt_asymm hlt), if_neg (fun heq => String.lt_irrefl _ (heq ▸ hlt)),
      ih fun f hf => h f (List.mem_cons_of_mem _ hf)]
    rfl

/-- A document with the values that are read from their texts. -/
def rereadFields (fields : List (String × Value)) : List (String × Value) := fields.map fun f => (f.1, f.2.reread)

theorem foldl_addReread (h : (fields ++ fs).Pairwise fun f g => f.1 < g.1) :
    fs.foldl addReread (rereadFields fields) = rereadFields (fields ++ fs) := by
  induction fs generalizing fields with
  | nil => rw [List.append_nil]; rfl
  | cons field fs ih =>
    have hlt : ∀ f ∈ rereadFields fields, f.1 < field.1 := by
      intro f hf
      obtain ⟨g, hg, rfl⟩ := List.mem_map.mp hf
      exact (List.pairwise_append.mp h).2.2 g hg field List.mem_cons_self
    have hadd : addReread (rereadFields fields) field = rereadFields (fields ++ [field]) := by
      rw [addReread, insertField_of_lt hlt, rereadFields, rereadFields, List.map_append]
      rfl
    rw [List.append_cons] at h ⊢
    rw [List.foldl_cons, hadd, ih h]

end Fields

namespace Document

/-- The names are in their order. -/
def Sorted (d : Document) : Prop := d.fields.Pairwise fun f g => f.1 < g.1

/-- All values are plain. -/
def Flat (d : Document) : Prop := ∀ f ∈ d.fields, f.2.Plain

/-- The document with the values that are read from their texts. -/
def reread (d : Document) : Document := ⟨rereadFields d.fields⟩

theorem sorted_empty : empty.Sorted := List.Pairwise.nil

theorem flat_empty : empty.Flat := fun _ hf => absurd hf List.not_mem_nil

theorem mem_insertField {name : String} {value : Value} {fields : List (String × Value)} {f : String × Value}
    (h : f ∈ insertField name value fields) : f = (name, value) ∨ f ∈ fields := by
  induction fields with
  | nil => exact .inl (List.mem_singleton.mp h)
  | cons field fields ih =>
    rw [insertField] at h
    split_ifs at h
    · exact List.mem_cons.mp h
    · rcases List.mem_cons.mp h with heq | hmem
      · exact .inl heq
      · exact .inr (List.mem_cons_of_mem _ hmem)
    · rcases List.mem_cons.mp h with heq | hmem
      · exact .inr (heq ▸ List.mem_cons_self)
      · exact (ih hmem).imp_right (List.mem_cons_of_mem _)

theorem flat_insert {d : Document} {value : Value} (h : d.Flat) (hv : value.Plain) (name : String) :
    (d.insert name value).Flat := fun f hf => by
  rcases mem_insertField hf with rfl | hmem
  · exact hv
  · exact h f hmem

theorem sorted_insertField {fields : List (String × Value)} (h : fields.Pairwise fun f g => f.1 < g.1)
    (name : String) (value : Value) : (insertField name value fields).Pairwise fun f g => f.1 < g.1 := by
  induction fields with
  | nil => exact List.pairwise_singleton _ _
  | cons field fields ih =>
    obtain ⟨hall, hrest⟩ := List.pairwise_cons.mp h
    rw [insertField]
    split_ifs with hlt heq
    · refine List.pairwise_cons.mpr ⟨fun f hf => ?_, h⟩
      rcases List.mem_cons.mp hf with rfl | hmem
      · exact hlt
      · exact String.lt_trans hlt (hall f hmem)
    · exact List.pairwise_cons.mpr ⟨fun f hf => heq ▸ hall f hf, hrest⟩
    · refine List.pairwise_cons.mpr ⟨fun f hf => ?_, ih hrest⟩
      rcases mem_insertField hf with rfl | hmem
      · exact lt_of_le_of_ne (not_lt.mp hlt) (Ne.symm heq)
      · exact hall f hmem

theorem sorted_insert {d : Document} (h : d.Sorted) (name : String) (value : Value) :
    (d.insert name value).Sorted := sorted_insertField h name value

theorem get?_reread (d : Document) (name : String) : d.reread.get? name = (d.get? name).map Value.reread := by
  obtain ⟨fields⟩ := d
  change (rereadFields fields).lookup name = (fields.lookup name).map Value.reread
  induction fields with
  | nil => rfl
  | cons field fields ih =>
    rw [rereadFields, List.map_cons, List.lookup_cons, List.lookup_cons]
    cases name == field.1 with
    | true => rfl
    | false => exact ih

/-- The text of a flat document is read as the document with the values that are read from their texts. -/
theorem parse_render {d : Document} (hsorted : d.Sorted) (hflat : d.Flat) :
    parse (Text.Utf8.encode d.render) = .ok d.reread := by
  have hbytes : Text.Utf8.encode d.render = bytesOf (writeValue (.document d.fields)) ++ [] := by
    rw [List.append_nil, Text.Utf8.encode, render, Value.render, String.toList_ofList]
    rfl
  have hfold : d.fields.foldl addReread [] = rereadFields d.fields := @foldl_addReread [] _ hsorted
  have hlength : d.fields.length < 2 * (Text.Utf8.encode d.render).length + 1 := by
    have hle := length_le_writeFields d.fields
    rw [hbytes, List.append_nil, writeValue, bytesOf_append, List.length_append]
    change d.fields.length < 2 * ((bytesOf (writeFields d.fields)).length + 1 + _) + 1
    omega
  have hread : read (Text.Utf8.encode d.render) = .ok (.document (rereadFields d.fields)) := by
    rw [read, hbytes, readValue_document hflat (by rw [← hbytes]; exact hlength) (by decide), hfold]
    rfl
  rw [parse, hread]
  rfl

end Document

end FleetLocator.Json
