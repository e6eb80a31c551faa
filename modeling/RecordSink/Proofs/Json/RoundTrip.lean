import RecordSink.Json.Record
import RecordSink.Proofs.Json.Characters
import RecordSink.Proofs.Json.Values
import RecordSink.Proofs.Results

/-! Records in JSON, read back. What is written for a value spells it, so a record is read as its
fields in their order, and a batch as its records in theirs. Doubles are the exception: their texts
are made and read by rounding, and not every double is read as itself. -/
namespace RecordSink

open Json (Spells Follows)

/-- The text of the double is read as the double itself. -/
def Double.ReadsBack (d : Double) : Prop :=
  (Json.readAll (String.ofList (Json.doubleChars d))).bind Value.readDouble? = some d

instance (d : Double) : Decidable d.ReadsBack :=
  inferInstanceAs (Decidable (_ = _))

/-- If it is a double, its text is read as itself. -/
def Value.Exact : Value → Prop
  | double d => d.ReadsBack
  | _ => True

instance (v : Value) : Decidable v.Exact :=
  match v with
  | .double d => inferInstanceAs (Decidable d.ReadsBack)
  | .boolean _ | .byte _ | .short _ | .integer _ | .long _ | .string _ | .byteArray _ =>
    .isTrue trivial

/-- The texts of its doubles are read as the doubles themselves. -/
def Record.Exact (r : Record) : Prop :=
  ∀ f ∈ r.fields, f.2.Exact

instance (r : Record) : Decidable r.Exact :=
  List.decidableBAll _ r.fields

/-! ## Doubles -/

/-- No double that is not finite is read as itself: its text is `null`. -/
theorem Double.ReadsBack.finite {d : Double} (exact : d.ReadsBack) :
    (d.isNaN || d.isInfinite) = false := by
  cases special : d.isNaN || d.isInfinite with
  | false => rfl
  | true =>
    rw [ReadsBack, Json.doubleChars, if_pos special] at exact
    cases exact

theorem Json.skipBlanks_solid {cs : List Char} (solid : Text.Solid cs) : skipBlanks cs = cs := by
  cases cs with
  | nil => rfl
  | cons c cs =>
    have visible := solid c List.mem_cons_self
    have other (d : Char) (blank : d.toNat ≤ 0x20) : c ≠ d := by
      rintro rfl
      omega
    refine skipBlanks_cons ?_ cs
    simp [isBlank, other ' ' (by decide), other '\t' (by decide), other '\n' (by decide),
      other '\r' (by decide)]

/-- A text that is read as a double is a numeral from its beginning to its end. -/
theorem Double.ReadsBack.numeral {d : Double} (exact : d.ReadsBack) :
    ∃ n, Json.readNumeral (Json.doubleChars d) = some (n, []) ∧
      Value.readDouble? (.number n) = some d := by
  obtain ⟨w, read, value⟩ := Option.bind_eq_some_iff.1 exact
  cases w with
  | number n =>
    obtain ⟨⟨w, rest⟩, written, ended⟩ := Option.bind_eq_some_iff.1 read
    rw [String.toList_ofList] at written
    dsimp only at ended
    split at ended
    · next finished =>
      cases ended
      have solid := Json.solid_doubleChars d
      have numeral := Json.readNumeral_of_readValue written
      rw [Json.skipBlanks_solid solid] at numeral
      have left := Json.local_readNumeral.leaves numeral
      rw [Json.skipBlanks_solid (solid.of_subset left.subset), List.isEmpty_iff] at finished
      exact ⟨n, finished ▸ numeral, value⟩
    · cases ended
  | null => cases value
  | bool b => cases value
  | string pieces => cases value
  | array items => cases value
  | object members => cases value

/-! ## Values -/

namespace Value

theorem within?_numeralOf (low high : Int) {n : Int}
    (wide : -0x8000000000000000 ≤ low ∧ high ≤ 0x10000000000000000)
    (least : low ≤ n) (most : n < high) :
    within? low high (.number (Json.numeralOf n)) = some n := by
  have number := Json.number?_numeralOf (n := n) (by omega) (by omega)
  simp [within?, Json.Written.int?, Json.Written.number?, number, least, most]

/-- What is written for the content of a value spells that content. -/
theorem exists_content {v : Value} (exact : v.Exact) :
    ∃ w, Spells v.contentChars w ∧ ofContent? v.kind w = some v := by
  cases v with
  | boolean b => exact ⟨_, Json.spells_boolChars b, rfl⟩
  | byte n =>
    have fits := within?_numeralOf (-0x80) 0x80 (by decide) n.le_toInt n.toInt_lt
    refine ⟨_, Json.spells_intChars n.toInt, ?_⟩
    rw [kind, ofContent?, fits, Option.map_some, Int8.ofInt_toInt]
  | short n =>
    have fits := within?_numeralOf (-0x8000) 0x8000 (by decide) n.le_toInt n.toInt_lt
    refine ⟨_, Json.spells_intChars n.toInt, ?_⟩
    rw [kind, ofContent?, fits, Option.map_some, Int16.ofInt_toInt]
  | integer n =>
    have fits := within?_numeralOf (-0x80000000) 0x80000000 (by decide) n.le_toInt n.toInt_lt
    refine ⟨_, Json.spells_intChars n.toInt, ?_⟩
    rw [kind, ofContent?, fits, Option.map_some, Int32.ofInt_toInt]
  | long n =>
    have fits := within?_numeralOf (-0x8000000000000000) 0x8000000000000000 (by decide)
      n.le_toInt n.toInt_lt
    refine ⟨_, Json.spells_intChars n.toInt, ?_⟩
    rw [kind, ofContent?, fits, Option.map_some, Int64.ofInt_toInt]
  | double d =>
    obtain ⟨n, numeral, value⟩ := Double.ReadsBack.numeral exact
    exact ⟨_, Json.spells_numeral numeral, by rw [kind, ofContent?, value]; rfl⟩
  | string s =>
    refine ⟨_, Json.spells_quote s, ?_⟩
    rw [kind, ofContent?, Json.Written.text?, Json.decodeText_piecesOf]
    rfl
  | byteArray bytes =>
    have items : List.Forall₂ Spells (bytes.map fun b => Json.intChars b.toNat)
        (bytes.map fun b => .number (Json.numeralOf b.toNat)) := by
      rw [List.forall₂_map_left_iff, List.forall₂_map_right_iff]
      exact List.forall₂_same.2 fun b _ => Json.spells_intChars b.toNat
    have each : (bytes.map fun b => Json.Written.number (Json.numeralOf b.toNat)).mapM
        (within? 0 0x100) = some (bytes.map fun b => (b.toNat : Int)) := by
      refine mapM_eq_some ?_
      rw [List.forall₂_map_left_iff, List.forall₂_map_right_iff]
      exact List.forall₂_same.2 fun b _ => within?_numeralOf 0 0x100 (by decide)
        (Int.natCast_nonneg _) (Int.ofNat_lt.2 b.toNat_lt)
    have back : ((fun n : Int => UInt8.ofNat n.toNat) ∘ fun b : UInt8 => (b.toNat : Int)) = id :=
      funext fun b => by simp
    refine ⟨_, Json.spells_bracketed items, ?_⟩
    rw [kind, ofContent?, each, Option.map_some, List.map_map, back, List.map_id]

/-- What is written for a value spells an object of its kind and its content. -/
theorem exists_written {v : Value} (exact : v.Exact) :
    ∃ w, Spells v.jsonChars w ∧ ofWritten? w = some v := by
  obtain ⟨content, spells, value⟩ := exists_content exact
  refine ⟨.object [(Json.piecesOf "type", .string (Json.piecesOf v.kind.name)),
    (Json.piecesOf "value", content)],
    Json.spells_braced (.cons (.intro _ (Json.spells_quote _)) (.cons (.intro _ spells) .nil)), ?_⟩
  have kind : readKind? (.string (Json.piecesOf v.kind.name)) = some v.kind := by
    rw [readKind?, Json.decodeText_piecesOf]
    exact Kind.ofName?_name v.kind
  simp [ofWritten?, Json.decodeText_piecesOf, kind, value]

end Value

/-! ## Records -/

namespace Record

theorem exists_fields {fields : NamedValues} (exact : ∀ f ∈ fields, f.2.Exact) :
    ∃ members, List.Forall₂ Json.SpellsMember
        (fields.map fun (name, v) => Json.member name v.jsonChars) members ∧
      fieldsOfWritten? members = some fields := by
  induction fields with
  | nil => exact ⟨[], .nil, rfl⟩
  | cons f fields ih =>
    obtain ⟨first, others⟩ := List.forall_mem_cons.1 exact
    obtain ⟨w, spells, value⟩ := Value.exists_written first
    obtain ⟨members, each, rest⟩ := ih others
    refine ⟨(Json.piecesOf f.1, w) :: members, .cons (.intro f.1 spells) each, ?_⟩
    rw [fieldsOfWritten?] at rest ⊢
    rw [List.mapM_cons, rest]
    simp [Json.decodeText_piecesOf, value]

/-- What is written for a record spells an object of its fields in their order. -/
theorem exists_written {r : Record} (exact : r.Exact) :
    ∃ w, Spells r.jsonChars w ∧ ofWritten w = .ok r := by
  obtain ⟨members, each, fields⟩ := exists_fields exact
  refine ⟨.object members, Json.spells_braced each, ?_⟩
  simp [ofWritten, fields, ofFields_fields]

theorem readJson_jsonChars {r : Record} (exact : r.Exact) {rest : List Char}
    (follows : Follows rest) : readJson (r.jsonChars ++ rest) = .ok (r, rest) := by
  obtain ⟨w, spells, record⟩ := exists_written exact
  have read : Json.readWritten (r.jsonChars ++ rest) = some (w, rest) :=
    spells.reads (by rw [List.length_append]; omega) follows
  rw [readJson, read]
  simp [record]

theorem parseJson_jsonChars {r : Record} (exact : r.Exact) :
    parseJson (String.ofList r.jsonChars) = .ok r := by
  have read := readJson_jsonChars exact Json.follows_nil
  rw [List.append_nil] at read
  rw [parseJson, String.toList_ofList, read]
  rfl

end Record

/-! ## Batches -/

namespace Batch

theorem readRecords_joined {rs : List Record} (exact : ∀ r ∈ rs, r.Exact) (some_record : rs ≠ [])
    (fuel : Nat) (enough : (Json.joined (rs.map Record.jsonChars)).length < fuel)
    (rest : List Char) :
    readRecords fuel (Json.joined (rs.map Record.jsonChars) ++ ']' :: rest) = .ok (rs, rest) := by
  induction rs generalizing fuel with
  | nil => exact absurd rfl some_record
  | cons r rs ih =>
    obtain ⟨first, others⟩ := List.forall_mem_cons.1 exact
    cases fuel with
    | zero => omega
    | succ fuel =>
      cases rs with
      | nil =>
        rw [List.map_singleton, Json.joined, readRecords,
          Record.readJson_jsonChars first (Json.follows_bracket rest)]
        rfl
      | cons second rs =>
        rw [List.map_cons, List.map_cons, Json.joined_cons_cons, List.length_append,
          List.length_cons, ← List.map_cons] at enough
        have tail := ih others (List.cons_ne_nil _ _) fuel (by omega)
        rw [List.map_cons, List.map_cons, Json.joined_cons_cons, List.append_assoc,
          List.cons_append, ← List.map_cons, readRecords,
          Record.readJson_jsonChars first (Json.follows_comma _)]
        simp only [ok_bind, Json.skipBlanks_cons (c := ',') rfl, tail]
        rfl

theorem readArray_bracket {c : Char} (visible : Json.isBlank c = false) (inside : c ≠ ']')
    (cs : List Char) : readArray ('[' :: c :: cs) = readRecords (c :: cs).length (c :: cs) := by
  rw [readArray, Json.skipBlanks_cons rfl]
  simp only [Json.skipBlanks_cons visible]
  split
  · next same => exact absurd (List.cons.inj same).1 inside
  · rfl

theorem readArray_jsonChars {rs : List Record} (exact : ∀ r ∈ rs, r.Exact) :
    readArray (jsonChars rs) = .ok (rs, []) := by
  cases rs with
  | nil => rfl
  | cons r rs =>
    have text : jsonChars (r :: rs) =
        '[' :: (Json.joined ((r :: rs).map Record.jsonChars) ++ [']']) := rfl
    have read := readRecords_joined exact (List.cons_ne_nil _ _)
      (Json.joined ((r :: rs).map Record.jsonChars) ++ [']']).length (by simp) []
    obtain ⟨es, joins⟩ : ∃ es, Json.joined ((r :: rs).map Record.jsonChars) = '\x7b' :: es :=
      Json.joined_begins rfl (rs.map Record.jsonChars)
    rw [joins, List.cons_append] at read
    rw [text, joins, List.cons_append, readArray_bracket rfl (by decide), read]

/-- **Records survive being written as JSON.** Whatever their names and values, a batch of records
is read back as the same records in their order, and a record alone as a batch of its own, provided
that the text of every double among their values is read as that double. -/
theorem parseLine_json {batch : List Record} (exact : ∀ r ∈ batch, r.Exact) :
    parseLine (json batch) = .ok batch ∧
      ∀ r ∈ batch, parseLine (String.ofList r.jsonChars) = .ok [r] := by
  constructor
  · have opens : Text.trimStart (jsonChars batch) = jsonChars batch := rfl
    unfold parseLine json
    rw [String.toList_ofList, opens, readArray_jsonChars exact]
    rfl
  · intro r among
    have opens : Text.trimStart r.jsonChars = r.jsonChars := rfl
    unfold parseLine
    rw [Record.parseJson_jsonChars (exact r among), String.toList_ofList, opens]
    rfl

/-- Names and strings with quotes, control characters and characters outside of the basic plane,
integers at their bounds, bytes, and doubles of both signs of zero. -/
theorem parseLine_json_of_mixed :
    let records := [
      Record.mk [
        ("", .string "\"\\\n\x01/é𝄞"),
        ("a \"b\"\t", .long (Int64.ofInt (-0x8000000000000000))),
        ("c", .byteArray [0, 255]),
        ("d", .double (Double.zero true))] (by decide),
      Record.mk [] (by decide),
      Record.mk [
        ("type", .byte (Int8.ofInt (-128))),
        ("value", .boolean false),
        ("e", .double (Double.ofFraction false 1 10))] (by decide)]
    (∀ r ∈ records, r.Exact) ∧ parseLine (json records) = .ok records ∧
      ∀ r ∈ records, parseLine (String.ofList r.jsonChars) = .ok [r] := by
  intro records
  have exact : ∀ r ∈ records, r.Exact := by decide +kernel
  exact ⟨exact, parseLine_json exact⟩

end Batch
end RecordSink
