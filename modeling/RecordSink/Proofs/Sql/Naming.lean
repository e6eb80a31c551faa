import RecordSink.Proofs.Sql.Reading

/-! Names that are made. The standard naming makes a word of every text, and asks of the text itself
whether it is reserved. Four reserved words have an underscore in them, so a text with some other
character in that place is not reserved, but becomes a reserved word. These texts are the only ones
whose names the parser refuses. -/
namespace RecordSink.Sql
open RecordSink.Sql.Parser

/-- The text is read as one name of a table or a column, and nothing of it is left. -/
def ReadsAsName (s : String) : Prop :=
  (tokenize s >>= name.run) = .ok (s, [])

theorem readsAsName_iff {s : String} : ReadsAsName s ↔ isName s = true := by
  constructor
  · intro read
    obtain ⟨tokens, scanned, taken⟩ := bind_ok_iff.1 read
    exact (yields_name tokens s [] (tokenize_tidy scanned) taken).1
  · intro named
    obtain ⟨word, free⟩ := isName_iff.1 named
    have scanned : tokenize s = .ok [.word s] := by
      have spelled := spells_word word [] (by simp [Delimited])
      rw [List.append_nil] at spelled
      exact spelled
    have taken : name.run [.word s] = .ok (s, []) := by
      simp [name, identifier, StateT.run, run_bind, free]
      rfl
    rw [ReadsAsName, scanned, ok_bind, taken]

/-! ## Upper case -/

private theorem toNat_toUpper (c : Char) : c.toUpper.toNat =
    if 97 ≤ c.toNat ∧ c.toNat ≤ 122 then c.toNat - 32 else c.toNat := by
  have range : 'a'.val ≤ c.val ∧ c.val ≤ 'z'.val ↔ 97 ≤ c.toNat ∧ c.toNat ≤ 122 := by
    rw [UInt32.le_iff_toNat_le, UInt32.le_iff_toNat_le]
    rfl
  unfold Char.toUpper
  by_cases lower : 97 ≤ c.toNat ∧ c.toNat ≤ 122
  · rw [dif_pos (range.2 lower), if_pos lower]
    have wraps : (c.val + ('A'.val - 'a'.val)).toNat = (c.toNat + 4294967264) % 4294967296 :=
      UInt32.toNat_add _ _
    change (c.val + ('A'.val - 'a'.val)).toNat = c.toNat - 32
    omega
  · rw [dif_neg (mt range.1 lower), if_neg lower]

private theorem isDigit_toUpper (c : Char) : c.toUpper.isDigit = c.isDigit := by
  rw [Bool.eq_iff_iff, isDigit_iff, isDigit_iff, toNat_toUpper]
  split <;> omega

private theorem isWordPart_toUpper (c : Char) : isWordPart c.toUpper = isWordPart c := by
  rw [Bool.eq_iff_iff, isWordPart_iff, isWordPart_iff, isDigit_toUpper, isWordStart_iff,
    isWordStart_iff, isDigit_iff, toNat_toUpper]
  split <;> omega

theorem isReserved_iff {word : String} :
    isReserved word = true ↔ Text.upper word ∈ reservedWords := by
  rw [isReserved, List.any_eq_true]
  constructor
  · rintro ⟨r, listed, same⟩
    have equal : Text.upper r = Text.upper word := by simpa [Text.sameFolded] using same
    rwa [← equal, upper_of_reserved listed]
  · intro listed
    refine ⟨_, listed, ?_⟩
    simp [Text.sameFolded, upper_of_reserved listed]

/-! ## Texts that turn into reserved words -/

/-- What follows the underscore in the reserved words that have one. -/
def currentWords : List String :=
  ["DATE", "TIME", "TIMESTAMP", "USER"]

/-- A text that is not a reserved word, but would be one with an underscore in the place of a
character that cannot stand in a word. -/
def Disguised (text : String) : Prop :=
  ∃ (first last : String) (c : Char), isWordPart c = false ∧ text = first ++ c.toString ++ last ∧
    Text.upper first = "CURRENT" ∧ Text.upper last ∈ currentWords

private theorem underscore_in_reserved : ∀ r ∈ reservedWords, '_' ∈ r.toList →
    ∃ w ∈ currentWords, r.toList = "CURRENT".toList ++ '_' :: w.toList := by
  decide

private def shown (c : Char) : Char :=
  if isWordPart c then c else '_'

private theorem shown_of_part {c : Char} (part : isWordPart c = true) : shown c = c :=
  if_pos part

-- Where no underscore is shown, nothing was replaced.
private theorem parts_of_shown {cs : List Char} {word : List Char}
    (same : cs.map (Char.toUpper ∘ shown) = word) (free : '_' ∉ word) :
    cs.map Char.toUpper = word := by
  rw [← same]
  refine List.map_congr_left fun c among => ?_
  by_cases part : isWordPart c = true
  · rw [Function.comp_apply, shown_of_part part]
  · refine absurd ?_ free
    rw [← same]
    refine List.mem_map.2 ⟨c, among, ?_⟩
    rw [Function.comp_apply, shown, if_neg part]
    decide

private theorem toList_upper (s : String) : (Text.upper s).toList = s.toList.map Char.toUpper := by
  rw [Text.upper, String.toList_ofList]

private theorem map_shown_of_upper {s word : String} (same : Text.upper s = word)
    (parts : word.toList.all isWordPart = true) : s.toList.map shown = s.toList := by
  rw [← same, toList_upper, List.all_map, List.all_eq_true] at parts
  have each : ∀ c ∈ s.toList, shown c = id c := by
    intro c among
    have part := parts c among
    rw [Function.comp_apply, isWordPart_toUpper] at part
    exact shown_of_part part
  rw [List.map_congr_left each, List.map_id]

/-- Whether the standard naming puts an underscore in front. -/
private def Marked (text : String) : Prop :=
  text.toList.head?.all Char.isDigit = true ∨ isReserved text = true

private theorem standard_of_marked {text : String} (marked : Marked text) :
    Naming.standard text = String.ofList ('_' :: text.toList.map shown) := by
  unfold Naming.standard
  cases chars : text.toList with
  | nil => rfl
  | cons c cs =>
    rw [Marked, chars] at marked
    have digit_or : (c.isDigit || isReserved text) = true := by simpa using marked
    simp only [digit_or, if_true]
    rfl

private theorem standard_of_unmarked {text : String} (unmarked : ¬ Marked text) :
    Naming.standard text = String.ofList (text.toList.map shown) := by
  unfold Naming.standard
  cases chars : text.toList with
  | nil => exact absurd (.inl (by rw [chars]; rfl)) unmarked
  | cons c cs =>
    rw [Marked, chars] at unmarked
    have neither : (c.isDigit || isReserved text) = false := by simpa using unmarked
    simp only [neither]
    rfl

private theorem not_reserved_of_marked {text : String} (marked : Marked text) :
    isReserved (Naming.standard text) = false := by
  -- No reserved word begins with an underscore.
  have heads : ∀ r ∈ reservedWords, r.toList.head? ≠ some '_' := by decide
  rw [Bool.eq_false_iff, ne_eq, isReserved_iff, standard_of_marked marked]
  intro listed
  apply heads _ listed
  rw [toList_upper, String.toList_ofList]
  rfl

private theorem disguised_of_reserved {text : String} (unmarked : ¬ Marked text)
    (reserved : isReserved (String.ofList (text.toList.map shown)) = true) : Disguised text := by
  have free : Text.upper text ∉ reservedWords := fun listed =>
    unmarked (.inr (isReserved_iff.2 listed))
  rw [isReserved_iff] at reserved
  obtain ⟨r, same⟩ : ∃ r, r = Text.upper (String.ofList (text.toList.map shown)) := ⟨_, rfl⟩
  have letters : text.toList.map (Char.toUpper ∘ shown) = r.toList := by
    rw [same, toList_upper, String.toList_ofList, List.map_map]
  rw [← same] at reserved
  -- A text of which nothing was replaced would be reserved itself.
  have other : text.toList.map Char.toUpper ≠ r.toList := by
    intro equal
    rw [← toList_upper, String.toList_inj] at equal
    exact free (equal ▸ reserved)
  by_cases mark : '_' ∈ r.toList
  · obtain ⟨w, listed, split⟩ := underscore_in_reserved r reserved mark
    rw [split] at letters other
    obtain ⟨first, rest, chars, head, tail⟩ := List.map_eq_append_iff.1 letters
    obtain ⟨c, last, rfl, at_mark, following⟩ := List.map_eq_cons_iff.1 tail
    have head_upper := parts_of_shown head (by decide)
    have apart : ∀ v ∈ currentWords, '_' ∉ v.toList := by decide
    have last_upper := parts_of_shown following (apart w listed)
    refine ⟨String.ofList first, String.ofList last, c, ?_, ?_, ?_, ?_⟩
    · rw [Bool.eq_false_iff]
      intro part
      rw [Function.comp_apply, shown_of_part part] at at_mark
      refine other ?_
      rw [chars, List.map_append, List.map_cons, head_upper, at_mark, last_upper]
    · rw [← String.toList_inj, chars]
      simp
    · rw [← String.toList_inj, toList_upper, String.toList_ofList, head_upper]
    · have whole : Text.upper (String.ofList last) = w := by
        rw [← String.toList_inj, toList_upper, String.toList_ofList, last_upper]
      rwa [whole]
  · exact absurd (parts_of_shown letters mark) other

private theorem reserved_of_disguised {text : String} (disguised : Disguised text) :
    ¬ Marked text ∧ isReserved (String.ofList (text.toList.map shown)) = true := by
  obtain ⟨first, last, c, outside, rfl, head, tail⟩ := disguised
  have chars : (first ++ c.toString ++ last).toList = first.toList ++ c :: last.toList := by simp
  rw [Marked, chars]
  constructor
  · rintro (digit | reserved)
    · have letters : first.toList.map Char.toUpper = "CURRENT".toList := by
        rw [← toList_upper, head]
      obtain ⟨d, rest, begins, upper, -⟩ := List.map_eq_cons_iff.1 letters
      rw [begins] at digit
      have is_digit : d.isDigit = true := by simpa using digit
      rw [← isDigit_toUpper, upper] at is_digit
      exact absurd is_digit (by decide)
    · have upper := parts_of_reserved (isReserved_iff.1 reserved)
      have part := List.all_eq_true.1 upper c.toUpper (by rw [toList_upper, chars]; simp)
      rw [isWordPart_toUpper, outside] at part
      cases part
  · have listed : ∀ w ∈ currentWords, "CURRENT_" ++ w ∈ reservedWords := by decide
    have words : ∀ w ∈ currentWords, w.toList.all isWordPart = true := by decide
    rw [isReserved_iff]
    have spelled : Text.upper (String.ofList ((first.toList ++ c :: last.toList).map shown)) =
        "CURRENT_" ++ Text.upper last := by
      rw [← String.toList_inj, toList_upper, String.toList_ofList, List.map_append, List.map_cons,
        map_shown_of_upper head (by decide), map_shown_of_upper rfl (words _ tail), shown,
        if_neg (by rw [outside]; decide), List.map_append, List.map_cons, ← toList_upper, head,
        ← toList_upper, String.toList_append]
      rfl
    rw [spelled]
    exact listed _ tail

/-- The standard naming makes a reserved word of exactly the disguised texts. -/
theorem isReserved_standard_iff {text : String} :
    isReserved (Naming.standard text) = true ↔ Disguised text := by
  constructor
  · intro reserved
    by_cases marked : Marked text
    · rw [not_reserved_of_marked marked] at reserved
      cases reserved
    · rw [standard_of_unmarked marked] at reserved
      exact disguised_of_reserved marked reserved
  · intro disguised
    obtain ⟨unmarked, reserved⟩ := reserved_of_disguised disguised
    rwa [standard_of_unmarked unmarked]

theorem readsAsName_standard_iff {text : String} :
    ReadsAsName (Naming.standard text) ↔ ¬ Disguised text := by
  rw [readsAsName_iff, isName_iff, ← isReserved_standard_iff, Bool.not_eq_true]
  exact and_iff_right (standard_is_word text)

end RecordSink.Sql
