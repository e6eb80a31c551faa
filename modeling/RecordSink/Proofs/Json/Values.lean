import Mathlib.Data.List.Forall2
import RecordSink.Json.Printer
import RecordSink.Json.Reader
import RecordSink.Proofs.Json.Numerals
import RecordSink.Proofs.Json.Strings

/-! Written values, read back. A text spells a written value if it is read as that value before
anything that follows a value. What is put between brackets or braces spells an array or an object
if its parts spell their values. -/
namespace RecordSink.Json

theorem skipBlanks_cons {c : Char} (visible : isBlank c = false) (cs : List Char) :
    skipBlanks (c :: cs) = c :: cs := by
  rw [skipBlanks, List.dropWhile_cons, visible, if_neg Bool.false_ne_true]

/-- The text is read as this value before anything that follows a value, in at most as many steps as
it has characters. It is not taken for the end of an array. -/
structure Spells (cs : List Char) (w : Written) : Prop where
  begins : ∃ c ds, cs = c :: ds ∧ isBlank c = false ∧ c ≠ ']'
  reads : ∀ {fuel rest}, cs.length < fuel → Follows rest →
    readValue fuel (cs ++ rest) = some (w, rest)

theorem spells_of_succ {cs : List Char} {w : Written}
    (begins : ∃ c ds, cs = c :: ds ∧ isBlank c = false ∧ c ≠ ']')
    (reads : ∀ {fuel rest}, cs.length ≤ fuel → Follows rest →
      readValue (fuel + 1) (cs ++ rest) = some (w, rest)) : Spells cs w where
  begins := begins
  reads := by
    intro fuel rest enough follows
    cases fuel with
    | zero => omega
    | succ fuel => exact reads (by omega) follows

/-- The text is a member of an object that is read as this name and this value. -/
inductive SpellsMember : List Char → List Piece × Written → Prop
  | intro (name : String) {cs : List Char} {w : Written} (value : Spells cs w) :
    SpellsMember (member name cs) (piecesOf name, w)

/-! ## Single values -/

theorem spells_quote (s : String) : Spells (quote s) (.string (piecesOf s)) := by
  refine spells_of_succ ⟨'"', _, rfl, rfl, by decide⟩ fun {fuel rest} _ _ => ?_
  have text : quote s ++ rest = '"' :: (s.toList.flatMap escape ++ '"' :: rest) := by
    simp [quote]
  rw [text, readValue, skipBlanks_cons rfl]
  simp only [readPieces_quoted]
  rfl

theorem spells_boolChars (b : Bool) : Spells (boolChars b) (.bool b) := by
  cases b with
  | false => exact spells_of_succ ⟨'f', _, rfl, rfl, by decide⟩ fun _ _ => rfl
  | true => exact spells_of_succ ⟨'t', _, rfl, rfl, by decide⟩ fun _ _ => rfl

/-- A numeral begins with this character: a sign or a digit. -/
def BeginsNumeral (c : Char) : Prop :=
  c = '-' ∨ c.isDigit = true

instance (c : Char) : Decidable (BeginsNumeral c) :=
  inferInstanceAs (Decidable (c = '-' ∨ c.isDigit = true))

theorem BeginsNumeral.ne {c d : Char} (begins : BeginsNumeral c)
    (other : ¬ BeginsNumeral d := by decide) : c ≠ d := by
  rintro rfl
  exact other begins

theorem BeginsNumeral.visible {c : Char} (begins : BeginsNumeral c) : isBlank c = false := by
  simp [isBlank, begins.ne (d := ' '), begins.ne (d := '\t'), begins.ne (d := '\n'),
    begins.ne (d := '\r')]

theorem beginsNumeral_of_readNumeral {cs rest : List Char} {n : Numeral}
    (read : readNumeral cs = some (n, rest)) : ∃ c ds, cs = c :: ds ∧ BeginsNumeral c := by
  unfold readNumeral at read
  split at read
  · next ds => exact ⟨'-', ds, rfl, .inl rfl⟩
  · obtain ⟨⟨some_digit, -⟩, -⟩ := readUnsigned_eq_some_iff.1 read
    cases cs with
    | nil => exact absurd rfl some_digit
    | cons c ds =>
      by_cases digit : c.isDigit = true
      · exact ⟨c, ds, rfl, .inr digit⟩
      · simp [readDigits, digit] at some_digit

theorem readValue_numeral {c : Char} (begins : BeginsNumeral c) (fuel : Nat) (cs : List Char) :
    readValue (fuel + 1) (c :: cs) =
      (readNumeral (c :: cs)).map fun (n, rest) => (.number n, rest) := by
  rw [readValue, skipBlanks_cons begins.visible]
  split
  · next same => exact absurd (List.cons.inj same).1 begins.ne
  · next same => exact absurd (List.cons.inj same).1 begins.ne
  · next same => exact absurd (List.cons.inj same).1 begins.ne
  · next same => exact absurd (List.cons.inj same).1 begins.ne
  · next same => exact absurd (List.cons.inj same).1 begins.ne
  · next same => exact absurd (List.cons.inj same).1 begins.ne
  · cases readNumeral (c :: cs) <;> rfl

theorem spells_numeral {cs : List Char} {n : Numeral} (read : readNumeral cs = some (n, [])) :
    Spells cs (.number n) := by
  obtain ⟨c, ds, rfl, begins⟩ := beginsNumeral_of_readNumeral read
  refine spells_of_succ ⟨c, ds, rfl, begins.visible, begins.ne⟩ fun {fuel rest} _ follows => ?_
  have reads := local_readNumeral.extends_ read follows
  rw [List.cons_append] at reads ⊢
  rw [readValue_numeral begins, reads]
  rfl

/-- What is read as a number is a numeral after blanks. -/
theorem readNumeral_of_readValue {fuel : Nat} {cs rest : List Char} {n : Numeral}
    (read : readValue fuel cs = some (.number n, rest)) :
    readNumeral (skipBlanks cs) = some (n, rest) := by
  cases fuel with
  | zero => cases read
  | succ fuel =>
    rw [readValue] at read
    split at read
    · obtain ⟨found, -, made⟩ := Option.bind_eq_some_iff.1 read
      cases made
    · split at read
      · cases read
      · obtain ⟨found, -, made⟩ := Option.bind_eq_some_iff.1 read
        cases made
    · split at read
      · cases read
      · obtain ⟨found, -, made⟩ := Option.bind_eq_some_iff.1 read
        cases made
    · cases read
    · cases read
    · cases read
    · obtain ⟨found, numeral, made⟩ := Option.bind_eq_some_iff.1 read
      cases made
      exact numeral

theorem spells_intChars (n : Int) : Spells (intChars n) (.number (numeralOf n)) :=
  spells_numeral (readNumeral_intChars n)

/-! ## Arrays and objects -/

theorem joined_cons_cons (first second : List Char) (rest : List (List Char)) :
    joined (first :: second :: rest) = first ++ ',' :: joined (second :: rest) :=
  rfl

theorem readItems_joined {items : List (List Char)} {ws : List Written}
    (each : List.Forall₂ Spells items ws) (some_item : items ≠ []) (fuel : Nat)
    (enough : (joined items).length + 1 < fuel) (rest : List Char) :
    readItems fuel (joined items ++ ']' :: rest) = some (ws, rest) := by
  induction each generalizing fuel with
  | nil => exact absurd rfl some_item
  | @cons item w items ws first others ih =>
    cases fuel with
    | zero => omega
    | succ fuel =>
      cases others with
      | nil =>
        rw [joined] at enough ⊢
        rw [readItems, first.reads (by omega) (follows_bracket rest)]
        rfl
      | @cons second w' items ws' next others =>
        rw [joined_cons_cons, List.length_append, List.length_cons] at enough
        have tail := ih (List.cons_ne_nil _ _) fuel (by omega)
        rw [joined_cons_cons, List.append_assoc, List.cons_append, readItems,
          first.reads (by omega) (follows_comma _)]
        simp only [Option.bind_eq_bind, Option.bind_some, skipBlanks_cons (c := ',') rfl, tail]
        rfl

theorem readMembers_joined {members : List (List Char)} {ps : List (List Piece × Written)}
    (each : List.Forall₂ SpellsMember members ps) (some_member : members ≠ []) (fuel : Nat)
    (enough : (joined members).length + 1 < fuel) (rest : List Char) :
    readMembers fuel (joined members ++ '\x7d' :: rest) = some (ps, rest) := by
  induction each generalizing fuel with
  | nil => exact absurd rfl some_member
  | @cons m p members ps first others ih =>
    cases fuel with
    | zero => omega
    | succ fuel =>
      obtain ⟨name, value⟩ := first
      rename_i cs w
      have text (after : List Char) : member name cs ++ after =
          '"' :: (name.toList.flatMap escape ++ '"' :: ':' :: (cs ++ after)) := by
        simp [member, quote]
      have long : cs.length + 1 < (member name cs).length := by
        simp [member, quote]
        omega
      cases others with
      | nil =>
        rw [joined] at enough ⊢
        have read : readValue fuel (cs ++ '\x7d' :: rest) = some (w, '\x7d' :: rest) :=
          value.reads (by omega) (follows_brace rest)
        rw [text, readMembers, skipBlanks_cons rfl]
        simp only [readPieces_quoted, Option.bind_eq_bind, Option.bind_some,
          skipBlanks_cons (c := ':') rfl, read, skipBlanks_cons (c := '\x7d') rfl]
        rfl
      | @cons second p' members ps' next others =>
        rw [joined_cons_cons, List.length_append, List.length_cons] at enough
        have tail := ih (List.cons_ne_nil _ _) fuel (by omega)
        have read (after : List Char) : readValue fuel (cs ++ ',' :: after) = some (w, ',' :: after) :=
          value.reads (by omega) (follows_comma after)
        rw [joined_cons_cons, List.append_assoc, List.cons_append, text, readMembers,
          skipBlanks_cons rfl]
        simp only [readPieces_quoted, Option.bind_eq_bind, Option.bind_some,
          skipBlanks_cons (c := ':') rfl, read, skipBlanks_cons (c := ',') rfl, tail]
        rfl

/-- An array begins with its first item. -/
theorem joined_begins {item : List Char} {c : Char} {ds : List Char} (begins : item = c :: ds)
    (items : List (List Char)) : ∃ es, joined (item :: items) = c :: es := by
  subst begins
  cases items with
  | nil => exact ⟨ds, rfl⟩
  | cons second items => exact ⟨_, rfl⟩

theorem readValue_bracket {c : Char} (visible : isBlank c = false) (inside : c ≠ ']')
    (fuel : Nat) (cs : List Char) :
    readValue (fuel + 1) ('[' :: c :: cs) =
      (readItems fuel (c :: cs)).map fun (items, rest) => (.array items, rest) := by
  rw [readValue, skipBlanks_cons rfl]
  simp only [skipBlanks_cons visible]
  split
  · next same => exact absurd (List.cons.inj same).1 inside
  · cases readItems fuel (c :: cs) <;> rfl

theorem readValue_brace (fuel : Nat) (cs : List Char) :
    readValue (fuel + 1) ('\x7b' :: '"' :: cs) =
      (readMembers fuel ('"' :: cs)).map fun (members, rest) => (.object members, rest) := by
  rw [readValue, skipBlanks_cons rfl]
  simp only [skipBlanks_cons (c := '"') rfl]
  split
  · next same => cases (List.cons.inj same).1
  · cases readMembers fuel ('"' :: cs) <;> rfl

theorem spells_bracketed {items : List (List Char)} {ws : List Written}
    (each : List.Forall₂ Spells items ws) : Spells (bracketed items) (.array ws) := by
  refine spells_of_succ ⟨'[', _, rfl, rfl, by decide⟩ fun {fuel rest} enough _ => ?_
  have text : bracketed items ++ rest = '[' :: (joined items ++ ']' :: rest) := by
    simp [bracketed]
  have long : (bracketed items).length = (joined items).length + 2 := by
    simp [bracketed]
  rw [text]
  cases each with
  | nil => rfl
  | @cons item w items ws first others =>
    have read := readItems_joined (.cons first others) (List.cons_ne_nil _ _) fuel (by omega) rest
    obtain ⟨c, ds, begins, visible, inside⟩ := first.begins
    obtain ⟨es, joins⟩ := joined_begins begins items
    rw [joins, List.cons_append] at read ⊢
    rw [readValue_bracket visible inside, read]
    rfl

theorem spells_braced {members : List (List Char)} {ps : List (List Piece × Written)}
    (each : List.Forall₂ SpellsMember members ps) : Spells (braced members) (.object ps) := by
  refine spells_of_succ ⟨'\x7b', _, rfl, rfl, by decide⟩ fun {fuel rest} enough _ => ?_
  have text : braced members ++ rest = '\x7b' :: (joined members ++ '\x7d' :: rest) := by
    simp [braced]
  have long : (braced members).length = (joined members).length + 2 := by
    simp [braced]
  rw [text]
  cases each with
  | nil => rfl
  | @cons m p members ps first others =>
    have read := readMembers_joined (.cons first others) (List.cons_ne_nil _ _) fuel (by omega)
      rest
    obtain ⟨es, joins⟩ : ∃ es, joined (m :: members) = '"' :: es := by
      obtain ⟨name, value⟩ := first
      exact joined_begins rfl members
    rw [joins, List.cons_append] at read ⊢
    rw [readValue_brace, read]
    rfl

end RecordSink.Json
