import RecordSink.Proofs.Json.Characters

/-! Numerals in JSON, read back. A numeral ends where something follows that is no part of it, and is
then read the same whatever follows; integers of at most 64 bits are read as they were written. -/
namespace RecordSink.Json

/-- A value ends here: the text ends, or the next item or member or the end of them all follows. -/
def Follows (cs : List Char) : Prop :=
  ∀ c ∈ cs.head?, c = ',' ∨ c = ']' ∨ c = '\x7d'

theorem follows_nil : Follows [] :=
  nofun

theorem follows_comma (cs : List Char) : Follows (',' :: cs) := by
  rintro _ ⟨⟩
  exact .inl rfl

theorem follows_bracket (cs : List Char) : Follows (']' :: cs) := by
  rintro _ ⟨⟩
  exact .inr (.inl rfl)

theorem follows_brace (cs : List Char) : Follows ('\x7d' :: cs) := by
  rintro _ ⟨⟩
  exact .inr (.inr rfl)

theorem Follows.ne {cs : List Char} {c : Char} (follows : Follows (c :: cs)) {d : Char}
    (other : d ∉ [',', ']', '\x7d'] := by decide) : c ≠ d := by
  rintro rfl
  exact other (by simpa using follows c rfl)

theorem Follows.not_digit {cs : List Char} {c : Char} (follows : Follows (c :: cs)) :
    c.isDigit = false := by
  obtain rfl | rfl | rfl := follows c rfl <;> rfl

/-! ## What a reader takes does not depend on what follows -/

/-- A reader of a part of a numeral. It leaves the end of the text, and reads the same before
something that follows a value. -/
structure Local {α : Type} (read : List Char → Option (α × List Char)) : Prop where
  leaves : ∀ {cs a rest}, read cs = some (a, rest) → rest <:+ cs
  extends_ : ∀ {cs a rest tail}, read cs = some (a, rest) → Follows tail →
    read (cs ++ tail) = some (a, rest ++ tail)

theorem readDigits_append {tail : List Char} (follows : Follows tail) (cs : List Char) :
    readDigits (cs ++ tail) = ((readDigits cs).1, (readDigits cs).2 ++ tail) := by
  induction cs with
  | nil =>
    cases tail with
    | nil => rfl
    | cons c tail => simp [readDigits, follows.not_digit]
  | cons c cs ih =>
    rw [readDigits, readDigits, Prod.mk.injEq] at ih
    by_cases digit : c.isDigit = true
    · simp [readDigits, digit, ih.1, ih.2]
    · simp [readDigits, digit]

theorem readDigits_leaves (cs : List Char) : (readDigits cs).2 <:+ cs :=
  List.dropWhile_suffix _

/-- Some digits, at least one, and what they stand for. -/
theorem local_digits {α : Type} (f : List Nat → α) : Local fun cs =>
    match readDigits cs with
    | ([], _) => none
    | (digits, rest) => some (f digits, rest) where
  leaves := by
    intro cs a rest read
    split at read
    · cases read
    · next found =>
      cases read
      have leaves := readDigits_leaves cs
      rwa [found] at leaves
  extends_ := by
    intro cs a rest tail read follows
    rw [readDigits_append follows]
    split at read
    · cases read
    · next digits rest' some_digit found =>
      cases read
      rw [found]
      cases digits with
      | nil => exact (some_digit rfl).elim
      | cons d digits => rfl

theorem local_readExponentDigits (negative : Bool) : Local (readExponentDigits negative) :=
  local_digits fun digits => some (negative, digits)

private theorem readFraction_point (cs : List Char) :
    readFraction ('.' :: cs) =
      match readDigits cs with
      | ([], _) => none
      | (digits, rest) => some (some digits, rest) :=
  rfl

private theorem readFraction_other {c : Char} (other : c ≠ '.') (cs : List Char) :
    readFraction (c :: cs) = some (none, c :: cs) := by
  rw [readFraction]
  exact fun rest same => other (List.cons.inj same).1

theorem local_readFraction : Local readFraction where
  leaves := by
    intro cs a rest read
    cases cs with
    | nil =>
      cases read
      exact List.suffix_rfl
    | cons c cs =>
      by_cases point : c = '.'
      · subst point
        rw [readFraction_point] at read
        exact ((local_digits some).leaves read).trans (List.suffix_cons _ _)
      · rw [readFraction_other point] at read
        cases read
        exact List.suffix_rfl
  extends_ := by
    intro cs a rest tail read follows
    cases cs with
    | nil =>
      cases read
      cases tail with
      | nil => rfl
      | cons c tail => exact readFraction_other follows.ne tail
    | cons c cs =>
      by_cases point : c = '.'
      · subst point
        rw [readFraction_point] at read
        rw [List.cons_append, readFraction_point]
        exact (local_digits some).extends_ read follows
      · rw [readFraction_other point] at read
        cases read
        exact readFraction_other point (cs ++ tail)

/-- What follows the mark of an exponent. -/
private theorem readExponent_mark {c : Char} (mark : c = 'e' ∨ c = 'E') (cs : List Char) :
    readExponent (c :: cs) =
      match cs with
      | '+' :: rest => readExponentDigits false rest
      | '-' :: rest => readExponentDigits true rest
      | rest => readExponentDigits false rest := by
  unfold readExponent
  exact if_pos mark

private theorem readExponent_other {c : Char} (other : ¬ (c = 'e' ∨ c = 'E')) (cs : List Char) :
    readExponent (c :: cs) = some (none, c :: cs) := by
  unfold readExponent
  exact if_neg other

theorem local_readExponent : Local readExponent where
  leaves := by
    intro cs a rest read
    cases cs with
    | nil =>
      cases read
      exact List.suffix_rfl
    | cons c cs =>
      by_cases mark : c = 'e' ∨ c = 'E'
      · rw [readExponent_mark mark] at read
        refine List.IsSuffix.trans ?_ (List.suffix_cons c cs)
        split at read
        · exact ((local_readExponentDigits _).leaves read).trans (List.suffix_cons _ _)
        · exact ((local_readExponentDigits _).leaves read).trans (List.suffix_cons _ _)
        · exact (local_readExponentDigits _).leaves read
      · rw [readExponent_other mark] at read
        cases read
        exact List.suffix_rfl
  extends_ := by
    intro cs a rest tail read follows
    cases cs with
    | nil =>
      cases read
      cases tail with
      | nil => rfl
      | cons c tail =>
        exact readExponent_other (not_or.2 ⟨follows.ne, follows.ne⟩) tail
    | cons c cs =>
      by_cases mark : c = 'e' ∨ c = 'E'
      · rw [readExponent_mark mark] at read
        rw [List.cons_append, readExponent_mark mark]
        split at read
        · exact (local_readExponentDigits _).extends_ read follows
        · exact (local_readExponentDigits _).extends_ read follows
        · next plus minus =>
          cases cs with
          | nil => cases read
          | cons d cs =>
            split
            · next same => exact (plus cs (by rw [(List.cons.inj same).1])).elim
            · next same => exact (minus cs (by rw [(List.cons.inj same).1])).elim
            · exact (local_readExponentDigits _).extends_ read follows
      · rw [readExponent_other mark] at read
        cases read
        exact readExponent_other mark (cs ++ tail)

theorem readUnsigned_eq_some_iff {negative : Bool} {cs rest : List Char} {n : Numeral} :
    readUnsigned negative cs = some (n, rest) ↔
      ((readDigits cs).1 ≠ [] ∧ ((readDigits cs).1.head? = some 0 → (readDigits cs).1.length = 1)) ∧
        ∃ fraction afterPoint, readFraction (readDigits cs).2 = some (fraction, afterPoint) ∧
          ∃ exponent, readExponent afterPoint = some (exponent, rest) ∧
            n = ⟨negative, (readDigits cs).1, fraction, exponent⟩ := by
  rcases digits : readDigits cs with ⟨whole, afterWhole⟩
  unfold readUnsigned
  by_cases some_digit : whole = []
  · simp [digits, some_digit]
  by_cases leading : whole.head? = some 0 ∧ whole.length ≠ 1
  · simp [digits, some_digit, leading]
  · have short (zero : whole.head? = some 0) : whole.length = 1 :=
      Decidable.byContradiction fun long => leading ⟨zero, long⟩
    simp only [digits, some_digit, leading, if_false, Option.bind_eq_bind,
      Option.bind_eq_some_iff, Option.pure_def, Option.some.injEq, Prod.mk.injEq, Prod.exists]
    constructor
    · rintro ⟨fraction, afterPoint, point, exponent, afterMark, mark, rfl, rfl⟩
      exact ⟨⟨some_digit, short⟩, fraction, afterPoint, point, exponent, mark, rfl⟩
    · rintro ⟨-, fraction, afterPoint, point, exponent, mark, rfl⟩
      exact ⟨fraction, afterPoint, point, exponent, rest, mark, rfl, rfl⟩

theorem local_readUnsigned (negative : Bool) : Local (readUnsigned negative) where
  leaves := by
    intro cs a rest read
    obtain ⟨-, fraction, afterPoint, point, exponent, mark, -⟩ := readUnsigned_eq_some_iff.1 read
    exact (local_readExponent.leaves mark).trans
      ((local_readFraction.leaves point).trans (readDigits_leaves cs))
  extends_ := by
    intro cs a rest tail read follows
    obtain ⟨whole, fraction, afterPoint, point, exponent, mark, made⟩ :=
      readUnsigned_eq_some_iff.1 read
    refine readUnsigned_eq_some_iff.2 ?_
    rw [readDigits_append follows]
    exact ⟨whole, fraction, _, local_readFraction.extends_ point follows, exponent,
      local_readExponent.extends_ mark follows, made⟩

theorem local_readNumeral : Local readNumeral where
  leaves := by
    intro cs a rest read
    unfold readNumeral at read
    split at read
    · exact ((local_readUnsigned _).leaves read).trans (List.suffix_cons _ _)
    · exact (local_readUnsigned _).leaves read
  extends_ := by
    intro cs a rest tail read follows
    unfold readNumeral at read
    split at read
    · exact (local_readUnsigned true).extends_ read follows
    · next no_sign =>
      cases cs with
      | nil => cases read
      | cons c cs =>
        unfold readNumeral
        split
        · next same => exact (no_sign cs (by rw [(List.cons.inj same).1])).elim
        · exact (local_readUnsigned false).extends_ read follows

/-! ## Integers -/

/-- The values of the digits of a number. -/
def digitsOf (n : Nat) : List Nat :=
  (decimalDigits n).map digitValue

theorem readDigits_decimalDigits (n : Nat) : readDigits (decimalDigits n) = (digitsOf n, []) := by
  have digits (c : Char) (among : c ∈ decimalDigits n) : c.isDigit = true :=
    Nat.isDigit_of_mem_toDigits (by decide) (by decide) among
  have all : (decimalDigits n ++ []).takeWhile Char.isDigit = decimalDigits n ++ [] :=
    List.takeWhile_append_of_pos digits
  have none_left : (decimalDigits n ++ []).dropWhile Char.isDigit = [] :=
    List.dropWhile_append_of_pos digits
  rw [List.append_nil] at all none_left
  rw [readDigits, all, none_left, digitsOf]

theorem digitsValue_digitsOf (n : Nat) : digitsValue (digitsOf n) = n := by
  have value := Nat.ofDigitChars_toDigits (b := 10) (n := n) (by decide) (by decide)
  rw [Nat.ofDigitChars_eq_foldl] at value
  rw [digitsValue, digitsOf, List.foldl_map]
  simpa only [Nat.mul_comm 10] using! value

/-- A zero at the beginning is the only digit. -/
theorem length_digitsOf_of_head_zero {n : Nat} (zero : (digitsOf n).head? = some 0) :
    (digitsOf n).length = 1 := by
  induction n using Nat.strongRecOn with
  | ind n ih =>
    by_cases small : n < 10
    · rw [digitsOf, decimalDigits, Nat.toDigits_of_lt_base small]
      rfl
    · have more : digitsOf n = digitsOf (n / 10) ++ [digitValue (n % 10).digitChar] := by
        rw [digitsOf, decimalDigits, Nat.toDigits_of_base_le (by decide) (by omega),
          List.map_append]
        rfl
      -- The digits before the last one would be a zero alone, which is not what a tenth of `n` is.
      have before : (digitsOf (n / 10)).head? = some 0 := by
        have some_digit : digitsOf (n / 10) ≠ [] := by simp [digitsOf, decimalDigits]
        rwa [more, List.head?_append, List.head?_eq_some_head some_digit, Option.some_or,
          ← List.head?_eq_some_head] at zero
      have alone : digitsOf (n / 10) = [0] := by
        obtain ⟨d, only⟩ := List.length_eq_one_iff.1 (ih (n / 10) (by omega) before)
        rw [only] at before ⊢
        rw [Option.some.inj before]
      have tenth : n / 10 = 0 := by
        rw [← digitsValue_digitsOf (n / 10), alone]
        rfl
      omega

/-- The numeral that an integer is written as. -/
def numeralOf (n : Int) : Numeral :=
  ⟨n < 0, digitsOf n.natAbs, none, none⟩

theorem readUnsigned_decimalDigits (negative : Bool) (n : Nat) :
    readUnsigned negative (decimalDigits n) = some (⟨negative, digitsOf n, none, none⟩, []) := by
  rw [readUnsigned_eq_some_iff, readDigits_decimalDigits]
  have some_digit : digitsOf n ≠ [] := by simp [digitsOf, decimalDigits]
  exact ⟨⟨some_digit, length_digitsOf_of_head_zero⟩, none, [], rfl, none, rfl, rfl⟩

theorem readNumeral_intChars (n : Int) : readNumeral (intChars n) = some (numeralOf n, []) := by
  rw [intChars, intText_toList, numeralOf]
  by_cases negative : n < 0
  · rw [if_pos negative, readNumeral, readUnsigned_decimalDigits, decide_eq_true negative]
  · rw [if_neg negative, decide_eq_false negative]
    unfold readNumeral
    split
    · next same =>
      have digit : '-'.isDigit = true :=
        Nat.isDigit_of_mem_toDigits (b := 10) (by decide) (by decide)
          (by rw [← decimalDigits, same]; exact List.mem_cons_self)
      cases digit
    · exact readUnsigned_decimalDigits false n.natAbs

/-- Integers that fit into 64 bits, with or without sign, are read as themselves. -/
theorem number?_numeralOf {n : Int} (low : -0x8000000000000000 ≤ n)
    (high : n < 0x10000000000000000) : (numeralOf n).number? = some (.int n) := by
  unfold Numeral.number?
  simp only [numeralOf, digitsValue_digitsOf, maxSignificand]
  by_cases negative : n < 0
  · have fits : ¬ 0xffffffffffffffff < n.natAbs := by omega
    have nonzero : n.natAbs ≠ 0 := by omega
    have small : n.natAbs ≤ 0x8000000000000000 := by omega
    have same : -(n.natAbs : Int) = n := by omega
    simp only [negative, fits, nonzero, small, same, Option.isSome_none, Bool.false_eq_true,
      decide_true, Bool.not_true, or_self, if_false, if_true]
  · have fits : ¬ 0xffffffffffffffff < n.natAbs := by omega
    have same : (n.natAbs : Int) = n := by omega
    simp only [negative, fits, same, Option.isSome_none, Bool.false_eq_true, decide_false,
      Bool.not_false, or_self, if_false, if_true]

end RecordSink.Json
