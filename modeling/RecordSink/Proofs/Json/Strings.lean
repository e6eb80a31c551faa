import RecordSink.Json.Text

/-! Strings in JSON, read back. Each character of a string is written so that it is read as one piece,
which stands for the character alone; so a string is what stands between its quotes. -/
namespace RecordSink.Json

/-- The piece that a written character is read as. A control character that has no short escape is
read by its number. -/
def pieceOf (c : Char) : Piece :=
  if c.toNat < 0x20 ∧ c ∉ ['\x08', '\t', '\n', '\x0c', '\r'] then .unit c.toNat else .char c

/-- The pieces that a written string is read as. -/
def piecesOf (s : String) : List Piece :=
  s.toList.map pieceOf

theorem hexValue4?_hexDigit {n : Nat} (small : n < 0x20) :
    hexValue4? '0' '0' (Text.hexDigit (n / 16)) (Text.hexDigit (n % 16)) = some n := by
  have high : Text.hexValue? (Text.hexDigit (n / 16)) = some (n / 16) :=
    Text.hexValue?_hexDigit (by omega)
  have low : Text.hexValue? (Text.hexDigit (n % 16)) = some (n % 16) :=
    Text.hexValue?_hexDigit (by omega)
  have zero : Text.hexValue? '0' = some 0 := rfl
  have value : n / 16 * 16 + n % 16 = n := by omega
  have fits : n / 16 < 16 ∧ n % 16 < 16 := by omega
  simp [hexValue4?, Text.isDigitTo, Text.numberTo, high, low, zero, value, fits]

theorem readPieces_short {c e : Char} (short : shortEscape? e = some c) (rest : List Char) :
    readPieces ('\\' :: e :: rest) =
      (readPieces rest).map fun (pieces, rest) => (.char c :: pieces, rest) := by
  rw [readPieces, short]
  · cases readPieces rest <;> rfl
  · rintro _ _ _ _ _ rfl -
    cases short

theorem readPieces_escape (c : Char) (rest : List Char) :
    readPieces (escape c ++ rest) =
      (readPieces rest).map fun (pieces, rest) => (pieceOf c :: pieces, rest) := by
  unfold escape
  split
  iterate 7 exact readPieces_short rfl rest
  next quote backslash backspace tab feed form return_ =>
    split
    · next control =>
      have piece : pieceOf c = .unit c.toNat := by simp_all [pieceOf]
      simp only [List.cons_append, List.nil_append, readPieces, hexValue4?_hexDigit control, piece]
      cases readPieces rest <;> rfl
    · next visible =>
      have piece : pieceOf c = .char c := by simp_all [pieceOf]
      have plain : ¬ (c = '\\' ∨ c.toNat < 0x20) := not_or.2 ⟨backslash, visible⟩
      rw [List.singleton_append, readPieces, if_neg plain, piece]
      · cases readPieces rest <;> rfl
      · exact fun same => absurd same quote
      · exact fun a b c' d rest' same => absurd same backslash
      · exact fun e rest' same => absurd same backslash

/-- The characters up to the closing quote are read as one piece each. -/
theorem readPieces_quoted (s : String) (rest : List Char) :
    readPieces (s.toList.flatMap escape ++ '"' :: rest) = some (piecesOf s, rest) := by
  rw [piecesOf]
  induction s.toList with
  | nil => rfl
  | cons c cs ih => rw [List.flatMap_cons, List.append_assoc, readPieces_escape, ih]; rfl

theorem decodeText_piecesOf (s : String) : decodeText (piecesOf s) = some s := by
  have chars : ∀ cs : List Char, decodePieces (cs.map pieceOf) = some cs := by
    intro cs
    induction cs with
    | nil => rfl
    | cons c cs ih =>
      rw [List.map_cons, pieceOf]
      split
      · next control =>
        have high : isHighSurrogate c.toNat = false := by simp [isHighSurrogate]; omega
        have low : isLowSurrogate c.toNat = false := by simp [isLowSurrogate]; omega
        rw [decodePieces.eq_def]
        simp [high, low, ih]
      · simp [decodePieces, ih]
  rw [decodeText, piecesOf, chars, Option.map_some, String.ofList_toList]

end RecordSink.Json
