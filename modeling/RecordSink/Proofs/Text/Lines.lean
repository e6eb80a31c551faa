import RecordSink.Text.Lines

/-! The lines of bytes, said of the bytes as a whole: they are cut after every line feed, and what is
left after the last one is a line of its own unless it is empty. Of these lines, those before the
first one that is no text are read. -/
namespace RecordSink.Text

/-- Bytes that are cut into the lines that a line feed ends and what follows the last line feed. -/
structure Lined (bytes : List UInt8) (ended : List (List UInt8)) (last : List UInt8) : Prop where
  whole : bytes = ended.flatMap (fun line => line ++ [0x0A]) ++ last
  ended : ∀ line ∈ ended, 0x0A ∉ line
  last : 0x0A ∉ last

/-- A line without a carriage return at its end. -/
def withoutReturn (line : List UInt8) : List UInt8 :=
  if line.getLast? = some 0x0D then line.dropLast else line

/-- The lines as they are read: a carriage return before a line feed belongs to neither line, and
after the last line feed there is a line only if something is there. -/
def cut (ended : List (List UInt8)) (last : List UInt8) : List (List UInt8) :=
  ended.map withoutReturn ++ if last = [] then [] else [last]

/-- The text of a line. -/
def text? (line : List UInt8) : Option String :=
  String.fromUTF8? ⟨line.toArray⟩

variable {bytes last line : List UInt8} {ended : List (List UInt8)}

/-- Every sequence of bytes can be cut into lines. -/
theorem exists_lined (bytes : List UInt8) : ∃ ended last, Lined bytes ended last := by
  induction bytes with
  | nil => exact ⟨[], [], rfl, nofun, nofun⟩
  | cons byte rest ih =>
    obtain ⟨ended, last, whole, unbroken, open_⟩ := ih
    by_cases feed : byte = 0x0A
    · refine ⟨[] :: ended, last, ?_, List.forall_mem_cons.2 ⟨nofun, unbroken⟩, open_⟩
      rw [whole, feed]
      rfl
    · have longer : ∀ line : List UInt8, 0x0A ∉ line → 0x0A ∉ byte :: line := fun line without =>
        List.not_mem_cons_of_ne_of_not_mem (Ne.symm feed) without
      -- The byte belongs to the first line, which is the last one if no line feed follows.
      cases ended with
      | nil => exact ⟨[], byte :: last, congrArg (byte :: ·) whole, nofun, longer last open_⟩
      | cons first ended =>
        obtain ⟨here, later⟩ := List.forall_mem_cons.1 unbroken
        exact ⟨(byte :: first) :: ended, last, congrArg (byte :: ·) whole,
          List.forall_mem_cons.2 ⟨longer first here, later⟩, open_⟩

theorem finished_eq (reversed : List UInt8) :
    finished reversed = withoutReturn reversed.reverse := by
  unfold finished withoutReturn
  rw [List.getLast?_reverse]
  split
  · simp
  · next returned =>
    rw [if_neg]
    intro there
    obtain ⟨before, rfl⟩ := List.head?_eq_some_iff.1 there
    exact returned before rfl

private theorem byteLines_ended (reversed rest : List UInt8) (unbroken : 0x0A ∉ line) :
    byteLines reversed (line ++ 0x0A :: rest) =
      withoutReturn (reversed.reverse ++ line) :: byteLines [] rest := by
  induction line generalizing reversed with
  | nil => simp [byteLines, finished_eq]
  | cons byte line ih =>
    rw [List.mem_cons, not_or] at unbroken
    rw [List.cons_append, byteLines, if_neg (Ne.symm unbroken.1), ih _ unbroken.2]
    simp

private theorem byteLines_last (reversed : List UInt8) (unbroken : 0x0A ∉ line) :
    byteLines reversed line =
      if reversed.reverse ++ line = [] then [] else [reversed.reverse ++ line] := by
  induction line generalizing reversed with
  | nil => simp [byteLines, List.isEmpty_iff]
  | cons byte line ih =>
    rw [List.mem_cons, not_or] at unbroken
    rw [byteLines, if_neg (Ne.symm unbroken.1), ih _ unbroken.2]
    simp

theorem byteLines_of_lined (lined : Lined bytes ended last) : byteLines [] bytes = cut ended last := by
  obtain ⟨rfl, unbroken, open_⟩ := lined
  induction ended with
  | nil => exact byteLines_last [] open_
  | cons line ended ih =>
    obtain ⟨here, later⟩ := List.forall_mem_cons.1 unbroken
    rw [List.flatMap_cons, List.append_assoc, List.append_assoc, List.singleton_append,
      byteLines_ended [] _ here, ih later]
    rfl

theorem decoded_eq (lines : List (List UInt8)) :
    decoded lines = (lines.takeWhile fun line => (text? line).isSome).filterMap text? := by
  induction lines with
  | nil => rfl
  | cons line rest ih =>
    rw [decoded, ← text?, List.takeWhile_cons]
    cases found : text? line with
    | none => rfl
    | some text => simp [found, ih]

/-- The lines that are read are those before the first one that is no text. -/
theorem lines_of_lined (lined : Lined bytes ended last) :
    lines bytes =
      ((cut ended last).takeWhile fun line => (text? line).isSome).filterMap text? := by
  rw [lines, byteLines_of_lined lined, decoded_eq]

end RecordSink.Text
