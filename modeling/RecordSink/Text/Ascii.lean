/-!
ASCII letter case. Keywords, reserved words, fault verbs and colliding column names are compared
without regard to the case of the letters A to Z; every other character stands for itself.
-/
namespace RecordSink.Text

/-- The text with its letters a to z in upper case. -/
def upper (s : String) : String :=
  String.ofList (s.toList.map Char.toUpper)

/-- Equality of two texts up to the case of ASCII letters. -/
def sameFolded (s t : String) : Bool :=
  upper s == upper t

theorem sameFolded_refl (s : String) : sameFolded s s = true := by
  simp [sameFolded]

theorem sameFolded_comm (s t : String) : sameFolded s t = sameFolded t s :=
  Bool.beq_comm

end RecordSink.Text
