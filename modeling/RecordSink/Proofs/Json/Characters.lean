import RecordSink.Json.Record

/-! The characters of written JSON. Numbers are written with visible characters only, and no control
character stands anywhere in what is written, so a batch is always written on one line. -/
namespace RecordSink

/-- No control character is among these characters. -/
def Text.Unbroken (cs : List Char) : Prop :=
  ∀ c ∈ cs, 0x20 ≤ c.toNat

/-- Neither a control character nor a space is among these characters. -/
def Text.Solid (cs : List Char) : Prop :=
  ∀ c ∈ cs, 0x20 < c.toNat

namespace Text

variable {c : Char} {cs ds : List Char}

instance : Decidable (Unbroken cs) :=
  List.decidableBAll _ cs

instance : Decidable (Solid cs) :=
  List.decidableBAll _ cs

theorem Solid.unbroken (solid : Solid cs) : Unbroken cs := fun c among =>
  Nat.le_of_lt (solid c among)

theorem unbroken_nil : Unbroken [] :=
  nofun

theorem unbroken_cons : Unbroken (c :: cs) ↔ 0x20 ≤ c.toNat ∧ Unbroken cs :=
  List.forall_mem_cons

theorem unbroken_append : Unbroken (cs ++ ds) ↔ Unbroken cs ∧ Unbroken ds :=
  List.forall_mem_append

theorem solid_cons : Solid (c :: cs) ↔ 0x20 < c.toNat ∧ Solid cs :=
  List.forall_mem_cons

theorem solid_append : Solid (cs ++ ds) ↔ Solid cs ∧ Solid ds :=
  List.forall_mem_append

theorem Solid.of_subset (solid : Solid ds) (among : cs ⊆ ds) : Solid cs := fun c there =>
  solid c (among there)

theorem solid_replicate (n : Nat) (visible : 0x20 < c.toNat) : Solid (List.replicate n c) :=
  fun _ among => List.eq_of_mem_replicate among ▸ visible

theorem solid_decimalDigits (n : Nat) : Solid (decimalDigits n) := by
  intro c among
  have digit := Nat.isDigit_of_mem_toDigits (by decide) (by decide) among
  have low : '0' ≤ c := by
    rw [Char.isDigit, Bool.and_eq_true, decide_eq_true_eq] at digit
    exact digit.1
  exact Nat.lt_of_lt_of_le (by decide) low

end Text

open Text

/-! ## Numbers -/

theorem intText_toList (n : Int) :
    (intText n).toList = if n < 0 then '-' :: decimalDigits n.natAbs else decimalDigits n.natAbs := by
  unfold intText natText
  split <;> simp

theorem solid_intText (n : Int) : Solid (intText n).toList := by
  rw [intText_toList]
  split
  · exact solid_cons.2 ⟨by decide, solid_decimalDigits _⟩
  · exact solid_decimalDigits _

namespace DoubleFormat

variable {digits : List Char}

theorem solid_positional (solid : Solid digits) (e : Int) : Solid (positional digits e) := by
  cases e with
  | ofNat e =>
    have rest : Solid (if (digits.drop (e + 1)).isEmpty then ['0'] else digits.drop (e + 1)) := by
      split
      · exact solid_cons.2 ⟨by decide, nofun⟩
      · exact solid.of_subset (List.drop_subset _ _)
    exact solid_append.2 ⟨solid_append.2 ⟨solid.of_subset (List.take_subset _ _),
      solid_replicate _ (by decide)⟩, solid_cons.2 ⟨by decide, rest⟩⟩
  | negSucc e =>
    exact solid_cons.2 ⟨by decide, solid_cons.2 ⟨by decide,
      solid_append.2 ⟨solid_replicate _ (by decide), solid⟩⟩⟩

theorem solid_scientific {f : DoubleFormat} (plus : Solid f.plus.toList) (solid : Solid digits)
    (e : Int) : Solid (f.scientific digits e) := by
  refine solid_append.2 ⟨?_, solid_cons.2 ⟨by decide, solid_append.2 ⟨?_, solid_intText e⟩⟩⟩
  · cases digits with
    | nil => exact nofun
    | cons first rest =>
      obtain ⟨visible, others⟩ := solid_cons.1 solid
      cases rest with
      | nil => exact solid
      | cons next rest => exact solid_cons.2 ⟨visible, solid_cons.2 ⟨by decide, others⟩⟩
  · split
    · exact plus
    · exact nofun

theorem solid_leading (n : Nat) (grid : Int) : Solid (leading n grid).1 := by
  refine (solid_decimalDigits n).of_subset fun c among => ?_
  rw [leading, List.mem_reverse] at among
  exact List.mem_reverse.1 ((List.dropWhile_sublist _).subset among)

theorem solid_absolute {f : DoubleFormat} (plus : Solid f.plus.toList) (d : Double) :
    Solid (f.absolute d) := by
  unfold absolute
  split
  · exact (by decide : Solid ['0', '.', '0'])
  · have digits := solid_leading (d.shortest f.tie).1 (d.shortest f.tie).2
    dsimp only
    split
    · exact solid_positional digits _
    · exact solid_scientific plus digits _

theorem solid_finite {f : DoubleFormat} (plus : Solid f.plus.toList) (d : Double) :
    Solid (f.finite d) := by
  unfold finite
  split
  · exact solid_cons.2 ⟨by decide, solid_absolute plus d⟩
  · exact solid_absolute plus d

end DoubleFormat

namespace Json

theorem solid_intChars (n : Int) : Solid (intChars n) :=
  solid_intText n

theorem solid_doubleChars (d : Double) : Solid (doubleChars d) := by
  unfold doubleChars
  split
  · decide
  · exact DoubleFormat.solid_finite (f := .json) (by decide) d

theorem solid_boolChars (b : Bool) : Solid (boolChars b) := by
  cases b <;> decide

/-! ## Strings, arrays and objects -/

theorem unbroken_escape (c : Char) : Unbroken (escape c) := by
  unfold escape
  split
  iterate 7 decide
  split
  · have digit : ∀ m : Fin 16, 0x20 ≤ (hexDigit m).toNat := by decide
    have low : c.toNat / 16 < 16 := by omega
    have high : c.toNat % 16 < 16 := Nat.mod_lt _ (by decide)
    have mark : Unbroken ['\\', 'u', '0', '0'] := by decide
    exact unbroken_append.2 ⟨mark, unbroken_cons.2 ⟨digit ⟨_, low⟩,
      unbroken_cons.2 ⟨digit ⟨_, high⟩, unbroken_nil⟩⟩⟩
  · next visible => exact unbroken_cons.2 ⟨Nat.le_of_not_lt visible, unbroken_nil⟩

theorem unbroken_quote (s : String) : Unbroken (quote s) := by
  refine unbroken_append.2 ⟨unbroken_cons.2 ⟨by decide, fun c among => ?_⟩,
    unbroken_cons.2 ⟨by decide, unbroken_nil⟩⟩
  obtain ⟨d, -, here⟩ := List.mem_flatMap.1 among
  exact unbroken_escape d c here

theorem unbroken_joined {items : List (List Char)} (each : ∀ item ∈ items, Unbroken item) :
    Unbroken (joined items) := by
  induction items with
  | nil => exact unbroken_nil
  | cons item rest ih =>
    obtain ⟨first, others⟩ := List.forall_mem_cons.1 each
    cases rest with
    | nil => exact first
    | cons next rest => exact unbroken_append.2 ⟨first, unbroken_cons.2 ⟨by decide, ih others⟩⟩

theorem unbroken_bracketed {items : List (List Char)} (each : ∀ item ∈ items, Unbroken item) :
    Unbroken (bracketed items) :=
  unbroken_append.2 ⟨unbroken_cons.2 ⟨by decide, unbroken_joined each⟩,
    unbroken_cons.2 ⟨by decide, unbroken_nil⟩⟩

theorem unbroken_braced {members : List (List Char)} (each : ∀ m ∈ members, Unbroken m) :
    Unbroken (braced members) :=
  unbroken_append.2 ⟨unbroken_cons.2 ⟨by decide, unbroken_joined each⟩,
    unbroken_cons.2 ⟨by decide, unbroken_nil⟩⟩

theorem unbroken_member (name : String) {value : List Char} (unbroken : Unbroken value) :
    Unbroken (member name value) :=
  unbroken_append.2 ⟨unbroken_quote name, unbroken_cons.2 ⟨by decide, unbroken⟩⟩

end Json

/-! ## Values, records and batches -/

theorem Value.unbroken_contentChars (v : Value) : Unbroken v.contentChars := by
  cases v with
  | boolean b => exact (Json.solid_boolChars b).unbroken
  | byte n => exact (Json.solid_intChars _).unbroken
  | short n => exact (Json.solid_intChars _).unbroken
  | integer n => exact (Json.solid_intChars _).unbroken
  | long n => exact (Json.solid_intChars _).unbroken
  | double d => exact (Json.solid_doubleChars d).unbroken
  | string s => exact Json.unbroken_quote s
  | byteArray bytes =>
    refine Json.unbroken_bracketed fun item among => ?_
    obtain ⟨b, -, rfl⟩ := List.mem_map.1 among
    exact (Json.solid_intChars _).unbroken

theorem Value.unbroken_jsonChars (v : Value) : Unbroken v.jsonChars :=
  Json.unbroken_braced (List.forall_mem_cons.2 ⟨Json.unbroken_member _ (Json.unbroken_quote _),
    List.forall_mem_singleton.2 (Json.unbroken_member _ v.unbroken_contentChars)⟩)

theorem Record.unbroken_jsonChars (r : Record) : Unbroken r.jsonChars := by
  refine Json.unbroken_braced fun m among => ?_
  obtain ⟨⟨name, v⟩, -, rfl⟩ := List.mem_map.1 among
  exact Json.unbroken_member name v.unbroken_jsonChars

theorem Batch.unbroken_jsonChars (batch : List Record) : Unbroken (Batch.jsonChars batch) := by
  refine Json.unbroken_bracketed fun item among => ?_
  obtain ⟨r, -, rfl⟩ := List.mem_map.1 among
  exact r.unbroken_jsonChars

end RecordSink
