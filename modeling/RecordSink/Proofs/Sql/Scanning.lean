import RecordSink.Proofs.Results
import RecordSink.Proofs.Sql.Words
import RecordSink.Sql.Token

/-! Scanning, seen from its tokens. Every word that is scanned is a word in the strict sense, and a
text that is put together from words, numbers and marks is scanned as exactly those. -/
namespace RecordSink.Sql

/-! ## Scanned words are words -/

/-- What is being read as a word is one so far. -/
def Pending.Sound : Pending → Prop
  | .word reversed => isWord (String.ofList reversed.reverse) = true
  | _ => True

/-- All words among the tokens are words. -/
def Tidy (tokens : List Token) : Prop :=
  ∀ w, .word w ∈ tokens → isWord w = true

theorem tidy_append {ts us : List Token} : Tidy (ts ++ us) ↔ Tidy ts ∧ Tidy us := by
  simp only [Tidy, List.mem_append]
  exact ⟨fun all => ⟨fun w mem => all w (.inl mem), fun w mem => all w (.inr mem)⟩,
    fun both w mem => mem.elim (both.1 w) (both.2 w)⟩

theorem tidy_tokens {p : Pending} (sound : p.Sound) : Tidy p.tokens := by
  intro w mem
  cases p with
  | nothing => cases mem
  | number n => simp [Pending.tokens] at mem
  | word reversed =>
    simp only [Pending.tokens, List.mem_singleton, Token.word.injEq] at mem
    exact mem ▸ sound

private theorem digit_sound {n : Nat} {c : Char} {next : Pending}
    (read : Pending.digit n c = .ok next) : next.Sound := by
  simp only [Pending.digit] at read
  split at read
  · cases read
    trivial
  · cases read

/-- Outside of words and numbers a character is a blank or a mark, or begins a number or a word. -/
private theorem start_cases {c : Char} {done : List Token} {next : Pending}
    (started : Pending.start c = .ok (done, next)) :
    (next = .nothing ∧ ∀ w, Token.word w ∉ done) ∨ (done = [] ∧ Pending.digit 0 c = .ok next) ∨
      (done = [] ∧ isWordStart c = true ∧ next = .word [c]) := by
  unfold Pending.start at started
  repeat' split at started
  · cases started
    simp
  · cases started
    simp
  · cases started
    simp
  · cases started
    simp
  · cases started
    simp
  · obtain ⟨first, read, same⟩ := bind_ok_iff.1 started
    cases same
    exact .inr (.inl ⟨rfl, read⟩)
  · rename_i start
    cases started
    exact .inr (.inr ⟨rfl, start, rfl⟩)
  · cases started

private theorem start_sound {c : Char} {done : List Token} {next : Pending}
    (started : Pending.start c = .ok (done, next)) : Tidy done ∧ next.Sound := by
  obtain ⟨rfl, marks⟩ | ⟨rfl, read⟩ | ⟨rfl, start, rfl⟩ := start_cases started
  · exact ⟨fun w mem => absurd mem (marks w), trivial⟩
  · exact ⟨by simp [Tidy], digit_sound read⟩
  · exact ⟨by simp [Tidy], isWord_cons_iff.2 ⟨start, rfl⟩⟩

private theorem resume_sound {p : Pending} {c : Char} {done : List Token} {next : Pending}
    (sound : p.Sound) (resumed : (Pending.start c).map (fun s => (p.tokens ++ s.1, s.2)) =
      .ok (done, next)) : Tidy done ∧ next.Sound := by
  obtain ⟨⟨first, follow⟩, started, same⟩ := map_ok_iff.1 resumed
  cases same
  obtain ⟨tidy, followSound⟩ := start_sound started
  exact ⟨tidy_append.2 ⟨tidy_tokens sound, tidy⟩, followSound⟩

/-- A character that continues neither a word nor a number completes it and is read afresh. -/
theorem step_of_not_digit {n : Nat} {c : Char} (digit : ¬ c.isDigit = true) :
    (Pending.number n).step c =
      (Pending.start c).map fun s => ((Pending.number n).tokens ++ s.1, s.2) := by
  simp only [Pending.step, digit]
  cases Pending.start c <;> rfl

theorem step_of_ends {p : Pending} {c : Char} (ends : isWordPart c = false) :
    p.step c = (Pending.start c).map fun s => (p.tokens ++ s.1, s.2) := by
  have digit : ¬ c.isDigit = true := by
    intro digit
    rw [isWordPart_iff.2 (.inr digit)] at ends
    cases ends
  cases p with
  | number n => exact step_of_not_digit digit
  | nothing =>
    simp only [Pending.step, Pending.tokens]
    cases Pending.start c <;> rfl
  | word reversed =>
    simp only [Pending.step, ends]
    cases Pending.start c <;> rfl

private theorem step_sound {p : Pending} {c : Char} {done : List Token} {next : Pending}
    (sound : p.Sound) (stepped : p.step c = .ok (done, next)) : Tidy done ∧ next.Sound := by
  by_cases part : isWordPart c = true
  · cases p with
    | nothing => exact start_sound stepped
    | word reversed =>
      simp only [Pending.step, part, if_true, Except.ok.injEq, Prod.mk.injEq] at stepped
      obtain ⟨rfl, rfl⟩ := stepped
      refine ⟨by simp [Tidy], ?_⟩
      simpa [Pending.Sound] using isWord_concat sound part
    | number n =>
      by_cases digit : c.isDigit = true
      · simp only [Pending.step, digit, if_true] at stepped
        obtain ⟨first, read, same⟩ := bind_ok_iff.1 stepped
        cases same
        exact ⟨by simp [Tidy], digit_sound read⟩
      · rw [step_of_not_digit digit] at stepped
        exact resume_sound sound stepped
  · rw [step_of_ends (Bool.eq_false_iff.2 part)] at stepped
    exact resume_sound sound stepped

/-- All words that are scanned are words. -/
theorem scan_tidy {p : Pending} {cs : List Char} {tokens : List Token} (sound : p.Sound)
    (scanned : scan p cs = .ok tokens) : Tidy tokens := by
  induction cs generalizing p tokens with
  | nil =>
    cases scanned
    exact tidy_tokens sound
  | cons c cs ih =>
    simp only [scan] at scanned
    split at scanned
    · split at scanned
      · cases scanned
        exact tidy_tokens sound
      · cases scanned
    · obtain ⟨⟨done, next⟩, stepped, following⟩ := bind_ok_iff.1 scanned
      obtain ⟨rest, tail, same⟩ := bind_ok_iff.1 following
      cases same
      obtain ⟨tidy, nextSound⟩ := step_sound sound stepped
      exact tidy_append.2 ⟨tidy, ih nextSound tail⟩

theorem tokenize_tidy {sql : String} {tokens : List Token} (read : tokenize sql = .ok tokens) :
    Tidy tokens :=
  scan_tidy (p := .nothing) trivial read

end RecordSink.Sql
