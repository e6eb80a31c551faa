import RecordSink.Proofs.Sql.Grammar
import RecordSink.Proofs.Sql.RoundTrip

/-! Readers and the phrases that they read. A reader that takes the tokens of its phrase, and no
others, is put together from such readers: one after the other, or one of two when the next token
tells which. -/
namespace RecordSink.Sql
open RecordSink.Sql.Parser

/-- The reader takes tokens of the phrase and nothing else, and it takes all of them if what follows
may follow. -/
structure Parses (p : Parser α) (phrase : α → List Token → Prop) (follow : List Token → Prop) :
    Prop where
  sound : ∀ {tokens a rest}, p tokens = .ok (a, rest) → ∃ used, tokens = used ++ rest ∧ phrase a used
  complete : ∀ {used a rest}, phrase a used → follow rest → p (used ++ rest) = .ok (a, rest)

/-- Two phrases one after the other. -/
def Then (first : α → List Token → Prop) (second : α → β → List Token → Prop) (b : β)
    (tokens : List Token) : Prop :=
  ∃ a us vs, tokens = us ++ vs ∧ first a us ∧ second a b vs

theorem Parses.bind {p : Parser α} {f : α → Parser β} {first : α → List Token → Prop}
    {second : α → β → List Token → Prop} {middle follow : List Token → Prop}
    (head : Parses p first middle) (tail : ∀ a, Parses (f a) (second a) follow)
    (meets : ∀ {a b vs rest}, second a b vs → follow rest → middle (vs ++ rest)) :
    Parses (p >>= f) (Then first second) follow where
  sound ran := by
    obtain ⟨⟨a, left⟩, ranFirst, ranSecond⟩ := bind_ok_iff.1 ran
    obtain ⟨us, rfl, took⟩ := head.sound ranFirst
    obtain ⟨vs, rfl, tookMore⟩ := (tail a).sound ranSecond
    exact ⟨us ++ vs, (List.append_assoc ..).symm, a, us, vs, rfl, took, tookMore⟩
  complete := by
    rintro _ b rest ⟨a, us, vs, rfl, takes, takesMore⟩ follows
    rw [List.append_assoc, run_bind, head.complete takes (meets takesMore follows), ok_bind]
    exact (tail a).complete takesMore follows

theorem Parses.congr {p : Parser α} {phrase other : α → List Token → Prop}
    {follow : List Token → Prop} (parses : Parses p phrase follow)
    (same : ∀ a us, phrase a us ↔ other a us) : Parses p other follow := by
  have equal : phrase = other := funext fun a => funext fun us => propext (same a us)
  exact equal ▸ parses

/-- What may be followed by much may be followed by less. -/
theorem Parses.before {p : Parser α} {phrase : α → List Token → Prop}
    {follow closer : List Token → Prop} (parses : Parses p phrase follow)
    (narrower : ∀ {rest}, closer rest → follow rest) : Parses p phrase closer where
  sound := parses.sound
  complete takes follows := parses.complete takes (narrower follows)

theorem parses_pure (a : α) {follow : List Token → Prop} :
    Parses (pure a) (fun b us => b = a ∧ us = []) follow where
  sound ran := by
    cases ran
    exact ⟨[], rfl, rfl, rfl⟩
  complete := by
    rintro _ _ rest ⟨rfl, rfl⟩ -
    rfl

theorem parses_throw {e : SyntaxError} {phrase : α → List Token → Prop} {follow : List Token → Prop}
    (never : ∀ a us, ¬ phrase a us) : Parses (throw e) phrase follow where
  sound ran := by cases ran
  complete {used a rest} takes := absurd takes (never a used)

theorem Parses.made {p : Parser α} {phrase : α → List Token → Prop} {follow : List Token → Prop}
    (parses : Parses p phrase follow) (make : α → β) :
    Parses (p >>= fun a => pure (make a)) (fun b us => ∃ a, phrase a us ∧ b = make a) follow := by
  refine (parses.bind (fun a => parses_pure (make a)) ?_).congr fun b us => ?_
  · rintro a b _ rest ⟨-, rfl⟩ follows
    exact follows
  · constructor
    · rintro ⟨a, us, _, rfl, takes, rfl, rfl⟩
      exact ⟨a, by simpa using takes, rfl⟩
    · rintro ⟨a, takes, rfl⟩
      exact ⟨a, us, [], by simp, takes, rfl, rfl⟩

theorem parses_identifier : Parses identifier (fun w us => us = [.word w]) Anything where
  sound {tokens w rest} ran := by
    unfold identifier at ran
    split at ran
    · cases ran
      exact ⟨_, rfl, rfl⟩
    · cases ran
  complete := by
    rintro _ w rest rfl -
    rfl

theorem parses_token (t : Token) : Parses (token t) (fun _ us => us = [t]) Anything where
  sound {tokens w rest} ran := by
    unfold token at ran
    split at ran
    · split at ran
      · rename_i same
        cases ran
        exact ⟨[t], by rw [same]; rfl, rfl⟩
      · cases ran
    · cases ran
  complete := by
    rintro _ _ rest rfl -
    simp [token]

theorem parses_number : Parses number (fun n us => us = [.number n]) Anything where
  sound {tokens n rest} ran := by
    unfold number at ran
    split at ran
    · cases ran
      exact ⟨_, rfl, rfl⟩
    · cases ran
  complete := by
    rintro _ n rest rfl -
    rfl

theorem parses_keyword (word : String) :
    Parses (keyword word) (fun _ us => Phrase [word] us) Anything where
  sound {tokens _ rest} ran := by
    unfold keyword at ran
    split at ran
    · split at ran
      · rename_i same
        cases ran
        exact ⟨[_], rfl, .cons same .nil⟩
      · cases ran
    · cases ran
  complete := by
    rintro _ _ rest (_ | ⟨same, ⟨⟩⟩) -
    simp [keyword, same]

theorem parses_name : Parses name NamePhrase Anything where
  sound {tokens w rest} ran := by
    obtain ⟨⟨v, left⟩, taken, checked⟩ := bind_ok_iff.1 ran
    obtain ⟨_, rfl, rfl⟩ := parses_identifier.sound taken
    dsimp only at checked
    by_cases reserved : isReserved v = true
    · rw [if_pos reserved] at checked
      cases checked
    · rw [if_neg reserved] at checked
      cases checked
      exact ⟨[.word w], rfl, .word (Bool.eq_false_iff.2 reserved)⟩
  complete := by
    rintro _ _ rest ⟨free⟩ -
    exact ((reads_name _) rest trivial).1 free

/-- What begins with a keyword is read after the keyword. -/
theorem Parses.afterKeyword {p : Parser α} {phrase : α → List Token → Prop}
    {follow : List Token → Prop} (word : String) (parses : Parses p phrase follow) :
    Parses (keyword word >>= fun _ => p)
      (Then (fun (_ : Unit) => Phrase [word]) fun _ => phrase) follow :=
  (parses_keyword word).bind (fun _ => parses) fun _ _ => trivial

/-- What begins with a name is read after the name. -/
theorem Parses.afterName {f : String → Parser α} {phrase : String → α → List Token → Prop}
    {follow : List Token → Prop} (parses : ∀ w, Parses (f w) (phrase w) follow) :
    Parses (name >>= f) (Then NamePhrase phrase) follow :=
  parses_name.bind parses fun _ _ => trivial

/-! ## Optional parts -/

/-- The look ahead tells whether one token of the phrase comes next, and takes nothing. -/
def Looks (look : Parser Bool) (phrase : List Token → Prop) : Prop :=
  ∀ tokens, (∃ t rest, tokens = t :: rest ∧ phrase [t] ∧ look tokens = .ok (true, tokens)) ∨
    ((∀ t rest, tokens = t :: rest → ¬ phrase [t]) ∧ look tokens = .ok (false, tokens))

theorem looks_nextIsKeyword (word : String) : Looks (nextIsKeyword word) (Phrase [word]) := by
  intro tokens
  unfold nextIsKeyword
  split
  · rename_i w rest
    cases same : Text.sameFolded w word with
    | true => exact .inl ⟨_, _, rfl, .cons same .nil, rfl⟩
    | false =>
      refine .inr ⟨?_, rfl⟩
      rintro _ _ ⟨⟩ ⟨⟩
      simp_all
  · rename_i other
    refine .inr ⟨?_, rfl⟩
    rintro _ rest rfl ⟨⟩
    exact other _ _ rfl

theorem looks_nextIs (t : Token) : Looks (nextIs t) (fun us => us = [t]) := by
  intro tokens
  unfold nextIs
  cases tokens with
  | nil => exact .inr ⟨by simp, rfl⟩
  | cons u rest =>
    by_cases same : u = t
    · subst same
      exact .inl ⟨u, rest, rfl, rfl, by simp⟩
    · exact .inr ⟨by simpa using same, by simp [same]⟩

/-- A part that begins with a token of its own is read if this token comes next, and something else
is read otherwise, which must not look like the part. -/
theorem Parses.orElse {look : Parser Bool} {lead : List Token → Prop} {p q : Parser α}
    {part other : α → List Token → Prop} {follow : List Token → Prop} (looks : Looks look lead)
    (single : ∀ us, lead us → us.length = 1) (yes : Parses p part follow)
    (no : Parses q other follow)
    (apart : ∀ {a us rest t}, other a us → follow rest → (us ++ rest).head? = some t → ¬ lead [t]) :
    Parses (look >>= fun found => if found then skip >>= fun _ => p else q)
      (fun a us => Then (fun (_ : Unit) => lead) (fun _ => part) a us ∨ other a us) follow where
  sound {tokens a rest} ran := by
    rw [run_bind] at ran
    rcases looks tokens with ⟨t, left, rfl, led, found⟩ | ⟨-, found⟩
    · rw [found, ok_bind] at ran
      obtain ⟨us, rfl, took⟩ := yes.sound (show p left = .ok (a, rest) from ran)
      exact ⟨t :: us, rfl, .inl ⟨(), [t], us, rfl, led, took⟩⟩
    · rw [found, ok_bind] at ran
      obtain ⟨us, rfl, took⟩ := no.sound ran
      exact ⟨us, rfl, .inr took⟩
  complete {used a rest} := by
    rintro (⟨-, us, vs, rfl, led, takes⟩ | takes) follows
    · obtain ⟨t, rfl⟩ := List.length_eq_one_iff.1 (single us led)
      have found : look ([t] ++ vs ++ rest) = .ok (true, [t] ++ vs ++ rest) := by
        rcases looks ([t] ++ vs ++ rest) with ⟨-, -, -, -, found⟩ | ⟨none_led, -⟩
        · exact found
        · exact absurd led (none_led t (vs ++ rest) rfl)
      rw [run_bind, found, ok_bind]
      exact yes.complete takes follows
    · have found : look (used ++ rest) = .ok (false, used ++ rest) := by
        rcases looks (used ++ rest) with ⟨t, left, begins, led, -⟩ | ⟨-, found⟩
        · exact absurd led (apart takes follows (by rw [begins]; rfl))
        · exact found
      rw [run_bind, found, ok_bind]
      exact no.complete takes follows

end RecordSink.Sql
