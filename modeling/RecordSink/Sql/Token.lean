import RecordSink.Number.Decimal
import RecordSink.Sql.Name
import RecordSink.Text.Blank
import RecordSink.Text.Quoted
/-!
Tokens of a statement: words, numbers of at most 64 bits, and four marks. Words and numbers are read
by longest match; blanks separate tokens and mean nothing else. A statement may end in a semicolon,
after which only blanks follow.
-/
namespace RecordSink.Sql

/-- A token. -/
inductive Token where
  | word (w : String)
  | number (n : Nat)
  | leftParen
  | rightParen
  | comma
  | placeholder
  deriving DecidableEq, Repr

/-- The largest number that a statement can hold. -/
def maxNumber : Nat :=
  0xffffffffffffffff

/-- A token as it is shown in a message. -/
def Token.shown : Token → String
  | .word w => "Word(" ++ Text.quoted w ++ ")"
  | .number n => "Number(" ++ natText n ++ ")"
  | .leftParen => "LParen"
  | .rightParen => "RParen"
  | .comma => "Comma"
  | .placeholder => "Placeholder"

/-- A token that may be missing, as it is shown in a message. -/
def Token.shown? : Option Token → String
  | none => "None"
  | some t => "Some(" ++ t.shown ++ ")"

/-- What a statement needs at some point. -/
inductive Wanted where
  | keyword (word : String)
  | identifier
  | number
  | token (t : Token)
  deriving DecidableEq, Repr

/-- What is needed, in words. -/
def Wanted.text : Wanted → String
  | keyword word => word
  | identifier => "identifier"
  | number => "number"
  | token t => t.shown

/-- Why a text is not a statement. -/
inductive SyntaxError where
  | severalStatements
  | numberTooLarge
  | unexpectedCharacter (c : Char)
  | expected (what : Wanted) (found : Option Token)
  | reservedName (word : String)
  | unknownType (word : String)
  | unknownAction (word : String)
  | unknownStatement (word : String)
  | trailing (t : Token)
  deriving DecidableEq, Repr

/-- The error in words. -/
def SyntaxError.message : SyntaxError → String
  | severalStatements => "multiple statements are not supported"
  | numberTooLarge => "numeric literal overflow"
  | unexpectedCharacter c => "unexpected character '" ++ c.toString ++ "' in statement"
  | expected what found => "expected " ++ what.text ++ ", found " ++ Token.shown? found
  | reservedName word => "reserved word '" ++ word ++ "' used as an identifier"
  | unknownType word => "unknown column type '" ++ word ++ "'"
  | unknownAction word => "unsupported ALTER TABLE action '" ++ word ++ "'"
  | unknownStatement word => "unsupported statement '" ++ word ++ "'"
  | trailing t => "unexpected trailing token " ++ t.shown

/-- The token that is being read: none, a word with its characters so far, last first, or a number
with its value so far. -/
inductive Pending where
  | nothing
  | word (reversed : List Char)
  | number (n : Nat)
  deriving DecidableEq, Repr

namespace Pending

/-- The token that is complete when no further character belongs to it. -/
def tokens : Pending → List Token
  | nothing => []
  | word reversed => [.word (String.ofList reversed.reverse)]
  | number n => [.number n]

/-- A number with one more digit. -/
def digit (n : Nat) (c : Char) : Except SyntaxError Pending :=
  let m := n * 10 + (c.toNat - '0'.toNat)
  if m ≤ maxNumber then .ok (number m) else .error .numberTooLarge

/-- A character outside of any word or number: the tokens that it is, and what it begins. -/
def start (c : Char) : Except SyntaxError (List Token × Pending) :=
  if Text.isBlank c then .ok ([], nothing)
  else if c = '(' then .ok ([.leftParen], nothing)
  else if c = ')' then .ok ([.rightParen], nothing)
  else if c = ',' then .ok ([.comma], nothing)
  else if c = '?' then .ok ([.placeholder], nothing)
  else if c.isDigit then do return ([], ← digit 0 c)
  else if isWordStart c then .ok ([], word [c])
  else .error (.unexpectedCharacter c)

/-- One more character: the tokens that are now complete, and what is being read after it. -/
def step (p : Pending) (c : Char) : Except SyntaxError (List Token × Pending) :=
  match p with
  | nothing => start c
  | word reversed =>
    if isWordPart c then .ok ([], word (c :: reversed))
    else do
      let (done, next) ← start c
      return (p.tokens ++ done, next)
  | number n =>
    if c.isDigit then do return ([], ← digit n c)
    else do
      let (done, next) ← start c
      return (p.tokens ++ done, next)

end Pending

/-- The tokens of the characters that follow what is already being read. -/
def scan (p : Pending) : List Char → Except SyntaxError (List Token)
  | [] => .ok p.tokens
  | c :: cs =>
    if c = ';' then
      if cs.all Text.isBlank then .ok p.tokens else .error .severalStatements
    else do
      let (done, next) ← p.step c
      let rest ← scan next cs
      return done ++ rest

/-- The tokens of a statement. -/
def tokenize (sql : String) : Except SyntaxError (List Token) :=
  scan .nothing sql.toList

/-- The verb of a statement: its first piece between blanks, in upper case. -/
def verb (sql : String) : String :=
  Text.upper (Text.firstPiece sql)

end RecordSink.Sql
