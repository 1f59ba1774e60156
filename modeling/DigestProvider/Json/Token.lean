import DigestProvider.Json.Number
import DigestProvider.Json.Quoted

/-!
JSON text as tokens. Reading stops behind the first malformed one, so whoever reads the tokens in order meets the
first fault of the text first.
-/

namespace DigestProvider.Json

/-- A token of JSON text. -/
inductive Token where
  | openBracket
  | closeBracket
  | openBrace
  | closeBrace
  | comma
  | colon
  | null
  | boolean (value : Bool)
  | number (value : Number)
  | text (value : String)
  /-- Something that no token starts with, or a token broken off or out of range. -/
  | malformed

/-- The four characters that may stand between tokens. -/
def isSpace (c : Char) : Bool :=
  c = ' ' || c = '\t' || c = '\n' || c = '\r'

/-- Behind a malformed token nothing is read. -/
def broken : Token × List Char :=
  (.malformed, [])

/-- A word that has to follow its first letter. -/
def readWord (expected : List Char) (token : Token) (rest : List Char) : Token × List Char :=
  if expected.isPrefixOf rest then (token, rest.drop expected.length) else broken

/-- The string whose opening quote has been read. -/
def readText (rest : List Char) : Token × List Char :=
  match unquote? rest with
  | some (text, rest) => (.text (String.ofList text), rest)
  | none => broken

/-- The number at the front of a text. -/
def readNumber (chars : List Char) : Token × List Char :=
  match readNumeral? chars with
  | none => broken
  | some (numeral, rest) =>
    match numeral.value? with
    | some value => (.number value, rest)
    | none => broken

/-- The token that a character opens, and the text behind it. -/
def readToken (c : Char) (rest : List Char) : Token × List Char :=
  match c with
  | '[' => (.openBracket, rest)
  | ']' => (.closeBracket, rest)
  | '{' => (.openBrace, rest)
  | '}' => (.closeBrace, rest)
  | ',' => (.comma, rest)
  | ':' => (.colon, rest)
  | '"' => readText rest
  | 'n' => readWord ['u', 'l', 'l'] .null rest
  | 't' => readWord ['r', 'u', 'e'] (.boolean true) rest
  | 'f' => readWord ['a', 'l', 's', 'e'] (.boolean false) rest
  | _ => if c = '-' || c.isDigit then readNumber (c :: rest) else broken

/-- A word leaves no more text than there was. -/
theorem length_readWord (expected : List Char) (token : Token) (rest : List Char) :
    (readWord expected token rest).2.length ≤ rest.length := by
  -- Either the word is dropped or everything is.
  unfold readWord
  split <;> simp [broken]

/-- A string leaves no more text than there was. -/
theorem length_readText (rest : List Char) : (readText rest).2.length ≤ rest.length := by
  -- A string that was read has taken at least its closing quote.
  unfold readText
  split
  · next read => exact Nat.le_of_lt (length_of_unquote? read)
  · simp [broken]

/-- A number leaves less text than its characters were. -/
theorem length_readNumber (c : Char) (rest : List Char) :
    (readNumber (c :: rest)).2.length ≤ rest.length := by
  -- A numeral that was read has taken at least its first character.
  unfold readNumber
  split
  · simp [broken]
  · next read =>
    have bound := length_of_readNumeral? read
    simp only [List.length_cons] at bound
    split
    · exact Nat.le_of_lt_succ bound
    · simp [broken]

/-- A token leaves no more text than followed its first character. -/
theorem length_readToken (c : Char) (rest : List Char) :
    (readToken c rest).2.length ≤ rest.length := by
  -- Punctuation takes one character, and the other tokens have bounds of their own.
  unfold readToken
  split <;> first
    | exact Nat.le_refl _
    | exact length_readText rest
    | exact length_readWord _ _ rest
    | skip
  split
  · exact length_readNumber c rest
  · simp [broken]

/-- The tokens of a text. -/
def tokens (chars : List Char) : List Token :=
  match _ : chars.dropWhile isSpace with
  | [] => []
  | c :: rest => (readToken c rest).1 :: tokens (readToken c rest).2
termination_by chars.length
decreasing_by
  -- A token takes at least its first character, and spaces only take text away.
  next spaces =>
  have fewer := (List.dropWhile_sublist (l := chars) isSpace).length_le
  have bound := length_readToken c rest
  rw [spaces, List.length_cons] at fewer
  omega

end DigestProvider.Json
