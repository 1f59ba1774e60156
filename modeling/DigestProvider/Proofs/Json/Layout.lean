import DigestProvider.Json.Token
import DigestProvider.Proofs.Json.Numerals
import DigestProvider.Proofs.Json.Spelling
import Mathlib.Data.List.Chain
import Mathlib.Data.List.TakeWhile

/-!
The texts by which tokens may be written: each in one of its own ways, with any white space around it. Main statement:
the tokens of such a text are those that it was written for.
-/

namespace DigestProvider.Json

/-- A numeral's token: a number, or a malformed one if no float is as large. -/
def Numeral.token (numeral : Numeral) : Token :=
  -- A numeral that no float is as large as is well written and still refused.
  match numeral.value? with
  | some value => .number value
  | none => .malformed

namespace Token

/-- Brackets, braces, commas and colons. -/
def isPunctuation : Token → Bool
  | openBracket | closeBracket | openBrace | closeBrace | comma | colon => true
  | null | boolean _ | number _ | text _ | malformed => false

/-- Whether reading stops behind a token. -/
def isMalformed : Token → Bool
  | malformed => true
  | openBracket | closeBracket | openBrace | closeBrace | comma | colon => false
  | null | boolean _ | number _ | text _ => false

end Token

/-- No numeral is punctuation. -/
theorem Numeral.isPunctuation_token (numeral : Numeral) : numeral.token.isPunctuation = false := by
  -- A numeral is a number or malformed.
  unfold Numeral.token
  split <;> rfl

/-- The ways to write a token: numerals and strings have several. -/
inductive WrittenToken : Token → List Char → Prop where
  | openBracket : WrittenToken .openBracket ['[']
  | closeBracket : WrittenToken .closeBracket [']']
  | openBrace : WrittenToken .openBrace ['{']
  | closeBrace : WrittenToken .closeBrace ['}']
  | comma : WrittenToken .comma [',']
  | colon : WrittenToken .colon [':']
  | null : WrittenToken .null ['n', 'u', 'l', 'l']
  | yes : WrittenToken (.boolean true) ['t', 'r', 'u', 'e']
  | no : WrittenToken (.boolean false) ['f', 'a', 'l', 's', 'e']
  | numeral {numeral : Numeral} {chars : List Char} (written : WrittenNumeral numeral chars) :
    WrittenToken numeral.token chars
  | text {text body : List Char} (spells : Spells text body) :
    WrittenToken (.text (String.ofList text)) ('"' :: (body ++ ['"']))

/-- A text that lays out tokens: each is written in one of its ways, and any white space stands before, between and
behind them. -/
inductive Layout : List Token → List Char → Prop where
  /-- White space lays out no token. -/
  | done {spaces : List Char} (blank : ∀ c ∈ spaces, isSpace c = true) : Layout [] spaces
  /-- A token stands behind white space and in front of the others. -/
  | next {token : Token} {tokens : List Token} {spaces chars rest : List Char}
      (blank : ∀ c ∈ spaces, isSpace c = true) (written : WrittenToken token chars)
      (others : Layout tokens rest) : Layout (token :: tokens) (spaces ++ (chars ++ rest))

/-- Of two tokens in a row at least one is punctuation, so that no two are run together. -/
def Separated (tokens : List Token) : Prop :=
  -- Two literals in a row would read as one word, and two numerals as one.
  tokens.IsChain fun token next => token.isPunctuation = true ∨ next.isPunctuation = true

/-- Tokens up to the first that is malformed, behind which nothing is read. -/
def upToFault : List Token → List Token
  | [] => []
  | token :: rest => if token.isMalformed then [token] else token :: upToFault rest

/-- A well-formed token is followed by what it was followed by. -/
theorem upToFault_cons {token : Token} (sound : token.isMalformed = false)
    (rest : List Token) : upToFault (token :: rest) = token :: upToFault rest := by
  -- The fault, if there is one, comes later.
  rw [upToFault, sound, if_neg Bool.false_ne_true]

/-- The first of some tokens is left, and what is behind it if it is well formed. -/
theorem upToFault_front (token : Token) (rest : List Token) :
    ∃ left, upToFault (token :: rest) = token :: left ∧
      (token.isMalformed = false → left = upToFault rest) := by
  -- The first token is left in any case, for even a fault is reported.
  cases sound : token.isMalformed with
  | false => exact ⟨_, upToFault_cons sound rest, fun _ => rfl⟩
  | true => exact ⟨[], by rw [upToFault, sound, if_pos rfl], fun other => nomatch other⟩

/-- White space alone has no tokens. -/
theorem tokens_of_blank {spaces : List Char} (blank : ∀ c ∈ spaces, isSpace c = true) :
    tokens spaces = [] := by
  -- Nothing is left when the white space is dropped.
  rw [tokens]
  split
  · rfl
  · next left => cases left.symm.trans (List.dropWhile_eq_nil_iff.mpr blank)

/-- A token behind white space is the first, and the others are those of the text behind it. -/
theorem tokens_of_front {spaces rest : List Char} {c : Char}
    (blank : ∀ c ∈ spaces, isSpace c = true) (stands : isSpace c = false) :
    tokens (spaces ++ c :: rest) = (readToken c rest).1 :: tokens (readToken c rest).2 := by
  -- The white space is dropped up to the character, which opens the token.
  have dropped : (spaces ++ c :: rest).dropWhile isSpace = c :: rest := by
    rw [List.dropWhile_append_of_pos blank, List.dropWhile_cons_of_neg (by simp [stands])]
  -- There is something left to read, and it is what was dropped to.
  rw [tokens]
  split
  · next left => cases left.symm.trans dropped
  · next left =>
    obtain ⟨rfl, rfl⟩ := List.cons.inj (left.symm.trans dropped)
    rfl

/-- Behind a malformed token there are no others. -/
theorem tokens_nil : tokens [] = [] :=
  tokens_of_blank fun _ member => nomatch member

/-- A sign or a digit opens a number. -/
theorem readToken_number {c : Char} (opens : c = '-' ∨ c.isDigit = true) (rest : List Char) :
    readToken c rest = readNumber (c :: rest) := by
  -- None of the other tokens is opened by such a character.
  unfold readToken
  split
  all_goals first
    | exact absurd opens (by decide)
    | rw [if_pos (by simpa using opens)]

/-- A numeral begins with a sign or a digit. -/
theorem WrittenNumeral.front {numeral : Numeral} {chars : List Char}
    (written : WrittenNumeral numeral chars) :
    ∃ c rest, chars = c :: rest ∧ (c = '-' ∨ c.isDigit = true) := by
  -- The sign comes first, and without one the whole part, which has a digit.
  obtain @⟨negative, whole, digital, _, _, _, _, _, _, _⟩ := written
  cases negative with
  | true => exact ⟨'-', _, rfl, .inl rfl⟩
  | false =>
    obtain ⟨first, others, rfl⟩ := List.exists_cons_of_ne_nil digital.1
    exact ⟨first, _, rfl, .inr (digital.2 first List.mem_cons_self)⟩

/-- A written numeral is read as its token. -/
theorem readNumber_append {numeral : Numeral} {chars rest : List Char}
    (written : WrittenNumeral numeral chars) (ends : EndsNumeral rest) :
    readNumber (chars ++ rest) =
      (numeral.token, if numeral.token.isMalformed then [] else rest) := by
  -- The numeral is read off the front, and its size decides what it is a token of.
  simp only [readNumber, readNumeral?_append written ends]
  unfold Numeral.token
  rcases found : numeral.value? with _ | value
  · rfl
  · rfl

/-- No token begins with white space. -/
theorem not_space_of_opens {c : Char} (opens : c = '-' ∨ c.isDigit = true) : isSpace c = false := by
  -- None of the four characters of white space is a sign or a digit.
  rcases opens with rfl | digit
  · decide
  · simp only [isSpace, Bool.or_eq_false_iff, decide_eq_false_iff_not]
    refine ⟨⟨⟨?_, ?_⟩, ?_⟩, ?_⟩ <;>
      · rintro rfl
        exact absurd digit (by decide)

/-- A written token stands behind white space as the first, unless a numeral goes on behind it. -/
theorem tokens_of_written {token : Token} {spaces chars rest : List Char}
    (blank : ∀ c ∈ spaces, isSpace c = true) (written : WrittenToken token chars)
    (ends : token.isPunctuation = true ∨ EndsNumeral rest) :
    tokens (spaces ++ (chars ++ rest)) =
      token :: if token.isMalformed then [] else tokens rest := by
  -- A token is told by its first character, and the reader of its kind takes the rest.
  cases written with
  | numeral written =>
    obtain ⟨c, others, rfl, opens⟩ := written.front
    -- A numeral would take in digits behind it, so what follows must end it.
    have apart : EndsNumeral rest :=
      ends.resolve_left (Bool.eq_false_iff.mp (Numeral.isPunctuation_token _))
    have read := readNumber_append written apart
    rw [List.cons_append] at read
    rw [List.cons_append, tokens_of_front blank (not_space_of_opens opens), readToken_number opens,
      read]
    dsimp only
    split
    · rw [tokens_nil]
    · rfl
  | @text _ body spells =>
    -- The reader of strings stops at the closing quote, whatever follows.
    have front := @tokens_of_front spaces (body ++ '"' :: rest) '"' blank (by decide)
    rw [List.cons_append, List.append_assoc, List.singleton_append, front]
    simp [readToken, readText, spells.unquote rest, Token.isMalformed]
  -- The literals and the marks are read off their own characters.
  | null => exact tokens_of_front blank (c := 'n') (by decide)
  | yes => exact tokens_of_front blank (c := 't') (by decide)
  | no => exact tokens_of_front blank (c := 'f') (by decide)
  | openBracket => exact tokens_of_front blank (c := '[') (by decide)
  | closeBracket => exact tokens_of_front blank (c := ']') (by decide)
  | openBrace => exact tokens_of_front blank (c := '{') (by decide)
  | closeBrace => exact tokens_of_front blank (c := '}') (by decide)
  | comma => exact tokens_of_front blank (c := ',') (by decide)
  | colon => exact tokens_of_front blank (c := ':') (by decide)

/-- No numeral goes on in white space. -/
theorem endsNumeral_space {c : Char} (space : isSpace c = true) (rest : List Char) :
    EndsNumeral (c :: rest) := by
  -- White space is no digit, point or letter.
  intro first leads
  obtain rfl := Option.some.inj leads
  simp only [isSpace, Bool.or_eq_true, decide_eq_true_eq] at space
  rcases space with ((rfl | rfl) | rfl) | rfl <;> decide

/-- No numeral goes on in a text that is at an end or lays out punctuation first. -/
theorem Layout.endsNumeral {tokens : List Token} {text : List Char} (layout : Layout tokens text)
    (punctuated : ∀ token ∈ tokens.head?, token.isPunctuation = true) : EndsNumeral text := by
  -- What comes first is white space, the end of the text or a mark.
  cases layout with
  | done blank =>
    cases text with
    | nil => exact fun _ member => nomatch member
    | cons c rest => exact endsNumeral_space (blank c List.mem_cons_self) rest
  | @next token tokens spaces chars rest blank written others =>
    cases spaces with
    | cons c spaces => exact endsNumeral_space (blank c List.mem_cons_self) _
    | nil =>
      -- A numeral, a string and the literals are no punctuation, and a mark goes on no numeral.
      have mark := punctuated token rfl
      intro c leads
      cases written with
      | numeral written => cases mark.symm.trans (Numeral.isPunctuation_token _)
      | text _ => cases mark
      | null => cases mark
      | yes => cases mark
      | no => cases mark
      | _ =>
        obtain rfl := Option.some.inj leads
        decide

/-- A text that lays out tokens without running two together has just these tokens, up to one that is malformed. -/
theorem tokens_of_layout {written : List Token} {text : List Char} (layout : Layout written text)
    (separated : Separated written) : tokens text = upToFault written := by
  -- What is behind a token matters to a numeral alone, which would take in a digit, a point or an exponent.
  induction layout with
  | done blank => exact tokens_of_blank blank
  | @next token others spaces chars rest blank written layout ih =>
    obtain ⟨apart, behind⟩ := List.isChain_cons.mp separated
    -- Behind a token that is no mark itself there is a mark, or white space, or nothing.
    have ends : token.isPunctuation = true ∨ EndsNumeral rest := by
      by_cases mark : token.isPunctuation = true
      · exact .inl mark
      · exact .inr (layout.endsNumeral fun next leads => (apart next leads).resolve_left mark)
    rw [tokens_of_written blank written ends, upToFault, ih behind]
    cases token.isMalformed with
    | true => rfl
    | false => rfl

end DigestProvider.Json
