import DigestProvider.Json.Quoted

/-!
The ways to write a JSON string, which differ in their escapes. Main statements: each of them is read as the string, and
what is written for a string is one of them.
-/

namespace DigestProvider.Json

/-- A body between quotes that stands for a text, with escapes wherever they are needed and anywhere else. -/
inductive Spells : List Char → List Char → Prop where
  /-- The empty text has the empty body. -/
  | nil : Spells [] []
  /-- A character other than a control, a quote or a backslash stands for itself. -/
  | plain {c : Char} {text body : List Char} (printable : 0x20 ≤ c.toNat) (unquoted : c ≠ '"')
      (unescaped : c ≠ '\\') (rest : Spells text body) : Spells (c :: text) (c :: body)
  /-- A character that has a letter of its own is escaped by it. -/
  | letter {letter c : Char} {text body : List Char} (named : letterEscape? letter = some c)
      (rest : Spells text body) : Spells (c :: text) ('\\' :: letter :: body)
  /-- A character of the basic plane is escaped by its number. -/
  | unit {a b d e : Char} {value : Nat} {text body : List Char}
      (number : hexNumber? [a, b, d, e] = some value) (single : isHighSurrogate value = false)
      (alone : isLowSurrogate value = false) (rest : Spells text body) :
    Spells (Char.ofNat value :: text) ('\\' :: 'u' :: a :: b :: d :: e :: body)
  /-- A character of another plane is escaped by a pair of surrogates. -/
  | pair {a b d e a' b' d' e' : Char} {high low : Nat} {text body : List Char}
      (first : hexNumber? [a, b, d, e] = some high) (leads : isHighSurrogate high = true)
      (second : hexNumber? [a', b', d', e'] = some low) (trails : isLowSurrogate low = true)
      (rest : Spells text body) :
    Spells (pairChar high low :: text)
      ('\\' :: 'u' :: a :: b :: d :: e :: '\\' :: 'u' :: a' :: b' :: d' :: e' :: body)

/-- A character that stands for itself is read as such. -/
theorem stringItems?_plain {c : Char} (printable : 0x20 ≤ c.toNat) (unquoted : c ≠ '"')
    (unescaped : c ≠ '\\') {rest after : List Char} {items : List StringItem}
    (read : stringItems? rest = some (items, after)) :
    stringItems? (c :: rest) = some (.char c :: items, after) := by
  -- The reader looks for a quote, a backslash and a control first, and finds none of them.
  rw [stringItems?.eq_def]
  simp [unquoted, unescaped, Nat.not_lt.mpr printable, read]

/-- An escaped letter is read as the character that it stands for. -/
theorem stringItems?_letter {letter c : Char} (named : letterEscape? letter = some c)
    {rest after : List Char} {items : List StringItem}
    (read : stringItems? rest = some (items, after)) :
    stringItems? ('\\' :: letter :: rest) = some (.char c :: items, after) := by
  -- The letter of numbered escapes names no character.
  have other : letter ≠ 'u' := by
    rintro rfl
    cases named
  rw [stringItems?.eq_def]
  simp [other, named, read]

/-- An escaped number is read as a unit. -/
theorem stringItems?_unit {a b d e : Char} {value : Nat}
    (number : hexNumber? [a, b, d, e] = some value) {rest after : List Char}
    {items : List StringItem} (read : stringItems? rest = some (items, after)) :
    stringItems? ('\\' :: 'u' :: a :: b :: d :: e :: rest) = some (.unit value :: items, after) := by
  -- Four hexadecimal digits are taken at once.
  rw [stringItems?.eq_def]
  simp [number, read]

/-- A body is read up to its closing quote, as items that stand for its text. -/
theorem Spells.items {text body : List Char} (spells : Spells text body) (after : List Char) :
    ∃ items, stringItems? (body ++ '"' :: after) = some (items, after) ∧
      itemChars? items = some text := by
  -- Each way to write a character gives one item, or two for a pair.
  induction spells with
  | nil => exact ⟨[], by rw [List.nil_append, stringItems?.eq_def]; rfl, rfl⟩
  | plain printable unquoted unescaped _ ih =>
    obtain ⟨items, read, stand⟩ := ih
    exact ⟨_, stringItems?_plain printable unquoted unescaped read, by simp [itemChars?, stand]⟩
  | letter named _ ih =>
    obtain ⟨items, read, stand⟩ := ih
    exact ⟨_, stringItems?_letter named read, by simp [itemChars?, stand]⟩
  | unit number single alone _ ih =>
    -- An unpaired unit that is no surrogate is a character by itself.
    obtain ⟨items, read, stand⟩ := ih
    exact ⟨_, stringItems?_unit number read,
      by rw [itemChars?.eq_def]; simp [single, alone, stand]⟩
  -- The two halves are read as two units, which stand for one character.
  | pair first leads second trails _ ih =>
    obtain ⟨items, read, stand⟩ := ih
    exact ⟨_, stringItems?_unit first (stringItems?_unit second read),
      by rw [itemChars?.eq_def]; simp [leads, trails, stand]⟩

/-- A string is read as the text that its body stands for. -/
theorem Spells.unquote {text body : List Char} (spells : Spells text body) (after : List Char) :
    unquote? (body ++ '"' :: after) = some (text, after) := by
  -- The items are read first and put together to characters afterwards.
  obtain ⟨items, read, stand⟩ := spells.items after
  rw [unquote?, read]
  simp [stand]

/-- A control character is the one whose number its two digits give. -/
theorem hexNumber?_control : ∀ value < 0x20,
    hexNumber? ('0' :: '0' :: Hex.pair (UInt8.ofNat value)) = some value := by
  -- There are 32 control characters to look at.
  decide

/-- What is written for a character is one of the ways to write it. -/
theorem Spells.escape {text body : List Char} (spells : Spells text body) (c : Char) :
    Spells (c :: text) (escape c ++ body) := by
  -- The cases are those of the escapes that the character may need.
  unfold Json.escape
  split
  · -- A quote and a backslash would end the string or begin an escape.
    next quote =>
    subst quote
    exact .letter rfl spells
  split
  · next backslash =>
    subst backslash
    exact .letter rfl spells
  split
  · next backspace =>
    obtain rfl : c = Char.ofNat 0x08 := by rw [← backspace, Char.ofNat_toNat]
    exact .letter rfl spells
  split
  · next tab =>
    subst tab
    exact .letter rfl spells
  split
  · next newline =>
    subst newline
    exact .letter rfl spells
  split
  · next feed =>
    obtain rfl : c = Char.ofNat 0x0C := by rw [← feed, Char.ofNat_toNat]
    exact .letter rfl spells
  split
  · next ret =>
    subst ret
    exact .letter rfl spells
  split
  · -- The other controls have no letter and are written by their number, which is no surrogate.
    next control =>
    have number := hexNumber?_control c.toNat control
    have low : isHighSurrogate c.toNat = false ∧ isLowSurrogate c.toNat = false := by
      simp only [isHighSurrogate, isLowSurrogate, Bool.and_eq_false_iff, decide_eq_false_iff_not]
      omega
    have unit := Spells.unit number low.1 low.2 spells
    rwa [Char.ofNat_toNat] at unit
  · -- Whatever needs no escape is written as it is.
    next unquoted unescaped _ _ _ _ _ printable =>
    exact .plain (Nat.le_of_not_lt printable) unquoted unescaped spells

/-- What is written for a string stands for it. -/
theorem spells_written (text : List Char) : Spells text (text.flatMap escape) := by
  -- The escapes of the characters are written one behind the other.
  induction text with
  | nil => exact .nil
  | cons c rest ih => exact ih.escape c

end DigestProvider.Json
