import DigestProvider.Json.Number

/-!
The ways to write a JSON numeral. Main statements: each of them is read as the numeral, up to where a text goes on
otherwise, and the decimal text of a word is the numeral of an integer.
-/

namespace DigestProvider.Json

/-- One digit or more. -/
def AreDigits (chars : List Char) : Prop :=
  chars ≠ [] ∧ ∀ c ∈ chars, c.isDigit = true

/-- What digits count for, each by itself. -/
def digitValues (digits : List Char) : List Nat :=
  digits.map fun c => c.toNat - 48

/-- A fraction is a point and digits, and may be absent. -/
inductive WrittenFraction : Option (List Nat) → List Char → Prop where
  | absent : WrittenFraction none []
  | present {digits : List Char} (digital : AreDigits digits) :
    WrittenFraction (some (digitValues digits)) ('.' :: digits)

/-- The sign of an exponent, of which a plus may be left out. -/
inductive WrittenSign : Bool → List Char → Prop where
  | none : WrittenSign false []
  | plus : WrittenSign false ['+']
  | minus : WrittenSign true ['-']

/-- An exponent is a letter of either case, a sign and digits, and may be absent. -/
inductive WrittenExponent : Option (Bool × List Nat) → List Char → Prop where
  | absent : WrittenExponent none []
  | present {letter : Char} {negative : Bool} {sign digits : List Char}
      (opens : letter = 'e' ∨ letter = 'E') (signed : WrittenSign negative sign)
      (digital : AreDigits digits) :
    WrittenExponent (some (negative, digitValues digits)) (letter :: (sign ++ digits))

/-- A numeral is a sign if it is negative, a whole part without a leading zero, a fraction and an exponent. -/
inductive WrittenNumeral : Numeral → List Char → Prop where
  | parts {negative : Bool} {whole : List Char} (digital : AreDigits whole)
      (leading : whole.head? = some '0' → whole = ['0']) {fraction : Option (List Nat)}
      {behind : List Char} (fractional : WrittenFraction fraction behind)
      {exponent : Option (Bool × List Nat)} {scale : List Char}
      (exponential : WrittenExponent exponent scale) :
    WrittenNumeral ⟨negative, digitValues whole, fraction, exponent⟩
      ((if negative then ['-'] else []) ++ (whole ++ (behind ++ scale)))

/-- No numeral goes on in a text that begins so. -/
def EndsNumeral (rest : List Char) : Prop :=
  -- A sign is missing here: it goes on no numeral, except behind the letter of an exponent.
  ∀ c ∈ rest.head?, c.isDigit = false ∧ c ≠ '.' ∧ c ≠ 'e' ∧ c ≠ 'E'

/-- Digits are taken up to a character that is none. -/
theorem leadingDigits_append {digits rest : List Char} (digital : AreDigits digits)
    (other : ∀ c ∈ rest.head?, c.isDigit = false) :
    leadingDigits (digits ++ rest) = (digitValues digits, rest) := by
  -- Taking stops at the first other character, which may be the end of the text.
  have stops : rest.takeWhile Char.isDigit = [] ∧ rest.dropWhile Char.isDigit = rest := by
    cases rest with
    | nil => exact ⟨rfl, rfl⟩
    | cons c rest =>
      have none := other c rfl
      simp [none]
  rw [leadingDigits, List.takeWhile_append_of_pos digital.2, List.dropWhile_append_of_pos digital.2,
    stops.1, stops.2, List.append_nil, digitValues]

/-- A digit is not the character that a sign, a point or an exponent begins with. -/
theorem ne_of_isDigit {c : Char} (digit : c.isDigit = true) :
    c ≠ '-' ∧ c ≠ '+' ∧ c ≠ '.' ∧ c ≠ 'e' ∧ c ≠ 'E' := by
  -- None of the five is between zero and nine.
  refine ⟨?_, ?_, ?_, ?_, ?_⟩ <;>
    · rintro rfl
      exact absurd digit (by decide)

/-- A digit that counts for nothing is a zero. -/
theorem eq_zero_of_isDigit {c : Char} (digit : c.isDigit = true) (nothing : c.toNat - 48 = 0) :
    c = '0' := by
  -- The digits count from the code of zero upwards.
  have least : 48 ≤ c.toNat := by
    simp only [Char.isDigit, Bool.and_eq_true, decide_eq_true_eq] at digit
    exact UInt32.le_iff_toNat_le.mp digit.1
  have value : c.toNat = 48 := by omega
  rw [← Char.ofNat_toNat c, value]

/-- A whole part is read up to a character that is no digit. -/
theorem readWhole?_append {whole rest : List Char} (digital : AreDigits whole)
    (leading : whole.head? = some '0' → whole = ['0'])
    (other : ∀ c ∈ rest.head?, c.isDigit = false) :
    readWhole? (whole ++ rest) = some (digitValues whole, rest) := by
  rw [readWhole?, leadingDigits_append digital other]
  -- The values are refused only where there are none, or a zero leads others.
  split
  · next _ none =>
    have empty := (Prod.mk.inj none).1
    exact absurd (List.map_eq_nil_iff.mp empty) digital.1
  · next second others _ zero =>
    obtain ⟨first, rest, rfl, nothing, more⟩ := List.map_eq_cons_iff.mp (Prod.mk.inj zero).1
    -- A leading zero would have to be the only digit, so no others can follow.
    have leads := eq_zero_of_isDigit (digital.2 first List.mem_cons_self) nothing
    have short := leading (by rw [leads]; rfl)
    rw [(List.cons.inj short).2] at more
    cases more
  · next same =>
    obtain ⟨rfl, rfl⟩ := Prod.mk.inj same
    rfl

/-- A fraction is read up to a character that is no digit and no point. -/
theorem readFraction?_append {fraction : Option (List Nat)} {behind rest : List Char}
    (fractional : WrittenFraction fraction behind)
    (other : ∀ c ∈ rest.head?, c.isDigit = false ∧ c ≠ '.') :
    readFraction? (behind ++ rest) = some (fraction, rest) := by
  cases fractional with
  -- What follows does not begin with a point, so there is no fraction to be read.
  | absent =>
    rw [List.nil_append]
    unfold readFraction?
    split
    · exact absurd rfl (other '.' rfl).2
    · rfl
  | present digital =>
    have read := leadingDigits_append digital fun c leads => (other c leads).1
    rw [List.cons_append, readFraction?, read]
    -- There are digits, and so there are values.
    obtain ⟨first, others, rfl⟩ := List.exists_cons_of_ne_nil digital.1
    rfl

/-- A sign is read in front of digits. -/
theorem readSign_append {negative : Bool} {sign : List Char} (signed : WrittenSign negative sign)
    {digits rest : List Char} (digital : AreDigits digits) :
    readSign (sign ++ (digits ++ rest)) = (negative, digits ++ rest) := by
  cases signed with
  | none =>
    -- Without a sign the first character is a digit.
    obtain ⟨first, others, rfl⟩ := List.exists_cons_of_ne_nil digital.1
    obtain ⟨minus, plus, _⟩ := ne_of_isDigit (digital.2 first List.mem_cons_self)
    rw [List.nil_append, List.cons_append]
    unfold readSign
    split
    · next same => exact absurd (List.cons.inj same).1 plus
    · next same => exact absurd (List.cons.inj same).1 minus
    · rfl
  | plus => rfl
  | minus => rfl

/-- An exponent is read up to where no numeral goes on. -/
theorem readExponent?_append {exponent : Option (Bool × List Nat)} {scale rest : List Char}
    (exponential : WrittenExponent exponent scale) (ends : EndsNumeral rest) :
    readExponent? (scale ++ rest) = some (exponent, rest) := by
  cases exponential with
  -- What follows does not begin with the letter of an exponent.
  | absent =>
    rw [List.nil_append]
    cases rest with
    | nil => rfl
    | cons c rest =>
      obtain ⟨_, _, small, large⟩ := ends c rfl
      simp [readExponent?, small, large]
  | @present letter negative sign digits opens signed digital =>
    have read := leadingDigits_append digital fun c leads => (ends c leads).1
    -- Behind the letter the sign is read off first, and then the digits.
    have opening : (letter = 'e' || letter = 'E') = true := by simpa using opens
    rw [List.cons_append, List.append_assoc, readExponent?, if_pos opening,
      readSign_append signed digital]
    dsimp only
    rw [read]
    -- There is at least one digit, without which the exponent would be broken off.
    obtain ⟨first, others, rfl⟩ := List.exists_cons_of_ne_nil digital.1
    rfl

/-- What begins an exponent is neither a digit nor a point, and nor is what ends a numeral. -/
theorem front_of_exponent {exponent : Option (Bool × List Nat)} {scale rest : List Char}
    (exponential : WrittenExponent exponent scale) (ends : EndsNumeral rest) :
    ∀ c ∈ (scale ++ rest).head?, c.isDigit = false ∧ c ≠ '.' := by
  -- An exponent begins with its letter; without one the text behind comes first.
  intro c leads
  cases exponential with
  | absent => exact ⟨(ends c leads).1, (ends c leads).2.1⟩
  | present opens _ _ =>
    obtain rfl := Option.some.inj leads
    rcases opens with rfl | rfl <;> decide

/-- What begins a fraction is no digit, and nor is what may stand in its place. -/
theorem front_of_fraction {fraction : Option (List Nat)} {behind rest : List Char}
    (fractional : WrittenFraction fraction behind)
    (other : ∀ c ∈ rest.head?, c.isDigit = false ∧ c ≠ '.') :
    ∀ c ∈ (behind ++ rest).head?, c.isDigit = false := by
  -- A fraction begins with its point; without one the text behind comes first.
  intro c leads
  cases fractional with
  | absent => exact (other c leads).1
  | present _ =>
    obtain rfl := Option.some.inj leads
    decide

/-- A numeral is read from any text that it is written by, up to where no numeral goes on. -/
theorem readNumeral?_append {numeral : Numeral} {chars rest : List Char}
    (written : WrittenNumeral numeral chars) (ends : EndsNumeral rest) :
    readNumeral? (chars ++ rest) = some (numeral, rest) := by
  -- The parts are read one behind the other, each up to the front of the next.
  obtain @⟨negative, whole, digital, leading, fraction, behind, fractional, exponent, scale,
    exponential⟩ := written
  have last := front_of_exponent exponential ends
  have unsigned : readUnsigned? negative (whole ++ (behind ++ (scale ++ rest))) =
      some (⟨negative, digitValues whole, fraction, exponent⟩, rest) := by
    simp [readUnsigned?, readWhole?_append digital leading (front_of_fraction fractional last),
      readFraction?_append fractional last, readExponent?_append exponential ends]
  simp only [List.append_assoc]
  cases negative with
  | true => exact unsigned
  | false =>
    -- Without a sign the first character is a digit.
    obtain ⟨first, others, rfl⟩ := List.exists_cons_of_ne_nil digital.1
    obtain ⟨minus, _⟩ := ne_of_isDigit (digital.2 first List.mem_cons_self)
    rw [if_neg Bool.false_ne_true, List.nil_append]
    unfold readNumeral?
    split
    · next same => exact absurd (List.cons.inj same).1 minus
    · exact unsigned

/-- Further digits make a number no smaller. -/
theorem le_foldl_digits (digits : List Nat) (significand : Nat) :
    significand ≤ digits.foldl (fun value digit => 10 * value + digit) significand := by
  -- Each digit multiplies by ten what was there before it.
  induction digits generalizing significand with
  | nil => exact Nat.le_refl significand
  | cons digit rest ih =>
    have more := ih (10 * significand + digit)
    rw [List.foldl_cons]
    omega

/-- Digits are all taken while the number that they add up to fits a word. -/
theorem takeDigits_of_fits {significand : Nat} {digits : List Nat}
    (fits : digits.foldl (fun value digit => 10 * value + digit) significand < UInt64.size) :
    takeDigits significand digits =
      (digits.foldl (fun value digit => 10 * value + digit) significand, []) := by
  -- Since digits only add, a number that fits in the end fits all along.
  induction digits generalizing significand with
  | nil => rfl
  | cons digit rest ih =>
    have now : 10 * significand + digit < UInt64.size :=
      Nat.lt_of_le_of_lt (le_foldl_digits rest _) fits
    rw [takeDigits, if_pos now]
    exact ih fits

/-- The digits of a positive number do not begin with a zero. -/
theorem head_toDigits {number : Nat} (positive : 0 < number) :
    (Nat.toDigits 10 number).head? ≠ some '0' := by
  have single : ∀ digit < 10, 0 < digit → [Nat.digitChar digit].head? ≠ some '0' := by decide
  -- The first digit is that of the number without its last.
  induction number using Nat.strongRecOn with
  | ind number ih =>
    rw [Nat.toDigits_eq_if (by decide)]
    by_cases small : number < 10
    · rw [if_pos small]
      exact single number small positive
    · -- The number without its last digit is still positive, and has the same first digit.
      have earlier := ih (number / 10) (by omega) (by omega)
      obtain ⟨first, others, digits⟩ :=
        List.exists_cons_of_ne_nil (Nat.toDigits_ne_nil (b := 10) (n := number / 10))
      rw [digits] at earlier
      rw [if_neg small, digits]
      exact earlier

/-- A number is written by its digits. -/
theorem written_toDigits (negative : Bool) (number : Nat) :
    WrittenNumeral ⟨negative, digitValues (Nat.toDigits 10 number), none, none⟩
      ((if negative then ['-'] else []) ++ Nat.toDigits 10 number) := by
  -- There is neither a fraction nor an exponent.
  have digital : AreDigits (Nat.toDigits 10 number) :=
    ⟨Nat.toDigits_ne_nil, fun c member => Nat.isDigit_of_mem_toDigits (by decide) (by decide) member⟩
  have leading : (Nat.toDigits 10 number).head? = some '0' → Nat.toDigits 10 number = ['0'] := by
    intro zero
    -- Zero is written as one digit, and no other number begins with it.
    rcases Nat.eq_zero_or_pos number with rfl | positive
    · rfl
    · exact absurd zero (head_toDigits positive)
  simpa using @WrittenNumeral.parts negative _ digital leading _ _ .absent _ _ .absent

/-- The digits of a number that fits a word are taken to be the number. -/
theorem takeDigits_toDigits {number : Nat} (fits : number < UInt64.size) :
    takeDigits 0 (digitValues (Nat.toDigits 10 number)) = (number, []) := by
  -- The digits of a number add up to it, which the library knows of their characters.
  have adds : (digitValues (Nat.toDigits 10 number)).foldl
      (fun value digit => 10 * value + digit) 0 = number := by
    rw [digitValues, List.foldl_map]
    exact Nat.ofDigitChars_eq_foldl.symm.trans (Nat.ofDigitChars_toDigits (by decide) (by decide))
  rw [takeDigits_of_fits (by rw [adds]; exact fits), adds]

/-- A numeral of digits alone has the value of the word that they denote. -/
theorem value?_toDigits {negative : Bool} {number : Nat} (fits : number < UInt64.size) :
    (Numeral.mk negative (digitValues (Nat.toDigits 10 number)) none none).value? =
      some (wordValue negative number) := by
  -- All digits are taken, and nothing scales them.
  simp [Numeral.value?, takeDigits_toDigits fits]

/-- The decimal text of an integer that fits a word is a numeral with this value. -/
theorem exists_numeral {value : Int} (least : -0x8000000000000000 ≤ value)
    (most : value < 0x8000000000000000) :
    ∃ numeral : Numeral, WrittenNumeral numeral (toString value).toList ∧
      numeral.value? = some (.integer value) := by
  -- The numeral is made up of the sign and of the digits of the absolute value.
  cases value with
  | ofNat number =>
    have fits : number < UInt64.size := by
      simp only [UInt64.size, Int.ofNat_eq_natCast] at most ⊢
      omega
    have text : (toString (Int.ofNat number)).toList = Nat.toDigits 10 number := Nat.toList_repr
    refine ⟨⟨false, digitValues (Nat.toDigits 10 number), none, none⟩, ?_, ?_⟩
    · rw [text]
      exact written_toDigits false number
    · rw [value?_toDigits fits]
      rfl
  | negSucc number =>
    -- The sign stands in front of the digits of the absolute value.
    have fits : number + 1 ≤ 0x8000000000000000 := by omega
    have text : (toString (Int.negSucc number)).toList = '-' :: Nat.toDigits 10 (number + 1) := by
      change ("-" ++ (number + 1).repr).toList = _
      rw [String.toList_append, Nat.toList_repr]
      rfl
    refine ⟨⟨true, digitValues (Nat.toDigits 10 (number + 1)), none, none⟩, ?_, ?_⟩
    · rw [text]
      exact written_toDigits true (number + 1)
    · rw [value?_toDigits (by simp only [UInt64.size]; omega)]
      simp [wordValue, fits, Int.negSucc_eq]

end DigestProvider.Json
