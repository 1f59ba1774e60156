/-!
JSON numbers: the numeral as written, and its value. A numeral without fraction or exponent that fits 64 bits is an
integer. Any other is a float, computed from the leading digits that fit 64 bits and a power of ten.
-/

namespace DigestProvider.Json

/-- A number's value. -/
inductive Number where
  | integer (value : Int)
  | real (value : Float)

/-- A numeral by its parts. -/
structure Numeral where
  /-- Whether a minus sign stands in front. -/
  negative : Bool
  /-- The digits in front of the point. -/
  whole : List Nat
  /-- The digits behind the point, if there is one. -/
  fraction : Option (List Nat)
  /-- Whether the exponent is negative, and its digits, if there is one. -/
  exponent : Option (Bool × List Nat)
  deriving DecidableEq, Repr

/-- The digits at the front of a text, and the rest. -/
def leadingDigits (chars : List Char) : List Nat × List Char :=
  ((chars.takeWhile Char.isDigit).map fun c => c.toNat - 48, chars.dropWhile Char.isDigit)

/-- The whole part: no digit may follow a leading zero. -/
def readWhole? (chars : List Char) : Option (List Nat × List Char) :=
  match leadingDigits chars with
  | ([], _) => none
  | (0 :: _ :: _, _) => none
  | (digits, rest) => some (digits, rest)

/-- The fraction, where a point opens one: a digit has to follow. -/
def readFraction? (chars : List Char) : Option (Option (List Nat) × List Char) :=
  match chars with
  | '.' :: rest =>
    match leadingDigits rest with
    | ([], _) => none
    | (digits, rest) => some (some digits, rest)
  | _ => some (none, chars)

/-- The sign of an exponent, and the rest. -/
def readSign (chars : List Char) : Bool × List Char :=
  match chars with
  | '+' :: rest => (false, rest)
  | '-' :: rest => (true, rest)
  | _ => (false, chars)

/-- The exponent, where a letter opens one: a digit has to follow the sign. -/
def readExponent? (chars : List Char) : Option (Option (Bool × List Nat) × List Char) :=
  match chars with
  | [] => some (none, [])
  | c :: rest =>
    if c = 'e' || c = 'E' then
      let (negative, rest) := readSign rest
      match leadingDigits rest with
      | ([], _) => none
      | (digits, rest) => some (some (negative, digits), rest)
    else some (none, chars)

/-- The numeral behind its sign, and the rest. -/
def readUnsigned? (negative : Bool) (chars : List Char) : Option (Numeral × List Char) := do
  let (whole, rest) ← readWhole? chars
  let (fraction, rest) ← readFraction? rest
  let (exponent, rest) ← readExponent? rest
  return (⟨negative, whole, fraction, exponent⟩, rest)

/-- The numeral at the front of a text, and the rest. -/
def readNumeral? (chars : List Char) : Option (Numeral × List Char) :=
  match chars with
  | '-' :: rest => readUnsigned? true rest
  | _ => readUnsigned? false chars

/-- Takes further digits into a significand while it fits a 64-bit word, and returns those left over. -/
def takeDigits (significand : Nat) : List Nat → Nat × List Nat
  | [] => (significand, [])
  | digit :: rest =>
    if 10 * significand + digit < UInt64.size then takeDigits (10 * significand + digit) rest
    else (significand, digit :: rest)

/-- The number that decimal digits denote. -/
def decimalValue (digits : List Nat) : Nat :=
  digits.foldl (fun value digit => 10 * value + digit) 0

/-- A power of ten as a float. -/
def powerOfTen (exponent : Nat) : Float :=
  Float.ofScientific 1 false exponent

/-- Scales a float by a power of ten in steps of at most 10^308, unless the result is infinite. -/
def scale? (value : Float) (exponent : Int) : Option Float :=
  if 0 ≤ exponent then
    if exponent ≤ 308 then
      let scaled := value * powerOfTen exponent.toNat
      if scaled.isInf then none else some scaled
    else if value == 0.0 then some value
    else none
  else if -308 ≤ exponent then some (value / powerOfTen (-exponent).toNat)
  else if value == 0.0 then some value
  else scale? (value / powerOfTen 308) (exponent + 308)
termination_by (-exponent).toNat
decreasing_by omega

/-- A value with its sign. -/
def signed (negative : Bool) (value : Float) : Float :=
  if negative then -value else value

/-- The largest exponent that is looked at. -/
def maxExponent : Nat := 0x7FFFFFFF

/-- The float of a significand and a power of ten, further scaled by a written exponent. -/
def realValue? (negative : Bool) (significand : Nat) (power : Int)
    (exponent : Option (Bool × List Nat)) : Option Number :=
  let scaled (total : Int) : Option Number :=
    (scale? (Float.ofNat significand) total).map fun value => .real (signed negative value)
  match exponent with
  | none => scaled power
  | some (down, digits) =>
    if decimalValue digits ≤ maxExponent then
      scaled (if down then power - decimalValue digits else power + decimalValue digits)
    -- Beyond that only a zero or a vanishing number has a value.
    else if significand = 0 || down then some (.real (signed negative 0.0))
    else none

/-- The value of a numeral whose whole part fits 64 bits and that has nothing else. -/
def wordValue (negative : Bool) (significand : Nat) : Number :=
  if negative = false then .integer significand
  else if 0 < significand && significand ≤ 0x8000000000000000 then .integer (-(significand : Int))
  else .real (signed true (Float.ofNat significand))

/-- The value of a numeral, unless it is too large for a float. -/
def Numeral.value? (numeral : Numeral) : Option Number :=
  let (significand, left) := takeDigits 0 numeral.whole
  match numeral.fraction with
  | none =>
    if left.isEmpty && numeral.exponent.isNone then
      some (wordValue numeral.negative significand)
    else realValue? numeral.negative significand left.length numeral.exponent
  | some fraction =>
    let (significand, unused) := takeDigits significand fraction
    let power := (left.length : Int) - (fraction.length - unused.length : Nat)
    realValue? numeral.negative significand power numeral.exponent

/-- Leading digits and the rest together are the text. -/
theorem length_leadingDigits (chars : List Char) :
    (leadingDigits chars).1.length + (leadingDigits chars).2.length = chars.length := by
  -- The text is cut in two at the first character that is no digit.
  simp only [leadingDigits, List.length_map]
  rw [← List.length_append, List.takeWhile_append_dropWhile]

/-- Behind a whole part there is less text than before. -/
theorem length_of_readWhole? {chars rest : List Char} {digits : List Nat}
    (read : readWhole? chars = some (digits, rest)) : rest.length < chars.length := by
  -- At least one digit is taken away.
  have parts := length_leadingDigits chars
  unfold readWhole? at read
  rcases found : leadingDigits chars with ⟨_ | ⟨first, others⟩, after⟩
  · simp [found] at read
  · have same : after = rest := by grind
    subst same
    rw [found] at parts
    simp only [List.length_cons] at parts
    omega

/-- Behind a fraction there is no more text than before. -/
theorem length_of_readFraction? {chars rest : List Char} {fraction : Option (List Nat)}
    (read : readFraction? chars = some (fraction, rest)) : rest.length ≤ chars.length := by
  -- The point, if any, and the digits behind it are taken away.
  unfold readFraction? at read
  split at read
  · next after =>
    have parts := length_leadingDigits after
    grind
  · grind

/-- Behind a sign there is no more text than before. -/
theorem length_readSign (chars : List Char) : (readSign chars).2.length ≤ chars.length := by
  -- At most one character is taken away.
  unfold readSign
  split <;> simp

/-- Behind an exponent there is no more text than before. -/
theorem length_of_readExponent? {chars rest : List Char} {exponent : Option (Bool × List Nat)}
    (read : readExponent? chars = some (exponent, rest)) : rest.length ≤ chars.length := by
  -- The letter, the sign and the digits are taken away one after another.
  unfold readExponent? at read
  split at read
  · grind
  · next c after =>
    have sign := length_readSign after
    have parts := length_leadingDigits (readSign after).2
    grind

/-- Behind a numeral there is less text than before. -/
theorem length_of_readUnsigned? {negative : Bool} {chars rest : List Char} {numeral : Numeral}
    (read : readUnsigned? negative chars = some (numeral, rest)) : rest.length < chars.length := by
  -- The whole part takes text away, and the other parts give none back.
  unfold readUnsigned? at read
  simp only [Option.bind_eq_bind, Option.bind_eq_some_iff, Option.pure_def, Option.some.injEq,
    Prod.mk.injEq, Prod.exists] at read
  obtain ⟨_, _, whole, _, _, fraction, _, _, exponent, _, same⟩ := read
  have first := length_of_readWhole? whole
  have second := length_of_readFraction? fraction
  have third := length_of_readExponent? exponent
  subst same
  omega

/-- Behind a signed numeral there is less text than before. -/
theorem length_of_readNumeral? {chars rest : List Char} {numeral : Numeral}
    (read : readNumeral? chars = some (numeral, rest)) : rest.length < chars.length := by
  -- A sign only adds to what is taken away.
  unfold readNumeral? at read
  split at read
  · have bound := length_of_readUnsigned? read
    simp only [List.length_cons]
    omega
  · exact length_of_readUnsigned? read

end DigestProvider.Json
