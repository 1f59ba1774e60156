import DigestProvider.Bytes.Hex

/-!
JSON strings: writing with the fewest escapes, and reading with every escape that JSON admits. An escaped code point
above U+FFFF is a pair of surrogate escapes, and a surrogate alone is refused.
-/

namespace DigestProvider.Json

/-- How a character stands in a written string. -/
def escape (c : Char) : List Char :=
  if c = '"' then ['\\', '"']
  else if c = '\\' then ['\\', '\\']
  else if c.toNat = 0x08 then ['\\', 'b']
  else if c = '\t' then ['\\', 't']
  else if c = '\n' then ['\\', 'n']
  else if c.toNat = 0x0C then ['\\', 'f']
  else if c = '\r' then ['\\', 'r']
  else if c.toNat < 0x20 then ['\\', 'u', '0', '0'] ++ Hex.pair (UInt8.ofNat c.toNat)
  else [c]

/-- A string between quotes. -/
def quoted (text : List Char) : List Char :=
  '"' :: text.flatMap escape ++ ['"']

/-- What one item of a string's body stands for. -/
inductive StringItem where
  /-- A character, as such or by its letter. -/
  | char (c : Char)
  /-- Four hexadecimal digits, a code point or half of one. -/
  | unit (value : Nat)
  deriving DecidableEq, Repr

/-- The character that an escaped letter stands for. -/
def letterEscape? (letter : Char) : Option Char :=
  match letter with
  | '"' => some '"'
  | '\\' => some '\\'
  | '/' => some '/'
  | 'b' => some (Char.ofNat 0x08)
  | 'f' => some (Char.ofNat 0x0C)
  | 'n' => some '\n'
  | 'r' => some '\r'
  | 't' => some '\t'
  | _ => none

/-- The value of a hexadecimal digit of either case. -/
def hexValue? (c : Char) : Option Nat :=
  if '0' ≤ c && c ≤ '9' then some (c.toNat - 48)
  else if 'a' ≤ c && c ≤ 'f' then some (c.toNat - 87)
  else if 'A' ≤ c && c ≤ 'F' then some (c.toNat - 55)
  else none

/-- The value of hexadecimal digits, the highest first. -/
def hexNumber? (digits : List Char) : Option Nat :=
  digits.foldlM (fun value digit => (hexValue? digit).map (16 * value + ·)) 0

/-- The items up to the closing quote, and the text behind it. -/
def stringItems? : List Char → Option (List StringItem × List Char)
  | [] => none
  | c :: rest =>
    if c = '"' then some ([], rest)
    else if c = '\\' then
      match rest with
      | 'u' :: a :: b :: d :: e :: rest =>
        match hexNumber? [a, b, d, e], stringItems? rest with
        | some value, some (items, after) => some (.unit value :: items, after)
        | _, _ => none
      | letter :: rest =>
        match letterEscape? letter, stringItems? rest with
        | some c, some (items, after) => some (.char c :: items, after)
        | _, _ => none
      | [] => none
    else if c.toNat < 0x20 then none
    else
      match stringItems? rest with
      | some (items, after) => some (.char c :: items, after)
      | none => none

/-- Whether a unit is the first half of a pair. -/
def isHighSurrogate (value : Nat) : Bool :=
  0xD800 ≤ value && value < 0xDC00

/-- Whether a unit is the second half of a pair. -/
def isLowSurrogate (value : Nat) : Bool :=
  0xDC00 ≤ value && value < 0xE000

/-- The character of a surrogate pair. -/
def pairChar (high low : Nat) : Char :=
  Char.ofNat (0x10000 + (high - 0xD800) * 0x400 + (low - 0xDC00))

/-- The characters that items stand for, unless a surrogate stands alone. -/
def itemChars? : List StringItem → Option (List Char)
  | [] => some []
  | .char c :: rest => (itemChars? rest).map (c :: ·)
  | .unit value :: rest =>
    if isHighSurrogate value then
      match rest with
      | .unit low :: rest =>
        if isLowSurrogate low then (itemChars? rest).map (pairChar value low :: ·) else none
      | _ => none
    else if isLowSurrogate value then none
    else (itemChars? rest).map (Char.ofNat value :: ·)

/-- The string whose opening quote has been read, and the text behind its closing quote. -/
def unquote? (chars : List Char) : Option (List Char × List Char) :=
  match stringItems? chars with
  | none => none
  | some (items, after) => (itemChars? items).map fun text => (text, after)

/-- Behind a string's items there is less text than before. -/
theorem length_of_stringItems? {chars : List Char} {items : List StringItem} {after : List Char}
    (read : stringItems? chars = some (items, after)) : after.length < chars.length := by
  -- Every branch that goes on has taken at least one character.
  induction chars using stringItems?.induct generalizing items after <;>
    unfold stringItems? at read <;> grind

/-- Behind a string there is less text than before. -/
theorem length_of_unquote? {chars text after : List Char}
    (read : unquote? chars = some (text, after)) : after.length < chars.length := by
  -- Combining surrogates leaves the text behind the string alone.
  unfold unquote? at read
  split at read
  · contradiction
  · next items rest found =>
    obtain ⟨_, _, same⟩ := Option.map_eq_some_iff.mp read
    rw [← (Prod.mk.inj same).2]
    exact length_of_stringItems? found

end DigestProvider.Json
