import DigestProvider.Text.ExtendingMark
import DigestProvider.Text.Unprintable

/-! Strings as a diagnostic shows them: between quotes, with everything that would not be seen escaped. -/

namespace DigestProvider.Text

/-- The escape of a code point: its hexadecimal number in braces. -/
def codePointEscape (c : Char) : List Char :=
  ['\\', 'u', '\x7b'] ++ (Nat.toDigits 16 c.toNat) ++ ['\x7d']

/-- How a diagnostic shows a character of a string. -/
def shown (c : Char) : List Char :=
  if c.toNat = 0 then ['\\', '0']
  else if c = '\t' then ['\\', 't']
  else if c = '\n' then ['\\', 'n']
  else if c = '\r' then ['\\', 'r']
  else if c = '"' then ['\\', '"']
  else if c = '\\' then ['\\', '\\']
  else if isExtendingMark c || isUnprintable c then codePointEscape c
  else [c]

/-- A string between quotes, as a diagnostic shows it. -/
def diagnostic (text : String) : String :=
  String.ofList ('"' :: text.toList.flatMap shown ++ ['"'])

end DigestProvider.Text
