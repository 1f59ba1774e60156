import DigestProvider.Algorithm
import DigestProvider.DigestError
import DigestProvider.Text.Blank

/-! The names by which an algorithm may be asked for: its short name, with or without a dash after SHA. -/

namespace DigestProvider.Algorithm

/-- A short name with a dash put after its leading `SHA`. -/
def dashed : List Char → List Char
  | 'S' :: 'H' :: 'A' :: rest => 'S' :: 'H' :: 'A' :: '-' :: rest
  | other => other

/-- The two accepted spellings of an algorithm, in capitals. -/
def spellings (algorithm : Algorithm) : List (List Char) :=
  [algorithm.name.toList, dashed algorithm.name.toList]

/-- A name is compared without the white space around it and without regard to the case of ASCII letters. -/
def normalName (name : String) : List Char :=
  (Text.trim name.toList).map Char.toUpper

/-- The algorithm that a name asks for. -/
def ofName? (name : String) : Option Algorithm :=
  all.find? fun algorithm => algorithm.spellings.contains (normalName name)

/-- The algorithm that a name asks for, or an error that gives the name as it was written. -/
def parse (name : String) : Except DigestError Algorithm :=
  match ofName? name with
  | some algorithm => .ok algorithm
  | none => .error (.unsupportedAlgorithm name)

end DigestProvider.Algorithm
