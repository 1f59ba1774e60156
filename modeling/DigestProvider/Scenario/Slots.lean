/-! Values under names, kept in the order of the names. -/

namespace DigestProvider

/-- Named values, each name at most once. -/
structure Slots (Value : Type) where
  /-- The names with their values, in the order of the names. -/
  entries : List (String × Value) := []

namespace Slots

variable {Value : Type}

/-- The value under a name. -/
def get? (slots : Slots Value) (name : String) : Option Value :=
  slots.entries.lookup name

/-- Puts an entry at the place of its name, where it replaces an older one. -/
def insert (name : String) (value : Value) : List (String × Value) → List (String × Value)
  | [] => [(name, value)]
  | entry :: rest =>
    if name = entry.1 then (name, value) :: rest
    else if name < entry.1 then (name, value) :: entry :: rest
    else entry :: insert name value rest

/-- Puts a value under a name. -/
def put (slots : Slots Value) (name : String) (value : Value) : Slots Value :=
  ⟨insert name value slots.entries⟩

/-- Puts a value under a name if there is one. -/
def keep (slots : Slots Value) (name : Option String) (value : Value) : Slots Value :=
  match name with
  | none => slots
  | some name => slots.put name value

/-- Takes away what is under a name. -/
def erase (slots : Slots Value) (name : String) : Slots Value :=
  ⟨slots.entries.filter (·.1 ≠ name)⟩

end Slots

end DigestProvider
