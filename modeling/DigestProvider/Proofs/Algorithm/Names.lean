import DigestProvider.Algorithm.Spelling
import Mathlib.Data.List.Forall2
import Mathlib.Data.List.TakeWhile

/-!
The names by which algorithms are asked for, as a grammar. Main statement: a name finds an algorithm exactly if, without
the white space around it and whatever the case of its ASCII letters, it is the short name with or without a dash after
SHA, and the dash is admitted for every algorithm.
-/

namespace DigestProvider

namespace Text

/-- What is left of a text when white space is cut off at both ends: it neither begins nor ends with any. -/
structure Strips (text core : List Char) : Prop where
  /-- Nothing but white space was cut off. -/
  cut : ∃ before after, text = before ++ core ++ after ∧
    (∀ c ∈ before, isBlank c = true) ∧ ∀ c ∈ after, isBlank c = true
  /-- No white space is left at the front. -/
  front : ∀ c ∈ core.head?, isBlank c = false
  /-- No white space is left at the back. -/
  back : ∀ c ∈ core.getLast?, isBlank c = false

/-- Two texts are the same but for the case of ASCII letters. -/
def SameIgnoringCase (text other : List Char) : Prop :=
  -- Only the 26 letters have a lower case here, so any other difference counts.
  text.map Char.toLower = other.map Char.toLower

/-- In lower case a capital is moved up by 32. -/
theorem toNat_toLower (c : Char) :
    c.toLower.toNat = if 65 ≤ c.toNat ∧ c.toNat ≤ 90 then c.toNat + 32 else c.toNat := by
  unfold Char.toLower
  simp only [ge_iff_le, UInt32.le_iff_toNat_le, Char.reduceVal, UInt32.reduceToNat]
  change _ = if 65 ≤ c.val.toNat ∧ c.val.toNat ≤ 90 then c.val.toNat + 32 else c.val.toNat
  by_cases capital : 65 ≤ c.val.toNat ∧ c.val.toNat ≤ 90
  · rw [dif_pos capital, if_pos capital]
    -- The sum is far below the end of the word, so nothing wraps around.
    change (c.val + 32).toNat = _
    rw [UInt32.toNat_add]
    simp only [UInt32.reduceToNat]
    omega
  · rw [dif_neg capital, if_neg capital]
    rfl

/-- In upper case a small letter is moved down by 32. -/
theorem toNat_toUpper (c : Char) :
    c.toUpper.toNat = if 97 ≤ c.toNat ∧ c.toNat ≤ 122 then c.toNat - 32 else c.toNat := by
  unfold Char.toUpper
  simp only [UInt32.le_iff_toNat_le, Char.reduceVal, UInt32.reduceToNat]
  change _ = if 97 ≤ c.val.toNat ∧ c.val.toNat ≤ 122 then c.val.toNat - 32 else c.val.toNat
  by_cases small : 97 ≤ c.val.toNat ∧ c.val.toNat ≤ 122
  · rw [dif_pos small, if_pos small]
    -- The offset is a negative number, which wraps around once.
    change (c.val + (65 - 97)).toNat = _
    rw [UInt32.toNat_add, UInt32.toNat_sub]
    simp only [UInt32.reduceToNat]
    omega
  · rw [dif_neg small, if_neg small]
    rfl

/-- Characters that agree in lower case agree in upper case, and the other way round. -/
theorem toLower_eq_iff_toUpper_eq (c d : Char) : c.toLower = d.toLower ↔ c.toUpper = d.toUpper := by
  -- Both say that the two are equal or the two cases of one letter.
  rw [← Char.toNat_inj, ← Char.toNat_inj, toNat_toLower, toNat_toLower, toNat_toUpper,
    toNat_toUpper]
  grind

/-- It makes no difference in which case texts are compared. -/
theorem sameIgnoringCase_iff {text other : List Char} :
    SameIgnoringCase text other ↔ text.map Char.toUpper = other.map Char.toUpper := by
  -- Texts are compared letter by letter.
  have letters (change : Char → Char) : text.map change = other.map change ↔
      List.Forall₂ (fun c d => change c = change d) text other := by
    rw [← List.forall₂_eq_eq_eq, List.forall₂_map_left_iff, List.forall₂_map_right_iff]
  rw [SameIgnoringCase, letters, letters]
  simp only [toLower_eq_iff_toUpper_eq]

/-- Dropping stops where a character is no white space. -/
theorem dropWhile_of_front {text : List Char} (front : ∀ c ∈ text.head?, isBlank c = false) :
    text.dropWhile isBlank = text := by
  -- The first character decides.
  cases text with
  | nil => rfl
  | cons c rest => rw [List.dropWhile_cons_of_neg (by simp [front c rfl])]

/-- White space in front is dropped. -/
theorem dropWhile_append_of_blank {before : List Char} (blank : ∀ c ∈ before, isBlank c = true)
    {text : List Char} (front : ∀ c ∈ text.head?, isBlank c = false) :
    (before ++ text).dropWhile isBlank = text := by
  -- Dropping goes through what is in front and stops behind it.
  rw [List.dropWhile_append_of_pos blank, dropWhile_of_front front]

/-- Trimming a text gives back what is left of it without the white space at its ends. -/
theorem Strips.trim_eq {text core : List Char} (strips : Strips text core) : trim text = core := by
  -- The front is dropped first, and then the back, which is the front of the reversed text.
  obtain ⟨⟨before, after, rfl, blank, blankAfter⟩, front, back⟩ := strips
  have reversed : ∀ c ∈ after.reverse, isBlank c = true := by simpa using blankAfter
  unfold trim
  rw [List.append_assoc, List.dropWhile_append_of_pos blank]
  cases core with
  | nil =>
    -- With nothing in between, the text is white space throughout.
    have nothing : after.dropWhile isBlank = [] := List.dropWhile_eq_nil_iff.mpr blankAfter
    rw [List.nil_append, nothing]
    rfl
  | cons c rest =>
    have stays : (c :: rest ++ after).dropWhile isBlank = c :: rest ++ after :=
      dropWhile_of_front front
    -- Reversed, what is left begins with its own last character.
    have ending : ∀ c' ∈ (c :: rest).reverse.head?, isBlank c' = false := by
      rw [List.head?_reverse]
      exact back
    rw [stays, List.reverse_append, dropWhile_append_of_blank reversed ending, List.reverse_reverse]

/-- A text that begins where dropping white space has stopped does not begin with any. -/
theorem front_dropWhile (text : List Char) :
    ∀ c ∈ (text.dropWhile isBlank).head?, isBlank c = false := by
  -- Any white space there would have been dropped as well.
  intro c leads
  have stopped := List.head?_dropWhile_not isBlank text
  rwa [leads] at stopped

/-- A trimmed text is what is left of it without the white space at its ends. -/
theorem strips_trim (text : List Char) : Strips text (trim text) := by
  -- What is dropped at either end is what the text begins or ends with.
  let tail := text.dropWhile isBlank
  have first : text.takeWhile isBlank ++ tail = text := List.takeWhile_append_dropWhile
  have last := List.takeWhile_append_dropWhile (p := isBlank) (l := tail.reverse)
  have whole : tail = trim text ++ (tail.reverse.takeWhile isBlank).reverse := by
    rw [trim, ← List.reverse_append, last, List.reverse_reverse]
  refine ⟨⟨text.takeWhile isBlank, (tail.reverse.takeWhile isBlank).reverse, ?_, ?_, ?_⟩, ?_, ?_⟩
  · rw [List.append_assoc, ← whole, first]
  · exact fun c member => List.mem_takeWhile_imp member
  · exact fun c member => List.mem_takeWhile_imp (List.mem_reverse.mp member)
  · -- The first character that is left is also the first behind the white space in front.
    intro c leads
    have leading : tail.head? = some c := by
      rw [whole, List.head?_append, leads]
      rfl
    exact front_dropWhile text c leading
  · -- The last one is the first of the reversed text.
    intro c ends
    rw [trim, List.getLast?_reverse] at ends
    exact front_dropWhile tail.reverse c ends

/-- A text is trimmed to what is left without the white space at its ends. -/
theorem strips_iff {text core : List Char} : Strips text core ↔ trim text = core :=
  -- Nothing else can be left, for a text is trimmed in one way only.
  ⟨Strips.trim_eq, fun trimmed => trimmed ▸ strips_trim text⟩

end Text

namespace Algorithm

/-- The short name with a dash after SHA. -/
def dashedName : Algorithm → String
  | sha256 => "SHA-256"
  | sha384 => "SHA-384"
  | sha512 => "SHA-512"
  | sha3_224 => "SHA-3-224"
  | sha3_256 => "SHA-3-256"
  | sha3_384 => "SHA-3-384"
  | sha3_512 => "SHA-3-512"

/-- The algorithms of the SHA-2 family. -/
def isSha2 : Algorithm → Bool
  | sha256 | sha384 | sha512 => true
  | sha3_224 | sha3_256 | sha3_384 | sha3_512 => false

/-- A name is some spelling but for the white space around it and the case of its ASCII letters. -/
def Spells (name spelling : String) : Prop :=
  -- White space inside the name is part of what it spells.
  ∃ core, Text.Strips name.toList core ∧ Text.SameIgnoringCase core spelling.toList

/-- The documented names of an algorithm: its short name, and for SHA-2 the one with a dash too. -/
def Documented (name : String) (algorithm : Algorithm) : Prop :=
  Spells name algorithm.name ∨ algorithm.isSha2 = true ∧ Spells name algorithm.dashedName

/-- What a name spells is decided by its trimmed text. -/
theorem spells_iff {name spelling : String} :
    Spells name spelling ↔ Text.SameIgnoringCase (Text.trim name.toList) spelling.toList := by
  -- There is one way to cut white space off.
  simp only [Spells, Text.strips_iff, exists_eq_left']

/-- The spellings of an algorithm are its short name and the one with a dash. -/
theorem spellings_eq (algorithm : Algorithm) :
    algorithm.spellings = [algorithm.name.toList, algorithm.dashedName.toList] := by
  -- Every short name begins with SHA, so the dash is put into each.
  cases algorithm <;> decide

/-- No two algorithms share a spelling. -/
theorem spellings_disjoint {first second : Algorithm} {spelling : List Char}
    (own : spelling ∈ first.spellings) (other : spelling ∈ second.spellings) : first = second := by
  -- The fourteen spellings are distinct.
  revert own other
  simp only [spellings_eq, List.mem_cons, List.not_mem_nil, or_false]
  rintro (rfl | rfl) <;> cases first <;> cases second <;> decide

/-- A name finds the algorithm of which it is a spelling in capitals. -/
theorem ofName?_eq_some_iff {name : String} {algorithm : Algorithm} :
    ofName? name = some algorithm ↔ normalName name ∈ algorithm.spellings := by
  -- The search takes the first match, and there is never a second one.
  constructor
  · intro found
    simpa using List.find?_some found
  · intro own
    -- The first algorithm with this spelling is the only one.
    cases found : ofName? name with
    | none =>
      have missed := List.find?_eq_none.mp found algorithm (mem_all algorithm)
      exact absurd (List.contains_iff_mem.mpr own) missed
    | some other =>
      have spelled : normalName name ∈ other.spellings := by simpa using List.find?_some found
      rw [spellings_disjoint spelled own]

/-- Spelling in capitals loses nothing but the case, where the spelling is in capitals itself. -/
theorem normalName_eq_iff {name spelling : String}
    (capitals : spelling.toList.map Char.toUpper = spelling.toList) :
    normalName name = spelling.toList ↔ Spells name spelling := by
  -- The name is put into capitals, and the spelling is in them already.
  rw [spells_iff, normalName, Text.sameIgnoringCase_iff, capitals]

/-- A name finds an algorithm exactly if it spells its short name, or that with a dash. -/
theorem ofName?_iff_spells {name : String} {algorithm : Algorithm} :
    ofName? name = some algorithm ↔
      Spells name algorithm.name ∨ Spells name algorithm.dashedName := by
  -- Short names are in capitals, and so they are with the dash.
  have short : algorithm.name.toList.map Char.toUpper = algorithm.name.toList := by
    cases algorithm <;> decide
  have long : algorithm.dashedName.toList.map Char.toUpper = algorithm.dashedName.toList := by
    cases algorithm <;> decide
  rw [ofName?_eq_some_iff, spellings_eq, List.mem_pair, normalName_eq_iff short,
    normalName_eq_iff long]

/-- No name spells both the short name of an algorithm and that with a dash. -/
theorem not_spells_both {name : String} {algorithm : Algorithm}
    (dashed : Spells name algorithm.dashedName) : ¬Spells name algorithm.name := by
  -- Both spellings would have to be the same but for the case.
  rw [spells_iff] at dashed ⊢
  intro short
  have same : Text.SameIgnoringCase algorithm.dashedName.toList algorithm.name.toList :=
    dashed.symm.trans short
  -- They differ where the dash is, for every algorithm.
  revert same
  unfold Text.SameIgnoringCase
  cases algorithm <;> decide

/-- A name finds just the algorithm whose short name it spells, with or without a dash after SHA; reading it gives the
same, or an error with the name as it was written. So it finds what is documented, unless it spells the name of a SHA-3
algorithm with the dash, which finds that algorithm too. -/
theorem ofName?_by_spelling (name : String) (algorithm : Algorithm) :
    (ofName? name = some algorithm ↔
      Spells name algorithm.name ∨ Spells name algorithm.dashedName) ∧
    ((ofName? name = some algorithm ↔ Documented name algorithm) ↔
      ¬(algorithm.isSha2 = false ∧ Spells name algorithm.dashedName)) ∧
    (parse name = .ok algorithm ↔ ofName? name = some algorithm) ∧
    (ofName? name = none → parse name = .error (.unsupportedAlgorithm name)) := by
  refine ⟨ofName?_iff_spells, ?_, ?_, ?_⟩
  · rw [ofName?_iff_spells, Documented]
    -- The look-up and the documentation part ways over the dash alone.
    by_cases dashed : Spells name algorithm.dashedName
    · have apart := not_spells_both dashed
      cases family : algorithm.isSha2 with
      | false => simp [dashed, apart]
      | true => simp [dashed]
    · simp [dashed]
  · -- Reading a name is the look-up, with an error for a name that finds nothing.
    unfold parse
    cases ofName? name with
    | none => simp
    | some other => simp
  · intro unknown
    rw [parse, unknown]

/-- The short name of a SHA-3 algorithm is accepted with a dash after SHA, which is not documented. -/
theorem ofName?_undocumented :
    ofName? "SHA-3-256" = some sha3_256 ∧ ¬Documented "SHA-3-256" sha3_256 := by
  refine ⟨by decide, ?_⟩
  -- It is not the short name, and the dash is documented for SHA-2 only.
  rintro (short | ⟨family, _⟩)
  · revert short
    rw [spells_iff]
    unfold Text.SameIgnoringCase
    decide
  · cases family

end Algorithm

end DigestProvider
