import DigestProvider.Bytes.Hex

/-!
Where each character of a dump stands. Main statement: a dump is its bytes' digit pairs in a fixed layout, with one
separator between neighbours, so that the bytes can be read back from it.
-/

namespace DigestProvider

/-- No run that a list is cut into is longer than asked for. -/
theorem length_le_of_mem_chunks {Item : Type} {size : Nat} {items run : List Item}
    (member : run ∈ chunks size items) : run.length ≤ size := by
  -- The induction follows the cuts; each takes a front of that length at most.
  fun_induction chunks size items with
  | case1 items stops => cases member
  | case2 items goesOn ih =>
    rcases List.mem_cons.mp member with rfl | later
    · exact List.length_take_le size items
    · exact ih later

namespace Hex

/-- The digits in the order of their values. -/
def digits : List Char :=
  ['0', '1', '2', '3', '4', '5', '6', '7', '8', '9', 'a', 'b', 'c', 'd', 'e', 'f']

/-- What separates two neighbours in a dump, by the number of bytes in front: every full line ends. -/
def separator (before : Nat) : Char :=
  if before % lineLength = 0 then '\n' else ' '

/-- Digit pairs with a separator between neighbours, behind some number of earlier bytes. -/
def layout (before : Nat) : Bytes → List Char
  | [] => []
  | [byte] => pair byte
  | byte :: next :: rest =>
    pair byte ++ separator (before + 1) :: layout (before + 1) (next :: rest)

/-- The value of a digit, looked up among all of them. -/
def value? (char : Char) : Option Nat :=
  digits.idxOf? char

/-- The byte that two digits stand for, the high one first. -/
def byte? (high low : Char) : Option UInt8 :=
  match value? high, value? low with
  | some high, some low => some (UInt8.ofNat (16 * high + low))
  | _, _ => none

/-- Reads digit pairs with any one character between neighbours. -/
def readPairs? : List Char → Option Bytes
  | [] => some []
  | [_] => none
  | [high, low] => (byte? high low).map ([·])
  | high :: low :: _ :: rest =>
    match byte? high low, readPairs? rest with
    | some byte, some bytes => some (byte :: bytes)
    | _, _ => none

section Digits

/-- The digits are those of the table. -/
theorem getElem?_digits {value : Nat} (small : value < 16) :
    digits[value]? = some (digit value) := by
  -- There are sixteen values to try.
  revert value
  decide

/-- A digit is found in the table under its value. -/
theorem value?_digit {value : Nat} (small : value < 16) : value? (digit value) = some value := by
  -- No digit stands twice in the table, so the first place found is the one asked for.
  revert value
  decide

/-- No digit separates anything. -/
theorem digit_ne_separator {value : Nat} (small : value < 16) :
    digit value ≠ ' ' ∧ digit value ≠ '\n' := by
  -- The separators are not hexadecimal digits, which is what lets a text be cut at them.
  revert value
  decide

/-- A byte has a high digit. -/
theorem high_lt (byte : UInt8) : byte.toNat / 16 < 16 := by
  -- A byte is below sixteen times sixteen.
  have bound := byte.toNat_lt
  omega

/-- A byte has a low digit. -/
theorem low_lt (byte : UInt8) : byte.toNat % 16 < 16 :=
  Nat.mod_lt _ (by decide)

/-- The two digits of a byte stand for it. -/
theorem byte?_pair (byte : UInt8) :
    byte? (digit (byte.toNat / 16)) (digit (byte.toNat % 16)) = some byte := by
  -- Quotient and remainder make up the number again.
  simp only [byte?, value?_digit (high_lt byte), value?_digit (low_lt byte), Nat.div_add_mod,
    UInt8.ofNat_toNat]

end Digits

section Lines

/-- A line of one byte has no separator. -/
@[simp] theorem line_singleton (byte : UInt8) : line [byte] = pair byte :=
  rfl

/-- A line of several bytes starts with the first and a space. -/
theorem line_cons (byte : UInt8) {rest : Bytes} (more : rest ≠ []) :
    line (byte :: rest) = pair byte ++ ' ' :: line rest := by
  cases rest with
  | nil => contradiction
  | cons next rest => simp [line, List.intercalate_cons_cons]

/-- There is no newline within a line. -/
theorem newline_not_mem_line (run : Bytes) : '\n' ∉ line run := by
  -- Each byte adds two digits and a space, and none of the three is a newline.
  induction run with
  | nil => exact List.not_mem_nil
  | cons byte rest ih =>
    have high := (digit_ne_separator (high_lt byte)).2.symm
    have low := (digit_ne_separator (low_lt byte)).2.symm
    by_cases more : rest = []
    · subst more
      simp [pair, high, low]
    · simp [line_cons byte more, pair, high, low, ih]

/-- A line ends in the digits of a byte. -/
theorem line_ends {run : Bytes} (nonempty : run ≠ []) :
    ∃ front byte, line run = front ++ pair byte := by
  -- The last byte of the run is behind the others, with a separator only in front of it.
  induction run with
  | nil => contradiction
  | cons byte rest ih =>
    by_cases more : rest = []
    · subst more
      exact ⟨[], byte, rfl⟩
    · obtain ⟨front, last, ends⟩ := ih more
      exact ⟨pair byte ++ ' ' :: front, last, by simp [line_cons byte more, ends]⟩

/-- No line ends in a space. -/
theorem getLast?_line_ne (run : Bytes) : (line run).getLast? ≠ some ' ' := by
  -- The last character of a line with bytes is a low digit; a line with none has no last character.
  by_cases empty : run = []
  · subst empty
    exact Option.some_ne_none _ |>.symm
  · obtain ⟨front, byte, ends⟩ := line_ends empty
    have low := (digit_ne_separator (low_lt byte)).1
    simp [ends, pair, low]

end Lines

section Layout

/-- A byte with others behind it is followed by its separator. -/
theorem layout_cons (before : Nat) (byte : UInt8) {rest : Bytes} (more : rest ≠ []) :
    layout before (byte :: rest) =
      pair byte ++ separator (before + 1) :: layout (before + 1) rest := by
  -- The separator depends on the number of bytes so far, whatever the next one is.
  cases rest with
  | nil => contradiction
  | cons next rest => rfl

/-- Two parts of a layout have the separator between them that their place asks for. -/
theorem layout_append (before : Nat) {run rest : Bytes} (first : run ≠ []) (more : rest ≠ []) :
    layout before (run ++ rest) =
      layout before run ++ separator (before + run.length) :: layout (before + run.length) rest := by
  -- The induction is on the first part, whose bytes count as those in front.
  induction run generalizing before with
  | nil => contradiction
  | cons byte run ih =>
    by_cases last : run = []
    · subst last
      exact layout_cons before byte more
    · have joined : run ++ rest ≠ [] := by simp [last]
      rw [List.cons_append, layout_cons before byte joined, ih (before + 1) last,
        layout_cons before byte last, List.length_cons, Nat.add_right_comm, Nat.add_assoc]
      simp

/-- Within a line the only separator is a space. -/
theorem layout_of_line {before : Nat} {run : Bytes}
    (within : before % lineLength + run.length ≤ lineLength) : layout before run = line run := by
  -- No byte but the last one can fill the line.
  induction run generalizing before with
  | nil => rfl
  | cons byte rest ih =>
    by_cases more : rest = []
    · subst more
      rfl
    · have behind : 0 < rest.length := List.length_pos_iff.mpr more
      simp only [lineLength, List.length_cons] at within
      have next : (before + 1) % 16 = before % 16 + 1 := by omega
      have space : separator (before + 1) = ' ' := by simp [separator, lineLength, next]
      have later : (before + 1) % lineLength + rest.length ≤ lineLength := by
        simp only [lineLength]
        omega
      rw [layout_cons before byte more, space, ih later, line_cons byte more]

/-- A dump of no more than a line has no newline. -/
theorem dumpText_of_short {bytes : Bytes} (short : bytes.length ≤ lineLength) :
    dumpText bytes = line bytes := by
  -- All the bytes fit the first cut, which leaves nothing to join it with.
  by_cases empty : bytes = []
  · subst empty
    simp [dumpText, line]
  · have one : chunks lineLength bytes = [bytes] := by
      rw [chunks, dif_neg (by simp [lineLength, empty]), List.take_of_length_le short,
        List.drop_of_length_le short, chunks_nil]
    simp [dumpText, one]

/-- A dump of more than a line goes on behind the first one and a newline. -/
theorem dumpText_append {run rest : Bytes} (full : run.length = lineLength) (more : rest ≠ []) :
    dumpText (run ++ rest) = line run ++ '\n' :: dumpText rest := by
  -- There is another run to cut off what is left.
  have cut : chunks lineLength rest =
      rest.take lineLength :: chunks lineLength (rest.drop lineLength) := by
    rw [chunks, dif_neg (by simp [lineLength, more])]
  simp [dumpText, chunks_append (by decide) run rest full, cut, List.intercalate_cons_cons]

/-- A dump is laid out as its bytes are behind any number of full lines. -/
theorem dumpText_eq_layout (bytes : Bytes) {before : Nat} (fresh : before % lineLength = 0) :
    dumpText bytes = layout before bytes := by
  -- The induction follows the cuts into lines.
  fun_induction chunks lineLength bytes generalizing before with
  | case1 bytes stops =>
    obtain rfl : bytes = [] := stops.resolve_left (by decide)
    simp [dumpText, layout]
  | case2 bytes goesOn ih =>
    by_cases short : bytes.length ≤ lineLength
    · rw [dumpText_of_short short, layout_of_line (by omega)]
    · -- A full line ends where the number of bytes in front is once more a multiple.
      have full : (bytes.take lineLength).length = lineLength := by
        rw [List.length_take]
        omega
      have first : bytes.take lineLength ≠ [] := by
        refine List.ne_nil_of_length_pos ?_
        rw [full]
        decide
      have more : bytes.drop lineLength ≠ [] := by
        intro empty
        exact short (List.drop_eq_nil_iff.mp empty)
      have again : (before + lineLength) % lineLength = 0 := by
        rw [Nat.add_mod_right]
        exact fresh
      have newline : separator (before + lineLength) = '\n' := by simp [separator, again]
      have ends : before % lineLength + (bytes.take lineLength).length ≤ lineLength := by omega
      rw [← List.take_append_drop lineLength bytes, dumpText_append full more, ih again,
        layout_append before first more, full, newline, layout_of_line ends]

/-- Bytes laid out take three characters each, but for the separator that the last one lacks. -/
theorem length_layout (before : Nat) {bytes : Bytes} (nonempty : bytes ≠ []) :
    (layout before bytes).length = 3 * bytes.length - 1 := by
  -- All but the last byte bring two digits and a separator.
  fun_induction layout before bytes with
  | case1 before => contradiction
  | case2 before byte => rfl
  | case3 before byte next rest ih =>
    have later := ih (List.cons_ne_nil next rest)
    simp only [pair, List.length_append, List.length_cons, List.length_nil] at later ⊢
    omega

/-- From the place of a byte on, a layout is that of the bytes from there on. -/
theorem drop_layout (before index : Nat) (bytes : Bytes) :
    (layout before bytes).drop (3 * index) = layout (before + index) (bytes.drop index) := by
  -- The induction is on the place, which leaves one byte and three characters behind at a time.
  induction index generalizing before bytes with
  | zero => rfl
  | succ index ih =>
    have places : 3 * (index + 1) = 3 + 3 * index := by omega
    have counted : before + (index + 1) = before + 1 + index := by omega
    rw [places, ← List.drop_drop, counted]
    -- Behind the end there is nothing on either side; elsewhere one step drops a byte and its three characters.
    match bytes with
    | [] => simp [layout]
    | [byte] => simp [layout, pair]
    | byte :: next :: rest => exact ih (before + 1) (next :: rest)

/-- Where a byte is laid out, its digits come first, and its separator if there are bytes behind it. -/
theorem layout_at (before : Nat) (bytes : Bytes) (index : Nat) (within : index < bytes.length) :
    (layout before bytes)[3 * index]? = some (digit (bytes[index].toNat / 16)) ∧
      (layout before bytes)[3 * index + 1]? = some (digit (bytes[index].toNat % 16)) ∧
      (index + 1 < bytes.length →
        (layout before bytes)[3 * index + 2]? = some (separator (before + index + 1))) := by
  -- The characters are the first of those from the place of the byte on.
  have place (offset : Nat) : (layout before bytes)[3 * index + offset]? =
      (layout (before + index) (bytes[index] :: bytes.drop (index + 1)))[offset]? := by
    rw [← List.drop_eq_getElem_cons within, ← drop_layout, List.getElem?_drop]
  rw [← Nat.add_zero (3 * index), place 0, Nat.add_zero, place 1, place 2]
  -- Only the last byte lacks a separator.
  by_cases last : bytes.drop (index + 1) = []
  · have ends : bytes.length ≤ index + 1 := List.drop_eq_nil_iff.mp last
    rw [last]
    exact ⟨rfl, rfl, fun more => absurd more (Nat.not_lt.mpr ends)⟩
  · rw [layout_cons _ _ last]
    exact ⟨rfl, rfl, fun _ => rfl⟩

/-- Digit pairs laid out are read back as their bytes. -/
theorem readPairs?_layout (before : Nat) (bytes : Bytes) :
    readPairs? (layout before bytes) = some bytes := by
  -- The reader skips one character behind each pair, so which separator it is does not matter.
  fun_induction layout before bytes with
  | case1 before => rfl
  | case2 before byte => simp [pair, readPairs?, byte?_pair]
  | case3 before byte next rest ih => simp [pair, readPairs?, byte?_pair, ih]

end Layout

/-- The characters of a dump are those of its text. -/
@[simp] theorem toList_dump (bytes : Bytes) : (dump bytes).toList = dumpText bytes :=
  String.toList_ofList

/-- The lines of a dump are those of the runs that its bytes are cut into. -/
theorem lines_dumpText {bytes : Bytes} (nonempty : bytes ≠ []) :
    (dumpText bytes).splitOn '\n' = (chunks lineLength bytes).map line := by
  -- The newlines are all between lines, and there is at least one line.
  refine List.splitOn_intercalate '\n' ?_ ?_
  · intro text member
    obtain ⟨run, _, rfl⟩ := List.mem_map.mp member
    exact newline_not_mem_line run
  · rw [chunks, dif_neg (by simp [lineLength, nonempty])]
    exact List.cons_ne_nil _ _

/-- Each line of a dump holds the digits of at most sixteen bytes, and ends in none but a digit. -/
theorem dumpText_lines (bytes : Bytes) {text : List Char}
    (member : text ∈ (dumpText bytes).splitOn '\n') :
    (∃ run, readPairs? text = some run ∧ run.length ≤ 16) ∧ text.getLast? ≠ some ' ' := by
  -- A text of no characters is one empty line.
  by_cases empty : bytes = []
  · subst empty
    obtain rfl : text = [] := by simpa [dumpText] using member
    exact ⟨⟨[], rfl, by decide⟩, getLast?_line_ne []⟩
  · rw [lines_dumpText empty] at member
    obtain ⟨run, cut, rfl⟩ := List.mem_map.mp member
    have short : run.length ≤ 16 := length_le_of_mem_chunks cut
    -- A run of one line is read as if it were a whole dump.
    have placed : layout 0 run = line run := layout_of_line (by simpa [lineLength] using short)
    exact ⟨⟨run, placed ▸ readPairs?_layout 0 run, short⟩, getLast?_line_ne run⟩

/-- A dump is a fixed layout: each byte has its two digits at its own place, and neighbours have a newline between them
behind every sixteenth byte and a space elsewhere. So the bytes can be read back from it, and no two byte strings have
the same dump. -/
theorem dump_layout (bytes : Bytes) :
    let text := (dump bytes).toList
    (bytes = [] → text = []) ∧
    (bytes ≠ [] → text.length = 3 * bytes.length - 1) ∧
    (∀ index (within : index < bytes.length),
      text[3 * index]? = digits[bytes[index].toNat / 16]? ∧
      text[3 * index + 1]? = digits[bytes[index].toNat % 16]? ∧
      (index + 1 < bytes.length →
        text[3 * index + 2]? = some (if (index + 1) % 16 = 0 then '\n' else ' '))) ∧
    readPairs? text = some bytes ∧
    (∀ other, dump other = dump bytes → other = bytes) ∧
    ∀ line ∈ text.splitOn '\n',
      (∃ run, readPairs? line = some run ∧ run.length ≤ 16) ∧ line.getLast? ≠ some ' ' := by
  intro text
  -- Everything but the division into lines is read off the layout that has no line in front.
  have laid (bytes : Bytes) : (dump bytes).toList = layout 0 bytes := by
    rw [toList_dump, dumpText_eq_layout bytes (Nat.zero_mod lineLength)]
  have read (bytes : Bytes) : readPairs? (dump bytes).toList = some bytes := by
    rw [laid, readPairs?_layout]
  have placed : text = layout 0 bytes := laid bytes
  refine ⟨?_, ?_, ?_, read bytes, ?_, ?_⟩
  · rintro rfl
    exact laid []
  · intro nonempty
    rw [placed, length_layout 0 nonempty]
  · intro index within
    obtain ⟨high, low, between⟩ := layout_at 0 bytes index within
    rw [placed, getElem?_digits (high_lt _), getElem?_digits (low_lt _)]
    refine ⟨high, low, fun more => ?_⟩
    rw [between more, Nat.zero_add]
    rfl
  · intro other same
    -- What is read from one text is one byte string.
    exact Option.some.inj (by rw [← read other, same, read bytes])
  · intro line member
    exact dumpText_lines bytes (toList_dump bytes ▸ member)

end Hex

end DigestProvider
