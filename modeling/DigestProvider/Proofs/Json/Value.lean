import DigestProvider.Proofs.Json.Layout
import Mathlib.Data.List.Forall2

/-!
JSON values as tokens, and the arrays and objects that hold them. Main statements: no two tokens of a value can be run
together, and layouts of an array's or an object's parts make a layout of the whole.
-/

namespace DigestProvider.Json

/-- Values between brackets, with a comma between any two. -/
def arrayOf (values : List (List Token)) : List Token :=
  -- Nothing stands between the brackets of an empty array.
  .openBracket :: ([.comma].intercalate values ++ [.closeBracket])

/-- A key and its value. -/
def memberOf (key : String) (value : List Token) : List Token :=
  .text key :: .colon :: value

/-- Members between braces, each of a key and its value, with a comma between any two. -/
def objectOf (members : List (String × List Token)) : List Token :=
  .openBrace ::
    ([.comma].intercalate (members.map fun entry => memberOf entry.1 entry.2) ++ [.closeBrace])

/-- The tokens of a value of any kind and depth. -/
inductive IsValue : List Token → Prop where
  /-- A literal, a string or a number, even one that no float is as large as. -/
  | scalar {token : Token} (plain : token.isPunctuation = false) : IsValue [token]
  | array {values : List (List Token)} (each : ∀ value ∈ values, IsValue value) :
    IsValue (arrayOf values)
  | object {members : List (String × List Token)} (each : ∀ entry ∈ members, IsValue entry.2) :
    IsValue (objectOf members)

/-- A value has a first token, and no others unless that one opens an array or an object. -/
theorem IsValue.front {value : List Token} (whole : IsValue value) :
    ∃ token more, value = token :: more ∧ token ≠ .closeBracket ∧
      (token.isPunctuation = false → more = []) := by
  -- Every sort of value shows in its first token.
  cases whole with
  | @scalar token plain =>
    -- A closing bracket is punctuation, and so no scalar.
    have other : token ≠ .closeBracket := by
      rintro rfl
      cases plain
    exact ⟨token, [], rfl, other, fun _ => rfl⟩
  | array => exact ⟨.openBracket, _, rfl, by simp, fun plain => nomatch plain⟩
  | object => exact ⟨.openBrace, _, rfl, by simp, fun plain => nomatch plain⟩

/-- Tokens that are no punctuation are values, each by itself. -/
theorem isValue_of_scalars {Value : Type} {token : Value → Token}
    (plain : ∀ value, (token value).isPunctuation = false) (values : List Value) :
    ∀ part ∈ values.map fun value => [token value], IsValue part := by
  -- Each part is one of the values, made into a token.
  intro part present
  obtain ⟨value, _, rfl⟩ := List.mem_map.mp present
  exact .scalar (plain value)

/-- Behind the first of several parts each one follows a separator. -/
theorem intercalate_cons {α : Type} (separator : α) (part : List α) (parts : List (List α)) :
    [separator].intercalate (part :: parts) = part ++ parts.flatMap (separator :: ·) := by
  -- The induction is on the parts behind the first, any of which may come first itself.
  induction parts generalizing part with
  | nil => simp
  | cons next rest ih =>
    rw [List.intercalate_cons_cons, ih, List.flatMap_cons, List.append_assoc,
      List.singleton_append, List.cons_append]

/-- Punctuation stands in front of anything. -/
theorem Separated.mark {token : Token} {rest : List Token} (separated : Separated rest)
    (punctuation : token.isPunctuation = true) : Separated (token :: rest) :=
  -- Only the pair at the front is new, and its left side is punctuation.
  List.isChain_cons.mpr ⟨fun _ _ => .inl punctuation, separated⟩

/-- Anything stands in front of punctuation. -/
theorem Separated.before {part rest : List Token} (first : Separated part)
    (second : Separated rest) (marked : ∀ token ∈ rest.head?, token.isPunctuation = true) :
    Separated (part ++ rest) :=
  -- Only the pair at the seam is new, and its right side is punctuation.
  List.isChain_append.mpr ⟨first, second, fun _ _ next leads => .inr (marked next leads)⟩

/-- Parts with commas between them are separated if each of them is. -/
theorem separated_intercalate {parts : List (List Token)}
    (each : ∀ part ∈ parts, Separated part) : Separated ([.comma].intercalate parts) := by
  -- Each comma keeps the parts on its two sides apart.
  induction parts with
  | nil => exact .nil
  | cons part rest ih =>
    obtain ⟨first, others⟩ := List.forall_mem_cons.mp each
    cases rest with
    -- A single part has no comma behind it.
    | nil => rwa [List.intercalate_singleton]
    | cons next rest =>
      rw [List.intercalate_cons_cons, List.append_assoc, List.singleton_append]
      -- What comes behind the first part begins with a comma.
      refine first.before ((ih others).mark rfl) fun token leads => ?_
      obtain rfl := Option.some.inj leads
      rfl

/-- What is enclosed between punctuation marks is separated if it is by itself. -/
theorem Separated.enclosed {part : List Token} {first last : Token} (separated : Separated part)
    (opens : first.isPunctuation = true) (closes : last.isPunctuation = true) :
    Separated (first :: (part ++ [last])) := by
  -- The mark in front and the one behind each make one new pair.
  refine (separated.before (.singleton last) fun token leads => ?_).mark opens
  obtain rfl := Option.some.inj leads
  exact closes

/-- A member is separated if its value is. -/
theorem Separated.member {value : List Token} (separated : Separated value) (key : String) :
    Separated (memberOf key value) := by
  -- The colon keeps the key and the value apart.
  have behind : Separated (.colon :: value) := separated.mark rfl
  refine Separated.before (.singleton (.text key)) behind fun token leads => ?_
  obtain rfl := Option.some.inj leads
  rfl

/-- No two tokens of a value can be run together. -/
theorem IsValue.separated {value : List Token} (whole : IsValue value) : Separated value := by
  -- Every comma, colon, bracket and brace keeps its two sides apart.
  induction whole with
  | scalar => exact .singleton _
  | array _ ih => exact (separated_intercalate ih).enclosed rfl rfl
  | object _ ih =>
    refine (separated_intercalate fun part listed => ?_).enclosed rfl rfl
    -- A part between the braces is a member, whose value is separated by induction.
    obtain ⟨entry, present, rfl⟩ := List.mem_map.mp listed
    exact (ih entry present).member entry.1

/-- More white space may stand in front. -/
theorem Layout.spaced {tokens : List Token} {spaces text : List Char}
    (blank : ∀ c ∈ spaces, isSpace c = true) (layout : Layout tokens text) :
    Layout tokens (spaces ++ text) := by
  -- White space in front joins that of the first token, or what stands behind the last.
  have both {more : List Char} (others : ∀ c ∈ more, isSpace c = true) :
      ∀ c ∈ spaces ++ more, isSpace c = true :=
    fun c member => (List.mem_append.mp member).elim (blank c) (others c)
  cases layout with
  | done others => exact .done (both others)
  | next others written rest =>
    rw [← List.append_assoc]
    exact .next (both others) written rest

/-- Layouts one behind the other lay out the tokens of both. -/
theorem Layout.append {first second : List Token} {front back : List Char}
    (one : Layout first front) (other : Layout second back) :
    Layout (first ++ second) (front ++ back) := by
  -- The white space behind the first layout comes to stand in front of the second.
  induction one with
  | done blank => exact other.spaced blank
  -- The first token of the one layout is the first of both.
  | next blank written _ ih =>
    rw [List.append_assoc, List.append_assoc]
    exact .next blank written ih

/-- A written token is a layout of itself. -/
theorem WrittenToken.layout {token : Token} {chars : List Char}
    (written : WrittenToken token chars) : Layout [token] chars := by
  -- There is no white space on either side of it.
  have nothing : ∀ c ∈ ([] : List Char), isSpace c = true := fun _ member => nomatch member
  have alone := Layout.next nothing written (.done nothing)
  rwa [List.nil_append, List.append_nil] at alone

/-- A written token in front of a layout lays out the token too. -/
theorem WrittenToken.before {token : Token} {chars : List Char} (written : WrittenToken token chars)
    {tokens : List Token} {text : List Char} (layout : Layout tokens text) :
    Layout (token :: tokens) (chars ++ text) :=
  -- No white space is needed behind a token, except where the layout says so.
  written.layout.append layout

/-- One more character of white space may stand in front. -/
theorem Layout.space {c : Char} (blank : isSpace c = true) {tokens : List Token} {text : List Char}
    (layout : Layout tokens text) : Layout tokens (c :: text) :=
  -- A character is a stretch of white space of length one.
  layout.spaced (List.forall_mem_singleton.mpr blank)

/-- Layouts with commas between them lay out their tokens with commas between them. -/
theorem Layout.intercalate {parts : List (List Token)} {texts : List (List Char)}
    (each : List.Forall₂ Layout parts texts) :
    Layout ([.comma].intercalate parts) ([','].intercalate texts) := by
  -- Commas stand in the tokens where they stand in the text.
  induction each with
  | nil => exact .done fun _ member => nomatch member
  | cons layout rest ih =>
    cases rest with
    | nil => simpa using layout
    | cons next rest =>
      -- The comma is written without white space around it.
      rw [List.intercalate_cons_cons, List.intercalate_cons_cons]
      exact (layout.append WrittenToken.comma.layout).append ih

/-- Layouts of an array's values make one of the array. -/
theorem Layout.array {values : List (List Token)} {texts : List (List Char)}
    (each : List.Forall₂ Layout values texts) :
    Layout (arrayOf values) ('[' :: ([','].intercalate texts ++ [']'])) :=
  -- The brackets are put around what the values are laid out as.
  WrittenToken.openBracket.before
    ((Layout.intercalate each).append WrittenToken.closeBracket.layout)

/-- Layouts of an object's members make one of the object. -/
theorem Layout.object {members : List (String × List Token)} {texts : List (List Char)}
    (each : List.Forall₂ (fun entry text => Layout (memberOf entry.1 entry.2) text) members texts) :
    Layout (objectOf members) ('{' :: ([','].intercalate texts ++ ['}'])) := by
  -- The members are laid out as parts, and the braces are put around them.
  have inner := Layout.intercalate (List.forall₂_map_left_iff.mpr each)
  exact WrittenToken.openBrace.before (inner.append WrittenToken.closeBrace.layout)

/-- A string is written between quotes. -/
theorem WrittenToken.quoted (text : String) : WrittenToken (.text text) (quoted text.toList) := by
  -- Quoting escapes what has to be escaped, which is one of the ways to spell the text.
  have written := WrittenToken.text (spells_written text.toList)
  rwa [String.ofList_toList] at written

/-- A quoted key, a colon and a layout of a value make a layout of the member. -/
theorem Layout.member {value : List Token} {text : List Char} (layout : Layout value text)
    (key : String) : Layout (memberOf key value) (quoted key.toList ++ ':' :: text) :=
  -- The key and the colon are written close together, and the value brings its own white space.
  (WrittenToken.quoted key).before (WrittenToken.colon.before layout)

end DigestProvider.Json
