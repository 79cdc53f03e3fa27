import CssSelectors.Proofs.Bytes.Lossless
import CssSelectors.Proofs.Token.Marks

open scoped Computability

-- How far a quotation goes that starts at its mark: to the mark that closes it, or else as far as any open one.
namespace CssSelectors

open Pattern

variable {word other body front rest cs : List Char} {mark : Char} {text : String} {closed : Bool} {n : Nat}

-- A text that has newlines only within escapes, or with a backslash before them.
inductive Unbroken : List Char → Prop where
  | nil : Unbroken []
  | plain {c : Char} {rest : List Char} (inline : isNewline c = false) (bare : c ≠ '\\')
      (later : Unbroken rest) : Unbroken (c :: rest)
  | newline {newline rest : List Char} (member : newline ∈ Flex.nl) (later : Unbroken rest) :
      Unbroken ('\\' :: newline ++ rest)
  | escape {escape rest : List Char} (member : escape ∈ Flex.escape) (later : Unbroken rest) :
      Unbroken (escape ++ rest)

theorem Unbroken.append (first : Unbroken word) (second : Unbroken rest) : Unbroken (word ++ rest) := by
  induction first with
  | nil => exact second
  | plain inline bare _ ih => exact .plain inline bare ih
  | newline member _ ih =>
      rw [List.append_assoc]
      exact .newline member ih
  | escape member _ ih =>
      rw [List.append_assoc]
      exact .escape member ih

theorem unbroken_mark (quote : isQuote mark = true) : Unbroken [mark] := by
  rcases isQuote_cases quote with rfl | rfl
  · exact .plain rfl (by decide) .nil
  · exact .plain rfl (by decide) .nil

theorem unbroken_body (quote : isQuote mark = true) (inside : body ∈ Flex.body mark) : Unbroken body := by
  refine star_induction (motive := Unbroken) .nil ?_ inside
  intro piece rest one _ later
  rcases (mem_piece (isAlpha_of_isQuote quote)).mp one with ⟨c, rfl, quotable⟩ | ⟨tail, rfl, ends⟩ | escaped
  · simp only [isQuotable, Bool.not_eq_true', Bool.or_eq_false_iff, beq_eq_false_iff_ne] at quotable
    exact .plain quotable.1.1 quotable.1.2 later
  · exact .newline ends later
  · exact .escape escaped later

theorem unbroken_string (member : word ∈ Flex.string) : Unbroken word := by
  obtain ⟨mark, body, quote, rfl, inside⟩ := string_shape member
  exact (unbroken_mark quote).append ((unbroken_body quote inside).append (unbroken_mark quote))

theorem unbroken_invalid (member : word ∈ Flex.invalid) : Unbroken word := by
  obtain ⟨mark, body, quote, rfl, inside⟩ := invalid_shape member
  exact (unbroken_mark quote).append (unbroken_body quote inside)

-- Only one string starts at a place.
theorem string_unique (one : word ∈ Flex.string) (two : other ∈ Flex.string) (front : word <+: cs)
    (also : other <+: cs) : word = other := by
  rcases List.prefix_or_prefix_of_prefix front also with ⟨more, rfl⟩ | ⟨more, rfl⟩
  · rw [string_ends one (.inl two), List.append_nil]
  · rw [string_ends two (.inl one), List.append_nil]

-- The quotation at the front of a text. It is closed if any string is there, and then it is the only one, for
-- a string ends with the mark that it began with; otherwise no open quotation there is longer.
structure Quotation (cs word : List Char) (closed : Bool) : Prop where
  front : word <+: cs
  unbroken : Unbroken word
  closes : closed = true ↔ ∃ string, string <+: cs ∧ string ∈ Flex.string
  only : closed = true → ∀ string, string <+: cs → (string ∈ Flex.string ↔ string = word)
  longest : closed = false →
    word ∈ Flex.invalid ∧ ∀ other, other <+: cs → other ∈ Flex.invalid → other.length ≤ word.length

theorem Pattern.string_quoted (found : Pattern.quoted cs = some (n, closed)) :
    Pattern.string cs = if closed then some (n + 1) else none := by
  cases closed <;> simp [Pattern.string, found]

theorem Pattern.unclosed_quoted (found : Pattern.quoted cs = some (n, closed)) :
    Pattern.unclosed cs = some n := by
  simp [Pattern.unclosed, found]

theorem Quotation.of_closed (found : Pattern.quoted cs = some (n, true)) :
    Quotation cs (cs.take (n + 1)) true := by
  have member : cs.take (n + 1) ∈ Flex.string := longest_string.take (string_quoted found)
  refine ⟨List.take_prefix _ _, unbroken_string member, ?_, ?_, nofun⟩
  · exact iff_of_true rfl ⟨_, List.take_prefix _ _, member⟩
  · intro _ string front
    exact ⟨fun also => string_unique also member front (List.take_prefix _ _), fun same => same ▸ member⟩

theorem Quotation.of_open (found : Pattern.quoted cs = some (n, false)) : Quotation cs (cs.take n) false := by
  have member : cs.take n ∈ Flex.invalid := longest_unclosed.take (unclosed_quoted found)
  refine ⟨List.take_prefix _ _, unbroken_invalid member, ?_, nofun, fun _ => ⟨member, ?_⟩⟩
  · have missed := longest_string.missed (string_quoted found)
    exact iff_of_false nofun fun ⟨string, front, closed⟩ => missed string closed front
  · obtain ⟨within, _, most⟩ := longest_unclosed.takes (unclosed_quoted found)
    intro other front also
    rw [List.length_take_of_le within]
    exact most other also front

theorem Quotation.gives (quotation : Quotation (mark :: rest) word closed) (quote : isQuote mark = true) :
    Flex.Gives scannerRules (mark :: rest)
      (.symbol (if closed then .string else .invalid) (String.ofList word)) := by
  cases closed with
  | true =>
      obtain ⟨more, whole⟩ := quotation.front
      rw [← whole]
      exact gives_quoted ((quotation.only rfl word quotation.front).mpr rfl)
  | false =>
      obtain ⟨member, most⟩ := quotation.longest rfl
      exact gives_unclosed quote quotation.front member (fun string front also =>
        Bool.false_ne_true (quotation.closes.mpr ⟨string, front, also⟩)) most

-- A quotation mark begins one quotation, closed if it can be, which the scanner of bytes finds whole and which
-- is the token there. It ends between two characters.
theorem quoted_maximal (parts : text.toList = front ++ mark :: rest) (quote : isQuote mark = true) :
    ∃ word closed, Quotation (mark :: rest) word closed ∧
      (ByteScanner.on text).quoted (Text.byteLength front) = .found (Text.byteLength word, closed) ∧
      String.Pos.Raw.IsValid text ⟨Text.byteLength front + Text.byteLength word⟩ ∧
      tokenAt text (Text.byteLength front) =
        .symbol (if closed then .string else .invalid) (String.ofList word) := by
  have ahead := ByteScanner.ahead_on parts
  have whole : text = String.ofList (front ++ mark :: rest) := by rw [← parts, String.ofList_toList]
  obtain ⟨n, closed, found⟩ : ∃ n closed, Pattern.quoted (mark :: rest) = some (n, closed) :=
    ⟨_, _, quoted_mark quote⟩
  have scanned := ahead.quoted
  rw [found] at scanned
  cases closed with
  | true =>
      have quotation := Quotation.of_closed found
      refine ⟨_, true, quotation, ?_, (ahead.drop _).isValid, whole ▸ tokenAt_gives (quotation.gives quote)⟩
      rw [scanned, ← width, ByteScanner.width_closed found]
      rfl
  | false =>
      have quotation := Quotation.of_open found
      exact ⟨_, false, quotation, scanned, (ahead.drop _).isValid, whole ▸ tokenAt_gives (quotation.gives quote)⟩

-- A string behind a character of two bytes, with an escaped newline and the code of a letter in it.
theorem quoted_maximal_escaped :
    "é'a\\\n\\e9 b'c".toList = "é".toList ++ '\'' :: "a\\\n\\e9 b'c".toList ∧ isQuote '\'' = true ∧
      Quotation ('\'' :: "a\\\n\\e9 b'c".toList) "'a\\\n\\e9 b'".toList true ∧
      (ByteScanner.on "é'a\\\n\\e9 b'c").quoted 2 = .found (10, true) ∧
      tokenAt "é'a\\\n\\e9 b'c" 2 = .symbol .string "'a\\\n\\e9 b'" := by
  have parts : "é'a\\\n\\e9 b'c".toList = "é".toList ++ '\'' :: "a\\\n\\e9 b'c".toList := by decide +kernel
  have read : tokenAt "é'a\\\n\\e9 b'c" 2 = .symbol .string "'a\\\n\\e9 b'" := by decide +kernel
  obtain ⟨word, closed, quotation, scanned, _, token⟩ := quoted_maximal parts rfl
  obtain ⟨name, same⟩ := Token.symbol.inj (read.symm.trans token)
  obtain rfl : closed = true := by
    cases closed with
    | true => rfl
    | false => cases name
  obtain rfl : word = "'a\\\n\\e9 b'".toList := by rw [same, String.toList_ofList]
  exact ⟨parts, rfl, quotation, scanned, read⟩

end CssSelectors
