import CssSelectors.Proofs.Bytes.Lossless
import CssSelectors.Proofs.Token.Marks

open scoped Computability

-- How far names go. A text can be cut into pieces of a name in many ways, for a digit may belong to an escape
-- before it and a space may end one; the scanner of bytes tries one of them and goes as far as any.
namespace CssSelectors

open Pattern

variable {cs word other front rest : List Char} {text lexeme : String} {language : Language Char} {n p : Nat}

-- The longest word of a language at the front of a text. All others there are parts of it.
structure Flex.Reaches (language : Language Char) (cs word : List Char) : Prop where
  member : word ∈ language
  front : word <+: cs
  most : ∀ other ∈ language, other <+: cs → other <+: word

-- What a scan answers that looks for a language: the bytes of its longest word, or that none is there.
inductive Flex.Finds (language : Language Char) (cs : List Char) : Probe Nat → Prop where
  | found {word : List Char} (reaches : Flex.Reaches language cs word) :
      Flex.Finds language cs (.found (Text.byteLength word))
  | missed (nothing : ∀ word ∈ language, ¬ word <+: cs) : Flex.Finds language cs .missed

theorem Flex.Reaches.unique (one : Flex.Reaches language cs word) (two : Flex.Reaches language cs other) :
    word = other := by
  have within := two.most word one.member one.front
  have covers := one.most other two.member two.front
  exact within.eq_of_length_le covers.length_le

theorem Flex.Reaches.finds (reaches : Flex.Reaches language cs word) {probe : Probe Nat}
    (finds : Flex.Finds language cs probe) : probe = .found (Text.byteLength word) := by
  cases finds with
  | found also => rw [reaches.unique also]
  | missed nothing => exact absurd reaches.front (nothing word reaches.member)

theorem Pattern.Longest.reaches {pattern : Pattern} (longest : Longest pattern language)
    (found : pattern cs = some n) : Flex.Reaches language cs (cs.take n) := by
  obtain ⟨within, member, most⟩ := longest.takes found
  refine ⟨member, List.take_prefix n cs, ?_⟩
  intro other inside front
  apply List.prefix_of_prefix_length_le front (List.take_prefix n cs)
  rw [List.length_take_of_le within]
  exact most other inside front

theorem ByteScanner.Mirrors.finds {rule : ByteScanner → Nat → Probe Nat} {pattern : Pattern}
    {scanner : ByteScanner} (mirrors : Mirrors rule pattern) (longest : Longest pattern language)
    (ahead : scanner.Ahead p cs) : Flex.Finds language cs (rule scanner p) := by
  rw [mirrors scanner p cs ahead]
  cases found : pattern cs with
  | none => exact .missed (longest.missed found)
  | some n => exact .found (longest.reaches found)

-- Of the names at the front of a text only the longest can have a parenthesis behind it.
theorem reaches_function (named : word ∈ Flex.ident) (opened : word ++ ['('] <+: cs) :
    Flex.Reaches Flex.ident cs word := by
  obtain ⟨rest, rfl⟩ := opened
  rw [List.append_assoc]
  refine ⟨named, List.prefix_append _ _, ?_⟩
  intro other called front
  rcases List.prefix_or_prefix_of_prefix front (List.prefix_append word _) with within | ⟨more, rfl⟩
  · exact within
  · cases more with
    | nil => rw [List.append_nil]
    | cons c more =>
        obtain rfl := head_eq_of_front ((List.prefix_append_right_inj word).mp front)
        exact absurd called (ident_closed named)

theorem tokenAt_function (parts : text.toList = front ++ cs) :
    tokenAt text (Text.byteLength front) = .symbol .function lexeme ↔
      ∃ word ∈ Flex.ident, word ++ ['('] <+: cs ∧ lexeme = String.ofList (word ++ ['(']) := by
  have whole : text = String.ofList (front ++ cs) := by rw [← parts, String.ofList_toList]
  subst whole
  constructor
  · intro read
    cases cs with
    | nil =>
        rw [List.append_nil, ← Text.utf8ByteSize_ofList, tokenAt_end] at read
        cases read
    | cons c rest =>
        cases (tokenAt_eq_iff front c rest _).mp read with
        | symbol takes _ =>
            obtain ⟨_, member⟩ := Flex.Takes.mem takes (show scannerRules[8]? = _ from rfl)
            obtain ⟨word, named, rfl⟩ := mem_function.mp member
            exact ⟨word, named, takes.front, rfl⟩
  · rintro ⟨word, named, ⟨rest, rfl⟩, rfl⟩
    rw [List.append_assoc]
    exact tokenAt_gives (gives_function rest named)

-- The scanner of bytes finds the longest word that is made of pieces of a name, the longest name and the longest
-- function. A parenthesis can only follow the longest name, and the token there is a function just if one does.
theorem ident_maximal (parts : text.toList = front ++ cs) :
    (∃ word, Flex.Reaches Flex.nmchar∗ cs word ∧
      (ByteScanner.on text).nameTail (Text.byteLength front) = .found (Text.byteLength word)) ∧
    Flex.Finds Flex.ident cs ((ByteScanner.on text).ident (Text.byteLength front)) ∧
    (∀ word ∈ Flex.ident, word ++ ['('] <+: cs → Flex.Reaches Flex.ident cs word) ∧
    (∀ rule, (Symbol.function, rule) ∈ ByteScanner.rules →
      Flex.Finds (Flex.ident * Flex.text "(") cs (rule (.on text) (Text.byteLength front))) ∧
    ∀ lexeme, tokenAt text (Text.byteLength front) = .symbol .function lexeme ↔
      ∃ word ∈ Flex.ident, word ++ ['('] <+: cs ∧ lexeme = String.ofList (word ++ ['(']) := by
  have ahead := ByteScanner.ahead_on parts
  refine ⟨?_, ByteScanner.mirrors_ident.finds longest_ident ahead, fun _ => reaches_function, ?_,
    fun _ => tokenAt_function parts⟩
  · exact ⟨_, longest_nameTail.reaches rfl, ahead.nameTail⟩
  · intro rule listed
    obtain rfl : rule = _ := by simpa [ByteScanner.rules] using listed
    exact (ByteScanner.mirrors_ident.thenLiteral "(" (by simp)).finds longest_function ahead

-- A name that begins with a dash and has the code of a letter in it, whose end is a space.
theorem ident_maximal_escaped :
    "é-\\41 b(c".toList = "é".toList ++ "-\\41 b(c".toList ∧
      Flex.Reaches Flex.ident "-\\41 b(c".toList "-\\41 b".toList ∧
      (ByteScanner.on "é-\\41 b(c").ident 2 = .found 6 ∧
      tokenAt "é-\\41 b(c" 2 = .symbol .function "-\\41 b(" := by
  have parts : "é-\\41 b(c".toList = "é".toList ++ "-\\41 b(c".toList := by decide +kernel
  have read : tokenAt "é-\\41 b(c" 2 = .symbol .function "-\\41 b(" := by decide +kernel
  obtain ⟨_, finds, only, _, opens⟩ := ident_maximal parts
  obtain ⟨word, named, opened, same⟩ := (opens _).mp read
  obtain rfl : word = "-\\41 b".toList := by
    have spelled : word ++ ['('] = "-\\41 b".toList ++ ['('] := String.ofList_inj.mp same.symm
    exact (List.append_inj' spelled rfl).1
  have reaches := only _ named opened
  exact ⟨parts, reaches, reaches.finds finds, read⟩

end CssSelectors
