import CssSelectors.Proofs.Token.Names

open scoped Computability

-- The opening of a negation, whose letters have three spellings each.
namespace CssSelectors.Pattern

variable {c : Char} {word rest : List Char} {check : Char → Bool}

theorem text_cons {rest : List Char} : Flex.text (String.ofList (c :: rest)) =
    Flex.text (String.ofList [c]) * Flex.text (String.ofList rest) := by
  ext word
  rw [Language.mem_mul]
  show word.map Char.toLower = (String.ofList (c :: rest)).toList ↔
    ∃ front, front.map Char.toLower = (String.ofList [c]).toList ∧
      ∃ back, back.map Char.toLower = (String.ofList rest).toList ∧ front ++ back = word
  simp only [String.toList_ofList]
  constructor
  · intro same
    obtain ⟨d, others, rfl, first, second⟩ := List.map_eq_cons_iff.mp same
    exact ⟨[d], by simp [first], others, second, rfl⟩
  · rintro ⟨front, first, back, second, rfl⟩
    rw [List.map_append, first, second]
    rfl

theorem mem_text_single : word ∈ Flex.text (String.ofList [c]) ↔ ∃ d, word = [d] ∧ d.toLower = c := by
  show word.map Char.toLower = (String.ofList [c]).toList ↔ _
  rw [String.toList_ofList, List.map_eq_singleton_iff]

-- Two hexadecimal digits, where the zeros before them have an end.
structure IsCode (pair : Char × Char) : Prop where
  digit : pair.1.isDigit = true
  nonzero : pair.1 ≠ '0'
  hex : Flex.isHex pair.2 = true

-- A letter that is no hexadecimal digit, with its two codes.
structure Spelling where
  itself : Char
  upperCode : Char × Char
  lowerCode : Char × Char
  alpha : itself.isAlpha = true
  small : itself.toLower = itself
  solid : (Flex.isHex itself || Flex.isBlank itself) = false
  upper : IsCode upperCode
  lower : IsCode lowerCode

namespace Spelling

variable (spelling : Spelling)

def pattern : Pattern := letter spelling.itself spelling.upperCode spelling.lowerCode

def language : Language Char :=
  Flex.letter (String.ofList [spelling.itself]) (String.ofList ['\\', spelling.itself])
    (String.ofList [spelling.upperCode.1, spelling.upperCode.2])
    (String.ofList [spelling.lowerCode.1, spelling.lowerCode.2])

def codes : Language Char :=
  Flex.text (String.ofList [spelling.upperCode.1, spelling.upperCode.2]) +
    Flex.text (String.ofList [spelling.lowerCode.1, spelling.lowerCode.2])

def spells (high low : Char) : Bool :=
  (high, low.toLower) = spelling.upperCode || (high, low.toLower) = spelling.lowerCode

-- One of the two codes behind the zeros of an escape.
def code : Pattern
  | high :: low :: _ => if spelling.spells high low then some 2 else none
  | _ => none

def coded : Pattern := followedBy (literal "\\") (followedBy (upTo 4 (· == '0'))
  (followedBy spelling.code fun cs => some (escapeEnd cs)))

def escaped : Pattern := followedBy (literal "\\") (single (sameLetter spelling.itself))

theorem mem_itself : word ∈ Flex.text (String.ofList [spelling.itself]) ↔
    ∃ c, word = [c] ∧ sameLetter spelling.itself c = true := by
  rw [mem_text_single]
  simp only [sameLetter, spelling.small, beq_iff_eq, eq_comm (a := spelling.itself)]

theorem isAlpha_of_isDigit (digit : c.isDigit = true) : c.isAlpha = false := by
  apply Bool.eq_false_iff.mpr
  simp only [Char.isDigit_iff_toNat, isAlpha_iff, Char.reduceToNat, ne_eq] at digit ⊢
  omega

theorem mem_code {pair : Char × Char} (valid : IsCode pair) :
    word ∈ Flex.text (String.ofList [pair.1, pair.2]) ↔
      ∃ high low, word = [high, low] ∧ (high, low.toLower) = pair := by
  rw [text_cons, Language.mem_mul]
  simp only [mem_text_single, toLower_eq_iff (isAlpha_of_isDigit valid.digit)]
  constructor
  · rintro ⟨_, ⟨high, rfl, first⟩, _, ⟨low, rfl, second⟩, rfl⟩
    exact ⟨high, low, rfl, Prod.ext first second⟩
  · rintro ⟨high, low, rfl, rfl⟩
    exact ⟨[high], ⟨high, rfl, rfl⟩, [low], ⟨low, rfl, rfl⟩, rfl⟩

theorem mem_codes : word ∈ spelling.codes ↔
    ∃ high low, word = [high, low] ∧ spelling.spells high low = true := by
  simp only [spells, Bool.or_eq_true, decide_eq_true_eq]
  rw [codes, Language.mem_add, mem_code spelling.upper, mem_code spelling.lower]
  constructor
  · rintro (⟨high, low, rfl, same⟩ | ⟨high, low, rfl, same⟩)
    · exact ⟨high, low, rfl, .inl same⟩
    · exact ⟨high, low, rfl, .inr same⟩
  · rintro ⟨high, low, rfl, same | same⟩
    · exact .inl ⟨high, low, rfl, same⟩
    · exact .inr ⟨high, low, rfl, same⟩

theorem longest_code : Longest spelling.code spelling.codes := by
  refine ⟨?_, ?_⟩
  · intro cs n found
    unfold code at found
    split at found
    · rename_i high low rest
      obtain ⟨same, two⟩ := Option.ite_none_right_eq_some.mp found
      exact ⟨[high, low], rest, rfl, Option.some.inj two, spelling.mem_codes.mpr ⟨high, low, rfl, same⟩⟩
    · cases found
  · intro word rest member
    obtain ⟨high, low, rfl, same⟩ := spelling.mem_codes.mp member
    exact ⟨2, if_pos same, Nat.le_refl 2⟩

theorem sameLetter_isAlpha (same : sameLetter spelling.itself c = true) : c.isAlpha = true := by
  apply Bool.not_eq_false _ |>.mp
  intro other
  have itself : c.toLower = c := (toLower_eq_iff other).mpr rfl
  simp only [sameLetter, spelling.small, itself, beq_iff_eq] at same
  rw [← same, spelling.alpha] at other
  cases other

theorem text_zero : Flex.text "0" = Flex.oneOf (· == '0') := by
  ext word
  rw [mem_text (by decide)]
  constructor
  · rintro rfl
    exact ⟨'0', rfl, rfl⟩
  · rintro ⟨c, rfl, zero⟩
    rw [(toLower_eq_iff rfl).mp (beq_iff_eq.mp zero)]
    rfl

theorem code_length (member : word ∈ spelling.codes) : word.length = 2 := by
  obtain ⟨high, low, rfl, _⟩ := spelling.mem_codes.mp member
  rfl

theorem isCode_of_spells {high low : Char} (spelled : spelling.spells high low = true) :
    IsCode (high, low.toLower) := by
  simp only [spells, Bool.or_eq_true, decide_eq_true_eq] at spelled
  rcases spelled with same | same
  · exact same ▸ spelling.upper
  · exact same ▸ spelling.lower

def codedForm : Language Char :=
  Flex.text "\\" * (Flex.between 0 4 (Flex.text "0") * (spelling.codes * Flex.escapeEnd))

theorem zero_toLower (c : Char) : (c.toLower == '0') = (c == '0') := by
  simp only [Bool.beq_eq_decide_eq, toLower_eq_iff (show '0'.isAlpha = false from rfl)]

theorem mem_zeros (member : word ∈ Flex.between 0 4 (Flex.text "0")) : ∀ c ∈ word, c = '0' := by
  rw [text_zero] at member
  obtain ⟨_, _, all⟩ := (mem_between_oneOf zero_toLower).mp member
  exact fun c present => beq_iff_eq.mp (all c present)

theorem longest_coded : Longest spelling.coded spelling.codedForm := by
  have zeros : Longest (upTo 4 (· == '0')) (Flex.between 0 4 (Flex.text "0")) := by
    rw [text_zero]
    exact longest_upTo zero_toLower
  refine longest_behind (by decide) (zeros.followedBy (spelling.longest_code.followedBy longest_escapeEnd
      (.of_same_length fun _ => spelling.code_length)) (.of_heads ?_))
  intro early c late word _ longer member
  obtain ⟨tail, first⟩ := head_mul member fun empty => by cases spelling.code_length empty
  obtain ⟨high, low, same, spelled⟩ := spelling.mem_codes.mp first
  obtain rfl := (List.cons.inj same).1
  exact (spelling.isCode_of_spells spelled).nonzero (mem_zeros longer c (by simp))

theorem coded_shape (member : word ∈ spelling.codedForm) :
    ∃ c tail, word = '\\' :: c :: tail ∧ c.isAlpha = false ∧ ∀ d ∈ tail, isTrailing d = true := by
  obtain ⟨slash, one, others, behind, rfl⟩ := Language.mem_mul.mp member
  obtain ⟨zeros, none, more, further, rfl⟩ := Language.mem_mul.mp behind
  obtain ⟨pair, coded, ending, last, rfl⟩ := Language.mem_mul.mp further
  obtain ⟨high, low, rfl, spelled⟩ := spelling.mem_codes.mp coded
  obtain rfl := (mem_text (by decide)).mp one
  have valid := spelling.isCode_of_spells spelled
  have trailing : ∀ d ∈ low :: ending, isTrailing d = true := by
    refine List.forall_mem_cons.mpr ⟨?_, fun d present => ?_⟩
    · rw [isTrailing, ← isHex_toLower, valid.hex]
      rfl
    · simp [isTrailing, escapeEnd_space last d present]
  cases zeros with
  | nil => exact ⟨high, low :: ending, rfl, isAlpha_of_isDigit valid.digit, trailing⟩
  | cons zero zeros =>
      obtain ⟨rfl, others⟩ := List.forall_mem_cons.mp (mem_zeros none)
      refine ⟨'0', zeros ++ high :: low :: ending, rfl, rfl, ?_⟩
      intro d present
      rcases List.mem_append.mp present with early | late
      · rw [others d early]
        rfl
      · rcases List.mem_cons.mp late with rfl | late
        · have digit : d.isDigit = true := valid.digit
          simp [isTrailing, isHexDigit, digit]
        · exact trailing d late

theorem sameLetter_other (other : c.isAlpha = false) : sameLetter spelling.itself c = false := by
  apply Bool.eq_false_iff.mpr
  intro same
  rw [spelling.sameLetter_isAlpha same] at other
  cases other

theorem single_head {check : Char → Bool} :
    single check rest = if (rest.head?.map check).getD false then some 1 else none := by
  cases rest with
  | nil => rfl
  | cons c rest => rfl

theorem code_pair {high low : Char} {after : List Char} :
    followedBy spelling.code (fun cs => some (escapeEnd cs)) (high :: low :: after) =
      if spelling.spells high low then some (2 + escapeEnd after) else none := by
  have pair : spelling.code (high :: low :: after) =
    if spelling.spells high low then some 2 else none := rfl
  rw [followedBy, pair]
  cases spelling.spells high low with
  | true => rfl
  | false => rfl

-- What the pattern finds behind a backslash that the letter itself does not follow.
theorem letter_code (other : (rest.head?.map (sameLetter spelling.itself)).getD false = false) :
    spelling.pattern ('\\' :: rest) = spelling.coded ('\\' :: rest) := by
  have unfolds : spelling.coded ('\\' :: rest) =
      ((followedBy spelling.code (fun cs => some (escapeEnd cs))
        (rest.drop (run (· == '0') (rest.take 4)))).map (run (· == '0') (rest.take 4) + ·)).map
          (1 + ·) := rfl
  unfold pattern letter
  simp only [other, Bool.false_eq_true, if_false]
  rw [unfolds]
  cases rest.drop (run (· == '0') (rest.take 4)) with
  | nil => rfl
  | cons high behind =>
      cases behind with
      | nil => rfl
      | cons low after =>
          rw [code_pair]
          show (if spelling.spells high low then _ else none) = _
          cases spelling.spells high low with
          | true => simp [Nat.add_assoc]
          | false => rfl

theorem pattern_eq : spelling.pattern =
    either (single (sameLetter spelling.itself)) (either spelling.escaped spelling.coded) := by
  funext cs
  cases cs with
  | nil => rfl
  | cons c rest =>
      unfold either escaped
      by_cases slash : c = '\\'
      · subst slash
        rw [single, spelling.sameLetter_other rfl, behind_backslash, single_head]
        cases follows : (rest.head?.map (sameLetter spelling.itself)).getD false with
        | true =>
            unfold pattern letter
            simp only [follows]
            rfl
        | false =>
            rw [spelling.letter_code follows]
            rfl
      · rw [coded, behind_other slash, behind_other slash, Option.or_none, Option.or_none]
        unfold pattern letter
        split
        · exact absurd (List.cons.inj ‹_›).1 slash
        · rename_i parts
          obtain ⟨rfl, _⟩ := List.cons.inj parts
          rfl
        · rename_i none
          cases none

theorem escapedForm_eq : Flex.text (String.ofList ['\\', spelling.itself]) =
    Flex.text "\\" * Flex.text (String.ofList [spelling.itself]) := text_cons

theorem longest_escaped :
    Longest spelling.escaped (Flex.text (String.ofList ['\\', spelling.itself])) := by
  rw [escapedForm_eq]
  exact longest_behind (by decide) (.single fun _ => spelling.mem_itself)

theorem escaped_shape (member : word ∈ Flex.text (String.ofList ['\\', spelling.itself])) :
    ∃ c, word = ['\\', c] := by
  rw [escapedForm_eq] at member
  obtain ⟨slash, one, last, inside, rfl⟩ := Language.mem_mul.mp member
  obtain ⟨c, rfl, _⟩ := spelling.mem_itself.mp inside
  rw [(mem_text (by decide)).mp one]
  exact ⟨c, rfl⟩

theorem coded_head {n : Nat} (found : spelling.coded ('\\' :: c :: rest) = some n) :
    c.isAlpha = false := by
  obtain ⟨word, behind, same, _, member⟩ := spelling.longest_coded.sound _ n found
  obtain ⟨d, tail, rfl, digit, _⟩ := spelling.coded_shape member
  rw [(List.cons.inj (List.cons.inj same).2).1]
  exact digit

-- The three spellings begin with the letter, with a backslash before it, and with a backslash before
-- a digit.
theorem longest_letter : Longest spelling.pattern spelling.language := by
  rw [pattern_eq, language, Flex.letter, add_assoc, add_comm (Flex.text "\\" * _)]
  refine .either (.single fun _ => spelling.mem_itself)
    (.either spelling.longest_escaped spelling.longest_coded ?_) ?_
  · intro cs n m one two
    cases cs with
    | nil => cases one
    | cons c rest =>
        by_cases slash : c = '\\'
        · subst slash
          rw [escaped, behind_backslash] at one
          obtain ⟨_, itself, _⟩ := Option.map_eq_some_iff.mp one
          obtain ⟨d, behind, rfl, same, _⟩ := single_eq_some itself
          have letter := spelling.sameLetter_isAlpha same
          rw [spelling.coded_head two] at letter
          cases letter
        · rw [escaped, behind_other slash] at one
          cases one
  · intro cs n m one two
    obtain ⟨c, rest, rfl, same, rfl⟩ := single_eq_some one
    have slash : c ≠ '\\' := by
      rintro rfl
      cases spelling.sameLetter_isAlpha same
    rw [either, escaped, coded, behind_other slash, behind_other slash] at two
    cases two

theorem pieces : Pieces spelling.language := by
  refine ⟨?_⟩
  rintro word ((single | coded) | escaped)
  · obtain ⟨c, rfl, same⟩ := spelling.mem_itself.mp single
    refine .inl ⟨c, rfl, ?_⟩
    rintro rfl
    cases spelling.sameLetter_isAlpha same
  · obtain ⟨c, tail, rfl, _, trailing⟩ := spelling.coded_shape coded
    exact .inr ⟨c, tail, rfl, trailing⟩
  · obtain ⟨c, rfl⟩ := spelling.escaped_shape escaped
    exact .inr ⟨c, [], rfl, nofun⟩

theorem head (member : c :: rest ∈ spelling.language) :
    sameLetter spelling.itself c = true ∨ c = '\\' := by
  rcases member with (single | coded) | escaped
  · obtain ⟨d, one, same⟩ := spelling.mem_itself.mp single
    cases one
    exact .inl same
  · obtain ⟨d, tail, same, _⟩ := spelling.coded_shape coded
    exact .inr (List.cons.inj same).1
  · obtain ⟨d, same⟩ := spelling.escaped_shape escaped
    exact .inr (List.cons.inj same).1

-- What may trail an escaped letter begins neither another letter nor the parenthesis.
theorem yields {next : Language Char}
    (solid : ∀ c rest, c :: rest ∈ next → isTrailing c = false) : Yields spelling.language next := by
  apply Yields.of_heads
  intro early c late word shorter longer member
  have trailing := spelling.pieces.longer shorter longer c List.mem_cons_self
  rw [solid c word member] at trailing
  cases trailing

theorem head_solid {next : Language Char} (member : c :: rest ∈ spelling.language * next) :
    isTrailing c = false := by
  obtain ⟨tail, first⟩ := head_mul member fun empty => spelling.pieces.solid empty rfl
  rcases spelling.head first with same | rfl
  · simp only [sameLetter, spelling.small, beq_iff_eq] at same
    rw [isTrailing, ← isHex_toLower, ← isBlank_toLower, ← same]
    exact spelling.solid
  · rfl

end Spelling

def letterN : Spelling :=
  ⟨'n', ('4', 'e'), ('6', 'e'), rfl, rfl, rfl, ⟨rfl, by decide, rfl⟩, ⟨rfl, by decide, rfl⟩⟩

def letterO : Spelling :=
  ⟨'o', ('4', 'f'), ('6', 'f'), rfl, rfl, rfl, ⟨rfl, by decide, rfl⟩, ⟨rfl, by decide, rfl⟩⟩

def letterT : Spelling :=
  ⟨'t', ('5', '4'), ('7', '4'), rfl, rfl, rfl, ⟨rfl, by decide, rfl⟩, ⟨rfl, by decide, rfl⟩⟩

theorem longest_negation : Longest negation Flex.negation := by
  have paren : Longest (literal "(") (Flex.text "(") := longest_literal (by decide)
  have solid : ∀ c rest, c :: rest ∈ Flex.text "(" → isTrailing c = false := by
    intro c rest member
    obtain ⟨rfl, _⟩ := List.cons.inj ((mem_text (by decide)).mp member)
    rfl
  have third := letterT.longest_letter.followedBy paren (letterT.yields solid)
  have second := letterO.longest_letter.followedBy third
    (letterO.yields fun _ _ => letterT.head_solid)
  exact longest_behind (by decide) (letterN.longest_letter.followedBy second
    (letterN.yields fun _ _ => letterO.head_solid))

end CssSelectors.Pattern
