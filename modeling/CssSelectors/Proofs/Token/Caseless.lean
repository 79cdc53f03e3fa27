import CssSelectors.Proofs.Token.Stream

open scoped Computability

-- The scanner does not tell the cases of ASCII letters apart: it takes a text in lower case for the tokens of
-- the text, in lower case.
namespace CssSelectors

open Pattern

theorem toLower_toLower (c : Char) : c.toLower.toLower = c.toLower := by
  have once := toNat_toLower c
  have twice := toNat_toLower c.toLower
  rw [char_eq_iff]
  split at once <;> split at twice <;> omega

theorem utf8Size_toLower (c : Char) : c.toLower.utf8Size = c.utf8Size := by
  have lower := toNat_toLower c
  have small : ∀ d : Char, d.toNat < 128 → d.utf8Size = 1 := by
    intro d ascii
    exact Char.utf8Size_eq_one_iff.mpr (UInt32.le_iff_toNat_le.mpr (Nat.le_of_lt_succ ascii))
  split at lower
  · rw [small c (by omega), small _ (by omega)]
  · rw [char_eq_iff.mpr lower]

def lowered (cs : List Char) : List Char := cs.map Char.toLower

variable {word cs rest : List Char} {token : Token} {language left right : Language Char}

theorem lowered_append (left right : List Char) : lowered (left ++ right) = lowered left ++ lowered right :=
  List.map_append

theorem lowered_lowered (cs : List Char) : lowered (lowered cs) = lowered cs := by
  simp only [lowered, List.map_map]
  exact List.map_congr_left fun c _ => toLower_toLower c

theorem toList_toLower (text : String) : text.toLower.toList = lowered text.toList := String.toList_map

theorem toLower_ofList (cs : List Char) : (String.ofList cs).toLower = String.ofList (lowered cs) := by
  apply String.toList_inj.mp
  rw [toList_toLower, String.toList_ofList, String.toList_ofList]

theorem byteLength_lowered (cs : List Char) : Text.byteLength (lowered cs) = Text.byteLength cs := by
  induction cs with
  | nil => rfl
  | cons c rest ih =>
      rw [Text.byteLength_cons, ← ih, ← utf8Size_toLower c]
      rfl

theorem utf8ByteSize_toLower (text : String) : text.toLower.utf8ByteSize = text.utf8ByteSize := by
  rw [← Text.byteLength_toList, ← Text.byteLength_toList text, toList_toLower, byteLength_lowered]

-- What has no letters is in a text just where it is in the text in lower case.
theorem infix_lowered {marks : String} (letterless : isLetterless marks = true) :
    marks.toList <:+: lowered cs ↔ marks.toList <:+: cs := by
  have same : ∀ {part}, part ∈ Flex.text marks ↔ part = marks.toList := fun {_} => mem_text letterless
  rw [lowered, List.infix_map_iff]
  constructor
  · intro found
    obtain ⟨part, inside, folded⟩ := found
    rwa [← same.mp folded.symm]
  · intro inside
    exact ⟨marks.toList, inside, (same.mpr rfl).symm⟩

namespace Flex

-- A language that a word is in just if the word in lower case is.
def Caseless (language : Language Char) : Prop := ∀ word, lowered word ∈ language ↔ word ∈ language

theorem caseless_oneOf (test : Char → Bool) : Caseless (oneOf test) := by
  intro word
  constructor
  · intro member
    obtain ⟨c, same, holds⟩ := member
    obtain ⟨d, rest, rfl, rfl, none⟩ := List.map_eq_cons_iff.mp same
    obtain rfl := List.map_eq_nil_iff.mp none
    exact ⟨d, rfl, toLower_toLower d ▸ holds⟩
  · intro member
    obtain ⟨c, rfl, holds⟩ := member
    exact ⟨c.toLower, rfl, (toLower_toLower c).symm ▸ holds⟩

theorem caseless_text (lower : String) : Caseless (text lower) := by
  intro word
  show lowered (lowered word) = _ ↔ lowered word = _
  rw [lowered_lowered]

theorem caseless_one : Caseless 1 := by
  intro word
  simp only [Language.mem_one, lowered, List.map_eq_nil_iff]

theorem Caseless.add (one : Caseless left) (two : Caseless right) : Caseless (left + right) := by
  intro word
  rw [Language.mem_add, Language.mem_add, one, two]

theorem Caseless.mul (one : Caseless left) (two : Caseless right) : Caseless (left * right) := by
  intro word
  rw [Language.mem_mul, Language.mem_mul]
  constructor
  · intro member
    obtain ⟨first, begins, last, ends, parts⟩ := member
    obtain ⟨front, back, rfl, rfl, rfl⟩ := List.map_eq_append_iff.mp parts.symm
    exact ⟨front, (one front).mp begins, back, (two back).mp ends, rfl⟩
  · intro member
    obtain ⟨front, begins, back, ends, rfl⟩ := member
    exact ⟨_, (one front).mpr begins, _, (two back).mpr ends, (lowered_append front back).symm⟩

theorem Caseless.pow (caseless : Caseless language) (count : Nat) : Caseless (language ^ count) := by
  induction count with
  | zero => exact pow_zero language ▸ caseless_one
  | succ count ih => exact pow_succ language count ▸ ih.mul caseless

theorem Caseless.star (caseless : Caseless language) : Caseless language∗ := by
  intro word
  rw [Language.kstar_eq_iSup_pow, Language.mem_iSup, Language.mem_iSup]
  exact exists_congr fun count => caseless.pow count word

theorem Caseless.between (least most : Nat) (caseless : Caseless language) :
    Caseless (between least most language) := by
  intro word
  refine exists_congr fun count => ?_
  rw [caseless.pow count word]

theorem Caseless.optional (caseless : Caseless language) : Caseless (optional language) :=
  caseless.add caseless_one

theorem Caseless.plus (caseless : Caseless language) : Caseless (plus language) := caseless.mul caseless.star

theorem caseless_blanks : Caseless blanks := (caseless_oneOf _).star

theorem caseless_escapeEnd : Caseless escapeEnd := ((caseless_text _).add (caseless_oneOf _)).optional

theorem caseless_escape : Caseless escape := by
  have coded := (caseless_text "\\").mul ((caseless_oneOf isHex).between 1 6)
  exact (coded.mul caseless_escapeEnd).add ((caseless_text _).mul (caseless_oneOf _))

theorem caseless_nmstart : Caseless nmstart :=
  ((caseless_oneOf _).add (caseless_oneOf _)).add caseless_escape

theorem caseless_nmchar : Caseless nmchar :=
  ((caseless_oneOf _).add (caseless_oneOf _)).add caseless_escape

theorem caseless_ident : Caseless ident :=
  (caseless_text _).optional.mul (caseless_nmstart.mul caseless_nmchar.star)

theorem caseless_name : Caseless name := caseless_nmchar.plus

theorem caseless_num : Caseless num :=
  (caseless_oneOf _).plus.add ((caseless_oneOf _).star.mul ((caseless_text _).mul (caseless_oneOf _).plus))

theorem caseless_nl : Caseless nl :=
  (((caseless_text _).add (caseless_text _)).add (caseless_text _)).add (caseless_text _)

theorem caseless_body (mark : Char) : Caseless (body mark) :=
  (((caseless_oneOf _).add ((caseless_text _).mul caseless_nl)).add caseless_escape).star

theorem caseless_string : Caseless string :=
  ((caseless_text _).mul ((caseless_body _).mul (caseless_text _))).add
    ((caseless_text _).mul ((caseless_body _).mul (caseless_text _)))

theorem caseless_invalid : Caseless invalid :=
  ((caseless_text _).mul (caseless_body _)).add ((caseless_text _).mul (caseless_body _))

theorem caseless_letter (itself escaped upperCode lowerCode : String) :
    Caseless (letter itself escaped upperCode lowerCode) := by
  have coded := ((caseless_text upperCode).add (caseless_text lowerCode)).mul caseless_escapeEnd
  have written := (caseless_text "\\").mul (((caseless_text "0").between 0 4).mul coded)
  exact ((caseless_text itself).add written).add (caseless_text escaped)

theorem caseless_negation : Caseless negation :=
  (caseless_text _).mul ((caseless_letter _ _ _ _).mul ((caseless_letter _ _ _ _).mul
    ((caseless_letter _ _ _ _).mul (caseless_text _))))

-- The marks of a comment are no letters, so that lower case neither adds nor removes one.
theorem caseless_comment : Caseless comment := by
  have opening : ∀ {word}, word ∈ text "/*" ↔ word = ['/', '*'] := fun {_} => mem_text (by decide)
  have letterless : isLetterless "*/" = true := by decide
  have closing : ∀ {word}, word ∈ text "*/" ↔ word = ['*', '/'] := fun {_} => mem_text letterless
  have clearly : ∀ {cs}, ['*', '/'] <:+: lowered cs ↔ ['*', '/'] <:+: cs :=
    fun {_} => infix_lowered letterless
  have ending (inside : List Char) : lowered inside ++ ['*'] = lowered (inside ++ ['*']) :=
    (lowered_append inside ['*']).symm
  intro word
  constructor
  · intro member
    obtain ⟨folded, same, clear⟩ := member
    have whole : lowered word = ['/', '*'] ++ (folded ++ ['*', '/']) := same
    obtain ⟨front, others, rfl, begins, remains⟩ := List.map_eq_append_iff.mp whole
    obtain ⟨inside, back, rfl, rfl, ends⟩ := List.map_eq_append_iff.mp remains
    obtain rfl := opening.mp begins
    obtain rfl := closing.mp ends
    refine ⟨inside, rfl, fun found => clear ?_⟩
    exact ending inside ▸ clearly.mpr found
  · intro member
    obtain ⟨inside, rfl, clear⟩ := member
    refine ⟨lowered inside, ?_, fun found => clear ?_⟩
    · show lowered (['/', '*'] ++ (inside ++ ['*', '/'])) = _
      rw [lowered_append, lowered_append]
      rfl
    · exact clearly.mp (ending inside ▸ found)

theorem caseless_rules : ∀ entry ∈ scannerRules, Caseless entry.2 := by
  unfold scannerRules rulesWith
  simp only [List.forall_mem_cons]
  exact ⟨(caseless_oneOf _).plus, caseless_text _, caseless_text _, caseless_text _, caseless_text _,
    caseless_text _, caseless_ident, caseless_string, caseless_ident.mul (caseless_text _), caseless_num,
    (caseless_text _).mul caseless_name, caseless_blanks.mul (caseless_text _),
    caseless_blanks.mul (caseless_text _), caseless_blanks.mul (caseless_text _),
    caseless_blanks.mul (caseless_text _), caseless_negation, (caseless_text _).mul caseless_ident,
    caseless_invalid, caseless_num.mul (caseless_text _), caseless_num.mul caseless_ident,
    caseless_text _, caseless_text _, caseless_comment, nofun⟩

variable {index : Nat} {name : Symbol}

theorem caseless_rule (found : scannerRules[index]? = some (name, language)) : Caseless language :=
  caseless_rules _ (List.mem_of_getElem? found)

theorem Takes.toLower (takes : Takes scannerRules cs index name word) :
    Takes scannerRules (lowered cs) index name (lowered word) := by
  obtain ⟨⟨language, found, member⟩, front, solid⟩ := takes
  exact ⟨⟨language, found, (caseless_rule found word).mpr member⟩, front.map _, mt List.map_eq_nil_iff.mp solid⟩

-- What is taken of a text in lower case was in the text, whatever its case.
theorem Takes.of_toLower {folded : List Char} (takes : Takes scannerRules (lowered cs) index name folded) :
    ∃ word, lowered word = folded ∧ Takes scannerRules cs index name word := by
  obtain ⟨⟨language, found, member⟩, front, solid⟩ := takes
  obtain ⟨word, begins, rfl⟩ := List.prefix_map_iff.mp front
  exact ⟨word, rfl, ⟨language, found, (caseless_rule found word).mp member⟩, begins,
    mt List.map_eq_nil_iff.mpr solid⟩

theorem takes_name {c : Char} (start : isNameStart c = true) :
    Takes scannerRules (c :: rest) 6 .ident [c] := by
  have first : [c] ∈ nmstart := mem_nmstart.mpr (.inl ⟨c, rfl, start⟩)
  have named : [c] ∈ nmstart * nmchar∗ := Language.append_mem_mul first (Language.nil_mem_kstar _)
  have unsigned : [] ∈ Flex.optional (text "-") := .inr rfl
  exact ⟨⟨ident, rfl, Language.append_mem_mul unsigned named⟩, List.prefix_append [c] rest, List.cons_ne_nil _ _⟩

-- No letter stands for itself, as it would be a name.
theorem literal_toLower {c : Char} (gives : Gives scannerRules cs (.literal c)) : c.toLower = c := by
  cases gives with
  | literal first none =>
      subst first
      refine (toLower_eq_iff (Bool.eq_false_iff.mpr ?_)).mpr rfl
      intro letter
      apply none _ _ _ (takes_name _)
      simp only [isNameStart, letter, Bool.or_true, Bool.true_or]

end Flex

-- A token with its lexeme in lower case. What stands for itself is to stay as it is.
def Token.toLower : Token → Token
  | .symbol name lexeme => .symbol name lexeme.toLower
  | .literal c => .literal c
  | .endOfText => .endOfText

theorem Flex.Gives.toLower (gives : Gives scannerRules cs token) :
    Gives scannerRules (lowered cs) token.toLower := by
  cases gives with
  | symbol takes best =>
      rw [Token.toLower, toLower_ofList]
      apply Gives.symbol takes.toLower
      intro other symbol folded also
      obtain ⟨word, rfl, taken⟩ := also.of_toLower
      simpa [lowered] using best other symbol word taken
  | @literal c rest first none =>
      have same : c.toLower = c := literal_toLower (.literal first none)
      have front : lowered cs = c :: lowered rest := by
        rw [first, lowered, List.map_cons, same]
        rfl
      apply Gives.literal front
      intro other symbol folded also
      obtain ⟨word, _, taken⟩ := also.of_toLower
      exact none other symbol word taken

namespace Token

theorem byteLength_toLower (token : Token) : token.toLower.byteLength = token.byteLength := by
  cases token with
  | symbol name lexeme => exact utf8ByteSize_toLower lexeme
  | literal c => rfl
  | endOfText => rfl

theorem chars_toLower (gives : Flex.Gives scannerRules cs token) :
    token.toLower.chars = lowered token.chars := by
  cases token with
  | symbol name lexeme => exact toList_toLower lexeme
  | literal c =>
      simp only [toLower, chars, lowered, List.map_cons, List.map_nil, Flex.literal_toLower gives]
  | endOfText => rfl

theorem scan_toLower (cs : List Char) : scan (lowered cs) = (scan cs).toLower := by
  cases cs with
  | nil => rfl
  | cons c rest => exact (scanFront_gives _ _).unique (scanFront_gives c rest).toLower

theorem scanAll_toLower (offset : Nat) (cs : List Char) :
    scanAll offset (lowered cs) = (scanAll offset cs).map (Prod.map id toLower) := by
  induction cs using scan_induction generalizing offset with
  | nil => rw [lowered, List.map_nil, scanAll_nil, List.map_nil]
  | next token rest gives ih =>
      have folded := gives.toLower
      rw [lowered_append, ← chars_toLower gives] at folded ⊢
      rw [scanAll_gives folded, scanAll_gives gives, ih, List.map_cons, byteLength_toLower]
      rfl

end Token

theorem dropBytes?_lowered (offset : Nat) (cs : List Char) :
    Text.dropBytes? offset (lowered cs) = (Text.dropBytes? offset cs).map lowered := by
  induction cs generalizing offset with
  | nil => cases offset <;> rfl
  | cons c rest ih =>
      cases offset with
      | zero => rfl
      | succ offset =>
          rw [lowered, List.map_cons, Text.dropBytes?, Text.dropBytes?, utf8Size_toLower]
          split
          · exact ih _
          · rfl

theorem tokenAt_toLower (text : String) (offset : Nat) :
    tokenAt text.toLower offset = (tokenAt text offset).toLower := by
  unfold tokenAt
  rw [toList_toLower, dropBytes?_lowered]
  cases Text.dropBytes? offset text.toList with
  | none => rfl
  | some cs => exact Token.scan_toLower cs

theorem tokenize_toLower (text : String) :
    tokenize text.toLower = (tokenize text).map (Prod.map id Token.toLower) := by
  unfold tokenize
  rw [toList_toLower, Token.scanAll_toLower]

end CssSelectors
