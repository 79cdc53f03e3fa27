import CssSelectors.Proofs.Token.Flex
import CssSelectors.Proofs.Token.Longest

open scoped Computability

-- The scanner's macros find the longest words of their languages.
namespace CssSelectors.Pattern

variable {c d : Char} {word rest : List Char} {test check : Char → Bool} {lower : String}

theorem toNat_toLower (c : Char) :
    c.toLower.toNat = if 65 ≤ c.toNat ∧ c.toNat ≤ 90 then c.toNat + 32 else c.toNat := by
  unfold Char.toLower
  split
  · rename_i upper
    simp only [ge_iff_le, UInt32.le_iff_toNat_le, Char.reduceVal, UInt32.reduceToNat,
      Char.toNat_val] at upper
    rw [if_pos upper, Char.toNat_mk, UInt32.toNat_add]
    simp
    omega
  · rename_i other
    simp only [ge_iff_le, UInt32.le_iff_toNat_le, Char.reduceVal, UInt32.reduceToNat,
      Char.toNat_val] at other
    rw [if_neg other]

theorem char_eq_iff : c = d ↔ c.toNat = d.toNat := Char.toNat_inj.symm

theorem char_le_iff : c ≤ d ↔ c.toNat ≤ d.toNat := by
  rw [Char.le_def, UInt32.le_iff_toNat_le]
  rfl

theorem isAlpha_iff : c.isAlpha = true ↔
    (65 ≤ c.toNat ∧ c.toNat ≤ 90) ∨ (97 ≤ c.toNat ∧ c.toNat ≤ 122) := by
  change (decide (c.val ≥ 65 ∧ c.val ≤ 90) || (decide (c.val ≥ 97) && decide (c.val ≤ 122))) = true ↔ _
  simp only [Bool.or_eq_true, Bool.and_eq_true, decide_eq_true_eq, ge_iff_le,
    UInt32.le_iff_toNat_le, UInt32.reduceToNat, Char.toNat_val]

theorem isBlank_toLower : Flex.isBlank c.toLower = isSpace c := by
  have lower := toNat_toLower c
  rw [Bool.eq_iff_iff]
  simp only [Flex.isBlank, isSpace, Bool.or_eq_true, beq_iff_eq, decide_eq_true_eq, List.mem_cons,
    List.not_mem_nil, or_false, char_eq_iff, Char.reduceToNat]
  split at lower <;> omega

theorem isLineEnd_toLower : Flex.isLineEnd c.toLower = isNewline c := by
  have lower := toNat_toLower c
  rw [Bool.eq_iff_iff]
  simp only [Flex.isLineEnd, isNewline, Bool.or_eq_true, beq_iff_eq, decide_eq_true_eq, List.mem_cons,
    List.not_mem_nil, or_false, char_eq_iff, Char.reduceToNat]
  split at lower <;> omega

theorem isHex_toLower : Flex.isHex c.toLower = isHexDigit c := by
  have lower := toNat_toLower c
  rw [Bool.eq_iff_iff]
  simp only [Flex.isHex, isHexDigit, Bool.or_eq_true, Bool.and_eq_true, decide_eq_true_eq,
    char_le_iff, Char.isDigit_iff_toNat, Char.reduceToNat]
  split at lower <;> omega

theorem isDigit_toLower : c.toLower.isDigit = c.isDigit := by
  have lower := toNat_toLower c
  rw [Bool.eq_iff_iff]
  simp only [Char.isDigit_iff_toNat, Char.reduceToNat]
  split at lower <;> omega

theorem isNameStart_iff : isNameStart c = true ↔
    (c.toLower == '_' || ('a' ≤ c.toLower && c.toLower ≤ 'z')) = true ∨ 0x80 ≤ c.toLower.toNat := by
  have lower := toNat_toLower c
  simp only [isNameStart, isNonAscii, Bool.or_eq_true, Bool.and_eq_true, beq_iff_eq,
    decide_eq_true_eq, isAlpha_iff, char_eq_iff, char_le_iff, Char.reduceToNat]
  split at lower <;> omega

theorem isNameChar_iff : isNameChar c = true ↔
    (c.toLower == '_' || ('a' ≤ c.toLower && c.toLower ≤ 'z') || c.toLower.isDigit ||
      c.toLower == '-') = true ∨ 0x80 ≤ c.toLower.toNat := by
  have lower := toNat_toLower c
  simp only [isNameChar, isNonAscii, Char.isAlphanum, Bool.or_eq_true, Bool.and_eq_true, beq_iff_eq,
    decide_eq_true_eq, isAlpha_iff, Char.isDigit_iff_toNat, char_eq_iff, char_le_iff,
    Char.reduceToNat]
  split at lower <;> omega

theorem toLower_eq_iff (letterless : d.isAlpha = false) : c.toLower = d ↔ c = d := by
  have lower := toNat_toLower c
  have other := mt isAlpha_iff.mpr (Bool.eq_false_iff.mp letterless)
  simp only [char_eq_iff]
  split at lower <;> omega

theorem single_eq_some {cs : List Char} {n : Nat} (found : single check cs = some n) :
    ∃ c rest, cs = c :: rest ∧ check c = true ∧ n = 1 := by
  cases cs with
  | nil => cases found
  | cons c rest =>
      simp only [single, Option.ite_none_right_eq_some, Option.some.injEq] at found
      exact ⟨c, rest, rfl, found.1, found.2.symm⟩

def isLetterless (lower : String) : Bool := lower.toList.all fun c => !c.isAlpha

theorem isLetterless_iff :
    isLetterless lower = true ↔ ∀ c ∈ lower.toList, c.isAlpha = false := by
  simp [isLetterless]

theorem mem_oneOf (same : ∀ c, test c.toLower = check c) :
    word ∈ Flex.oneOf test ↔ ∃ c, word = [c] ∧ check c = true := by
  show (∃ c, word = [c] ∧ test c.toLower = true) ↔ _
  simp only [same]

theorem mem_text (letterless : isLetterless lower = true) :
    word ∈ Flex.text lower ↔ word = lower.toList := by
  have each := isLetterless_iff.mp letterless
  show word.map Char.toLower = lower.toList ↔ _
  generalize lower.toList = letters at *
  induction letters generalizing word with
  | nil => simp
  | cons d letters ih =>
      cases word with
      | nil => simp
      | cons c word =>
          simp only [List.map_cons, List.cons.injEq, toLower_eq_iff (each d List.mem_cons_self),
            ih fun e present => each e (List.mem_cons_of_mem _ present)]

theorem mem_star_oneOf (same : ∀ c, test c.toLower = check c) :
    word ∈ (Flex.oneOf test)∗ ↔ ∀ c ∈ word, check c = true := by
  constructor
  · refine star_induction (motive := fun word => ∀ c ∈ word, check c = true) nofun ?_
    intro piece rest one _ ih
    obtain ⟨c, rfl, holds⟩ := (mem_oneOf same).mp one
    exact List.forall_mem_cons.mpr ⟨holds, ih⟩
  · intro all
    induction word with
    | nil => exact Language.nil_mem_kstar _
    | cons c word ih =>
        obtain ⟨first, others⟩ := List.forall_mem_cons.mp all
        exact star_cons ((mem_oneOf same).mpr ⟨c, rfl, first⟩) (ih others)

theorem mem_pow_oneOf (same : ∀ c, test c.toLower = check c) {count : Nat} :
    word ∈ Flex.oneOf test ^ count ↔ word.length = count ∧ ∀ c ∈ word, check c = true := by
  induction count generalizing word with
  | zero =>
      rw [pow_zero, Language.mem_one, List.length_eq_zero_iff]
      exact ⟨fun empty => ⟨empty, empty ▸ nofun⟩, And.left⟩
  | succ count ih =>
      rw [pow_succ', Language.mem_mul]
      constructor
      · rintro ⟨piece, one, others, more, rfl⟩
        obtain ⟨c, rfl, first⟩ := (mem_oneOf same).mp one
        obtain ⟨length, rest⟩ := ih.mp more
        exact ⟨by simp [length], List.forall_mem_cons.mpr ⟨first, rest⟩⟩
      · rintro ⟨length, all⟩
        cases word with
        | nil => cases length
        | cons c word =>
            obtain ⟨first, rest⟩ := List.forall_mem_cons.mp all
            exact ⟨[c], (mem_oneOf same).mpr ⟨c, rfl, first⟩, word,
              ih.mpr ⟨Nat.succ.inj length, rest⟩, rfl⟩

theorem mem_between_oneOf (same : ∀ c, test c.toLower = check c) {least most : Nat} :
    word ∈ Flex.between least most (Flex.oneOf test) ↔
      least ≤ word.length ∧ word.length ≤ most ∧ ∀ c ∈ word, check c = true := by
  show (∃ count, least ≤ count ∧ count ≤ most ∧ word ∈ Flex.oneOf test ^ count) ↔ _
  simp only [mem_pow_oneOf same]
  constructor
  · rintro ⟨count, low, high, rfl, all⟩
    exact ⟨low, high, all⟩
  · rintro ⟨low, high, all⟩
    exact ⟨word.length, low, high, rfl, all⟩

theorem mem_plus {language : Language Char} (solid : [] ∉ language) :
    word ∈ Flex.plus language ↔ word ∈ language∗ ∧ word ≠ [] := by
  constructor
  · intro member
    obtain ⟨piece, one, others, more, rfl⟩ := Language.mem_mul.mp member
    refine ⟨star_cons one more, ?_⟩
    intro empty
    exact solid ((List.append_eq_nil_iff.mp empty).1 ▸ one)
  · rintro ⟨member, some⟩
    rcases star_cases member with empty | ⟨piece, others, rfl, one, more⟩
    · exact absurd empty some
    · exact Language.append_mem_mul one more

theorem mem_escapeEnd : word ∈ Flex.escapeEnd ↔
    word = [] ∨ word = ['\r', '\n'] ∨ ∃ c, word = [c] ∧ isSpace c = true := by
  rw [Flex.escapeEnd, Flex.optional, Language.mem_add, Language.mem_add, Language.mem_one,
    mem_text (by decide), mem_oneOf fun _ => isBlank_toLower]
  exact or_comm

theorem mem_escape : word ∈ Flex.escape ↔
    (∃ digits ending, word = '\\' :: (digits ++ ending) ∧ digits ≠ [] ∧ digits.length ≤ 6 ∧
      (∀ c ∈ digits, isHexDigit c = true) ∧ ending ∈ Flex.escapeEnd) ∨
    ∃ c, word = ['\\', c] ∧ isNewline c = false ∧ isHexDigit c = false := by
  have slash : ∀ {word}, word ∈ Flex.text "\\" ↔ word = ['\\'] := fun {_} => mem_text (by decide)
  have other : ∀ {word}, word ∈ Flex.noneOf (fun c => Flex.isLineEnd c || Flex.isHex c) ↔
      ∃ c, word = [c] ∧ (!(isNewline c || isHexDigit c)) = true :=
    fun {_} => mem_oneOf fun c => by simp only [isLineEnd_toLower, isHex_toLower]
  rw [Flex.escape, Language.mem_add]
  refine or_congr ?_ ?_
  · constructor
    · intro member
      obtain ⟨front, coded, ending, last, rfl⟩ := Language.mem_mul.mp member
      obtain ⟨start, one, digits, inside, rfl⟩ := Language.mem_mul.mp coded
      obtain ⟨some, few, all⟩ := (mem_between_oneOf fun _ => isHex_toLower).mp inside
      rw [slash.mp one]
      exact ⟨digits, ending, by simp, List.length_pos_iff.mp some, few, all, last⟩
    · rintro ⟨digits, ending, rfl, some, few, all, last⟩
      have inside := (mem_between_oneOf fun _ => isHex_toLower).mpr
        ⟨List.length_pos_iff.mpr some, few, all⟩
      exact Language.append_mem_mul (Language.append_mem_mul (slash.mpr rfl) inside) last
  · constructor
    · intro member
      obtain ⟨start, one, last, inside, rfl⟩ := Language.mem_mul.mp member
      obtain ⟨c, rfl, holds⟩ := other.mp inside
      rw [slash.mp one]
      exact ⟨c, rfl, by simpa using holds⟩
    · rintro ⟨c, rfl, solid, letter⟩
      have inside := other.mpr ⟨c, rfl, by simp [solid, letter]⟩
      exact Language.append_mem_mul (slash.mpr rfl) inside

theorem longest_literal (letterless : isLetterless lower = true) :
    Longest (Pattern.literal lower) (Flex.text lower) := by
  refine ⟨?_, ?_⟩
  · intro cs n found
    unfold Pattern.literal at found
    split at found
    · rename_i front
      cases Option.some.inj found
      obtain ⟨rest, rfl⟩ := List.isPrefixOf_iff_prefix.mp front
      exact ⟨lower.toList, rest, rfl, String.length_toList, (mem_text letterless).mpr rfl⟩
    · cases found
  · intro word rest member
    rw [(mem_text letterless).mp member, String.length_toList]
    refine ⟨lower.length, ?_, Nat.le_refl _⟩
    rw [Pattern.literal, if_pos (List.isPrefixOf_iff_prefix.mpr (List.prefix_append _ _))]

theorem longest_run (same : ∀ c, test c.toLower = check c) :
    Longest (fun cs => some (run check cs)) (Flex.oneOf test)∗ := by
  refine ⟨?_, ?_⟩
  · intro cs n found
    cases Option.some.inj found
    refine ⟨cs.takeWhile check, cs.dropWhile check, List.takeWhile_append_dropWhile.symm, rfl, ?_⟩
    exact (mem_star_oneOf same).mpr fun c present =>
      List.all_eq_true.mp List.all_takeWhile c present
  · intro word rest member
    refine ⟨_, rfl, ?_⟩
    rw [run, List.takeWhile_append_of_pos ((mem_star_oneOf same).mp member), List.length_append]
    exact Nat.le_add_right _ _

theorem longest_spaces : Longest spaces Flex.blanks := longest_run fun _ => isBlank_toLower

-- A pattern that must take something, where all but the empty word remain.
theorem Longest.nonempty {pattern : Pattern} {language solid : Language Char}
    (longest : Longest pattern language)
    (same : ∀ word, word ∈ solid ↔ word ∈ language ∧ word ≠ []) :
    Longest (nonempty pattern) solid := by
  refine ⟨?_, ?_⟩
  · intro cs n found
    obtain ⟨taken, positive⟩ := Option.filter_eq_some_iff.mp found
    obtain ⟨word, rest, rfl, rfl, member⟩ := longest.sound cs n taken
    refine ⟨word, rest, rfl, rfl, (same word).mpr ⟨member, ?_⟩⟩
    exact List.length_pos_iff.mp (of_decide_eq_true positive)
  · intro word rest member
    obtain ⟨inside, some⟩ := (same word).mp member
    obtain ⟨n, found, covers⟩ := longest.complete word rest inside
    refine ⟨n, Option.filter_eq_some_iff.mpr ⟨found, ?_⟩, covers⟩
    exact decide_eq_true (Nat.lt_of_lt_of_le (List.length_pos_iff.mpr some) covers)

theorem nil_notMem_oneOf : [] ∉ Flex.oneOf test := by
  rintro ⟨c, same, _⟩
  cases same

theorem longest_space : Longest (nonempty spaces) (Flex.plus (Flex.oneOf Flex.isBlank)) :=
  longest_spaces.nonempty fun _ => mem_plus nil_notMem_oneOf

theorem escapeEnd_space (member : word ∈ Flex.escapeEnd) : ∀ c ∈ word, isSpace c = true := by
  rcases mem_escapeEnd.mp member with rfl | rfl | ⟨d, rfl, blank⟩
  · exact nofun
  · exact List.forall_mem_cons.mpr ⟨rfl, List.forall_mem_singleton.mpr rfl⟩
  · exact List.forall_mem_singleton.mpr blank

def lineEnding (test : Char → Bool) : Pattern
  | '\r' :: '\n' :: _ => some 2
  | c :: _ => if test c then some 1 else none
  | [] => none

theorem lineEnding_single (other : ∀ behind, c = '\r' → rest = '\n' :: behind → False) :
    lineEnding test (c :: rest) = if test c then some 1 else none := by
  unfold lineEnding
  split
  · exact (other _ (List.cons.inj ‹_›).1 (List.cons.inj ‹_›).2).elim
  · rename_i parts
    obtain ⟨rfl, _⟩ := List.cons.inj parts
    rfl
  · rename_i none
    cases none

theorem longest_lineEnding {language : Language Char}
    (same : ∀ word, word ∈ language ↔ word = ['\r', '\n'] ∨ ∃ c, word = [c] ∧ test c = true) :
    Longest (lineEnding test) language := by
  refine ⟨?_, ?_⟩
  · intro cs n found
    unfold lineEnding at found
    split at found
    · cases Option.some.inj found
      exact ⟨['\r', '\n'], _, rfl, rfl, (same _).mpr (.inl rfl)⟩
    · rename_i c rest _
      obtain ⟨holds, one⟩ := Option.ite_none_right_eq_some.mp found
      exact ⟨[c], rest, rfl, Option.some.inj one, (same _).mpr (.inr ⟨c, rfl, holds⟩)⟩
    · cases found
  · intro word rest member
    rcases (same word).mp member with rfl | ⟨c, rfl, holds⟩
    · exact ⟨2, rfl, Nat.le_refl 2⟩
    · unfold lineEnding
      split
      · exact ⟨2, rfl, Nat.le_succ 1⟩
      · rename_i parts
        obtain rfl := (List.cons.inj parts).1
        exact ⟨1, if_pos holds, Nat.le_refl 1⟩
      · rename_i none
        cases none

theorem longest_nothing : Longest (fun _ => some 0) (1 : Language Char) := by
  refine ⟨?_, ?_⟩
  · intro cs n found
    cases Option.some.inj found
    exact ⟨[], cs, rfl, rfl, rfl⟩
  · intro word rest member
    obtain rfl := (Language.mem_one _).mp member
    exact ⟨0, rfl, Nat.le_refl 0⟩

theorem Longest.optional {pattern : Pattern} {language : Language Char}
    (longest : Longest pattern language) :
    Longest (Pattern.either pattern fun _ => some 0) (Flex.optional language) :=
  longest.either longest_nothing fun _ n _ _ none => Option.some.inj none ▸ Nat.zero_le n

theorem escapeEnd_eq : (fun cs => some (escapeEnd cs)) =
    either (lineEnding isSpace) fun _ => some 0 := by
  funext cs
  unfold escapeEnd either
  split
  · rfl
  · rename_i other
    rw [lineEnding_single other]
    split <;> rfl
  · rfl

theorem longest_escapeEnd : Longest (fun cs => some (escapeEnd cs)) Flex.escapeEnd := by
  rw [escapeEnd_eq]
  refine (longest_lineEnding fun word => ?_).optional
  rw [Language.mem_add, mem_text (by decide), mem_oneOf fun _ => isBlank_toLower]
  rfl

def upTo (most : Nat) (check : Char → Bool) : Pattern := fun cs => some (run check (cs.take most))

theorem longest_upTo (same : ∀ c, test c.toLower = check c) {most : Nat} :
    Longest (upTo most check) (Flex.between 0 most (Flex.oneOf test)) := by
  refine ⟨?_, ?_⟩
  · intro cs n found
    cases Option.some.inj found
    have front := (List.takeWhile_prefix check).trans (List.take_prefix most cs)
    obtain ⟨rest, parts⟩ := front
    refine ⟨(cs.take most).takeWhile check, rest, parts.symm, rfl, ?_⟩
    refine (mem_between_oneOf same).mpr ⟨Nat.zero_le _, ?_, ?_⟩
    · exact (List.takeWhile_prefix check).length_le.trans (List.length_take_le most cs)
    · exact fun c present => List.all_eq_true.mp List.all_takeWhile c present
  · intro word rest member
    obtain ⟨_, few, all⟩ := (mem_between_oneOf same).mp member
    refine ⟨_, rfl, ?_⟩
    rw [List.take_append, List.take_of_length_le few, run, List.takeWhile_append_of_pos all,
      List.length_append]
    exact Nat.le_add_right _ _

theorem mem_between_one {most : Nat} : word ∈ Flex.between 1 most (Flex.oneOf test) ↔
    word ∈ Flex.between 0 most (Flex.oneOf test) ∧ word ≠ [] := by
  rw [mem_between_oneOf fun _ => rfl, mem_between_oneOf fun _ => rfl, ← List.length_pos_iff]
  constructor
  · rintro ⟨some, few, all⟩
    exact ⟨⟨Nat.zero_le _, few, all⟩, some⟩
  · rintro ⟨⟨_, few, all⟩, some⟩
    exact ⟨some, few, all⟩

theorem isHexDigit_of_isSpace (blank : isSpace c = true) : isHexDigit c = false := by
  simp only [isSpace, Bool.or_eq_true, beq_iff_eq] at blank
  rcases blank with (((rfl | rfl) | rfl) | rfl) | rfl <;> decide

theorem longest_behind {pattern : Pattern} {language : Language Char}
    (letterless : isLetterless lower = true) (longest : Longest pattern language) :
    Longest (followedBy (literal lower) pattern) (Flex.text lower * language) :=
  (longest_literal letterless).followedBy longest
    (.of_same_length fun word member => by rw [(mem_text letterless).mp member])

def codeEscape : Pattern := followedBy (literal "\\")
  (followedBy (nonempty (upTo 6 isHexDigit)) fun cs => some (escapeEnd cs))

def selfEscape : Pattern :=
  followedBy (literal "\\") (single fun c => !(isNewline c || isHexDigit c))

theorem behind_backslash {pattern : Pattern} :
    followedBy (literal "\\") pattern ('\\' :: rest) = (pattern rest).map (1 + ·) := rfl

theorem behind_other {pattern : Pattern} (other : c ≠ '\\') :
    followedBy (literal "\\") pattern (c :: rest) = none := by
  simp [followedBy, literal, other.symm]

theorem escape_other (other : c ≠ '\\') : escape (c :: rest) = none := by
  unfold escape
  split
  · exact absurd (List.cons.inj ‹_›).1 other
  · rfl

theorem escape_code {n : Nat} (count : run isHexDigit (rest.take 6) = n + 1) :
    escape ('\\' :: rest) = some (n + 2 + escapeEnd (rest.drop (n + 1))) := by
  simp only [escape, count]

theorem escape_self (letter : isHexDigit c = false) :
    escape ('\\' :: c :: rest) = if isNewline c then none else some 2 := by
  have count : run isHexDigit ((c :: rest).take 6) = 0 := by simp [run, letter]
  simp only [escape, count]

theorem escape_end : escape ['\\'] = none := rfl

theorem nonempty_upTo {most : Nat} :
    nonempty (upTo most check) rest =
      if run check (rest.take most) = 0 then none else some (run check (rest.take most)) := by
  cases count : run check (rest.take most) with
  | zero => simp [nonempty, upTo, count]
  | succ n => simp [nonempty, upTo, count]

theorem letter_of_run {most : Nat} (count : run isHexDigit ((c :: rest).take (most + 1)) = 0) :
    isHexDigit c = false := by
  apply Bool.eq_false_iff.mpr
  intro digit
  simp [run, digit] at count

theorem escape_eq : escape = either codeEscape selfEscape := by
  funext cs
  cases cs with
  | nil => rfl
  | cons d rest =>
      unfold either codeEscape selfEscape
      by_cases slash : d = '\\'
      · subst slash
        rw [behind_backslash, behind_backslash, followedBy, nonempty_upTo]
        cases count : run isHexDigit (rest.take 6) with
        | succ n =>
            rw [escape_code count, if_neg (Nat.succ_ne_zero n)]
            simp only [Option.map_some, Option.some_or, Option.some.injEq]
            omega
        | zero =>
            rw [if_pos rfl]
            cases rest with
            | nil => rfl
            | cons c behind =>
                have letter := letter_of_run count
                rw [escape_self letter]
                cases newline : isNewline c with
                | false => simp [single, newline, letter]
                | true => simp [single, newline]
      · rw [behind_other slash, behind_other slash, escape_other slash]
        rfl

theorem longest_codeEscape : Longest codeEscape Flex.unicode := by
  rw [Flex.unicode, mul_assoc]
  refine longest_behind (by decide) ((longest_upTo fun _ => isHex_toLower).nonempty
    (fun _ => mem_between_one) |>.followedBy longest_escapeEnd (.of_heads ?_))
  intro early c late word _ longer member
  obtain ⟨_, _, all⟩ := (mem_between_oneOf fun _ => isHex_toLower).mp longer
  have digit := all c (by simp)
  rw [isHexDigit_of_isSpace (escapeEnd_space member c List.mem_cons_self)] at digit
  cases digit

theorem mem_self : word ∈ Flex.noneOf (fun c => Flex.isLineEnd c || Flex.isHex c) ↔
    ∃ c, word = [c] ∧ (!(isNewline c || isHexDigit c)) = true :=
  mem_oneOf fun c => by simp only [isLineEnd_toLower, isHex_toLower]

theorem longest_selfEscape : Longest selfEscape
    (Flex.text "\\" * Flex.noneOf fun c => Flex.isLineEnd c || Flex.isHex c) :=
  longest_behind (by decide) (.single fun _ => mem_self)

theorem escapes_apart {cs : List Char} {n m : Nat} (one : codeEscape cs = some n)
    (two : selfEscape cs = some m) : False := by
  cases cs with
  | nil => cases one
  | cons d rest =>
      by_cases slash : d = '\\'
      · subst slash
        obtain ⟨_, itself, _⟩ := Option.map_eq_some_iff.mp (behind_backslash.symm.trans two)
        obtain ⟨c, behind, rfl, holds, _⟩ := single_eq_some itself
        have letter : isHexDigit c = false := by
          simp only [Bool.not_eq_true', Bool.or_eq_false_iff] at holds
          exact holds.2
        unfold codeEscape at one
        rw [behind_backslash, followedBy, nonempty_upTo, if_pos (by simp [run, letter])] at one
        cases one
      · rw [codeEscape, behind_other slash] at one
        cases one

theorem longest_escape : Longest escape Flex.escape := by
  rw [escape_eq]
  exact longest_codeEscape.either longest_selfEscape fun _ _ _ one two => (escapes_apart one two).elim

end CssSelectors.Pattern
