import CssSelectors.Proofs.Token.Macros

open scoped Computability

-- Names, functions and numbers: each pattern finds the longest word of its language.
namespace CssSelectors.Pattern

variable {c : Char} {word rest : List Char} {check : Char → Bool}

theorem escape_eq_some {cs : List Char} {n : Nat} (found : escape cs = some n) :
    ∃ rest, cs = '\\' :: rest := by
  obtain ⟨word, rest, rfl, _, member⟩ := longest_escape.sound cs n found
  rcases mem_escape.mp member with ⟨digits, ending, rfl, _⟩ | ⟨c, rfl, _⟩
  · exact ⟨digits ++ ending ++ rest, rfl⟩
  · exact ⟨c :: rest, rfl⟩

-- Escapes beside a class without the backslash: never do both match.
theorem single_or_escape (plain : check '\\' = false) {cs : List Char} {n m : Nat}
    (one : single check cs = some n) (two : escape cs = some m) : m ≤ n := by
  obtain ⟨c, rest, rfl, holds, rfl⟩ := single_eq_some one
  obtain ⟨others, same⟩ := escape_eq_some two
  rw [(List.cons.inj same).1, plain] at holds
  cases holds

theorem nameStart_eq : nameStart = either (single isNameStart) escape := by
  funext cs
  cases cs with
  | nil => rfl
  | cons c rest =>
      rw [nameStart, either, single]
      split <;> rfl

theorem nameChar_eq : nameChar = either (single isNameChar) escape := by
  funext cs
  cases cs with
  | nil => rfl
  | cons c rest =>
      rw [nameChar, either, single]
      split <;> rfl

theorem mem_union_oneOf {left right check : Char → Bool}
    (same : ∀ c, check c = true ↔ left c.toLower = true ∨ right c.toLower = true) :
    word ∈ Flex.oneOf left + Flex.oneOf right ↔ ∃ c, word = [c] ∧ check c = true := by
  constructor
  · rintro (⟨c, rfl, holds⟩ | ⟨c, rfl, holds⟩)
    · exact ⟨c, rfl, (same c).mpr (.inl holds)⟩
    · exact ⟨c, rfl, (same c).mpr (.inr holds)⟩
  · rintro ⟨c, rfl, holds⟩
    rcases (same c).mp holds with holds | holds
    · exact .inl ⟨c, rfl, holds⟩
    · exact .inr ⟨c, rfl, holds⟩

theorem mem_nmstart : word ∈ Flex.nmstart ↔
    (∃ c, word = [c] ∧ isNameStart c = true) ∨ word ∈ Flex.escape :=
  or_congr (mem_union_oneOf fun c => by rw [isNameStart_iff, decide_eq_true_eq]) Iff.rfl

theorem mem_nmchar : word ∈ Flex.nmchar ↔
    (∃ c, word = [c] ∧ isNameChar c = true) ∨ word ∈ Flex.escape :=
  or_congr (mem_union_oneOf fun c => by rw [isNameChar_iff, decide_eq_true_eq]) Iff.rfl

theorem longest_nameStart : Longest nameStart Flex.nmstart := by
  rw [nameStart_eq]
  refine .either (.single fun word => mem_union_oneOf fun c => ?_) longest_escape
    fun _ _ _ => single_or_escape rfl
  rw [isNameStart_iff, decide_eq_true_eq]

theorem longest_nameChar : Longest nameChar Flex.nmchar := by
  rw [nameChar_eq]
  refine .either (.single fun word => mem_union_oneOf fun c => ?_) longest_escape
    fun _ _ _ => single_or_escape rfl
  rw [isNameChar_iff, decide_eq_true_eq]

theorem isNameChar_of_isNameStart (start : isNameStart c = true) : isNameChar c = true := by
  simp only [isNameStart, isNameChar, Char.isAlphanum, Bool.or_eq_true] at start ⊢
  tauto

theorem nmchar_of_nmstart (word : List Char) (member : word ∈ Flex.nmstart) :
    word ∈ Flex.nmchar := by
  apply mem_nmchar.mpr
  rcases mem_nmstart.mp member with ⟨c, rfl, start⟩ | escaped
  · exact .inl ⟨c, rfl, isNameChar_of_isNameStart start⟩
  · exact .inr escaped

theorem escape_shape (member : word ∈ Flex.escape) :
    ∃ c tail, word = '\\' :: c :: tail ∧ ∀ d ∈ tail, isTrailing d = true := by
  rcases mem_escape.mp member with ⟨digits, ending, rfl, some, _, all, last⟩ | ⟨c, rfl, _⟩
  · cases digits with
    | nil => exact absurd rfl some
    | cons c digits =>
        refine ⟨c, digits ++ ending, rfl, ?_⟩
        intro d present
        rcases List.mem_append.mp present with digit | blank
        · simp [isTrailing, all d (List.mem_cons_of_mem _ digit)]
        · simp [isTrailing, escapeEnd_space last d blank]
  · exact ⟨c, [], rfl, nofun⟩

theorem ne_backslash (plain : check '\\' = false) (holds : check c = true) : c ≠ '\\' := by
  rintro rfl
  rw [plain] at holds
  cases holds

theorem pieces_nmchar : Pieces Flex.nmchar := by
  refine ⟨?_⟩
  intro word member
  rcases mem_nmchar.mp member with ⟨c, rfl, holds⟩ | escaped
  · exact .inl ⟨c, rfl, ne_backslash rfl holds⟩
  · exact .inr (escape_shape escaped)

theorem longest_nameTail : Longest nameTail Flex.nmchar∗ := longest_nameChar.star pieces_nmchar

theorem longest_name : Longest name Flex.name :=
  longest_nameTail.nonempty fun _ => mem_plus fun member => pieces_nmchar.solid member rfl

theorem nmchar_head (member : c :: rest ∈ Flex.nmchar) : isNameChar c = true ∨ c = '\\' := by
  rcases mem_nmchar.mp member with ⟨d, same, holds⟩ | escaped
  · cases same
    exact .inl holds
  · obtain ⟨d, tail, same, _⟩ := escape_shape escaped
    exact .inr (List.cons.inj same).1

theorem nmstart_head (member : c :: rest ∈ Flex.nmstart) : isNameStart c = true ∨ c = '\\' := by
  rcases mem_nmstart.mp member with ⟨d, same, holds⟩ | escaped
  · cases same
    exact .inl holds
  · obtain ⟨d, tail, same, _⟩ := escape_shape escaped
    exact .inr (List.cons.inj same).1

theorem ident_eq : ident = followedBy (either (literal "-") fun _ => some 0)
    (followedBy nameStart nameTail) := by
  funext cs
  unfold ident
  split
  · rfl
  · rename_i other
    cases cs with
    | nil => rfl
    | cons c rest =>
        have plain : c ≠ '-' := fun same => other rest (by rw [same])
        simp [followedBy, either, literal, plain.symm]

theorem mem_dash : word ∈ Flex.optional (Flex.text "-") ↔ word = ['-'] ∨ word = [] := by
  rw [Flex.optional, Language.mem_add, Language.mem_one, mem_text (by decide)]
  rfl

theorem head_mul {left right : Language Char} (member : c :: rest ∈ left * right)
    (solid : [] ∉ left) : ∃ tail, c :: tail ∈ left := by
  obtain ⟨first, one, others, _, same⟩ := Language.mem_mul.mp member
  cases first with
  | nil => exact absurd one solid
  | cons d first =>
      obtain rfl := (List.cons.inj same).1
      exact ⟨first, one⟩

theorem nil_notMem_nmstart : [] ∉ Flex.nmstart :=
  fun member => pieces_nmchar.solid (nmchar_of_nmstart _ member) rfl

theorem longest_ident : Longest ident Flex.ident := by
  rw [ident_eq]
  refine (longest_literal (by decide)).optional.followedBy (longest_nameStart.followedBy longest_nameTail ?_) ?_
  · exact pieces_nmchar.yields.of_subset nmchar_of_nmstart
  · apply Yields.of_heads
    intro early c late word _ longer member
    have dash : c = '-' := by
      rcases mem_dash.mp longer with same | same
      · cases early with
        | nil => exact (List.cons.inj same).1
        | cons d early => exact absurd (List.cons.inj same).2 (by simp)
      · exact absurd same (by simp)
    subst dash
    obtain ⟨tail, first⟩ := head_mul member nil_notMem_nmstart
    rcases nmstart_head first with start | same
    · cases start
    · cases same

theorem nmchar_of_ident (member : word ∈ Flex.ident) : word ∈ Flex.nmchar∗ := by
  obtain ⟨dash, front, others, more, rfl⟩ := Language.mem_mul.mp member
  obtain ⟨start, first, tail, rest, rfl⟩ := Language.mem_mul.mp more
  have named := star_cons (nmchar_of_nmstart _ first) rest
  rcases mem_dash.mp front with rfl | rfl
  · exact star_cons (mem_nmchar.mpr (.inl ⟨'-', rfl, rfl⟩)) named
  · exact named

-- A parenthesis is no part of a name, nor is anything behind it.
theorem ident_closed (named : word ∈ Flex.ident) : word ++ '(' :: rest ∉ Flex.ident := by
  intro longer
  rcases pieces_nmchar.continues (nmchar_of_ident named) (nmchar_of_ident longer) with
    none | ⟨d, tail, same, trailing | ⟨piece, begun⟩⟩
  · cases none
  · cases same
    cases trailing
  · cases same
    rcases nmchar_head begun with holds | slash
    · cases holds
    · cases slash

theorem longest_function : Longest (followedBy ident (literal "(")) (Flex.ident * Flex.text "(") := by
  refine longest_ident.followedBy (longest_literal (by decide)) (.of_heads ?_)
  intro early c late word shorter longer member
  obtain ⟨rfl, _⟩ := List.cons.inj ((mem_text (by decide)).mp member)
  exact ident_closed shorter longer

theorem mem_function : word ∈ Flex.ident * Flex.text "(" ↔ ∃ named ∈ Flex.ident, word = named ++ ['('] := by
  rw [Language.mem_mul]
  constructor
  · rintro ⟨named, member, last, one, rfl⟩
    exact ⟨named, member, by rw [(mem_text (by decide)).mp one]; rfl⟩
  · rintro ⟨named, member, rfl⟩
    exact ⟨named, member, _, (mem_text (by decide)).mpr rfl, rfl⟩

theorem longest_delimiter {lower : String} (letterless : isLetterless lower = true)
    (solid : (lower.toList.all fun c => !isSpace c) = true) :
    Longest (followedBy spaces (literal lower)) (Flex.blanks * Flex.text lower) := by
  refine longest_spaces.followedBy (longest_literal letterless) (.of_heads ?_)
  intro early c late word _ longer member
  have blank := (mem_star_oneOf fun _ => isBlank_toLower).mp longer c (by simp)
  have other := List.all_eq_true.mp solid c ((mem_text letterless).mp member ▸ List.mem_cons_self)
  rw [blank] at other
  cases other

-- Numbers: a fraction is longer than the digits before its point.

def digits : Pattern := fun cs => some (run Char.isDigit cs)

def fraction : Pattern := followedBy digits (followedBy (literal ".") (nonempty digits))

theorem longest_digits : Longest digits Flex.digit∗ := longest_run fun _ => isDigit_toLower

theorem longest_whole : Longest (nonempty digits) (Flex.plus Flex.digit) :=
  longest_digits.nonempty fun _ => mem_plus nil_notMem_oneOf

theorem mem_digits : word ∈ Flex.digit∗ ↔ ∀ c ∈ word, c.isDigit = true :=
  mem_star_oneOf fun _ => isDigit_toLower

theorem longest_fraction :
    Longest fraction (Flex.digit∗ * (Flex.text "." * Flex.plus Flex.digit)) := by
  refine longest_digits.followedBy (longest_behind (by decide) longest_whole) (.of_heads ?_)
  intro early c late word _ longer member
  have digit := mem_digits.mp longer c (by simp)
  obtain ⟨tail, point⟩ := head_mul member fun empty => by cases (mem_text (by decide)).mp empty
  obtain ⟨rfl, _⟩ := List.cons.inj ((mem_text (by decide)).mp point)
  cases digit

theorem nonempty_digits {cs : List Char} : nonempty digits cs =
    if run Char.isDigit cs = 0 then none else some (run Char.isDigit cs) := by
  cases count : run Char.isDigit cs with
  | zero => simp [nonempty, digits, count]
  | succ n => simp [nonempty, digits, count]

theorem fraction_point {cs : List Char} (point : cs.drop (run Char.isDigit cs) = '.' :: rest) :
    fraction cs = (nonempty digits rest).map fun n => run Char.isDigit cs + (1 + n) := by
  have one : literal "." ('.' :: rest) = some 1 := rfl
  simp only [fraction, followedBy, digits, point, one, Option.map_map, List.drop_one, List.tail_cons]
  rfl

theorem fraction_pointless {cs : List Char}
    (other : ∀ rest, cs.drop (run Char.isDigit cs) ≠ '.' :: rest) : fraction cs = none := by
  have missed : literal "." (cs.drop (run Char.isDigit cs)) = none := by
    apply if_neg
    intro front
    obtain ⟨rest, same⟩ := List.isPrefixOf_iff_prefix.mp front
    exact other rest same.symm
  simp [fraction, followedBy, digits, missed]

theorem number_eq : number = either fraction (nonempty digits) := by
  funext cs
  unfold number either
  simp only
  split
  · rename_i rest point
    rw [fraction_point point, nonempty_digits, nonempty_digits]
    cases run Char.isDigit rest with
    | zero => rfl
    | succ n => simp [Nat.add_assoc, Nat.add_comm]
  · rename_i other
    rw [fraction_pointless other, nonempty_digits]
    rfl

theorem longest_number : Longest number Flex.num := by
  rw [number_eq, Flex.num, add_comm]
  apply longest_fraction.either longest_whole
  intro cs n m one two
  rw [nonempty_digits] at two
  cases (Option.ite_none_left_eq_some.mp two).2
  unfold fraction followedBy digits at one
  obtain ⟨more, _, rfl⟩ := Option.map_eq_some_iff.mp one
  exact Nat.le_add_right _ _

theorem mem_num (member : word ∈ Flex.num) : ∀ c ∈ word, c.isDigit = true ∨ c = '.' := by
  intro c present
  rcases member with whole | parts
  · exact .inl (mem_digits.mp ((mem_plus nil_notMem_oneOf).mp whole).1 c present)
  · obtain ⟨front, before, others, more, rfl⟩ := Language.mem_mul.mp parts
    obtain ⟨point, dot, behind, after, rfl⟩ := Language.mem_mul.mp more
    rcases List.mem_append.mp present with early | late
    · exact .inl (mem_digits.mp before c early)
    · rcases List.mem_append.mp late with middle | late
      · rw [(mem_text (by decide)).mp dot] at middle
        exact .inr (List.mem_singleton.mp middle)
      · exact .inl (mem_digits.mp ((mem_plus nil_notMem_oneOf).mp after).1 c late)

theorem longest_percentage :
    Longest (followedBy number (literal "%")) (Flex.num * Flex.text "%") := by
  refine longest_number.followedBy (longest_literal (by decide)) (.of_heads ?_)
  intro early c late word _ longer member
  have percent : c = '%' := (List.cons.inj ((mem_text (by decide)).mp member)).1
  subst percent
  rcases mem_num longer '%' (by simp) with digit | point
  · cases digit
  · cases point

theorem ident_head (member : c :: rest ∈ Flex.ident) : c = '-' ∨ isNameStart c = true ∨ c = '\\' := by
  obtain ⟨dash, front, others, more, same⟩ := Language.mem_mul.mp member
  rcases mem_dash.mp front with rfl | rfl
  · exact .inl (List.cons.inj same).1.symm
  · obtain rfl : others = c :: rest := same
    obtain ⟨tail, first⟩ := head_mul more nil_notMem_nmstart
    exact .inr (nmstart_head first)

theorem isNameStart_digit (digit : c.isDigit = true) : isNameStart c = false := by
  apply Bool.eq_false_iff.mpr
  intro start
  simp only [isNameStart, isNonAscii, Char.isDigit_iff_toNat, Bool.or_eq_true, beq_iff_eq,
    decide_eq_true_eq, isAlpha_iff, char_eq_iff, Char.reduceToNat] at digit start
  omega

theorem longest_dimension : Longest (followedBy number ident) (Flex.num * Flex.ident) := by
  refine longest_number.followedBy longest_ident (.of_heads ?_)
  intro early c late word _ longer member
  rcases mem_num longer c (by simp) with digit | rfl
  · rcases ident_head member with rfl | start | rfl
    · cases digit
    · rw [isNameStart_digit digit] at start
      cases start
    · cases digit
  · rcases ident_head member with same | start | same
    · cases same
    · cases start
    · cases same

end CssSelectors.Pattern
