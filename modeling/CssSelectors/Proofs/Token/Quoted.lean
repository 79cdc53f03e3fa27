import CssSelectors.Proofs.Token.Names

open scoped Computability

-- Texts in quotation marks, and ones that are left open.
namespace CssSelectors.Pattern

variable {c : Char} {word rest : List Char} {check : Char → Bool}

def isQuotable (mark c : Char) : Bool := !(isNewline c || c == '\\' || c == mark)

def lineBreak : Pattern := followedBy (literal "\\") (lineEnding isNewline)

theorem mem_nl : word ∈ Flex.nl ↔ word = ['\r', '\n'] ∨ ∃ c, word = [c] ∧ isNewline c = true := by
  rw [Flex.nl, Language.mem_add, Language.mem_add, Language.mem_add, mem_text (by decide),
    mem_text (by decide), mem_text (by decide), mem_text (by decide)]
  constructor
  · rintro (((rfl | rfl) | rfl) | rfl)
    · exact .inr ⟨'\n', rfl, rfl⟩
    · exact .inl rfl
    · exact .inr ⟨'\r', rfl, rfl⟩
    · exact .inr ⟨'\x0c', rfl, rfl⟩
  · rintro (rfl | ⟨c, rfl, newline⟩)
    · exact .inl (.inl (.inr rfl))
    · simp only [isNewline, Bool.or_eq_true, beq_iff_eq] at newline
      rcases newline with (rfl | rfl) | rfl
      · exact .inl (.inl (.inl rfl))
      · exact .inl (.inr rfl)
      · exact .inr rfl

theorem longest_lineBreak : Longest lineBreak (Flex.text "\\" * Flex.nl) :=
  longest_behind (by decide) (longest_lineEnding fun _ => mem_nl)

theorem lineBreak_backslash {cs : List Char} :
    lineBreak ('\\' :: cs) = (lineEnding isNewline cs).map (1 + ·) := behind_backslash

theorem lineBreak_other (other : c ≠ '\\') : lineBreak (c :: rest) = none := behind_other other

theorem quotedUnit_eq {mark : Char} :
    quotedUnit mark = either (either (single (isQuotable mark)) lineBreak) escape := by
  funext cs
  unfold quotedUnit either
  split
  · rfl
  · rename_i c rest other
    rw [lineBreak_backslash, lineEnding_single other]
    split <;> rfl
  · rename_i c rest pairless other
    by_cases slash : c = '\\'
    · subst slash
      cases rest with
      | nil => simp [single, isQuotable, lineBreak_backslash, lineEnding, escape_end]
      | cons d rest => exact absurd rfl (other d rest rfl)
    · rw [lineBreak_other slash, escape_other slash, Option.or_none, Option.or_none]
      cases ends : c == mark
      · cases newline : isNewline c
        · simp [single, isQuotable, ends, newline, slash]
        · simp [single, isQuotable, newline]
      · simp [single, isQuotable, ends]
  · rfl

theorem quotable_backslash {mark : Char} : isQuotable mark '\\' = false := rfl

theorem mem_quotable {mark : Char} (letterless : mark.isAlpha = false) :
    word ∈ Flex.noneOf (fun c => Flex.isLineEnd c || c == '\\' || c == mark) ↔
      ∃ c, word = [c] ∧ isQuotable mark c = true := by
  refine mem_oneOf fun c => ?_
  have ends : (c.toLower == mark) = (c == mark) := by
    simp only [Bool.beq_eq_decide_eq, toLower_eq_iff letterless]
  have slash : (c.toLower == '\\') = (c == '\\') := by
    simp only [Bool.beq_eq_decide_eq, toLower_eq_iff (show '\\'.isAlpha = false from rfl)]
  simp only [isLineEnd_toLower, ends, slash]
  rfl

theorem mem_piece {mark : Char} (letterless : mark.isAlpha = false) : word ∈ Flex.piece mark ↔
    (∃ c, word = [c] ∧ isQuotable mark c = true) ∨
      (∃ tail, word = '\\' :: tail ∧ tail ∈ Flex.nl) ∨ word ∈ Flex.escape := by
  have broken : word ∈ Flex.text "\\" * Flex.nl ↔ ∃ tail, word = '\\' :: tail ∧ tail ∈ Flex.nl := by
    constructor
    · intro member
      obtain ⟨front, one, tail, newline, rfl⟩ := Language.mem_mul.mp member
      obtain rfl := (mem_text (by decide)).mp one
      exact ⟨tail, rfl, newline⟩
    · rintro ⟨tail, rfl, newline⟩
      exact Language.append_mem_mul ((mem_text (by decide)).mpr rfl) newline
  rw [Flex.piece, Language.mem_add, Language.mem_add, mem_quotable letterless, broken, or_assoc]

theorem isSpace_of_isNewline (newline : isNewline c = true) : isSpace c = true := by
  simp only [isNewline, isSpace, Bool.or_eq_true] at newline ⊢
  tauto

theorem lineEnding_newline {cs : List Char} {n : Nat} (found : lineEnding isNewline cs = some n) :
    ∃ c rest, cs = c :: rest ∧ isNewline c = true := by
  obtain ⟨word, rest, rfl, _, member⟩ := (longest_lineEnding fun _ => mem_nl).sound cs n found
  rcases mem_nl.mp member with rfl | ⟨c, rfl, newline⟩
  · exact ⟨'\r', '\n' :: rest, rfl, rfl⟩
  · exact ⟨c, rest, rfl, newline⟩

theorem pieces_piece {mark : Char} (letterless : mark.isAlpha = false) :
    Pieces (Flex.piece mark) := by
  refine ⟨?_⟩
  intro word member
  rcases (mem_piece letterless).mp member with ⟨c, rfl, holds⟩ | ⟨tail, rfl, newline⟩ | escaped
  · exact .inl ⟨c, rfl, ne_backslash quotable_backslash holds⟩
  · rcases mem_nl.mp newline with rfl | ⟨c, rfl, _⟩
    · exact .inr ⟨'\r', ['\n'], rfl, List.forall_mem_singleton.mpr rfl⟩
    · exact .inr ⟨c, [], rfl, nofun⟩
  · exact .inr (escape_shape escaped)

theorem longest_quotedUnit {mark : Char} (letterless : mark.isAlpha = false) :
    Longest (quotedUnit mark) (Flex.piece mark) := by
  rw [quotedUnit_eq]
  refine .either (.either (.single fun word => mem_quotable letterless) longest_lineBreak ?_)
    longest_escape ?_
  · intro cs n m one two
    obtain ⟨c, rest, rfl, holds, rfl⟩ := single_eq_some one
    rw [lineBreak_other (ne_backslash quotable_backslash holds)] at two
    cases two
  · intro cs n m one two
    rcases Option.or_eq_some_iff.mp one with one | ⟨_, one⟩
    · exact single_or_escape quotable_backslash one two
    · -- The character behind the backslash is a newline.
      obtain ⟨rest, rfl⟩ := escape_eq_some two
      rw [lineBreak_backslash] at one
      obtain ⟨more, newline, _⟩ := Option.map_eq_some_iff.mp one
      obtain ⟨c, behind, rfl, ends⟩ := lineEnding_newline newline
      rw [escape_self (isHexDigit_of_isSpace (isSpace_of_isNewline ends)), if_pos ends] at two
      cases two

theorem longest_body {mark : Char} (letterless : mark.isAlpha = false) :
    Longest (fun cs => some (greedy (quotedUnit mark) cs)) (Flex.body mark) :=
  (longest_quotedUnit letterless).star (pieces_piece letterless)

def opened (mark : Char) : Pattern :=
  followedBy (single (· == mark)) fun cs => some (greedy (quotedUnit mark) cs)

def closed (mark : Char) : Pattern :=
  followedBy (single (· == mark))
    (followedBy (fun cs => some (greedy (quotedUnit mark) cs)) (single (· == mark)))

theorem mem_mark {mark : Char} {quote : String} (one : quote.toList = [mark])
    (letterless : mark.isAlpha = false) :
    word ∈ Flex.text quote ↔ ∃ c, word = [c] ∧ (c == mark) = true := by
  have plain : isLetterless quote = true := by
    rw [isLetterless, one]
    simp [letterless]
  rw [mem_text plain, one]
  simp

theorem mark_length {mark : Char} {quote : String} (one : quote.toList = [mark])
    (letterless : mark.isAlpha = false) (member : word ∈ Flex.text quote) : word.length = 1 := by
  obtain ⟨c, rfl, _⟩ := (mem_mark one letterless).mp member
  rfl

theorem piece_head {mark : Char} (letterless : mark.isAlpha = false)
    (member : c :: rest ∈ Flex.piece mark) : isQuotable mark c = true ∨ c = '\\' := by
  rcases (mem_piece letterless).mp member with ⟨d, same, holds⟩ | ⟨tail, same, _⟩ | escaped
  · cases same
    exact .inl holds
  · exact .inr (List.cons.inj same).1
  · obtain ⟨d, tail, same, _⟩ := escape_shape escaped
    exact .inr (List.cons.inj same).1

theorem mark_notQuotable {mark : Char} : isQuotable mark mark = false := by
  simp [isQuotable]

theorem longest_opened {mark : Char} {quote : String} (one : quote.toList = [mark])
    (letterless : mark.isAlpha = false) :
    Longest (opened mark) (Flex.text quote * Flex.body mark) :=
  (Longest.single fun _ => mem_mark one letterless).followedBy (longest_body letterless)
    (.of_same_length fun _ => mark_length one letterless)

theorem body_mark {mark : Char} {late : List Char} (letterless : mark.isAlpha = false)
    (solid : isTrailing mark = false) (other : mark ≠ '\\') (short : word ∈ Flex.body mark) :
    word ++ mark :: late ∉ Flex.body mark := by
  intro long
  rcases (pieces_piece letterless).continues short long with
    none | ⟨d, tail, same, trailing | ⟨piece, begun⟩⟩
  · cases none
  · cases same
    rw [solid] at trailing
    cases trailing
  · cases same
    rcases piece_head letterless begun with holds | slash
    · rw [mark_notQuotable] at holds
      cases holds
    · exact other slash

theorem longest_closed {mark : Char} {quote : String} (one : quote.toList = [mark])
    (letterless : mark.isAlpha = false) (solid : isTrailing mark = false) (other : mark ≠ '\\') :
    Longest (closed mark) (Flex.text quote * (Flex.body mark * Flex.text quote)) := by
  have marked : ∀ word, word ∈ Flex.text quote ↔ ∃ c, word = [c] ∧ (c == mark) = true :=
    fun _ => mem_mark one letterless
  refine (Longest.single marked).followedBy
    ((longest_body letterless).followedBy (.single marked) (.of_heads ?_))
    (.of_same_length fun _ => mark_length one letterless)
  intro early c late word shorter longer member
  obtain ⟨d, same, ends⟩ := (marked _).mp member
  obtain rfl : c = mark := (List.cons.inj same).1.trans (beq_iff_eq.mp ends)
  exact body_mark letterless solid other shorter longer

theorem quoted_mark {mark : Char} (marked : (mark == '"' || mark == '\'') = true) :
    quoted (mark :: rest) = some (greedy (quotedUnit mark) rest + 1,
      (rest.drop (greedy (quotedUnit mark) rest)).head? == some mark) :=
  if_pos marked

theorem quoted_other (other : (c == '"' || c == '\'') = false) : quoted (c :: rest) = none :=
  if_neg (by simp [other])

theorem opened_mark {mark : Char} :
    opened mark (mark :: rest) = some (greedy (quotedUnit mark) rest + 1) := by
  simp [opened, followedBy, single, Nat.add_comm]

theorem opened_other {mark : Char} (other : c ≠ mark) : opened mark (c :: rest) = none := by
  simp [opened, followedBy, single, other]

theorem closed_mark {mark : Char} : closed mark (mark :: rest) =
    if (rest.drop (greedy (quotedUnit mark) rest)).head? == some mark then
      some (greedy (quotedUnit mark) rest + 1 + 1) else none := by
  unfold closed followedBy
  simp only [single, beq_self_eq_true, if_true, List.drop_one, List.tail_cons]
  cases rest.drop (greedy (quotedUnit mark) rest) with
  | nil => rfl
  | cons c behind =>
      by_cases ends : c = mark
      · simp [ends, Nat.add_comm]
      · simp [ends]

theorem closed_other {mark : Char} (other : c ≠ mark) : closed mark (c :: rest) = none := by
  simp [closed, followedBy, single, other]

theorem unclosed_eq : unclosed = either (opened '"') (opened '\'') := by
  funext cs
  cases cs with
  | nil => rfl
  | cons c rest =>
      unfold unclosed either
      by_cases double : c = '"'
      · subst double
        rw [quoted_mark rfl, opened_mark]
        rfl
      · by_cases single : c = '\''
        · subst single
          rw [quoted_mark rfl, opened_mark, opened_other double]
          rfl
        · rw [quoted_other (by simp [double, single]), opened_other double, opened_other single]
          rfl

theorem string_eq : string = either (closed '"') (closed '\'') := by
  funext cs
  cases cs with
  | nil => rfl
  | cons c rest =>
      unfold string either
      by_cases double : c = '"'
      · subst double
        rw [quoted_mark rfl, closed_mark, closed_other (by decide)]
        cases (rest.drop (greedy (quotedUnit '"') rest)).head? == some '"' with
        | false => rfl
        | true => rfl
      · by_cases single : c = '\''
        · subst single
          rw [quoted_mark rfl, closed_mark, closed_other double]
          cases (rest.drop (greedy (quotedUnit '\'') rest)).head? == some '\'' with
          | false => rfl
          | true => rfl
        · rw [quoted_other (by simp [double, single]), closed_other double, closed_other single]
          rfl

theorem marks_apart {first second : Pattern} {cs : List Char} {n m : Nat}
    (one : followedBy (single (· == '"')) first cs = some n)
    (two : followedBy (single (· == '\'')) second cs = some m) : m ≤ n := by
  cases cs with
  | nil => cases one
  | cons c rest =>
      by_cases double : c = '"'
      · subst double
        cases two
      · simp [followedBy, single, double] at one

theorem longest_unclosed : Longest unclosed Flex.invalid := by
  rw [unclosed_eq]
  exact (longest_opened rfl rfl).either (longest_opened rfl rfl) fun _ _ _ => marks_apart

theorem longest_string : Longest string Flex.string := by
  rw [string_eq]
  exact (longest_closed rfl rfl rfl (by decide)).either (longest_closed rfl rfl rfl (by decide))
    fun _ _ _ => marks_apart

end CssSelectors.Pattern
