import CssSelectors.Proofs.Token.Seam

open scoped Computability

-- Where names, quoted texts and marks end that stand between brackets. Of the white space behind it a
-- name takes only what ends its last escape, and a tilde takes all that is before it.
namespace CssSelectors

open Pattern

variable {word blank rest more cs : List Char} {c mark : Char} {index : Nat} {name : Symbol}

-- Where a rule takes a word, the token at the front is a symbol that begins with it.
theorem Flex.Takes.goes_on (takes : Flex.Takes scannerRules cs index name word) :
    ∃ place symbol more, Flex.Takes scannerRules cs place symbol (word ++ more) ∧
      ∀ other kind lexeme, Flex.Takes scannerRules cs other kind lexeme →
        lexeme.length < (word ++ more).length ∨ (lexeme.length = (word ++ more).length ∧ place ≤ other) := by
  have something : cs ≠ [] := by
    rintro rfl
    exact takes.solid (List.prefix_nil.mp takes.front)
  obtain ⟨token, behind, gives, _⟩ := Token.exists_gives something
  cases gives with
  | literal first none => exact absurd takes (none _ _ _)
  | @symbol place symbol lexeme longest best =>
      have enough : word.length ≤ lexeme.length := by
        have within := best _ _ _ takes
        omega
      obtain ⟨more, rfl⟩ := List.prefix_of_prefix_length_le takes.front longest.front enough
      exact ⟨place, symbol, more, longest, best⟩

-- A name goes on into white space, and not over a mark behind it.
theorem names_within (member : word ++ more ∈ Flex.nmchar∗) (settled : pending word = false)
    (spaces : ∀ c ∈ blank, isSpace c = true) (outside : isOutside mark = true)
    (part : more <+: blank ++ mark :: rest) : more <+: blank := by
  rcases List.prefix_or_prefix_of_prefix part (List.prefix_append blank _) with inside | ⟨late, rfl⟩
  · exact inside
  · cases late with
    | nil => rw [List.append_nil]
    | cons d late =>
        obtain rfl := head_eq_of_front ((List.prefix_append_right_inj blank).mp part)
        rw [← List.append_assoc] at member
        have escaped := (guarded_names outside member).inside (word ++ blank) late rfl
        rw [pending_append settled, pending_blank spaces] at escaped
        cases escaped

-- No function begins with a name that has white space or another mark behind it.
theorem function_apart (named : word ∈ Flex.ident) (spaces : ∀ c ∈ blank, isSpace c = true)
    (outside : isOutside mark = true) (unopened : mark ≠ '(') (part : more <+: blank ++ mark :: rest) :
    word ++ more ∉ Flex.ident * Flex.text "(" := by
  intro member
  have settled := settled_names (nmchar_of_ident named)
  obtain ⟨front, called, parts⟩ := mem_function.mp member
  rcases append_eq_concat parts with ⟨rfl, rfl⟩ | ⟨init, rfl, rfl⟩
  · exact ident_closed called named
  · have shorter : init <+: blank ++ mark :: rest := (List.prefix_append init _).trans part
    obtain ⟨left, rfl⟩ := names_within (nmchar_of_ident called) settled spaces outside shorter
    rw [List.append_assoc, List.prefix_append_right_inj] at part
    cases left with
    | nil => exact unopened (head_eq_of_front part).symm
    | cons d left =>
        obtain rfl := head_eq_of_front part
        cases spaces '(' (by simp)

-- What begins with a name is a name or a function.
theorem Flex.Takes.names (takes : Flex.Takes scannerRules (word ++ rest) index name (word ++ more))
    (named : word ∈ Flex.ident) :
    (index = 6 ∧ name = .ident ∧ word ++ more ∈ Flex.ident) ∨
      (index = 8 ∧ name = .function ∧ word ++ more ∈ Flex.ident * Flex.text "(") := by
  cases word with
  | nil => exact absurd named nil_notMem_ident
  | cons c word =>
      have begins := takes.head
      rw [head_name (ident_head named)] at begins
      have every : ∀ name ∈ Symbol.all, .name ∈ name.heads →
          name = .ident ∨ name = .function ∨ name = .cdc := by decide
      rcases every name (Symbol.mem_all name) begins with rfl | rfl | rfl
      · obtain ⟨place, member⟩ := takes.mem (show scannerRules[6]? = _ from rfl)
        exact .inl ⟨place, rfl, member⟩
      · obtain ⟨place, member⟩ := takes.mem (show scannerRules[8]? = _ from rfl)
        exact .inr ⟨place, rfl, member⟩
      · -- Two dashes do not begin a name.
        obtain ⟨_, member⟩ := takes.mem (show scannerRules[21]? = _ from rfl)
        obtain ⟨late, whole⟩ := takes.front
        rw [(mem_text (by decide)).mp member] at whole
        obtain ⟨n, found, _⟩ := longest_ident.complete _ rest named
        rw [← whole] at found
        cases found

-- Of the white space behind it a name takes all only if it is a name with it.
theorem gives_name (rest : List Char) (named : word ∈ Flex.ident) (spaces : ∀ c ∈ blank, isSpace c = true)
    (outside : isOutside mark = true) (unopened : mark ≠ '(') :
    ∃ more left, blank = more ++ left ∧ (left = [] ↔ word ++ blank ∈ Flex.ident) ∧
      Flex.Gives scannerRules (word ++ (blank ++ mark :: rest))
        (.symbol .ident (String.ofList (word ++ more))) := by
  have solid : ∀ tail, word ++ tail ≠ [] := fun tail empty =>
    nil_notMem_ident ((List.append_eq_nil_iff.mp empty).1 ▸ named)
  have alone : Flex.Takes scannerRules (word ++ (blank ++ mark :: rest)) 6 .ident word :=
    ⟨⟨_, rfl, named⟩, List.prefix_append _ _, fun empty => nil_notMem_ident (empty ▸ named)⟩
  obtain ⟨index, name, more, takes, best⟩ := alone.goes_on
  have part := (List.prefix_append_right_inj _).mp takes.front
  rcases takes.names named with ⟨_, rfl, member⟩ | ⟨_, _, member⟩
  · have settled := settled_names (nmchar_of_ident named)
    obtain ⟨left, rfl⟩ := names_within (nmchar_of_ident member) settled spaces outside part
    refine ⟨more, left, rfl, ⟨?_, ?_⟩, .symbol takes best⟩
    · rintro rfl
      rwa [List.append_nil]
    · intro whole
      have front : word ++ (more ++ left) <+: word ++ (more ++ left ++ mark :: rest) :=
        (List.prefix_append_right_inj _).mpr (List.prefix_append _ _)
      have longest := best 6 .ident _ ⟨⟨_, rfl, whole⟩, front, solid _⟩
      simp only [List.length_append] at longest
      exact List.length_eq_zero_iff.mp (by omega)
  · exact absurd member (function_apart named spaces outside unopened part)

theorem gives_marked (rest : List Char) (named : word ∈ Flex.ident) (outside : isOutside mark = true)
    (unopened : mark ≠ '(') :
    Flex.Gives scannerRules (word ++ mark :: rest) (.symbol .ident (String.ofList word)) := by
  have nothing : ∀ c ∈ ([] : List Char), isSpace c = true := nofun
  obtain ⟨more, left, empty, _, gives⟩ := gives_name rest named nothing outside unopened
  obtain ⟨rfl, _⟩ := List.append_eq_nil_iff.mp empty.symm
  rwa [List.append_nil] at gives

-- A name with a parenthesis directly behind it is a function up to there.
theorem gives_function (rest : List Char) (named : word ∈ Flex.ident) :
    Flex.Gives scannerRules (word ++ '(' :: rest) (.symbol .function (String.ofList (word ++ ['(']))) := by
  have front : word ++ ['('] <+: word ++ '(' :: rest :=
    (List.prefix_append_right_inj word).mpr (List.prefix_append ['('] rest)
  have alone : Flex.Takes scannerRules (word ++ '(' :: rest) 8 .function (word ++ ['(']) :=
    ⟨⟨_, rfl, mem_function.mpr ⟨word, named, rfl⟩⟩, front, by simp⟩
  obtain ⟨index, name, more, takes, best⟩ := alone.goes_on
  have begins := takes
  rw [List.append_assoc] at begins
  rcases begins.names named with ⟨_, _, member⟩ | ⟨_, rfl, member⟩
  · exact absurd member (ident_closed named)
  · obtain ⟨other, called, same⟩ := mem_function.mp member
    have none : more = [] := by
      rcases List.eq_nil_or_concat more with empty | ⟨init, c, rfl⟩
      · exact empty
      · have parts : word ++ '(' :: init ++ [c] = other ++ ['('] := by simpa using same
        exact absurd ((List.append_inj' parts rfl).1 ▸ called) (ident_closed named)
    subst none
    rw [List.append_nil] at takes best
    exact .symbol takes best

-- Only the rules for strings and for open quotations take a quotation mark.
theorem Flex.Takes.quotes (takes : Flex.Takes scannerRules (mark :: rest) index name word)
    (quote : isQuote mark = true) : (index = 7 ∧ word ∈ Flex.string) ∨ (index = 17 ∧ word ∈ Flex.invalid) := by
  obtain ⟨c, lexeme, rfl⟩ := List.exists_cons_of_ne_nil takes.solid
  obtain rfl := head_eq_of_front takes.front
  have quoted : Head.of c = .quote := by
    rcases isQuote_cases quote with rfl | rfl
    · rfl
    · rfl
  have every : ∀ name ∈ Symbol.all, .quote ∈ name.heads → name = .string ∨ name = .invalid := by decide
  rcases every name (Symbol.mem_all name) (quoted ▸ takes.head) with rfl | rfl
  · exact .inl (takes.mem (show scannerRules[7]? = _ from rfl))
  · exact .inr (takes.mem (show scannerRules[17]? = _ from rfl))

theorem gives_quoted (member : word ∈ Flex.string) :
    Flex.Gives scannerRules (word ++ rest) (.symbol .string (String.ofList word)) := by
  obtain ⟨quote, body, quotes, shape, _⟩ := string_shape member
  have solid : word ≠ [] := shape ▸ List.cons_ne_nil _ _
  refine .symbol ⟨⟨_, show scannerRules[7]? = _ from rfl, member⟩, List.prefix_append word rest, solid⟩ ?_
  intro other symbol lexeme also
  rcases Nat.lt_or_ge lexeme.length word.length with shorter | longer
  · exact .inl shorter
  · obtain ⟨more, rfl⟩ := List.prefix_of_prefix_length_le (List.prefix_append word rest) also.front longer
    have takes := also
    rw [shape] at takes
    have ends : more = [] ∧ 7 ≤ other := by
      rcases Flex.Takes.quotes takes quotes with ⟨rfl, within⟩ | ⟨rfl, within⟩
      · exact ⟨string_ends member (.inl (shape ▸ within)), by omega⟩
      · exact ⟨string_ends member (.inr (shape ▸ within)), by omega⟩
    obtain ⟨rfl, later⟩ := ends
    exact .inr ⟨by rw [List.append_nil], later⟩

-- Where no string is closed, the longest open quotation is the token.
theorem gives_unclosed (quote : isQuote mark = true) (front : word <+: mark :: rest)
    (member : word ∈ Flex.invalid)
    (unclosed : ∀ string, string <+: mark :: rest → string ∉ Flex.string)
    (most : ∀ other, other <+: mark :: rest → other ∈ Flex.invalid → other.length ≤ word.length) :
    Flex.Gives scannerRules (mark :: rest) (.symbol .invalid (String.ofList word)) := by
  obtain ⟨_, body, _, shape, _⟩ := invalid_shape member
  have solid : word ≠ [] := shape ▸ List.cons_ne_nil _ _
  refine .symbol ⟨⟨_, show scannerRules[17]? = _ from rfl, member⟩, front, solid⟩ ?_
  intro other symbol lexeme also
  rcases also.quotes quote with ⟨_, closed⟩ | ⟨rfl, within⟩
  · exact absurd closed (unclosed lexeme also.front)
  · exact (Nat.lt_or_eq_of_le (most lexeme also.front within)).imp_right fun same => ⟨same, Nat.le_refl _⟩

-- A bar or a star is part of an operator only before an equals sign.
theorem gives_mark (listed : mark = '|' ∨ mark = '*') (apart : c ≠ '=') :
    Flex.Gives scannerRules (mark :: c :: rest) (.literal mark) := by
  refine .literal rfl fun index name word takes => ?_
  have ends : ∀ {lower : String}, isLetterless lower = true → lower.toList = [mark, '='] →
      word ∉ Flex.text lower := by
    intro lower letterless spelled member
    have front := takes.front
    rw [(mem_text letterless).mp member, spelled, List.cons_prefix_cons] at front
    exact apart (head_eq_of_front front.2).symm
  cases word with
  | nil => exact takes.solid rfl
  | cons d word =>
      obtain rfl := head_eq_of_front takes.front
      rcases listed with rfl | rfl
      · have every : ∀ name ∈ Symbol.all, .mark '|' ∈ name.heads → name = .dashMatch := by decide
        obtain rfl := every name (Symbol.mem_all name) takes.head
        exact ends (by decide) rfl (takes.mem (show scannerRules[2]? = _ from rfl)).2
      · have every : ∀ name ∈ Symbol.all, .mark '*' ∈ name.heads → name = .substringMatch := by decide
        obtain rfl := every name (Symbol.mem_all name) takes.head
        exact ends (by decide) rfl (takes.mem (show scannerRules[5]? = _ from rfl)).2

-- White space before a tilde is part of the tilde, so that no operator begins with it.
theorem gives_tilde (solid : blank ≠ []) (spaces : ∀ c ∈ blank, isSpace c = true) :
    ∃ lexeme, Flex.Gives scannerRules (blank ++ '~' :: rest) (.symbol .tilde lexeme) := by
  have member : blank ++ ['~'] ∈ Flex.blanks * Flex.text "~" :=
    Language.append_mem_mul ((mem_star_oneOf fun _ => isBlank_toLower).mpr spaces)
      ((mem_text (by decide)).mpr rfl)
  have part : blank ++ ['~'] <+: blank ++ '~' :: rest :=
    (List.prefix_append_right_inj blank).mpr (List.prefix_append ['~'] rest)
  have alone : Flex.Takes scannerRules (blank ++ '~' :: rest) 14 .tilde (blank ++ ['~']) :=
    ⟨⟨_, rfl, member⟩, part, by simp⟩
  obtain ⟨index, name, more, takes, best⟩ := alone.goes_on
  have present : '~' ∈ blank ++ ['~'] ++ more := by simp
  obtain ⟨c, others, rfl⟩ := List.exists_cons_of_ne_nil solid
  have begins : Head.of c ∈ name.heads := Flex.Takes.head takes
  rw [head_space (spaces c List.mem_cons_self)] at begins
  have every : ∀ name ∈ Symbol.all, .space ∈ name.heads →
      name = .tilde ∨ name = .space ∨ name ∈ [.plus, .greater, .comma] := by decide
  have other : ∀ {lower : String}, isLetterless lower = true → '~' ∉ lower.toList →
      c :: others ++ ['~'] ++ more ∉ Flex.blanks * Flex.text lower := by
    intro lower letterless unlisted within
    rcases mem_delimiter letterless within '~' present with blank | listed
    · cases blank
    · exact unlisted listed
  rcases every name (Symbol.mem_all name) begins with rfl | rfl | listed
  · exact ⟨_, .symbol takes best⟩
  · obtain ⟨_, within⟩ := takes.mem (show scannerRules[0]? = _ from rfl)
    have white := (mem_star_oneOf fun _ => isBlank_toLower).mp ((mem_plus nil_notMem_oneOf).mp within).1
    cases white '~' present
  · simp only [List.mem_cons, List.not_mem_nil, or_false] at listed
    rcases listed with rfl | rfl | rfl
    · exact absurd (takes.mem (show scannerRules[11]? = _ from rfl)).2 (other (by decide) (by decide))
    · exact absurd (takes.mem (show scannerRules[12]? = _ from rfl)).2 (other (by decide) (by decide))
    · exact absurd (takes.mem (show scannerRules[13]? = _ from rfl)).2 (other (by decide) (by decide))

end CssSelectors
