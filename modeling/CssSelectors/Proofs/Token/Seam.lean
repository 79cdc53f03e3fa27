import CssSelectors.Proofs.Token.Splitting
import CssSelectors.Proofs.Token.Trimming

open scoped Computability

-- What of white space and a comma behind a token becomes part of it: only the white space that ends an
-- escape, and the token is of the same class with it.
namespace CssSelectors

open Pattern

def delimiters : List Char := ['+', '>', ',', '~']

variable {language : Language Char} {cs others word front blank more rest : List Char} {c : Char}
  {lower : String} {index other : Nat} {name symbol : Symbol} {token next : Token}

theorem Flex.Takes.mem {cs : List Char} (takes : Flex.Takes scannerRules cs index name word)
    (rule : scannerRules[other]? = some (name, language)) : index = other ∧ word ∈ language := by
  obtain ⟨found, here, member⟩ := takes.rule
  obtain ⟨place, same⟩ := rule_unique here rule
  exact ⟨place, same ▸ member⟩

theorem dimension_apart (member : word ∈ Flex.num * Flex.ident) :
    word ∉ Flex.num ∧ word ∉ Flex.num * Flex.text "%" := by
  obtain ⟨number, _, unit, named, rfl⟩ := Language.mem_mul.mp member
  cases unit with
  | nil => exact absurd named nil_notMem_ident
  | cons c unit =>
      have head := head_name (ident_head named)
      have other : ¬ (c.isDigit = true ∨ c = '.') := by
        intro digit
        rw [head_number digit] at head
        cases head
      refine ⟨fun within => other (mem_num within c (by simp)), ?_⟩
      intro within
      obtain ⟨front, digits, percent, one, same⟩ := Language.mem_mul.mp within
      obtain rfl := (mem_text (by decide)).mp one
      have present : c ∈ front ++ ['%'] := same ▸ (by simp)
      rcases List.mem_append.mp present with early | last
      · exact other (mem_num digits c early)
      · obtain rfl := List.mem_singleton.mp last
        cases head

-- No word that an earlier rule takes whole is one of these rules as well.
theorem Flex.Takes.name_eq (one : Flex.Takes scannerRules cs index name word)
    (two : Flex.Takes scannerRules others other symbol word) (earlier : index ≤ other)
    (named : symbol ∈ nameRules) : name = symbol := by
  cases word with
  | nil => exact absurd rfl one.solid
  | cons c word =>
      have every : ∀ name ∈ Symbol.all, ∀ symbol ∈ nameRules, ∀ head ∈ name.heads, head ∈ symbol.heads →
          name = symbol ∨ ((name = .function ∨ name = .cdc) ∧ symbol = .ident) ∨
            ((name = .number ∨ name = .percentage) ∧ symbol = .dimension) := by decide
      rcases every name (Symbol.mem_all name) symbol named _ one.head two.head with
        same | ⟨rfl | rfl, rfl⟩ | ⟨rfl | rfl, rfl⟩
      · exact same
      · obtain ⟨rfl, _⟩ := one.mem (show scannerRules[8]? = _ from rfl)
        obtain ⟨rfl, _⟩ := two.mem (show scannerRules[6]? = _ from rfl)
        omega
      · obtain ⟨rfl, _⟩ := one.mem (show scannerRules[21]? = _ from rfl)
        obtain ⟨rfl, _⟩ := two.mem (show scannerRules[6]? = _ from rfl)
        omega
      · have within := (two.mem (show scannerRules[19]? = _ from rfl)).2
        exact absurd (one.mem (show scannerRules[9]? = _ from rfl)).2 (dimension_apart within).1
      · have within := (two.mem (show scannerRules[19]? = _ from rfl)).2
        exact absurd (one.mem (show scannerRules[18]? = _ from rfl)).2 (dimension_apart within).2

theorem comma_within {late : List Char} (member : front ++ ',' :: late ∈ Flex.blanks * Flex.text ",") :
    late = [] ∧ ∀ c ∈ front, isSpace c = true := by
  obtain ⟨blank, same, spaces⟩ := comma_shape member
  have parts : front ++ (',' :: late) = blank ++ [','] := same
  rcases append_eq_concat parts with ⟨empty, _⟩ | ⟨init, ends, rfl⟩
  · cases empty
  · cases init with
    | nil =>
        rw [List.append_nil] at spaces
        exact ⟨(List.cons.inj ends).2, spaces⟩
    | cons d init =>
        obtain ⟨rfl, _⟩ := List.cons.inj ends
        cases spaces ',' (by simp)

-- A word with a comma that is not escaped is quoted, a comment, or the comma with the white space before it.
theorem Flex.Takes.comma {late : List Char}
    (takes : Flex.Takes scannerRules cs index name (front ++ ',' :: late))
    (settled : pending front = false) : (∃ language, (name, language) ∈ openRules ∧
      front ++ ',' :: late ∈ language) ∨ (index = 13 ∧ late = [] ∧ ∀ c ∈ front, isSpace c = true) := by
  obtain ⟨language, found, member⟩ := id takes.rule
  rcases scannerRules_guarded (show isForeign ',' = true from rfl) _ (List.mem_of_getElem? found) with
    unguarded | comma | guarded
  · exact .inl ⟨language, unguarded, member⟩
  · obtain rfl : name = .comma := comma
    obtain ⟨place, within⟩ := takes.mem (show scannerRules[13]? = _ from rfl)
    exact .inr ⟨place, comma_within within⟩
  · have escaped := (guarded _ member).inside front late rfl
    rw [settled] at escaped
    cases escaped

-- What goes over the end of a text stays in the white space before the comma.
theorem Flex.Takes.stays (takes : Flex.Takes scannerRules (cs ++ (blank ++ ',' :: rest)) index name (cs ++ more))
    (unopened : ∀ language, (name, language) ∈ openRules → cs ++ more ∉ language)
    (settled : pending cs = false) (solid : ∃ c ∈ cs, isSpace c = false)
    (spaces : ∀ c ∈ blank, isSpace c = true) : more <+: blank := by
  obtain ⟨c, present, black⟩ := solid
  have part := (List.prefix_append_right_inj _).mp takes.front
  rcases List.prefix_or_prefix_of_prefix part (List.prefix_append blank _) with inside | ⟨late, rfl⟩
  · exact inside
  · cases late with
    | nil => rw [List.append_nil]
    | cons d late =>
        obtain rfl := head_eq_of_front ((List.prefix_append_right_inj blank).mp part)
        rw [← List.append_assoc cs blank (',' :: late)] at takes unopened
        rw [← List.append_assoc cs blank (',' :: rest)] at takes
        rcases takes.comma ((pending_append settled).trans (pending_blank spaces)) with
          ⟨language, opened, member⟩ | ⟨_, _, white⟩
        · exact absurd member (unopened language opened)
        · rw [white c (List.mem_append_left _ present)] at black
          cases black

-- It is a name that ends with an escape there.
theorem Flex.Takes.over (gives : Flex.Gives scannerRules (token.chars ++ front) token)
    (clean : token.isClean = true) (settled : pending (token.chars ++ front) = false)
    (solid : ∃ c ∈ token.chars ++ front, isSpace c = false) (spaces : ∀ c ∈ blank, isSpace c = true)
    (takes : Flex.Takes scannerRules (token.chars ++ front ++ (blank ++ ',' :: rest)) index name
      (token.chars ++ front ++ more)) (longer : more ≠ []) :
    more <+: blank ∧ name ∈ nameRules ∧
      Flex.Takes scannerRules (token.chars ++ front) index name (token.chars ++ front) := by
  have unopened : ∀ language, (name, language) ∈ openRules → token.chars ++ front ++ more ∉ language := by
    intro language opened
    rw [← List.append_nil (token.chars ++ front)] at gives
    exact open_within gives clean (List.prefix_append _ _) opened longer
  have goes := takes.stays unopened settled solid spaces
  have white : ∀ c ∈ more, isSpace c = true := fun c inside => spaces c (goes.subset inside)
  obtain ⟨c, present, black⟩ := solid
  obtain ⟨language, found, member⟩ := id takes.rule
  rcases scannerRules_trimmed _ (List.mem_of_getElem? found) with opened | space | closed | ⟨named, trimmed⟩
  · exact absurd member (unopened language opened)
  · obtain rfl : name = .space := space
    have blanks := (takes.mem (show scannerRules[0]? = _ from rfl)).2
    rw [(mem_star_oneOf fun _ => isBlank_toLower).mp ((mem_plus nil_notMem_oneOf).mp blanks).1 c
      (List.mem_append_left _ present)] at black
    cases black
  · obtain ⟨init, last, rfl⟩ := (List.eq_nil_or_concat' more).resolve_left longer
    rw [← List.append_assoc] at member
    have ends := closed.ends _ _ member
    rw [white last (by simp)] at ends
    cases ends
  · refine ⟨goes, named, ⟨language, found, trimmed.spaces white settled member⟩, List.prefix_refl _, ?_⟩
    exact List.ne_nil_of_mem present

-- Before white space and a comma the first token of a text is what it was, or takes some of the white
-- space along as the last token of the text.
theorem Flex.Gives.seam (gives : Flex.Gives scannerRules (token.chars ++ front) token)
    (clean : token.isClean = true) (settled : pending (token.chars ++ front) = false)
    (solid : ∃ c ∈ token.chars ++ front, isSpace c = false) (spaces : ∀ c ∈ blank, isSpace c = true)
    (also : Flex.Gives scannerRules (token.chars ++ front ++ (blank ++ ',' :: rest)) next) :
    next = token ∨ ∃ name lexeme more, front = [] ∧ more <+: blank ∧ name ∈ nameRules ∧
      token = .symbol name lexeme ∧ next = .symbol name (lexeme ++ String.ofList more) := by
  obtain ⟨_, part⟩ := Token.gives_chars also
  rcases List.prefix_or_prefix_of_prefix part (List.prefix_append _ _) with inside | ⟨more, whole⟩
  · exact .inl ((also.cut (List.prefix_append _ _) inside).unique gives)
  · by_cases shorter : more = []
    · subst shorter
      rw [List.append_nil] at whole
      exact .inl ((also.cut (List.prefix_append _ _) (whole ▸ List.prefix_refl _)).unique gives)
    right
    cases also with
    | @symbol index name word takes best =>
        rw [Token.chars, String.toList_ofList] at whole
        subst whole
        obtain ⟨goes, named, alone⟩ := takes.over gives clean settled solid spaces shorter
        cases gives with
        | @symbol other symbol lexeme early most =>
            simp only [Token.chars, String.toList_ofList] at alone early most ⊢
            have length := most index name _ alone
            rw [List.length_append] at length
            obtain rfl : front = [] := List.length_eq_zero_iff.mp (by omega)
            rw [List.append_nil] at alone
            obtain rfl := early.name_eq alone (by omega) named
            refine ⟨symbol, String.ofList lexeme, more, rfl, goes, named, rfl, ?_⟩
            rw [List.append_nil, String.ofList_append]
        | literal first none => exact absurd alone (none _ _ _)
    | literal first none =>
        have length := congrArg List.length whole
        have one := List.length_pos_iff.mpr (Token.gives_chars gives).1
        have two := List.length_pos_iff.mpr shorter
        simp only [Token.chars, List.length_append, List.length_cons, List.length_nil] at length one
        omega

-- White space and the comma behind it are one token.
theorem gives_comma (spaces : ∀ c ∈ blank, isSpace c = true) :
    Flex.Gives scannerRules (blank ++ ',' :: rest) (.symbol .comma (String.ofList (blank ++ [',']))) := by
  have member : blank ++ [','] ∈ Flex.blanks * Flex.text "," :=
    Language.append_mem_mul ((mem_star_oneOf fun _ => isBlank_toLower).mpr spaces)
      ((mem_text (by decide)).mpr rfl)
  have whole : blank ++ ',' :: rest = blank ++ [','] ++ rest := by simp
  have part : blank ++ [','] <+: blank ++ ',' :: rest := whole ▸ List.prefix_append _ rest
  refine .symbol ⟨⟨_, show scannerRules[13]? = _ from rfl, member⟩, part, by simp⟩ ?_
  intro other symbol word also
  rcases Nat.lt_or_ge word.length (blank ++ [',']).length with shorter | longer
  · exact .inl shorter
  · obtain ⟨late, rfl⟩ := List.prefix_of_prefix_length_le part also.front longer
    rw [List.append_assoc] at also
    rcases also.comma (pending_blank spaces) with ⟨language, opened, within⟩ | ⟨place, rfl, _⟩
    · cases blank with
      | nil => cases isOpener_of_open opened within
      | cons c blank =>
          have white := spaces c List.mem_cons_self
          rw [not_isSpace rfl (isOpener_of_open opened within)] at white
          cases white
    · right
      rw [List.append_nil]
      exact ⟨rfl, Nat.le_of_eq place.symm⟩

theorem mem_delimiter (letterless : isLetterless lower = true)
    (member : word ∈ Flex.blanks * Flex.text lower) :
    ∀ c ∈ word, isSpace c = true ∨ c ∈ lower.toList := by
  obtain ⟨blank, spaces, last, one, rfl⟩ := Language.mem_mul.mp member
  rw [(mem_text letterless).mp one]
  intro c present
  exact (List.mem_append.mp present).imp_left ((mem_star_oneOf fun _ => isBlank_toLower).mp spaces c)

-- What begins with white space is white space, or one of the delimiters behind it.
theorem Flex.Takes.white (takes : Flex.Takes scannerRules cs index name (c :: word))
    (blank : isSpace c = true) : ∀ d ∈ c :: word, isSpace d = true ∨ d ∈ delimiters := by
  have every : ∀ name ∈ Symbol.all, .space ∈ name.heads →
      name ∈ [.space, .plus, .greater, .comma, .tilde] := by decide
  have begins := takes.head
  rw [head_space blank] at begins
  have named := every name (Symbol.mem_all name) begins
  have delimited : ∀ {lower : String}, isLetterless lower = true → lower.toList ⊆ delimiters →
      c :: word ∈ Flex.blanks * Flex.text lower → ∀ d ∈ c :: word, isSpace d = true ∨ d ∈ delimiters := by
    intro lower letterless listed member d present
    exact (mem_delimiter letterless member d present).imp_right fun last => listed last
  simp only [List.mem_cons, List.not_mem_nil, or_false] at named
  rcases named with rfl | rfl | rfl | rfl | rfl
  · have spaces := ((mem_plus nil_notMem_oneOf).mp (takes.mem (show scannerRules[0]? = _ from rfl)).2).1
    exact fun d present => .inl ((mem_star_oneOf fun _ => isBlank_toLower).mp spaces d present)
  · exact delimited (by decide) (by decide) (takes.mem (show scannerRules[11]? = _ from rfl)).2
  · exact delimited (by decide) (by decide) (takes.mem (show scannerRules[12]? = _ from rfl)).2
  · exact delimited (by decide) (by decide) (takes.mem (show scannerRules[13]? = _ from rfl)).2
  · exact delimited (by decide) (by decide) (takes.mem (show scannerRules[14]? = _ from rfl)).2

-- White space is a token of its own before anything but more of it and the delimiters.
theorem gives_space (solid : blank ≠ []) (spaces : ∀ c ∈ blank, isSpace c = true)
    (apart : ∀ c late, rest = c :: late → isSpace c = false ∧ c ∉ delimiters) :
    Flex.Gives scannerRules (blank ++ rest) (.symbol .space (String.ofList blank)) := by
  have member : blank ∈ Flex.plus (Flex.oneOf Flex.isBlank) :=
    (mem_plus nil_notMem_oneOf).mpr ⟨(mem_star_oneOf fun _ => isBlank_toLower).mpr spaces, solid⟩
  refine .symbol ⟨⟨_, show scannerRules[0]? = _ from rfl, member⟩, List.prefix_append blank rest, solid⟩ ?_
  intro other symbol word also
  rcases List.prefix_or_prefix_of_prefix also.front (List.prefix_append blank rest) with inside | ⟨more, rfl⟩
  · rcases Nat.lt_or_eq_of_le inside.length_le with shorter | same
    · exact .inl shorter
    · exact .inr ⟨same, Nat.zero_le _⟩
  · cases more with
    | nil => exact .inr ⟨by rw [List.append_nil], Nat.zero_le _⟩
    | cons d more =>
        obtain ⟨c, others, rfl⟩ := List.exists_cons_of_ne_nil solid
        obtain ⟨late, behind⟩ := (List.prefix_append_right_inj _).mp also.front
        obtain ⟨black, unlisted⟩ := apart d _ behind.symm
        rcases also.white (spaces c List.mem_cons_self) d (by simp) with blank | listed
        · rw [black] at blank
          cases blank
        · exact absurd listed unlisted

-- What begins with white space or a delimiter is one of these, alone or with white space, or `~=`.
theorem Flex.Gives.delimiter (gives : Flex.Gives scannerRules (c :: rest) token)
    (begins : isSpace c = true ∨ c ∈ delimiters) : token = .literal c ∨
      ∃ name ∈ [Symbol.space, .includes, .plus, .greater, .comma, .tilde], ∃ lexeme,
        token = .symbol name lexeme := by
  cases gives with
  | @symbol index name word takes best =>
      right
      refine ⟨name, ?_, _, rfl⟩
      cases word with
      | nil => exact absurd rfl takes.solid
      | cons d word =>
          obtain rfl := head_eq_of_front takes.front
          have every : ∀ name ∈ Symbol.all, ∀ head ∈ [.space, .mark '+', .mark '>', .mark ',', .mark '~'],
              head ∈ name.heads → name ∈ [.space, .includes, .plus, .greater, .comma, .tilde] := by decide
          refine every name (Symbol.mem_all name) _ ?_ takes.head
          rcases begins with blank | listed
          · rw [head_space blank]
            exact .head _
          · have marks : ∀ c ∈ delimiters, Head.of c = .mark c :=
                List.forall_iff_forall_mem.mp (by decide)
            rw [marks d listed]
            exact .tail _ (List.mem_map_of_mem (f := Head.mark) listed)
  | literal first none =>
      obtain rfl := (List.cons.inj first).1
      exact .inl rfl

end CssSelectors
