import CssSelectors.Proofs.Token.Stream

open scoped Computability

-- What a token begins with tells the few rules it may be of.
namespace CssSelectors

open Pattern

def isQuote (c : Char) : Bool := c == '"' || c == '\''

inductive Head where
  | name
  | number
  | space
  | quote
  | mark (c : Char)
deriving DecidableEq

def Head.of (c : Char) : Head :=
  if c == '-' || isNameStart c || c == '\\' then .name
  else if c.isDigit || c == '.' then .number
  else if isSpace c then .space
  else if isQuote c then .quote
  else .mark c

def Symbol.heads : Symbol → List Head
  | .space => [.space]
  | .includes => [.mark '~']
  | .dashMatch => [.mark '|']
  | .prefixMatch => [.mark '^']
  | .suffixMatch => [.mark '$']
  | .substringMatch => [.mark '*']
  | .ident => [.name]
  | .string => [.quote]
  | .function => [.name]
  | .number => [.number]
  | .hash => [.mark '#']
  | .plus => [.space, .mark '+']
  | .greater => [.space, .mark '>']
  | .comma => [.space, .mark ',']
  | .tilde => [.space, .mark '~']
  | .not => [.mark ':']
  | .atKeyword => [.mark '@']
  | .invalid => [.quote]
  | .percentage => [.number]
  | .dimension => [.number]
  | .cdo => [.mark '<']
  | .cdc => [.name]
  | .comment => [.mark '/']

variable {c : Char} {cs rest word : List Char} {lower : String} {start : Head}
  {language : Language Char} {index : Nat} {name : Symbol}

theorem isQuote_cases (quote : isQuote c = true) : c = '"' ∨ c = '\'' := by
  simpa only [isQuote, Bool.or_eq_true, beq_iff_eq] using quote

theorem head_name (begins : c = '-' ∨ isNameStart c = true ∨ c = '\\') : Head.of c = .name := by
  apply if_pos
  simpa only [Bool.or_eq_true, beq_iff_eq, or_assoc] using begins

theorem head_number (begins : c.isDigit = true ∨ c = '.') : Head.of c = .number := by
  rcases begins with digit | rfl
  · have other : (c == '-' || isNameStart c || c == '\\') = false := by
      have dash : c ≠ '-' := by
        rintro rfl
        cases digit
      have slash : c ≠ '\\' := by
        rintro rfl
        cases digit
      simp [dash, slash, isNameStart_digit digit]
    rw [Head.of, other, digit]
    rfl
  · rfl

theorem isSpace_cases (blank : isSpace c = true) : c ∈ [' ', '\t', '\r', '\n', '\x0c'] := by
  simpa only [isSpace, Bool.or_eq_true, beq_iff_eq, or_assoc, List.mem_cons, List.not_mem_nil,
    or_false] using blank

-- A class of characters without white space.
theorem not_isSpace {check : Char → Bool} (apart : [' ', '\t', '\r', '\n', '\x0c'].any check = false)
    (holds : check c = true) : isSpace c = false := by
  apply Bool.eq_false_iff.mpr
  intro blank
  exact List.any_eq_false.mp apart c (isSpace_cases blank) holds

theorem head_space (blank : isSpace c = true) : Head.of c = .space := by
  have every : ∀ c ∈ [' ', '\t', '\r', '\n', '\x0c'], Head.of c = .space :=
    List.forall_iff_forall_mem.mp (by decide)
  exact every c (isSpace_cases blank)

theorem head_text (letterless : isLetterless lower = true)
    (begins : lower.toList.head?.map Head.of = some start) :
    ∀ c rest, c :: rest ∈ Flex.text lower → Head.of c = start := by
  intro c rest member
  rw [← (mem_text letterless).mp member] at begins
  exact Option.some.inj begins

theorem head_behind (letterless : isLetterless lower = true)
    (begins : lower.toList.head?.map Head.of = some start) :
    ∀ c rest, c :: rest ∈ Flex.text lower * language → Head.of c = start := by
  intro c rest member
  have solid : [] ∉ Flex.text lower := by
    intro empty
    rw [← (mem_text letterless).mp empty] at begins
    cases begins
  obtain ⟨tail, first⟩ := head_mul member solid
  exact head_text letterless begins c tail first

theorem head_delimiter (letterless : isLetterless lower = true)
    (begins : lower.toList.head?.map Head.of = some start) :
    ∀ c rest, c :: rest ∈ Flex.blanks * Flex.text lower → Head.of c ∈ [.space, start] := by
  intro c rest member
  obtain ⟨first, blank, others, behind, same⟩ := Language.mem_mul.mp member
  cases first with
  | nil =>
      obtain rfl : others = c :: rest := same
      simp [head_text letterless begins c rest behind]
  | cons d first =>
      obtain rfl := (List.cons.inj same).1
      simp [head_space ((mem_star_oneOf fun _ => isBlank_toLower).mp blank d List.mem_cons_self)]

theorem head_num (member : c :: rest ∈ Flex.num) : Head.of c = .number :=
  head_number (mem_num member c List.mem_cons_self)

theorem nil_notMem_num : [] ∉ Flex.num := by
  rintro (whole | parts)
  · exact ((mem_plus nil_notMem_oneOf).mp whole).2 rfl
  · obtain ⟨front, _, others, more, same⟩ := Language.mem_mul.mp parts
    obtain ⟨point, dot, behind, _, rfl⟩ := Language.mem_mul.mp more
    rw [(mem_text (by decide)).mp dot] at same
    simp at same

theorem nil_notMem_ident : [] ∉ Flex.ident := by
  intro member
  obtain ⟨dash, _, others, more, same⟩ := Language.mem_mul.mp member
  obtain ⟨start, first, tail, _, rfl⟩ := Language.mem_mul.mp more
  obtain ⟨_, none⟩ := List.append_eq_nil_iff.mp same
  rw [(List.append_eq_nil_iff.mp none).1] at first
  exact nil_notMem_nmstart first

theorem head_quoted {double single : Language Char}
    (member : c :: rest ∈ Flex.text "\"" * double + Flex.text "'" * single) : Head.of c = .quote := by
  rcases member with one | one
  · exact head_behind (by decide) (by decide) c rest one
  · exact head_behind (by decide) (by decide) c rest one

theorem head_comment (member : c :: rest ∈ Flex.comment) : Head.of c = .mark '/' := by
  obtain ⟨inside, same, _⟩ := member
  rw [(List.cons.inj same).1]
  rfl

theorem scannerRules_heads : ∀ rule ∈ scannerRules, ∀ c rest, c :: rest ∈ rule.2 →
    Head.of c ∈ rule.1.heads := by
  have only : ∀ {language : Language Char} {start : Head},
      (∀ c rest, c :: rest ∈ language → Head.of c = start) →
        ∀ c rest, c :: rest ∈ language → Head.of c ∈ [start] :=
    fun same c rest member => List.mem_singleton.mpr (same c rest member)
  unfold scannerRules Flex.rulesWith
  simp only [List.forall_mem_cons, List.not_mem_nil, false_implies, implies_true, and_true]
  exact ⟨only fun c _ member => head_space
      ((mem_star_oneOf fun _ => isBlank_toLower).mp ((mem_plus nil_notMem_oneOf).mp member).1 c
        List.mem_cons_self),
    only (head_text (by decide) (by decide)),
    only (head_text (by decide) (by decide)),
    only (head_text (by decide) (by decide)),
    only (head_text (by decide) (by decide)),
    only (head_text (by decide) (by decide)),
    only fun _ _ member => head_name (ident_head member),
    only fun _ _ => head_quoted,
    only fun _ _ member => head_name (ident_head (head_mul member nil_notMem_ident).choose_spec),
    only fun _ _ => head_num,
    only (head_behind (by decide) (by decide)),
    head_delimiter (by decide) (by decide),
    head_delimiter (by decide) (by decide),
    head_delimiter (by decide) (by decide),
    head_delimiter (by decide) (by decide),
    only (head_behind (by decide) (by decide)),
    only (head_behind (by decide) (by decide)),
    only fun _ _ => head_quoted,
    only fun _ _ member => head_num (head_mul member nil_notMem_num).choose_spec,
    only fun _ _ member => head_num (head_mul member nil_notMem_num).choose_spec,
    only (head_text (by decide) (by decide)),
    only (head_text (by decide) (by decide)),
    only fun _ _ => head_comment⟩

theorem Flex.Takes.head (takes : Flex.Takes scannerRules cs index name (c :: word)) :
    Head.of c ∈ name.heads := by
  obtain ⟨language, found, member⟩ := takes.rule
  exact scannerRules_heads _ (List.mem_of_getElem? found) c word member

end CssSelectors
