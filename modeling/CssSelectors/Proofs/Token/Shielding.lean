import CssSelectors.Proofs.Token.Heads

open scoped Computability

-- What a slash or a comma behind some tokens may be taken for. Either is part of a token only where a
-- backslash escapes it, but in quoted texts and comments, and but for the comma itself.
namespace CssSelectors

open Pattern

-- Whether a text ends with a backslash that escapes whatever comes next.
def pending (word : List Char) : Bool := word.foldl (fun held c => !held && c == '\\') false

def isOpener (c : Char) : Bool := isQuote c || c == '/'

def isPlain (c : Char) : Bool := !(c == '\\' || isOpener c)

def isForeign (c : Char) : Bool := c == '/' || c == ','

-- What stands in a name only behind a backslash.
def isOutside (c : Char) : Bool := !(isNameChar c || c == '\\' || isTrailing c)

-- A word does not end with a backslash that is left, and has a mark inside only if it is escaped.
structure Guarded (mark : Char) (word : List Char) : Prop where
  ends : pending word = false
  inside : ∀ front back, word = front ++ mark :: back → pending front = true

-- A word neither begins like a quoted text or a comment nor ends with a backslash that is left, and
-- has a slash inside only if it is escaped.
structure Shielded (word : List Char) : Prop where
  opens : ∀ c rest, word = c :: rest → isOpener c = false
  ends : pending word = false
  slash : ∀ front back, word = front ++ '/' :: back → pending front = true

variable {left right language : Language Char} {word front back : List Char} {c mark : Char}

theorem isAlpha_of_isQuote (quote : isQuote c = true) : c.isAlpha = false := by
  rcases isQuote_cases quote with rfl | rfl
  · rfl
  · rfl

theorem isOpener_of_isPlain (plain : isPlain c = true) : isOpener c = false := by
  simp only [isPlain, Bool.not_eq_true', Bool.or_eq_false_iff] at plain
  exact plain.2

theorem isOpener_cases (opener : isOpener c = true) : isQuote c = true ∨ c = '/' := by
  simpa only [isOpener, Bool.or_eq_true, beq_iff_eq] using opener

theorem foreign_cases (foreign : isForeign mark = true) : mark = '/' ∨ mark = ',' := by
  simpa only [isForeign, Bool.or_eq_true, beq_iff_eq] using foreign

-- A class of characters without the foreign ones.
theorem foreign_ne {check : Char → Bool} (apart : check '/' = false ∧ check ',' = false)
    (foreign : isForeign mark = true) (holds : check c = true) : c ≠ mark := by
  rintro rfl
  rcases foreign_cases foreign with rfl | rfl
  · rw [apart.1] at holds
    cases holds
  · rw [apart.2] at holds
    cases holds

theorem outside_of_foreign (foreign : isForeign mark = true) : isOutside mark = true := by
  rcases foreign_cases foreign with rfl | rfl
  · rfl
  · rfl

theorem outside_parts (outside : isOutside mark = true) :
    isNameChar mark = false ∧ mark ≠ '\\' ∧ isTrailing mark = false := by
  simpa [isOutside, and_assoc] using outside

theorem pending_append (settled : pending front = false) : pending (front ++ back) = pending back := by
  rw [pending, List.foldl_append]
  show List.foldl _ (pending front) back = pending back
  rw [settled]
  rfl

theorem pending_plain (plain : ∀ c ∈ word, c ≠ '\\') : pending word = false := by
  induction word with
  | nil => rfl
  | cons c word ih =>
      obtain ⟨first, others⟩ := List.forall_mem_cons.mp plain
      have settled : pending [c] = false := beq_false_of_ne first
      exact (pending_append settled).trans (ih others)

theorem pending_escape {tail : List Char} (trailing : ∀ d ∈ tail, isTrailing d = true) :
    pending ('\\' :: c :: tail) = false := by
  have settled : pending ['\\', c] = false := rfl
  have rest := pending_plain fun d present => isTrailing_ne (trailing d present)
  exact (pending_append settled).trans rest

namespace Guarded

theorem of_plain (plain : ∀ c ∈ word, c ≠ '\\' ∧ c ≠ mark) : Guarded mark word := by
  refine ⟨pending_plain fun c present => (plain c present).1, ?_⟩
  rintro front back rfl
  exact absurd rfl (plain mark (by simp)).2

theorem append {word rest : List Char} (first : Guarded mark word) (second : Guarded mark rest) :
    Guarded mark (word ++ rest) := by
  refine ⟨(pending_append first.ends).trans second.ends, ?_⟩
  intro front back same
  rcases List.append_eq_append_iff.mp same with ⟨late, rfl, remains⟩ | ⟨late, rfl, remains⟩
  · rw [pending_append first.ends]
    exact second.inside late back remains
  · cases late with
    | nil => cases second.inside [] back remains.symm
    | cons d late =>
        obtain ⟨rfl, _⟩ := List.cons.inj remains
        exact first.inside front late rfl

theorem escape {tail : List Char} (outside : isOutside mark = true)
    (trailing : ∀ d ∈ tail, isTrailing d = true) : Guarded mark ('\\' :: c :: tail) := by
  refine ⟨pending_escape trailing, ?_⟩
  intro front back same
  rcases front with _ | ⟨d, _ | ⟨e, front⟩⟩
  · obtain rfl := (List.cons.inj same).1
    cases outside
  · obtain ⟨rfl, _⟩ := List.cons.inj same
    rfl
  · obtain ⟨_, remains⟩ := List.cons.inj (List.cons.inj same).2
    have inside := trailing mark (remains ▸ by simp)
    rw [(outside_parts outside).2.2] at inside
    cases inside

theorem piece (pieces : Pieces language) (outside : isOutside mark = true)
    (single : ∀ c, [c] ∈ language → c ≠ mark) (member : word ∈ language) : Guarded mark word := by
  rcases pieces.shape word member with ⟨c, rfl, plain⟩ | ⟨c, tail, rfl, trailing⟩
  · exact of_plain (List.forall_mem_singleton.mpr ⟨plain, single c member⟩)
  · exact escape outside trailing

theorem star (each : ∀ word ∈ language, Guarded mark word) (member : word ∈ language∗) :
    Guarded mark word :=
  star_induction (of_plain nofun) (fun first _ one _ rest => (each first one).append rest)
    member

theorem mul (one : ∀ word ∈ left, Guarded mark word) (two : ∀ word ∈ right, Guarded mark word)
    (member : word ∈ left * right) : Guarded mark word := by
  obtain ⟨first, inside, second, follows, rfl⟩ := Language.mem_mul.mp member
  exact (one first inside).append (two second follows)

theorem text {lower : String} (letterless : isLetterless lower = true)
    (plain : (lower.toList.all fun c => !(c == '\\' || isForeign c)) = true)
    (foreign : isForeign mark = true) : ∀ word ∈ Flex.text lower, Guarded mark word := by
  intro word member
  rw [(mem_text letterless).mp member]
  refine of_plain fun c present => ?_
  have part := List.all_eq_true.mp plain c present
  simp only [Bool.not_eq_true', Bool.or_eq_false_iff, beq_eq_false_iff_ne] at part
  refine ⟨part.1, ?_⟩
  rintro rfl
  rw [part.2] at foreign
  cases foreign

end Guarded

section

variable (outside : isOutside mark = true)
include outside

theorem guarded_names (member : word ∈ Flex.nmchar∗) : Guarded mark word := by
  obtain ⟨unnamed, solid, _⟩ := outside_parts outside
  refine .star (fun word inside => .piece pieces_nmchar outside ?_ inside) member
  intro c one
  rcases nmchar_head one with holds | rfl
  · rintro rfl
    rw [unnamed] at holds
    cases holds
  · exact solid.symm

theorem guarded_ident (member : word ∈ Flex.ident) : Guarded mark word :=
  guarded_names outside (nmchar_of_ident member)

theorem guarded_name (member : word ∈ Flex.name) : Guarded mark word :=
  guarded_names outside ((mem_plus fun empty => pieces_nmchar.solid empty rfl).mp member).1

end

section

variable (foreign : isForeign mark = true)
include foreign

theorem guarded_num (member : word ∈ Flex.num) : Guarded mark word := by
  refine .of_plain fun c present => ?_
  rcases mem_num member c present with digit | rfl
  · exact ⟨ne_backslash rfl digit, foreign_ne (by decide) foreign digit⟩
  · refine ⟨by decide, ?_⟩
    rintro rfl
    cases foreign

theorem guarded_blanks (member : word ∈ Flex.blanks) : Guarded mark word := by
  refine .of_plain fun c present => ?_
  have blank := (mem_star_oneOf fun _ => isBlank_toLower).mp member c present
  exact ⟨ne_backslash rfl blank, foreign_ne (by decide) foreign blank⟩

theorem guarded_space (member : word ∈ Flex.plus (Flex.oneOf Flex.isBlank)) : Guarded mark word :=
  guarded_blanks foreign ((mem_plus nil_notMem_oneOf).mp member).1

theorem guarded_letter (spelling : Spelling) (member : word ∈ spelling.language) :
    Guarded mark word := by
  refine .piece spelling.pieces (outside_of_foreign foreign) ?_ member
  intro c one
  rcases spelling.head one with same | rfl
  · exact foreign_ne (by decide) foreign (spelling.sameLetter_isAlpha same)
  · rintro rfl
    cases foreign

theorem guarded_negation (member : word ∈ Flex.negation) : Guarded mark word :=
  .mul (.text (by decide) (by decide) foreign)
    (fun _ => .mul (fun _ => guarded_letter foreign letterN)
      (fun _ => .mul (fun _ => guarded_letter foreign letterO)
        (fun _ => .mul (fun _ => guarded_letter foreign letterT)
          (.text (by decide) (by decide) foreign)))) member

theorem guarded_delimiter {lower : String} (letterless : isLetterless lower = true)
    (plain : (lower.toList.all fun c => !(c == '\\' || isForeign c)) = true) :
    ∀ word ∈ Flex.blanks * Flex.text lower, Guarded mark word :=
  fun _ => .mul (fun _ => guarded_blanks foreign) (.text letterless plain foreign)

theorem guarded_behind {lower : String} (letterless : isLetterless lower = true)
    (plain : (lower.toList.all fun c => !(c == '\\' || isForeign c)) = true)
    (each : ∀ word ∈ language, Guarded mark word) :
    ∀ word ∈ Flex.text lower * language, Guarded mark word :=
  fun _ => .mul (.text letterless plain foreign) each

end

-- The rules whose words are not shielded.
def openRules : List (Symbol × Language Char) :=
  [(.string, Flex.string), (.invalid, Flex.invalid), (.comment, Flex.comment)]

theorem scannerRules_guarded (foreign : isForeign mark = true) : ∀ rule ∈ scannerRules,
    rule ∈ openRules ∨ rule.1 = .comma ∨ ∀ word ∈ rule.2, Guarded mark word := by
  have outside := outside_of_foreign foreign
  unfold scannerRules Flex.rulesWith
  simp only [List.forall_mem_cons, List.not_mem_nil, false_implies, implies_true, and_true]
  exact ⟨.inr (.inr fun _ => guarded_space foreign),
    .inr (.inr (.text (by decide) (by decide) foreign)),
    .inr (.inr (.text (by decide) (by decide) foreign)),
    .inr (.inr (.text (by decide) (by decide) foreign)),
    .inr (.inr (.text (by decide) (by decide) foreign)),
    .inr (.inr (.text (by decide) (by decide) foreign)),
    .inr (.inr fun _ => guarded_ident outside),
    .inl (.head _),
    .inr (.inr fun _ => .mul (fun _ => guarded_ident outside) (.text (by decide) (by decide) foreign)),
    .inr (.inr fun _ => guarded_num foreign),
    .inr (.inr (guarded_behind foreign (by decide) (by decide) fun _ => guarded_name outside)),
    .inr (.inr (guarded_delimiter foreign (by decide) (by decide))),
    .inr (.inr (guarded_delimiter foreign (by decide) (by decide))),
    .inr (.inl trivial),
    .inr (.inr (guarded_delimiter foreign (by decide) (by decide))),
    .inr (.inr fun _ => guarded_negation foreign),
    .inr (.inr (guarded_behind foreign (by decide) (by decide) fun _ => guarded_ident outside)),
    .inl (.tail _ (.head _)),
    .inr (.inr fun _ => .mul (fun _ => guarded_num foreign) (.text (by decide) (by decide) foreign)),
    .inr (.inr fun _ => .mul (fun _ => guarded_num foreign) fun _ => guarded_ident outside),
    .inr (.inr (.text (by decide) (by decide) foreign)),
    .inr (.inr (.text (by decide) (by decide) foreign)),
    .inl (.tail _ (.tail _ (.head _)))⟩

theorem comma_shape (member : word ∈ Flex.blanks * Flex.text ",") :
    ∃ blank, word = blank ++ [','] ∧ ∀ c ∈ blank, isSpace c = true := by
  obtain ⟨blank, spaces, comma, one, rfl⟩ := Language.mem_mul.mp member
  obtain rfl := (mem_text (by decide)).mp one
  exact ⟨blank, rfl, (mem_star_oneOf fun _ => isBlank_toLower).mp spaces⟩

theorem rule_of_name {rule : Symbol × Language Char} {index : Nat}
    (present : rule ∈ scannerRules) (other : scannerRules[index]? = some (rule.1, language)) :
    rule.2 = language := by
  obtain ⟨place, found⟩ := List.mem_iff_getElem?.mp present
  exact (rule_unique found other).2

-- What begins like a quoted text or a comment is of the rules for these.
theorem rule_of_opener {rule : Symbol × Language Char} (present : rule ∈ scannerRules)
    (member : c :: word ∈ rule.2) (opener : isOpener c = true) : rule ∈ openRules := by
  have begins := scannerRules_heads rule present c word member
  have head : Head.of c = .quote ∨ Head.of c = .mark '/' := by
    rcases isOpener_cases opener with quote | rfl
    · rcases isQuote_cases quote with rfl | rfl
      · exact .inl rfl
      · exact .inl rfl
    · exact .inr rfl
  have every : ∀ name ∈ Symbol.all, (.quote ∈ name.heads ∨ .mark '/' ∈ name.heads) →
      name = .string ∨ name = .invalid ∨ name = .comment := by decide
  have named := every rule.1 (Symbol.mem_all _) (by rcases head with same | same <;> simp [← same, begins])
  obtain ⟨name, language⟩ := rule
  rcases named with rfl | rfl | rfl
  · obtain rfl := rule_of_name present (show scannerRules[7]? = some (.string, Flex.string) from rfl)
    exact .head _
  · obtain rfl := rule_of_name present (show scannerRules[17]? = some (.invalid, Flex.invalid) from rfl)
    exact .tail _ (.head _)
  · obtain rfl := rule_of_name present (show scannerRules[22]? = some (.comment, Flex.comment) from rfl)
    exact .tail _ (.tail _ (.head _))

theorem scannerRules_shielded : ∀ rule ∈ scannerRules,
    rule ∈ openRules ∨ ∀ word ∈ rule.2, Shielded word := by
  intro rule present
  by_cases opened : rule ∈ openRules
  · exact .inl opened
  · right
    intro word member
    have unopened : ∀ c rest, word = c :: rest → isOpener c = false := by
      rintro c rest rfl
      exact Bool.eq_false_iff.mpr fun opener => opened (rule_of_opener present member opener)
    have guarded : Guarded '/' word := by
      rcases scannerRules_guarded (show isForeign '/' = true from rfl) rule present with
        unguarded | comma | guarded
      · exact absurd unguarded opened
      · obtain ⟨name, language⟩ := rule
        obtain rfl : name = .comma := comma
        obtain rfl := rule_of_name present
          (show scannerRules[13]? = some (.comma, Flex.blanks * Flex.text ",") from rfl)
        obtain ⟨blank, rfl, spaces⟩ := comma_shape member
        refine .of_plain fun c present => ?_
        rcases List.mem_append.mp present with early | last
        · exact ⟨ne_backslash rfl (spaces c early), foreign_ne (by decide) rfl (spaces c early)⟩
        · rw [List.mem_singleton.mp last]
          decide
      · exact guarded word member
    exact ⟨unopened, guarded.ends, guarded.inside⟩

end CssSelectors
