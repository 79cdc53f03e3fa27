import CssSelectors.Proofs.Interleaving
import CssSelectors.Proofs.Separation
import CssSelectors.Proofs.Token.Seam

-- Two valid groups with a comma between them, and white space about it, are one: the tokens of both
-- remain what they were, though the last of the first may take white space along.
namespace CssSelectors

open Pattern

variable {cs word blank rest : List Char} {token : Token} {name : Symbol} {front : List Shape}
  {text : String} {c : Char}

theorem settled_of_clean (clean : ¬ Damaged cs) : pending cs = false := by
  induction cs using Token.scan_induction with
  | nil => rfl
  | next token rest gives ih =>
      rw [damaged_gives gives, not_or, Bool.not_eq_false] at clean
      rw [pending_append (gives.settled clean.1)]
      exact ih clean.2

theorem outline_nil : outline [] = [] := by
  rw [outline, Token.scanAll_nil]
  rfl

theorem outline_symbol {lexeme : String} (word : List Char) (covers : lexeme.toList = word)
    (gives : Flex.Gives scannerRules (word ++ rest) (.symbol name lexeme))
    (meant : name.isIgnorable = false) : outline (word ++ rest) = some (.symbol name) :: outline rest := by
  subst covers
  have scanned : outline ((Token.symbol name lexeme).chars ++ rest) = _ := outline_gives gives
  rw [Token.isComment, meant] at scanned
  exact scanned

theorem outline_comma (spaces : ∀ c ∈ blank, isSpace c = true) :
    outline (blank ++ ',' :: rest) = some (.symbol .comma) :: outline rest := by
  have gives : Flex.Gives scannerRules (blank ++ ',' :: rest) _ := gives_comma spaces
  rw [← List.singleton_append, ← List.append_assoc] at gives ⊢
  exact outline_symbol _ String.toList_ofList gives rfl

theorem outline_space (solid : blank ≠ []) (spaces : ∀ c ∈ blank, isSpace c = true)
    (apart : ∀ c late, rest = c :: late → isSpace c = false ∧ c ∉ delimiters) :
    outline (blank ++ rest) = some Shape.space :: outline rest :=
  outline_symbol _ String.toList_ofList (gives_space solid spaces apart) rfl

-- What is in front of a comma is read as on its own, but for white space at its end.
theorem outline_joined (rest : List Char) (clean : ¬ Damaged cs) (spaces : ∀ c ∈ blank, isSpace c = true) :
    ∃ front, (outline cs = front ∨ outline cs = front ++ [some Shape.space]) ∧
      outline (cs ++ (blank ++ ',' :: rest)) = front ++ some (.symbol .comma) :: outline rest := by
  induction cs using Token.scan_induction with
  | nil => exact ⟨[], .inl outline_nil, outline_comma spaces⟩
  | next token late gives ih =>
      have solid := (Token.gives_chars gives).1
      by_cases white : ∀ c ∈ token.chars ++ late, isSpace c = true
      · refine ⟨[], .inr ?_, ?_⟩
        · have alone : outline (token.chars ++ late ++ []) = some Shape.space :: outline [] :=
            outline_space (by simp [solid]) white nofun
          rwa [List.append_nil, outline_nil] at alone
        · rw [← List.append_assoc]
          exact outline_comma (List.forall_mem_append.mpr ⟨white, spaces⟩)
      · simp only [not_forall, Bool.not_eq_true] at white
        obtain ⟨c, present, black⟩ := white
        have settled := settled_of_clean clean
        rw [damaged_gives gives, not_or, Bool.not_eq_false] at clean
        have longer : token.chars ++ late ++ (blank ++ ',' :: rest) ≠ [] := by simp
        obtain ⟨next, behind, also, same⟩ := Token.exists_gives longer
        rcases gives.seam clean.1 settled ⟨c, present, black⟩ spaces also with
          rfl | ⟨name, lexeme, more, rfl, goes, named, rfl, rfl⟩
        · -- The token is as it was, and the question is left to what is behind it.
          rw [List.append_assoc] at also ⊢
          obtain ⟨front, early, joined⟩ := ih clean.2
          rw [outline_gives gives, outline_gives also, joined]
          split
          · exact ⟨front, early, rfl⟩
          · refine ⟨next.shape? :: front, early.imp (congrArg _) (congrArg _), rfl⟩
        · -- The token is the last, and the comma begins behind what it takes along.
          have meant : ∀ name ∈ nameRules, name.isIgnorable = false := by decide
          obtain ⟨left, rfl⟩ := goes
          obtain ⟨_, apart⟩ := List.forall_mem_append.mp spaces
          refine ⟨[some (.symbol name)], .inl ?_, ?_⟩
          · rw [outline_symbol (Token.symbol name lexeme).chars rfl gives (meant name named), outline_nil]
          · rw [List.append_nil, List.append_assoc, ← List.append_assoc] at also ⊢
            have covers : (lexeme ++ String.ofList more).toList =
                (Token.symbol name lexeme).chars ++ more := by
              rw [String.toList_append, String.toList_ofList]
              rfl
            rw [outline_symbol _ covers also (meant name named), outline_comma apart]
            rfl

theorem exists_outline (text : String) : ∃ shapes, outline text.toList = shapes.map some ∧
    (isValid text = true ↔ State.start.accepts shapes = true) := by
  obtain ⟨shapes, spells⟩ := exists_spells text
  exact ⟨shapes, spells, isValid_iff spells⟩

-- No selector begins with white space or a comma, nor with another of the delimiters.
theorem head_of_valid (valid : isValid text = true) :
    ∀ c late, text.toList = c :: late → isSpace c = false ∧ c ∉ delimiters := by
  intro c late same
  have longer : text.toList ≠ [] := same ▸ List.cons_ne_nil c late
  obtain ⟨token, rest, gives, parts⟩ := Token.exists_gives longer
  by_contra begins
  rw [not_and_or, Bool.not_eq_false, not_not] at begins
  obtain ⟨shape, stuck, meant, seen⟩ : ∃ shape, State.start.step shape = none ∧
      token.isComment = false ∧ token.shape? = some shape := by
    rw [same] at gives
    rcases gives.delimiter begins with rfl | ⟨name, listed, lexeme, rfl⟩
    · refine ⟨.literal c, ?_, rfl, rfl⟩
      have every : ∀ c ∈ [' ', '\t', '\r', '\n', '\x0c'] ++ delimiters,
          State.start.step (.literal c) = none := List.forall_iff_forall_mem.mp (by decide)
      exact every c (List.mem_append.mpr (begins.imp_left isSpace_cases))
    · have every : ∀ name ∈ [Symbol.space, .includes, .plus, .greater, .comma, .tilde],
          State.start.step (.symbol name) = none ∧ name.isIgnorable = false := by decide
      exact ⟨.symbol name, (every name listed).1, (every name listed).2, rfl⟩
  obtain ⟨shapes, outlined, judged⟩ := exists_outline text
  rw [parts] at gives outlined
  rw [outline_gives gives, meant, seen] at outlined
  obtain ⟨first, others, rfl, one, _⟩ := List.map_eq_cons_iff.mp outlined.symm
  obtain rfl := Option.some.inj one
  rw [judged, State.accepts, stuck] at valid
  cases valid

namespace State

-- White space at the end of a group, behind the argument of a negation, may be left out.
theorem accepts_trimmed (accepted : start.accepts (front ++ [Shape.space]) = true) :
    start.accepts front = true := by
  have every : ∀ state ∈ all, ∀ next ∈ state.step Shape.space, next.final = true →
      state.final = true := by decide
  obtain ⟨last, reached, final⟩ := accepts_iff.mp accepted
  rw [run_append] at reached
  obtain ⟨state, here, onward⟩ := Option.bind_eq_some_iff.mp reached
  obtain ⟨next, steps, ends⟩ := Option.bind_eq_some_iff.mp onward
  obtain rfl := Option.some.inj ends
  exact accepts_iff.mpr ⟨state, here, every state (mem_all state) next steps final⟩

theorem dropWhile_space (accepted : start.accepts front = true) :
    front.dropWhile (· == Shape.space) = front := by
  cases front with
  | nil => rfl
  | cons shape rest =>
      have other : (shape == Shape.space) = false := by
        apply beq_false_of_ne
        rintro rfl
        cases accepted
      rw [List.dropWhile_cons, other]
      rfl

end State

theorem accepted_front {left : List Shape} {shown : List (Option Shape)}
    (accepted : State.start.accepts left = true)
    (same : left.map some = shown ∨ left.map some = shown ++ [some Shape.space]) :
    ∃ front, shown = front.map some ∧ State.start.accepts front = true := by
  rcases same with same | same
  · exact ⟨left, same.symm, accepted⟩
  · obtain ⟨front, last, rfl, shows, ends⟩ := List.map_eq_append_iff.mp same
    obtain ⟨shape, rfl, one⟩ := List.map_eq_singleton_iff.mp ends
    obtain rfl := Option.some.inj one
    exact ⟨front, shows.symm, State.accepts_trimmed accepted⟩

-- A valid group is read behind white space as on its own.
theorem outline_behind (valid : isValid text = true) (spaces : ∀ c ∈ blank, isSpace c = true) :
    ∃ behind : List Shape, outline (blank ++ text.toList) = behind.map some ∧
      State.start.accepts (behind.dropWhile (· == Shape.space)) = true := by
  obtain ⟨shapes, outlined, judged⟩ := exists_outline text
  have accepted := judged.mp valid
  have kept := State.dropWhile_space accepted
  by_cases empty : blank = []
  · refine ⟨shapes, by rw [empty, List.nil_append, outlined], ?_⟩
    rwa [kept]
  · refine ⟨Shape.space :: shapes, ?_, ?_⟩
    · rw [outline_space empty spaces (head_of_valid valid), outlined]
      rfl
    · show State.start.accepts (shapes.dropWhile (· == Shape.space)) = true
      rwa [kept]

-- Two valid groups, a comma between them and any white space about it make a valid group.
theorem isValid_joined (one two before after : String) (first : isValid one = true)
    (second : isValid two = true) (spaces : ∀ c ∈ before.toList ++ after.toList, isSpace c = true) :
    isValid (one ++ before ++ "," ++ after ++ two) = true := by
  obtain ⟨early, late⟩ := List.forall_mem_append.mp spaces
  have clean : ¬ Damaged one.toList := by
    intro damaged
    rw [isValid_of_damaged damaged] at first
    cases first
  have text : (one ++ before ++ "," ++ after ++ two).toList =
      one.toList ++ (before.toList ++ ',' :: (after.toList ++ two.toList)) := by
    simp [String.toList_append]
  obtain ⟨left, leftOutline, leftJudged⟩ := exists_outline one
  obtain ⟨whole, wholeOutline, wholeJudged⟩ := exists_outline (one ++ before ++ "," ++ after ++ two)
  obtain ⟨shown, ahead, joined⟩ := outline_joined (after.toList ++ two.toList) clean early
  rw [leftOutline] at ahead
  obtain ⟨front, rfl, accepted⟩ := accepted_front (leftJudged.mp first) ahead
  obtain ⟨behind, follows, further⟩ := outline_behind second late
  have shapes : whole = front ++ .symbol .comma :: behind := by
    apply List.map_injective_iff.mpr (Option.some_injective Shape)
    rw [← wholeOutline, text, joined, follows, List.map_append, List.map_cons]
  rw [wholeJudged, shapes, State.accepts_comma]
  exact ⟨accepted, further⟩

-- The first ends with an escape that takes the line end along, and the second begins with a comment.
theorem isValid_joined_escape : isValid "a:not(\\62\r" = true ∧ isValid "/**/c" = true ∧
    (∀ c ∈ "\n ".toList ++ "\t".toList, isSpace c = true) ∧
    isValid ("a:not(\\62\r" ++ "\n " ++ "," ++ "\t" ++ "/**/c") = true := by
  have first : isValid "a:not(\\62\r" = true := by decide +kernel
  have second : isValid "/**/c" = true := by decide +kernel
  have spaces : ∀ c ∈ "\n ".toList ++ "\t".toList, isSpace c = true :=
    List.forall_iff_forall_mem.mp (by decide)
  exact ⟨first, second, spaces, isValid_joined _ _ _ _ first second spaces⟩

end CssSelectors
