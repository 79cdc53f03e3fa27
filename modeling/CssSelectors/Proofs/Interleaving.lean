import CssSelectors.Proofs.Token.Damage
import CssSelectors.Proofs.Token.Splitting
import CssSelectors.Proofs.Transparency

open scoped Computability

-- With a comment between any two of its tokens a text is judged as before, however malformed it is.
namespace CssSelectors

-- A comment that no token but one left open can take as anything else.
structure Harmless (comment : List Char) : Prop where
  member : comment ∈ Flex.comment
  shape : ∃ inside, comment = '/' :: inside ++ ['/'] ∧ ∀ c ∈ inside, isPlain c = true

-- The tokens of a text with a comment between them.
def interleave (comment cs : List Char) : List Char :=
  comment.intercalate ((Token.scanAll 0 cs).map fun token => token.2.chars)

-- The shapes of the tokens that mean something.
def outline (cs : List Char) : List (Option Shape) :=
  (significant (Token.scanAll 0 cs)).map fun token => token.2.shape?

variable {comment cs rest more : List Char} {token : Token} {c : Char}

theorem Harmless.plain (harmless : Harmless comment) : ∀ c ∈ comment, c ≠ '\\' ∧ isQuote c = false := by
  obtain ⟨inside, rfl, plain⟩ := harmless.shape
  intro c present
  rcases List.mem_append.mp present with early | last
  · rcases List.mem_cons.mp early with rfl | within
    · decide
    · have apart : c ≠ '\\' ∧ isQuote c = false ∧ c ≠ '/' := by
        simpa [isPlain, isOpener] using plain c within
      exact ⟨apart.1, apart.2.1⟩
  · obtain rfl := List.mem_singleton.mp last
    decide

theorem harmless_of_body {body : List Char} (apart : ∀ c ∈ body, c ∉ ['*', '/', '"', '\'', '\\']) :
    Harmless ('/' :: '*' :: (body ++ ['*', '/'])) := by
  have plain : ∀ c ∈ body, isPlain c = true := by
    intro c present
    have other := apart c present
    simp only [List.mem_cons, List.not_mem_nil, or_false, not_or] at other
    simp [isPlain, isOpener, isQuote, other]
  refine ⟨⟨body, rfl, ?closed⟩, '*' :: (body ++ ['*']), by simp, ?plain⟩
  case closed =>
    intro inside
    have slash : '/' ∈ body ++ ['*'] := inside.subset (by decide)
    rcases List.mem_append.mp slash with within | last
    · exact apart '/' within (by decide)
    · cases List.mem_singleton.mp last
  case plain =>
    refine List.forall_mem_cons.mpr ⟨rfl, fun c present => ?_⟩
    rcases List.mem_append.mp present with within | last
    · exact plain c within
    · exact List.mem_singleton.mp last ▸ rfl

theorem map_chars_moved (width : Nat) (tokens : List (Nat × Token)) :
    (moved width tokens).map (fun token => token.2.chars) = tokens.map fun token => token.2.chars := by
  rw [moved, List.map_map]
  rfl

theorem interleave_nil : interleave comment [] = [] := by
  rw [interleave, Token.scanAll_nil]
  rfl

theorem interleave_last (gives : Flex.Gives scannerRules token.chars token) :
    interleave comment token.chars = token.chars := by
  have scanned : Token.scanAll 0 (token.chars ++ []) = _ := Token.scanAll_gives (by rwa [List.append_nil])
  rw [List.append_nil, Token.scanAll_nil] at scanned
  rw [interleave, scanned]
  exact List.intercalate_singleton

theorem interleave_gives (gives : Flex.Gives scannerRules (token.chars ++ rest) token) (solid : rest ≠ []) :
    interleave comment (token.chars ++ rest) = token.chars ++ (comment ++ interleave comment rest) := by
  obtain ⟨next, behind, follows, rfl⟩ := Token.exists_gives solid
  rw [interleave, interleave, Token.scanAll_gives gives, scanAll_add, List.map_cons, map_chars_moved,
    Token.scanAll_gives follows, List.map_cons, List.intercalate_cons_cons, List.append_assoc]

theorem interleave_single : interleave comment [c] = [c] := by
  obtain ⟨token, rest, gives, same⟩ := Token.exists_gives (List.cons_ne_nil c [])
  have solid := (Token.gives_chars gives).1
  rcases List.singleton_eq_append_iff.mp same with ⟨nothing, _⟩ | ⟨whole, _⟩
  · exact absurd nothing solid
  · rw [← whole] at gives ⊢
    exact interleave_last gives

-- The text still begins with its first character.
theorem interleave_cons : ∃ more, interleave comment (c :: cs) = c :: more := by
  obtain ⟨token, rest, gives, same⟩ := Token.exists_gives (List.cons_ne_nil c cs)
  have solid := (Token.gives_chars gives).1
  have begins : ∃ more, interleave comment (token.chars ++ rest) = token.chars ++ more := by
    rw [same] at gives
    by_cases ends : rest = []
    · subst ends
      rw [List.append_nil] at gives ⊢
      exact ⟨[], by rw [interleave_last gives, List.append_nil]⟩
    · exact ⟨_, interleave_gives gives ends⟩
  obtain ⟨more, joined⟩ := begins
  cases chars : token.chars with
  | nil => exact absurd chars solid
  | cons d tail =>
      rw [← same, chars] at joined
      rw [chars] at same
      obtain ⟨rfl, _⟩ := List.cons.inj same
      exact ⟨tail ++ more, joined⟩

theorem Harmless.gives (harmless : Harmless comment) : Flex.Gives scannerRules
    ((Token.symbol .comment (String.ofList comment)).chars ++ more)
    (.symbol .comment (String.ofList comment)) := by
  rw [Token.chars, String.toList_ofList]
  exact gives_comment harmless.member

theorem Flex.Gives.beside (gives : Flex.Gives scannerRules (token.chars ++ rest) token)
    (clean : token.isClean = true) (harmless : Harmless comment) :
    Flex.Gives scannerRules (token.chars ++ (comment ++ more)) token := by
  obtain ⟨inside, rfl, _⟩ := harmless.shape
  exact gives.before_slash clean (List.prefix_refl _) (gives.settled clean)

theorem outline_gives (gives : Flex.Gives scannerRules (token.chars ++ rest) token) :
    outline (token.chars ++ rest) =
      if token.isComment then outline rest else token.shape? :: outline rest := by
  have later : (significant (moved token.byteLength (Token.scanAll 0 rest))).map
      (fun token => token.2.shape?) = outline rest := by
    rw [significant_moved, moved, List.map_map]
    rfl
  rw [outline, Token.scanAll_gives gives, scanAll_add, significant_cons]
  split
  · exact later
  · rw [List.map_cons, later]

theorem outline_comment (harmless : Harmless comment) : outline (comment ++ more) = outline more := by
  have gives : Flex.Gives scannerRules (_ ++ more) _ := harmless.gives
  have scanned := outline_gives gives
  rw [Token.chars, String.toList_ofList] at scanned
  exact scanned

theorem damaged_comment (harmless : Harmless comment) (damaged : Damaged more) : Damaged (comment ++ more) := by
  have gives : Flex.Gives scannerRules (_ ++ more) _ := harmless.gives
  have scanned := (damaged_gives gives).mpr (.inr damaged)
  rw [Token.chars, String.toList_ofList] at scanned
  exact scanned

theorem outline_interleave (harmless : Harmless comment) (clean : ¬ Damaged cs) :
    outline (interleave comment cs) = outline cs := by
  induction cs using Token.scan_induction with
  | nil => rw [interleave_nil]
  | next token rest gives ih =>
      by_cases ends : rest = []
      · subst ends
        rw [List.append_nil] at gives ⊢
        rw [interleave_last gives]
      · rw [damaged_gives gives, not_or, Bool.not_eq_false] at clean
        rw [interleave_gives gives ends, outline_gives (gives.beside clean.1 harmless), outline_gives gives,
          outline_comment harmless, ih clean.2]

-- The first token that is not clean is no longer what it was, but it is not made good either.
theorem damaged_beside (gives : Flex.Gives scannerRules (token.chars ++ rest) token)
    (unclean : token.isClean = false) (harmless : Harmless comment) (solid : rest ≠ []) :
    Damaged (token.chars ++ (comment ++ interleave comment rest)) := by
  obtain ⟨c, behind, rfl⟩ := List.exists_cons_of_ne_nil solid
  obtain ⟨inside, rfl, plain⟩ := harmless.shape
  obtain ⟨more, joined⟩ : ∃ more, interleave ('/' :: inside ++ ['/']) (c :: behind) = c :: more :=
    interleave_cons
  cases token with
  | symbol name lexeme =>
      obtain rfl : name = .invalid := by simpa [Token.isClean] using unclean
      obtain ⟨mark, body, quote, chars, within, best⟩ := gives.quotation
      rw [Token.chars, chars] at best ⊢
      refine damaged_quotation quote within rfl harmless.plain ?_
      intro d tail begins
      rcases quotation_end quote within best with newline | ⟨rfl, rfl⟩
      · obtain rfl := (List.cons.inj (joined.symm.trans begins)).1
        exact .inl newline
      · rw [interleave_single] at begins
        obtain ⟨rfl, rfl⟩ := List.cons.inj begins
        exact .inr ⟨rfl, rfl⟩
  | literal d =>
      have special : d = '\\' ∨ d = '/' := by
        simpa [Token.isClean, Decidable.or_iff_not_imp_left] using unclean
      rcases special with rfl | rfl
      · -- Only a newline can be behind the backslash, so the comment is not followed by a star.
        have newline := gives.backslash
        have apart : (interleave ('/' :: inside ++ ['/']) (c :: behind)).head? ≠ some '*' := by
          rw [joined]
          intro star
          obtain rfl := Option.some.inj star
          cases newline
        have broken := damaged_backslash plain apart
        rw [List.append_assoc]
        exact broken
      · -- The slash that opens the comment begins no other.
        have broken : ∀ more, Damaged ([] ++ '/' :: ('/' :: more)) :=
          fun _ => damaged_slash (List.forall_mem_nil _) (by simp)
        exact broken _
  | endOfText => cases unclean

theorem damaged_interleave (harmless : Harmless comment) (damaged : Damaged cs) :
    Damaged (interleave comment cs) := by
  induction cs using Token.scan_induction with
  | nil => rwa [interleave_nil]
  | next token rest gives ih =>
      by_cases ends : rest = []
      · subst ends
        rw [List.append_nil] at gives damaged ⊢
        rwa [interleave_last gives]
      · rw [interleave_gives gives ends]
        cases clean : token.isClean with
        | true =>
            have later : Damaged rest := by
              rw [damaged_gives gives, clean] at damaged
              exact damaged.resolve_left nofun
            exact (damaged_gives (gives.beside clean harmless)).mpr (.inr (damaged_comment harmless (ih later)))
        | false => exact damaged_beside gives clean harmless ends

theorem isValid_of_outline {one two : String} (same : outline one.toList = outline two.toList) :
    isValid one = isValid two := by
  obtain ⟨shapes, spells⟩ := exists_spells one
  have respells : Spells (significant (tokenize two)) shapes := same.symm.trans spells
  rw [Bool.eq_iff_iff, isValid_iff spells, isValid_iff respells]

theorem isValid_of_damaged {text : String} (damaged : Damaged text.toList) : isValid text = false := by
  obtain ⟨token, present, unclean⟩ := damaged
  apply Bool.eq_false_iff.mpr
  intro valid
  rw [clean_of_valid (isValid_iff_ok.mp valid) token present] at unclean
  cases unclean

-- No text becomes valid, or ceases to be, by a comment between any two of its tokens.
theorem isValid_interleaved (text body : String)
    (apart : ∀ c ∈ body.toList, c ∉ ['*', '/', '"', '\'', '\\']) :
    isValid (("/*" ++ body ++ "*/").intercalate ((tokenize text).map fun token => token.2.written)) =
      isValid text := by
  have harmless := harmless_of_body apart
  have whole : (("/*" ++ body ++ "*/").intercalate
      ((tokenize text).map fun token => token.2.written)).toList =
      interleave ('/' :: '*' :: (body.toList ++ ['*', '/'])) text.toList := by
    have lexemes : String.toList ∘ (fun token : Nat × Token => token.2.written) =
        fun token => token.2.chars := funext fun _ => String.toList_ofList
    rw [String.toList_intercalate, List.map_map, lexemes, String.toList_append, String.toList_append]
    rfl
  by_cases damaged : Damaged text.toList
  · rw [isValid_of_damaged damaged]
    apply isValid_of_damaged
    rw [whole]
    exact damaged_interleave harmless damaged
  · apply isValid_of_outline
    rw [whole]
    exact outline_interleave harmless damaged

-- The open quotation takes the comment behind it into itself.
theorem isValid_interleaved_open : (∀ c ∈ " c ".toList, c ∉ ['*', '/', '"', '\'', '\\']) ∧
    (tokenize "a\"b\nc").map (fun token => token.2.written) = ["a", "\"b", "\n", "c"] ∧
    isValid (("/*" ++ " c " ++ "*/").intercalate ((tokenize "a\"b\nc").map fun token => token.2.written)) =
      isValid "a\"b\nc" := by
  have apart : ∀ c ∈ " c ".toList, c ∉ ['*', '/', '"', '\'', '\\'] := by
    have letters : " c ".toList = [' ', 'c', ' '] := rfl
    simp [letters]
  exact ⟨apart, by decide +kernel, isValid_interleaved "a\"b\nc" " c " apart⟩

end CssSelectors
