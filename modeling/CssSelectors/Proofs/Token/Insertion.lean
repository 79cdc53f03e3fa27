import CssSelectors.Proofs.Token.Shielding

open scoped Computability

-- A comment between two tokens leaves both as they are.
namespace CssSelectors

open Pattern

-- Tokens that no slash behind them could change: neither an open quotation nor what may begin an
-- escape or a comment.
def Token.isClean : Token → Bool
  | .symbol name _ => name != .invalid
  | .literal c => !(c == '\\' || c == '/')
  | .endOfText => true

variable {language : Language Char} {word more front back behind rest : List Char} {c : Char}
  {token : Token} {symbol name : Symbol} {index : Nat}

theorem string_shape (member : word ∈ Flex.string) : ∃ mark body, isQuote mark = true ∧
    word = mark :: (body ++ [mark]) ∧ body ∈ Flex.body mark := by
  rcases member with double | single
  · obtain ⟨first, one, others, behind, rfl⟩ := Language.mem_mul.mp double
    obtain ⟨body, inside, last, two, rfl⟩ := Language.mem_mul.mp behind
    obtain rfl := (mem_text (by decide)).mp one
    obtain rfl := (mem_text (by decide)).mp two
    exact ⟨'"', body, rfl, rfl, inside⟩
  · obtain ⟨first, one, others, behind, rfl⟩ := Language.mem_mul.mp single
    obtain ⟨body, inside, last, two, rfl⟩ := Language.mem_mul.mp behind
    obtain rfl := (mem_text (by decide)).mp one
    obtain rfl := (mem_text (by decide)).mp two
    exact ⟨'\'', body, rfl, rfl, inside⟩

theorem invalid_shape (member : word ∈ Flex.invalid) : ∃ mark body, isQuote mark = true ∧
    word = mark :: body ∧ body ∈ Flex.body mark := by
  rcases member with double | single
  · obtain ⟨first, one, body, inside, rfl⟩ := Language.mem_mul.mp double
    obtain rfl := (mem_text (by decide)).mp one
    exact ⟨'"', body, rfl, rfl, inside⟩
  · obtain ⟨first, one, body, inside, rfl⟩ := Language.mem_mul.mp single
    obtain rfl := (mem_text (by decide)).mp one
    exact ⟨'\'', body, rfl, rfl, inside⟩

theorem invalid_of_body {mark : Char} (quote : isQuote mark = true) (inside : word ∈ Flex.body mark) :
    mark :: word ∈ Flex.invalid := by
  rcases isQuote_cases quote with rfl | rfl
  · exact .inl (Language.append_mem_mul (show ['"'] ∈ Flex.text "\"" from rfl) inside)
  · exact .inr (Language.append_mem_mul (show ['\''] ∈ Flex.text "'" from rfl) inside)

theorem string_of_body {mark : Char} (quote : isQuote mark = true) (inside : word ∈ Flex.body mark) :
    mark :: (word ++ [mark]) ∈ Flex.string := by
  rcases isQuote_cases quote with rfl | rfl
  · have one : ['"'] ∈ Flex.text "\"" := rfl
    exact .inl (Language.append_mem_mul one (Language.append_mem_mul inside one))
  · have one : ['\''] ∈ Flex.text "'" := rfl
    exact .inr (Language.append_mem_mul one (Language.append_mem_mul inside one))

theorem quote_body {mark : Char} {late : List Char} (quote : isQuote mark = true)
    (short : word ∈ Flex.body mark) : word ++ mark :: late ∉ Flex.body mark := by
  rcases isQuote_cases quote with rfl | rfl
  · exact body_mark rfl rfl (by decide) short
  · exact body_mark rfl rfl (by decide) short

-- What is closed by its mark is not the beginning of another such text, nor of one left open.
theorem string_ends (member : word ∈ Flex.string)
    (longer : word ++ more ∈ Flex.string ∨ word ++ more ∈ Flex.invalid) : more = [] := by
  obtain ⟨mark, body, quote, rfl, inside⟩ := string_shape member
  rcases longer with longer | longer
  · obtain ⟨other, long, _, same, within⟩ := string_shape longer
    rw [List.cons_append, List.append_assoc] at same
    obtain ⟨rfl, remains⟩ := List.cons.inj same
    rcases List.eq_nil_or_concat more with empty | ⟨init, last, rfl⟩
    · exact empty
    · have parts : (body ++ mark :: init) ++ [last] = long ++ [mark] := by
        rw [← remains]
        simp
      obtain ⟨rfl, _⟩ := List.append_inj' parts rfl
      exact absurd within (quote_body quote inside)
  · obtain ⟨other, long, _, same, within⟩ := invalid_shape longer
    rw [List.cons_append, List.append_assoc] at same
    obtain ⟨rfl, rfl⟩ := List.cons.inj same
    exact absurd within (quote_body quote inside)

theorem comment_ends (member : word ∈ Flex.comment) (longer : word ++ more ∈ Flex.comment) :
    more = [] := by
  obtain ⟨inside, rfl, going⟩ := member
  obtain ⟨other, same, others⟩ := longer
  have remains : inside ++ '*' :: '/' :: more = other ++ ['*', '/'] := by
    have tail := (List.cons.inj (List.cons.inj same).2).2
    rw [← tail]
    simp
  have short : commentEnd (inside ++ '*' :: '/' :: more) = some (inside.length + 2) :=
    commentEnd_inside going
  rw [remains, commentEnd_inside others] at short
  have lengths := congrArg List.length remains
  simp only [List.length_append, List.length_cons, List.length_nil, Option.some.injEq] at lengths short
  exact List.length_eq_zero_iff.mp (by omega)

theorem isOpener_of_isQuote (quote : isQuote c = true) : isOpener c = true := by
  rw [isOpener, quote, Bool.true_or]

theorem isOpener_of_open (rule : (name, language) ∈ openRules) (member : c :: word ∈ language) :
    isOpener c = true := by
  simp only [openRules, List.mem_cons, Prod.mk.injEq, List.not_mem_nil, or_false] at rule
  rcases rule with ⟨_, rfl⟩ | ⟨_, rfl⟩ | ⟨_, rfl⟩
  · obtain ⟨mark, body, quote, same, _⟩ := string_shape member
    exact (List.cons.inj same).1 ▸ isOpener_of_isQuote quote
  · obtain ⟨mark, body, quote, same, _⟩ := invalid_shape member
    exact (List.cons.inj same).1 ▸ isOpener_of_isQuote quote
  · obtain ⟨inside, same, _⟩ := member
    exact (List.cons.inj same).1 ▸ rfl

theorem head_eq_of_front {d : Char} {tail : List Char} (front : d :: tail <+: c :: rest) : d = c :=
  (List.cons_prefix_cons.mp front).1

-- A token that begins like a quoted text or a comment is one, unless it is left open.
theorem Flex.Gives.opener (gives : Flex.Gives scannerRules (c :: rest) token) (clean : token.isClean = true)
    (opener : isOpener c = true) :
    (isQuote c = true ∧ token.chars ∈ Flex.string) ∨ (c = '/' ∧ token.chars ∈ Flex.comment) := by
  cases gives with
  | @symbol index name lexeme takes best =>
      obtain ⟨language, found, member⟩ := takes.rule
      rw [Token.chars, String.toList_ofList]
      rcases scannerRules_shielded _ (List.mem_of_getElem? found) with unshielded | shielded
      · simp only [openRules, List.mem_cons, Prod.mk.injEq, List.not_mem_nil, or_false] at unshielded
        rcases unshielded with ⟨rfl, rfl⟩ | ⟨rfl, rfl⟩ | ⟨rfl, rfl⟩
        · obtain ⟨mark, body, quote, rfl, _⟩ := string_shape member
          exact .inl ⟨head_eq_of_front takes.front ▸ quote, member⟩
        · cases clean
        · obtain ⟨inside, rfl, _⟩ := id member
          exact .inr ⟨(head_eq_of_front takes.front).symm, member⟩
      · cases lexeme with
        | nil => exact absurd rfl takes.solid
        | cons d lexeme =>
            obtain rfl := head_eq_of_front takes.front
            have plain := (shielded _ member).opens d lexeme rfl
            rw [plain] at opener
            cases opener
  | literal first none =>
      cases first
      rcases isOpener_cases opener with quote | rfl
      · have first : ∃ language, scannerRules[17]? = some (.invalid, language) ∧ [c] ∈ language :=
          ⟨_, rfl, invalid_of_body quote (Language.nil_mem_kstar _)⟩
        exact absurd ⟨first, List.prefix_append [c] rest, List.cons_ne_nil _ _⟩ (none 17 .invalid [c])
      · cases clean

-- No quoted text and no comment goes on behind the end of one.
theorem open_within (gives : Flex.Gives scannerRules (front ++ back) token)
    (clean : token.isClean = true) (covers : token.chars <+: front) (rule : (name, language) ∈ openRules)
    (longer : more ≠ []) : front ++ more ∉ language := by
  intro member
  obtain ⟨left, rfl⟩ := covers
  have solid := (Token.gives_chars gives).1
  have goes : left ++ more ≠ [] := by simp [longer]
  rw [List.append_assoc] at member gives
  cases parts : token.chars with
  | nil => exact solid parts
  | cons c tail =>
      have opened := gives
      rw [parts, List.cons_append] at opened
      simp only [openRules, List.mem_cons, Prod.mk.injEq, List.not_mem_nil, or_false] at rule
      -- The token begins with the mark that the longer word begins with, and is closed.
      have quoted : token.chars ++ (left ++ more) ∈ Flex.string ∨
          token.chars ++ (left ++ more) ∈ Flex.invalid → isQuote c = true → False := by
        intro longer quote
        rcases opened.opener clean (isOpener_of_isQuote quote) with
          ⟨_, closed⟩ | ⟨rfl, _⟩
        · exact goes (string_ends closed longer)
        · cases quote
      rcases rule with ⟨rfl, rfl⟩ | ⟨rfl, rfl⟩ | ⟨rfl, rfl⟩
      · apply quoted (.inl member)
        obtain ⟨mark, body, quote, same, _⟩ := string_shape member
        rw [parts] at same
        exact (List.cons.inj same).1 ▸ quote
      · apply quoted (.inr member)
        obtain ⟨mark, body, quote, same, _⟩ := invalid_shape member
        rw [parts] at same
        exact (List.cons.inj same).1 ▸ quote
      · obtain ⟨inside, same, _⟩ := id member
        rw [parts] at same
        obtain rfl := (List.cons.inj same).1
        rcases opened.opener clean rfl with ⟨quote, _⟩ | ⟨_, closed⟩
        · cases quote
        · exact goes (comment_ends closed member)

-- Before a slash that nothing escapes, no rule reaches over the end of a token.
theorem Flex.Takes.within (gives : Flex.Gives scannerRules (front ++ back) token)
    (clean : token.isClean = true) (covers : token.chars <+: front) (settled : pending front = false)
    (takes : Flex.Takes scannerRules (front ++ '/' :: behind) index name word) : word <+: front := by
  rcases List.prefix_or_prefix_of_prefix takes.front (List.prefix_append front _) with
    inside | ⟨more, rfl⟩
  · exact inside
  · cases more with
    | nil => rw [List.append_nil]
    | cons d more =>
        obtain rfl := head_eq_of_front ((List.prefix_append_right_inj front).mp takes.front)
        obtain ⟨language, found, member⟩ := takes.rule
        rcases scannerRules_shielded _ (List.mem_of_getElem? found) with unshielded | shielded
        · exact absurd member (open_within gives clean covers unshielded (List.cons_ne_nil _ _))
        · have left := (shielded _ member).slash front more rfl
          rw [settled] at left
          cases left

theorem Flex.Gives.before_slash (gives : Flex.Gives scannerRules (front ++ back) token)
    (clean : token.isClean = true) (covers : token.chars <+: front) (settled : pending front = false) :
    Flex.Gives scannerRules (front ++ '/' :: behind) token := by
  have reaches : ∀ {index name word},
      Flex.Takes scannerRules (front ++ '/' :: behind) index name word →
        Flex.Takes scannerRules (front ++ back) index name word := by
    intro index name word takes
    have inside := takes.within gives clean covers settled
    exact ⟨takes.rule, inside.trans (List.prefix_append front back), takes.solid⟩
  cases gives with
  | symbol takes best =>
      rw [Token.chars, String.toList_ofList] at covers
      refine .symbol ⟨takes.rule, covers.trans (List.prefix_append front _), takes.solid⟩ ?_
      exact fun other symbol word also => best other symbol word (reaches also)
  | literal first none =>
      obtain ⟨left, rfl⟩ := covers
      exact .literal rfl fun other symbol word also => none other symbol word (reaches also)

theorem pending_concat : pending (word ++ [c]) = (!pending word && c == '\\') := by
  rw [pending, List.foldl_append]
  rfl

theorem Flex.Gives.settled {cs : List Char} (gives : Flex.Gives scannerRules cs token)
    (clean : token.isClean = true) : pending token.chars = false := by
  cases gives with
  | @symbol index name lexeme takes best =>
      obtain ⟨language, found, member⟩ := takes.rule
      rw [Token.chars, String.toList_ofList]
      rcases scannerRules_shielded _ (List.mem_of_getElem? found) with unshielded | shielded
      · simp only [openRules, List.mem_cons, Prod.mk.injEq, List.not_mem_nil, or_false] at unshielded
        rcases unshielded with ⟨rfl, rfl⟩ | ⟨rfl, rfl⟩ | ⟨rfl, rfl⟩
        · obtain ⟨mark, body, quote, rfl, _⟩ := string_shape member
          rw [← List.cons_append, pending_concat]
          have solid : (mark == '\\') = false := by
            apply beq_false_of_ne
            rintro rfl
            cases quote
          rw [solid, Bool.and_false]
        · cases clean
        · obtain ⟨inside, rfl, _⟩ := member
          have parts : '/' :: '*' :: (inside ++ ['*', '/']) = ('/' :: '*' :: (inside ++ ['*'])) ++ ['/'] := by
            simp
          rw [parts, pending_concat]
          exact Bool.and_false _
      · exact (shielded _ member).ends
  | literal first none =>
      simp only [Token.isClean, Bool.not_eq_true', Bool.or_eq_false_iff] at clean
      exact clean.1

-- What begins with a slash is a comment by the last of the rules.
theorem Flex.Takes.of_slash (takes : Flex.Takes scannerRules ('/' :: rest) index name word) :
    word ∈ Flex.comment ∧ 22 ≤ index := by
  obtain ⟨language, found, member⟩ := takes.rule
  have head : ∀ {d tail}, word = d :: tail → d = '/' := by
    rintro d tail rfl
    exact head_eq_of_front takes.front
  rcases scannerRules_shielded _ (List.mem_of_getElem? found) with unshielded | shielded
  · simp only [openRules, List.mem_cons, Prod.mk.injEq, List.not_mem_nil, or_false] at unshielded
    rcases unshielded with ⟨rfl, rfl⟩ | ⟨rfl, rfl⟩ | ⟨rfl, rfl⟩
    · obtain ⟨mark, body, quote, same, _⟩ := string_shape member
      rw [head same] at quote
      cases quote
    · obtain ⟨mark, body, quote, same, _⟩ := invalid_shape member
      rw [head same] at quote
      cases quote
    · have rule : scannerRules[22]? = some (.comment, Flex.comment) := rfl
      exact ⟨member, Nat.le_of_eq (rule_unique rule found).1⟩
  · cases lexeme : word with
    | nil => exact absurd lexeme takes.solid
    | cons d tail =>
        have plain := (shielded _ member).opens d tail lexeme
        rw [head lexeme] at plain
        cases plain

theorem gives_comment (member : word ∈ Flex.comment) :
    Flex.Gives scannerRules (word ++ rest) (.symbol .comment (String.ofList word)) := by
  obtain ⟨inside, shape, _⟩ := id member
  have takes : Flex.Takes scannerRules (word ++ rest) 22 .comment word :=
    ⟨⟨Flex.comment, rfl, member⟩, List.prefix_append word rest, by rw [shape]; exact List.cons_ne_nil _ _⟩
  apply Flex.Gives.symbol takes
  intro other symbol lexeme also
  have slashed := also
  rw [shape, List.cons_append] at slashed
  obtain ⟨comment, index⟩ := slashed.of_slash
  have same : lexeme.length = word.length := by
    rcases List.prefix_or_prefix_of_prefix also.front takes.front with ⟨more, rfl⟩ | ⟨more, rfl⟩
    · rw [comment_ends comment member, List.append_nil]
    · rw [comment_ends member comment, List.append_nil]
  exact .inr ⟨same, index⟩

def moved (width : Nat) (tokens : List (Nat × Token)) : List (Nat × Token) :=
  tokens.map fun token => (token.1 + width, token.2)

theorem significant_moved (width : Nat) (tokens : List (Nat × Token)) :
    significant (moved width tokens) = moved width (significant tokens) := by
  rw [significant, moved, List.filter_map]
  rfl

theorem scanAll_add (width : Nat) (cs : List Char) (offset : Nat) :
    Token.scanAll (offset + width) cs = moved width (Token.scanAll offset cs) := by
  induction cs using Token.scan_induction generalizing offset with
  | nil =>
      rw [Token.scanAll_nil, Token.scanAll_nil]
      rfl
  | next token rest gives ih =>
      rw [Token.scanAll_gives gives, Token.scanAll_gives gives, Nat.add_right_comm,
        ih (offset + token.byteLength)]
      rfl

theorem scanAll_le (cs : List Char) (offset : Nat) :
    ∀ token ∈ Token.scanAll offset cs, offset ≤ token.1 := by
  induction cs using Token.scan_induction generalizing offset with
  | nil =>
      rw [Token.scanAll_nil]
      exact nofun
  | next token rest gives ih =>
      rw [Token.scanAll_gives gives]
      refine List.forall_mem_cons.mpr ⟨Nat.le_refl _, fun other present => ?_⟩
      exact Nat.le_trans (Nat.le_add_right _ _) (ih _ other present)

theorem front_scanAll (offset : Nat) (cs : List Char) :
    (CssSelectors.front (Token.scanAll offset cs) (offset + Text.byteLength cs)).1 = offset := by
  by_cases empty : cs = []
  · subst empty
    rw [Token.scanAll_nil]
    rfl
  · obtain ⟨token, rest, gives, rfl⟩ := Token.exists_gives empty
    rw [Token.scanAll_gives gives]
    rfl

-- A text cut where a number of its tokens end.
structure Cut (offset : Nat) (front back : List Char) (before after : List (Nat × Token)) : Prop where
  earlier : ∀ token ∈ before, token.1 < offset + Text.byteLength front
  later : Token.scanAll (offset + Text.byteLength front) back = after
  settled : (∀ token ∈ before, token.2.isClean = true) → pending front = false
  slashed : (∀ token ∈ before, token.2.isClean = true) → ∀ behind,
    Token.scanAll offset (front ++ '/' :: behind) =
      before ++ Token.scanAll (offset + Text.byteLength front) ('/' :: behind)

theorem exists_cut {offset : Nat} {before after : List (Nat × Token)} {cs : List Char}
    (tokens : Token.scanAll offset cs = before ++ after) :
    ∃ front back, cs = front ++ back ∧ Cut offset front back before after := by
  induction before generalizing offset cs with
  | nil => exact ⟨[], cs, rfl, nofun, tokens, fun _ => rfl, fun _ _ => rfl⟩
  | cons first before ih =>
      obtain ⟨place, token⟩ := first
      obtain ⟨rest, rfl, rfl, gives, others⟩ := Token.scanAll_uncons tokens
      obtain ⟨front, back, rfl, cut⟩ := ih others
      have covers := Token.gives_byteLength gives
      have ends : offset + token.byteLength + Text.byteLength front =
          offset + Text.byteLength (token.chars ++ front) := by
        rw [Text.byteLength_append, Token.byteLength_chars, Nat.add_assoc]
      refine ⟨token.chars ++ front, back, (List.append_assoc ..).symm, ?earlier, ends ▸ cut.later,
        ?settled, ?slashed⟩
      case earlier =>
        rw [← ends]
        refine List.forall_mem_cons.mpr ⟨?_, cut.earlier⟩
        show offset < _
        omega
      case settled =>
        intro clean
        obtain ⟨this, others⟩ := List.forall_mem_cons.mp clean
        rw [pending_append (gives.settled this)]
        exact cut.settled others
      case slashed =>
        intro clean behind
        obtain ⟨this, others⟩ := List.forall_mem_cons.mp clean
        have settled : pending (token.chars ++ front) = false := by
          rw [pending_append (gives.settled this)]
          exact cut.settled others
        rw [← List.append_assoc] at gives
        have same : Flex.Gives scannerRules (token.chars ++ front ++ '/' :: behind) token :=
          gives.before_slash this (List.prefix_append _ _) settled
        rw [List.append_assoc] at same ⊢
        rw [Token.scanAll_gives same, cut.slashed others behind, ends]
        rfl

end CssSelectors
