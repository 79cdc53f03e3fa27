import CssSelectors.Proofs.Token.Insertion

open scoped Computability

-- Where the first token that is not clean begins, a comment behind it leaves some token that is not: the
-- slash that ends the comment, or a quotation that is open still.
namespace CssSelectors

open Pattern

def Damaged (cs : List Char) : Prop := ∃ token ∈ Token.scanAll 0 cs, token.2.isClean = false

variable {cs word more front rest comment body : List Char} {token : Token} {c mark : Char} {index : Nat}
  {name : Symbol} {language : Language Char}

theorem damaged_gives (gives : Flex.Gives scannerRules (token.chars ++ rest) token) :
    Damaged (token.chars ++ rest) ↔ token.isClean = false ∨ Damaged rest := by
  rw [Damaged, Token.scanAll_gives gives, scanAll_add]
  constructor
  · rintro ⟨other, present, unclean⟩
    rcases List.mem_cons.mp present with rfl | later
    · exact .inl unclean
    · obtain ⟨earlier, there, rfl⟩ := List.mem_map.mp later
      exact .inr ⟨earlier, there, unclean⟩
  · rintro (unclean | ⟨other, there, unclean⟩)
    · exact ⟨_, List.mem_cons_self, unclean⟩
    · exact ⟨_, List.mem_cons_of_mem _ (List.mem_map_of_mem there), unclean⟩

-- A first token that is clean leaves the question to what is behind it.
theorem damaged_behind (solid : cs ≠ []) (behind : ∀ token rest, cs = token.chars ++ rest →
    Flex.Gives scannerRules cs token → token.isClean = true → Damaged rest) : Damaged cs := by
  obtain ⟨token, rest, gives, same⟩ := Token.exists_gives solid
  have further := behind token rest same gives
  rw [same] at gives ⊢
  rw [damaged_gives gives]
  cases clean : token.isClean with
  | true => exact .inr (further clean)
  | false => exact .inl rfl

theorem slash_gives (apart : rest.head? ≠ some '*') :
    Flex.Gives scannerRules ('/' :: rest) (.literal '/') := by
  apply Flex.Gives.literal rfl
  intro index name word takes
  obtain ⟨inside, rfl, _⟩ := takes.of_slash.1
  obtain ⟨more, same⟩ := takes.front
  rw [← (List.cons.inj same).2] at apart
  exact apart rfl

theorem Flex.Takes.shielded (takes : Flex.Takes scannerRules (c :: rest) index name (c :: word))
    (unopened : isOpener c = false) : Shielded (c :: word) := by
  obtain ⟨language, found, member⟩ := takes.rule
  rcases scannerRules_shielded _ (List.mem_of_getElem? found) with unshielded | shielded
  · rw [isOpener_of_open unshielded member] at unopened
    cases unopened
  · exact shielded _ member

-- What does not begin like a quotation or a comment ends before the first slash that nothing escapes.
theorem Flex.Gives.stops (gives : Flex.Gives scannerRules (c :: front ++ '/' :: rest) token)
    (unopened : isOpener c = false) (settled : pending (c :: front) = false) :
    token.chars <+: c :: front := by
  obtain ⟨solid, part⟩ := Token.gives_chars gives
  rcases List.prefix_or_prefix_of_prefix part (List.prefix_append _ _) with inside | ⟨more, beyond⟩
  · exact inside
  · cases more with
    | nil => rw [← beyond, List.append_nil]
    | cons d more =>
        rw [← beyond] at part
        obtain rfl := head_eq_of_front ((List.prefix_append_right_inj (c :: front)).mp part)
        cases gives with
        | @symbol index name lexeme takes best =>
            rw [Token.chars, String.toList_ofList] at beyond
            rw [← beyond] at takes
            have escaped := (takes.shielded unopened).slash (c :: front) more rfl
            rw [settled] at escaped
            cases escaped
        | literal first none => simp [Token.chars] at beyond

theorem pending_of_plain (plain : ∀ c ∈ word, isPlain c = true) : pending word = false := by
  apply pending_plain
  rintro c present rfl
  cases plain _ present

theorem damaged_slash (plain : ∀ c ∈ more, isPlain c = true) (apart : rest.head? ≠ some '*') :
    Damaged (more ++ '/' :: rest) := by
  induction size : more.length using Nat.strongRecOn generalizing more with
  | _ size ih =>
      subst size
      cases more with
      | nil =>
          have slash : Flex.Gives scannerRules ((Token.literal '/').chars ++ rest) (.literal '/') :=
            slash_gives apart
          exact (damaged_gives slash).mpr (.inl rfl)
      | cons c more =>
          apply damaged_behind (by simp)
          intro token behind same gives _
          obtain ⟨left, parts⟩ := gives.stops (isOpener_of_isPlain (plain c List.mem_cons_self))
            (pending_of_plain plain)
          have solid := List.length_pos_iff.mpr (Token.gives_chars gives).1
          have length := congrArg List.length parts
          rw [List.length_append] at length
          rw [← parts, List.append_assoc] at same
          rw [← List.append_cancel_left same]
          refine ih left.length (by omega) ?_ rfl
          intro d present
          exact plain d (parts ▸ List.mem_append_right _ present)

-- A backslash that was left alone takes the slash that opens the comment, but not the one that ends it.
theorem damaged_backslash (plain : ∀ c ∈ more, isPlain c = true) (apart : rest.head? ≠ some '*') :
    Damaged ('\\' :: '/' :: more ++ '/' :: rest) := by
  apply damaged_behind (by simp)
  intro token behind same gives clean
  have settled : pending ('\\' :: '/' :: more) = false := by
    have escape : pending ['\\', '/'] = false := rfl
    exact (pending_append escape).trans (pending_of_plain plain)
  obtain ⟨left, parts⟩ := gives.stops rfl settled
  have ends := gives.settled clean
  have solid := (Token.gives_chars gives).1
  rw [← parts, List.append_assoc] at same
  rw [← List.append_cancel_left same]
  cases chars : token.chars with
  | nil => exact absurd chars solid
  | cons c tail =>
      rw [chars] at parts ends
      obtain ⟨rfl, remains⟩ := List.cons.inj parts
      cases tail with
      | nil => cases ends
      | cons d tail =>
          obtain ⟨rfl, rfl⟩ := List.cons.inj remains
          exact damaged_slash (fun e present => plain e (List.mem_append_right _ present)) apart

-- A backslash and any other character are a piece of what they stand in.
theorem mem_escape_pair (solid : isNewline c = false) : ['\\', c] ∈ Flex.escape := by
  apply mem_escape.mpr
  cases hex : isHexDigit c with
  | true =>
      refine .inl ⟨[c], [], rfl, nofun, Nat.le_add_left 1 5, List.forall_mem_singleton.mpr hex, ?_⟩
      exact mem_escapeEnd.mpr (.inl rfl)
  | false => exact .inr ⟨c, rfl, solid, hex⟩

theorem mem_piece_pair (letterless : mark.isAlpha = false) : ['\\', c] ∈ Flex.piece mark := by
  apply (mem_piece letterless).mpr
  cases newline : isNewline c with
  | true => exact .inr (.inl ⟨[c], rfl, mem_nl.mpr (.inr ⟨c, rfl, newline⟩)⟩)
  | false => exact .inr (.inr (mem_escape_pair newline))

theorem mem_ident_pair (solid : isNewline c = false) : ['\\', c] ∈ Flex.ident := by
  have start : ['\\', c] ∈ Flex.nmstart := mem_nmstart.mpr (.inr (mem_escape_pair solid))
  exact Language.append_mem_mul (mem_dash.mpr (.inr rfl))
    (Language.append_mem_mul start (Language.nil_mem_kstar _))

-- Before anything but a newline a backslash begins a name.
theorem Flex.Gives.backslash (gives : Flex.Gives scannerRules ('\\' :: c :: rest) (.literal '\\')) :
    isNewline c = true := by
  cases newline : isNewline c with
  | true => rfl
  | false =>
      cases gives with
      | literal first none =>
          exact absurd ⟨⟨_, rfl, mem_ident_pair newline⟩, List.prefix_append ['\\', c] rest, nofun⟩
            (none 6 .ident ['\\', c])

-- What is read as an open quotation, and that no rule reads more.
theorem Flex.Gives.quotation {lexeme : String} (gives : Flex.Gives scannerRules cs (.symbol .invalid lexeme)) :
    ∃ mark body, isQuote mark = true ∧ lexeme.toList = mark :: body ∧ body ∈ Flex.body mark ∧
      ∀ index name word, Flex.Takes scannerRules cs index name word → word.length ≤ body.length + 1 := by
  cases gives with
  | @symbol index name word takes best =>
      obtain ⟨language, found, member⟩ := takes.rule
      have rule : scannerRules[17]? = some (.invalid, Flex.invalid) := rfl
      obtain ⟨rfl, rfl⟩ := rule_unique found rule
      obtain ⟨mark, body, quote, rfl, inside⟩ := invalid_shape member
      refine ⟨mark, body, quote, String.toList_ofList, inside, ?_⟩
      intro other symbol lexeme also
      have most := best other symbol lexeme also
      rw [List.length_cons] at most
      omega

-- A quotation is open because its line ends, or the text does, perhaps behind a backslash.
theorem quotation_end (quote : isQuote mark = true) (inside : body ∈ Flex.body mark)
    (best : ∀ index name word, Flex.Takes scannerRules (mark :: body ++ c :: rest) index name word →
      word.length ≤ body.length + 1) : isNewline c = true ∨ (c = '\\' ∧ rest = []) := by
  have letterless := isAlpha_of_isQuote quote
  have longer : ∀ piece behind, piece ∈ Flex.piece mark → piece ++ behind ≠ c :: rest := by
    intro piece behind one same
    have whole : body ++ piece ∈ Flex.body mark := by
      rw [Flex.body, ← kstar_mul_kstar]
      exact Language.append_mem_mul inside (Set.mem_of_mem_of_subset one (le_kstar (a := Flex.piece mark)))
    have short := best 17 .invalid (mark :: (body ++ piece)) ⟨⟨_, rfl, invalid_of_body quote whole⟩,
      ⟨behind, by simp [same]⟩, nofun⟩
    have solid := List.length_pos_iff.mpr ((pieces_piece letterless).solid one)
    simp only [List.length_cons, List.length_append] at short
    omega
  cases newline : isNewline c with
  | true => exact .inl rfl
  | false =>
      right
      by_cases slash : c = '\\'
      · subst slash
        refine ⟨rfl, ?_⟩
        cases rest with
        | nil => rfl
        | cons d rest => exact absurd rfl (longer ['\\', d] rest (mem_piece_pair letterless))
      · exfalso
        by_cases ends : c = mark
        · subst ends
          have short := best 7 .string (c :: (body ++ [c])) ⟨⟨_, rfl, string_of_body quote inside⟩,
            ⟨rest, by simp⟩, nofun⟩
          simp only [List.length_cons, List.length_append, List.length_nil] at short
          omega
        · have quotable : isQuotable mark c = true := by
            simp [isQuotable, newline, slash, ends]
          exact longer [c] rest ((mem_piece letterless).mpr (.inl ⟨c, rfl, quotable⟩)) rfl

theorem body_head (letterless : mark.isAlpha = false) (member : c :: word ∈ Flex.body mark) :
    isQuotable mark c = true ∨ c = '\\' := by
  obtain ⟨piece, others, rfl, one, _⟩ := (pieces_piece letterless).head member
  exact piece_head letterless one

-- Over characters that neither escape nor end it, the body of a quotation may be begun later.
theorem body_behind {late behind : List Char} (letterless : mark.isAlpha = false)
    (plain : ∀ c ∈ front, c ≠ '\\' ∧ c ≠ mark) (inside : late ∈ Flex.body mark)
    (same : front ++ rest = late ++ mark :: behind) :
    ∃ more ∈ Flex.body mark, rest = more ++ mark :: behind := by
  induction front generalizing late with
  | nil => exact ⟨late, inside, same⟩
  | cons c front ih =>
      obtain ⟨first, others⟩ := List.forall_mem_cons.mp plain
      cases late with
      | nil => exact absurd (List.cons.inj same).1 first.2
      | cons d late =>
          obtain ⟨rfl, remains⟩ := List.cons.inj same
          exact ih others ((pieces_piece letterless).tail first.1 inside) remains

-- A comment behind an open quotation is part of it, and leaves it open.
theorem quotation_open {long : List Char} (quote : isQuote mark = true) (inside : body ∈ Flex.body mark)
    (slashed : comment.head? = some '/') (plain : ∀ c ∈ comment, c ≠ '\\' ∧ isQuote c = false)
    (stop : ∀ c tail, rest = c :: tail → isNewline c = true ∨ (c = '\\' ∧ tail = []))
    (closed : long ∈ Flex.body mark) : ¬ long ++ [mark] <+: body ++ (comment ++ rest) := by
  rintro ⟨behind, same⟩
  have letterless := isAlpha_of_isQuote quote
  have unmarked : ∀ c ∈ comment, c ≠ '\\' ∧ c ≠ mark := by
    intro c present
    refine ⟨(plain c present).1, ?_⟩
    rintro rfl
    rw [(plain c present).2] at quote
    cases quote
  rcases Nat.lt_or_ge long.length body.length with shorter | longer
  · have early : long ++ [mark] <+: body :=
      List.prefix_of_prefix_length_le ⟨behind, same⟩ (List.prefix_append body _)
        (by rwa [List.length_append])
    obtain ⟨late, rfl⟩ := early
    rw [List.append_assoc] at inside
    exact quote_body quote closed inside
  · rw [List.append_assoc] at same
    obtain ⟨late, rfl, follows⟩ := split_longer same.symm longer
    rcases (pieces_piece letterless).onward inside closed with further | ⟨c, tail, rfl, trailing⟩
    · obtain ⟨more, within, rfl⟩ := body_behind letterless unmarked further follows
      cases more with
      | nil =>
          rcases stop mark behind rfl with newline | ⟨rfl, _⟩
          · rcases isQuote_cases quote with rfl | rfl
            · cases newline
            · cases newline
          · cases quote
      | cons d more =>
          rcases stop d _ rfl with newline | ⟨_, nothing⟩
          · rcases body_head letterless within with quotable | rfl
            · simp [isQuotable, newline] at quotable
            · cases newline
          · simp at nothing
    · cases comment with
      | nil => cases slashed
      | cons d comment =>
          obtain rfl := Option.some.inj slashed
          obtain ⟨rfl, _⟩ := List.cons.inj follows
          cases trailing

theorem damaged_quotation (quote : isQuote mark = true) (inside : body ∈ Flex.body mark)
    (slashed : comment.head? = some '/') (plain : ∀ c ∈ comment, c ≠ '\\' ∧ isQuote c = false)
    (stop : ∀ c tail, rest = c :: tail → isNewline c = true ∨ (c = '\\' ∧ tail = [])) :
    Damaged (mark :: body ++ (comment ++ rest)) := by
  apply damaged_behind (by simp)
  intro token behind same gives clean
  exfalso
  rcases gives.opener clean (isOpener_of_isQuote quote) with ⟨_, closed⟩ | ⟨rfl, _⟩
  · obtain ⟨other, long, _, chars, within⟩ := string_shape closed
    rw [chars, List.cons_append, List.cons_append] at same
    obtain ⟨rfl, remains⟩ := List.cons.inj same
    exact quotation_open quote inside slashed plain stop within ⟨behind, remains.symm⟩
  · cases quote

end CssSelectors
