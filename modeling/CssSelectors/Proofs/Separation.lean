import CssSelectors.Proofs.Token.Splitting
import CssSelectors.Proofs.Validation

-- A comma leaves nothing open: what is before it and what is behind it are selector groups on their own.
namespace CssSelectors

-- What says nothing behind a comma.
def Token.isGap (token : Token) : Bool := token.isComment || token.symbol? == some .space

variable {tokens others : List (Nat × Token)} {front rest shapes : List Shape} {shape : Shape}
  {state : State} {token : Token}

namespace State

theorem step_comma (state : State) :
    state.step (.symbol .comma) = if state.final then some .afterComma else none := by
  have every : ∀ state ∈ all,
      state.step (.symbol .comma) = if state.final then some .afterComma else none := by decide
  exact every state (mem_all state)

theorem afterComma_accepts (shapes : List Shape) :
    afterComma.accepts shapes = start.accepts (shapes.dropWhile (· == Shape.space)) := by
  induction shapes with
  | nil => rfl
  | cons shape shapes ih =>
      by_cases spaced : shape = Shape.space
      · subst spaced
        exact ih
      · have same : afterComma.step shape = start.step shape := by
          simp [step, moves, List.lookup_cons, beq_false_of_ne spaced]
        rw [List.dropWhile_cons, beq_false_of_ne spaced, accepts, same]
        rfl

theorem accepts_comma : state.accepts (front ++ .symbol .comma :: rest) = true ↔
    state.accepts front = true ∧ start.accepts (rest.dropWhile (· == Shape.space)) = true := by
  rw [← afterComma_accepts, accepts_iff, accepts_iff, accepts_iff]
  constructor
  · rintro ⟨last, reached, final⟩
    rw [run_append] at reached
    obtain ⟨next, here, onward⟩ := Option.bind_eq_some_iff.mp reached
    rw [run, step_comma] at onward
    split at onward
    · rename_i ended
      exact ⟨⟨next, here, ended⟩, last, onward, final⟩
    · cases onward
  · rintro ⟨⟨next, here, ended⟩, last, onward, final⟩
    refine ⟨last, ?_, final⟩
    rw [run_from here, run, step_comma, if_pos ended]
    exact onward

end State

theorem isGap_of_shape (meant : token.isComment = false) (seen : token.shape? = some shape) :
    token.isGap = (shape == Shape.space) := by
  rw [Token.isGap, meant, Bool.false_or]
  cases token with
  | symbol name lexeme =>
      obtain rfl := Option.some.inj seen
      cases name <;> rfl
  | literal c =>
      obtain rfl := Option.some.inj seen
      rfl
  | endOfText => cases seen

namespace Spells

theorem moved_iff {width : Nat} : Spells (moved width tokens) shapes ↔ Spells tokens shapes := by
  rw [Spells, moved, List.map_map]
  rfl

theorem split (spells : Spells (tokens ++ others) shapes) :
    ∃ front rest, shapes = front ++ rest ∧ Spells tokens front ∧ Spells others rest := by
  rw [Spells, List.map_append] at spells
  obtain ⟨front, rest, rfl, one, two⟩ := List.map_eq_append_iff.mp spells.symm
  exact ⟨front, rest, rfl, one.symm, two.symm⟩

theorem uncons {first : Nat × Token} (spells : Spells (first :: tokens) shapes) :
    ∃ shape rest, shapes = shape :: rest ∧ first.2.shape? = some shape ∧ Spells tokens rest := by
  obtain ⟨shape, rest, rfl, one, two⟩ := List.map_eq_cons_iff.mp spells.symm
  exact ⟨shape, rest, rfl, one.symm, two.symm⟩

-- Without the gaps in front, the first token that means something is no white space.
theorem dropGaps (spells : Spells (significant tokens) shapes) :
    Spells (significant (tokens.dropWhile (·.2.isGap))) (shapes.dropWhile (· == Shape.space)) := by
  induction tokens generalizing shapes with
  | nil =>
      obtain rfl := List.map_eq_nil_iff.mp spells.symm
      rfl
  | cons first tokens ih =>
      rw [significant_cons] at spells
      cases comment : first.2.isComment with
      | true =>
          rw [comment] at spells
          have gap : first.2.isGap = true := by
            rw [Token.isGap, comment, Bool.true_or]
          rw [List.dropWhile_cons, gap]
          exact ih spells
      | false =>
          rw [comment] at spells
          obtain ⟨shape, rest, rfl, seen, behind⟩ := uncons spells
          have gap := isGap_of_shape comment seen
          rw [List.dropWhile_cons, List.dropWhile_cons, gap]
          cases spaced : shape == Shape.space with
          | true => exact ih behind
          | false =>
              simp only [Bool.false_eq_true, if_false, significant_cons, comment]
              exact spells

end Spells

-- What is before a comma and what is behind the gaps after it are judged as if each stood alone.
theorem isValid_separated (text lexeme : String) (offset : Nat) (before after : List (Nat × Token))
    (tokens : tokenize text = before ++ (offset, .symbol .comma lexeme) :: after) :
    ∃ first between last : String, text = first ++ between ++ last ∧
      first.utf8ByteSize = offset ∧
      (first ++ between).utf8ByteSize =
        (CssSelectors.front (after.dropWhile (·.2.isGap)) text.utf8ByteSize).1 ∧
      (isValid text = true ↔ isValid first = true ∧ isValid last = true) := by
  have parts : tokenize text = (before ++ (offset, .symbol .comma lexeme) :: after.takeWhile (·.2.isGap)) ++
      after.dropWhile (·.2.isGap) := by
    rw [tokens, List.append_assoc, List.cons_append, List.takeWhile_append_dropWhile]
  obtain ⟨early, last, rfl, scanned, later, ends⟩ := exists_tokenize_split parts
  obtain ⟨first, between, rfl, opened, _, begins⟩ := exists_tokenize_split scanned
  refine ⟨first, between, last, rfl, begins, ends, ?_⟩
  obtain ⟨shapes, whole⟩ := exists_spells (first ++ between ++ last)
  have meant : Token.isComment (.symbol .comma lexeme) = false := rfl
  have pieces := whole
  rw [tokens, significant_append, significant_cons, meant] at pieces
  obtain ⟨front, others, rfl, ahead, behind⟩ := pieces.split
  obtain ⟨comma, rest, rfl, seen, remains⟩ := behind.uncons
  obtain rfl := Option.some.inj seen
  have trimmed := remains.dropGaps
  rw [← later, significant_moved, Spells.moved_iff] at trimmed
  rw [← opened] at ahead
  rw [isValid_iff whole, isValid_iff ahead, isValid_iff trimmed, State.accepts_comma]

theorem isValid_separated_negation :
    tokenize "a /**/ , /**/:not(b" = [(0, .symbol .ident "a"), (1, .symbol .space " "),
      (2, .symbol .comment "/**/"), (6, .symbol .comma " ,"), (8, .symbol .space " "),
      (9, .symbol .comment "/**/"), (13, .symbol .not ":not("), (18, .symbol .ident "b")] ∧
    ∃ first between last : String, "a /**/ , /**/:not(b" = first ++ between ++ last ∧
      first.utf8ByteSize = 6 ∧ (first ++ between).utf8ByteSize = 13 ∧
      (isValid "a /**/ , /**/:not(b" = true ↔ isValid first = true ∧ isValid last = true) := by
  have tokens : tokenize "a /**/ , /**/:not(b" = [(0, .symbol .ident "a"), (1, .symbol .space " "),
      (2, .symbol .comment "/**/"), (6, .symbol .comma " ,"), (8, .symbol .space " "),
      (9, .symbol .comment "/**/"), (13, .symbol .not ":not("), (18, .symbol .ident "b")] := by
    decide +kernel
  exact ⟨tokens, isValid_separated "a /**/ , /**/:not(b" " ," 6
    [(0, .symbol .ident "a"), (1, .symbol .space " "), (2, .symbol .comment "/**/")] _ tokens⟩

end CssSelectors
