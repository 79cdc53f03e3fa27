import CssSelectors.Cli.Run
import CssSelectors.Proofs.Grammar.Behind
import CssSelectors.Proofs.Rejection

-- A combinator behind a complete group is where validation stops, and it is what the error speaks of.
namespace CssSelectors

variable {text : String} {front back shapes : List Shape} {ending : State} {cursor : Cursor}
  {before after : List (Nat × Token)} {place : Nat} {token : Token}

-- What comes behind a complete group and cannot follow is where reading fails. A comma is among what could
-- have come there.
theorem recognize_stops (run : State.start.run front = some ending) (final : ending.final = true)
    (stuck : ending.Stuck back) (unnegated : Shape.symbol .not ∉ front) :
    ∃ expected : List Shape, Shape.symbol .comma ∈ expected ∧
      recognize (front ++ back) = .error ⟨[.symbol .comma], expected.map Shape.term, back.length⟩ := by
  obtain ⟨context, expected, faulted, names⟩ := recognize_fault run stuck unnegated
  obtain ⟨verdict, _⟩ := Phrase.selectorsGroupBody_stops run final stuck unnegated
  have same := Except.error.inj (faulted.symm.trans (recognize_failed verdict))
  have named : context = [.symbol .comma] :=
    (congrArg Reading.Fault.context same).trans (Reading.fault_context _ _)
  have steps := State.step_comma ending
  rw [if_pos final] at steps
  have continues : Viable (front ++ [.symbol .comma]) := by
    rw [viable_append_iff run, steps]
    rfl
  exact ⟨expected, (names _).mpr ⟨nofun, continues⟩, named ▸ faulted⟩

-- A parser that misses a comma stands at the token that is there instead.
theorem Validator.parse_stops {validator : Validator} (asks : validator.cursor.tokenizer = tokenAt)
    (spells : Spells (significant (tokenize text)) shapes)
    (verdict : (Phrase.selectorsGroupBody.read true shapes).verdict = .failed [.symbol .comma]) :
    (validator.parse text).2.cursor.offset =
      ((course text).ahead (Phrase.selectorsGroupBody.read true shapes).rest.length).1 := by
  have stands : (course text).Stands ((validator.cursor.load text).ignoringComments true) shapes :=
    (course_begun spells).loaded asks
  have followed := Phrase.simulates Phrase.selectorsGroupBody_productive true
    (Parser.on ((validator.cursor.load text).ignoringComments true)) shapes rfl stands
  rcases followed.comes with ⟨after, _, matched⟩ | ⟨after, _, missed⟩ | ⟨context, after, _, ran⟩
  · rw [verdict] at matched
    cases matched
  · rw [verdict] at missed
    cases missed
  · have settled := stands.settles verdict ran
    rw [ran] at followed
    rw [Validator.parse, Parser.parseSelectorsGroup_failed ran]
    exact settled.current.2.symm.trans followed.stands.current.2.1

-- A token of the text, as the tokenizer reports it where it begins.
theorem tokenAt_significant (tokens : significant (tokenize text) = before ++ (place, token) :: after) :
    tokenAt text place = token := by
  have present : (place, token) ∈ significant (tokenize text) := by simp [tokens]
  obtain ⟨earlier, later, whole⟩ := List.append_of_mem (List.mem_filter.mp present).1
  exact (tokenize_next whole).1

-- How an error reads that misses a comma.
theorem SelectorError.message_comma (expected : List Term) (found : Token) (offset : Nat) :
    (mismatch [.symbol .comma] expected found offset).message =
      "parse error at " ++ toString offset ++ ": expected " ++ Term.displayChoice expected ++
        ", found " ++ found.display ++ " (while matching " ++ "COMMA" ++ ")" := by
  have context : Term.displayChoice [.symbol .comma] = "COMMA" := by decide
  exact congrArg (fun context => "parse error at " ++ toString offset ++ ": expected " ++
    Term.displayChoice expected ++ ", found " ++ found.display ++ " (while matching " ++ context ++ ")") context

-- A group is complete, and a combinator comes: a comma is missed there, and that very token is reported,
-- whatever comes behind it.
theorem combinator_diagnosed (text : String) (before after : List (Nat × Token)) (place : Nat) (token : Token)
    (shapes : List Shape) (name : Symbol)
    (tokens : significant (tokenize text) = before ++ (place, token) :: after)
    (spells : before.map (fun token => token.2.shape?) = shapes.map some)
    (group : Form.group.Leaves shapes []) (unnegated : Shape.symbol .not ∉ shapes)
    (named : token.symbol? = some name) (combines : name.isCombinator = true) :
    ∃ (expected : List Term) (error : SelectorError), .symbol .comma ∈ expected ∧
      error = .mismatch [.symbol .comma] expected token place ∧
      error.message = "parse error at " ++ toString place ++ ": expected " ++ Term.displayChoice expected ++
        ", found " ++ token.display ++ " (while matching " ++ "COMMA" ++ ")" ∧
      validate text = .error error ∧ Cli.unsupportedCombinator text error = some name ∧
      ∀ validator : Validator, validator.cursor.tokenizer = tokenAt →
        (validator.parse text).1 = .error error ∧ (validator.parse text).2.cursor.offset = place := by
  obtain ⟨whole, spelled⟩ := exists_spells text
  have split := spelled
  rw [tokens] at split
  obtain ⟨front, back, rfl, ahead, behind⟩ := split.split
  obtain rfl := ahead.unique spells
  obtain ⟨shape, others, rfl, seen, _⟩ := behind.uncons
  obtain rfl : shape = .symbol name :=
    Option.some.inj (seen.symm.trans (Token.shape?_symbol.mpr named))
  obtain ⟨ending, run, final⟩ := State.accepts_iff.mp group.accepts
  have outside : ending.negating = false := State.run_outside rfl run unnegated
  have stuck := State.stuck_combinator outside final combines others
  obtain ⟨verdict, rest⟩ := Phrase.selectorsGroupBody_stops run final stuck unnegated
  obtain ⟨expected, among, faulted⟩ := recognize_stops run final stuck unnegated
  have here : (course text).ahead (Shape.symbol name :: others).length = (place, token) :=
    Course.ahead_eq ⟨before, tokens.symm⟩ behind
  have error : (course text).error ⟨[.symbol .comma], expected.map Shape.term, (Shape.symbol name :: others).length⟩ =
      .mismatch [.symbol .comma] (expected.map Shape.term) token place := by
    rw [Course.error, here]
  have judged : ∀ validator : Validator, validator.cursor.tokenizer = tokenAt → (validator.parse text).1 =
      .error (.mismatch [.symbol .comma] (expected.map Shape.term) token place) := by
    intro validator asks
    have parsed := Validator.parse_eq asks (course_begun spelled)
    rw [faulted] at parsed
    rw [← error]
    exact parsed
  refine ⟨expected.map Shape.term, _, List.mem_map_of_mem among, rfl, SelectorError.message_comma .., judged (.on tokenAt) rfl,
    ?_, ?_⟩
  · have reported := tokenAt_significant tokens
    simp only [Cli.unsupportedCombinator, SelectorError.isMismatch, SelectorError.offset, reported, named, if_true]
    simp [combines]
  · intro validator asks
    refine ⟨judged validator asks, ?_⟩
    rw [Validator.parse_stops asks spelled verdict, rest, here]

-- A comment stands before the combinator, and nothing that is a selector after it.
def childBehind : String := "a.b , *|c/**/ > )"

def childBefore : List (Nat × Token) :=
  [(0, .symbol .ident "a"), (1, .literal '.'), (2, .symbol .ident "b"), (3, .symbol .comma " ,"),
    (5, .symbol .space " "), (6, .literal '*'), (7, .literal '|'), (8, .symbol .ident "c")]

def childShapes : List Shape :=
  [.symbol .ident, .literal '.', .symbol .ident, .symbol .comma, .symbol .space, .literal '*', .literal '|',
    .symbol .ident]

theorem combinator_diagnosed_childBehind :
    significant (tokenize childBehind) =
      childBefore ++ (13, .symbol .greater " >") :: [(15, .symbol .space " "), (16, .literal ')')] ∧
    childBefore.map (fun token => token.2.shape?) = childShapes.map some ∧
    Form.group.Leaves childShapes [] ∧ Shape.symbol .not ∉ childShapes ∧
    ∃ (expected : List Term) (error : SelectorError), .symbol .comma ∈ expected ∧
      error = .mismatch [.symbol .comma] expected (.symbol .greater " >") 13 ∧
      validate childBehind = .error error ∧ Cli.unsupportedCombinator childBehind error = some .greater := by
  have tokens : significant (tokenize childBehind) =
      childBefore ++ (13, .symbol .greater " >") :: [(15, .symbol .space " "), (16, .literal ')')] := by
    decide +kernel
  have spells : childBefore.map (fun token => token.2.shape?) = childShapes.map some := by decide
  have group : Form.group.Leaves childShapes [] := accepts_iff.mp (by decide)
  obtain ⟨expected, error, among, same, _, judged, named, _⟩ :=
    combinator_diagnosed childBehind childBefore _ 13 _ childShapes .greater tokens spells group (by decide) rfl rfl
  exact ⟨tokens, spells, group, by decide, expected, error, among, same, judged, named⟩

end CssSelectors
