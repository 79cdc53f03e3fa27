import CssSelectors.Proofs.Blame
import CssSelectors.Proofs.Escaping
import CssSelectors.Proofs.Malformed

-- What a token is shown as tells which token it is.
namespace CssSelectors

namespace Token

variable {hidden also : Char → Bool} {one other : Token} {name kind : Symbol} {lexeme text : String}

-- `display`, for any choice of the characters that are written by their code points.
def displayWith (hidden : Char → Bool) : Token → String
  | .symbol name lexeme => name.name ++ " " ++ Text.quoteWith hidden lexeme
  | .literal c => String.ofList ['\'', c, '\'']
  | .endOfText => "<end>"

theorem display_eq (token : Token) : token.display = token.displayWith Text.isHidden := by
  cases token with
  | symbol name lexeme => rw [display, displayWith, Text.quote_eq]
  | literal c => rfl
  | endOfText => rfl

theorem name_upper (name : Symbol) : ∀ c ∈ name.name.toList, c.isUpper = true := by
  apply List.all_eq_true.mp
  cases name <;> rfl

theorem toList_symbol : ((Token.symbol name lexeme).displayWith hidden).toList =
    name.name.toList ++ ' ' :: '"' :: (lexeme.toList.flatMap (Text.writeChar hidden) ++ ['"']) := by
  simp [displayWith, Text.quoteWith]

theorem toList_literal (c : Char) : ((Token.literal c).displayWith hidden).toList = ['\'', c, '\''] :=
  String.toList_ofList

theorem toList_end : (Token.endOfText.displayWith hidden).toList = ['<', 'e', 'n', 'd', '>'] :=
  String.toList_ofList

-- Just symbols are shown with a capital letter in front.
theorem upper_first (hidden : Char → Bool) (token : Token) :
    (token.displayWith hidden).toList.head?.any Char.isUpper = token.symbol?.isSome := by
  cases token with
  | symbol name lexeme =>
      rw [toList_symbol]
      cases name <;> rfl
  | literal c =>
      rw [toList_literal]
      rfl
  | endOfText =>
      rw [toList_end]
      rfl

theorem symbol_unique
    (same : (symbol name lexeme).displayWith hidden = (symbol kind text).displayWith also) :
    symbol name lexeme = symbol kind text := by
  have shown := congrArg String.toList same
  rw [toList_symbol, toList_symbol] at shown
  obtain ⟨front, behind⟩ := Text.split_at (name_upper name) (show ' '.isUpper = false from rfl) _
  obtain ⟨start, after⟩ := Text.split_at (name_upper kind) (show ' '.isUpper = false from rfl) _
  have named : name.name.toList = kind.name.toList := by rw [← front, shown, start]
  have quoted := behind.symm.trans ((congrArg (List.dropWhile Char.isUpper) shown).trans after)
  obtain ⟨_, written⟩ := List.cons.inj quoted
  obtain ⟨spelled, _⟩ := Text.written_unique (List.cons.inj written).2
  rw [Symbol.name_injective (String.toList_inj.mp named), String.toList_inj.mp spelled]

theorem displayWith_unique (same : one.displayWith hidden = other.displayWith also) : one = other := by
  have alike : one.symbol?.isSome = other.symbol?.isSome := by
    rw [← upper_first hidden one, same, upper_first]
  have shown := congrArg String.toList same
  cases one with
  | symbol name lexeme =>
      cases other with
      | symbol kind text => exact symbol_unique same
      | literal c => cases alike
      | endOfText => cases alike
  | literal c =>
      rw [toList_literal] at shown
      cases other with
      | symbol kind text => cases alike
      | literal d =>
          rw [toList_literal] at shown
          rw [(List.cons.inj (List.cons.inj shown).2).1]
      | endOfText =>
          rw [toList_end] at shown
          cases (List.cons.inj shown).1
  | endOfText =>
      rw [toList_end] at shown
      cases other with
      | symbol kind text => cases alike
      | literal c =>
          rw [toList_literal] at shown
          cases (List.cons.inj shown).1
      | endOfText => rfl

-- The only token with such a display.
theorem display_eq_iff {token : Token} : token.display = other.display ↔ token = other := by
  constructor
  · intro same
    rw [display_eq, display_eq] at same
    exact displayWith_unique same
  · exact congrArg display

end Token

variable {tokenizer : Tokenizer} {text : String} {failure : SelectorError}

-- The token that an error shows.
def SelectorError.token? : SelectorError → Option Token
  | .mismatch _ _ found _ => some found
  | .malformed failure => some failure.token
  | .endless _ => none

-- It is the one that the tokenizer has at the offset of the error.
def SelectorError.Located (failure : SelectorError) (tokenizer : Tokenizer) (text : String) : Prop :=
  ∀ token ∈ failure.token?, token = tokenizer text failure.offset

theorem SelectorError.Located.display_iff (located : failure.Located tokenizer text) :
    ∀ shown ∈ failure.token?, ∀ token : Token,
      token.display = shown.display ↔ token = tokenizer text failure.offset := by
  intro shown names token
  rw [Token.display_eq_iff, located shown names]

theorem Cursor.Halts.located {cursor : Cursor} {ignore : Bool} {malformed : MalformedToken}
    (halts : cursor.Halts tokenizer text ignore malformed) :
    (SelectorError.malformed malformed).Located tokenizer text := by
  rintro _ ⟨⟩
  exact halts.token.symm

namespace Operation

theorem reports_of_failure? {answer : Answer} {malformed : MalformedToken}
    (failed : answer.failure? = some (.malformed malformed)) : answer.Reports malformed := by
  unfold Answer.failure? at failed
  split at failed
  · exact congrArg Except.error (Option.some.inj failed)
  · exact congrArg Except.error (Option.some.inj failed)
  · cases failed

theorem located_run {earlier operations : List Operation} {operation : Operation}
    (goes : ∀ operation ∈ operations, operation.continues = true)
    (failed : (operation.run (reached operations (begun tokenizer earlier))).1.failure? = some failure) :
    failure.Located tokenizer (begun tokenizer earlier).cursor.source := by
  have sound : (begun tokenizer earlier).cursor.Sound tokenizer :=
    sound_reached earlier (Cursor.sound_on tokenizer)
  have holds := (works_reached goes ⟨sound, rfl⟩).holds
  cases failure with
  | mismatch context expected found offset =>
      have accounts := accounts_run goes failed
      rintro _ ⟨⟩
      by_cases none : missesOf (operations ++ [operation]) (begun tokenizer earlier) = []
      · obtain ⟨_, rfl, rfl⟩ := accounts.current none
        exact holds.current
      · exact (accounts.farthest none).2.2.2
  | malformed malformed =>
      have halts := halts_run holds.sound (reports_of_failure? failed)
      exact (holds.source ▸ halts).located
  | endless offset => exact nofun

end Operation

-- A parser that has missed nothing before.
theorem Parser.located_parseSelectorsGroup {parser : Parser} (holds : parser.cursor.Holds tokenizer text)
    (outside : parser.depth = 0) (fresh : parser.misses = [])
    (failed : parser.parseSelectorsGroup.1 = .error failure) : failure.Located tokenizer text := by
  cases failure with
  | mismatch context expected found offset =>
      have worked := Parser.works_parseSelectorsGroup holds
      have farthest := Parser.frontier_parseSelectorsGroup holds.sound outside failed
      rw [worked.log, fresh, List.append_nil] at farthest
      obtain ⟨_, _, _, stood, _⟩ :=
        Call.farthest farthest fun call among => worked.faced call (List.mem_of_mem_filter among)
      rintro _ ⟨⟩
      exact stood
  | malformed malformed =>
      have reports : (Operation.selectorsGroup.run parser).1.Reports malformed := failed
      have halts := Operation.halts_run holds.sound reports
      exact (holds.source ▸ halts).located
  | endless offset => exact nofun

-- No two tokens are shown alike, whatever characters are written by their code points. So what an error shows is
-- the display of one token alone, the one that the tokenizer has at the offset of the error, and that holds for
-- malformed tokens wherever they are reported.
theorem display_identifies :
    (∀ one other : Token, one.display = other.display → one = other) ∧
    (∀ token : Token, token.display = token.displayWith Text.isHidden) ∧
    (∀ (hidden also : Char → Bool) (one other : Token),
      one.displayWith hidden = other.displayWith also → one = other) ∧
    (∀ (tokenizer : Tokenizer) (earlier operations : List Operation) (operation : Operation)
        (failure : SelectorError), (∀ operation ∈ operations, operation.continues = true) →
      (operation.run (Operation.reached operations (Operation.begun tokenizer earlier))).1.failure? =
        some failure →
      ∀ shown ∈ failure.token?, ∀ token : Token, token.display = shown.display ↔
        token = tokenizer (Operation.begun tokenizer earlier).cursor.source failure.offset) ∧
    (∀ (validator : Validator) (text : String) (failure : SelectorError),
      (validator.parse text).1 = .error failure ∨ (validator.parseTraced text).1 = .error failure →
      ∀ shown ∈ failure.token?, ∀ token : Token, token.display = shown.display ↔
        token = validator.cursor.tokenizer text failure.offset) ∧
    ∀ (tokenizer : Tokenizer) (parser : Parser), parser.cursor.Sound tokenizer →
      ∀ (operation : Operation) (failure : MalformedToken), (operation.run parser).1.Reports failure →
        ∀ token : Token, token.display = failure.token.display ↔
          token = tokenizer parser.cursor.source failure.offset := by
  refine ⟨fun _ _ => Token.display_eq_iff.mp, Token.display_eq, fun _ _ _ _ => Token.displayWith_unique,
    fun _ _ _ _ _ goes failed => (Operation.located_run goes failed).display_iff, ?_, ?_⟩
  · intro validator text failure failed
    have holds : (validator.cursor.load text).Holds validator.cursor.tokenizer text :=
      ⟨⟨rfl, Nat.zero_le _, nofun⟩, rfl⟩
    rcases failed with plainly | traced
    · exact (Parser.located_parseSelectorsGroup holds rfl rfl plainly).display_iff
    · exact (Parser.located_parseSelectorsGroup holds rfl rfl traced).display_iff
  · intro tokenizer parser sound operation failure reports
    exact (Operation.halts_run sound reports).located.display_iff _ rfl

-- An open quotation with a tab, both escaped where it is shown.
def openQuotation : Token := .symbol .invalid "\"\t"

def openedParser : Parser := Operation.begun tokenAt [.load "[a=\"\t"]

theorem display_identifies_open :
    openQuotation.display = "INVALID \"\\\"\\t\"" ∧
    validate "[a=\"\t" =
      .error (.mismatch [.production .selector] [.symbol .ident, .symbol .string] openQuotation 3) ∧
    (∀ token : Token, token.display = "INVALID \"\\\"\\t\"" ↔ token = tokenAt "[a=\"\t" 3) ∧
    ((Operation.expect (.symbol .ident)).run (Operation.reached [.seek 3] openedParser)).1.failure? =
      some (.mismatch [.symbol .ident] [.symbol .ident] openQuotation 3) ∧
    (∀ token : Token, token.display = openQuotation.display ↔
      token = tokenAt openedParser.cursor.source 3) ∧
    (Operation.next.run (hollowParser 1)).1.Reports hollowName ∧
    ∀ token : Token, token.display = "IDENT \"\"" ↔ token = hollow ".a" 1 := by
  have shown : openQuotation.display = "INVALID \"\\\"\\t\"" := by decide +kernel
  have rejected : validate "[a=\"\t" =
      .error (.mismatch [.production .selector] [.symbol .ident, .symbol .string] openQuotation 3) := by
    decide +kernel
  have missed : ((Operation.expect (.symbol .ident)).run (Operation.reached [.seek 3] openedParser)).1.failure? =
      some (.mismatch [.symbol .ident] [.symbol .ident] openQuotation 3) := by decide +kernel
  have stuck : (hollowParser 1).cursor.next.1 = .error hollowName := by decide +kernel
  have sound : (hollowParser 1).cursor.Sound hollow := Operation.sound_reached _ (Cursor.sound_on hollow)
  obtain ⟨_, _, _, worked, judged, malformed⟩ := display_identifies
  refine ⟨shown, rejected, fun token => ?_, missed, fun token => ?_, stuck, fun token => ?_⟩
  · rw [← shown]
    exact judged (.on tokenAt) _ _ (.inl rejected) _ rfl token
  · exact worked tokenAt _ [.seek 3] _ _ (by decide) missed _ rfl token
  · exact malformed _ _ sound .next hollowName stuck token

end CssSelectors
