import CssSelectors.Proofs.Parser.Attempts
import CssSelectors.Proofs.Validation

-- Texts whose tokens have the same shapes cannot be told apart by validating them. Lexemes, comments and
-- offsets enter only where an error tells of the token at which it lies.
namespace CssSelectors

variable {shapes : List Shape} {one two : Course}

namespace Parser

variable {parser : Parser}

theorem trace_parseSelectorsGroup (parser : Parser) : parser.parseSelectorsGroup.2.trace =
    (attempt .selectorsGroup Phrase.selectorsGroupBody.run
      (parser.withCursor (parser.cursor.ignoringComments true))).2.trace := by
  unfold parseSelectorsGroup
  dsimp only
  split
  · rfl
  · exact trace_mismatch _ _
  · rfl

-- The attempts of a whole recognition, newest first.
theorem attempts?_parseSelectorsGroup (shapes : List Shape) : ∃ attempts : List Attempt,
    ∀ (course : Course) (parser : Parser), parser.depth = 0 →
      course.Stands (parser.cursor.ignoringComments true) shapes →
        parser.parseSelectorsGroup.2.attempts? = parser.attempts?.map (attempts ++ ·) := by
  have productive := Phrase.selectorsGroupBody_productive
  obtain ⟨attempts, told⟩ := Rehearsed.attempt .selectorsGroup
    (Phrase.everywhere productive 0) (Phrase.rehearsed productive 0) shapes
  refine ⟨attempts, fun course parser top stands => ?_⟩
  rw [attempts?_of_trace (trace_parseSelectorsGroup parser)]
  exact told course (parser.withCursor (parser.cursor.ignoringComments true)) top stands

theorem entries_attempt (parser : Parser) :
    parser.entries.map TraceEntry.attempt = (parser.attempts?.getD []).reverse := by
  unfold entries attempts?
  cases parser.trace with
  | none => rfl
  | some trace => simp

end Parser

theorem Validator.parseTraced_attempts (shapes : List Shape) : ∃ attempts : List Attempt,
    ∀ (course : Course) (validator : Validator), validator.cursor.tokenizer = course.tokenizer →
      course.Begun shapes →
        (validator.parseTraced course.text).2.1.map TraceEntry.attempt = attempts := by
  obtain ⟨attempts, told⟩ := Parser.attempts?_parseSelectorsGroup shapes
  refine ⟨attempts.reverse, fun course validator asks begun => ?_⟩
  have traced := told course ((Parser.on (validator.cursor.load course.text)).tracing true) rfl
    (begun.loaded asks)
  show (Parser.entries _).map TraceEntry.attempt = _
  rw [Parser.entries_attempt, traced]
  simp [Parser.attempts?, Parser.tracing, Parser.on]

-- Two verdicts on two rows of tokens: both accept, or both errors say the same of tokens with one
-- index. The index behind the last token stands for the end of the text.
inductive Alike (tokens others : List (Nat × Token)) (close final : Nat) :
    Except SelectorError Unit → Except SelectorError Unit → Prop where
  | accepted : Alike tokens others close final (.ok ()) (.ok ())
  | rejected (context expected : List Term) (index : Nat) (within : index ≤ tokens.length) :
      Alike tokens others close final
        (.error (.mismatch context expected (front (tokens.drop index) close).2
          (front (tokens.drop index) close).1))
        (.error (.mismatch context expected (front (others.drop index) final).2
          (front (others.drop index) final).1))

theorem Course.error_alike (same : one.tokens.length = two.tokens.length)
    (verdict : Except Reading.Fault Unit) :
    Alike one.tokens two.tokens one.close two.close (verdict.mapError one.error)
      (verdict.mapError two.error) := by
  cases verdict with
  | ok => exact .accepted
  | error fault =>
      simp only [Except.mapError, Course.error, Course.ahead, ← same]
      exact .rejected _ _ _ (Nat.sub_le _ _)

-- Whatever the tokenizers and whatever the validators have read before: equal shapes make equal verdicts
-- and the same attempts at productions.
theorem Validator.parseTraced_alike (validator another : Validator) (text other : String)
    (regular : Regular validator.cursor.tokenizer text)
    (too : Regular another.cursor.tokenizer other) :
    ∃ (tokens others : List (Nat × Token)) (ended finished : Tokens),
      (((Cursor.on validator.cursor.tokenizer).load text).tokens).drain? =
        some (tokens.map .ok, ended) ∧
      (((Cursor.on another.cursor.tokenizer).load other).tokens).drain? =
        some (others.map .ok, finished) ∧
      (tokens.map (fun token => token.2.shape?) = others.map (fun token => token.2.shape?) →
        Alike tokens others ended.cursor.offset finished.cursor.offset
          (validator.parseTraced text).1 (another.parseTraced other).1 ∧
        (validator.parseTraced text).2.1.map TraceEntry.attempt =
          (another.parseTraced other).2.1.map TraceEntry.attempt) := by
  obtain ⟨tokens, close, scans⟩ := regular.scans 0 (Nat.zero_le _)
  obtain ⟨others, final, scanned⟩ := too.scans 0 (Nat.zero_le _)
  obtain ⟨ended, walked, here⟩ := scans.drained regular
  obtain ⟨finished, drained, there⟩ := scanned.drained too
  obtain ⟨shapes, spells⟩ := scans.spells
  refine ⟨tokens, others, ended, finished, walked, drained, fun same => ?_⟩
  have begun : Course.Begun ⟨validator.cursor.tokenizer, text, tokens, close⟩ shapes := ⟨scans, spells⟩
  have begins : Course.Begun ⟨another.cursor.tokenizer, other, others, final⟩ shapes :=
    ⟨scanned, same.symm.trans spells⟩
  constructor
  case left =>
    have length := begun.spells.length.trans begins.spells.length.symm
    have verdict := Validator.parseTraced_eq validator rfl begun
    have second := Validator.parseTraced_eq another rfl begins
    rw [verdict, second, here, there]
    exact Course.error_alike length _
  case right =>
    obtain ⟨attempts, told⟩ := Validator.parseTraced_attempts shapes
    exact (told _ validator rfl begun).trans (told _ another rfl begins).symm

theorem Validator.parseTraced_alike_comma : Regular tokenAt "a,/**/" ∧ Regular tokenAt "div ," ∧
    ∃ (tokens others : List (Nat × Token)) (ended finished : Tokens),
      (((Cursor.on tokenAt).load "a,/**/").tokens).drain? = some (tokens.map .ok, ended) ∧
      (((Cursor.on tokenAt).load "div ,").tokens).drain? = some (others.map .ok, finished) ∧
      tokens.map (fun token => token.2.shape?) = others.map (fun token => token.2.shape?) ∧
      Alike tokens others ended.cursor.offset finished.cursor.offset
        ((Validator.on tokenAt).parseTraced "a,/**/").1 ((Validator.on tokenAt).parseTraced "div ,").1 ∧
      ((Validator.on tokenAt).parseTraced "a,/**/").2.1.map TraceEntry.attempt =
        ((Validator.on tokenAt).parseTraced "div ,").2.1.map TraceEntry.attempt := by
  have listed : ∀ {text tokens ended},
      (((Cursor.on tokenAt).load text).tokens).drain? = some (tokens.map .ok, ended) →
        tokens = significant (tokenize text) := by
    intro text tokens ended walked
    obtain ⟨_, same, _⟩ := (tokenize_scans text).drained (tokenAt_regular text)
    have items := congrArg Prod.fst (Option.some.inj (walked.symm.trans same))
    exact (List.map_inj_right fun _ _ => Except.ok.inj).mp items
  obtain ⟨tokens, others, ended, finished, walked, drained, alike⟩ := Validator.parseTraced_alike
    (Validator.on tokenAt) (Validator.on tokenAt) "a,/**/" "div ," (tokenAt_regular _) (tokenAt_regular _)
  have same : tokens.map (fun token => token.2.shape?) = others.map (fun token => token.2.shape?) := by
    rw [listed walked, listed drained]
    decide +kernel
  obtain ⟨verdicts, attempts⟩ := alike same
  exact ⟨tokenAt_regular _, tokenAt_regular _, tokens, others, ended, finished, walked, drained, same,
    verdicts, attempts⟩

end CssSelectors
