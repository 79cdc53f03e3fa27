import CssSelectors.Proofs.Parser.Account
import CssSelectors.Proofs.Parser.Attempts

-- The trace of a recognition is what the grammar tells of the attempts at productions.
namespace CssSelectors

namespace Phrase

-- Whether a phrase matches.
def matches? (phrase : Phrase) (parser : Parser) : Bool :=
  match (phrase.run parser).1 with
  | .ok matched => matched
  | .error _ => false

-- An attempt at a production, told where it is gone into: where it began, how deep, and how it ended.
def attemptScribe : Scribe TraceEntry where
  entering name body parser :=
    [⟨name, parser.cursor.offset, parser.depth + 1, body.matches? parser.entered⟩]

-- The attempts at productions, each before those inside it.
def attempts : Phrase → Parser → List TraceEntry := record attemptScribe

end Phrase

namespace Parser

-- A trace has the attempts that were made before, and now these.
def Traces (before : Parser) (ran : Outcome × Parser) (entries : List TraceEntry) : Prop :=
  ran.2.trace = before.trace.map (entries.reverse ++ ·)

theorem traces_nothing {before : Parser} {ran : Outcome × Parser} (same : ran.2.trace = before.trace) :
    Traces before ran [] := by
  rw [Traces, same]
  cases before.trace <;> rfl

theorem account_traces : Account Phrase.attemptScribe Traces where
  token term parser := traces_nothing (trace_acceptToken term parser)
  space parser := traces_nothing (trace_acceptSpace parser)
  more _ := traces_nothing rfl
  stay _ _ := traces_nothing rfl
  endless _ := traces_nothing rfl
  mismatch context parser _ := traces_nothing (trace_mismatch context parser)
  trans := by
    intro before middle ran early late matched begun ended
    unfold Traces at begun ended ⊢
    rw [ended, begun]
    simp [Option.map_map, Function.comp_def]
  production := by
    intro name body traces parser
    have inside := traces parser.entered
    unfold Traces entered clearTrace at inside
    simp only [Traces, acceptProduction, attempt, Phrase.attemptScribe, Phrase.matches?, entered, clearTrace]
    cases traced : parser.trace with
    | none =>
        simp only [traced, Option.map_none] at inside ⊢
        exact inside
    | some before =>
        simp only [traced, Option.map_some, List.append_nil] at inside ⊢
        rw [inside]
        simp [Phrase.attemptScribe]
        rfl

end Parser

-- A trace has the attempts that were made, whatever was noted and patched on the way.
theorem Phrase.traces_run (phrase : Phrase) (parser : Parser) :
    (phrase.run parser).2.trace = parser.trace.map ((phrase.attempts parser).reverse ++ ·) :=
  Parser.account_traces.run phrase parser

end CssSelectors
