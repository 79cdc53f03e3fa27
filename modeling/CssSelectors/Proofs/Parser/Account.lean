import CssSelectors.Parser.Run

-- Recognition step by step: what is true of every step is true of a whole phrase. A statement may also tell
-- what a recognition passes through, by the grammar apart from what the parser itself keeps of it.
namespace CssSelectors

-- What to take down: where one token is compared, where white space is looked for, and where a production
-- is gone into, which comes before all that is inside it.
structure Scribe (α : Type) where
  token : Term → Parser → List α := fun _ _ => []
  space : Parser → List α := fun _ => []
  entering : Production → Phrase → Parser → List α := fun _ _ _ => []

-- Nothing is taken down.
def Scribe.silent : Scribe Empty := {}

-- Where the body of a production starts.
def Parser.entered (parser : Parser) : Parser := clearTrace { parser with depth := parser.depth + 1 }

-- A repetition, round by round.
def Parser.recordWhile {α : Type} (head tail : Recognizer) (first second : Parser → List α)
    (parser : Parser) : List α :=
  first parser ++
    match head parser with
    | (.ok true, headed) =>
      second headed ++
        match tail headed with
        | (.ok true, next) =>
          if next.remaining < parser.remaining then recordWhile head tail first second next else []
        | _ => []
    | _ => []
termination_by parser.remaining

namespace Phrase

-- What is taken down of recognizing a phrase, in the order in which it happens.
def record {α : Type} (scribe : Scribe α) : Phrase → Parser → List α
  | .char c, parser => scribe.token (.char c) parser
  | .symbol name, parser => scribe.token (.symbol name) parser
  | .production name body, parser => scribe.entering name body parser ++ body.record scribe parser.entered
  | .spaces, parser => parser.recordWhile Parser.acceptSpace Parser.pass scribe.space fun _ => []
  | .fail, _ => []
  | .either first second, parser =>
    first.record scribe parser ++
      match first.run parser with
      | (.ok false, missed) => second.record scribe missed
      | _ => []
  | .both first second, parser =>
    first.record scribe parser ++
      match first.run parser with
      | (.ok true, matched) => second.record scribe matched
      | _ => []
  | .optional phrase, parser => phrase.record scribe parser
  | .absent phrase, parser => phrase.record scribe parser
  | .many phrase, parser => parser.recordWhile phrase.run Parser.pass (phrase.record scribe) fun _ => []
  | .toEnd phrase, parser =>
    parser.recordWhile Parser.moreText phrase.run (fun _ => []) (phrase.record scribe)
  | .required phrase, parser => phrase.record scribe parser

end Phrase

namespace Parser

-- A statement about a step of recognition and what is taken down of it. It holds of the single steps, of
-- steps in a row, and of a production if of its body. A mismatch is told only outside of every attempt.
structure Account {α : Type} (scribe : Scribe α) (holds : Parser → Outcome × Parser → List α → Prop) :
    Prop where
  token : ∀ term parser, holds parser (acceptToken term parser) (scribe.token term parser)
  space : ∀ parser, holds parser (acceptSpace parser) (scribe.space parser)
  more : ∀ parser, holds parser (moreText parser) []
  stay : ∀ parser matched, holds parser (.ok matched, parser) []
  endless : ∀ parser, holds parser (.error (.endless parser.cursor.offset), parser) []
  mismatch : ∀ context parser, parser.depth = 0 →
    holds parser (.error (parser.mismatch context).1, (parser.mismatch context).2) []
  trans : ∀ {before middle ran early late matched}, holds before (.ok matched, middle) early →
    holds middle ran late → holds before ran (early ++ late)
  production : ∀ name body, (∀ parser, holds parser (body.run parser) (body.record scribe parser)) →
    ∀ parser, holds parser (acceptProduction name body.run parser)
      (scribe.entering name body parser ++ body.record scribe parser.entered)

variable {α : Type} {scribe : Scribe α} {holds : Parser → Outcome × Parser → List α → Prop}
  {head tail : Recognizer} {first second : Parser → List α} {before middle : Parser} {list : List α}
  {matched : Bool}

-- The same steps with another answer.
theorem Account.answered (account : Account scribe holds) (ran : holds before (.ok matched, middle) list)
    (answer : Bool) : holds before (.ok answer, middle) list := by
  have other := account.trans ran (account.stay middle answer)
  rwa [List.append_nil] at other

theorem Account.repeatWhile (account : Account scribe holds)
    (heading : ∀ parser, holds parser (head parser) (first parser))
    (tailing : ∀ parser, holds parser (tail parser) (second parser)) (parser : Parser) :
    holds parser (Parser.repeatWhile head tail parser) (recordWhile head tail first second parser) := by
  induction size : parser.remaining using Nat.strongRecOn generalizing parser with
  | _ left ih =>
      have headed := heading parser
      rw [Parser.repeatWhile, recordWhile]
      generalize head parser = ran at headed ⊢
      obtain ⟨failure | _ | _, middle⟩ := ran
      · simpa using headed
      · simpa using account.answered headed true
      · have tailed := account.trans headed (tailing middle)
        dsimp only
        generalize tail middle = came at tailed ⊢
        obtain ⟨failure | _ | _, next⟩ := came
        · simpa using tailed
        · simpa using tailed
        · dsimp only
          split
          · rename_i nearer
            rw [← List.append_assoc]
            exact account.trans tailed (ih _ (size ▸ nearer) next rfl)
          · simpa using account.trans tailed (account.endless next)

end Parser

-- What is true of every step is true of what is taken down of a phrase.
theorem Parser.Account.run {α : Type} {scribe : Scribe α} {holds : Parser → Outcome × Parser → List α → Prop}
    (account : Parser.Account scribe holds) (phrase : Phrase) (parser : Parser) :
    holds parser (phrase.run parser) (phrase.record scribe parser) := by
  induction phrase generalizing parser with
  | char c => exact account.token (.char c) parser
  | symbol name => exact account.token (.symbol name) parser
  | production name body ih => exact account.production name body ih parser
  | spaces => exact account.repeatWhile account.space (account.stay · true) parser
  | fail => exact account.stay parser false
  | either first second one two =>
      have tried := one parser
      simp only [Phrase.run, Phrase.record]
      generalize first.run parser = ran at tried ⊢
      obtain ⟨failure | _ | _, middle⟩ := ran
      · simpa using tried
      · exact account.trans tried (two middle)
      · simpa using tried
  | both first second one two =>
      have tried := one parser
      simp only [Phrase.run, Phrase.record]
      generalize first.run parser = ran at tried ⊢
      obtain ⟨failure | _ | _, middle⟩ := ran
      · simpa using tried
      · simpa using tried
      · exact account.trans tried (two middle)
  | optional phrase ih =>
      have tried := ih parser
      simp only [Phrase.run, Phrase.record]
      split
      · rename_i ran
        rw [ran] at tried
        exact account.answered tried true
      · exact tried
  | absent phrase ih =>
      have tried := ih parser
      simp only [Phrase.run, Phrase.record]
      split
      · rename_i ran
        rw [ran] at tried
        exact account.answered tried _
      · exact tried
  | many phrase ih => exact account.repeatWhile ih (account.stay · true) parser
  | toEnd phrase ih => exact account.repeatWhile account.more ih parser
  | required phrase ih =>
      have tried := ih parser
      simp only [Phrase.run, Phrase.record]
      split
      · rename_i missed ran
        rw [ran] at tried
        split
        · rename_i outside
          simpa using account.trans tried (account.mismatch phrase.terms missed outside)
        · exact tried
      · exact tried

end CssSelectors
