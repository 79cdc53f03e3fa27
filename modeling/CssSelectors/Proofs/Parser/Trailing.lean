import CssSelectors.Proofs.Cursor.Trailing
import CssSelectors.Proofs.Parser.Parallel
import CssSelectors.Proofs.Parser.Progress
import Mathlib.Data.List.Forall2

-- Two parsers of which the one has still to pass comments that the other one has passed come to the same results.
namespace CssSelectors

theorem Cursor.Walks.ending {cursor : Cursor} {tokenizer : Tokenizer} {text : String} {ignore : Bool} {offset : Nat}
    (walks : cursor.Walks tokenizer text ignore offset) (ends : tokenizer text text.utf8ByteSize = .endOfText) :
    cursor.Ending := by
  apply walks.toSound.ending
  rwa [walks.source]

-- The same attempt, but for comments before the place where it started.
structure TraceEntry.Trails (tokenizer : Tokenizer) (text : String) (one two : TraceEntry) : Prop where
  production : two.production = one.production
  depth : two.depth = one.depth
  matched : two.matched = one.matched
  skips : Skips tokenizer text one.offset two.offset

namespace Parser

-- Nothing differs but the position and the offsets in the trace, and they only by comments.
structure Trails (tokenizer : Tokenizer) (text : String) (one two : Parser) : Prop where
  cursor : Cursor.Trails tokenizer text one.cursor two.cursor
  depth : two.depth = one.depth
  misses : two.misses = one.misses
  trace : Option.Rel (List.Forall₂ (TraceEntry.Trails tokenizer text)) one.trace two.trace

variable {tokenizer : Tokenizer} {text : String} {one two : Parser} {near far : Cursor}
  {recognizer head tail : Recognizer} {first second : Bool}

theorem Trails.withCursor (trails : Trails tokenizer text one two) (beside : Cursor.Trails tokenizer text near far) :
    Trails tokenizer text (one.withCursor near) (two.withCursor far) :=
  ⟨beside, trails.depth, trails.misses, trails.trace⟩

-- Both keep a trace, or neither does.
theorem Trails.kept (trails : Trails tokenizer text one two) :
    (one.trace = none ∧ two.trace = none) ∨ ∃ before beside, one.trace = some before ∧ two.trace = some beside ∧
      List.Forall₂ (TraceEntry.Trails tokenizer text) before beside := by
  obtain ⟨_, _, _, trace⟩ := trails
  generalize one.trace = kept at trace
  generalize two.trace = also at trace
  cases trace with
  | none => exact .inl ⟨rfl, rfl⟩
  | some entries => exact .inr ⟨_, _, rfl, rfl, entries⟩

theorem Trails.entries (trails : Trails tokenizer text one two) :
    List.Forall₂ (TraceEntry.Trails tokenizer text) (one.trace.getD []) (two.trace.getD []) := by
  rcases trails.kept with ⟨none, also⟩ | ⟨before, beside, kept, also, entries⟩
  · rw [none, also]
    exact .nil
  · rw [kept, also]
    exact entries

theorem Trails.clearTrace (trails : Trails tokenizer text one two) :
    Trails tokenizer text one.clearTrace two.clearTrace := by
  refine ⟨trails.cursor, trails.depth, trails.misses, ?_⟩
  unfold Parser.clearTrace
  rcases trails.kept with ⟨none, also⟩ | ⟨before, beside, kept, also, _⟩
  · rw [none, also]
    exact .none
  · rw [kept, also]
    exact .some .nil

theorem Trails.tracing (trails : Trails tokenizer text one two) (enabled : Bool) :
    Trails tokenizer text (one.tracing enabled) (two.tracing enabled) := by
  refine ⟨trails.cursor, trails.depth, trails.misses, ?_⟩
  cases enabled with
  | true => exact .some trails.entries
  | false => exact .none

variable (ends : tokenizer text text.utf8ByteSize = .endOfText)
include ends

theorem trails_consume : Agrees (Trails tokenizer text) id consume := by
  intro one two trails
  obtain ⟨result, first, second, ran, also, _, ended⟩ := trails.cursor.next ends
  simp only [consume, ran, also]
  cases result with
  | ok => exact ⟨_, _, _, rfl, rfl, trails.withCursor ended⟩
  | error failure => exact ⟨_, _, _, rfl, rfl, trails.withCursor ended⟩

-- A miss is noted where the token stands, which is the same place, and each goes back to its own.
theorem trails_acceptToken (term : Term) : Agrees (Trails tokenizer text) id (acceptToken term) := by
  intro one two trails
  obtain ⟨token, first, second, read, also, position, ended⟩ := trails.cursor.current ends
  simp only [acceptToken, read, also]
  split
  · exact trails_consume ends _ _ (trails.withCursor ended)
  · refine ⟨_, _, _, rfl, rfl, trails.cursor.back ended, trails.depth, ?_, trails.trace⟩
    rw [position, trails.misses]

theorem trails_acceptSpace : Agrees (Trails tokenizer text) id acceptSpace := by
  intro one two trails
  obtain ⟨token, first, second, read, also, _, ended⟩ := trails.cursor.current ends
  simp only [acceptSpace, read, also]
  split
  · exact trails_consume ends _ _ (trails.withCursor ended)
  · exact ⟨_, _, _, rfl, rfl, trails.withCursor ended⟩

theorem trails_moreText : Agrees (Trails tokenizer text) id moreText := by
  intro one two trails
  obtain ⟨more, first, second, ran, also, _, ended⟩ := trails.cursor.valid ends
  simp only [moreText, ran, also]
  exact ⟨_, _, _, rfl, rfl, trails.withCursor ended⟩

theorem Trails.mismatch (trails : Trails tokenizer text one two) (context : List Term) :
    ∃ failure first second, one.mismatch context = (failure, first) ∧
      two.mismatch context = (failure, second) ∧ Trails tokenizer text first second := by
  obtain ⟨token, first, second, read, also, position, ended⟩ := trails.cursor.current ends
  simp only [Parser.mismatch, trails.misses, read, also]
  cases Frontier.ofMisses? one.misses with
  | some frontier => exact ⟨_, _, _, rfl, rfl, trails⟩
  | none => exact ⟨_, _, _, rfl, by rw [position], trails.withCursor ended⟩

omit ends in
-- An attempt may start before the comments with the one and behind them with the other.
theorem trails_attempt (production : Production) (agrees : Agrees (Trails tokenizer text) id recognizer) :
    Agrees (Trails tokenizer text) id (attempt production recognizer) := by
  intro one two trails
  unfold attempt
  rcases trails.kept with ⟨none, also⟩ | ⟨before, beside, kept, also, entries⟩
  · rw [none, also]
    exact agrees one two trails
  · rw [kept, also]
    obtain ⟨outcome, first, second, ran, came, ended⟩ := agrees { one with trace := some [] }
      { two with trace := some [] } ⟨trails.cursor, trails.depth, trails.misses, .some .nil⟩
    simp only [ran, came]
    refine ⟨_, _, _, rfl, rfl, ended.cursor, ended.depth, ended.misses, .some ?_⟩
    refine List.rel_append ended.entries (.cons ⟨rfl, trails.depth, ?_, trails.cursor.skips⟩ entries)
    cases outcome <;> rfl

theorem stepwise_trails : Stepwise (Trails tokenizer text) id where
  outside trails := by rw [trails.depth]
  token := trails_acceptToken ends
  space := trails_acceptSpace ends
  more := trails_moreText ends
  mismatch context trails := trails.mismatch ends context
  attempt production _ agrees := trails_attempt production agrees
  deeper trails := ⟨trails.cursor, congrArg (· + 1) trails.depth, trails.misses, trails.trace⟩
  back begun ended := ended.withCursor (begun.cursor.back ended.cursor)
  higher _ ended _ _ := ⟨ended.cursor, congrArg (· - 1) ended.depth, ended.misses, ended.trace⟩

-- Both make progress in every round, so both go on or both stop.
theorem trails_repeatWhile (heads : Agrees (Trails tokenizer text) id head)
    (tails : Agrees (Trails tokenizer text) id tail) (headed : Progressing first head) (heading : Keeping head)
    (tailed : Progressing second tail) (tailing : Keeping tail) (solid : (first || second) = true) :
    Agrees (Trails tokenizer text) id (repeatWhile head tail) := by
  intro one two trails
  induction size : one.remaining using Nat.strongRecOn generalizing one two with
  | _ left ih =>
      obtain ⟨outcome, middle, beside, ran, also, begun⟩ := heads one two trails
      rw [repeatWhile.eq_def head tail two, repeatWhile.eq_def head tail one]
      simp only [ran, also]
      rcases outcome with failure | _ | _
      · exact ⟨_, middle, beside, rfl, rfl, begun⟩
      · exact ⟨_, middle, beside, rfl, rfl, begun⟩
      · obtain ⟨outcome, next, other, came, too, ended⟩ := tails middle beside begun
        simp only [came, too, Except.mapError]
        rcases outcome with failure | _ | _
        · exact ⟨_, next, other, rfl, rfl, ended⟩
        · exact ⟨_, next, other, rfl, rfl, ended⟩
        · have nearer := (headed.round heading tailed tailing solid (trails.cursor.near.ending ends) ran came).2.1
          have also := (headed.round heading tailed tailing solid (trails.cursor.far.ending ends) also too).2.1
          simp only [if_pos nearer, if_pos also]
          exact ih _ (size ▸ nearer) next other ended rfl

end Parser

-- A phrase comes to the same in both, and leaves them as far apart as they were or less.
theorem Phrase.trails_run {tokenizer : Tokenizer} {text : String}
    (ends : tokenizer text text.utf8ByteSize = .endOfText) {phrase : Phrase} (productive : phrase.productive = true) :
    Parser.Agrees (Parser.Trails tokenizer text) id phrase.run := by
  have stepwise := Parser.stepwise_trails ends
  induction phrase with
  | char c => exact stepwise.token _
  | symbol name => exact stepwise.token _
  | production name body ih => exact stepwise.acceptProduction name body.keeping_run (ih productive)
  | spaces =>
      exact Parser.trails_repeatWhile ends stepwise.space Parser.agrees_pass Parser.progressing_acceptSpace
        Parser.keeping_acceptSpace Parser.progressing_pass Parser.keeping_pass rfl
  | fail => exact agrees_fail
  | either first second one two =>
      obtain ⟨left, right⟩ := Bool.and_eq_true_iff.mp productive
      exact agrees_either (one left) (two right)
  | both first second one two =>
      obtain ⟨left, right⟩ := Bool.and_eq_true_iff.mp productive
      exact agrees_both (one left) (two right)
  | optional phrase ih => exact agrees_optional (ih productive)
  | absent phrase ih => exact agrees_absent (ih productive)
  | many phrase ih =>
      obtain ⟨inside, solid⟩ := Bool.and_eq_true_iff.mp productive
      exact Parser.trails_repeatWhile ends (ih inside) Parser.agrees_pass (Phrase.progressing_run inside)
        phrase.keeping_run Parser.progressing_pass Parser.keeping_pass (by rw [solid]; rfl)
  | toEnd phrase ih =>
      obtain ⟨inside, solid⟩ := Bool.and_eq_true_iff.mp productive
      exact Parser.trails_repeatWhile ends stepwise.more (ih inside) Parser.progressing_moreText
        Parser.keeping_moreText (Phrase.progressing_run inside) phrase.keeping_run (by rw [solid]; rfl)
  | required phrase ih => exact agrees_required stepwise (ih productive)

end CssSelectors
