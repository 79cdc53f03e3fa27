import CssSelectors.Parser.Operation
import CssSelectors.Proofs.Cursor.Plain

-- A parser on a cursor that remembers nothing, and that nobody can tell whether there is a cache.
namespace CssSelectors

structure PlainParser where
  cursor : PlainCursor
  depth : Nat := 0
  misses : List Miss := []
  trace : Option (List TraceEntry) := none

abbrev PlainRecognizer := PlainParser → Outcome × PlainParser

namespace PlainParser

def on (cursor : PlainCursor) : PlainParser := { cursor }

def remaining (parser : PlainParser) : Nat := parser.cursor.remaining

def withCursor (parser : PlainParser) (cursor : PlainCursor) : PlainParser := { parser with cursor }

def tracing (parser : PlainParser) (enabled : Bool) : PlainParser :=
  { parser with trace := if enabled then some (parser.trace.getD []) else none }

def clearTrace (parser : PlainParser) : PlainParser :=
  { parser with trace := parser.trace.map fun _ => [] }

def mismatch (context : List Term) (parser : PlainParser) : SelectorError × PlainParser :=
  match Frontier.ofMisses? parser.misses with
  | some frontier => (.mismatch context frontier.expected frontier.found frontier.offset, parser)
  | none =>
    let read := parser.cursor.current
    (.mismatch context context read.1 read.2.offset, parser.withCursor read.2)

def consume : PlainRecognizer := fun parser =>
  match parser.cursor.next with
  | (.ok _, moved) => (.ok true, parser.withCursor moved)
  | (.error failure, stopped) => (.error (.malformed failure), parser.withCursor stopped)

def acceptToken (term : Term) : PlainRecognizer := fun parser =>
  let read := parser.cursor.current
  if term.fits read.1 then consume (parser.withCursor read.2)
  else
    (.ok false, { parser with
      cursor := read.2.seek parser.cursor.offset
      misses := ⟨term, read.2.offset, read.1⟩ :: parser.misses })

def acceptSpace : PlainRecognizer := fun parser =>
  let read := parser.cursor.current
  if read.1.symbol? = some .space then consume (parser.withCursor read.2)
  else (.ok false, parser.withCursor read.2)

def moreText : PlainRecognizer := fun parser =>
  let read := parser.cursor.valid
  (.ok read.1, parser.withCursor read.2)

def pass : PlainRecognizer := fun parser => (.ok true, parser)

def repeatWhile (head tail : PlainRecognizer) (parser : PlainParser) : Outcome × PlainParser :=
  match head parser with
  | (.ok true, headed) =>
    match tail headed with
    | (.ok true, next) =>
      if next.remaining < parser.remaining then repeatWhile head tail next
      else (.error (.endless next.cursor.offset), next)
    | other => other
  | (.ok false, ended) => (.ok true, ended)
  | other => other
termination_by parser.remaining

def attempt (production : Production) (body : PlainRecognizer) : PlainRecognizer := fun parser =>
  match parser.trace with
  | none => body parser
  | some before =>
    let ran := body { parser with trace := some [] }
    let entry : TraceEntry := {
      production, offset := parser.cursor.offset, depth := parser.depth
      matched := match ran.1 with
        | .ok matched => matched
        | .error _ => false }
    (ran.1, { ran.2 with trace := some (ran.2.trace.getD [] ++ entry :: before) })

def acceptProduction (production : Production) (body : PlainRecognizer) : PlainRecognizer :=
  fun parser =>
    let ran := attempt production body { parser with depth := parser.depth + 1 }
    let cursor :=
      match ran.1 with
      | .ok false => ran.2.cursor.seek parser.cursor.offset
      | _ => ran.2.cursor
    (ran.1, { ran.2 with cursor, depth := ran.2.depth - 1 })

end PlainParser

-- What recognizing a phrase comes to on a cursor that remembers nothing.
def Phrase.runPlain : Phrase → PlainRecognizer
  | .char c, parser => parser.acceptToken (.char c)
  | .symbol name, parser => parser.acceptToken (.symbol name)
  | .production name body, parser => parser.acceptProduction name body.runPlain
  | .spaces, parser => parser.repeatWhile PlainParser.acceptSpace PlainParser.pass
  | .fail, parser => (.ok false, parser)
  | .either first second, parser =>
    match first.runPlain parser with
    | (.ok false, missed) => second.runPlain missed
    | other => other
  | .both first second, parser =>
    match first.runPlain parser with
    | (.ok true, matched) => second.runPlain matched
    | other => other
  | .optional phrase, parser =>
    match phrase.runPlain parser with
    | (.ok _, tried) => (.ok true, tried)
    | other => other
  | .absent phrase, parser =>
    match phrase.runPlain parser with
    | (.ok matched, tried) => (.ok !matched, tried)
    | other => other
  | .many phrase, parser => parser.repeatWhile phrase.runPlain PlainParser.pass
  | .toEnd phrase, parser => parser.repeatWhile PlainParser.moreText phrase.runPlain
  | .required phrase, parser =>
    match phrase.runPlain parser with
    | (.ok false, missed) =>
      if missed.depth = 0 then
        let failed := missed.mismatch phrase.terms
        (.error failed.1, failed.2)
      else (.ok false, missed)
    | other => other

namespace PlainParser

def parseSelectorsGroup (parser : PlainParser) : Except SelectorError Unit × PlainParser :=
  let ignore := parser.cursor.ignoreComments
  let ran := attempt .selectorsGroup Phrase.selectorsGroupBody.runPlain
    (parser.withCursor (parser.cursor.ignoringComments true))
  let ended := ran.2.withCursor (ran.2.cursor.ignoringComments ignore)
  match ran.1 with
  | .ok true => (.ok (), ended)
  | .ok false =>
    let failed := ended.mismatch [.production .selectorsGroup]
    (.error failed.1, failed.2)
  | .error failure => (.error failure, ended)

end PlainParser

namespace Operation

def onPlainCursor {α : Type} (read : PlainCursor → α × PlainCursor) (answer : α → Answer)
    (parser : PlainParser) : Answer × PlainParser :=
  let ran := read parser.cursor
  (answer ran.1, parser.withCursor ran.2)

def movingPlain (move : PlainCursor → PlainCursor) : PlainParser → Answer × PlainParser :=
  onPlainCursor (fun cursor => ((), move cursor)) fun _ => .done

def recognizingPlain (phrase : Phrase) (parser : PlainParser) : Answer × PlainParser :=
  let ran := phrase.runPlain parser
  (.recognized ran.1, ran.2)

def runPlain : Operation → PlainParser → Answer × PlainParser
  | .load text => movingPlain (·.load text)
  | .seek position => movingPlain (·.seek position)
  | .rewind => movingPlain PlainCursor.rewind
  | .ignoreComments ignore => movingPlain (·.ignoringComments ignore)
  | .current => onPlainCursor PlainCursor.current .token
  | .next => onPlainCursor PlainCursor.next .consumed
  | .valid => onPlainCursor PlainCursor.valid .running
  | .tokens count => onPlainCursor (PlainCursor.take count) .items
  | .newParser => fun parser => (.done, PlainParser.on parser.cursor)
  | .tracing enabled => fun parser => (.done, parser.tracing enabled)
  | .clearTrace => fun parser => (.done, parser.clearTrace)
  | .accept term => recognizingPlain term.phrase
  | .acceptChoice terms => recognizingPlain (Phrase.choice (terms.map Term.phrase))
  | .expect term => recognizingPlain (.required term.phrase)
  | .expectChoice terms => recognizingPlain (.required (Phrase.choice (terms.map Term.phrase)))
  | .selectorsGroup => fun parser =>
    let ran := parser.parseSelectorsGroup
    (.judged ran.1, ran.2)

def runAllPlain : List Operation → PlainParser → List (Answer × PlainParser)
  | [], _ => []
  | operation :: rest, parser =>
    let ran := operation.runPlain parser
    ran :: runAllPlain rest ran.2

end Operation

namespace Parser

-- What a parser is but for what its cursor remembers.
def plain (parser : Parser) : PlainParser :=
  ⟨parser.cursor.plain, parser.depth, parser.misses, parser.trace⟩

@[simp] theorem cursor_plain (parser : Parser) : parser.plain.cursor = parser.cursor.plain := rfl

@[simp] theorem misses_plain (parser : Parser) : parser.plain.misses = parser.misses := rfl

@[simp] theorem trace_plain (parser : Parser) : parser.plain.trace = parser.trace := rfl

-- On a sound cursor the parser does what the plain one does, and leaves the cursor sound.
def Reflects {α : Type} (run : Parser → α × Parser) (plainly : PlainParser → α × PlainParser) : Prop :=
  ∀ (tokenizer : Tokenizer) (parser : Parser), parser.cursor.Sound tokenizer → ∃ answer after,
    run parser = (answer, after) ∧ plainly parser.plain = (answer, after.plain) ∧
      after.cursor.Sound tokenizer

variable {recognizer head tail : Recognizer} {plainly heading tailing : PlainRecognizer}

theorem reflects_mismatch (context : List Term) :
    Reflects (mismatch context) (PlainParser.mismatch context) := by
  intro tokenizer parser sound
  unfold mismatch PlainParser.mismatch
  rw [misses_plain]
  cases Frontier.ofMisses? parser.misses with
  | some frontier => exact ⟨_, parser, rfl, rfl, sound⟩
  | none =>
      obtain ⟨token, after, read, same, kept⟩ := Cursor.reflects_current _ _ sound
      simp only [read, same, cursor_plain]
      exact ⟨_, parser.withCursor after, rfl, rfl, kept⟩

theorem reflects_consume : Reflects consume PlainParser.consume := by
  intro tokenizer parser sound
  obtain ⟨result, moved, stepped, same, kept⟩ := Cursor.reflects_next _ _ sound
  simp only [consume, PlainParser.consume, stepped, same, cursor_plain]
  cases result with
  | ok => exact ⟨_, parser.withCursor moved, rfl, rfl, kept⟩
  | error failure => exact ⟨_, parser.withCursor moved, rfl, rfl, kept⟩

theorem reflects_acceptToken (term : Term) :
    Reflects (acceptToken term) (PlainParser.acceptToken term) := by
  intro tokenizer parser sound
  obtain ⟨token, after, read, same, kept⟩ := Cursor.reflects_current _ _ sound
  simp only [acceptToken, PlainParser.acceptToken, read, same, cursor_plain]
  split
  · exact reflects_consume _ (parser.withCursor after) kept
  · exact ⟨_, _, rfl, rfl, kept.seek _⟩

theorem reflects_acceptSpace : Reflects acceptSpace PlainParser.acceptSpace := by
  intro tokenizer parser sound
  obtain ⟨token, after, read, same, kept⟩ := Cursor.reflects_current _ _ sound
  simp only [acceptSpace, PlainParser.acceptSpace, read, same, cursor_plain]
  split
  · exact reflects_consume _ (parser.withCursor after) kept
  · exact ⟨_, parser.withCursor after, rfl, rfl, kept⟩

theorem reflects_moreText : Reflects moreText PlainParser.moreText := by
  intro tokenizer parser sound
  obtain ⟨more, after, read, same, kept⟩ := Cursor.reflects_valid _ _ sound
  simp only [moreText, PlainParser.moreText, read, same, cursor_plain]
  exact ⟨_, parser.withCursor after, rfl, rfl, kept⟩

theorem reflects_pass : Reflects pass PlainParser.pass :=
  fun _ parser sound => ⟨_, parser, rfl, rfl, sound⟩

theorem Reflects.repeatWhile (first : Reflects head heading) (second : Reflects tail tailing) :
    Reflects (Parser.repeatWhile head tail) (PlainParser.repeatWhile heading tailing) := by
  intro tokenizer parser sound
  induction left : parser.remaining using Nat.strongRecOn generalizing parser with
  | _ size ih =>
      obtain ⟨outcome, headed, ran, same, kept⟩ := first _ parser sound
      rw [Parser.repeatWhile, PlainParser.repeatWhile]
      simp only [ran, same]
      rcases outcome with failure | _ | _
      · exact ⟨_, headed, rfl, rfl, kept⟩
      · exact ⟨_, headed, rfl, rfl, kept⟩
      · obtain ⟨outcome, next, ran, same, going⟩ := second _ headed kept
        simp only [ran, same]
        rcases outcome with failure | _ | _
        · exact ⟨_, next, rfl, rfl, going⟩
        · exact ⟨_, next, rfl, rfl, going⟩
        · by_cases nearer : next.remaining < parser.remaining
          · have plainer : next.plain.remaining < parser.plain.remaining := nearer
            simp only [if_pos nearer, if_pos plainer]
            exact ih _ (left ▸ nearer) next going rfl
          · have plainer : ¬ next.plain.remaining < parser.plain.remaining := nearer
            simp only [if_neg nearer, if_neg plainer]
            exact ⟨_, next, rfl, rfl, going⟩

theorem Reflects.attempt (production : Production) (reflects : Reflects recognizer plainly) :
    Reflects (Parser.attempt production recognizer) (PlainParser.attempt production plainly) := by
  intro tokenizer parser sound
  unfold Parser.attempt PlainParser.attempt
  rw [trace_plain]
  cases parser.trace with
  | none => exact reflects _ parser sound
  | some before =>
      obtain ⟨outcome, after, ran, same, kept⟩ := reflects _ { parser with trace := some [] } sound
      have begun : { parser.plain with trace := some [] } =
        ({ parser with trace := some [] } : Parser).plain := rfl
      simp only [ran, begun, same]
      exact ⟨_, _, rfl, rfl, kept⟩

theorem Reflects.acceptProduction (production : Production) (reflects : Reflects recognizer plainly) :
    Reflects (Parser.acceptProduction production recognizer)
      (PlainParser.acceptProduction production plainly) := by
  intro tokenizer parser sound
  obtain ⟨outcome, after, ran, same, kept⟩ :=
    reflects.attempt production _ { parser with depth := parser.depth + 1 } sound
  have begun : { parser.plain with depth := parser.plain.depth + 1 } =
    ({ parser with depth := parser.depth + 1 } : Parser).plain := rfl
  simp only [Parser.acceptProduction, PlainParser.acceptProduction, ran, begun, same]
  rcases outcome with failure | _ | _
  · exact ⟨_, _, rfl, rfl, kept⟩
  · exact ⟨_, _, rfl, rfl, kept.seek _⟩
  · exact ⟨_, _, rfl, rfl, kept⟩

end Parser

theorem Phrase.reflects_run (phrase : Phrase) : Parser.Reflects phrase.run phrase.runPlain := by
  induction phrase with
  | char c => exact Parser.reflects_acceptToken (.char c)
  | symbol name => exact Parser.reflects_acceptToken (.symbol name)
  | production name body ih => exact ih.acceptProduction name
  | spaces => exact Parser.reflects_acceptSpace.repeatWhile Parser.reflects_pass
  | fail => exact fun _ parser sound => ⟨_, parser, rfl, rfl, sound⟩
  | either first second one two =>
      intro tokenizer parser sound
      obtain ⟨outcome, missed, ran, same, kept⟩ := one _ parser sound
      simp only [run, runPlain, ran, same]
      rcases outcome with failure | _ | _
      · exact ⟨_, missed, rfl, rfl, kept⟩
      · exact two _ missed kept
      · exact ⟨_, missed, rfl, rfl, kept⟩
  | both first second one two =>
      intro tokenizer parser sound
      obtain ⟨outcome, matched, ran, same, kept⟩ := one _ parser sound
      simp only [run, runPlain, ran, same]
      rcases outcome with failure | _ | _
      · exact ⟨_, matched, rfl, rfl, kept⟩
      · exact ⟨_, matched, rfl, rfl, kept⟩
      · exact two _ matched kept
  | optional phrase ih =>
      intro tokenizer parser sound
      obtain ⟨outcome, tried, ran, same, kept⟩ := ih _ parser sound
      simp only [run, runPlain, ran, same]
      cases outcome with
      | ok matched => exact ⟨_, tried, rfl, rfl, kept⟩
      | error failure => exact ⟨_, tried, rfl, rfl, kept⟩
  | absent phrase ih =>
      intro tokenizer parser sound
      obtain ⟨outcome, tried, ran, same, kept⟩ := ih _ parser sound
      simp only [run, runPlain, ran, same]
      cases outcome with
      | ok matched => exact ⟨_, tried, rfl, rfl, kept⟩
      | error failure => exact ⟨_, tried, rfl, rfl, kept⟩
  | many phrase ih => exact ih.repeatWhile Parser.reflects_pass
  | toEnd phrase ih => exact Parser.reflects_moreText.repeatWhile ih
  | required phrase ih =>
      intro tokenizer parser sound
      obtain ⟨outcome, missed, ran, same, kept⟩ := ih _ parser sound
      simp only [run, runPlain, ran, same]
      rcases outcome with failure | _ | _
      · exact ⟨_, missed, rfl, rfl, kept⟩
      · by_cases outside : missed.depth = 0
        · have plainly : missed.plain.depth = 0 := outside
          obtain ⟨error, failed, blamed, also, ended⟩ :=
            Parser.reflects_mismatch phrase.terms _ missed kept
          simp only [if_pos outside, if_pos plainly, blamed, also]
          exact ⟨_, failed, rfl, rfl, ended⟩
        · have plainly : missed.plain.depth ≠ 0 := outside
          simp only [if_neg outside, if_neg plainly]
          exact ⟨_, missed, rfl, rfl, kept⟩
      · exact ⟨_, missed, rfl, rfl, kept⟩

theorem Parser.reflects_parseSelectorsGroup :
    Parser.Reflects Parser.parseSelectorsGroup PlainParser.parseSelectorsGroup := by
  intro tokenizer parser sound
  obtain ⟨outcome, after, ran, same, kept⟩ :=
    (Phrase.selectorsGroupBody.reflects_run).attempt .selectorsGroup _
      (parser.withCursor (parser.cursor.ignoringComments true)) (sound.ignoringComments true)
  have begun : parser.plain.withCursor (parser.plain.cursor.ignoringComments true) =
    (parser.withCursor (parser.cursor.ignoringComments true)).plain := rfl
  simp only [Parser.parseSelectorsGroup, PlainParser.parseSelectorsGroup, ran, begun, same]
  have ended := kept.ignoringComments parser.cursor.ignoreComments
  rcases outcome with failure | _ | _
  · exact ⟨_, _, rfl, rfl, ended⟩
  · obtain ⟨error, failed, blamed, also, last⟩ :=
      Parser.reflects_mismatch [.production .selectorsGroup] _
        (after.withCursor (after.cursor.ignoringComments parser.cursor.ignoreComments)) ended
    have closed : after.plain.withCursor
        (after.plain.cursor.ignoringComments parser.plain.cursor.ignoreComments) =
      (after.withCursor (after.cursor.ignoringComments parser.cursor.ignoreComments)).plain := rfl
    simp only [blamed, closed, also]
    exact ⟨_, failed, rfl, rfl, last⟩
  · exact ⟨_, _, rfl, rfl, ended⟩

namespace Operation

-- What answers something of the cursor alone.
theorem reflects_onCursor {α : Type} {read : Cursor → α × Cursor}
    {plainly : PlainCursor → α × PlainCursor} (reflects : Cursor.Reflects read plainly)
    (answer : α → Answer) : Parser.Reflects (onCursor read answer) (onPlainCursor plainly answer) := by
  intro tokenizer parser sound
  obtain ⟨result, after, ran, same, kept⟩ := reflects _ _ sound
  simp only [onCursor, onPlainCursor, Parser.cursor_plain, ran, same]
  exact ⟨_, parser.withCursor after, rfl, rfl, kept⟩

theorem reflects_moving {move : Cursor → Cursor} {plainly : PlainCursor → PlainCursor}
    (same : ∀ cursor, (move cursor).plain = plainly cursor.plain)
    (kept : ∀ (tokenizer : Tokenizer) (cursor : Cursor), cursor.Sound tokenizer →
      (move cursor).Sound tokenizer) :
    Parser.Reflects (moving move) (movingPlain plainly) := by
  refine reflects_onCursor (fun tokenizer cursor sound => ?_) _
  exact ⟨(), move cursor, rfl, by rw [same], kept tokenizer cursor sound⟩

theorem reflects_recognizing (phrase : Phrase) :
    Parser.Reflects (recognizing phrase.run) (recognizingPlain phrase) := by
  intro tokenizer parser sound
  obtain ⟨outcome, after, ran, same, kept⟩ := phrase.reflects_run _ parser sound
  simp only [recognizing, recognizingPlain, ran, same]
  exact ⟨_, after, rfl, rfl, kept⟩

theorem reflects_run (operation : Operation) :
    Parser.Reflects operation.run operation.runPlain := by
  cases operation with
  | load text => exact reflects_moving (fun _ => rfl) fun _ _ sound => sound.load text
  | seek position => exact reflects_moving (fun _ => rfl) fun _ _ sound => sound.seek position
  | rewind => exact reflects_moving (fun _ => rfl) fun _ _ sound => sound.rewind
  | ignoreComments ignore =>
      exact reflects_moving (fun _ => rfl) fun _ _ sound => sound.ignoringComments ignore
  | current => exact reflects_onCursor Cursor.reflects_current _
  | next => exact reflects_onCursor Cursor.reflects_next _
  | valid => exact reflects_onCursor Cursor.reflects_valid _
  | tokens count => exact reflects_onCursor (Cursor.reflects_take count) _
  | newParser => exact fun _ parser sound => ⟨_, Parser.on parser.cursor, rfl, rfl, sound⟩
  | tracing enabled => exact fun _ parser sound => ⟨_, parser.tracing enabled, rfl, rfl, sound⟩
  | clearTrace => exact fun _ parser sound => ⟨_, parser.clearTrace, rfl, rfl, sound⟩
  | accept term => exact reflects_recognizing _
  | acceptChoice terms => exact reflects_recognizing _
  | expect term => exact reflects_recognizing _
  | expectChoice terms => exact reflects_recognizing _
  | selectorsGroup =>
      intro tokenizer parser sound
      obtain ⟨result, after, ran, same, kept⟩ := Parser.reflects_parseSelectorsGroup _ parser sound
      simp only [run, runPlain, ran, same]
      exact ⟨_, after, rfl, rfl, kept⟩

theorem runAll_reflects (operations : List Operation) {parser : Parser} {tokenizer : Tokenizer}
    (sound : parser.cursor.Sound tokenizer) :
    (runAll operations parser).map (fun step => (step.1, step.2.plain)) =
      runAllPlain operations parser.plain := by
  induction operations generalizing parser with
  | nil => rfl
  | cons operation rest ih =>
      obtain ⟨answer, after, ran, same, kept⟩ := operation.reflects_run _ parser sound
      simp only [runAll, runAllPlain, ran, same, List.map_cons, ih kept]

theorem sound_reached (operations : List Operation) {parser : Parser} {tokenizer : Tokenizer}
    (sound : parser.cursor.Sound tokenizer) :
    (reached operations parser).cursor.Sound tokenizer := by
  induction operations generalizing parser with
  | nil => exact sound
  | cons operation rest ih =>
      obtain ⟨answer, after, ran, _, kept⟩ := operation.reflects_run _ parser sound
      have stepped : (operation.run parser).2 = after := by rw [ran]
      show (reached rest (operation.run parser).2).cursor.Sound tokenizer
      rw [stepped]
      exact ih kept

-- The cache shows in nothing that is answered, nor in the text, the position, the mode, the misses or
-- the trace; and wherever operations lead, it holds what the tokenizer says of the text loaded then.
theorem runAll_plain (tokenizer : Tokenizer) (operations : List Operation) :
    (runAll operations (Parser.on (Cursor.on tokenizer))).map (fun step => (step.1, step.2.plain)) =
        runAllPlain operations (PlainParser.on { tokenizer }) ∧
      ∃ cursor, (reached operations (Parser.on (Cursor.on tokenizer))).cursor = cursor ∧
        cursor.offset ≤ cursor.source.utf8ByteSize ∧
        ∀ entry ∈ cursor.cache, entry.1 ≤ cursor.source.utf8ByteSize ∧
          entry.2 = tokenizer cursor.source entry.1 := by
  have start : (Parser.on (Cursor.on tokenizer)).cursor.Sound tokenizer := Cursor.sound_on tokenizer
  have sound := sound_reached operations start
  exact ⟨runAll_reflects operations start, _, rfl, sound.within, sound.cached⟩

end Operation

end CssSelectors
