import CssSelectors.Proofs.Parser.Trailing
import CssSelectors.Proofs.Token.Stream

-- To look at the token once more, wherever that is done, changes nothing that is answered afterwards.
namespace CssSelectors

-- Operations that stay with the text that is loaded, and that go on ignoring its comments.
def Operation.staysIgnoring : Operation → Bool
  | .load _ => false
  | .ignoreComments ignore => ignore
  | _ => true

-- A step of a plan: an operation of its own, or a look at the token that has been put in.
inductive Planned where
  | own (operation : Operation)
  | current
  | valid
deriving DecidableEq, Repr

namespace Planned

def operation : Planned → Operation
  | .own operation => operation
  | .current => .current
  | .valid => .valid

def own? : Planned → Option Operation
  | .own operation => some operation
  | _ => none

-- What becomes of the plan's own operations, with the state that each of them leaves.
def results (plan : List Planned) (parser : Parser) : List (Answer × Parser) :=
  (plan.zip (Operation.runAll (plan.map operation) parser)).filterMap fun step => step.1.own?.map fun _ => step.2

variable {plan : List Planned} {step : Planned} {parser : Parser} {operation : Operation}

theorem results_own : results (.own operation :: plan) parser =
    operation.run parser :: results plan (operation.run parser).2 := rfl

theorem results_put (put : step.own? = none) :
    results (step :: plan) parser = results plan (step.operation.run parser).2 := by
  unfold results
  rw [List.map_cons, Operation.runAll, List.zip_cons_cons, List.filterMap_cons, put]
  rfl

end Planned

variable {tokenizer : Tokenizer} {text : String} {one two : Parser} {operation : Operation} {plan : List Planned}

theorem Operation.trails_recognizing {phrase : Phrase} (ends : tokenizer text text.utf8ByteSize = .endOfText)
    (productive : phrase.productive = true) (trails : Parser.Trails tokenizer text one two) :
    ∃ answer first second, recognizing phrase.run one = (answer, first) ∧
      recognizing phrase.run two = (answer, second) ∧ Parser.Trails tokenizer text first second := by
  obtain ⟨outcome, first, second, ran, also, ended⟩ := Phrase.trails_run ends productive one two trails
  rw [Parser.mapError_id] at also
  simp only [recognizing, ran, also]
  exact ⟨_, _, _, rfl, rfl, ended⟩

theorem Parser.trails_parseSelectorsGroup (ends : tokenizer text text.utf8ByteSize = .endOfText)
    (trails : Parser.Trails tokenizer text one two) :
    ∃ result first second, one.parseSelectorsGroup = (result, first) ∧
      two.parseSelectorsGroup = (result, second) ∧ Parser.Trails tokenizer text first second := by
  have mode : one.cursor.ignoreComments = true := congrArg PlainCursor.ignoreComments trails.cursor.near.plain
  have also : two.cursor.ignoreComments = true := congrArg PlainCursor.ignoreComments trails.cursor.far.plain
  have productive : Phrase.selectorsGroupBody.productive = true := by decide
  obtain ⟨result, first, second, ran, came, ended⟩ := (Parser.stepwise_trails ends).parseSelectorsGroup
    (Phrase.trails_run ends productive) (trails.withCursor trails.cursor.ignoringComments)
    (also.trans mode.symm) (by
      intro first second ended
      rw [mode]
      exact ended.withCursor ended.cursor.ignoringComments)
  rw [Parser.mapError_id] at came
  exact ⟨result, first, second, ran, came, ended⟩

-- Two parsers of which one has been carried over comments answer the same.
theorem Operation.trails_run (ends : tokenizer text text.utf8ByteSize = .endOfText)
    (stays : operation.staysIgnoring = true) (trails : Parser.Trails tokenizer text one two) :
    ∃ answer first second, operation.run one = (answer, first) ∧ operation.run two = (answer, second) ∧
      Parser.Trails tokenizer text first second := by
  cases operation with
  | load text => cases stays
  | seek position => exact ⟨_, _, _, rfl, rfl, trails.withCursor (trails.cursor.seek position)⟩
  | rewind => exact ⟨_, _, _, rfl, rfl, trails.withCursor trails.cursor.rewind⟩
  | ignoreComments ignore =>
      obtain rfl : ignore = true := stays
      exact ⟨_, _, _, rfl, rfl, trails.withCursor trails.cursor.ignoringComments⟩
  | current =>
      obtain ⟨token, first, second, ran, also, _, ended⟩ := trails.cursor.current ends
      simp only [run, onCursor, ran, also]
      exact ⟨_, _, _, rfl, rfl, trails.withCursor ended⟩
  | next =>
      obtain ⟨result, first, second, ran, also, _, ended⟩ := trails.cursor.next ends
      simp only [run, onCursor, ran, also]
      exact ⟨_, _, _, rfl, rfl, trails.withCursor ended⟩
  | valid =>
      obtain ⟨more, first, second, ran, also, _, ended⟩ := trails.cursor.valid ends
      simp only [run, onCursor, ran, also]
      exact ⟨_, _, _, rfl, rfl, trails.withCursor ended⟩
  | tokens count =>
      obtain ⟨same, ended⟩ := trails.cursor.take ends count
      exact ⟨_, _, _, rfl, congrArg (fun items => (Answer.items items, _)) same, trails.withCursor ended⟩
  | newParser => exact ⟨_, _, _, rfl, rfl, trails.cursor, rfl, rfl, .none⟩
  | tracing enabled => exact ⟨_, _, _, rfl, rfl, trails.tracing enabled⟩
  | clearTrace => exact ⟨_, _, _, rfl, rfl, trails.clearTrace⟩
  | accept term => exact trails_recognizing ends term.phrase_consumes.1 trails
  | acceptChoice terms => exact trails_recognizing ends (Parser.choice_consumes terms).1 trails
  | expect term =>
      have productive : (Phrase.required term.phrase).productive = true := term.phrase_consumes.1
      exact trails_recognizing ends productive trails
  | expectChoice terms =>
      have productive : (Phrase.required (Phrase.choice (terms.map Term.phrase))).productive = true :=
        (Parser.choice_consumes terms).1
      exact trails_recognizing ends productive trails
  | selectorsGroup =>
      obtain ⟨result, first, second, ran, also, ended⟩ := Parser.trails_parseSelectorsGroup ends trails
      simp only [run, ran, also]
      exact ⟨_, _, _, rfl, rfl, ended⟩

-- Where something has been put in, both go on as far apart as they are then.
theorem Planned.results_trail (ends : tokenizer text text.utf8ByteSize = .endOfText)
    (stays : ∀ step ∈ plan, step.operation.staysIgnoring = true) (trails : Parser.Trails tokenizer text one two) :
    List.Forall₂ (fun plainly looking => looking.1 = plainly.1 ∧ Parser.Trails tokenizer text plainly.2 looking.2)
      (Operation.runAll (plan.filterMap own?) one) (results plan two) := by
  induction plan generalizing one two with
  | nil => exact .nil
  | cons step plan ih =>
      obtain ⟨first, others⟩ := List.forall_mem_cons.mp stays
      have looked : Parser.Trails tokenizer text one (two.withCursor two.cursor.current.2) :=
        trails.withCursor (trails.cursor.looked ends)
      cases step with
      | own operation =>
          obtain ⟨answer, after, beside, ran, also, ended⟩ := operation.trails_run ends first trails
          rw [results_own, also]
          show List.Forall₂ _ (operation.run one :: Operation.runAll (plan.filterMap own?) (operation.run one).2) _
          rw [ran]
          exact .cons ⟨rfl, ended⟩ (ih others ended)
      | current =>
          rw [results_put rfl]
          exact ih others looked
      | valid =>
          rw [results_put rfl]
          exact ih others looked

-- With comments ignored, a look at the token leaves the position at that token, which is no comment that covers
-- something, and a second look changes nothing at all. However many of them are put into a plan, its operations
-- answer what they answer without, and the positions and the trace are the same but for comments in between.
theorem looks_unnoticed (tokenizer : Tokenizer) :
    (∀ operations, (Operation.reached operations (Parser.on (Cursor.on tokenizer))).cursor.Sound tokenizer) ∧
    ∀ parser : Parser, parser.cursor.Sound tokenizer → parser.cursor.ignoreComments = true →
      tokenizer parser.cursor.source parser.cursor.source.utf8ByteSize = .endOfText →
      (tokenizer parser.cursor.source parser.cursor.current.2.offset = parser.cursor.current.1 ∧
        (parser.cursor.current.1.isComment = true → parser.cursor.current.1.byteLength = 0) ∧
        parser.cursor.current.2.current = parser.cursor.current) ∧
      ∀ plan : List Planned, (∀ step ∈ plan, step.operation.staysIgnoring = true) →
        List.Forall₂ (fun plainly looking => looking.1 = plainly.1 ∧
            Parser.Trails tokenizer parser.cursor.source plainly.2 looking.2)
          (Operation.runAll (plan.filterMap Planned.own?) parser) (Planned.results plan parser) := by
  refine ⟨fun operations => Operation.sound_reached operations (Cursor.sound_on tokenizer), ?_⟩
  intro parser sound ignoring ends
  have walks : parser.cursor.Walks tokenizer parser.cursor.source true parser.cursor.offset :=
    ignoring ▸ sound.walks
  obtain ⟨place, settles⟩ := exists_settles ends true walks.inside
  obtain ⟨after, read, walking⟩ := walks.current ends settles
  refine ⟨⟨?_, ?_, parser.cursor.current_twice⟩, fun plan stays => ?_⟩
  · rw [read, walking.position]
  · rw [read]
    exact settles.kept rfl
  · refine Planned.results_trail ends stays ⟨walks.trails walks .none, rfl, rfl, ?_⟩
    cases parser.trace with
    | none => exact .none
    | some entries => exact .some (List.forall₂_same.mpr fun entry _ => ⟨rfl, rfl, rfl, .none⟩)

def commented : Parser := (Parser.on ((Cursor.on tokenAt).load "/**/a/**/")).tracing true

-- Each of the looks goes past a comment that what comes next does not pass.
def glances : List Planned :=
  [.current, .own (.accept (.char '.')), .own (.accept (.production .selector)), .valid, .own (.expect (.char '.'))]

theorem looks_unnoticed_commented :
    commented.cursor.Sound tokenAt ∧ commented.cursor.ignoreComments = true ∧
    tokenAt commented.cursor.source commented.cursor.source.utf8ByteSize = .endOfText ∧
    (∀ step ∈ glances, step.operation.staysIgnoring = true) ∧
    (Operation.runAll (glances.filterMap Planned.own?) commented).map (fun ran => ran.2.cursor.offset) = [0, 5, 5] ∧
    (Planned.results glances commented).map (fun ran => ran.2.cursor.offset) = [4, 5, 9] ∧
    List.Forall₂ (fun plainly looking => looking.1 = plainly.1 ∧
        Parser.Trails tokenAt commented.cursor.source plainly.2 looking.2)
      (Operation.runAll (glances.filterMap Planned.own?) commented) (Planned.results glances commented) := by
  have sound : commented.cursor.Sound tokenAt := (Cursor.sound_on tokenAt).load _
  have ends : tokenAt commented.cursor.source commented.cursor.source.utf8ByteSize = .endOfText := tokenAt_end _
  have stays : ∀ step ∈ glances, step.operation.staysIgnoring = true := by decide
  obtain ⟨_, same⟩ := (looks_unnoticed tokenAt).2 commented sound rfl ends
  exact ⟨sound, rfl, ends, stays, by decide +kernel, by decide +kernel, same glances stays⟩

end CssSelectors
