import CssSelectors.Proofs.Parser.Breaking
import CssSelectors.Proofs.Parser.Progress
import CssSelectors.Proofs.Token.Stream

-- A malformed token is reported where the tokenizer has it, whatever is tried in order to get past it, and
-- nowhere else.
namespace CssSelectors

-- Whether an answer tells of a malformed token.
def Answer.Reports (failure : MalformedToken) : Answer → Prop
  | .consumed result => result = .error failure
  | .items taken => .error failure ∈ taken
  | .recognized outcome => outcome = .error (.malformed failure)
  | .judged result => result = .error (.malformed failure)
  | .done | .token _ | .running _ => False

-- What operations ask for, token by token.
def Operation.asks : Operation → Parser → List Call
  | .accept term => term.phrase.asks
  | .acceptChoice terms => (Phrase.choice (terms.map Term.phrase)).asks
  | .expect term => term.phrase.asks
  | .expectChoice terms => (Phrase.choice (terms.map Term.phrase)).asks
  | .selectorsGroup => fun parser =>
    Phrase.selectorsGroupBody.asks (parser.withCursor (parser.cursor.ignoringComments true)).clearTrace
  | _ => fun _ => []

namespace Parser

theorem parseSelectorsGroup_malformed (parser : Parser) (failure : MalformedToken) :
    (parser.parseSelectorsGroup.1 = .error (.malformed failure) ↔
      ∃ call ∈ Operation.selectorsGroup.asks parser, call.Breaks failure) ∧
    (parser.parseSelectorsGroup.1 = .error (.malformed failure) →
      parser.parseSelectorsGroup.2.cursor.Stuck failure) := by
  have stops := Phrase.selectorsGroupBody.stops_run
    (parser.withCursor (parser.cursor.ignoringComments true)).clearTrace
  have outcome := attempt_outcome .selectorsGroup Phrase.selectorsGroupBody.run
    (parser.withCursor (parser.cursor.ignoringComments true))
  have cursor := attempt_cursor .selectorsGroup Phrase.selectorsGroupBody.run
    (parser.withCursor (parser.cursor.ignoringComments true))
  have fatal := stops.fatal failure
  have stuck := stops.stuck failure
  rw [← outcome] at fatal stuck
  rw [← cursor] at stuck
  unfold parseSelectorsGroup Operation.asks
  rw [← fatal]
  generalize attempt .selectorsGroup Phrase.selectorsGroupBody.run
    (parser.withCursor (parser.cursor.ignoringComments true)) = ran at stuck ⊢
  obtain ⟨other | _ | _, after⟩ := ran
  · refine ⟨by simp, fun failed => ?_⟩
    cases failed
    exact (stuck rfl).ignoringComments _
  · have unbroken := unbroken_mismatch (α := Unit) [.production .selectorsGroup]
      (after.withCursor (after.cursor.ignoringComments parser.cursor.ignoreComments)) failure
    exact ⟨by simpa using unbroken, fun failed => absurd failed unbroken⟩
  · exact ⟨by simp, nofun⟩

end Parser

-- A cursor that was stopped by a malformed token of a text: it stands before the token, in the mode that was
-- set, and will not get past it.
structure Cursor.Halts (cursor : Cursor) (tokenizer : Tokenizer) (text : String) (ignore : Bool)
    (failure : MalformedToken) : Prop where
  offset : cursor.offset = failure.offset
  source : cursor.source = text
  mode : cursor.ignoreComments = ignore
  token : tokenizer text failure.offset = failure.token
  empty : ∃ name, failure.token = .symbol name ""
  again : cursor.next.1 = .error failure

theorem Cursor.Stuck.halts {cursor : Cursor} {tokenizer : Tokenizer} {text : String} {ignore : Bool}
    {failure : MalformedToken} (stuck : cursor.Stuck failure) (sound : cursor.Sound tokenizer)
    (source : cursor.source = text) (mode : cursor.ignoreComments = ignore) :
    cursor.Halts tokenizer text ignore failure := by
  refine ⟨stuck.offset, source, mode, ?_, stuck.empty, congrArg Prod.fst stuck.next.1⟩
  rw [← source, ← sound.reported, stuck.reported]

namespace Operation

variable {operation : Operation} {parser : Parser} {failure : MalformedToken} {tokenizer : Tokenizer}

theorem stuck_run (reports : (operation.run parser).1.Reports failure) :
    (operation.run parser).2.cursor.Stuck failure := by
  have recognized (phrase : Phrase) (failed : (phrase.run parser).1 = .error (.malformed failure)) :
      (phrase.run parser).2.cursor.Stuck failure := (phrase.stops_run parser).stuck failure failed
  cases operation with
  | next =>
      obtain ⟨same, _, stuck⟩ := Cursor.stuck_of_next reports
      show parser.cursor.next.2.Stuck failure
      rwa [same]
  | tokens count => exact Tokens.stuck_of_take reports
  | accept term => exact recognized _ reports
  | acceptChoice terms => exact recognized _ reports
  | expect term => exact recognized _ reports
  | expectChoice terms => exact recognized _ reports
  | selectorsGroup => exact (parser.parseSelectorsGroup_malformed failure).2 reports
  | _ => exact reports.elim

-- What tells of a malformed token has changed neither the text nor the mode nor the depth.
theorem kept_run (reports : (operation.run parser).1.Reports failure) :
    (operation.run parser).2.cursor.source = parser.cursor.source ∧
      (operation.run parser).2.cursor.ignoreComments = parser.cursor.ignoreComments ∧
      (operation.run parser).2.depth = parser.depth := by
  have recognized (phrase : Phrase) : (phrase.run parser).2.cursor.source = parser.cursor.source ∧
      (phrase.run parser).2.cursor.ignoreComments = parser.cursor.ignoreComments ∧
      (phrase.run parser).2.depth = parser.depth := by
    have kept := phrase.keeping_run parser
    exact ⟨kept.cursor.source, kept.cursor.ignoreComments, kept.depth⟩
  cases operation with
  | next => exact ⟨parser.cursor.next_grows.source, parser.cursor.next_grows.ignoreComments, rfl⟩
  | tokens count =>
      have grows := (Tokens.leads_take count parser.cursor.tokens).grows
      exact ⟨grows.source, grows.ignoreComments, rfl⟩
  | accept term => exact recognized _
  | acceptChoice terms => exact recognized _
  | expect term => exact recognized _
  | expectChoice terms => exact recognized _
  | selectorsGroup =>
      obtain ⟨middle, reading, told⟩ := parser.leads_parseSelectorsGroup
      exact ⟨told.grows.source.trans reading.grows.source, told.grows.ignoreComments,
        parser.parseSelectorsGroup_depth⟩
  | _ => exact reports.elim

theorem halts_run (sound : parser.cursor.Sound tokenizer)
    (reports : (operation.run parser).1.Reports failure) :
    (operation.run parser).2.cursor.Halts tokenizer parser.cursor.source parser.cursor.ignoreComments
      failure := by
  obtain ⟨answer, after, ran, _, kept⟩ := operation.reflects_run _ parser sound
  have left : (operation.run parser).2 = after := by rw [ran]
  obtain ⟨source, mode, _⟩ := kept_run reports
  exact (stuck_run reports).halts (left ▸ kept) source mode

-- Whatever is asked for in vain is reported.
theorem reports_asked {call : Call} (asked : call ∈ operation.asks parser) (breaks : call.Breaks failure) :
    (operation.run parser).1.Reports failure := by
  have recognized (phrase : Phrase) (among : call ∈ phrase.asks parser) :
      (phrase.run parser).1 = .error (.malformed failure) :=
    ((phrase.stops_run parser).fatal failure).mpr ⟨call, among, breaks⟩
  cases operation with
  | accept term => exact recognized _ asked
  | acceptChoice terms => exact recognized _ asked
  | expect term => exact recognized (.required term.phrase) asked
  | expectChoice terms => exact recognized (.required (Phrase.choice (terms.map Term.phrase))) asked
  | selectorsGroup => exact (parser.parseSelectorsGroup_malformed failure).1.mpr ⟨call, asked, breaks⟩
  | _ => cases asked

end Operation

namespace Validator

variable {validator : Validator} {text : String} {failure : MalformedToken}

-- A validator that has loaded a text, with or without a trace.
theorem halts_group {parser : Parser} (loaded : parser.cursor = validator.cursor.load text)
    (failed : parser.parseSelectorsGroup.1 = .error (.malformed failure)) :
    parser.parseSelectorsGroup.2.cursor.Halts validator.cursor.tokenizer text
      validator.cursor.ignoreComments failure := by
  have sound : parser.cursor.Sound validator.cursor.tokenizer := by
    rw [loaded]
    exact ⟨rfl, Nat.zero_le _, nofun⟩
  have reports : (Operation.selectorsGroup.run parser).1.Reports failure := failed
  have halts := Operation.halts_run sound reports
  rw [loaded] at halts
  exact halts

end Validator

theorem tokenAt_covers (text : String) (offset : Nat) (name : Symbol) :
    tokenAt text offset ≠ .symbol name "" := by
  intro empty
  have ended := (tokenAt_regular text).solid offset (by rw [empty]; rfl)
  rw [empty] at ended
  cases ended

-- Wherever operations lead, an answer that tells of a malformed token leaves the cursor before it, and has
-- changed nothing else that was set. No way of asking for such a token gets past it, and without such tokens
-- there is no such answer.
theorem malformed_fatal :
    (∀ (tokenizer : Tokenizer) (operations : List Operation),
      (Operation.reached operations (Parser.on (Cursor.on tokenizer))).cursor.Sound tokenizer) ∧
    (∀ (tokenizer : Tokenizer) (parser : Parser), parser.cursor.Sound tokenizer →
      ∀ (operation : Operation) (failure : MalformedToken), (operation.run parser).1.Reports failure →
        (operation.run parser).2.cursor.Halts tokenizer parser.cursor.source parser.cursor.ignoreComments
          failure ∧
        (operation.run parser).2.depth = parser.depth) ∧
    (∀ (validator : Validator) (text : String) (failure : MalformedToken),
      ((validator.parse text).1 = .error (.malformed failure) →
        (validator.parse text).2.cursor.Halts validator.cursor.tokenizer text
          validator.cursor.ignoreComments failure) ∧
      ((validator.parseTraced text).1 = .error (.malformed failure) →
        (validator.parseTraced text).2.2.cursor.Halts validator.cursor.tokenizer text
          validator.cursor.ignoreComments failure)) ∧
    (∀ (parser : Parser) (operation : Operation) (failure : MalformedToken),
      ∀ call ∈ operation.asks parser, call.Breaks failure → (operation.run parser).1.Reports failure) ∧
    (∀ tokenizer : Tokenizer, (∀ text offset name, tokenizer text offset ≠ .symbol name "") →
      (∀ parser : Parser, parser.cursor.Sound tokenizer →
        ∀ (operation : Operation) (failure : MalformedToken), ¬ (operation.run parser).1.Reports failure) ∧
      ∀ validator : Validator, validator.cursor.tokenizer = tokenizer →
        ∀ (text : String) (failure : MalformedToken),
          (validator.parse text).1 ≠ .error (.malformed failure) ∧
          (validator.parseTraced text).1 ≠ .error (.malformed failure)) ∧
    ∀ (text : String) (failure : MalformedToken), validate text ≠ .error (.malformed failure) := by
  have judged (validator : Validator) (text : String) (failure : MalformedToken) :
      ((validator.parse text).1 = .error (.malformed failure) →
        (validator.parse text).2.cursor.Halts validator.cursor.tokenizer text
          validator.cursor.ignoreComments failure) ∧
      ((validator.parseTraced text).1 = .error (.malformed failure) →
        (validator.parseTraced text).2.2.cursor.Halts validator.cursor.tokenizer text
          validator.cursor.ignoreComments failure) :=
    ⟨fun failed => Validator.halts_group rfl failed, fun failed => Validator.halts_group rfl failed⟩
  have absent {cursor : Cursor} {tokenizer : Tokenizer} {text : String} {ignore : Bool}
      {failure : MalformedToken} (covers : ∀ text offset name, tokenizer text offset ≠ .symbol name "") :
      ¬ cursor.Halts tokenizer text ignore failure := by
    intro halts
    obtain ⟨name, empty⟩ := halts.empty
    exact covers text failure.offset name (halts.token.trans empty)
  refine ⟨fun tokenizer operations => Operation.sound_reached operations (Cursor.sound_on tokenizer), ?_,
    judged, fun parser operation failure call asked breaks => Operation.reports_asked asked breaks, ?_, ?_⟩
  · intro tokenizer parser sound operation failure reports
    exact ⟨Operation.halts_run sound reports, (Operation.kept_run reports).2.2⟩
  · intro tokenizer covers
    refine ⟨fun parser sound operation failure reports => ?_, ?_⟩
    · exact absent covers (Operation.halts_run sound reports)
    · rintro validator rfl text failure
      obtain ⟨plainly, traced⟩ := judged validator text failure
      exact ⟨fun failed => absent covers (plainly failed), fun failed => absent covers (traced failed)⟩
  · exact fun text failure failed => absent tokenAt_covers ((judged _ text failure).1 failed)

-- A stop, and names without letters behind it.
def hollow : Tokenizer := fun text offset =>
  if offset = 0 then .literal '.'
  else if offset < text.utf8ByteSize then .symbol .ident ""
  else .endOfText

def hollowParser (position : Nat) : Parser :=
  Operation.reached [.ignoreComments false, .load ".a", .seek position] (Parser.on (Cursor.on hollow))

def hollowName : MalformedToken := ⟨.symbol .ident "", 1⟩

theorem malformed_fatal_hollow :
    (∀ position, (hollowParser position).cursor.Sound hollow) ∧
    ((Operation.accept (.production .simpleSelectorSequence)).run (hollowParser 0)).1.Reports hollowName ∧
    ((Operation.accept (.production .simpleSelectorSequence)).run (hollowParser 0)).2.cursor.Halts hollow
      ".a" false hollowName ∧
    ((Operation.accept (.production .simpleSelectorSequence)).run (hollowParser 0)).2.depth = 0 ∧
    ((Validator.on hollow).parseTraced ".a").1 = .error (.malformed hollowName) ∧
    ((Validator.on hollow).parseTraced ".a").2.2.cursor.Halts hollow ".a" true hollowName ∧
    Call.Breaks ⟨.symbol .ident, hollowParser 1⟩ hollowName ∧
    ((Operation.expect (.symbol .ident)).run (hollowParser 1)).1.Reports hollowName ∧
    (∀ text offset name, tokenAt text offset ≠ .symbol name "") ∧
    ∀ text, (Operation.next.run (Parser.on ((Cursor.on tokenAt).load text))).1 ≠
      .consumed (.error hollowName) := by
  obtain ⟨reached, located, judged, fatal, invented, _⟩ := malformed_fatal
  have sound (position : Nat) : (hollowParser position).cursor.Sound hollow := reached hollow _
  have failed : (Parser.accept (.production .simpleSelectorSequence) (hollowParser 0)).1 =
      .error (.malformed hollowName) := by
    decide +kernel
  have told : ((Validator.on hollow).parseTraced ".a").1 = .error (.malformed hollowName) := by
    decide +kernel
  have breaks : Call.Breaks ⟨.symbol .ident, hollowParser 1⟩ hollowName :=
    ⟨by decide +kernel, by decide +kernel⟩
  obtain ⟨halts, depth⟩ := located hollow (hollowParser 0) (sound 0)
    (.accept (.production .simpleSelectorSequence)) hollowName failed
  refine ⟨sound, failed, halts, depth, told, (judged (.on hollow) ".a" hollowName).2 told, breaks, ?_,
    tokenAt_covers, fun text consumed => ?_⟩
  · exact fatal _ (.expect (.symbol .ident)) hollowName _ (List.mem_singleton_self _) breaks
  · refine (invented tokenAt tokenAt_covers).1 (Parser.on ((Cursor.on tokenAt).load text))
      ((Cursor.sound_on tokenAt).load text) .next hollowName ?_
    rw [consumed]
    rfl

end CssSelectors
