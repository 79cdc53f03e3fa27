import CssSelectors.Proofs.Parser.Backtracking
import CssSelectors.Proofs.Parser.Log
import CssSelectors.Validator

-- A validator judges a text as a new one does, whatever it was used for before.
namespace CssSelectors

namespace Parser

variable {recognizer head tail : Recognizer}

-- Outside of every attempt there is a match or an error.
def Decisive (recognizer : Recognizer) : Prop :=
  ∀ parser : Parser, parser.depth = 0 → (recognizer parser).1 ≠ .ok false

theorem Decisive.repeatWhile (headed : Keeping head) (decisive : Decisive tail) (tailed : Keeping tail) :
    Decisive (Parser.repeatWhile head tail) := by
  intro parser outside
  induction size : parser.remaining using Nat.strongRecOn generalizing parser with
  | _ left ih =>
      have kept := (headed parser).depth
      rw [Parser.repeatWhile]
      split
      · rename_i middle ran
        rw [ran] at kept
        have top : middle.depth = 0 := kept.trans outside
        have decided := decisive middle top
        have deep := (tailed middle).depth
        split
        · rename_i next came
          rw [came] at deep
          split
          · rename_i nearer
            exact ih _ (size ▸ nearer) next (deep.trans top) rfl
          · intro missed
            cases missed
        · exact decided
      · intro missed
        cases missed
      · rename_i unmatched unmissed
        intro missed
        exact unmissed _ (Prod.ext missed rfl)

theorem Decisive.attempt (production : Production) (decisive : Decisive recognizer) :
    Decisive (Parser.attempt production recognizer) := by
  intro parser outside
  unfold Parser.attempt
  split
  · exact decisive parser outside
  · exact decisive _ outside

end Parser

namespace Phrase

theorem decisive_required (phrase : Phrase) : Parser.Decisive (required phrase).run := by
  intro parser outside
  have kept := (phrase.keeping_run parser).depth
  simp only [run]
  split
  · rename_i missed ran
    rw [ran] at kept
    rw [if_pos (kept.trans outside)]
    intro failed
    cases failed
  · rename_i unmissed
    intro missed
    exact unmissed _ (Prod.ext missed rfl)

theorem decisive_both {first second : Phrase} (one : Parser.Decisive first.run)
    (two : Parser.Decisive second.run) : Parser.Decisive (both first second).run := by
  intro parser outside
  have kept := (first.keeping_run parser).depth
  have decided := one parser outside
  simp only [run]
  split
  · rename_i matched ran
    rw [ran] at kept
    exact two matched (kept.trans outside)
  · exact decided

theorem decisive_spaces : Parser.Decisive spaces.run :=
  Parser.Decisive.repeatWhile Parser.keeping_acceptSpace (fun _ _ => nofun) Parser.keeping_pass

theorem decisive_selectorsGroupBody : Parser.Decisive selectorsGroupBody.run := by
  have round :
      Parser.Decisive (both (required (.symbol .comma)) (both .spaces (required selector))).run :=
    decisive_both (decisive_required _) (decisive_both decisive_spaces (decisive_required _))
  exact decisive_both (decisive_required _)
    (Parser.Decisive.repeatWhile Parser.keeping_moreText round (Phrase.keeping_run _))

end Phrase

namespace Parser

-- The same parser with comments ignored, which is how a group is recognized.
def commentless (parser : Parser) : Parser := parser.withCursor (parser.cursor.ignoringComments true)

def groupAttempt (parser : Parser) : Outcome × Parser :=
  attempt .selectorsGroup Phrase.selectorsGroupBody.run parser.commentless

-- What a group is found to be is settled before the mode is put back, so no mismatch is read in it.
theorem parseSelectorsGroup_decided {parser : Parser} (outside : parser.depth = 0) :
    parser.parseSelectorsGroup = ((groupAttempt parser).1.map fun _ => (),
      (groupAttempt parser).2.withCursor
        ((groupAttempt parser).2.cursor.ignoringComments parser.cursor.ignoreComments)) := by
  have decided : (groupAttempt parser).1 ≠ .ok false :=
    Phrase.decisive_selectorsGroupBody.attempt .selectorsGroup parser.commentless outside
  unfold parseSelectorsGroup
  unfold groupAttempt commentless at decided ⊢
  generalize attempt .selectorsGroup Phrase.selectorsGroupBody.run
    (parser.withCursor (parser.cursor.ignoringComments true)) = ran at decided ⊢
  rcases ran with ⟨failure | _ | _, after⟩
  · rfl
  · exact absurd rfl decided
  · rfl

-- Two parsers that differ in their modes and logs find the same of a group, and differ in no more after it.
theorem parseSelectorsGroup_alike {parser other : Parser} {log : List Nat} (outside : parser.depth = 0)
    (alike : other.commentless = parser.commentless.logged log) : ∃ later,
      other.parseSelectorsGroup = (parser.parseSelectorsGroup.1, (parser.parseSelectorsGroup.2.withCursor
        (parser.parseSelectorsGroup.2.cursor.ignoringComments other.cursor.ignoreComments)).logged later) := by
  have beside : other.depth = 0 := (congrArg Parser.depth alike).trans outside
  obtain ⟨later, ran⟩ := Blind.attempt .selectorsGroup Phrase.selectorsGroupBody.blind_run
    parser.commentless log
  rw [← alike] at ran
  have ran : groupAttempt other = ((groupAttempt parser).1, (groupAttempt parser).2.logged later) := ran
  refine ⟨later, ?_⟩
  rw [parseSelectorsGroup_decided outside, parseSelectorsGroup_decided beside, ran]
  rfl

end Parser

namespace Validator

-- What a validator may have come to: it validated texts, or loaded them for its cursor to be worked on.
inductive Reached (tokenizer : Tokenizer) : Validator → Prop where
  | created : Reached tokenizer (Validator.on tokenizer)
  | loaded {validator : Validator} (text : String) (before : Reached tokenizer validator) :
      Reached tokenizer (validator.load text)
  | parsed {validator : Validator} (text : String) (before : Reached tokenizer validator) :
      Reached tokenizer (validator.parse text).2
  | traced {validator : Validator} (text : String) (before : Reached tokenizer validator) :
      Reached tokenizer (validator.parseTraced text).2.2
  | worked {validator : Validator} (operations : List Operation) (before : Reached tokenizer validator) :
      Reached tokenizer ⟨(Operation.reached operations (Parser.on validator.cursor)).cursor⟩

variable {tokenizer : Tokenizer} {validator : Validator}

-- The tokenizer is never exchanged, and what is remembered is what it says of the text.
theorem Reached.sound (reached : Reached tokenizer validator) : validator.cursor.Sound tokenizer := by
  have judged : ∀ {parser : Parser}, parser.cursor.Sound tokenizer →
      parser.parseSelectorsGroup.2.cursor.Sound tokenizer := by
    intro parser sound
    obtain ⟨verdict, after, ran, _, kept⟩ := Parser.reflects_parseSelectorsGroup tokenizer parser sound
    rw [ran]
    exact kept
  induction reached with
  | created => exact Cursor.sound_on tokenizer
  | loaded text _ ih => exact ih.load text
  | @parsed validator text _ ih =>
      have loaded : (Parser.on (validator.cursor.load text)).cursor.Sound tokenizer := ih.load text
      exact judged loaded
  | @traced validator text _ ih =>
      have loaded : ((Parser.on (validator.cursor.load text)).tracing true).cursor.Sound tokenizer :=
        ih.load text
      exact judged loaded
  | worked operations _ ih => exact Operation.sound_reached operations ih

-- A text is parsed as a new validator does it, in the mode and with the log of the old one.
theorem parse_alike (asks : validator.cursor.tokenizer = tokenizer) (text : String) : ∃ log,
    validator.parse text = (((Validator.on tokenizer).parse text).1,
      ⟨(((Validator.on tokenizer).parse text).2.cursor.ignoringComments
        validator.cursor.ignoreComments).logged log⟩) := by
  subst asks
  have alike : (Parser.on (validator.cursor.load text)).commentless =
      (Parser.on ((Validator.on validator.cursor.tokenizer).cursor.load text)).commentless.logged
        validator.cursor.queries := rfl
  obtain ⟨log, ran⟩ := Parser.parseSelectorsGroup_alike rfl alike
  refine ⟨log, ?_⟩
  rw [parse, parse, ran]
  generalize Parser.parseSelectorsGroup _ = judged
  rfl

-- So are the attempts at it, if they are to be told.
theorem traced_alike (asks : validator.cursor.tokenizer = tokenizer) (text : String) : ∃ log,
    validator.parseTraced text = (((Validator.on tokenizer).parseTraced text).1,
      ((Validator.on tokenizer).parseTraced text).2.1,
      ⟨(((Validator.on tokenizer).parseTraced text).2.2.cursor.ignoringComments
        validator.cursor.ignoreComments).logged log⟩) := by
  subst asks
  have alike : ((Parser.on (validator.cursor.load text)).tracing true).commentless =
      ((Parser.on ((Validator.on validator.cursor.tokenizer).cursor.load text)).tracing true).commentless.logged
        validator.cursor.queries := rfl
  obtain ⟨log, ran⟩ := Parser.parseSelectorsGroup_alike rfl alike
  refine ⟨log, ?_⟩
  rw [parseTraced, parseTraced, ran]
  generalize Parser.parseSelectorsGroup _ = judged
  rfl

-- Whatever a validator was used for, a text is judged, and left behind, as by a new one, and the mode is the
-- one that was set.
theorem parse_forgets (tokenizer : Tokenizer) (validator : Validator)
    (reached : Reached tokenizer validator) (text : String) :
    (validator.parse text).1 = ((Validator.on tokenizer).parse text).1 ∧
    (validator.parse text).2.cursor.offset = ((Validator.on tokenizer).parse text).2.cursor.offset ∧
    (validator.parse text).2.cursor.source = ((Validator.on tokenizer).parse text).2.cursor.source ∧
    (validator.parse text).2.cursor.cache = ((Validator.on tokenizer).parse text).2.cursor.cache ∧
    (validator.parse text).2.cursor.ignoreComments = validator.cursor.ignoreComments := by
  obtain ⟨log, same⟩ := parse_alike reached.sound.asks text
  rw [same]
  generalize (Validator.on tokenizer).parse text = fresh
  exact ⟨rfl, rfl, rfl, rfl, rfl⟩

-- It shows comments, and a comma that it read last was not followed by a selector.
def failedValidator : Validator :=
  (parse ⟨(Operation.reached [.ignoreComments false, .next] (Parser.on (Validator.on tokenAt).cursor)).cursor⟩
    "a/**/,").2

theorem parse_forgets_failed : Reached tokenAt failedValidator ∧
    failedValidator.cursor.ignoreComments = false ∧ failedValidator.cursor.offset = 6 ∧
    failedValidator.cursor.cache ≠ [] ∧
    (failedValidator.parse "b/**/").1 = ((Validator.on tokenAt).parse "b/**/").1 ∧
    (failedValidator.parse "b/**/").2.cursor.offset = ((Validator.on tokenAt).parse "b/**/").2.cursor.offset ∧
    (failedValidator.parse "b/**/").2.cursor.source = ((Validator.on tokenAt).parse "b/**/").2.cursor.source ∧
    (failedValidator.parse "b/**/").2.cursor.cache = ((Validator.on tokenAt).parse "b/**/").2.cursor.cache ∧
    (failedValidator.parse "b/**/").2.cursor.ignoreComments = failedValidator.cursor.ignoreComments := by
  have reached : Reached tokenAt failedValidator := .parsed _ (.worked _ .created)
  exact ⟨reached, by decide +kernel, by decide +kernel, by decide +kernel,
    parse_forgets tokenAt failedValidator reached "b/**/"⟩

end Validator

end CssSelectors
