import CssSelectors.Proofs.Forgetting
import CssSelectors.Proofs.Parser.Nesting
import CssSelectors.Proofs.Parser.Record
import CssSelectors.Proofs.Parser.Unseen
import CssSelectors.Proofs.SameShapes

-- A trace tells how a text was recognized, and recognizing it with a trace is the same as without one.
namespace CssSelectors

namespace Parser

variable {parser : Parser}

theorem Beside.parseSelectorsGroup {one two : Parser} (beside : Beside one two) :
    two.parseSelectorsGroup.1 = one.parseSelectorsGroup.1 ∧
      two.parseSelectorsGroup.2.cursor = one.parseSelectorsGroup.2.cursor := by
  obtain ⟨result, first, second, ran, also, ended⟩ := parallel_beside.parseSelectorsGroup
    (fun ignore same => by rw [same.cursor]; exact same.withCursor _) beside (by rw [beside.cursor])
  rw [ran, also]
  cases result with
  | ok => exact ⟨rfl, ended.cursor⟩
  | error failure => exact ⟨rfl, ended.cursor⟩

-- A group as a traced attempt at the top: the attempts of its body stand behind its own.
theorem entries_parseSelectorsGroup (outside : parser.depth = 0) (fresh : parser.trace = some []) :
    ∃ matched, parser.parseSelectorsGroup.2.entries =
        ⟨.selectorsGroup, parser.cursor.offset, 0, matched⟩ ::
          Phrase.selectorsGroupBody.attempts parser.commentless ∧
      (matched = true ↔ parser.parseSelectorsGroup.1 = .ok ()) := by
  have begun : { parser.commentless with trace := some [] } = parser.commentless := by rw [← fresh]; rfl
  have traced : parser.commentless.trace = some [] := fresh
  have inside := Phrase.selectorsGroupBody.traces_run parser.commentless
  have ran : groupAttempt parser = ((Phrase.selectorsGroupBody.run parser.commentless).1,
      { (Phrase.selectorsGroupBody.run parser.commentless).2 with
        trace := some ((Phrase.selectorsGroupBody.attempts parser.commentless).reverse ++
          [⟨.selectorsGroup, parser.cursor.offset, 0,
            Phrase.selectorsGroupBody.matches? parser.commentless⟩]) }) := by
    rw [groupAttempt, attempt, traced]
    dsimp only
    rw [begun, inside, traced, ← outside, Phrase.matches?]
    simp only [List.append_nil, Option.map_some, Option.getD_some]
    rfl
  refine ⟨Phrase.selectorsGroupBody.matches? parser.commentless, ?_, ?_⟩
  · rw [entries, parseSelectorsGroup_decided outside, ran]
    simp [withCursor]
  · rw [parseSelectorsGroup_decided outside, ran]
    unfold Phrase.matches?
    have decided := Phrase.decisive_selectorsGroupBody parser.commentless outside
    generalize (Phrase.selectorsGroupBody.run parser.commentless).1 = outcome at decided
    rcases outcome with failure | _ | _
    · simp [Except.map]
    · exact absurd rfl decided
    · simp [Except.map]

-- The attempts of a group, below one at the top that is as far back as they are.
theorem nested_selectorsGroupBody (ending : parser.cursor.Ending) (outside : parser.depth = 0)
    (fresh : parser.trace = some []) {earlier later : List TraceEntry} {entry : TraceEntry} (matched : Bool)
    (split : Phrase.selectorsGroupBody.attempts parser = earlier ++ entry :: later) :
    TraceEntry.Nested (⟨.selectorsGroup, parser.cursor.offset, 0, matched⟩ :: earlier) entry := by
  have traced := Phrase.selectorsGroupBody.traces_run parser
  obtain ⟨entries, told, row⟩ := (Phrase.selectorsGroupBody_attempting parser ending).row [] fresh
  rw [fresh] at traced
  obtain rfl : (Phrase.selectorsGroupBody.attempts parser).reverse = entries := by
    simpa using traced.symm.trans told
  have nested : TraceEntry.AllNested [⟨.selectorsGroup, parser.cursor.offset, 0, matched⟩]
      (Phrase.selectorsGroupBody.attempts parser).reverse :=
    row.allNested (by rw [outside]) (fun _ => id) (Nat.le_refl _) (by rw [outside]; decide)
  rw [split, List.reverse_append, List.reverse_cons, List.append_assoc] at nested
  have here := (TraceEntry.allNested_append.mp nested).2.1
  simpa using here

end Parser

namespace Validator

-- A trace changes nothing of what is found and read. It has one attempt at a group, at the start of the text,
-- which matched if the text is one, and then every attempt inside it, each before those that it made itself.
theorem parseTraced_observes (validator : Validator) (text : String)
    (ends : validator.cursor.tokenizer text text.utf8ByteSize = .endOfText) :
    (validator.parseTraced text).1 = (validator.parse text).1 ∧
    (validator.parseTraced text).2.2.cursor = (validator.parse text).2.cursor ∧
    ∃ root inside, (validator.parseTraced text).2.1 = root :: inside ∧
      root.production = .selectorsGroup ∧ root.offset = 0 ∧ root.depth = 0 ∧
      (root.matched = true ↔ (validator.parseTraced text).1 = .ok ()) ∧
      inside = Phrase.selectorsGroupBody.attempts
        ((Parser.on (validator.cursor.load text)).tracing true).commentless ∧
      ∀ earlier entry later, inside = earlier ++ entry :: later →
        TraceEntry.Nested (root :: earlier) entry := by
  have beside : Parser.Beside (Parser.on (validator.cursor.load text))
      ((Parser.on (validator.cursor.load text)).tracing true) := ⟨⟨rfl, rfl⟩, .rfl⟩
  obtain ⟨result, cursor⟩ := beside.parseSelectorsGroup
  have sound : (validator.cursor.load text).Sound validator.cursor.tokenizer :=
    ⟨rfl, Nat.zero_le _, nofun⟩
  have ending := (sound.ending ends).ignoringComments true
  obtain ⟨matched, entries, verdict⟩ := Parser.entries_parseSelectorsGroup
    (show ((Parser.on (validator.cursor.load text)).tracing true).depth = 0 from rfl) rfl
  refine ⟨result, cursor, ⟨.selectorsGroup, 0, 0, matched⟩, _, entries, rfl, rfl, rfl, verdict, rfl, ?_⟩
  exact fun earlier entry later split => Parser.nested_selectorsGroupBody ending rfl rfl matched split

-- The second selector of a group is attempted inside the group as well, behind the first one.
theorem parseTraced_observes_comma :
    (Validator.on tokenAt).cursor.tokenizer "*," "*,".utf8ByteSize = .endOfText ∧
    ((Validator.on tokenAt).parseTraced "*,").1 = ((Validator.on tokenAt).parse "*,").1 ∧
    ((Validator.on tokenAt).parseTraced "*,").2.2.cursor = ((Validator.on tokenAt).parse "*,").2.cursor ∧
    TraceEntry.Nested (((Validator.on tokenAt).parseTraced "*,").2.1.take 14) ⟨.selector, 2, 1, false⟩ := by
  have ends : (Validator.on tokenAt).cursor.tokenizer "*," "*,".utf8ByteSize = .endOfText := tokenAt_end "*,"
  have split : ((Validator.on tokenAt).parseTraced "*,").2.1 =
      ((Validator.on tokenAt).parseTraced "*,").2.1.take 14 ++
        ⟨.selector, 2, 1, false⟩ :: ((Validator.on tokenAt).parseTraced "*,").2.1.drop 15 := by
    decide +kernel
  obtain ⟨result, cursor, root, inside, trace, _, _, _, _, _, nested⟩ :=
    parseTraced_observes (Validator.on tokenAt) "*," ends
  refine ⟨ends, result, cursor, ?_⟩
  rw [trace] at split ⊢
  exact nested _ _ _ (List.cons.inj split).2

end Validator

end CssSelectors
