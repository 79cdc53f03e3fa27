import CssSelectors.Parser.Operation
import CssSelectors.Proofs.Cursor.Route
import CssSelectors.Proofs.Parser.Account

-- Recognizing is reading: a parser moves its cursor by the steps of reading and in no other way.
namespace CssSelectors

namespace Parser

-- A recognizer that does nothing to the cursor but read.
def Leading (recognizer : Recognizer) : Prop :=
  ∀ parser : Parser, parser.cursor.Leads (recognizer parser).2.cursor

variable {recognizer : Recognizer}

theorem leading_consume : Leading consume := by
  intro parser
  have moved := parser.cursor.leads_next
  unfold consume
  split
  · rename_i after stepped
    rwa [stepped] at moved
  · rename_i failure stopped stepped
    rwa [stepped] at moved

theorem leading_acceptToken (term : Term) : Leading (acceptToken term) := by
  intro parser
  have read := parser.cursor.leads_current
  unfold acceptToken
  dsimp only
  split
  · exact read.trans (leading_consume (parser.withCursor parser.cursor.current.2))
  · exact .back .stay read

theorem leading_acceptSpace : Leading acceptSpace := by
  intro parser
  have read := parser.cursor.leads_current
  unfold acceptSpace
  dsimp only
  split
  · exact read.trans (leading_consume (parser.withCursor parser.cursor.current.2))
  · exact read

theorem leading_moreText : Leading moreText := fun parser => parser.cursor.leads_valid

theorem Leading.attempt (production : Production) (leading : Leading recognizer) :
    Leading (Parser.attempt production recognizer) := by
  intro parser
  unfold Parser.attempt
  split
  · exact leading parser
  · exact leading { parser with trace := some [] }

theorem Leading.acceptProduction (production : Production) (leading : Leading recognizer) :
    Leading (Parser.acceptProduction production recognizer) := by
  intro parser
  have tried := leading.attempt production { parser with depth := parser.depth + 1 }
  unfold Parser.acceptProduction
  dsimp only
  split
  · exact .back .stay tried
  · exact tried

theorem leads_mismatch (context : List Term) (parser : Parser) :
    parser.cursor.Leads (parser.mismatch context).2.cursor := by
  unfold mismatch
  split
  · exact .stay
  · exact parser.cursor.leads_current

theorem account_leads : Account .silent fun before ran _ => before.cursor.Leads ran.2.cursor where
  token := leading_acceptToken
  space := leading_acceptSpace
  more := leading_moreText
  stay _ _ := .stay
  endless _ := .stay
  mismatch context parser _ := leads_mismatch context parser
  trans := .trans
  production name _ leading := Leading.acceptProduction name leading

end Parser

theorem Phrase.leading_run (phrase : Phrase) : Parser.Leading phrase.run := Parser.account_leads.run phrase

-- A group is read with comments ignored, and what there is to say of a mismatch in the mode of before.
theorem Parser.leads_parseSelectorsGroup (parser : Parser) : ∃ middle,
    (parser.cursor.ignoringComments true).Leads middle ∧
      (middle.ignoringComments parser.cursor.ignoreComments).Leads parser.parseSelectorsGroup.2.cursor := by
  have tried := Phrase.selectorsGroupBody.leading_run.attempt .selectorsGroup
    (parser.withCursor (parser.cursor.ignoringComments true))
  unfold parseSelectorsGroup
  generalize attempt .selectorsGroup Phrase.selectorsGroupBody.run
    (parser.withCursor (parser.cursor.ignoringComments true)) = ran at tried ⊢
  obtain ⟨failure | _ | _, after⟩ := ran
  · exact ⟨after.cursor, tried, .stay⟩
  · exact ⟨after.cursor, tried, leads_mismatch _
      (after.withCursor (after.cursor.ignoringComments parser.cursor.ignoreComments))⟩
  · exact ⟨after.cursor, tried, .stay⟩

end CssSelectors
