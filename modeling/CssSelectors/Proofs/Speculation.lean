import CssSelectors.Proofs.Forgetting
import CssSelectors.Proofs.Parser.Outcome
import CssSelectors.Proofs.Parser.Progress
import CssSelectors.Proofs.Parser.Stopping
import CssSelectors.Proofs.Parser.Unseen
import CssSelectors.Proofs.Token.Stream

-- A group that is merely attempted is judged like one that has to be there.
namespace CssSelectors

namespace Parser

-- What a recognizer comes to outside of every attempt, and what inside of one: the same, unless something
-- that is required was missed. Then it fails there and is a miss here, with the same farthest point.
inductive Gated : Outcome × Parser → Outcome × Parser → Prop where
  | same {outcome : Outcome} {one two : Parser} (quiet : Quiet outcome) (level : Level one two) :
      Gated (outcome, one) (outcome, two)
  | missed {context expected : List Term} {found : Token} {offset : Nat} {one two : Parser}
      (level : Level one two) (farthest : Frontier.ofMisses? one.misses = some ⟨offset, expected, found⟩) :
      Gated (.error (.mismatch context expected found offset), one) (.ok false, two)

def Gating (recognizer : Recognizer) : Prop := ∀ one two : Parser, Level one two →
  one.depth = 0 → two.depth ≠ 0 → Gated (recognizer one) (recognizer two)

variable {recognizer head tail : Recognizer}

-- What does not look at the depth, and fails of itself at no mismatch.
theorem Agrees.gating (agrees : Agrees Level id recognizer) (quiet : ∀ parser, Quiet (recognizer parser).1) :
    Gating recognizer := by
  intro one two level _ _
  have silent := quiet one
  obtain ⟨outcome, first, second, ran, also, ended⟩ := agrees one two level
  rw [ran] at silent ⊢
  rw [also]
  cases outcome with
  | ok matched => exact .same silent ended
  | error failure => exact .same silent ended

-- The first step of a repetition may not be gated: inside of an attempt its miss would be the end of it.
theorem Gating.repeatWhile (first : Agrees Level id head) (quiet : ∀ parser, Quiet (head parser).1)
    (headed : Keeping head) (second : Gating tail) (tailed : Keeping tail) :
    Gating (Parser.repeatWhile head tail) := by
  intro one two level outside inside
  induction size : one.remaining using Nat.strongRecOn generalizing one two with
  | _ left ih =>
      have silent := quiet one
      have top := (headed one).depth.trans outside
      have deep := (headed two).depth
      have apart : two.remaining = one.remaining := by rw [remaining, remaining, level.cursor]
      obtain ⟨outcome, middle, other, ran, also, level⟩ := first one two level
      rw [ran] at silent top
      rw [also] at deep
      rw [Parser.repeatWhile.eq_def head tail two, Parser.repeatWhile.eq_def head tail one]
      simp only [ran, also]
      rcases outcome with failure | _ | _
      · exact .same silent level
      · exact .same (quiet_ok _) level
      · have gated := second middle other level top (deep ▸ inside)
        have lower := (tailed middle).depth.trans top
        have below := (tailed other).depth.trans deep
        simp only [Except.mapError]
        generalize tail middle = ran at gated lower
        generalize tail other = also at gated below
        cases gated with
        | missed level farthest => exact .missed level farthest
        | @same outcome next beside quiet level =>
            rcases outcome with failure | _ | _
            · exact .same quiet level
            · exact .same quiet level
            · have near : beside.remaining = next.remaining := by rw [remaining, remaining, level.cursor]
              simp only [apart, near]
              split
              · rename_i nearer
                exact ih _ (size ▸ nearer) next beside level lower (below ▸ inside) rfl
              · rw [level.cursor]
                exact .same (quiet_endless _) level

end Parser

namespace Phrase

variable {phrase first second : Phrase}

theorem gating_required (agrees : Parser.Agrees Parser.Level id phrase.run)
    (quiet : ∀ parser, Parser.Quiet (phrase.run parser).1) (notes : phrase.notes = true) :
    Parser.Gating (required phrase).run := by
  intro one two level outside inside
  have silent := quiet one
  have noted := @run_noted phrase one notes
  have top := (phrase.keeping_run one).depth.trans outside
  have deep := (phrase.keeping_run two).depth
  obtain ⟨outcome, first, second, ran, also, ended⟩ := agrees one two level
  rw [ran] at silent noted top
  rw [also] at deep
  simp only [run, ran, also]
  rcases outcome with failure | _ | _
  · exact .same silent ended
  · obtain ⟨frontier, farthest, told⟩ := Parser.mismatch_noted (noted rfl) phrase.terms
    have deep : second.depth ≠ 0 := deep ▸ inside
    have top : first.depth = 0 := top
    simp only [Except.mapError, if_pos top, if_neg deep, told]
    exact .missed ended farthest
  · exact .same silent ended

theorem gating_both (one : Parser.Gating first.run) (two : Parser.Gating second.run) :
    Parser.Gating (both first second).run := by
  intro left right level outside inside
  have gated := one left right level outside inside
  have top := (first.keeping_run left).depth.trans outside
  have deep := (first.keeping_run right).depth
  simp only [run]
  generalize first.run left = ran at gated top
  generalize first.run right = also at gated deep
  cases gated with
  | missed level farthest => exact .missed level farthest
  | @same outcome _ _ quiet level =>
      rcases outcome with failure | _ | _
      · exact .same quiet level
      · exact .same quiet level
      · exact two _ _ level top (deep ▸ inside)

theorem gating_selector : Parser.Gating (required selector).run := by
  refine gating_required ?_ (tentative_term (.production .selector)).quiet rfl
  exact Parser.level_acceptProduction .selector (agrees_run Parser.parallel_beside _)

theorem gating_selectorsGroupBody : Parser.Gating selectorsGroupBody.run := by
  have comma : Parser.Gating (required (.symbol .comma)).run :=
    gating_required (Parser.level_acceptToken _) (tentative_term (.symbol .comma)).quiet rfl
  have space : Parser.Gating spaces.run :=
    Parser.Gating.repeatWhile Parser.level_acceptSpace Parser.quiet_acceptSpace Parser.keeping_acceptSpace
      (Parser.Agrees.gating (fun one two level => ⟨_, one, two, rfl, rfl, level⟩) fun _ => Parser.quiet_ok _)
      Parser.keeping_pass
  have next : Parser.Gating nextSelector.run := gating_both comma (gating_both space gating_selector)
  exact gating_both gating_selector (Parser.Gating.repeatWhile Parser.level_moreText
    (fun _ => Parser.quiet_ok _) Parser.keeping_moreText next nextSelector.keeping_run)

end Phrase

namespace Parser

-- What becomes of a group that is demanded, attempted, and expected from one and the same state.
inductive Judgement (demanded : Except SelectorError Unit × Parser) (attempted expected : Outcome × Parser) :
    Prop where
  | matched (demand : demanded.1 = .ok ()) (attempt : attempted.1 = .ok true)
      (place : attempted.2.cursor.offset = demanded.2.cursor.offset)
  | missed {context terms : List Term} {found : Token} {offset : Nat}
      (demand : demanded.1 = .error (.mismatch context terms found offset))
      (attempt : attempted.1 = .ok false)
      (expect : expected.1 = .error (.mismatch [.production .selectorsGroup] terms found offset))
  | malformed {failure : MalformedToken} (demand : demanded.1 = .error (.malformed failure))
      (attempt : attempted.1 = .error (.malformed failure))

theorem attempt_untraced {parser : Parser} (untraced : parser.trace = none) (production : Production)
    (recognizer : Recognizer) : attempt production recognizer parser = recognizer parser := by
  rw [attempt, untraced]

theorem judgement_selectorsGroup {parser : Parser} (ending : parser.cursor.Ending)
    (ignoring : parser.cursor.ignoreComments = true) (outside : parser.depth = 0)
    (untraced : parser.trace = none) : Judgement parser.parseSelectorsGroup
      (accept (.production .selectorsGroup) parser) (expect (.production .selectorsGroup) parser) := by
  have already : parser.commentless = parser := by
    obtain ⟨⟨_, _, _, _, _, _⟩, _, _, _⟩ := parser
    cases ignoring
    rfl
  have gated := Phrase.gating_selectorsGroupBody parser { parser with depth := parser.depth + 1 } ⟨rfl, rfl⟩
    outside (Nat.succ_ne_zero _)
  have decided := Phrase.decisive_selectorsGroupBody parser outside
  have finished := (Phrase.progressing_run Phrase.selectorsGroupBody_productive parser ending).ends
  have kept := Phrase.selectorsGroupBody.keeping_run { parser with depth := parser.depth + 1 }
  have demanded := parseSelectorsGroup_decided outside
  have group : (Phrase.production .selectorsGroup Phrase.selectorsGroupBody).terms =
    [.production .selectorsGroup] := rfl
  have deeper : ({ parser with depth := parser.depth + 1 } : Parser).trace = none := untraced
  rw [groupAttempt, already, attempt_untraced untraced] at demanded
  simp only [accept, expect, Term.phrase, Production.phrase, Phrase.selectorsGroup, Phrase.run,
    acceptProduction, attempt_untraced deeper, demanded, group]
  generalize Phrase.selectorsGroupBody.run parser = ran at gated decided finished
  generalize Phrase.selectorsGroupBody.run { parser with depth := parser.depth + 1 } = also at gated kept
  cases gated with
  | @same outcome one two quiet level =>
      rcases outcome with failure | _ | _
      · cases failure with
        | mismatch context expected found offset => exact absurd rfl (quiet _ _ _ _)
        | malformed failure => exact .malformed rfl rfl
        | endless offset => exact absurd rfl (finished offset)
      · exact absurd rfl decided
      · have place : two.cursor.offset = one.cursor.offset := congrArg Cursor.offset level.cursor
        exact .matched rfl rfl place
  | @missed context expected found offset one two level farthest =>
      refine .missed rfl rfl ?_
      have top : two.depth - 1 = 0 := by
        have deep := kept.depth
        simp only [outside] at deep
        omega
      simp only [top, if_true, mismatch, level.misses, farthest]

-- On any text that a tokenizer ends, from anywhere in it and with comments ignored, an attempt at a group
-- and the demand for one say the same. What is expected of a group fails like the demand for it.
theorem speculation_agrees (tokenizer : Tokenizer) (cursor : Cursor) (sound : cursor.Sound tokenizer)
    (ends : tokenizer cursor.source cursor.source.utf8ByteSize = .endOfText)
    (ignoring : cursor.ignoreComments = true) :
    ((accept (.production .selectorsGroup) (on cursor)).1 = .ok true ↔
      (on cursor).parseSelectorsGroup.1 = .ok ()) ∧
    ((on cursor).parseSelectorsGroup.1 = .ok () →
      (accept (.production .selectorsGroup) (on cursor)).2.cursor.offset =
        (on cursor).parseSelectorsGroup.2.cursor.offset) ∧
    ((accept (.production .selectorsGroup) (on cursor)).1 = .ok false ↔
      ∃ context terms found offset,
        (on cursor).parseSelectorsGroup.1 = .error (.mismatch context terms found offset)) ∧
    ((accept (.production .selectorsGroup) (on cursor)).1 ≠ .ok true →
      (accept (.production .selectorsGroup) (on cursor)).1 ≠ .ok false →
      ∃ failure, (accept (.production .selectorsGroup) (on cursor)).1 = .error (.malformed failure) ∧
        (on cursor).parseSelectorsGroup.1 = .error (.malformed failure)) ∧
    ∀ context terms found offset,
      (on cursor).parseSelectorsGroup.1 = .error (.mismatch context terms found offset) →
        (expect (.production .selectorsGroup) (on cursor)).1 =
          .error (.mismatch [.production .selectorsGroup] terms found offset) := by
  have judged : Judgement (on cursor).parseSelectorsGroup (accept (.production .selectorsGroup) (on cursor))
      (expect (.production .selectorsGroup) (on cursor)) :=
    judgement_selectorsGroup (sound.ending ends) ignoring rfl rfl
  cases judged with
  | matched demand attempt place => simp [demand, attempt, place]
  | missed demand attempt expect =>
      rw [demand, attempt, expect]
      simp
  | malformed demand attempt => simp [demand, attempt]

-- The second selector of a group, with a colon that no name follows.
def namelessPseudo : Cursor := ((Cursor.on tokenAt).load "a,b:,").seek 2

theorem speculation_agrees_nameless : namelessPseudo.Sound tokenAt ∧
    tokenAt namelessPseudo.source namelessPseudo.source.utf8ByteSize = .endOfText ∧
    namelessPseudo.ignoreComments = true ∧
    (on namelessPseudo).parseSelectorsGroup.1 = .error (.mismatch [.symbol .comma]
      [.char ':', .symbol .ident, .symbol .function] (.symbol .comma ",") 4) ∧
    (accept (.production .selectorsGroup) (on namelessPseudo)).1 = .ok false ∧
    (expect (.production .selectorsGroup) (on namelessPseudo)).1 =
      .error (.mismatch [.production .selectorsGroup] [.char ':', .symbol .ident, .symbol .function]
        (.symbol .comma ",") 4) := by
  have sound : namelessPseudo.Sound tokenAt := ((Cursor.sound_on tokenAt).load "a,b:,").seek 2
  have ends : tokenAt namelessPseudo.source namelessPseudo.source.utf8ByteSize = .endOfText :=
    tokenAt_end namelessPseudo.source
  have demanded : (on namelessPseudo).parseSelectorsGroup.1 = .error (.mismatch [.symbol .comma]
      [.char ':', .symbol .ident, .symbol .function] (.symbol .comma ",") 4) := by
    decide +kernel
  obtain ⟨_, _, missed, _, expected⟩ := speculation_agrees tokenAt namelessPseudo sound ends rfl
  exact ⟨sound, ends, rfl, demanded, missed.mpr ⟨_, _, _, _, demanded⟩, expected _ _ _ _ demanded⟩

end Parser

end CssSelectors
