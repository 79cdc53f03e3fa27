import CssSelectors.Proofs.Cursor.Settled
import CssSelectors.Proofs.Grammar.Failure
import CssSelectors.Proofs.Parser.Backtracking
import CssSelectors.Proofs.Parser.Calls
import CssSelectors.Proofs.Parser.Following

-- Where a parser is left when what is required does not match.
namespace CssSelectors

namespace Parser

variable {parser after : Parser} {recognizer head tail : Recognizer} {context named expected : List Term}
  {found : Token} {offset : Nat}

theorem mismatch_context (failed : (parser.mismatch named).1 = .mismatch context expected found offset) :
    context = named := by
  unfold mismatch at failed
  split at failed
  · cases failed
    rfl
  · cases failed
    rfl

-- An error that speaks of what was tried does not read any further.
theorem mismatch_noted (noted : parser.misses ≠ []) (context : List Term) :
    ∃ frontier, Frontier.ofMisses? parser.misses = some frontier ∧ parser.mismatch context =
      (.mismatch context frontier.expected frontier.found frontier.offset, parser) := by
  unfold mismatch
  cases misses : parser.misses with
  | nil => exact absurd misses noted
  | cons miss earlier => exact ⟨_, rfl, rfl⟩

theorem mismatch_unnoted (unnoted : parser.misses = []) (context : List Term) :
    parser.mismatch context =
      (.mismatch context context parser.cursor.current.1 parser.cursor.current.2.offset,
        parser.withCursor parser.cursor.current.2) := by
  rw [mismatch, unnoted]
  rfl

theorem quiet_repeatWhile (first : ∀ parser, Quiet (head parser).1) (second : ∀ parser, Quiet (tail parser).1)
    (parser : Parser) : Quiet (repeatWhile head tail parser).1 := by
  induction size : parser.remaining using Nat.strongRecOn generalizing parser with
  | _ left ih =>
      have headed := first parser
      rw [repeatWhile]
      split
      · rename_i middle _
        have tailed := second middle
        split
        · split
          · rename_i nearer
            exact ih _ (size ▸ nearer) _ rfl
          · exact quiet_endless _
        · exact tailed
      · exact quiet_ok _
      · exact headed

-- A repetition is missed only in its second step.
theorem repeatWhile_ne_missed (never : ∀ parser, (tail parser).1 ≠ .ok false) (parser : Parser) :
    (repeatWhile head tail parser).1 ≠ .ok false := by
  induction size : parser.remaining using Nat.strongRecOn generalizing parser with
  | _ left ih =>
      rw [repeatWhile]
      split
      · rename_i middle _
        have tailed := never middle
        split
        · split
          · rename_i nearer
            exact ih _ (size ▸ nearer) _ rfl
          · simp
        · exact tailed
      · simp
      · rename_i unmissed
        exact fun missed => unmissed _ (Prod.ext missed rfl)

theorem pass_ne_missed (parser : Parser) : (pass parser).1 ≠ .ok false := by
  rw [pass]
  exact nofun

theorem attempt_outcome (production : Production) (recognizer : Recognizer) (parser : Parser) :
    (attempt production recognizer parser).1 = (recognizer parser.clearTrace).1 := by
  obtain ⟨cursor, depth, misses, trace⟩ := parser
  cases trace <;> rfl

theorem acceptToken_noted {term : Term} (missed : (acceptToken term parser).1 = .ok false) :
    (acceptToken term parser).2.misses ≠ [] := by
  unfold acceptToken at missed ⊢
  dsimp only at missed ⊢
  split at missed
  · exact absurd missed (consume_ne_missed _)
  · rename_i unfit
    rw [if_neg unfit]
    exact List.cons_ne_nil _ _

end Parser

namespace Phrase

variable {phrase : Phrase} {parser after : Parser} {context expected : List Term} {found : Token}
  {offset : Nat} {course : Course} {shapes : List Shape}

theorem run_noted (notes : phrase.notes = true) (missed : (phrase.run parser).1 = .ok false) :
    (phrase.run parser).2.misses ≠ [] := by
  induction phrase generalizing parser with
  | char c => exact Parser.acceptToken_noted missed
  | symbol name => exact Parser.acceptToken_noted missed
  | production name body ih =>
      have inside := ih notes ((Parser.attempt_outcome name body.run _).symm.trans missed)
      rwa [← Parser.attempt_misses name body.run] at inside
  | spaces => exact absurd missed (Parser.repeatWhile_ne_missed Parser.pass_ne_missed parser)
  | fail => cases notes
  | either first second one two =>
      have kept {middle : Parser} := (second.keeping_run middle).misses
      have early := @one parser
      simp only [run] at missed ⊢
      split at missed
      · rename_i middle tried
        rw [tried] at early
        rcases Bool.or_eq_true_iff.mp notes with left | right
        · obtain ⟨miss, more, before⟩ := List.exists_cons_of_ne_nil (early left rfl)
          exact List.ne_nil_of_mem (kept.subset (before ▸ List.mem_cons_self))
        · exact two right missed
      · rename_i unmissed
        exact (unmissed _ (Prod.ext missed rfl)).elim
  | both first second one two =>
      obtain ⟨left, right⟩ := Bool.and_eq_true_iff.mp notes
      have early := @one parser left
      simp only [run] at missed ⊢
      split at missed
      · exact two right missed
      · exact early missed
  | optional phrase =>
      simp only [run] at missed
      split at missed
      · cases missed
      · rename_i unmatched
        exact (unmatched _ _ (Prod.ext missed rfl)).elim
  | absent => cases notes
  | many phrase => exact absurd missed (Parser.repeatWhile_ne_missed Parser.pass_ne_missed parser)
  | toEnd => cases notes
  | required => cases notes

-- What is required fails with its own terms, where it was missed.
theorem Tentative.fails (tentative : phrase.Tentative)
    (ran : (Phrase.required phrase).run parser = (.error (.mismatch context expected found offset), after)) :
    context = phrase.terms ∧ ∃ missed, phrase.run parser = (.ok false, missed) ∧
      missed.mismatch phrase.terms = (.mismatch context expected found offset, after) := by
  simp only [run] at ran
  split at ran
  · rename_i missed tried
    split at ran
    · obtain ⟨failed, same⟩ := Prod.mk.inj ran
      have told := Except.error.inj failed
      exact ⟨Parser.mismatch_context told, missed, tried, Prod.ext told same⟩
    · cases ran
  · exact absurd (congrArg Prod.fst ran) (tentative.quiet _ _ _ _ _)

-- With something noted it leaves the position where it was.
theorem Tentative.stays (tentative : phrase.Tentative) (notes : phrase.notes = true)
    (within : parser.cursor.offset ≤ parser.cursor.size)
    (ran : (Phrase.required phrase).run parser = (.error (.mismatch context expected found offset), after)) :
    after.cursor.offset = parser.cursor.offset ∧
      Frontier.ofMisses? after.misses = some ⟨offset, expected, found⟩ := by
  obtain ⟨_, missed, tried, told⟩ := tentative.fails ran
  have back := tentative.restores parser within (congrArg Prod.fst tried)
  have noted := run_noted notes (congrArg Prod.fst tried)
  rw [tried] at back noted
  obtain ⟨frontier, farthest, same⟩ := Parser.mismatch_noted noted phrase.terms
  obtain ⟨error, rfl⟩ := Prod.mk.inj (same.symm.trans told)
  cases error
  exact ⟨back, farthest⟩

-- How a group is given up: the error speaks of what was tried, and a comma is missed where the text was just
-- seen to go on.
structure GivesUp (after : Parser) (context expected : List Term) (found : Token) (offset : Nat) : Prop where
  farthest : Frontier.ofMisses? after.misses = some ⟨offset, expected, found⟩
  settled : context = [.symbol .comma] → after.cursor.Settled

theorem selector_givesUp (within : parser.cursor.offset ≤ parser.cursor.size)
    (ran : (Phrase.required selector).run parser =
      (.error (.mismatch context expected found offset), after)) :
    GivesUp after context expected found offset := by
  have tentative : selector.Tentative := tentative_term (.production .selector)
  obtain ⟨named, _⟩ := tentative.fails ran
  refine ⟨(tentative.stays rfl within ran).2, ?_⟩
  rw [named]
  exact nofun

theorem nextSelector_givesUp (settled : parser.cursor.Settled)
    (within : parser.cursor.offset ≤ parser.cursor.size)
    (ran : nextSelector.run parser = (.error (.mismatch context expected found offset), after)) :
    GivesUp after context expected found offset := by
  have spaced : ∀ parser, Parser.Quiet (Phrase.spaces.run parser).1 :=
    Parser.quiet_repeatWhile Parser.quiet_acceptSpace fun _ => Parser.quiet_ok _
  have early := (Phrase.required (.symbol .comma)).keeping_run parser
  rw [nextSelector, run] at ran
  split at ran
  · rename_i middle taken
    rw [taken] at early
    have late := Phrase.spaces.keeping_run middle
    rw [run] at ran
    split at ran
    · rename_i behind skipped
      rw [skipped] at late
      exact selector_givesUp (late.cursor.within (early.cursor.within within)) ran
    · exact absurd (congrArg Prod.fst ran) (spaced _ _ _ _ _)
  · rw [ran] at early
    obtain ⟨back, farthest⟩ := (tentative_term (.symbol .comma)).stays rfl within ran
    exact ⟨farthest, fun _ => early.cursor.settled back settled⟩

theorem toEnd_givesUp (ignoring : parser.cursor.ignoreComments = true)
    (within : parser.cursor.offset ≤ parser.cursor.size)
    (ran : (Phrase.toEnd nextSelector).run parser =
      (.error (.mismatch context expected found offset), after)) :
    GivesUp after context expected found offset := by
  induction size : parser.remaining using Nat.strongRecOn generalizing parser with
  | _ left ih =>
      rw [run, Parser.repeatWhile] at ran
      split at ran
      · rename_i headed looked
        obtain ⟨_, rfl⟩ := Prod.mk.inj looked
        have grows := parser.cursor.valid_grows
        have kept := nextSelector.keeping_run (parser.withCursor parser.cursor.valid.2)
        split at ran
        · rename_i next came
          rw [came] at kept
          have further := grows.trans kept.cursor
          split at ran
          · rename_i nearer
            exact ih _ (size ▸ nearer) (further.ignoreComments.trans ignoring) (further.within within) ran rfl
          · cases ran
        · exact nextSelector_givesUp (Cursor.settled_current ignoring) (grows.within within) ran
      · cases ran
      · cases congrArg Prod.fst ran

theorem selectorsGroupBody_givesUp (ignoring : parser.cursor.ignoreComments = true)
    (within : parser.cursor.offset ≤ parser.cursor.size)
    (ran : selectorsGroupBody.run parser = (.error (.mismatch context expected found offset), after)) :
    GivesUp after context expected found offset := by
  have kept := (Phrase.required selector).keeping_run parser
  rw [selectorsGroupBody, run] at ran
  split at ran
  · rename_i matched tried
    rw [tried] at kept
    exact toEnd_givesUp (kept.cursor.ignoreComments.trans ignoring) (kept.cursor.within within) ran
  · exact selector_givesUp within ran

-- A first selector that is missed is given back.
theorem selectorsGroupBody_unmoved (stands : course.Stands parser.cursor shapes) (outside : parser.depth = 0)
    (misses : selector.Misses true shapes shapes) :
    (selectorsGroupBody.run parser).2.cursor.offset = parser.cursor.offset := by
  have productive : selector.productive = true := by decide
  have followed := selector.simulates productive true parser shapes (by simp [outside]) stands
  obtain ⟨tokens, _, _, standing⟩ := stands
  have within : parser.cursor.offset ≤ parser.cursor.size := standing.size ▸ standing.within
  have answered := followed.answers
  rw [Course.Answers, misses.1] at answered
  have back := (tentative_term (.production .selector)).restores parser within answered
  obtain ⟨_, _, told⟩ := Parser.mismatch_noted (run_noted rfl answered) selector.terms
  have tried : selector.run parser = (.ok false, (selector.run parser).2) := Prod.ext answered rfl
  have deep := followed.depth.trans outside
  rw [selectorsGroupBody, run, run, tried]
  simp only [deep, if_true, told]
  exact back

end Phrase

end CssSelectors
