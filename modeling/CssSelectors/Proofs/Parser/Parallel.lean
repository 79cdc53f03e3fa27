import CssSelectors.Proofs.Parser.Backtracking

-- Two parsers side by side: if no single step can tell them apart, no recognition can.
namespace CssSelectors

namespace Parser

-- A recognizer that leads from two states that are alike to two that are, with the same answer. An error of
-- the one is retold as the other says it.
def Agrees (alike : Parser → Parser → Prop) (retell : SelectorError → SelectorError)
    (recognizer : Recognizer) : Prop :=
  ∀ one two, alike one two → ∃ outcome first second, recognizer one = (outcome, first) ∧
    recognizer two = (outcome.mapError retell, second) ∧ alike first second

-- What keeps two parsers alike step by step. Going deeper, coming back and going up again change what is around
-- the cursor, so they are steps of their own.
structure Stepwise (alike : Parser → Parser → Prop) (retell : SelectorError → SelectorError) : Prop where
  outside : ∀ {one two}, alike one two → (two.depth = 0 ↔ one.depth = 0)
  token : ∀ term, Agrees alike retell (acceptToken term)
  space : Agrees alike retell acceptSpace
  more : Agrees alike retell moreText
  mismatch : ∀ {one two} context, alike one two → ∃ failure first second,
    one.mismatch context = (failure, first) ∧ two.mismatch context = (retell failure, second) ∧
      alike first second
  attempt : ∀ production {recognizer}, Agrees alike retell recognizer →
    Agrees alike retell (Parser.attempt production recognizer)
  deeper : ∀ {one two}, alike one two →
    alike { one with depth := one.depth + 1 } { two with depth := two.depth + 1 }
  back : ∀ {one two first second}, alike one two → alike first second →
    alike (first.withCursor (first.cursor.seek one.cursor.offset))
      (second.withCursor (second.cursor.seek two.cursor.offset))
  higher : ∀ {one two first second}, alike one two → alike first second →
    first.depth = one.depth + 1 → second.depth = two.depth + 1 →
      alike { first with depth := first.depth - 1 } { second with depth := second.depth - 1 }

-- What makes two parsers run in parallel: in a repetition the one gets on just when the other does.
structure Parallel (alike : Parser → Parser → Prop) (retell : SelectorError → SelectorError) : Prop
    extends Stepwise alike retell where
  round : ∀ {one two first second}, alike one two → alike first second →
    (second.remaining < two.remaining ↔ first.remaining < one.remaining)
  endless : ∀ {one two}, alike one two →
    SelectorError.endless two.cursor.offset = retell (.endless one.cursor.offset)

variable {alike : Parser → Parser → Prop} {retell : SelectorError → SelectorError}
  {recognizer head tail : Recognizer}

theorem mapError_id {α : Type} (result : Except SelectorError α) : result.mapError id = result := by
  cases result <;> rfl

theorem agrees_pass : Agrees alike retell pass := fun one two same => ⟨_, one, two, rfl, rfl, same⟩

theorem Parallel.repeatWhile (parallel : Parallel alike retell) (heads : Agrees alike retell head)
    (tails : Agrees alike retell tail) : Agrees alike retell (Parser.repeatWhile head tail) := by
  intro one two same
  induction size : one.remaining using Nat.strongRecOn generalizing one two with
  | _ left ih =>
      obtain ⟨outcome, headed, beside, ran, also, begun⟩ := heads one two same
      rw [Parser.repeatWhile.eq_def head tail two, Parser.repeatWhile.eq_def head tail one]
      simp only [ran, also]
      rcases outcome with failure | _ | _
      · exact ⟨_, headed, beside, rfl, rfl, begun⟩
      · exact ⟨_, headed, beside, rfl, rfl, begun⟩
      · obtain ⟨outcome, first, second, came, too, ended⟩ := tails headed beside begun
        simp only [came, too, Except.mapError]
        rcases outcome with failure | _ | _
        · exact ⟨_, first, second, rfl, rfl, ended⟩
        · exact ⟨_, first, second, rfl, rfl, ended⟩
        · simp only [parallel.round same ended]
          split
          · rename_i nearer
            exact ih _ (size ▸ nearer) first second ended rfl
          · exact ⟨_, first, second, rfl, by rw [parallel.endless ended], ended⟩

theorem Stepwise.acceptProduction (stepwise : Stepwise alike retell) (production : Production)
    (keeping : Keeping recognizer) (agrees : Agrees alike retell recognizer) :
    Agrees alike retell (Parser.acceptProduction production recognizer) := by
  intro one two same
  obtain ⟨outcome, first, second, ran, also, ended⟩ :=
    stepwise.attempt production agrees _ _ (stepwise.deeper same)
  have deep := (keeping.attempt production { one with depth := one.depth + 1 }).depth
  have beside := (keeping.attempt production { two with depth := two.depth + 1 }).depth
  rw [ran] at deep
  rw [also] at beside
  simp only [Parser.acceptProduction, ran, also]
  rcases outcome with failure | _ | _
  · exact ⟨_, _, _, rfl, rfl, stepwise.higher same ended deep beside⟩
  · exact ⟨_, _, _, rfl, rfl, stepwise.higher same (stepwise.back same ended) deep beside⟩
  · exact ⟨_, _, _, rfl, rfl, stepwise.higher same ended deep beside⟩

end Parser

namespace Phrase

variable {alike : Parser → Parser → Prop} {retell : SelectorError → SelectorError} {first second phrase : Phrase}

theorem agrees_fail : Parser.Agrees alike retell fail.run := fun one two same => ⟨_, one, two, rfl, rfl, same⟩

theorem agrees_either (ahead : Parser.Agrees alike retell first.run)
    (behind : Parser.Agrees alike retell second.run) : Parser.Agrees alike retell (either first second).run := by
  intro one two same
  obtain ⟨outcome, missed, beside, ran, also, begun⟩ := ahead one two same
  simp only [run, ran, also]
  rcases outcome with failure | _ | _
  · exact ⟨_, missed, beside, rfl, rfl, begun⟩
  · exact behind missed beside begun
  · exact ⟨_, missed, beside, rfl, rfl, begun⟩

theorem agrees_both (ahead : Parser.Agrees alike retell first.run)
    (behind : Parser.Agrees alike retell second.run) : Parser.Agrees alike retell (both first second).run := by
  intro one two same
  obtain ⟨outcome, matched, beside, ran, also, begun⟩ := ahead one two same
  simp only [run, ran, also]
  rcases outcome with failure | _ | _
  · exact ⟨_, matched, beside, rfl, rfl, begun⟩
  · exact ⟨_, matched, beside, rfl, rfl, begun⟩
  · exact behind matched beside begun

theorem agrees_optional (agrees : Parser.Agrees alike retell phrase.run) :
    Parser.Agrees alike retell (optional phrase).run := by
  intro one two same
  obtain ⟨outcome, tried, beside, ran, also, ended⟩ := agrees one two same
  simp only [run, ran, also]
  cases outcome with
  | ok matched => exact ⟨_, tried, beside, rfl, rfl, ended⟩
  | error failure => exact ⟨_, tried, beside, rfl, rfl, ended⟩

theorem agrees_absent (agrees : Parser.Agrees alike retell phrase.run) :
    Parser.Agrees alike retell (absent phrase).run := by
  intro one two same
  obtain ⟨outcome, tried, beside, ran, also, ended⟩ := agrees one two same
  simp only [run, ran, also]
  cases outcome with
  | ok matched => exact ⟨_, tried, beside, rfl, rfl, ended⟩
  | error failure => exact ⟨_, tried, beside, rfl, rfl, ended⟩

theorem agrees_required (stepwise : Parser.Stepwise alike retell) (agrees : Parser.Agrees alike retell phrase.run) :
    Parser.Agrees alike retell (required phrase).run := by
  intro one two same
  obtain ⟨outcome, missed, beside, ran, also, begun⟩ := agrees one two same
  simp only [run, ran, also]
  rcases outcome with failure | _ | _
  · exact ⟨_, missed, beside, rfl, rfl, begun⟩
  · simp only [Except.mapError, stepwise.outside begun]
    split
    · obtain ⟨failure, first, second, failed, too, ended⟩ := stepwise.mismatch phrase.terms begun
      simp only [failed, too]
      exact ⟨_, first, second, rfl, rfl, ended⟩
    · exact ⟨_, missed, beside, rfl, rfl, begun⟩
  · exact ⟨_, missed, beside, rfl, rfl, begun⟩

theorem agrees_run (parallel : Parser.Parallel alike retell) (phrase : Phrase) :
    Parser.Agrees alike retell phrase.run := by
  induction phrase with
  | char c => exact parallel.token (.char c)
  | symbol name => exact parallel.token (.symbol name)
  | production name body ih => exact parallel.acceptProduction name body.keeping_run ih
  | spaces => exact parallel.repeatWhile parallel.space Parser.agrees_pass
  | fail => exact agrees_fail
  | either first second ahead behind => exact agrees_either ahead behind
  | both first second ahead behind => exact agrees_both ahead behind
  | optional phrase ih => exact agrees_optional ih
  | absent phrase ih => exact agrees_absent ih
  | many phrase ih => exact parallel.repeatWhile ih Parser.agrees_pass
  | toEnd phrase ih => exact parallel.repeatWhile parallel.more ih
  | required phrase ih => exact agrees_required parallel.toStepwise ih

end Phrase

namespace Parser

variable {one two : Parser}

-- The recognition of a whole group changes the mode and puts it back.
theorem Stepwise.parseSelectorsGroup (stepwise : Stepwise alike retell)
    (body : Agrees alike retell Phrase.selectorsGroupBody.run)
    (begun : alike (one.withCursor (one.cursor.ignoringComments true))
      (two.withCursor (two.cursor.ignoringComments true)))
    (mode : two.cursor.ignoreComments = one.cursor.ignoreComments)
    (restored : ∀ {first second}, alike first second →
      alike (first.withCursor (first.cursor.ignoringComments one.cursor.ignoreComments))
        (second.withCursor (second.cursor.ignoringComments one.cursor.ignoreComments))) :
    ∃ result first second, one.parseSelectorsGroup = (result, first) ∧
      two.parseSelectorsGroup = (result.mapError retell, second) ∧ alike first second := by
  obtain ⟨outcome, first, second, ran, also, ended⟩ := stepwise.attempt .selectorsGroup body _ _ begun
  have closed := restored ended
  unfold Parser.parseSelectorsGroup
  simp only [mode, ran, also]
  rcases outcome with failure | _ | _
  · exact ⟨_, _, _, rfl, rfl, closed⟩
  · obtain ⟨failure, first, second, failed, too, last⟩ :=
      stepwise.mismatch [.production .selectorsGroup] closed
    simp only [Except.mapError, failed, too]
    exact ⟨_, first, second, rfl, rfl, last⟩
  · exact ⟨_, _, _, rfl, rfl, closed⟩

theorem Parallel.parseSelectorsGroup (parallel : Parallel alike retell)
    (modes : ∀ {one two} ignore, alike one two →
      alike (one.withCursor (one.cursor.ignoringComments ignore))
        (two.withCursor (two.cursor.ignoringComments ignore)))
    (same : alike one two) (mode : two.cursor.ignoreComments = one.cursor.ignoreComments) :
    ∃ result first second, one.parseSelectorsGroup = (result, first) ∧
      two.parseSelectorsGroup = (result.mapError retell, second) ∧ alike first second :=
  parallel.toStepwise.parseSelectorsGroup (Phrase.selectorsGroupBody.agrees_run parallel) (modes true same) mode
    (modes one.cursor.ignoreComments)

end Parser

end CssSelectors
