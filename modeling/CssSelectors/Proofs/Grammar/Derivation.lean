import CssSelectors.Grammar.Selectors
import CssSelectors.Proofs.Grammar.Form
import CssSelectors.Proofs.Parser.Matching

namespace CssSelectors.Phrase

-- What a phrase takes is derived from a form: reading in order finds no more than there is.
def Derives (phrase : Phrase) (form : Form) : Prop :=
  ∀ top word rest, phrase.Matches top word rest → form.Leaves word rest

namespace Derives

variable {phrase first second : Phrase} {form left right : Form}
  {forms : List Form}

theorem char (c : Char) : Derives (.char c) (.char c) := by
  intro top word rest matched
  rw [matches_char.mp matched]
  exact .one

theorem symbol (name : Symbol) : Derives (.symbol name) (.symbol name) := by
  intro top word rest matched
  rw [matches_symbol.mp matched]
  exact .one

theorem production (name : Production) (derives : Derives phrase form) :
    Derives (.production name phrase) form := by
  intro top word rest matched
  exact derives _ _ _ (matches_production.mp matched)

theorem required (derives : Derives phrase form) : Derives (.required phrase) form := by
  intro top word rest matched
  exact derives _ _ _ (matches_required.mp matched)

theorem both (one : Derives first left) (two : Derives second right) :
    Derives (.both first second) (.seq left right) := by
  intro top word rest matched
  obtain ⟨middle, early, late⟩ := matches_both.mp matched
  exact .seq (one _ _ _ early) (two _ _ _ late)

theorem last (derives : Derives phrase form) : Derives phrase (Form.inTurn [form]) := by
  intro top word rest matched
  exact .seq (derives _ _ _ matched) .empty

theorem either (one : Derives first left) (two : Derives second right)
    (restores : first.restores = true) : Derives (.either first second) (.alt left right) := by
  intro top word rest matched
  rcases matches_either.mp matched with early | ⟨middle, missed, late⟩
  · exact .left (one _ _ _ early)
  · rw [missed.restored restores] at late
    exact .right (two _ _ _ late)

theorem fail : Derives .fail form := fun _ _ _ matched => absurd matched matches_fail

theorem same (one : Derives first form) (two : Derives second form)
    (restores : first.restores = true) : Derives (.either first second) form := by
  intro top word rest matched
  cases (one.either two restores) _ _ _ matched with
  | left leaves => exact leaves
  | right leaves => exact leaves

theorem within (derives : Derives phrase form) (present : form ∈ forms) :
    Derives phrase (Form.any forms) :=
  fun _ _ _ matched => .any present (derives _ _ _ matched)

theorem optional (derives : Derives phrase form) (restores : phrase.restores = true) :
    Derives (.optional phrase) (Form.optional form) := by
  intro top word rest matched
  rcases matches_optional.mp matched with taken | missed
  · exact .left (derives _ _ _ taken)
  · rw [missed.restored restores]
    exact .right .empty

theorem absent (c : Char) : Derives (.absent (.char c)) (.notBefore (.literal c)) := by
  intro top word rest matched
  obtain ⟨other, same⟩ := misses_char.mp (matches_absent.mp matched)
  rw [same]
  exact .notBefore other

theorem spaces : Derives .spaces Form.spaces := by
  intro top word rest matched
  rw [matches_spaces.mp matched]
  clear matched
  induction word with
  | nil => exact .stop
  | cons shape word ih =>
      by_cases same : shape = Shape.space
      · subst same
        exact .again .one ih
      · simp only [List.dropWhile_cons, beq_false_of_ne same]
        exact .stop

theorem many (derives : Derives phrase form) (restores : phrase.restores = true) :
    Derives (.many phrase) (.star form) := by
  intro top word rest matched
  induction size : word.length using Nat.strongRecOn generalizing word with
  | _ size ih =>
      rcases matches_many.mp matched with missed | ⟨middle, round, less, more⟩
      · rw [missed.restored restores]
        exact .stop
      · exact .again (derives _ _ _ round) (ih _ (size ▸ less) _ more rfl)

theorem toEnd (derives : Derives phrase form) : Derives (.toEnd phrase) (.star form) := by
  intro top word rest matched
  induction size : word.length using Nat.strongRecOn generalizing word with
  | _ size ih =>
      rcases matches_toEnd.mp matched with ⟨rfl, rfl⟩ | ⟨_, middle, round, less, more⟩
      · exact .stop
      · exact .again (derives _ _ _ round) (ih _ (size ▸ less) _ more rfl)

theorem namespacePrefix : Derives Phrase.namespacePrefix Form.prefixed :=
  .production _ (.both (.optional ((symbol _).either ((char _).either .fail rfl) rfl) rfl) (.last (.char _)))

theorem typeSelector : Derives Phrase.typeSelector Form.head := by
  refine .production _ (.both (.optional .namespacePrefix rfl) (.last ?_))
  exact .production _ ((symbol _).within (by simp))

theorem universal : Derives Phrase.universal Form.head := by
  refine .production _ (.both (.optional .namespacePrefix rfl) (.last ?_))
  exact (char _).within (by simp)

theorem classSelector : Derives Phrase.classSelector Form.ofClass :=
  .production _ (.both (.char _) (.last (.symbol _)))

theorem attributeMatch : Derives Phrase.attributeMatch Form.comparison := by
  refine .production _ (.both ?_ (.both .spaces (.both ?_ (.last .spaces))))
  · exact (symbol _).either ((symbol _).either ((symbol _).either ((char _).either
      ((symbol _).either ((symbol _).either .fail rfl) rfl) rfl) rfl) rfl) rfl
  · exact (symbol _).either ((symbol _).either .fail rfl) rfl

theorem attributeSelector : Derives Phrase.attributeSelector Form.attrib :=
  .production _ (.both (.char _) (.both .spaces (.both (.optional .namespacePrefix rfl)
    (.both (.symbol _) (.both .spaces (.both (.optional .attributeMatch rfl) (.last (.char _))))))))

theorem expression : Derives Phrase.expression (Form.plus Form.argument) := by
  have item : Derives Phrase.expressionItem Form.argument := by
    refine .both ?_ (.last .spaces)
    exact (symbol _).either ((char _).either ((symbol _).either ((symbol _).either
      ((symbol _).either ((symbol _).either .fail rfl) rfl) rfl) rfl) rfl) rfl
  exact .production _ (item.both (item.many rfl))

theorem pseudo : Derives Phrase.pseudo Form.pseudo := by
  have functional : Derives Phrase.functionalPseudo
      (Form.inTurn [Form.symbol .function, Form.spaces, Form.plus Form.argument, Form.char ')']) :=
    .production _ (.both (.symbol _) (.both .spaces (.both .expression (.last (.char _)))))
  refine .production _ (.both (.char _) (.both (.optional (.char _) rfl) (.last ?_)))
  exact (symbol _).either (functional.either .fail rfl) rfl

theorem negationArgument : Derives Phrase.negationArgument
    (Form.any [Form.head, Form.symbol .hash, Form.ofClass, Form.attrib, Form.pseudo]) := by
  apply Derives.production
  exact (typeSelector.within (by simp)).same ((universal.within (by simp)).same
    (((symbol _).within (by simp)).same ((classSelector.within (by simp)).same
      ((attributeSelector.within (by simp)).same ((pseudo.within (by simp)).same .fail
        rfl) rfl) rfl) rfl) rfl) rfl

theorem negation : Derives Phrase.negation Form.negation :=
  .production _ (.both (.symbol _) (.both .spaces (.both negationArgument
    (.both .spaces (.last (.absent _))))))

theorem simpleSelectorSequenceTail : Derives Phrase.simpleSelectorSequenceTail Form.tail := by
  apply Derives.production
  exact (symbol _).either (classSelector.either (attributeSelector.either
    (pseudo.either (negation.either .fail rfl) rfl) rfl) rfl) rfl

theorem simpleSelectorSequence : Derives Phrase.simpleSelectorSequence Form.sequence := by
  intro top word rest matched
  obtain ⟨middle, first, others⟩ := matches_both.mp (matches_production.mp matched)
  have tails := simpleSelectorSequenceTail.many rfl _ _ _ others
  have head : Derives (Phrase.choice Phrase.sequenceHead) Form.head :=
    typeSelector.same (universal.same .fail rfl) rfl
  cases head.either simpleSelectorSequenceTail rfl _ _ _ first with
  | left leaves => exact .left (.seq leaves tails)
  | right leaves => exact .right (.seq leaves tails)

-- Combinators match nothing, so a selector is one sequence.
theorem selector : Derives Phrase.selector Form.sequence := by
  intro top word rest matched
  obtain ⟨middle, first, others⟩ := matches_both.mp (matches_production.mp matched)
  rcases matches_many.mp others with missed | ⟨_, round, _⟩
  · rw [missed.restored rfl]
    exact simpleSelectorSequence _ _ _ first
  · obtain ⟨_, combined, _⟩ := matches_both.mp round
    cases combined.not_hopeless

theorem selectorsGroupBody : Derives Phrase.selectorsGroupBody Form.group :=
  selector.required.both (.toEnd (.both (.required (.symbol _)) (.both .spaces (.last (.required .selector)))))

end Derives

end CssSelectors.Phrase
