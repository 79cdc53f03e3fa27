import CssSelectors.Proofs.Grammar.Expectation
import CssSelectors.Proofs.Grammar.Failure
import CssSelectors.Proofs.Separation

-- Behind a complete group there is a comma or nothing: whatever else comes there is where reading ends, for
-- want of a comma.
namespace CssSelectors

namespace Reading

-- Nothing but what is allowed was tried in vain.
def Tries (allowed : Shape → Bool) (reading : Reading) : Prop :=
  ∀ miss ∈ reading.misses, allowed miss.1 = true

variable {allowed wider : Shape → Bool} {reading : Reading} {head tail next : Reader} {shape : Shape}

theorem Tries.widen (tries : reading.Tries allowed) (inside : ∀ shape, allowed shape = true → wider shape = true) :
    reading.Tries wider := fun miss noted => inside _ (tries miss noted)

theorem Tries.after {later : Reading} (tries : reading.Tries allowed) (onward : later.Tries allowed) :
    (later.after reading.misses).Tries allowed :=
  fun miss noted => (List.mem_append.mp noted).elim (onward miss) (tries miss)

theorem Tries.andThen (tries : reading.Tries allowed) (onward : ∀ word, (next word).Tries allowed) :
    (reading.andThen next).Tries allowed := by
  unfold Reading.andThen
  split
  · exact tries.after (onward _)
  · exact tries

theorem Tries.orElse (tries : reading.Tries allowed) (onward : ∀ word, (next word).Tries allowed) :
    (reading.orElse next).Tries allowed := by
  unfold Reading.orElse
  split
  · exact tries.after (onward _)
  · exact tries

theorem Tries.decided {onMatch onMiss : Verdict} (tries : reading.Tries allowed) :
    (reading.decided onMatch onMiss).Tries allowed := by
  intro miss noted
  rw [misses_decided] at noted
  exact tries miss noted

theorem Tries.restoring {shapes : List Shape} (tries : reading.Tries allowed) :
    (reading.restoring shapes).Tries allowed := by
  intro miss noted
  rw [misses_restoring] at noted
  exact tries miss noted

theorem tries_take (allows : allowed shape = true) (word : List Shape) : (take shape word).Tries allowed := by
  intro miss noted
  by_cases ready : word.head? = some shape
  · obtain ⟨rest, rfl⟩ := List.head?_eq_some_iff.mp ready
    rw [take_self] at noted
    cases noted
  · rw [take_other ready, List.mem_singleton] at noted
    rw [noted]
    exact allows

theorem tries_takeSpace (word : List Shape) : (takeSpace word).Tries allowed := by
  intro miss noted
  by_cases ready : word.head? = some Shape.space
  · obtain ⟨rest, rfl⟩ := List.head?_eq_some_iff.mp ready
    rw [takeSpace_self] at noted
    cases noted
  · rw [takeSpace_other ready] at noted
    cases noted

theorem tries_more (word : List Shape) : (more word).Tries allowed := by
  cases word with
  | nil => exact nofun
  | cons shape word => exact nofun

theorem tries_pass (word : List Shape) : (pass word).Tries allowed := nofun

theorem tries_repeatWhile (first : ∀ word, (head word).Tries allowed) (second : ∀ word, (tail word).Tries allowed)
    (word : List Shape) : (repeatWhile head tail word).Tries allowed := by
  induction size : word.length using Nat.strongRecOn generalizing word with
  | _ size ih =>
      have round := (first word).andThen second
      by_cases missed : (head word).verdict = .missed
      · rw [repeatWhile_ended missed]
        exact first word
      · by_cases matched : ((head word).andThen tail).verdict = .matched
        · rw [repeatWhile_round matched]
          split
          · rename_i less
            exact round.after (ih _ (size ▸ less) _ rfl)
          · exact round
        · rw [repeatWhile_stopped missed matched]
          exact round

end Reading

namespace Phrase

-- The shapes that a phrase asks for anywhere. White space between terms is not asked for.
def asksFor : Phrase → Shape → Bool
  | .char c, shape => shape == .literal c
  | .symbol name, shape => shape == .symbol name
  | .spaces, _ | .fail, _ => false
  | .production _ phrase, shape | .optional phrase, shape | .absent phrase, shape | .many phrase, shape
  | .toEnd phrase, shape | .required phrase, shape => phrase.asksFor shape
  | .either first second, shape | .both first second, shape => first.asksFor shape || second.asksFor shape

theorem tries_read (phrase : Phrase) (top : Bool) (word : List Shape) :
    (phrase.read top word).Tries phrase.asksFor := by
  induction phrase generalizing top word with
  | char c =>
      have allows : (char c).asksFor (.literal c) = true := beq_self_eq_true _
      exact Reading.tries_take allows word
  | symbol name =>
      have allows : (symbol name).asksFor (.symbol name) = true := beq_self_eq_true _
      exact Reading.tries_take allows word
  | production name body ih => exact (ih false word).restoring
  | spaces => exact Reading.tries_repeatWhile Reading.tries_takeSpace Reading.tries_pass word
  | fail => exact nofun
  | either first second one two =>
      have left : (first.read top word).Tries (either first second).asksFor :=
        (one top word).widen fun shape asked => Bool.or_eq_true_iff.mpr (.inl asked)
      apply left.orElse
      intro rest
      exact (two top rest).widen fun shape asked => Bool.or_eq_true_iff.mpr (.inr asked)
  | both first second one two =>
      have left : (first.read top word).Tries (both first second).asksFor :=
        (one top word).widen fun shape asked => Bool.or_eq_true_iff.mpr (.inl asked)
      apply left.andThen
      intro rest
      exact (two top rest).widen fun shape asked => Bool.or_eq_true_iff.mpr (.inr asked)
  | optional phrase ih => exact (ih top word).decided
  | absent phrase ih => exact (ih top word).decided
  | many phrase ih => exact Reading.tries_repeatWhile (ih top) Reading.tries_pass word
  | toEnd phrase ih => exact Reading.tries_repeatWhile Reading.tries_more (ih top) word
  | required phrase ih => exact (ih top word).decided

end Phrase

variable {front back left word : List Shape} {state ending : State} {shape : Shape} {top : Bool}

namespace State

-- What is left of a group that is to end: nothing, or a comma and the selectors after it.
def Remains (ending : State) (left : List Shape) : Prop :=
  left = [] ∨ ∃ more, left = .symbol .comma :: more ∧ State.afterComma.run more = some ending

-- After a comma there is white space and then a selector.
theorem run_afterComma (run : State.afterComma.run word = some ending) (final : ending.final = true) :
    ∃ gaps more, word = gaps ++ more ∧ (∀ back, (word ++ back).dropWhile (· == Shape.space) = more ++ back) ∧
      State.start.run more = some ending := by
  induction word with
  | nil =>
      cases run
      cases final
  | cons shape word ih =>
      by_cases spaced : shape = Shape.space
      · subst spaced
        obtain ⟨gaps, more, rfl, dropped, onward⟩ := ih run
        exact ⟨Shape.space :: gaps, more, rfl, dropped, onward⟩
      · have same : afterComma.step shape = start.step shape := by
          simp [step, moves, List.lookup_cons, beq_false_of_ne spaced]
        rw [State.run, same] at run
        refine ⟨[], shape :: word, rfl, fun back => ?_, run⟩
        rw [List.cons_append, List.dropWhile_cons, beq_false_of_ne spaced]
        rfl

end State

namespace Phrase

theorem selector_post : (selector.post .start).isSome = true := by
  decide +kernel

theorem selector_asks : selector.asksFor (.symbol .comma) = false := by
  decide +kernel

-- A selector is read up to a comma, or up to what cannot follow.
theorem selector_stops (top : Bool) (run : State.start.run front = some ending) (final : ending.final = true)
    (stuck : ending.Stuck back) (unnegated : Shape.symbol .not ∉ front) :
    ∃ taken left, front = taken ++ left ∧ selector.Matches top (front ++ back) (left ++ back) ∧
      ending.Remains left := by
  obtain ⟨states, leads⟩ := Option.isSome_iff_exists.mp selector_post
  have tracks : Tracks ending back (selector.read top) State.start states := Phrase.tracks stuck leads
  obtain ⟨taken, left, lockstep⟩ := tracks front run unnegated
  have untried : (Shape.symbol .comma, back.length) ∉ (selector.read top (front ++ back)).misses := by
    intro tried
    have asked := selector.tries_read top (front ++ back) _ tried
    rw [selector_asks] at asked
    cases asked
  -- In the place of what cannot follow, a comma and another selector would be read the same way.
  have accepted : State.start.accepts (front ++ [.symbol .comma, .symbol .ident]) = true :=
    State.accepts_comma.mpr ⟨State.accepts_iff.mpr ⟨ending, run, final⟩, rfl⟩
  obtain ⟨rest, separated, matched⟩ := selector_matches top accepted
  obtain ⟨verdict, stands⟩ := lockstep.swaps (.symbol .comma) [.symbol .ident] nofun untried
  refine ⟨taken, left, lockstep.parts, ⟨verdict.symm.trans matched.1, lockstep.rest⟩, ?_⟩
  obtain ⟨next, _, reached⟩ := lockstep.reaches (verdict.symm.trans matched.1)
  rw [← matched.2, stands] at separated
  cases left with
  | nil => exact .inl rfl
  | cons shape more =>
      rcases separated with none | ⟨others, same, _⟩
      · cases none
      · obtain ⟨rfl, _⟩ := List.cons.inj same
        have onward := (lockstep.onward run unnegated reached).1
        rw [State.run, State.step_comma] at onward
        split at onward
        · exact .inr ⟨more, rfl, onward⟩
        · cases onward

-- Where no comma comes, what is required is a comma.
theorem nextSelector_stops (other : word.head? ≠ some (.symbol .comma)) :
    (nextSelector.read true word).verdict = .failed [.symbol .comma] ∧ (nextSelector.read true word).rest = word := by
  have missed : ((Phrase.required (.symbol .comma)).read true word) =
      ⟨.failed [.symbol .comma], word, [(.symbol .comma, word.length)]⟩ := by
    simp [Reading.take_other other, Reading.decided, Phrase.terms]
  have whole : nextSelector.read true word = _ := congrArg (Reading.andThen · _) missed
  rw [whole]
  exact ⟨rfl, rfl⟩

-- The selectors that remain are read, and then what cannot follow.
theorem selectors_stop (final : ending.final = true) (stuck : ending.Stuck back) (remains : ending.Remains left)
    (unnegated : Shape.symbol .not ∉ left) :
    ((Phrase.toEnd nextSelector).read true (left ++ back)).verdict = .failed [.symbol .comma] ∧
      ((Phrase.toEnd nextSelector).read true (left ++ back)).rest = back := by
  induction size : left.length using Nat.strongRecOn generalizing left with
  | _ size ih =>
      rcases remains with rfl | ⟨more, rfl, run⟩
      · have solid : back ≠ [] := by
          rintro rfl
          exact absurd (final.symm.trans stuck) nofun
        have other : back.head? ≠ some (.symbol .comma) := by
          have here : ending.run [] = some ending := rfl
          exact stuck.not_ahead here ((State.step_comma ending).trans (if_pos final)) nofun
        obtain ⟨verdict, rest⟩ := nextSelector_stops other
        rw [List.nil_append, toEnd_stops solid (by simp [verdict])]
        exact ⟨verdict, rest⟩
      · obtain ⟨gaps, selectors, rfl, dropped, onward⟩ := State.run_afterComma run final
        have unnamed : Shape.symbol .not ∉ selectors := fun present => unnegated (by simp [present])
        obtain ⟨taken, left, rfl, selected, others⟩ := selector_stops true onward final stuck unnamed
        have round : nextSelector.Matches true (.symbol .comma :: (gaps ++ (taken ++ left) ++ back))
            (left ++ back) := by
          refine matches_both.mpr ⟨_, matches_required.mpr (matches_symbol.mpr rfl), ?_⟩
          refine matches_both.mpr ⟨_, matches_spaces.mpr rfl, ?_⟩
          rw [dropped]
          exact matches_required.mpr selected
        have less := round.shorter rfl rfl
        have goes := toEnd_goes (List.cons_ne_nil _ _) round.1
        rw [round.2, if_pos less] at goes
        rw [List.cons_append, goes]
        refine ih left.length ?_ others (fun present => unnamed (by simp [present])) rfl
        rw [← size]
        simp
        omega

-- What is read first when it matches, and what comes of the rest.
theorem Matches.both_read {first : Phrase} {middle : List Shape} (taken : first.Matches top word middle)
    (second : Phrase) :
    (both first second).read top word = (second.read top middle).after (first.read top word).misses := by
  simp only [read_both, Reading.andThen, taken.1, taken.2]

-- A complete group is read to its end, and then a comma is missed.
theorem selectorsGroupBody_stops (run : State.start.run front = some ending) (final : ending.final = true)
    (stuck : ending.Stuck back) (unnegated : Shape.symbol .not ∉ front) :
    (selectorsGroupBody.read true (front ++ back)).verdict = .failed [.symbol .comma] ∧
      (selectorsGroupBody.read true (front ++ back)).rest = back := by
  obtain ⟨taken, left, rfl, selected, remains⟩ := selector_stops true run final stuck unnegated
  have whole : selectorsGroupBody.read true (taken ++ left ++ back) = _ :=
    (matches_required.mpr selected).both_read (Phrase.toEnd nextSelector)
  rw [whole]
  exact selectors_stop final stuck remains fun present => unnegated (by simp [present])

end Phrase

namespace State

-- Whether something is read as the argument of a negation.
def negating : State → Bool
  | .negated => true
  | .start | .afterComma => false
  | .named inside | .prefixed inside | .done inside | .dot inside | .bracket inside | .attrStar inside
  | .attrPrefixed inside | .attrName inside | .attrNamed inside | .attrOp inside | .attrValue inside
  | .colon inside | .colons inside | .argsOpen inside | .args inside => inside

theorem step_outside {next : State} (outside : state.negating = false) (steps : state.step shape = some next)
    (other : shape ≠ .symbol .not) : next.negating = false := by
  have every : ∀ state ∈ all, state.negating = false → ∀ move ∈ state.moves,
      move.1 ≠ .symbol .not → move.2.negating = false := by decide
  obtain ⟨before, after, same, _⟩ := List.lookup_eq_some_iff.mp steps
  exact every state (mem_all state) outside (shape, next) (by simp [same]) other

theorem run_outside (outside : state.negating = false) (run : state.run word = some ending)
    (unnegated : Shape.symbol .not ∉ word) : ending.negating = false := by
  induction word generalizing state with
  | nil =>
      cases run
      exact outside
  | cons shape word ih =>
      obtain ⟨next, steps, onward⟩ := Option.bind_eq_some_iff.mp run
      obtain ⟨other, others⟩ := not_or.mp (mt List.mem_cons.mpr unnegated)
      exact ih (step_outside outside steps (Ne.symm other)) onward others

-- Outside of negations no combinator belongs to a selector, nor to what may follow one.
theorem stuck_combinator {name : Symbol} (outside : state.negating = false) (final : state.final = true)
    (combines : name.isCombinator = true) (others : List Shape) : state.Stuck (.symbol name :: others) := by
  have every : ∀ state ∈ all, state.negating = false → state.final = true →
      ∀ name ∈ Symbol.all, name.isCombinator = true → state.step (.symbol name) = none := by decide
  exact every state (mem_all state) outside final name (Symbol.mem_all name) combines

end State

end CssSelectors
