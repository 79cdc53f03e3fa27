import CssSelectors.Proofs.Grammar.Recognition

namespace CssSelectors

-- The reader of a phrase and the automaton go through shapes side by side, up to the point where the
-- automaton is stuck. The reader takes nothing beyond it, and whatever it tries in vain on the way
-- is something that the automaton could have taken there. Negations are left out, since a reader of
-- one tries a parenthesis that must not come.

-- Nothing that comes next leads on, nor does the end.
def State.Stuck (state : State) : List Shape → Prop
  | [] => state.final = false
  | shape :: _ => state.step shape = none

-- A miss of something that could have come where it was missed.
def Expected (state : State) (front back : List Shape) (miss : Shape × Nat) : Prop :=
  ∃ passed left next, front = passed ++ left ∧ miss.2 = left.length + back.length ∧
    state.run passed = some next ∧ (next.step miss.1).isSome = true ∧ miss.1 ≠ Shape.space

-- A reader has taken a part of the shapes in front of the point where the automaton is stuck. If it
-- has not missed a shape at that point, it makes the same of that shape and whatever comes then.
structure Lockstep (back : List Shape) (reader : Reader) (state : State) (states : List State)
    (front taken left : List Shape) : Prop where
  parts : front = taken ++ left
  rest : (reader (front ++ back)).rest = left ++ back
  reaches : (reader (front ++ back)).verdict = .matched → ∃ next ∈ states, state.run taken = some next
  misses : ∀ miss ∈ (reader (front ++ back)).misses, Expected state front back miss
  swaps : ∀ shape others, shape ≠ Shape.space →
    (shape, back.length) ∉ (reader (front ++ back)).misses →
    (reader (front ++ shape :: others)).verdict = (reader (front ++ back)).verdict ∧
      (reader (front ++ shape :: others)).rest = left ++ shape :: others

-- A reader keeps step with the automaton from a state to one of some states.
def Tracks (ending : State) (back : List Shape) (reader : Reader) (state : State)
    (states : List State) : Prop :=
  ∀ front, state.run front = some ending → Shape.symbol .not ∉ front →
    ∃ taken left, Lockstep back reader state states front taken left

variable {ending state next : State} {states others found : List State}
  {front back taken left passed : List Shape} {reader head tail : Reader} {shape : Shape}
  {miss : Shape × Nat}

theorem State.Stuck.not_ahead (stuck : ending.Stuck back) (run : state.run front = some ending)
    (steps : state.step shape = some next) (unready : front.head? ≠ some shape) :
    (front ++ back).head? ≠ some shape := by
  cases front with
  | cons => exact unready
  | nil =>
      cases run
      cases back with
      | nil => nofun
      | cons first back =>
          rintro same
          cases Option.some.inj same
          exact absurd (steps.symm.trans stuck) nofun

theorem Expected.later (expected : Expected next left back miss)
    (reached : state.run taken = some next) : Expected state (taken ++ left) back miss := by
  obtain ⟨passed, rest, last, rfl, count, arrived, offered⟩ := expected
  exact ⟨taken ++ passed, rest, last, (List.append_assoc ..).symm, count,
    (State.run_from reached).trans arrived, offered⟩

theorem Lockstep.weaken (lockstep : Lockstep back reader state states front taken left)
    (inside : states ⊆ others) : Lockstep back reader state others front taken left := by
  refine ⟨lockstep.parts, lockstep.rest, ?_, lockstep.misses, lockstep.swaps⟩
  intro matched
  obtain ⟨next, present, reached⟩ := lockstep.reaches matched
  exact ⟨next, inside present, reached⟩

theorem Lockstep.alike {other : Reader}
    (lockstep : Lockstep back reader state states front taken left)
    (same : other (front ++ back) = reader (front ++ back))
    (swapped : ∀ shape others, shape ≠ Shape.space →
      (shape, back.length) ∉ (reader (front ++ back)).misses →
      (reader (front ++ shape :: others)).verdict = (reader (front ++ back)).verdict →
      other (front ++ shape :: others) = reader (front ++ shape :: others)) :
    Lockstep back other state states front taken left := by
  refine ⟨lockstep.parts, same ▸ lockstep.rest, same ▸ lockstep.reaches, same ▸ lockstep.misses, ?_⟩
  rw [same]
  intro shape others solid unmissed
  have kept := lockstep.swaps shape others solid unmissed
  rwa [swapped shape others solid unmissed kept.1]

-- A reader that reads the same and answers otherwise.
theorem Lockstep.answered {other : Reader} {verdict : Verdict}
    (lockstep : Lockstep back reader state states front taken left)
    (same : other (front ++ back) = { reader (front ++ back) with verdict })
    (swapped : ∀ shape others,
      (reader (front ++ shape :: others)).verdict = (reader (front ++ back)).verdict →
      (reader (front ++ shape :: others)).rest = left ++ shape :: others →
      other (front ++ shape :: others) = { reader (front ++ shape :: others) with verdict })
    (reaches : verdict = .matched → ∃ next ∈ others, state.run taken = some next) :
    Lockstep back other state others front taken left := by
  refine ⟨lockstep.parts, same ▸ lockstep.rest, same ▸ reaches, same ▸ lockstep.misses, ?_⟩
  rw [same]
  intro shape others solid unmissed
  obtain ⟨kept, rest⟩ := lockstep.swaps shape others solid unmissed
  rw [swapped shape others kept rest]
  exact ⟨rfl, rest⟩

theorem Lockstep.unmatched (lockstep : Lockstep back reader state states front taken left)
    (unmatched : (reader (front ++ back)).verdict ≠ .matched) :
    Lockstep back reader state others front taken left :=
  ⟨lockstep.parts, lockstep.rest, fun matched => absurd matched unmatched, lockstep.misses,
    lockstep.swaps⟩

theorem Lockstep.onward (lockstep : Lockstep back reader state states front taken left)
    (run : state.run front = some ending) (unnegated : Shape.symbol .not ∉ front)
    (reached : state.run taken = some next) :
    next.run left = some ending ∧ Shape.symbol .not ∉ left := by
  rw [lockstep.parts] at run unnegated
  exact ⟨(State.run_from reached).symm.trans run, fun present => unnegated (List.mem_append_right _ present)⟩

theorem Lockstep.join {second whole : Reader} {more rest : List Shape}
    (headed : Lockstep back reader state states front taken left)
    (tailed : Lockstep back second next others left more rest)
    (reached : state.run taken = some next)
    (joined : whole (front ++ back) =
      (second (left ++ back)).after (reader (front ++ back)).misses)
    (swapped : ∀ shape others,
      (reader (front ++ shape :: others)).verdict = (reader (front ++ back)).verdict →
      (reader (front ++ shape :: others)).rest = left ++ shape :: others →
      whole (front ++ shape :: others) =
        (second (left ++ shape :: others)).after (reader (front ++ shape :: others)).misses) :
    Lockstep back whole state others front (taken ++ more) rest := by
  have parts := headed.parts
  refine ⟨?_, ?_, ?_, ?_, ?_⟩
  · rw [parts, tailed.parts, List.append_assoc]
  · rw [joined]
    exact tailed.rest
  · rw [joined]
    intro matched
    obtain ⟨last, inside, arrived⟩ := tailed.reaches matched
    exact ⟨last, inside, (State.run_from reached).trans arrived⟩
  · rw [joined]
    intro miss noted
    rcases List.mem_append.mp noted with new | old
    · exact parts ▸ (tailed.misses miss new).later reached
    · exact headed.misses miss old
  · rw [joined]
    intro shape others solid unmissed
    have apart := mt List.mem_append.mpr unmissed
    rw [not_or] at apart
    obtain ⟨verdict, rest⟩ := headed.swaps shape others solid apart.2
    rw [swapped shape others verdict rest]
    exact tailed.swaps shape others solid apart.1

namespace Tracks

theorem weaken (tracks : Tracks ending back reader state states) (inside : states ⊆ others) :
    Tracks ending back reader state others := by
  intro front run unnegated
  obtain ⟨taken, left, lockstep⟩ := tracks front run unnegated
  exact ⟨taken, left, lockstep.weaken inside⟩

theorem take (stuck : ending.Stuck back) (steps : state.step shape = some next)
    (solid : shape ≠ Shape.space) (leads : shape ≠ .symbol .not → next ∈ states) :
    Tracks ending back (Reading.take shape) state states := by
  intro front run unnegated
  by_cases ready : front.head? = some shape
  · obtain ⟨rest, rfl⟩ := List.head?_eq_some_iff.mp ready
    have unlike : shape ≠ .symbol .not := by
      rintro rfl
      exact unnegated List.mem_cons_self
    refine ⟨[shape], rest, rfl, ?_, ?_, ?_, ?_⟩
    · rw [List.cons_append, Reading.take_self]
    · exact fun _ => ⟨next, leads unlike, by simp [State.run, steps]⟩
    · rw [List.cons_append, Reading.take_self]
      intro miss none
      exact absurd none List.not_mem_nil
    · intro shape others _ _
      simp only [List.cons_append, Reading.take_self]
      exact ⟨trivial, trivial⟩
  · have missed := Reading.take_other (stuck.not_ahead run steps ready)
    refine ⟨[], front, rfl, ?_, ?_, ?_, ?_⟩
    · rw [missed]
    · rw [missed]
      intro matched
      cases matched
    · rw [missed]
      intro miss present
      rw [List.mem_singleton.mp present]
      exact ⟨[], front, state, rfl, List.length_append, rfl, by simp [steps], solid⟩
    · rw [missed]
      intro other others _ unmissed
      have different : (front ++ other :: others).head? ≠ some shape := by
        cases front with
        | nil =>
            intro same
            cases Option.some.inj same
            exact unmissed List.mem_cons_self
        | cons => exact ready
      rw [Reading.take_other different]
      exact ⟨rfl, rfl⟩

theorem takeSpace (stuck : ending.Stuck back) (steps : state.step Shape.space = some next)
    (leads : next ∈ states) : Tracks ending back Reading.takeSpace state states := by
  intro front run _
  by_cases ready : front.head? = some Shape.space
  · obtain ⟨rest, rfl⟩ := List.head?_eq_some_iff.mp ready
    refine ⟨[Shape.space], rest, rfl, ?_, ?_, ?_, ?_⟩
    · rw [List.cons_append, Reading.takeSpace_self]
    · exact fun _ => ⟨next, leads, by simp [State.run, steps]⟩
    · rw [List.cons_append, Reading.takeSpace_self]
      intro miss none
      exact absurd none List.not_mem_nil
    · intro shape others _ _
      simp only [List.cons_append, Reading.takeSpace_self]
      exact ⟨trivial, trivial⟩
  · have missed := Reading.takeSpace_other (stuck.not_ahead run steps ready)
    refine ⟨[], front, rfl, ?_, ?_, ?_, ?_⟩
    · rw [missed]
    · rw [missed]
      intro matched
      cases matched
    · rw [missed]
      intro miss none
      exact absurd none List.not_mem_nil
    · rw [missed]
      intro other others solid _
      have different : (front ++ other :: others).head? ≠ some Shape.space := by
        cases front with
        | nil => exact fun same => solid (Option.some.inj same)
        | cons => exact ready
      rw [Reading.takeSpace_other different]
      exact ⟨rfl, rfl⟩

theorem pass (present : state ∈ states) : Tracks ending back Reading.pass state states := by
  intro front _ _
  refine ⟨[], front, rfl, rfl, ?_, ?_, ?_⟩
  · exact fun _ => ⟨state, present, rfl⟩
  · exact nofun
  · exact fun _ _ _ _ => ⟨rfl, rfl⟩

-- A place where a group may end is stuck only before something else.
theorem more (stuck : ending.Stuck back) (final : state.final = true) (present : state ∈ states) :
    Tracks ending back Reading.more state states := by
  intro front run _
  have nonempty : front ++ back ≠ [] := by
    intro empty
    obtain ⟨rfl, rfl⟩ := List.append_eq_nil_iff.mp empty
    cases run
    exact absurd (final.symm.trans stuck) nofun
  have goes : ∀ shapes, shapes ≠ [] → Reading.more shapes = ⟨.matched, shapes, []⟩ := by
    intro shapes some
    cases shapes with
    | nil => exact absurd rfl some
    | cons => rfl
  refine ⟨[], front, rfl, ?_, ?_, ?_, ?_⟩
  · rw [goes _ nonempty]
  · exact fun _ => ⟨state, present, rfl⟩
  · simp [goes _ nonempty]
  · intro shape others _ _
    rw [goes _ nonempty, goes _ (by simp)]
    exact ⟨rfl, rfl⟩

theorem andThen (first : Tracks ending back head state states)
    (second : ∀ next ∈ states, Tracks ending back tail next others) :
    Tracks ending back (fun shapes => (head shapes).andThen tail) state others := by
  intro front run unnegated
  obtain ⟨taken, left, headed⟩ := first front run unnegated
  by_cases matched : (head (front ++ back)).verdict = .matched
  · obtain ⟨next, present, reached⟩ := headed.reaches matched
    obtain ⟨run, unnegated⟩ := headed.onward run unnegated reached
    obtain ⟨more, rest, tailed⟩ := second next present left run unnegated
    refine ⟨taken ++ more, rest, headed.join tailed reached ?_ ?_⟩
    · rw [Reading.andThen, matched, headed.rest]
    · intro shape others verdict left
      rw [Reading.andThen, verdict, matched, left]
  · refine ⟨taken, left, (headed.unmatched matched).alike (Reading.andThen_kept matched) ?_⟩
    intro shape others _ _ same
    exact Reading.andThen_kept (same ▸ matched)

theorem orElse (first : Tracks ending back head state states)
    (second : Tracks ending back tail state states)
    (restores : ∀ shapes, (head shapes).verdict = .missed → (head shapes).rest = shapes) :
    Tracks ending back (fun shapes => (head shapes).orElse tail) state states := by
  intro front run unnegated
  obtain ⟨taken, left, headed⟩ := first front run unnegated
  by_cases missed : (head (front ++ back)).verdict = .missed
  · obtain ⟨more, rest, tailed⟩ := second front run unnegated
    have joined : (head (front ++ back)).orElse tail =
        (tail (front ++ back)).after (head (front ++ back)).misses := by
      rw [Reading.orElse, missed, restores _ missed]
    refine ⟨more, rest, tailed.parts, ?_, ?_, ?_, ?_⟩
    · simp only [joined]
      exact tailed.rest
    · simp only [joined]
      exact tailed.reaches
    · simp only [joined]
      intro miss noted
      rcases List.mem_append.mp noted with new | old
      · exact tailed.misses miss new
      · exact headed.misses miss old
    · simp only [joined]
      intro shape others solid unmissed
      have apart := mt List.mem_append.mpr unmissed
      rw [not_or] at apart
      have again := (headed.swaps shape others solid apart.2).1.trans missed
      rw [Reading.orElse, again, restores _ again]
      exact tailed.swaps shape others solid apart.1
  · refine ⟨taken, left, headed.alike (Reading.orElse_kept missed) ?_⟩
    intro shape others _ _ same
    exact Reading.orElse_kept (same ▸ missed)

theorem optional (tracks : Tracks ending back reader state states) (present : state ∈ states)
    (restores : ∀ shapes, (reader shapes).verdict = .missed → (reader shapes).rest = shapes) :
    Tracks ending back (fun shapes => (reader shapes).decided .matched .matched) state states := by
  intro front run unnegated
  obtain ⟨taken, left, lockstep⟩ := tracks front run unnegated
  refine ⟨taken, left, lockstep.parts, ?_, ?_, ?_, ?_⟩
  · simpa using lockstep.rest
  · intro matched
    cases verdict : (reader (front ++ back)).verdict with
    | matched => exact lockstep.reaches verdict
    | missed =>
        have whole := lockstep.rest.symm.trans (restores _ verdict)
        have none : taken = [] := by
          have same := List.append_cancel_right whole
          have parts := lockstep.parts
          rw [same] at parts
          simpa using parts
        exact ⟨state, present, none ▸ rfl⟩
    | failed => simp [Reading.decided, verdict] at matched
    | endless => simp [Reading.decided, verdict] at matched
  · simpa using lockstep.misses
  · intro shape others solid unmissed
    obtain ⟨verdict, rest⟩ := lockstep.swaps shape others solid (by simpa using unmissed)
    exact ⟨Reading.verdict_decided verdict, by simpa using rest⟩

theorem required (tracks : Tracks ending back reader state states) {onMiss : Verdict}
    (unmatched : onMiss ≠ .matched) :
    Tracks ending back (fun shapes => (reader shapes).decided .matched onMiss) state states := by
  intro front run unnegated
  obtain ⟨taken, left, lockstep⟩ := tracks front run unnegated
  refine ⟨taken, left, lockstep.parts, ?_, ?_, ?_, ?_⟩
  · simpa using lockstep.rest
  · intro matched
    cases verdict : (reader (front ++ back)).verdict with
    | matched => exact lockstep.reaches verdict
    | missed => simp [Reading.decided, verdict, unmatched] at matched
    | failed => simp [Reading.decided, verdict] at matched
    | endless => simp [Reading.decided, verdict] at matched
  · simpa using lockstep.misses
  · intro shape others solid unmissed
    obtain ⟨verdict, rest⟩ := lockstep.swaps shape others solid (by simpa using unmissed)
    exact ⟨Reading.verdict_decided verdict, by simpa using rest⟩

theorem restoring (tracks : Tracks ending back reader state states) :
    Tracks ending back (fun shapes => (reader shapes).restoring shapes) state states := by
  intro front run unnegated
  obtain ⟨taken, left, lockstep⟩ := tracks front run unnegated
  by_cases missed : (reader (front ++ back)).verdict = .missed
  · refine ⟨[], front, rfl, ?_, ?_, ?_, ?_⟩
    · simp [Reading.restoring, missed]
    · simp [missed]
    · simpa using lockstep.misses
    · intro shape others solid unmissed
      obtain ⟨verdict, _⟩ := lockstep.swaps shape others solid (by simpa using unmissed)
      refine ⟨by simpa using verdict, ?_⟩
      simp [Reading.restoring, verdict, missed]
  · refine ⟨taken, left, lockstep.alike (Reading.restoring_kept missed) ?_⟩
    intro shape others _ _ same
    exact Reading.restoring_kept (same ▸ missed)

theorem repeatWhile (restores : ∀ shapes, (head shapes).verdict = .missed → (head shapes).rest = shapes)
    (rounds : ∀ state ∈ states, ∃ middle, Tracks ending back head state middle ∧
      ∀ next ∈ middle, Tracks ending back tail next states) (present : state ∈ states) :
    Tracks ending back (Reading.repeatWhile head tail) state states := by
  intro front run unnegated
  induction size : front.length using Nat.strongRecOn generalizing state front with
  | _ size ih =>
      obtain ⟨middle, heads, tails⟩ := rounds state present
      obtain ⟨early, behind, headed⟩ := heads front run unnegated
      obtain ⟨taken, left, round⟩ := heads.andThen tails front run unnegated
      by_cases missed : (head (front ++ back)).verdict = .missed
      · have whole := List.append_cancel_right (headed.rest.symm.trans (restores _ missed))
        have none : early = [] := List.self_eq_append_left.mp (whole ▸ headed.parts)
        refine ⟨early, behind, headed.answered (Reading.repeatWhile_ended missed) ?_ ?_⟩
        · exact fun shape others verdict _ => Reading.repeatWhile_ended (verdict.trans missed)
        · exact fun _ => ⟨state, present, none ▸ rfl⟩
      · by_cases matched : ((head (front ++ back)).andThen tail).verdict = .matched
        · obtain ⟨next, inside, reached⟩ := round.reaches matched
          by_cases advances : left.length < front.length
          · obtain ⟨onward, free⟩ := round.onward run unnegated reached
            obtain ⟨more, rest, tailed⟩ := ih _ (size ▸ advances) inside left onward free rfl
            refine ⟨taken ++ more, rest, round.join tailed reached ?_ ?_⟩
            · rw [Reading.repeatWhile_round matched, round.rest, if_pos (by simpa using advances)]
            · intro shape others verdict rest
              rw [Reading.repeatWhile_round (verdict.trans matched), rest,
                if_pos (by simpa using advances)]
          · have stays : ∀ more, ¬ (left ++ more).length < (front ++ more).length := by simpa using advances
            refine ⟨taken, left, round.answered (Reading.repeatWhile_endless matched ?_) ?_ nofun⟩
            · exact round.rest ▸ stays back
            · exact fun shape others verdict rest =>
                Reading.repeatWhile_endless (verdict.trans matched) (rest ▸ stays (shape :: others))
        · have stopped := Reading.repeatWhile_stopped missed matched
          refine ⟨taken, left, round.alike stopped ?_⟩
          intro shape others solid unmissed same
          have unheaded := mt (Reading.misses_andThen _) unmissed
          have verdict := (headed.swaps shape others solid unheaded).1
          exact Reading.repeatWhile_stopped (verdict ▸ missed) (same ▸ matched)

end Tracks

namespace Phrase

-- The states that a phrase may lead to on shapes without a negation. It is defined where everything
-- that the phrase may try could come, and where it may rely on what a miss leaves.
def post : Phrase → State → Option (List State)
  | .char c, state => (state.step (.literal c)).map fun next => [next]
  | .symbol name, state =>
    if name = .space then none
    else (state.step (.symbol name)).map fun next => if name = .not then [] else [next]
  | .production _ body, state => body.post state
  | .spaces, state =>
    State.explore (fun state => (state.step Shape.space).map fun next => [next]) 64 [] [state]
  | .fail, _ => some []
  | .either first second, state =>
    if first.restores then
      match first.post state, second.post state with
      | some here, some others => some (here ∪ others)
      | _, _ => none
    else none
  | .both first second, state => (first.post state).bind (State.gather second.post)
  | .optional phrase, state =>
    if phrase.restores then (phrase.post state).map (state :: ·) else none
  | .absent _, _ => none
  | .many phrase, state =>
    if phrase.restores then State.explore phrase.post 64 [] [state] else none
  | .toEnd phrase, state => (State.explore phrase.post 64 [] [state]).filter (·.all State.final)
  | .required phrase, state => phrase.post state

variable {phrase : Phrase} {top : Bool}

theorem restores_rest (restores : phrase.restores = true) :
    ∀ shapes, (phrase.read top shapes).verdict = .missed → (phrase.read top shapes).rest = shapes :=
  fun _ missed => Misses.restored ⟨missed, rfl⟩ restores

theorem post_either {first second : Phrase}
    (leads : (either first second).post state = some states) :
    first.restores = true ∧ ∃ here others, first.post state = some here ∧
      second.post state = some others ∧ states = here ∪ others := by
  rw [post] at leads
  split at leads
  · rename_i restores
    cases one : first.post state with
    | none => simp [one] at leads
    | some here =>
        cases two : second.post state with
        | none => simp [one, two] at leads
        | some others =>
            simp only [one, two, Option.some.injEq] at leads
            exact ⟨restores, here, others, rfl, rfl, leads.symm⟩
  · cases leads

-- Each phrase keeps step if its parts do from wherever they are begun. A repetition stays within a
-- set of states that its rounds do not leave.
theorem tracks (stuck : ending.Stuck back) (leads : phrase.post state = some states) :
    Tracks ending back (phrase.read top) state states := by
  induction phrase generalizing state states top with
  | char c =>
      obtain ⟨next, steps, rfl⟩ := Option.map_eq_some_iff.mp leads
      exact .take stuck steps (fun same => by cases same) fun _ => List.mem_cons_self
  | symbol name =>
      rw [post] at leads
      split at leads
      · cases leads
      · rename_i solid
        obtain ⟨next, steps, rfl⟩ := Option.map_eq_some_iff.mp leads
        refine .take stuck steps (fun same => solid (Shape.symbol.inj same)) ?_
        intro unlike
        have positive : name ≠ .not := fun same => unlike (same ▸ rfl)
        simp [positive]
  | production name body ih => exact (ih leads).restoring
  | spaces =>
      obtain ⟨start, closed⟩ := State.explore_closed leads
      refine Tracks.repeatWhile Reading.takeSpace_restores ?_ start
      intro state present
      obtain ⟨found, here, inside⟩ := closed state present
      obtain ⟨next, steps, rfl⟩ := Option.map_eq_some_iff.mp here
      exact ⟨[next], .takeSpace stuck steps List.mem_cons_self, fun _ member => .pass (inside member)⟩
  | fail =>
      intro front _ _
      refine ⟨[], front, rfl, rfl, ?_, ?_, fun _ _ _ _ => ⟨rfl, rfl⟩⟩
      · intro matched
        cases matched
      · intro miss none
        exact absurd none List.not_mem_nil
  | either first second one two =>
      obtain ⟨restores, here, others, left, right, rfl⟩ := post_either leads
      refine ((one left).weaken ?_).orElse ((two right).weaken ?_) (restores_rest restores)
      · exact fun _ member => List.mem_union_left member _
      · exact fun _ member => List.mem_union_right _ member
  | both first second one two =>
      obtain ⟨middle, here, gathered⟩ := Option.bind_eq_some_iff.mp leads
      apply (one here).andThen
      intro next present
      obtain ⟨found, onward, inside⟩ := State.gather_spec gathered next present
      exact (two onward).weaken inside
  | optional phrase ih =>
      rw [post] at leads
      split at leads
      · rename_i restores
        obtain ⟨found, here, rfl⟩ := Option.map_eq_some_iff.mp leads
        refine ((ih here).weaken ?_).optional List.mem_cons_self (restores_rest restores)
        exact fun _ member => List.mem_cons_of_mem _ member
      · cases leads
  | absent => cases leads
  | many phrase ih =>
      rw [post] at leads
      split at leads
      · rename_i restores
        obtain ⟨start, closed⟩ := State.explore_closed leads
        refine Tracks.repeatWhile (restores_rest restores) ?_ start
        intro state present
        obtain ⟨found, here, inside⟩ := closed state present
        exact ⟨found, ih here, fun _ member => .pass (inside member)⟩
      · cases leads
  | toEnd phrase ih =>
      obtain ⟨explored, final⟩ := Option.filter_eq_some_iff.mp leads
      obtain ⟨start, closed⟩ := State.explore_closed explored
      refine Tracks.repeatWhile (fun shapes _ => Reading.more_restores shapes) ?_ start
      intro state present
      obtain ⟨found, here, inside⟩ := closed state present
      refine ⟨[state], .more stuck (List.all_eq_true.mp final state present) List.mem_cons_self, ?_⟩
      intro next member
      rw [List.mem_singleton.mp member]
      exact (ih here).weaken inside
  | required phrase ih =>
      refine (ih leads).required fun missed => ?_
      cases top <;> cases missed

theorem selectorsGroupBody_post : (selectorsGroupBody.post .start).isSome = true := by
  decide +kernel

end Phrase

namespace State

-- From every place a group can still be completed, and something other than white space may come.

def finish : State → List Shape
  | .start | .afterComma | .prefixed _ | .dot _ | .colon _ | .colons _ => [.symbol .ident]
  | .negated => [.symbol .ident]
  | .named _ | .done _ => []
  | .bracket _ => [.symbol .ident, .literal ']']
  | .attrStar _ => [.literal '|', .symbol .ident, .literal ']']
  | .attrPrefixed _ => [.symbol .ident, .literal ']']
  | .attrName _ | .attrNamed _ | .attrValue _ => [.literal ']']
  | .attrOp _ => [.symbol .ident, .literal ']']
  | .argsOpen _ => [.symbol .ident, .literal ')']
  | .args _ => [.literal ')']

def all : List State :=
  [.start, .afterComma, .negated] ++ [false, true].flatMap fun inside =>
    [.named inside, .prefixed inside, .done inside, .dot inside, .bracket inside, .attrStar inside,
      .attrPrefixed inside, .attrName inside, .attrNamed inside, .attrOp inside, .attrValue inside,
      .colon inside, .colons inside, .argsOpen inside, .args inside]

theorem mem_all (state : State) : state ∈ all := by
  cases state with
  | start | afterComma | negated => decide
  | named inside | prefixed inside | done inside | dot inside | bracket inside | attrStar inside
  | attrPrefixed inside | attrName inside | attrNamed inside | attrOp inside | attrValue inside
  | colon inside | colons inside | argsOpen inside | args inside => cases inside <;> decide

theorem accepts_finish (state : State) : state.accepts state.finish = true := by
  have every : ∀ state ∈ all, state.accepts state.finish = true := by decide
  exact every state (mem_all state)

theorem offers_solid (state : State) :
    ∃ shape, shape ≠ Shape.space ∧ (state.step shape).isSome = true := by
  have every : ∀ state ∈ all, state.finish.headD (.symbol .comma) ≠ Shape.space ∧
      (state.step (state.finish.headD (.symbol .comma))).isSome = true := by decide
  exact ⟨_, every state (mem_all state)⟩

theorem run_accepts (run : state.run front = some next) : state.accepts (front ++ next.finish) = true := by
  obtain ⟨last, reached, final⟩ := accepts_iff.mp (accepts_finish next)
  exact accepts_iff.mpr ⟨last, (run_from run).trans reached, final⟩

theorem Stuck.rejects (stuck : ending.Stuck back) (run : state.run front = some ending) :
    state.accepts (front ++ back) = false := by
  rw [Bool.eq_false_iff]
  intro accepted
  obtain ⟨last, reached, final⟩ := accepts_iff.mp accepted
  rw [run_from run] at reached
  cases back with
  | nil =>
      cases reached
      exact absurd (final.symm.trans stuck) nofun
  | cons shape back =>
      have blocked : ending.step shape = none := stuck
      simp [State.run, blocked] at reached

-- Unless all shapes are accepted there is a first point where the automaton is stuck.
theorem stuck_of_rejected {shapes : List Shape} (rejected : state.accepts shapes = false) :
    ∃ front back ending, shapes = front ++ back ∧ state.run front = some ending ∧ ending.Stuck back := by
  induction shapes generalizing state with
  | nil => exact ⟨[], [], state, rfl, rfl, rejected⟩
  | cons shape shapes ih =>
      rw [accepts] at rejected
      cases steps : state.step shape with
      | none => exact ⟨[], shape :: shapes, state, rfl, rfl, steps⟩
      | some next =>
          rw [steps] at rejected
          obtain ⟨front, back, ending, rfl, run, stuck⟩ := ih rejected
          exact ⟨shape :: front, back, ending, rfl, by simp [State.run, steps, run], stuck⟩

end State

theorem viable_iff {shapes : List Shape} : Viable shapes ↔ (State.start.run shapes).isSome = true := by
  constructor
  · rintro ⟨more, leaves⟩
    obtain ⟨last, reached, _⟩ := State.accepts_iff.mp leaves.accepts
    rw [State.run_append] at reached
    obtain ⟨next, run, _⟩ := Option.bind_eq_some_iff.mp reached
    simp [run]
  · intro alive
    obtain ⟨next, run⟩ := Option.isSome_iff_exists.mp alive
    exact ⟨next.finish, accepts_iff.mp (State.run_accepts run)⟩

theorem viable_append_iff (run : State.start.run front = some ending) :
    Viable (front ++ [shape]) ↔ (ending.step shape).isSome = true := by
  rw [viable_iff, State.run_from run]
  cases steps : ending.step shape <;> simp [State.run, steps]

-- A miss at the very point where the automaton is stuck names something that could have come there.
theorem Expected.at_ending (expected : Expected state front back miss)
    (run : state.run front = some ending) (place : miss.2 = back.length) :
    miss.1 ≠ Shape.space ∧ (ending.step miss.1).isSome = true := by
  obtain ⟨passed, left, next, rfl, count, reached, offered, solid⟩ := expected
  have none : left = [] := List.length_eq_zero_iff.mp (by omega)
  subst none
  rw [List.append_nil, reached] at run
  cases run
  exact ⟨solid, offered⟩

-- Shapes that are no selector group are not read to an end.
theorem Phrase.selectorsGroupBody_failed {shapes : List Shape}
    (rejected : State.start.accepts shapes = false) :
    ∃ context, (selectorsGroupBody.read true shapes).verdict = .failed context := by
  have fair := read_fair selectorsGroupBody_productive true shapes
  cases verdict : (selectorsGroupBody.read true shapes).verdict with
  | matched =>
      have recognized : recognize shapes = .ok () := by
        unfold recognize
        simp only [verdict]
      rw [recognize_iff, ← accepts_iff, rejected] at recognized
      cases recognized
  | missed => exact absurd verdict (selectorsGroupBody_not_missed shapes)
  | failed context => exact ⟨context, rfl⟩
  | endless => exact absurd verdict fair.ends

-- What could come where the automaton is stuck has been tried there: otherwise the reading would have failed
-- before it, too, though all could go on to a group from there.
theorem Lockstep.tried
    (lockstep : Lockstep back (Phrase.selectorsGroupBody.read true) .start states front taken left)
    (run : State.start.run front = some ending)
    (failed : (Phrase.selectorsGroupBody.read true (front ++ back)).verdict ≠ .matched)
    (solid : shape ≠ Shape.space) (offered : (ending.step shape).isSome = true) :
    (shape, back.length) ∈ (Phrase.selectorsGroupBody.read true (front ++ back)).misses := by
  by_contra unnoted
  obtain ⟨next, steps⟩ := Option.isSome_iff_exists.mp offered
  have longer : State.start.run (front ++ [shape]) = some next := by
    rw [State.run_append, run]
    simp [State.run, steps]
  have accepted : State.start.accepts (front ++ shape :: next.finish) = true := by
    simpa using State.run_accepts longer
  have matched := (Phrase.selectorsGroupBody_matches true accepted).1
  rw [(lockstep.swaps shape next.finish solid unnoted).1] at matched
  exact failed matched

-- No miss lies farther than where the automaton is stuck, and there is one there.
theorem Lockstep.farthest {place : Nat × List Shape}
    (lockstep : Lockstep back reader state states front taken left)
    (noted : (shape, back.length) ∈ (reader (front ++ back)).misses)
    (farthest : Reading.Farthest (reader (front ++ back)).misses place) : place.1 = back.length := by
  obtain ⟨witness, reached⟩ := farthest.reached
  obtain ⟨_, rest, _, _, count, _⟩ := lockstep.misses _ reached
  have near := farthest.least _ noted
  simp only at count near
  omega

-- The fault of shapes that are no selector group lies where they cease to be viable, and names what
-- would have kept them so.
theorem recognize_fault (run : State.start.run front = some ending) (stuck : ending.Stuck back)
    (unnegated : Shape.symbol .not ∉ front) :
    ∃ (context : List Term) (shapes : List Shape),
      recognize (front ++ back) = .error ⟨context, shapes.map Shape.term, back.length⟩ ∧
        ∀ shape, shape ∈ shapes ↔ shape ≠ Shape.space ∧ Viable (front ++ [shape]) := by
  obtain ⟨states, leads⟩ := Option.isSome_iff_exists.mp Phrase.selectorsGroupBody_post
  have tracks : Tracks ending back (Phrase.selectorsGroupBody.read true) State.start states :=
    Phrase.tracks stuck leads
  obtain ⟨taken, left, lockstep⟩ := tracks front run unnegated
  obtain ⟨context, verdict⟩ := Phrase.selectorsGroupBody_failed (stuck.rejects run)
  have failed : (Phrase.selectorsGroupBody.read true (front ++ back)).verdict ≠ .matched := by
    rw [verdict]
    nofun
  obtain ⟨solid, unspaced, offered⟩ := State.offers_solid ending
  have noted := lockstep.tried run failed unspaced offered
  cases found : Reading.farthest? (Phrase.selectorsGroupBody.read true (front ++ back)).misses with
  | none =>
      rw [Reading.farthest?_eq_none.mp found] at noted
      cases noted
  | some place =>
      have farthest := Reading.farthest?_spec found
      have here := lockstep.farthest noted farthest
      refine ⟨context, place.2, ?_, ?_⟩
      · rw [recognize_failed verdict]
        simp only [Reading.fault, found, here]
      · intro shape
        rw [farthest.tried, here, viable_append_iff run]
        constructor
        · exact fun present => (lockstep.misses _ present).at_ending run rfl
        · exact fun offered => lockstep.tried run failed offered.1 offered.2

end CssSelectors
