import CssSelectors.Proofs.Parser.Following

-- Which attempts at productions are made depends on the shapes of the tokens, and on nothing else that a
-- tokenizer may report of a text.
namespace CssSelectors

-- An attempt at a production, but for where it began.
structure Attempt where
  production : Production
  depth : Nat
  matched : Bool
deriving DecidableEq, Repr

def TraceEntry.attempt (entry : TraceEntry) : Attempt :=
  ⟨entry.production, entry.depth, entry.matched⟩

namespace Parser

-- The attempts of the trace, newest first.
def attempts? (parser : Parser) : Option (List Attempt) :=
  parser.trace.map (·.map TraceEntry.attempt)

variable {parser before after : Parser}

theorem attempts?_of_trace (same : after.trace = before.trace) : after.attempts? = before.attempts? := by
  rw [attempts?, attempts?, same]

theorem attempts?_append {early late : List Attempt} {middle : Parser}
    (begun : middle.attempts? = before.attempts?.map (early ++ ·))
    (ended : after.attempts? = middle.attempts?.map (late ++ ·)) :
    after.attempts? = before.attempts?.map (late ++ early ++ ·) := by
  rw [ended, begun, Option.map_map]
  simp [Function.comp_def]

theorem trace_consume (parser : Parser) : (consume parser).2.trace = parser.trace := by
  unfold consume
  split <;> rfl

theorem trace_acceptToken (term : Term) (parser : Parser) :
    (acceptToken term parser).2.trace = parser.trace := by
  simp only [acceptToken]
  split
  · exact trace_consume _
  · rfl

theorem trace_acceptSpace (parser : Parser) : (acceptSpace parser).2.trace = parser.trace := by
  simp only [acceptSpace]
  split
  · exact trace_consume _
  · rfl

theorem trace_mismatch (context : List Term) (parser : Parser) :
    (parser.mismatch context).2.trace = parser.trace := by
  unfold mismatch
  split <;> rfl

-- An attempt stands behind those inside it and before the earlier ones.
theorem attempts?_attempt {production : Production} {body : Recognizer} {earlier : List TraceEntry}
    {matched : Bool} (traced : parser.trace = some earlier)
    (verdict : (body { parser with trace := some [] }).1 = .ok true ↔ matched = true) :
    (attempt production body parser).2.attempts? =
      some ((body { parser with trace := some [] }).2.attempts?.getD [] ++
        ⟨production, parser.depth, matched⟩ :: earlier.map TraceEntry.attempt) := by
  unfold attempt
  simp only [traced]
  generalize body { parser with trace := some [] } = ran at verdict ⊢
  obtain ⟨outcome, after⟩ := ran
  have inside : after.attempts?.getD [] = (after.trace.getD []).map TraceEntry.attempt := by
    unfold attempts?
    cases after.trace <;> rfl
  rw [attempts?, Option.map_some, List.map_append, inside, List.map_cons]
  rcases outcome with failure | _ | _
  · have missed : matched = false := by simpa using verdict
    rw [missed]
    rfl
  · have missed : matched = false := by simpa using verdict
    rw [missed]
    rfl
  · have fits : matched = true := by simpa using verdict
    rw [fits]
    rfl

-- One step after the other.
def both (head tail : Recognizer) : Recognizer := fun parser =>
  match head parser with
  | (.ok true, matched) => tail matched
  | other => other

variable {head tail : Recognizer}

-- A repetition ends in the round that does not match.
theorem repeatWhile_ended (other : (both head tail parser).1 ≠ .ok true) :
    (repeatWhile head tail parser).2 = (both head tail parser).2 := by
  rw [repeatWhile]
  unfold both at other ⊢
  cases ran : head parser with
  | mk outcome headed =>
      rw [ran] at other
      rcases outcome with failure | _ | _
      · rfl
      · rfl
      · simp only at other ⊢
        split
        · rename_i next came
          exact absurd (congrArg Prod.fst came) other
        · rfl

theorem repeatWhile_onward {next : Parser} (ran : both head tail parser = (.ok true, next))
    (nearer : next.remaining < parser.remaining) :
    repeatWhile head tail parser = repeatWhile head tail next := by
  rw [repeatWhile]
  unfold both at ran
  split at ran
  · rename_i headed matched
    simp only [matched, ran, if_pos nearer]
  · rename_i other
    exact absurd ran (other next)

end Parser

theorem Follows.matched_iff {course : Course} {before : Parser} {shapes : List Shape}
    {ran : Outcome × Parser} {reading : Reading} (follows : Follows course before shapes ran reading) :
    ran.1 = .ok true ↔ reading.verdict = .matched := by
  rcases follows.comes with ⟨after, rfl, verdict⟩ | ⟨after, rfl, verdict⟩ |
    ⟨context, after, verdict, rfl⟩
  · simp [verdict]
  · simp [verdict]
  · simp [verdict]

-- At a depth, a recognizer that stands before some shapes makes one and the same row of attempts,
-- whatever course of tokens has these shapes.
def Rehearsed (depth : Nat) (recognizer : Recognizer) : Prop :=
  ∀ shapes, ∃ attempts : List Attempt, ∀ (course : Course) (parser : Parser), parser.depth = depth →
    course.Stands parser.cursor shapes →
      (recognizer parser).2.attempts? = parser.attempts?.map (attempts ++ ·)

namespace Rehearsed

variable {depth : Nat} {recognizer answering head tail : Recognizer} {reader heading tailing : Reader}

-- The recognizer does on every course what the reader does, where the depth stays as it is.
def Everywhere (depth : Nat) (recognizer : Recognizer) (reader : Reader) : Prop :=
  ∀ course : Course, Simulates course (decide (depth = 0)) recognizer reader

theorem untraced (same : ∀ parser, (recognizer parser).2.trace = parser.trace) :
    Rehearsed depth recognizer := by
  refine fun shapes => ⟨[], fun course parser _ _ => ?_⟩
  rw [Parser.attempts?_of_trace (same parser)]
  cases parser.attempts? <;> rfl

theorem andThen (simulates : Everywhere depth head heading) (first : Rehearsed depth head)
    (second : Rehearsed depth tail) :
    Rehearsed depth (Parser.both head tail) := by
  intro shapes
  obtain ⟨early, begun⟩ := first shapes
  obtain ⟨late, ended⟩ := second (heading shapes).rest
  refine ⟨if (heading shapes).verdict = .matched then late ++ early else early, ?_⟩
  intro course parser deep stands
  have told := begun course parser deep stands
  have headed := simulates course parser shapes (by rw [deep]) stands
  rcases headed.comes with ⟨middle, ran, verdict⟩ | ⟨middle, ran, verdict⟩ |
    ⟨context, middle, verdict, ran⟩
  · rw [ran] at headed told
    have going := ended course middle (headed.depth.trans deep) headed.stands
    simp only [Parser.both, ran, verdict, if_true]
    exact Parser.attempts?_append told going
  · simpa [Parser.both, ran, verdict] using told
  · simpa [Parser.both, ran, verdict] using told

theorem orElse (simulates : Everywhere depth head heading) (first : Rehearsed depth head)
    (second : Rehearsed depth tail) :
    Rehearsed depth (fun parser => match head parser with
      | (.ok false, missed) => tail missed
      | other => other) := by
  intro shapes
  obtain ⟨early, begun⟩ := first shapes
  obtain ⟨late, ended⟩ := second (heading shapes).rest
  refine ⟨if (heading shapes).verdict = .missed then late ++ early else early, ?_⟩
  intro course parser deep stands
  have told := begun course parser deep stands
  have headed := simulates course parser shapes (by rw [deep]) stands
  rcases headed.comes with ⟨middle, ran, verdict⟩ | ⟨middle, ran, verdict⟩ |
    ⟨context, middle, verdict, ran⟩
  · simpa [ran, verdict] using told
  · rw [ran] at headed told
    have going := ended course middle (headed.depth.trans deep) headed.stands
    simp only [ran, verdict, if_true]
    exact Parser.attempts?_append told going
  · simpa [ran, verdict] using told

-- Another answer to the same attempts.
theorem answered (first : Rehearsed depth recognizer)
    (same : ∀ parser, (answering parser).2.trace = (recognizer parser).2.trace) :
    Rehearsed depth answering := by
  intro shapes
  obtain ⟨attempts, told⟩ := first shapes
  refine ⟨attempts, fun course parser deep stands => ?_⟩
  rw [Parser.attempts?_of_trace (same parser)]
  exact told course parser deep stands

theorem repeatWhile (heads : Everywhere depth head heading) (first : Rehearsed depth head)
    (tails : Everywhere depth tail tailing) (second : Rehearsed depth tail)
    (ends : ∀ shapes, (Reading.repeatWhile heading tailing shapes).verdict ≠ .endless) :
    Rehearsed depth (Parser.repeatWhile head tail) := by
  have rounds : Everywhere depth (Parser.both head tail) fun shapes => (heading shapes).andThen tailing :=
    fun course => (heads course).andThen (tails course)
  intro shapes
  induction size : shapes.length using Nat.strongRecOn generalizing shapes with
  | _ count ih =>
      obtain ⟨round, begun⟩ := andThen heads first second shapes
      by_cases matched : ((heading shapes).andThen tailing).verdict = .matched
      · have less : ((heading shapes).andThen tailing).rest.length < shapes.length := by
          refine Decidable.byContradiction fun stays => ends shapes ?_
          rw [Reading.repeatWhile_endless matched stays]
        obtain ⟨others, ended⟩ := ih _ (size ▸ less) ((heading shapes).andThen tailing).rest rfl
        refine ⟨others ++ round, fun course parser deep stands => ?_⟩
        have told := begun course parser deep stands
        have follows := rounds course parser shapes (by rw [deep]) stands
        obtain ⟨next, ran⟩ : ∃ next, Parser.both head tail parser = (.ok true, next) :=
          ⟨_, Prod.ext (follows.matched_iff.mpr matched) rfl⟩
        rw [ran] at told follows
        have nearer : next.remaining < parser.remaining :=
          stands.remaining follows.stands (follows.advances less)
        rw [Parser.repeatWhile_onward ran nearer]
        exact Parser.attempts?_append told (ended course next (follows.depth.trans deep) follows.stands)
      · refine ⟨round, fun course parser deep stands => ?_⟩
        have follows := rounds course parser shapes (by rw [deep]) stands
        rw [Parser.repeatWhile_ended (mt follows.matched_iff.mp matched)]
        exact begun course parser deep stands

theorem attempt (production : Production) (simulates : Everywhere depth recognizer reader)
    (first : Rehearsed depth recognizer) : Rehearsed depth (Parser.attempt production recognizer) := by
  intro shapes
  obtain ⟨inside, told⟩ := first shapes
  refine ⟨inside ++ [⟨production, depth, decide ((reader shapes).verdict = .matched)⟩], ?_⟩
  rintro course parser rfl stands
  cases traced : parser.trace with
  | none =>
      have told := told course parser rfl stands
      simp only [Parser.attempt, Parser.attempts?, traced] at told ⊢
      exact told
  | some before =>
      have told := told course { parser with trace := some [] } rfl stands
      have ran := simulates course { parser with trace := some [] } shapes rfl stands
      rw [Parser.attempts?_attempt traced (ran.matched_iff.trans decide_eq_true_iff.symm), told]
      simp [Parser.attempts?, traced]

theorem production (name : Production)
    (simulates : Everywhere (depth + 1) recognizer reader) (first : Rehearsed (depth + 1) recognizer) :
    Rehearsed depth (Parser.acceptProduction name recognizer) := by
  intro shapes
  obtain ⟨attempts, told⟩ := attempt name simulates first shapes
  refine ⟨attempts, fun course parser deep stands => ?_⟩
  exact told course { parser with depth := parser.depth + 1 } (by rw [deep]) stands

end Rehearsed

theorem Phrase.everywhere {phrase : Phrase} (productive : phrase.productive = true) (depth : Nat) :
    Rehearsed.Everywhere depth phrase.run (phrase.read (decide (depth = 0))) :=
  fun _ => Phrase.simulates productive _

-- The attempts that a productive phrase makes depend on the shapes alone.
theorem Phrase.rehearsed {phrase : Phrase} (productive : phrase.productive = true) (depth : Nat) :
    Rehearsed depth phrase.run := by
  induction phrase generalizing depth with
  | char c => exact .untraced (Parser.trace_acceptToken _)
  | symbol name => exact .untraced (Parser.trace_acceptToken _)
  | production name body ih =>
      have inside : body.productive = true := productive
      exact .production name (everywhere inside _) (ih inside _)
  | spaces =>
      have whole : Phrase.spaces.productive = true := rfl
      exact .repeatWhile (fun _ => .space) (.untraced Parser.trace_acceptSpace) (fun _ => .pass)
        (.untraced fun _ => rfl) fun _ => (Phrase.read_fair whole false _).ends
  | fail => exact .untraced fun _ => rfl
  | either first second one two =>
      obtain ⟨left, right⟩ := Bool.and_eq_true_iff.mp productive
      exact .orElse (everywhere left depth) (one left depth) (two right depth)
  | both first second one two =>
      obtain ⟨left, right⟩ := Bool.and_eq_true_iff.mp productive
      exact .andThen (everywhere left depth) (one left depth) (two right depth)
  | optional phrase ih =>
      refine (ih productive depth).answered fun parser => ?_
      rw [run]
      split <;> simp only [*]
  | absent phrase ih =>
      refine (ih productive depth).answered fun parser => ?_
      rw [run]
      split <;> simp only [*]
  | many phrase ih =>
      obtain ⟨inside, _⟩ := Bool.and_eq_true_iff.mp productive
      exact .repeatWhile (everywhere inside depth) (ih inside depth) (fun _ => .pass)
        (.untraced fun _ => rfl) fun _ => (Phrase.read_fair productive _ _).ends
  | toEnd phrase ih =>
      obtain ⟨inside, _⟩ := Bool.and_eq_true_iff.mp productive
      exact .repeatWhile (fun _ => .more) (.untraced fun _ => rfl) (everywhere inside depth)
        (ih inside depth) fun _ => (Phrase.read_fair productive _ _).ends
  | required phrase ih =>
      refine (ih productive depth).answered fun parser => ?_
      rw [run]
      split
      · rename_i missed ran
        rw [ran]
        split
        · exact Parser.trace_mismatch _ _
        · rfl
      · rfl

end CssSelectors
