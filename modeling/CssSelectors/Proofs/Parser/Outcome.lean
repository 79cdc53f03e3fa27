import CssSelectors.Proofs.Parser.Following
import CssSelectors.Validator

namespace CssSelectors

namespace Reading

-- The fewest shapes that were left at a miss, and what was tried there: in order, each once.
def extend (reached : Option (Nat × List Shape)) (miss : Shape × Nat) : Nat × List Shape :=
  match reached with
  | none => (miss.2, [miss.1])
  | some (left, shapes) =>
    if left < miss.2 then (left, shapes)
    else if miss.2 = left then
      if miss.1 ∈ shapes then (left, shapes) else (left, shapes ++ [miss.1])
    else (miss.2, [miss.1])

def farthest? (misses : List (Shape × Nat)) : Option (Nat × List Shape) :=
  misses.foldr (fun miss reached => some (extend reached miss)) none

theorem farthest?_eq_none {misses : List (Shape × Nat)} : farthest? misses = none ↔ misses = [] := by
  cases misses <;> simp [farthest?]

-- A place is the farthest of some misses, with all that was tried there.
structure Farthest (misses : List (Shape × Nat)) (place : Nat × List Shape) : Prop where
  least : ∀ miss ∈ misses, place.1 ≤ miss.2
  reached : ∃ shape, (shape, place.1) ∈ misses
  tried : ∀ shape, shape ∈ place.2 ↔ (shape, place.1) ∈ misses

theorem Farthest.first (miss : Shape × Nat) : Farthest [miss] (extend none miss) := by
  refine ⟨?_, ⟨miss.1, by simp [extend]⟩, ?_⟩
  · simp [extend]
  · intro shape
    simp [extend, Prod.ext_iff]

theorem Farthest.extend {misses : List (Shape × Nat)} {place : Nat × List Shape}
    (farthest : Farthest misses place) (miss : Shape × Nat) :
    Farthest (miss :: misses) (extend (some place) miss) := by
  obtain ⟨least, ⟨witness, noted⟩, tried⟩ := farthest
  obtain ⟨shape, left⟩ := miss
  obtain ⟨nearest, shapes⟩ := place
  rcases Nat.lt_trichotomy nearest left with nearer | rfl | beyond
  · have kept : Reading.extend (some (nearest, shapes)) (shape, left) = (nearest, shapes) := by
      simp [Reading.extend, nearer]
    rw [kept]
    refine ⟨?_, ⟨witness, List.mem_cons_of_mem _ noted⟩, ?_⟩
    · exact List.forall_mem_cons.mpr ⟨Nat.le_of_lt nearer, least⟩
    · intro other
      simp [tried other, Nat.ne_of_lt nearer]
  · have bound : ∀ miss ∈ (shape, nearest) :: misses, nearest ≤ miss.2 :=
      List.forall_mem_cons.mpr ⟨Nat.le_refl _, least⟩
    by_cases present : shape ∈ shapes
    · have kept : Reading.extend (some (nearest, shapes)) (shape, nearest) = (nearest, shapes) := by
        simp [Reading.extend, present]
      rw [kept]
      refine ⟨bound, ⟨witness, List.mem_cons_of_mem _ noted⟩, ?_⟩
      intro other
      rw [List.mem_cons, Prod.mk.injEq, ← tried other]
      refine ⟨.inr, ?_⟩
      rintro (⟨rfl, _⟩ | inside)
      · exact present
      · exact inside
    · have added : Reading.extend (some (nearest, shapes)) (shape, nearest) =
          (nearest, shapes ++ [shape]) := by
        simp [Reading.extend, present]
      rw [added]
      refine ⟨bound, ⟨witness, List.mem_cons_of_mem _ noted⟩, ?_⟩
      intro other
      simp [← tried other, or_comm]
  · have moved : Reading.extend (some (nearest, shapes)) (shape, left) = (left, [shape]) := by
      simp [Reading.extend, Nat.lt_asymm beyond, Nat.ne_of_lt beyond]
    rw [moved]
    have apart : ∀ other, (other, left) ∉ misses := by
      intro other present
      have bound := least _ present
      exact absurd beyond (Nat.not_lt.mpr bound)
    refine ⟨?_, ⟨shape, List.mem_cons_self⟩, ?_⟩
    · refine List.forall_mem_cons.mpr ⟨Nat.le_refl _, ?_⟩
      exact fun other present => Nat.le_trans (Nat.le_of_lt beyond) (least other present)
    · intro other
      simp [apart other]

theorem farthest?_spec {misses : List (Shape × Nat)} {place : Nat × List Shape}
    (found : farthest? misses = some place) : Farthest misses place := by
  induction misses generalizing place with
  | nil => cases found
  | cons miss misses ih =>
      cases Option.some.inj found
      show Farthest (miss :: misses) (Reading.extend (farthest? misses) miss)
      cases before : farthest? misses with
      | none =>
          rw [farthest?_eq_none.mp before]
          exact .first miss
      | some reached => exact (ih before).extend miss

-- Why shapes are no selector group: what an error names, and how many shapes are left where.
structure Fault where
  context : List Term
  expected : List Term
  left : Nat
deriving DecidableEq, Repr

def fault (reading : Reading) (context : List Term) : Fault :=
  match farthest? reading.misses with
  | some (left, shapes) => ⟨context, shapes.map Shape.term, left⟩
  | none => ⟨context, context, reading.rest.length⟩

end Reading

-- Whether shapes are a selector group, and if not, why.
def recognize (shapes : List Shape) : Except Reading.Fault Unit :=
  let reading := Phrase.selectorsGroupBody.read true shapes
  match reading.verdict with
  | .matched => .ok ()
  | .failed context => .error (reading.fault context)
  | _ => .error (reading.fault [.production .selectorsGroup])

def Course.error (course : Course) (fault : Reading.Fault) : SelectorError :=
  .mismatch fault.context fault.expected (course.ahead fault.left).2 (course.ahead fault.left).1

-- A scan starts the course of the text.
structure Course.Begun (course : Course) (shapes : List Shape) : Prop where
  scans : Scans course.tokenizer course.text 0 course.tokens course.close
  spells : Spells course.tokens shapes

variable {course : Course} {shapes : List Shape}

theorem Course.Begun.farther (begun : course.Begun shapes) {few many : Nat} (less : few < many)
    (bound : many ≤ shapes.length) : (course.ahead many).1 < (course.ahead few).1 := by
  have length := begun.spells.length
  exact begun.scans.increasing _ _ (by omega) (by omega)

-- Farthest by offset is farthest by what is left.
theorem Course.Begun.extend (begun : course.Begun shapes) (reached : Option (Nat × List Shape))
    (miss : Shape × Nat) (bound : miss.2 ≤ shapes.length)
    (bounds : ∀ place ∈ reached, place.1 ≤ shapes.length) :
    Frontier.extend
        (reached.map fun place =>
          ⟨(course.ahead place.1).1, place.2.map Shape.term, (course.ahead place.1).2⟩)
        (course.missAt miss) =
      ⟨(course.ahead (Reading.extend reached miss).1).1,
        (Reading.extend reached miss).2.map Shape.term,
        (course.ahead (Reading.extend reached miss).1).2⟩ := by
  cases reached with
  | none => rfl
  | some place =>
      obtain ⟨left, tried⟩ := place
      have within : left ≤ shapes.length := bounds _ rfl
      have known : miss.1.term ∈ tried.map Shape.term ↔ miss.1 ∈ tried := by
        constructor
        · intro present
          obtain ⟨shape, inside, same⟩ := List.mem_map.mp present
          exact Shape.term_injective same ▸ inside
        · exact List.mem_map_of_mem
      rcases Nat.lt_trichotomy left miss.2 with nearer | same | beyond
      · have near := begun.farther nearer bound
        simp [Frontier.extend, Reading.extend, Course.missAt, near, nearer]
      · subst same
        by_cases present : miss.1 ∈ tried
        · have named := known.mpr present
          simp [Frontier.extend, Reading.extend, Course.missAt, named, present, -List.mem_map]
        · have unnamed := mt known.mp present
          simp [Frontier.extend, Reading.extend, Course.missAt, unnamed, present, -List.mem_map]
      · have further := begun.farther beyond within
        simp [Frontier.extend, Reading.extend, Course.missAt, Nat.lt_asymm further,
          Nat.ne_of_gt further, Nat.lt_asymm beyond, Nat.ne_of_lt beyond]

theorem Reading.farthest?_bound {misses : List (Shape × Nat)} {bound : Nat}
    (bounds : ∀ miss ∈ misses, miss.2 ≤ bound) : ∀ place ∈ farthest? misses, place.1 ≤ bound := by
  induction misses with
  | nil => nofun
  | cons miss misses ih =>
      have near : miss.2 ≤ bound := bounds _ List.mem_cons_self
      have before := ih fun other present => bounds other (List.mem_cons_of_mem _ present)
      intro place found
      cases Option.some.inj found
      show (Reading.extend (farthest? misses) miss).1 ≤ bound
      unfold Reading.extend
      split
      · exact near
      · rename_i left tried reached
        have within : left ≤ bound := before _ reached
        split
        · exact within
        · split
          · split
            · exact within
            · exact within
          · exact near

theorem Course.Begun.frontier (begun : course.Begun shapes) {misses : List (Shape × Nat)}
    (bounds : ∀ miss ∈ misses, miss.2 ≤ shapes.length) :
    Frontier.ofMisses? (misses.map course.missAt) =
      (Reading.farthest? misses).map fun place =>
        ⟨(course.ahead place.1).1, place.2.map Shape.term, (course.ahead place.1).2⟩ := by
  induction misses with
  | nil => rfl
  | cons miss misses ih =>
      have inside : ∀ miss ∈ misses, miss.2 ≤ shapes.length :=
        fun other present => bounds other (List.mem_cons_of_mem _ present)
      have step := begun.extend (Reading.farthest? misses) miss (bounds _ List.mem_cons_self)
        (Reading.farthest?_bound inside)
      rw [← ih inside] at step
      exact congrArg some step

theorem Course.Begun.blame (begun : course.Begun shapes) {reading : Reading} (context : List Term)
    (bounds : ∀ miss ∈ reading.misses, miss.2 ≤ shapes.length) :
    blame context (reading.misses.map course.missAt) (course.ahead reading.rest.length) =
      course.error (reading.fault context) := by
  rw [CssSelectors.blame, begun.frontier bounds, Reading.fault]
  cases Reading.farthest? reading.misses with
  | none => rfl
  | some place => rfl

-- Outside of every attempt a selector is required, and so is each comma before the end.
theorem Phrase.selectorsGroupBody_not_missed (shapes : List Shape) :
    (Phrase.selectorsGroupBody.read true shapes).verdict ≠ .missed := by
  have required : ∀ (phrase : Phrase) rest, ((Phrase.required phrase).read true rest).verdict ≠ .missed := by
    intro phrase rest
    simp only [Phrase.read_required, Reading.decided]
    split <;> simp_all
  refine Reading.andThen_not_missed (required _ _) (Reading.repeatWhile_not_missed ?_)
  intro rest
  apply Reading.andThen_not_missed (required _ _)
  intro rest
  exact Reading.andThen_not_missed
    (Reading.repeatWhile_not_missed (fun rest => by simp [Reading.pass]) _) (required _)

theorem recognize_failed {shapes : List Shape} {context : List Term}
    (verdict : (Phrase.selectorsGroupBody.read true shapes).verdict = .failed context) :
    recognize shapes = .error ((Phrase.selectorsGroupBody.read true shapes).fault context) := by
  unfold recognize
  simp only [verdict]

theorem Phrase.selectorsGroupBody_productive : Phrase.selectorsGroupBody.productive = true := by
  decide

-- A fresh recognizer judges the shapes of the tokens and nothing else; a fault lies at the token
-- before which it was found.
theorem Parser.parseSelectorsGroup_eq {parser : Parser} (depth : parser.depth = 0)
    (fresh : parser.misses = []) (begun : course.Begun shapes)
    (stands : course.Stands (parser.cursor.ignoringComments true) shapes) :
    parser.parseSelectorsGroup.1 = (recognize shapes).mapError course.error := by
  have ran := (Phrase.simulates Phrase.selectorsGroupBody_productive true).attempt .selectorsGroup
    (parser.withCursor (parser.cursor.ignoringComments true)) shapes (by simp [Parser.withCursor, depth]) stands
  have bounds := (Phrase.read_fair Phrase.selectorsGroupBody_productive true shapes).misses
  have misses := ran.misses
  rw [show (parser.withCursor (parser.cursor.ignoringComments true)).misses = [] from fresh,
    List.append_nil] at misses
  unfold Parser.parseSelectorsGroup recognize
  rcases ran.comes with ⟨after, came, verdict⟩ | ⟨after, came, verdict⟩ | ⟨context, after, verdict, came⟩
  · simp only [came, verdict]
    rfl
  · exact absurd verdict (Phrase.selectorsGroupBody_not_missed shapes)
  · have noted : after.misses =
        (Phrase.selectorsGroupBody.read true shapes).misses.map course.missAt := by
      simpa only [came] using misses
    simp only [came, verdict, noted, begun.blame context bounds]
    rfl

-- A cursor that has just loaded the text of a course stands at its start.
theorem Course.Begun.loaded (begun : course.Begun shapes) {cursor : Cursor}
    (asks : cursor.tokenizer = course.tokenizer) :
    course.Stands ((cursor.load course.text).ignoringComments true) shapes :=
  ⟨course.tokens, List.suffix_refl _, begun.spells, ⟨asks, rfl, rfl, nofun⟩, Nat.zero_le _,
    begun.scans⟩

theorem Validator.parse_eq {validator : Validator}
    (asks : validator.cursor.tokenizer = course.tokenizer) (begun : course.Begun shapes) :
    (validator.parse course.text).1 = (recognize shapes).mapError course.error :=
  Parser.parseSelectorsGroup_eq rfl rfl begun (begun.loaded asks)

theorem Validator.parseTraced_eq (validator : Validator)
    (asks : validator.cursor.tokenizer = course.tokenizer) (begun : course.Begun shapes) :
    (validator.parseTraced course.text).1 = (recognize shapes).mapError course.error :=
  Parser.parseSelectorsGroup_eq rfl rfl begun (begun.loaded asks)

end CssSelectors
