import CssSelectors.Proofs.Cursor.Reported
import CssSelectors.Proofs.Parser.Account
import CssSelectors.Proofs.Parser.Plain
import Mathlib.Control.Monad.Basic

-- A recognizer that has not matched leaves no trace on the cursor, whatever the tokenizer reports and
-- whatever is remembered of it.
namespace CssSelectors

namespace Parser

-- What a step of recognition never changes. The position may be any other in the text.
structure Keeps (before after : Parser) : Prop where
  cursor : before.cursor.Grows after.cursor
  depth : after.depth = before.depth
  misses : before.misses <:+ after.misses
  trace : ∃ entries, after.trace = before.trace.map (entries ++ ·)

-- Nothing at all has changed but what is remembered and noted.
structure Restored (before after : Parser) : Prop extends Keeps before after where
  offset : after.cursor.offset = before.cursor.offset

variable {before middle after parser : Parser} {cursor : Cursor} {recognizer : Recognizer}

theorem Keeps.refl (parser : Parser) : parser.Keeps parser := by
  refine ⟨.refl _, rfl, List.suffix_refl _, [], ?_⟩
  cases parser.trace <;> rfl

theorem Keeps.trans (one : before.Keeps middle) (two : middle.Keeps after) : before.Keeps after := by
  obtain ⟨earlier, first⟩ := one.trace
  obtain ⟨later, second⟩ := two.trace
  refine ⟨one.cursor.trans two.cursor, two.depth.trans one.depth, one.misses.trans two.misses,
    later ++ earlier, ?_⟩
  rw [second, first, Option.map_map]
  congr 1
  funext entries
  simp

theorem keeps_withCursor (grows : parser.cursor.Grows cursor) : parser.Keeps (parser.withCursor cursor) :=
  ⟨grows, rfl, List.suffix_refl _, (Keeps.refl parser).trace⟩

-- A step of recognition that keeps all this wherever it starts.
def Keeping (recognizer : Recognizer) : Prop := ∀ parser : Parser, parser.Keeps (recognizer parser).2

theorem keeping_consume : Keeping consume := by
  intro parser
  have grows := parser.cursor.next_grows
  unfold consume
  split
  all_goals
    rename_i moved
    rw [moved] at grows
    exact keeps_withCursor grows

theorem keeping_acceptToken (term : Term) : Keeping (acceptToken term) := by
  intro parser
  obtain ⟨token, after, read, _, grows, _⟩ := parser.cursor.current_spec
  unfold acceptToken
  simp only [read]
  split
  · exact (keeps_withCursor grows).trans (keeping_consume _)
  · exact ⟨grows.trans (after.grows_seek _), rfl, List.suffix_cons _ _, (Keeps.refl parser).trace⟩

theorem keeping_acceptSpace : Keeping acceptSpace := by
  intro parser
  obtain ⟨token, after, read, _, grows, _⟩ := parser.cursor.current_spec
  unfold acceptSpace
  simp only [read]
  split
  · exact (keeps_withCursor grows).trans (keeping_consume _)
  · exact keeps_withCursor grows

theorem keeping_moreText : Keeping moreText :=
  fun parser => keeps_withCursor parser.cursor.valid_grows

theorem keeping_pass : Keeping pass := Keeps.refl

theorem Keeping.attempt (production : Production) (keeping : Keeping recognizer) :
    Keeping (Parser.attempt production recognizer) := by
  intro parser
  unfold Parser.attempt
  cases traced : parser.trace with
  | none => exact keeping parser
  | some before =>
      obtain ⟨grows, depth, misses, entries, trace⟩ := keeping { parser with trace := some [] }
      refine ⟨grows, depth, misses, ?_⟩
      simp only [trace, traced, Option.map_some, List.append_nil, Option.getD_some]
      exact ⟨_, congrArg some (List.append_assoc entries [_] before).symm⟩

theorem Keeping.acceptProduction (production : Production) (keeping : Keeping recognizer) :
    Keeping (Parser.acceptProduction production recognizer) := by
  intro parser
  obtain ⟨grows, depth, misses, trace⟩ :=
    keeping.attempt production { parser with depth := parser.depth + 1 }
  have lowered : ∀ depth, depth = parser.depth + 1 → depth - 1 = parser.depth := by
    intro depth same
    omega
  unfold Parser.acceptProduction
  refine ⟨?_, lowered _ depth, misses, trace⟩
  simp only
  split
  · exact grows.trans (Cursor.grows_seek _ _)
  · exact grows

theorem mismatch_spec (context : List Term) (parser : Parser) :
    parser.Keeps (parser.mismatch context).2 ∧
      parser.cursor.Comments parser.cursor.offset (parser.mismatch context).2.cursor.offset := by
  unfold mismatch
  split
  · exact ⟨.refl parser, .none⟩
  · obtain ⟨token, after, read, _, grows, comments⟩ := parser.cursor.current_spec
    simp only [read]
    exact ⟨keeps_withCursor grows, comments⟩

theorem account_keeps : Account .silent fun before ran _ => before.Keeps ran.2 where
  token := keeping_acceptToken
  space := keeping_acceptSpace
  more := keeping_moreText
  stay parser _ := .refl parser
  endless := .refl
  mismatch context parser _ := (mismatch_spec context parser).1
  trans := .trans
  production name _ keeping := Keeping.acceptProduction name keeping

end Parser

theorem Phrase.keeping_run (phrase : Phrase) : Parser.Keeping phrase.run := Parser.account_keeps.run phrase

namespace Parser

variable {parser : Parser} {recognizer : Recognizer}

-- A recognizer that goes back when it does not match.
def Restoring (recognizer : Recognizer) : Prop := ∀ parser : Parser,
  parser.cursor.offset ≤ parser.cursor.size → (recognizer parser).1 = .ok false →
    (recognizer parser).2.cursor.offset = parser.cursor.offset

theorem offset_seek_back {cursor : Cursor} (within : parser.cursor.offset ≤ parser.cursor.size)
    (grows : parser.cursor.Grows cursor) :
    (cursor.seek parser.cursor.offset).offset = parser.cursor.offset := by
  rw [Cursor.seek, Cursor.offset_moveTo, grows.size]
  exact Nat.min_eq_left within

theorem consume_ne_missed (parser : Parser) : (consume parser).1 ≠ .ok false := by
  unfold consume
  split <;> nofun

theorem restoring_acceptToken (term : Term) : Restoring (acceptToken term) := by
  intro parser within missed
  obtain ⟨token, after, read, _, grows, _⟩ := parser.cursor.current_spec
  unfold acceptToken at missed ⊢
  simp only [read] at missed ⊢
  split at missed
  · exact absurd missed (consume_ne_missed _)
  · rename_i unfit
    rw [if_neg unfit]
    exact offset_seek_back within grows

theorem restoring_acceptProduction (production : Production) (keeping : Keeping recognizer) :
    Restoring (acceptProduction production recognizer) := by
  intro parser within missed
  obtain ⟨grows, _⟩ := keeping.attempt production { parser with depth := parser.depth + 1 }
  simp only [acceptProduction] at missed ⊢
  simp only [missed]
  exact offset_seek_back within grows

-- Inside an attempt no mismatch is an error.
def Quiet (outcome : Outcome) : Prop :=
  ∀ context expected found offset, outcome ≠ .error (.mismatch context expected found offset)

def QuietInside (recognizer : Recognizer) : Prop :=
  ∀ parser : Parser, parser.depth ≠ 0 → Quiet (recognizer parser).1

theorem quiet_ok (matched : Bool) : Quiet (.ok matched) := nofun

theorem quiet_endless (offset : Nat) : Quiet (.error (.endless offset)) := by
  intro _ _ _ _ same
  cases same

theorem quiet_consume (parser : Parser) : Quiet (consume parser).1 := by
  unfold consume
  split <;> nofun

theorem quiet_acceptToken (term : Term) (parser : Parser) : Quiet (acceptToken term parser).1 := by
  simp only [acceptToken]
  split
  · exact quiet_consume _
  · exact quiet_ok _

theorem quiet_acceptSpace (parser : Parser) : Quiet (acceptSpace parser).1 := by
  simp only [acceptSpace]
  split
  · exact quiet_consume _
  · exact quiet_ok _

-- A production is attempted inside its own attempt, wherever that is.
theorem quiet_acceptProduction (production : Production) (quiet : QuietInside recognizer)
    (parser : Parser) : Quiet (acceptProduction production recognizer parser).1 := by
  simp only [acceptProduction, attempt]
  split
  · exact quiet _ (Nat.succ_ne_zero _)
  · exact quiet _ (Nat.succ_ne_zero _)

-- The depth is carried along, for what comes next is quiet only if it is inside as well.
theorem account_quiet : Account .silent fun before ran _ =>
    before.depth ≠ 0 → ran.2.depth = before.depth ∧ Quiet ran.1 where
  token term parser _ := ⟨(keeping_acceptToken term parser).depth, quiet_acceptToken term parser⟩
  space parser _ := ⟨(keeping_acceptSpace parser).depth, quiet_acceptSpace parser⟩
  more parser _ := ⟨(keeping_moreText parser).depth, quiet_ok _⟩
  stay _ matched _ := ⟨rfl, quiet_ok matched⟩
  endless _ _ := ⟨rfl, quiet_endless _⟩
  mismatch _ _ outside inside := absurd outside inside
  trans := by
    intro before middle ran _ _ _ early late inside
    obtain ⟨deep, _⟩ := early inside
    obtain ⟨deeper, quiet⟩ := late (deep ▸ inside)
    exact ⟨deeper.trans deep, quiet⟩
  production name body quiet parser _ :=
    ⟨((Phrase.production name body).keeping_run parser).depth,
      quiet_acceptProduction name (fun parser inside => (quiet parser inside).2) parser⟩

end Parser

theorem Phrase.quietInside_run (phrase : Phrase) : Parser.QuietInside phrase.run :=
  fun parser inside => (Parser.account_quiet.run phrase parser inside).2

namespace Phrase

-- What may stand in a choice between terms: it goes back when it does not match, and no mismatch is an
-- error.
structure Tentative (phrase : Phrase) : Prop where
  restores : Parser.Restoring phrase.run
  quiet : ∀ parser, Parser.Quiet (phrase.run parser).1

theorem tentative_term (term : Term) : term.phrase.Tentative := by
  cases term with
  | char c => exact ⟨Parser.restoring_acceptToken _, Parser.quiet_acceptToken _⟩
  | symbol name => exact ⟨Parser.restoring_acceptToken _, Parser.quiet_acceptToken _⟩
  | production name =>
      have shape : ∃ production body, name.phrase = .production production body := by
        cases name <;> exact ⟨_, _, rfl⟩
      obtain ⟨production, body, whole⟩ := shape
      rw [Term.phrase, whole]
      exact ⟨Parser.restoring_acceptProduction production body.keeping_run,
        Parser.quiet_acceptProduction production body.quietInside_run⟩

theorem Tentative.either {first second : Phrase} (one : first.Tentative) (two : second.Tentative) :
    (Phrase.either first second).Tentative := by
  constructor
  · intro parser within missed
    have kept := first.keeping_run parser
    have back := one.restores parser within
    simp only [run] at missed ⊢
    split at missed
    · rename_i middle ran
      rw [ran] at kept back
      exact (two.restores middle (kept.cursor.within within) missed).trans (back rfl)
    · rename_i other
      exact back missed
  · intro parser
    have quiet := one.quiet parser
    simp only [run]
    split
    · exact two.quiet _
    · exact quiet

theorem Tentative.choice {phrases : List Phrase} (each : ∀ phrase ∈ phrases, phrase.Tentative) :
    (Phrase.choice phrases).Tentative := by
  induction phrases with
  | nil => exact ⟨fun _ _ _ => rfl, fun _ => Parser.quiet_ok _⟩
  | cons phrase phrases ih =>
      obtain ⟨first, others⟩ := List.forall_mem_cons.mp each
      exact first.either (ih others)

theorem tentative_choice (terms : List Term) :
    (Phrase.choice (terms.map Term.phrase)).Tentative := by
  apply Tentative.choice
  intro phrase present
  obtain ⟨term, _, rfl⟩ := List.mem_map.mp present
  exact tentative_term term

-- Outside of every attempt a term that is required and does not match is an error, which is found at
-- the position itself, or past the comments that stand there.
theorem Tentative.required {phrase : Phrase} (tentative : phrase.Tentative) {parser : Parser}
    (within : parser.cursor.offset ≤ parser.cursor.size) (outside : parser.depth = 0) :
    ((Phrase.required phrase).run parser).1 ≠ .ok false ∧
      ∀ context expected found offset, ((Phrase.required phrase).run parser).1 =
          .error (.mismatch context expected found offset) →
        parser.cursor.Comments parser.cursor.offset
          ((Phrase.required phrase).run parser).2.cursor.offset := by
  have kept := phrase.keeping_run parser
  have back := tentative.restores parser within
  have quiet := tentative.quiet parser
  simp only [run]
  split
  · rename_i missed ran
    rw [ran] at kept back
    rw [if_pos (kept.depth.trans outside)]
    constructor
    case left =>
      intro same
      cases same
    case right =>
      intro _ _ _ _ _
      have comments := (missed.mismatch_spec phrase.terms).2
      rw [back rfl] at comments
      exact kept.cursor.comments comments
  · rename_i other
    refine ⟨fun missed => other _ (Prod.ext missed rfl), ?_⟩
    exact fun _ _ _ _ failed => absurd failed (quiet _ _ _ _)

end Phrase

namespace Parser

theorem parseSelectorsGroup_depth (parser : Parser) :
    parser.parseSelectorsGroup.2.depth = parser.depth := by
  have ran := (Phrase.selectorsGroupBody.keeping_run.attempt .selectorsGroup
    (parser.withCursor (parser.cursor.ignoringComments true))).depth
  unfold parseSelectorsGroup
  simp only
  split
  · exact ran
  · exact (mismatch_spec _ _).1.depth.trans ran
  · exact ran

-- What may be asked of a parser without an error on a mismatch, and what makes one of it.
inductive Accepting : Recognizer → Prop where
  | term (term : Term) : Accepting (accept term)
  | choice (terms : List Term) : Accepting (acceptChoice terms)

inductive Expecting : Recognizer → Prop where
  | term (term : Term) : Expecting (expect term)
  | choice (terms : List Term) : Expecting (expectChoice terms)

theorem Accepting.phrase (accepting : Accepting recognizer) :
    ∃ phrase : Phrase, phrase.Tentative ∧ recognizer = phrase.run := by
  cases accepting with
  | term term => exact ⟨_, Phrase.tentative_term term, rfl⟩
  | choice terms => exact ⟨_, Phrase.tentative_choice terms, rfl⟩

theorem Expecting.phrase (expecting : Expecting recognizer) :
    ∃ phrase : Phrase, phrase.Tentative ∧ recognizer = (Phrase.required phrase).run := by
  cases expecting with
  | term term => exact ⟨_, Phrase.tentative_term term, rfl⟩
  | choice terms => exact ⟨_, Phrase.tentative_choice terms, rfl⟩

end Parser

namespace Operation

-- Between operations the position is in the text, and no attempt is under way.
theorem reached_within (operations : List Operation) (tokenizer : Tokenizer) :
    (reached operations (Parser.on (Cursor.on tokenizer))).cursor.offset ≤
      (reached operations (Parser.on (Cursor.on tokenizer))).cursor.size :=
  (sound_reached operations (Cursor.sound_on tokenizer)).within

theorem run_depth (operation : Operation) {parser : Parser} (outside : parser.depth = 0) :
    (operation.run parser).2.depth = 0 := by
  cases operation with
  | accept term => exact (term.phrase.keeping_run parser).depth.trans outside
  | acceptChoice terms => exact ((Phrase.choice _).keeping_run parser).depth.trans outside
  | expect term => exact ((Phrase.required _).keeping_run parser).depth.trans outside
  | expectChoice terms => exact ((Phrase.required _).keeping_run parser).depth.trans outside
  | selectorsGroup => exact parser.parseSelectorsGroup_depth.trans outside
  | newParser => rfl
  | _ => exact outside

theorem reached_depth (operations : List Operation) {parser : Parser} (outside : parser.depth = 0) :
    (reached operations parser).depth = 0 := by
  induction operations generalizing parser with
  | nil => exact outside
  | cons operation rest ih => exact ih (operation.run_depth outside)

end Operation

namespace Parser

-- Whatever the tokenizer reports, and whatever is remembered of what it reported: no mismatch of what
-- is accepted moves the position or is an error, no call changes the depth, and what is expected outside of
-- every attempt fails where it stood, but for comments.
theorem backtracking_exact :
    (∀ (tokenizer : Tokenizer) (operations : List Operation),
      (Operation.reached operations (Parser.on (Cursor.on tokenizer))).depth = 0 ∧
      (Operation.reached operations (Parser.on (Cursor.on tokenizer))).cursor.offset ≤
        (Operation.reached operations (Parser.on (Cursor.on tokenizer))).cursor.size) ∧
    ∀ parser : Parser, parser.cursor.offset ≤ parser.cursor.size →
      (∀ recognizer, Accepting recognizer →
        ((recognizer parser).1 = .ok false → parser.Restored (recognizer parser).2) ∧
        (∀ context expected found offset,
          (recognizer parser).1 ≠ .error (.mismatch context expected found offset)) ∧
        (recognizer parser).2.depth = parser.depth) ∧
      (∀ recognizer, Expecting recognizer →
        (parser.depth = 0 → (recognizer parser).1 ≠ .ok false ∧
          ∀ context expected found offset,
            (recognizer parser).1 = .error (.mismatch context expected found offset) →
              parser.cursor.Comments parser.cursor.offset (recognizer parser).2.cursor.offset) ∧
        (recognizer parser).2.depth = parser.depth) ∧
      parser.parseSelectorsGroup.2.depth = parser.depth := by
  refine ⟨fun tokenizer operations =>
    ⟨Operation.reached_depth operations rfl, Operation.reached_within operations tokenizer⟩, ?_⟩
  intro parser within
  refine ⟨?accepting, ?expecting, parser.parseSelectorsGroup_depth⟩
  case accepting =>
    intro recognizer accepting
    obtain ⟨phrase, tentative, rfl⟩ := accepting.phrase
    have kept := phrase.keeping_run parser
    exact ⟨fun missed => ⟨kept, tentative.restores parser within missed⟩, tentative.quiet parser,
      kept.depth⟩
  case expecting =>
    intro recognizer expecting
    obtain ⟨phrase, tentative, rfl⟩ := expecting.phrase
    exact ⟨tentative.required within, ((Phrase.required phrase).keeping_run parser).depth⟩

-- A negation that is closed has read everything when it does not match. Nothing is noted of a combinator, so
-- that its absence is reported behind the comment.
def closedNegation : Parser := .on ((Cursor.on tokenAt).load "/**/:not(b)")

theorem backtracking_exact_negation :
    closedNegation.cursor.offset ≤ closedNegation.cursor.size ∧
      (accept (.production .negation) closedNegation).1 = .ok false ∧
      closedNegation.Restored (accept (.production .negation) closedNegation).2 ∧
      (expect (.production .combinator) closedNegation).1 = .error (.mismatch
        [.production .combinator] [.production .combinator] (.symbol .not ":not(") 4) ∧
      (expect (.production .combinator) closedNegation).2.cursor.offset = 4 ∧
      closedNegation.cursor.Comments 0 4 := by
  have within : closedNegation.cursor.offset ≤ closedNegation.cursor.size := by decide +kernel
  have missed : (accept (.production .negation) closedNegation).1 = .ok false := by decide +kernel
  have failed : (expect (.production .combinator) closedNegation).1 = .error (.mismatch
      [.production .combinator] [.production .combinator] (.symbol .not ":not(") 4) := by
    decide +kernel
  have moved : (expect (.production .combinator) closedNegation).2.cursor.offset = 4 := by
    decide +kernel
  obtain ⟨accepting, expecting, _⟩ := backtracking_exact.2 closedNegation within
  obtain ⟨restored, _⟩ := accepting _ (.term (.production .negation))
  obtain ⟨gated, _⟩ := expecting _ (.term (.production .combinator))
  have comments := (gated rfl).2 _ _ _ _ failed
  rw [moved] at comments
  exact ⟨within, missed, restored missed, failed, moved, comments⟩

end Parser

end CssSelectors
