import CssSelectors.Proofs.Cursor.Stuck
import CssSelectors.Proofs.Parser.Account
import CssSelectors.Proofs.Parser.Stopping

-- A malformed token that is asked for ends the whole recognition, however deep it is.
namespace CssSelectors

-- What is asked for stands there, and cannot be passed.
structure Call.Breaks (call : Call) (failure : MalformedToken) : Prop where
  fits : call.term.fits call.found = true
  stops : call.parser.cursor.next.1 = .error failure

namespace Phrase

def askScribe : Scribe Call where
  token term parser := [⟨term, parser⟩]
  space parser := [⟨.symbol .space, parser⟩]

-- All that is asked for while a phrase is recognized, white space included.
def asks : Phrase → Parser → List Call := record askScribe

end Phrase

namespace Parser

-- A result is the failure at what was asked for in vain, if there is such a failure at all. The position has
-- stayed where it arose.
structure Stops (ran : Outcome × Parser) (calls : List Call) : Prop where
  fatal : ∀ failure, ran.1 = .error (.malformed failure) ↔ ∃ call ∈ calls, call.Breaks failure
  stuck : ∀ failure, ran.1 = .error (.malformed failure) → ran.2.cursor.Stuck failure

variable {parser middle after : Parser} {ran : Outcome × Parser} {one two : List Call}
  {matched : Bool} {failure : MalformedToken}

theorem Stops.nothing (unbroken : ∀ failure, ran.1 ≠ .error (.malformed failure)) : Stops ran [] :=
  ⟨fun failure => by simp [unbroken failure], fun failure failed => absurd failed (unbroken failure)⟩

-- What was gone past did not break.
theorem Stops.trans (early : Stops (.ok matched, middle) one) (late : Stops ran two) :
    Stops ran (one ++ two) := by
  refine ⟨fun failure => ?_, late.stuck⟩
  have unbroken : ¬ ∃ call ∈ one, call.Breaks failure := by
    rw [← early.fatal failure]
    exact nofun
  rw [late.fatal failure]
  constructor
  · rintro ⟨call, present, breaks⟩
    exact ⟨call, List.mem_append_right _ present, breaks⟩
  · rintro ⟨call, present, breaks⟩
    rcases List.mem_append.mp present with before | behind
    · exact absurd ⟨call, before, breaks⟩ unbroken
    · exact ⟨call, behind, breaks⟩

theorem unbroken_mismatch {α : Type} (context : List Term) (parser : Parser) (failure : MalformedToken) :
    (.error (parser.mismatch context).1 : Except SelectorError α) ≠ .error (.malformed failure) := by
  unfold mismatch
  split <;> simp

theorem stops_consume (parser : Parser) (failure : MalformedToken) :
    ((consume parser).1 = .error (.malformed failure) ↔ parser.cursor.next.1 = .error failure) ∧
      ((consume parser).1 = .error (.malformed failure) → (consume parser).2.cursor.Stuck failure) := by
  have stuck := @Cursor.stuck_of_next parser.cursor failure
  unfold consume
  cases came : parser.cursor.next with
  | mk result moved =>
      rw [came] at stuck
      cases result with
      | ok => exact ⟨by simp, nofun⟩
      | error other =>
          refine ⟨by simp, fun failed => ?_⟩
          cases failed
          obtain ⟨same, _, there⟩ := stuck rfl
          obtain rfl : moved = parser.cursor.current.2 := same
          exact there

-- A token that fits is consumed.
theorem stops_token {term : Term} (fits : term.fits parser.cursor.current.1 = true) :
    Stops (consume (parser.withCursor parser.cursor.current.2)) [⟨term, parser⟩] := by
  refine ⟨fun failure => ?_, fun failure => (stops_consume _ failure).2⟩
  have again : (parser.withCursor parser.cursor.current.2).cursor.next = _ := parser.cursor.next_again
  rw [(stops_consume _ failure).1, again]
  constructor
  · intro failed
    exact ⟨_, List.mem_singleton_self _, fits, failed⟩
  · rintro ⟨call, present, _, stops⟩
    obtain rfl := List.mem_singleton.mp present
    exact stops

theorem stops_unfit {term : Term} (unfit : term.fits parser.cursor.current.1 = false) :
    Stops (.ok false, after) [⟨term, parser⟩] := by
  refine ⟨fun failure => ⟨nofun, ?_⟩, fun _ => nofun⟩
  rintro ⟨call, present, fits, _⟩
  obtain rfl := List.mem_singleton.mp present
  exact absurd (unfit.symm.trans fits) nofun

theorem stops_acceptToken (term : Term) (parser : Parser) :
    Stops (acceptToken term parser) [⟨term, parser⟩] := by
  unfold acceptToken
  dsimp only
  split
  · rename_i fits
    exact stops_token fits
  · rename_i unfit
    exact stops_unfit (Bool.eq_false_iff.mpr unfit)

theorem stops_acceptSpace (parser : Parser) : Stops (acceptSpace parser) [⟨.symbol .space, parser⟩] := by
  unfold acceptSpace
  dsimp only
  split
  · rename_i space
    exact stops_token (beq_iff_eq.mpr space)
  · rename_i other
    exact stops_unfit (beq_eq_false_iff_ne.mpr other)

theorem attempt_cursor (production : Production) (recognizer : Recognizer) (parser : Parser) :
    (attempt production recognizer parser).2.cursor = (recognizer parser.clearTrace).2.cursor := by
  obtain ⟨cursor, depth, misses, trace⟩ := parser
  cases trace <;> rfl

-- A production gives back what it has read only if it is missed.
theorem stops_acceptProduction (production : Production) {recognizer : Recognizer}
    (stops : Stops (recognizer parser.entered) one) :
    Stops (acceptProduction production recognizer parser) one := by
  have outcome := attempt_outcome production recognizer { parser with depth := parser.depth + 1 }
  have cursor := attempt_cursor production recognizer { parser with depth := parser.depth + 1 }
  have entered : clearTrace { parser with depth := parser.depth + 1 } = parser.entered := rfl
  rw [entered] at outcome cursor
  simp only [acceptProduction, outcome]
  refine ⟨stops.fatal, fun failure failed => ?_⟩
  have failed : (recognizer parser.entered).1 = .error (.malformed failure) := failed
  simp only [failed, cursor]
  exact stops.stuck failure failed

theorem account_stops : Account Phrase.askScribe fun _ => Stops where
  token := stops_acceptToken
  space := stops_acceptSpace
  more _ := .nothing fun _ => nofun
  stay _ _ := .nothing fun _ => nofun
  endless _ := .nothing fun _ => by simp
  mismatch context parser _ := .nothing (parser.unbroken_mismatch context)
  trans := .trans
  production name _ stops parser := stops_acceptProduction name (stops parser.entered)

end Parser

theorem Phrase.stops_run (phrase : Phrase) (parser : Parser) :
    Parser.Stops (phrase.run parser) (phrase.asks parser) := Parser.account_stops.run phrase parser

end CssSelectors
