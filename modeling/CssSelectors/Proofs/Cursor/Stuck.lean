import CssSelectors.Proofs.Cursor.Plain
import CssSelectors.Proofs.Cursor.Settled

-- A token that covers nothing and is not the end of the text can be read, but not passed.
namespace CssSelectors.Cursor

-- The cursor stands before such a token, which is what a failure says.
structure Stuck (cursor : Cursor) (failure : MalformedToken) : Prop where
  offset : cursor.offset = failure.offset
  reported : cursor.reported failure.offset = failure.token
  empty : ∃ name, failure.token = .symbol name ""

variable {cursor before after : Cursor} {failure : MalformedToken}

theorem Stuck.ignoringComments (stuck : cursor.Stuck failure) (ignore : Bool) :
    (cursor.ignoringComments ignore).Stuck failure := ⟨stuck.offset, stuck.reported, stuck.empty⟩

theorem Grows.stuck (grows : before.Grows after) (position : after.offset = before.offset)
    (stuck : before.Stuck failure) : after.Stuck failure :=
  ⟨position.trans stuck.offset, by rw [grows.reported, stuck.reported], stuck.empty⟩

-- An empty comment is not skipped either.
theorem Stuck.settled (stuck : cursor.Stuck failure) : cursor.Settled := by
  intro _
  obtain ⟨name, empty⟩ := stuck.empty
  rw [behind, stuck.offset, stuck.reported, empty]
  exact Nat.not_lt.mpr (Nat.min_le_left _ _)

theorem Stuck.next (stuck : cursor.Stuck failure) :
    cursor.next = (.error failure, cursor.current.2) ∧ cursor.current.2.Stuck failure := by
  obtain ⟨read, position⟩ := stuck.settled.current
  obtain ⟨token, after, came, _, grows, _⟩ := cursor.current_spec
  obtain ⟨name, empty⟩ := stuck.empty
  obtain ⟨offset, reported, _⟩ := stuck
  rw [offset, reported] at read
  rw [came] at read position
  obtain rfl : token = failure.token := read
  have solid : failure.token ≠ .endOfText := by
    rw [empty]
    exact nofun
  have covers : failure.token.byteLength = 0 := by
    rw [empty]
    rfl
  rw [Cursor.next, came]
  simp only [if_neg solid, if_pos covers]
  exact ⟨by rw [position, offset], grows.stuck position ⟨offset, reported, name, empty⟩⟩

-- What can be passed is read as well, and what cannot be passed is where the cursor stands then.
theorem stuck_of_next (failed : cursor.next.1 = .error failure) :
    cursor.next.2 = cursor.current.2 ∧ cursor.current.1 = failure.token ∧ cursor.current.2.Stuck failure := by
  obtain ⟨token, after, came, stands, grows, _⟩ := cursor.current_spec
  rw [next, came] at failed ⊢
  dsimp only at failed ⊢
  split at failed
  · cases failed
  · rename_i running
    rw [if_neg running]
    split at failed
    · rename_i nothing
      cases failed
      rw [if_pos nothing]
      refine ⟨rfl, rfl, rfl, ?_, (Token.byteLength_eq_zero.mp nothing).resolve_left running⟩
      rw [grows.reported, ← stands]
    · cases failed

-- A step after a look at the token is the step without it.
theorem next_again (cursor : Cursor) : cursor.current.2.next = cursor.next := by
  rw [next, next, current_twice]

end CssSelectors.Cursor

namespace CssSelectors.Tokens

variable {walk : Tokens} {failure : MalformedToken}

theorem stuck_of_next? (failed : walk.next?.1 = some (.error failure)) :
    walk.next?.2.cursor.Stuck failure ∧ walk.next?.2.failed = true := by
  unfold next? at failed ⊢
  split at failed
  · cases failed
  · rename_i going
    rw [if_neg going]
    dsimp only at failed ⊢
    split at failed
    · cases failed
    · rename_i running
      rw [if_neg running]
      split at failed
      · cases failed
      · rename_i malformed stopped came
        cases failed
        obtain ⟨same, _, stuck⟩ := Cursor.stuck_of_next (congrArg Prod.fst came)
        rw [came] at same
        obtain rfl : stopped = walk.cursor.current.2.current.2 := same
        exact ⟨stuck, rfl⟩

-- A walk that yields a failure has stopped where it arose.
theorem stuck_of_take {count : Nat} (failed : .error failure ∈ (walk.take count).1) :
    (walk.take count).2.cursor.Stuck failure := by
  induction count generalizing walk with
  | zero => cases failed
  | succ count ih =>
      have stopped := @stuck_of_next? walk failure
      rw [take] at failed ⊢
      cases came : walk.next? with
      | mk item moved =>
          rw [came] at failed stopped
          cases item with
          | none => cases failed
          | some item =>
              rcases List.mem_cons.mp failed with rfl | later
              · obtain ⟨stuck, ended⟩ := stopped rfl
                obtain ⟨cursor, halted⟩ := moved
                obtain rfl : halted = true := ended
                simp only [Cursor.take_failed]
                exact stuck
              · exact ih later

end CssSelectors.Tokens
