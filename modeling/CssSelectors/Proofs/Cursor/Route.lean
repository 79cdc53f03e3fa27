import CssSelectors.Cursor.Tokens
import CssSelectors.Proofs.Cursor.Reported

-- The steps that all reading is made of.
namespace CssSelectors.Cursor

-- The cursor that has moved past the token at its position.
def passed (cursor : Cursor) : Cursor := cursor.fetch.2.moveTo (cursor.after cursor.fetch.1)

-- Reading looks at the token at the position, moves past it, or goes back to where it has been.
inductive Leads : Cursor → Cursor → Prop where
  | stay {cursor : Cursor} : Leads cursor cursor
  | look {before cursor : Cursor} (earlier : Leads before cursor) : Leads before cursor.fetch.2
  | pass {before cursor : Cursor} (earlier : Leads before cursor) : Leads before cursor.passed
  | back {before visited cursor : Cursor} (there : Leads before visited)
      (onward : Leads visited cursor) : Leads before (cursor.seek visited.offset)

variable {before middle after cursor : Cursor}

theorem Leads.trans (one : before.Leads middle) (two : middle.Leads after) : before.Leads after := by
  induction two with
  | stay => exact one
  | look _ ih => exact .look (ih one)
  | pass _ ih => exact .pass (ih one)
  | back _ onward there _ => exact .back (there one) onward

theorem passed_grows (cursor : Cursor) : cursor.Grows cursor.passed := by
  obtain ⟨after, fetched, _, grows⟩ := cursor.fetch_spec
  have bounded : cursor.after cursor.fetch.1 ≤ cursor.size := Nat.min_le_right _ _
  have looked : cursor.Grows cursor.fetch.2 := by rwa [fetched]
  exact looked.trans (grows_moveTo (cursor.fetch_size.symm ▸ bounded))

theorem Leads.grows (leads : before.Leads after) : before.Grows after := by
  induction leads with
  | stay => exact .refl _
  | @look before cursor _ ih =>
      obtain ⟨after, fetched, _, grows⟩ := cursor.fetch_spec
      rw [fetched]
      exact ih.trans grows
  | pass _ ih => exact ih.trans (passed_grows _)
  | back _ _ there onward => exact (there.trans onward).trans (grows_seek _ _)

-- What each of the steps leaves true.
structure Stable (invariant : Cursor → Prop) : Prop where
  looked : ∀ cursor, invariant cursor → invariant cursor.fetch.2
  passed : ∀ cursor, invariant cursor → invariant cursor.passed
  returned : ∀ visited cursor, visited.Grows cursor → invariant visited → invariant cursor →
    invariant (cursor.seek visited.offset)

-- It is true wherever they lead.
theorem Leads.keeps {invariant : Cursor → Prop} (leads : before.Leads after) (stable : Stable invariant)
    (start : invariant before) : invariant after := by
  induction leads with
  | stay => exact start
  | look _ ih => exact stable.looked _ (ih start)
  | pass _ ih => exact stable.passed _ (ih start)
  | back _ onward there further =>
      have been := there start
      exact stable.returned _ _ onward.grows been (further been)

theorem leads_skipComments (cursor : Cursor) : cursor.Leads cursor.skipComments := by
  refine skipComments_induction (motive := Leads) ?_ ?_ cursor
  · exact fun cursor _ => .look .stay
  · exact fun cursor stopped _ _ later => Leads.trans (.pass .stay) later

-- The token that is read next is fetched where reading has led.
theorem current_route (cursor : Cursor) : ∃ there, cursor.Leads there ∧ cursor.current = there.fetch := by
  unfold current
  split
  · exact ⟨_, cursor.leads_skipComments, rfl⟩
  · exact ⟨cursor, .stay, rfl⟩

theorem leads_current (cursor : Cursor) : cursor.Leads cursor.current.2 := by
  obtain ⟨there, leads, read⟩ := cursor.current_route
  rw [read]
  exact .look leads

theorem leads_next (cursor : Cursor) : cursor.Leads cursor.next.2 := by
  obtain ⟨there, leads, read⟩ := cursor.current_route
  have behind : there.fetch.2.after there.fetch.1 = there.after there.fetch.1 := by
    rw [after, after, fetch_offset, fetch_size]
  unfold next
  simp only [read, behind]
  split
  · exact .look leads
  · split
    · exact .look leads
    · exact .pass leads

theorem leads_valid (cursor : Cursor) : cursor.Leads cursor.valid.2 := cursor.leads_current

end CssSelectors.Cursor

namespace CssSelectors.Tokens

open Cursor

theorem leads_next? (walk : Tokens) : walk.cursor.Leads walk.next?.2.cursor := by
  have read := walk.cursor.leads_current
  unfold next?
  dsimp only
  split
  · exact .stay
  · split
    · exact read
    · have moved := walk.cursor.current.2.leads_next
      split
      · rename_i after stepped
        rw [stepped] at moved
        exact read.trans moved
      · rename_i failure stopped stepped
        rw [stepped] at moved
        exact read.trans moved

theorem leads_take (count : Nat) (walk : Tokens) : walk.cursor.Leads (walk.take count).2.cursor := by
  induction count generalizing walk with
  | zero => exact .stay
  | succ count ih =>
      have stepped := walk.leads_next?
      unfold take
      split
      · rename_i ended came
        rwa [came] at stepped
      · rename_i item moved came
        rw [came] at stepped
        exact stepped.trans (ih moved)

end CssSelectors.Tokens
