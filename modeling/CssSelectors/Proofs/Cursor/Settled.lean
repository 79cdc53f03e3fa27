import CssSelectors.Proofs.Cursor.Reported

-- A cursor that has skipped the comments before it stays where it is when it is read again.
namespace CssSelectors.Cursor

-- At the position there is no comment to skip.
def Settled (cursor : Cursor) : Prop :=
  (cursor.reported cursor.offset).isComment = true → ¬ cursor.offset < cursor.behind cursor.offset

variable {cursor before after : Cursor} {stop : Nat}

theorem Grows.settled (grows : before.Grows after) (position : after.offset = before.offset)
    (settled : before.Settled) : after.Settled := by
  unfold Settled
  rw [grows.reported, grows.behind, position]
  exact settled

theorem Settled.stays (settled : cursor.Settled) (comments : cursor.Comments cursor.offset stop) :
    stop = cursor.offset := by
  generalize start : cursor.offset = here at comments
  cases comments with
  | none => rfl
  | next comment advances _ =>
      subst start
      exact absurd advances (settled comment)

theorem settled_skipComments (cursor : Cursor) : cursor.skipComments.Settled := by
  refine skipComments_induction (motive := fun _ stopped => stopped.Settled) ?_ ?_ cursor
  · intro cursor last
    obtain ⟨after, fetched, position, grows⟩ := cursor.fetch_spec
    rw [fetched] at last ⊢
    exact grows.settled position last
  · exact fun cursor stopped _ _ later => later

theorem settled_current (ignoring : cursor.ignoreComments = true) : cursor.current.2.Settled := by
  obtain ⟨after, fetched, position, grows⟩ := cursor.skipComments.fetch_spec
  rw [current, if_pos ignoring, fetched]
  exact grows.settled position cursor.settled_skipComments

-- What is read at a settled position is what stands there.
theorem Settled.current (settled : cursor.Settled) :
    cursor.current.1 = cursor.reported cursor.offset ∧ cursor.current.2.offset = cursor.offset := by
  obtain ⟨token, after, read, same, _, comments⟩ := cursor.current_spec
  have position := settled.stays comments
  rw [read]
  exact ⟨by rw [same, position], position⟩

theorem fetch_known {token : Token} (known : cursor.cache.lookup cursor.offset = some token) :
    cursor.fetch = (token, cursor) := by
  simp only [fetch, known]

-- Nothing at all changes where there is no comment to skip and the token is known.
theorem Settled.skipComments_known {token : Token} (settled : cursor.Settled)
    (known : cursor.cache.lookup cursor.offset = some token) : cursor.skipComments = cursor := by
  have here := reported_remembered known
  rw [skipComments]
  simp only [fetch_known known]
  split
  · rename_i ignorable
    rw [← here] at ignorable ⊢
    exact if_neg (settled ignorable)
  · rfl

theorem Settled.current_known {token : Token} (settled : cursor.Settled)
    (known : cursor.cache.lookup cursor.offset = some token) : cursor.current = (token, cursor) := by
  rw [Cursor.current, settled.skipComments_known known, fetch_known known]
  split <;> rfl

-- A second look changes nothing and sees the same.
theorem current_twice (cursor : Cursor) : cursor.current.2.current = cursor.current := by
  have known : cursor.current.2.cache.lookup cursor.current.2.offset = some cursor.current.1 := by
    unfold current
    split
    · rw [fetch_offset]
      exact cursor.skipComments.fetch_remembers
    · rw [fetch_offset]
      exact cursor.fetch_remembers
  cases ignoring : cursor.ignoreComments with
  | true => exact (settled_current ignoring).current_known known
  | false =>
      have mode : cursor.current.2.ignoreComments = false := by
        rw [current, ignoring]
        exact cursor.fetch_ignoreComments.trans ignoring
      rw [current, mode]
      exact fetch_known known

end CssSelectors.Cursor
