import CssSelectors.Proofs.Cursor.Plain
import CssSelectors.Proofs.Cursor.Route
import CssSelectors.Proofs.Cursor.Settled
import Mathlib.Logic.Function.Iterate

-- Skipping comments as a loop without a bound. It ends for every tokenizer, for each round but the last leaves
-- less of the text to read.
namespace CssSelectors.Cursor

variable {cursor after stopped : Cursor} {place rounds other : Nat}

-- The loop, with how many comments it passes. It returns where no comment is reported, and where the position
-- behind the comment is the same.
inductive Skipping : Cursor → Nat → Cursor → Prop where
  | shown {cursor : Cursor} (significant : cursor.fetch.1.isComment = false) :
      Skipping cursor 0 cursor.fetch.2
  | stays {cursor : Cursor} (comment : cursor.fetch.1.isComment = true)
      (same : cursor.after cursor.fetch.1 = cursor.offset) : Skipping cursor 0 cursor.fetch.2
  | passes {cursor after : Cursor} {rounds : Nat} (comment : cursor.fetch.1.isComment = true)
      (moves : cursor.after cursor.fetch.1 ≠ cursor.offset) (later : Skipping cursor.passed rounds after) :
      Skipping cursor (rounds + 1) after

-- A comment that is not empty, where there is some text left.
def Passable (cursor : Cursor) (place : Nat) : Prop :=
  (cursor.reported place).isComment = true ∧ (cursor.reported place).byteLength ≠ 0 ∧ place < cursor.size

-- Just these comments have the next position elsewhere.
theorem passable_iff (within : place ≤ cursor.size) : cursor.Passable place ↔
    (cursor.reported place).isComment = true ∧ cursor.behind place ≠ place := by
  refine and_congr_right fun _ => ?_
  unfold behind
  omega

theorem Grows.passable (grows : cursor.Grows after) : after.Passable = cursor.Passable := by
  funext place
  rw [Passable, Passable, grows.reported, grows.size]

theorem fetch_fst (cursor : Cursor) : cursor.fetch.1 = cursor.reported cursor.offset := by
  obtain ⟨_, fetched, _⟩ := cursor.fetch_spec
  rw [fetched]

theorem offset_passed (cursor : Cursor) : cursor.passed.offset = cursor.behind cursor.offset := by
  rw [passed, offset_moveTo, fetch_fst]
  rfl

theorem Skipping.unique (one : cursor.Skipping rounds after) (two : cursor.Skipping other stopped) :
    other = rounds ∧ stopped = after := by
  induction one generalizing other with
  | shown significant =>
      cases two with
      | shown => exact ⟨rfl, rfl⟩
      | stays comment _ => exact absurd comment (Bool.eq_false_iff.mp significant)
      | passes comment _ _ => exact absurd comment (Bool.eq_false_iff.mp significant)
  | stays comment same =>
      cases two with
      | shown significant => exact absurd comment (Bool.eq_false_iff.mp significant)
      | stays => exact ⟨rfl, rfl⟩
      | passes _ moves _ => exact absurd same moves
  | passes comment moves _ ih =>
      cases two with
      | shown significant => exact absurd comment (Bool.eq_false_iff.mp significant)
      | stays _ same => exact absurd same moves
      | passes _ _ later =>
          obtain ⟨rfl, rfl⟩ := ih later
          exact ⟨rfl, rfl⟩

theorem le_after (within : cursor.offset ≤ cursor.size) : cursor.offset ≤ cursor.after cursor.fetch.1 :=
  Nat.le_min.mpr ⟨Nat.le_add_right _ _, within⟩

-- Where the position behind a comment is not greater, it is the same.
theorem exists_skipping (within : cursor.offset ≤ cursor.size) :
    ∃ rounds, cursor.Skipping rounds cursor.skipComments := by
  refine skipComments_induction (motive := fun before after =>
    before.offset ≤ before.size → ∃ rounds, before.Skipping rounds after) ?_ ?_ cursor within
  · intro cursor last within
    cases shown : cursor.fetch.1.isComment with
    | true => exact ⟨0, .stays shown (Nat.le_antisymm (Nat.not_lt.mp (last shown)) (le_after within))⟩
    | false => exact ⟨0, .shown shown⟩
  · intro cursor stopped comment advances later within
    obtain ⟨rounds, skipping⟩ := later (cursor.passed_grows.within within)
    exact ⟨rounds + 1, .passes comment (Nat.ne_of_gt advances) skipping⟩

-- It passes one comment after the other, and stops where the first thing comes that it cannot pass.
theorem Skipping.first (skipping : cursor.Skipping rounds after) (within : cursor.offset ≤ cursor.size) :
    (∀ n < rounds, cursor.Passable (cursor.behind^[n] cursor.offset)) ∧
      ¬ cursor.Passable (cursor.behind^[rounds] cursor.offset) ∧
      after.offset = cursor.behind^[rounds] cursor.offset := by
  induction skipping with
  | @shown cursor significant =>
      rw [fetch_fst] at significant
      refine ⟨nofun, ?_, cursor.fetch_offset⟩
      exact fun passable => Bool.eq_false_iff.mp significant passable.1
  | @stays cursor comment same =>
      rw [fetch_fst] at same
      refine ⟨nofun, ?_, cursor.fetch_offset⟩
      exact fun passable => ((passable_iff within).mp passable).2 same
  | @passes cursor after rounds comment moves _ ih =>
      have grows := cursor.passed_grows
      obtain ⟨earlier, last, stop⟩ := ih (grows.within within)
      rw [offset_passed, grows.passable, funext grows.behind] at earlier last
      rw [offset_passed, funext grows.behind] at stop
      refine ⟨?_, last, stop⟩
      rintro (_ | n) before
      · rw [fetch_fst] at comment moves
        exact (passable_iff within).mpr ⟨comment, moves⟩
      · exact earlier n (Nat.lt_of_succ_lt_succ before)

theorem Skipping.onward (skipping : cursor.Skipping rounds after) (within : cursor.offset ≤ cursor.size) :
    cursor.offset + rounds ≤ after.offset := by
  induction skipping with
  | @shown cursor _ => exact Nat.le_of_eq cursor.fetch_offset.symm
  | @stays cursor _ _ => exact Nat.le_of_eq cursor.fetch_offset.symm
  | @passes cursor after rounds _ moves _ ih =>
      have later := ih (cursor.passed_grows.within within)
      have further := le_after within
      have position : cursor.passed.offset = cursor.after cursor.fetch.1 := rfl
      omega

theorem Skipping.remembers (skipping : cursor.Skipping rounds after) :
    ∃ token, after.cache.lookup after.offset = some token := by
  induction skipping with
  | @shown cursor _ => exact ⟨_, cursor.fetch_offset ▸ cursor.fetch_remembers⟩
  | @stays cursor _ _ => exact ⟨_, cursor.fetch_offset ▸ cursor.fetch_remembers⟩
  | passes _ _ _ ih => exact ih

-- Whatever is reported, skipping ends and in one way only. It passes comments that are not empty, each from
-- where the one before it ends, and stops in the text where the first thing comes that it cannot pass. Again it
-- does nothing, and no answer is another for it.
theorem skipping_ends (within : cursor.offset ≤ cursor.size) :
    ∃ rounds, cursor.Skipping rounds cursor.skipComments ∧
      (∀ other stopped, cursor.Skipping other stopped → other = rounds ∧ stopped = cursor.skipComments) ∧
      (∀ n < rounds, cursor.Passable (cursor.behind^[n] cursor.offset)) ∧
      ¬ cursor.Passable (cursor.behind^[rounds] cursor.offset) ∧
      cursor.skipComments.offset = cursor.behind^[rounds] cursor.offset ∧
      cursor.offset + rounds ≤ cursor.skipComments.offset ∧
      cursor.skipComments.offset ≤ cursor.size ∧
      cursor.skipComments.skipComments = cursor.skipComments ∧
      cursor.Grows cursor.skipComments ∧
      ∀ tokenizer, cursor.Sound tokenizer → cursor.reported = tokenizer cursor.source := by
  obtain ⟨rounds, skipping⟩ := exists_skipping within
  obtain ⟨earlier, last, stop⟩ := skipping.first within
  obtain ⟨token, known⟩ := skipping.remembers
  have grows := cursor.skipComments_spec.1
  have inside := grows.size ▸ grows.within within
  refine ⟨rounds, skipping, fun _ _ => skipping.unique, earlier, last, stop, skipping.onward within, inside, ?_,
    grows, fun tokenizer sound => funext sound.reported⟩
  exact cursor.settled_skipComments.skipComments_known known

-- Comments everywhere, one of them empty and most of them longer than the text.
def chatter : Tokenizer := fun _ offset =>
  .symbol .comment (if offset = 0 then "ab" else if offset = 1 then "" else "longer than it should be")

def chatterCursor (position : Nat) : Cursor := ((Cursor.on chatter).load "abcd").seek position

theorem skipping_ends_chatter :
    (∀ position, (chatterCursor position).offset ≤ (chatterCursor position).size) ∧
      (∃ stopped, (chatterCursor 0).Skipping 2 stopped ∧ stopped = (chatterCursor 0).skipComments) ∧
      (chatterCursor 0).skipComments.offset = 4 ∧
      (chatterCursor 1).skipComments.offset = 1 := by
  have within (position : Nat) : (chatterCursor position).offset ≤ (chatterCursor position).size :=
    Nat.min_le_right _ _
  have far : (chatterCursor 0).Skipping 2 (chatterCursor 0).passed.passed.fetch.2 :=
    .passes rfl (by decide +kernel) (.passes rfl (by decide +kernel) (.stays rfl (by decide +kernel)))
  have near : (chatterCursor 1).Skipping 0 (chatterCursor 1).fetch.2 := .stays rfl (by decide +kernel)
  obtain ⟨_, _, only, _⟩ := skipping_ends (within 0)
  obtain ⟨_, _, alone, _⟩ := skipping_ends (within 1)
  have stopped := (only _ _ far).2
  have stayed := (alone _ _ near).2
  refine ⟨within, ⟨_, far, stopped⟩, ?_, ?_⟩
  · rw [← stopped]
    decide +kernel
  · rw [← stayed]
    decide +kernel

end CssSelectors.Cursor
