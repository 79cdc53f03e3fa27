import CssSelectors.Proofs.Cursor.Route
import CssSelectors.Proofs.Cursor.Settled
import CssSelectors.Proofs.Cursor.Visiting

-- A cursor that has still to pass the comments that another one has passed reads what that one reads.
namespace CssSelectors

-- From one offset to another there are only comments that cover something, each where the one before it ends.
inductive Skips (tokenizer : Tokenizer) (text : String) : Nat → Nat → Prop where
  | none {offset : Nat} : Skips tokenizer text offset offset
  | comment {offset stop : Nat} (ignorable : (tokenizer text offset).isComment = true)
      (solid : (tokenizer text offset).byteLength ≠ 0)
      (rest : Skips tokenizer text (past tokenizer text offset) stop) : Skips tokenizer text offset stop

variable {tokenizer : Tokenizer} {text : String} {ignore : Bool} {offset near far place : Nat}

theorem Skips.trans (one : Skips tokenizer text near place) (two : Skips tokenizer text place far) :
    Skips tokenizer text near far := by
  induction one with
  | none => exact two
  | comment ignorable solid _ ih => exact .comment ignorable solid (ih two)

theorem Settles.skips (settles : Settles tokenizer text ignore offset place) :
    Skips tokenizer text offset place := by
  induction settles with
  | here => exact .none
  | comment _ ignorable solid _ ih => exact .comment ignorable solid ih

-- To have passed some of the comments makes no difference to where reading looks.
theorem Skips.settles (skips : Skips tokenizer text near far)
    (settles : Settles tokenizer text true near place) : Settles tokenizer text true far place := by
  induction skips with
  | none => exact settles
  | comment ignorable solid _ ih =>
      cases settles with
      | here stays => exact absurd (stays rfl ignorable) solid
      | comment _ _ _ rest => exact ih rest

namespace Cursor

-- Two sound cursors on a text that ignore comments, of which the second one has passed some that the first one
-- stands before.
structure Trails (tokenizer : Tokenizer) (text : String) (one two : Cursor) : Prop where
  near : one.Walks tokenizer text true one.offset
  far : two.Walks tokenizer text true two.offset
  skips : Skips tokenizer text one.offset two.offset

variable {one two first second cursor after : Cursor} {α : Type}

theorem Walks.moveTo (walks : cursor.Walks tokenizer text ignore offset) (within : place ≤ text.utf8ByteSize) :
    (cursor.moveTo place).Walks tokenizer text ignore place := by
  refine ⟨walks.toSound.moveTo (walks.size.symm ▸ within), ?_⟩
  exact congrArg (PlainCursor.moveTo · place) walks.plain

theorem Walks.seek (walks : cursor.Walks tokenizer text ignore offset) (within : place ≤ text.utf8ByteSize) :
    (cursor.seek place).Walks tokenizer text ignore place := by
  rw [Cursor.seek, walks.size, Nat.min_eq_left within]
  exact walks.moveTo within

theorem Walks.grows (walks : cursor.Walks tokenizer text ignore offset) (grows : cursor.Grows after)
    (sound : after.Sound tokenizer) : after.Walks tokenizer text ignore after.offset := by
  have mode : cursor.ignoreComments = ignore := congrArg PlainCursor.ignoreComments walks.plain
  refine ⟨sound, ?_⟩
  rw [Cursor.plain, sound.asks, grows.source, grows.ignoreComments, walks.source, mode]

theorem Walks.trails (one : first.Walks tokenizer text true near) (two : second.Walks tokenizer text true far)
    (skips : Skips tokenizer text near far) : Trails tokenizer text first second := by
  obtain rfl := one.position
  obtain rfl := two.position
  exact ⟨one, two, skips⟩

-- Wherever both have been sent they are at the same place.
theorem Trails.moveTo (trails : Trails tokenizer text one two) (within : place ≤ text.utf8ByteSize) :
    Trails tokenizer text (one.moveTo place) (two.moveTo place) :=
  (trails.near.moveTo within).trails (trails.far.moveTo within) .none

theorem Trails.seek (trails : Trails tokenizer text one two) (position : Nat) :
    Trails tokenizer text (one.seek position) (two.seek position) := by
  rw [Cursor.seek, Cursor.seek, trails.near.size, trails.far.size]
  exact trails.moveTo (Nat.min_le_right _ _)

theorem Trails.rewind (trails : Trails tokenizer text one two) :
    Trails tokenizer text one.rewind two.rewind := by
  have near := congrArg PlainCursor.rewind trails.near.plain
  have far := congrArg PlainCursor.rewind trails.far.plain
  exact ⟨⟨trails.near.toSound.rewind, near⟩, ⟨trails.far.toSound.rewind, far⟩, .none⟩

theorem Trails.ignoringComments (trails : Trails tokenizer text one two) :
    Trails tokenizer text (one.ignoringComments true) (two.ignoringComments true) := by
  have near := congrArg (PlainCursor.ignoringComments · true) trails.near.plain
  have far := congrArg (PlainCursor.ignoringComments · true) trails.far.plain
  exact ⟨⟨trails.near.toSound.ignoringComments true, near⟩, ⟨trails.far.toSound.ignoringComments true, far⟩,
    trails.skips⟩

-- Sent back to where each of them was, the first one is again behind the second one.
theorem Trails.back (begun : Trails tokenizer text one two) (ended : Trails tokenizer text first second) :
    Trails tokenizer text (first.seek one.offset) (second.seek two.offset) :=
  (ended.near.seek begun.near.inside).trails (ended.far.seek begun.far.inside) begun.skips

variable (ends : tokenizer text text.utf8ByteSize = .endOfText)
include ends

theorem Trails.settle (trails : Trails tokenizer text one two) : two.plain.settle = one.plain.settle := by
  obtain ⟨place, settles⟩ := exists_settles ends true trails.near.inside
  rw [trails.near.plain, trails.far.plain, PlainCursor.settle_settles ends trails.near.inside settles,
    PlainCursor.settle_settles ends trails.far.inside (trails.skips.settles settles)]

-- What looks past the comments first finds the same with both, and leaves them at one place.
theorem Trails.reading {read : Cursor → α × Cursor} {plainly : PlainCursor → α × PlainCursor}
    (trails : Trails tokenizer text one two) (reflects : Reflects read plainly)
    (grows : ∀ cursor : Cursor, cursor.Grows (read cursor).2)
    (settling : ∀ near far : PlainCursor, far.settle = near.settle → plainly far = plainly near) :
    ∃ answer first second, read one = (answer, first) ∧ read two = (answer, second) ∧
      second.offset = first.offset ∧ Trails tokenizer text first second := by
  obtain ⟨answer, first, ran, plain, near⟩ := reflects tokenizer one trails.near.toSound
  obtain ⟨other, second, came, also, far⟩ := reflects tokenizer two trails.far.toSound
  rw [settling _ _ (trails.settle ends), plain] at also
  obtain ⟨rfl, same⟩ := Prod.mk.inj also
  have position : second.offset = first.offset := congrArg PlainCursor.offset same.symm
  have onward := grows one
  have beside := grows two
  rw [ran] at onward
  rw [came] at beside
  refine ⟨answer, first, second, ran, came, position,
    (trails.near.grows onward near).trails (trails.far.grows beside far) ?_⟩
  rw [position]
  exact .none

theorem Trails.current (trails : Trails tokenizer text one two) :
    ∃ token first second, one.current = (token, first) ∧ two.current = (token, second) ∧
      second.offset = first.offset ∧ Trails tokenizer text first second := by
  apply trails.reading ends reflects_current fun cursor => cursor.leads_current.grows
  intro near far same
  rw [PlainCursor.current, PlainCursor.current, same]

theorem Trails.next (trails : Trails tokenizer text one two) :
    ∃ result first second, one.next = (result, first) ∧ two.next = (result, second) ∧
      second.offset = first.offset ∧ Trails tokenizer text first second := by
  apply trails.reading ends reflects_next fun cursor => cursor.leads_next.grows
  intro near far same
  rw [PlainCursor.next, PlainCursor.next, same]

theorem Trails.valid (trails : Trails tokenizer text one two) :
    ∃ more first second, one.valid = (more, first) ∧ two.valid = (more, second) ∧
      second.offset = first.offset ∧ Trails tokenizer text first second := by
  apply trails.reading ends reflects_valid fun cursor => cursor.leads_valid.grows
  intro near far same
  rw [PlainCursor.valid, PlainCursor.valid, same]

-- To take no token leaves both where they are.
theorem Trails.take (trails : Trails tokenizer text one two) (count : Nat) :
    (two.tokens.take count).1 = (one.tokens.take count).1 ∧
      Trails tokenizer text (one.tokens.take count).2.cursor (two.tokens.take count).2.cursor := by
  cases count with
  | zero => exact ⟨rfl, trails⟩
  | succ count =>
      have settling (near far : PlainCursor) (same : far.settle = near.settle) :
          far.take (count + 1) = near.take (count + 1) := by
        rw [PlainCursor.take, PlainCursor.take, same]
      obtain ⟨items, first, second, ran, also, _, ended⟩ := trails.reading ends (reflects_take (count + 1))
        (fun cursor => (cursor.tokens.leads_take _).grows) settling
      obtain ⟨rfl, rfl⟩ := Prod.mk.inj ran
      obtain ⟨same, rfl⟩ := Prod.mk.inj also
      exact ⟨same, ended⟩

-- A look at the token carries the cursor over the comments before it.
theorem Trails.looked (trails : Trails tokenizer text one two) : Trails tokenizer text one two.current.2 := by
  obtain ⟨place, settles⟩ := exists_settles ends true trails.far.inside
  obtain ⟨after, read, walks⟩ := trails.far.current ends settles
  rw [read]
  exact trails.near.trails walks (trails.skips.trans settles.skips)

end Cursor

end CssSelectors
