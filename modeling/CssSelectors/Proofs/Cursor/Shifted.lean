import CssSelectors.Proofs.Cursor.Reported

-- Two cursors that are told the same, one of them a number of bytes further on in a longer text.
namespace CssSelectors.Cursor

structure Shifted (width : Nat) (one two : Cursor) : Prop where
  offset : two.offset = one.offset + width
  size : two.size = one.size + width
  mode : two.ignoreComments = one.ignoreComments
  reported : ∀ offset, two.reported (offset + width) = one.reported offset

variable {width : Nat} {one two first second : Cursor}

theorem Shifted.remaining (shifted : Shifted width one two) : two.remaining = one.remaining := by
  rw [Cursor.remaining, Cursor.remaining, shifted.size, shifted.offset]
  omega

theorem Shifted.moveTo (shifted : Shifted width one two) (position : Nat) :
    Shifted width (one.moveTo position) (two.moveTo (position + width)) :=
  ⟨rfl, shifted.size, shifted.mode, shifted.reported⟩

theorem Shifted.seek (shifted : Shifted width one two) (position : Nat) :
    Shifted width (one.seek position) (two.seek (position + width)) := by
  rw [Cursor.seek, Cursor.seek, shifted.size, Nat.add_min_add_right]
  exact shifted.moveTo _

theorem Shifted.after (shifted : Shifted width one two) (token : Token) :
    two.after token = one.after token + width := by
  rw [Cursor.after, Cursor.after, shifted.offset, shifted.size, Nat.add_right_comm, Nat.add_min_add_right]

theorem Shifted.ignoringComments (shifted : Shifted width one two) (ignore : Bool) :
    Shifted width (one.ignoringComments ignore) (two.ignoringComments ignore) :=
  ⟨shifted.offset, shifted.size, rfl, shifted.reported⟩

-- Reading keeps two cursors shifted if it brings both as far.
theorem Shifted.grows (shifted : Shifted width one two) (near : one.Grows first) (far : two.Grows second)
    (offset : second.offset = first.offset + width) : Shifted width first second := by
  refine ⟨offset, ?_, ?_, ?_⟩
  · rw [far.size, near.size, shifted.size]
  · rw [far.ignoreComments, near.ignoreComments, shifted.mode]
  · rw [far.reported, near.reported]
    exact shifted.reported

theorem Shifted.fetch (shifted : Shifted width one two) :
    ∃ token first second, one.fetch = (token, first) ∧ two.fetch = (token, second) ∧
      Shifted width first second := by
  obtain ⟨first, fetched, position, near⟩ := one.fetch_spec
  obtain ⟨second, also, place, far⟩ := two.fetch_spec
  rw [shifted.offset, shifted.reported] at also
  exact ⟨_, first, second, fetched, also, shifted.grows near far (by rw [place, position, shifted.offset])⟩

theorem Shifted.skipComments (shifted : Shifted width one two) :
    Shifted width one.skipComments two.skipComments := by
  induction size : one.remaining using Nat.strongRecOn generalizing one two with
  | _ left ih =>
      obtain ⟨token, first, second, fetched, also, beside⟩ := shifted.fetch
      have bounded : one.after token ≤ one.size := Nat.min_le_right _ _
      have same : first.size = one.size := by
        have kept := one.fetch_size
        rwa [fetched] at kept
      rw [Cursor.skipComments, Cursor.skipComments.eq_def two]
      simp only [fetched, also, shifted.offset, shifted.after, Nat.add_lt_add_iff_right]
      split
      · split
        · rename_i advances
          refine ih _ ?_ (beside.moveTo _) rfl
          rw [← size, Cursor.remaining, Cursor.remaining, size_moveTo, offset_moveTo, same]
          omega
        · exact beside
      · exact beside

theorem Shifted.current (shifted : Shifted width one two) :
    ∃ token first second, one.current = (token, first) ∧ two.current = (token, second) ∧
      Shifted width first second := by
  unfold Cursor.current
  rw [shifted.mode]
  split
  · exact shifted.skipComments.fetch
  · exact shifted.fetch

theorem Shifted.valid (shifted : Shifted width one two) :
    ∃ more first second, one.valid = (more, first) ∧ two.valid = (more, second) ∧
      Shifted width first second := by
  obtain ⟨token, first, second, read, also, ended⟩ := shifted.current
  simp only [Cursor.valid, read, also]
  exact ⟨_, first, second, rfl, rfl, ended⟩

end CssSelectors.Cursor

namespace CssSelectors

def MalformedToken.moved (width : Nat) (failure : MalformedToken) : MalformedToken :=
  { failure with offset := failure.offset + width }

theorem Cursor.Shifted.next {width : Nat} {one two : Cursor} (shifted : Cursor.Shifted width one two) :
    ∃ result first second, one.next = (result, first) ∧
      two.next = (result.mapError (MalformedToken.moved width), second) ∧
      Cursor.Shifted width first second := by
  obtain ⟨token, first, second, read, also, ended⟩ := shifted.current
  simp only [Cursor.next, read, also]
  split
  · exact ⟨_, first, second, rfl, rfl, ended⟩
  · split
    · exact ⟨_, first, second, rfl, by rw [ended.offset]; rfl, ended⟩
    · exact ⟨_, _, _, rfl, rfl, ended.after token ▸ ended.moveTo _⟩

end CssSelectors
