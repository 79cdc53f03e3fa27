import CssSelectors.Cursor.Basic

-- What reading leaves as it is, whatever the tokenizer reports and whatever the cache holds.
namespace CssSelectors.Cursor

-- What a reader is told at an offset: what is remembered of it, or else what the tokenizer says.
def reported (cursor : Cursor) (offset : Nat) : Token :=
  (cursor.cache.lookup offset).getD (cursor.tokenizer cursor.source offset)

theorem reported_remembered {cursor : Cursor} {offset : Nat} {token : Token}
    (remembered : cursor.cache.lookup offset = some token) : cursor.reported offset = token := by
  rw [reported, remembered, Option.getD_some]

theorem mem_of_remembered {cursor : Cursor} {offset : Nat} {token : Token}
    (remembered : cursor.cache.lookup offset = some token) : (offset, token) ∈ cursor.cache := by
  obtain ⟨newer, older, parts, _⟩ := List.lookup_eq_some_iff.mp remembered
  rw [parts]
  exact List.mem_append_right _ List.mem_cons_self

-- The offset behind the token at another one.
def behind (cursor : Cursor) (offset : Nat) : Nat :=
  min (offset + (cursor.reported offset).byteLength) cursor.size

-- Between two offsets there are only comments, each from where the one before it ends.
inductive Comments (cursor : Cursor) : Nat → Nat → Prop where
  | none {offset : Nat} : Comments cursor offset offset
  | next {offset stop : Nat} (comment : (cursor.reported offset).isComment = true)
      (advances : offset < cursor.behind offset)
      (rest : Comments cursor (cursor.behind offset) stop) : Comments cursor offset stop

-- Reading may remember more and move. It changes neither the text nor the mode nor any answer.
structure Grows (before after : Cursor) : Prop where
  tokenizer : after.tokenizer = before.tokenizer
  source : after.source = before.source
  ignoreComments : after.ignoreComments = before.ignoreComments
  cache : before.cache <:+ after.cache
  reported : after.reported = before.reported
  within : before.offset ≤ before.size → after.offset ≤ after.size

variable {cursor before middle after : Cursor}

theorem Grows.refl (cursor : Cursor) : cursor.Grows cursor :=
  ⟨rfl, rfl, rfl, List.suffix_refl _, rfl, id⟩

theorem Grows.trans (one : before.Grows middle) (two : middle.Grows after) : before.Grows after :=
  ⟨two.tokenizer.trans one.tokenizer, two.source.trans one.source,
    two.ignoreComments.trans one.ignoreComments, one.cache.trans two.cache,
    two.reported.trans one.reported, two.within ∘ one.within⟩

theorem Grows.size (grows : before.Grows after) : after.size = before.size :=
  congrArg String.utf8ByteSize grows.source

theorem Grows.behind (grows : before.Grows after) (offset : Nat) :
    after.behind offset = before.behind offset := by
  rw [Cursor.behind, Cursor.behind, grows.reported, grows.size]

theorem Grows.comments (grows : before.Grows after) {start stop : Nat}
    (comments : after.Comments start stop) : before.Comments start stop := by
  induction comments with
  | none => exact .none
  | next comment advances _ ih =>
      rw [grows.reported] at comment
      rw [grows.behind] at advances ih
      exact .next comment advances ih

theorem Comments.le {start stop : Nat} (comments : cursor.Comments start stop) : start ≤ stop := by
  induction comments with
  | none => exact Nat.le_refl _
  | next _ advances _ ih => exact Nat.le_trans (Nat.le_of_lt advances) ih

theorem grows_moveTo {position : Nat} (within : position ≤ cursor.size) :
    cursor.Grows (cursor.moveTo position) :=
  ⟨rfl, rfl, rfl, List.suffix_refl _, rfl, fun _ => within⟩

theorem grows_seek (cursor : Cursor) (position : Nat) : cursor.Grows (cursor.seek position) :=
  grows_moveTo (Nat.min_le_right _ _)

-- A token that was not remembered is remembered as the tokenizer says it, so it is reported as before.
theorem fetch_unknown (unknown : cursor.cache.lookup cursor.offset = none) :
    cursor.fetch.2.cache = (cursor.offset, cursor.reported cursor.offset) :: cursor.cache := by
  simp [fetch, reported, unknown, ask]

theorem fetch_reported (cursor : Cursor) : cursor.fetch.2.reported = cursor.reported := by
  cases known : cursor.cache.lookup cursor.offset with
  | some token => simp only [fetch, known]
  | none =>
      funext offset
      rw [reported, fetch_unknown known, fetch_tokenizer, fetch_source]
      by_cases same : offset = cursor.offset
      · rw [same, List.lookup_cons_self, Option.getD_some]
      · rw [List.lookup_cons, beq_false_of_ne same]
        rfl

theorem fetch_remembers (cursor : Cursor) :
    cursor.fetch.2.cache.lookup cursor.offset = some cursor.fetch.1 := by
  unfold fetch
  cases known : cursor.cache.lookup cursor.offset with
  | some token => exact known
  | none => exact List.lookup_cons_self

theorem fetch_spec (cursor : Cursor) : ∃ after, cursor.fetch = (cursor.reported cursor.offset, after) ∧
    after.offset = cursor.offset ∧ cursor.Grows after := by
  refine ⟨cursor.fetch.2, ?_, cursor.fetch_offset, ?_⟩
  · unfold fetch reported
    split <;> rename_i known
    · simp only [known, Option.getD_some]
    · simp only [known, Option.getD_none, ask]
  · refine ⟨cursor.fetch_tokenizer, cursor.fetch_source, cursor.fetch_ignoreComments, ?_,
      cursor.fetch_reported, ?_⟩
    · cases known : cursor.cache.lookup cursor.offset with
      | some token => simp only [fetch, known, List.suffix_refl]
      | none => exact fetch_unknown known ▸ List.suffix_cons _ _
    · simp

-- What holds where skipping stops, and in front of a comment that is passed if it holds behind it, holds of all
-- skipping.
theorem skipComments_induction {motive : Cursor → Cursor → Prop}
    (stops : ∀ cursor : Cursor, (cursor.fetch.1.isComment = true →
      ¬ cursor.offset < cursor.after cursor.fetch.1) → motive cursor cursor.fetch.2)
    (passes : ∀ cursor stopped : Cursor, cursor.fetch.1.isComment = true →
      cursor.offset < cursor.after cursor.fetch.1 →
      motive (cursor.fetch.2.moveTo (cursor.after cursor.fetch.1)) stopped → motive cursor stopped)
    (cursor : Cursor) : motive cursor cursor.skipComments := by
  induction size : cursor.remaining using Nat.strongRecOn generalizing cursor with
  | _ left ih =>
      have bounded : cursor.after cursor.fetch.1 ≤ cursor.size := Nat.min_le_right _ _
      rw [skipComments]
      split
      · rename_i comment
        split
        · rename_i advances
          have nearer : (cursor.fetch.2.moveTo (cursor.after cursor.fetch.1)).remaining < left := by
            rw [← size, remaining, remaining, size_moveTo, offset_moveTo, fetch_size]
            omega
          exact passes cursor _ comment advances (ih _ nearer _ rfl)
        · rename_i last
          exact stops cursor fun _ => last
      · rename_i significant
        exact stops cursor fun comment => absurd comment significant

theorem skipComments_spec (cursor : Cursor) : cursor.Grows cursor.skipComments ∧
    cursor.Comments cursor.offset cursor.skipComments.offset := by
  refine skipComments_induction (motive := fun before after =>
    before.Grows after ∧ before.Comments before.offset after.offset) ?_ ?_ cursor
  · intro cursor _
    obtain ⟨after, fetched, position, grows⟩ := cursor.fetch_spec
    rw [fetched]
    exact ⟨grows, position ▸ .none⟩
  · intro cursor stopped comment advances later
    obtain ⟨after, fetched, position, grows⟩ := cursor.fetch_spec
    have bounded : cursor.behind cursor.offset ≤ cursor.size := Nat.min_le_right _ _
    have onward := grows.trans (grows_moveTo (grows.size ▸ bounded))
    rw [fetched] at comment advances later
    exact ⟨onward.trans later.1, .next comment advances (onward.comments later.2)⟩

-- Where a token is read: past the comments, if they are ignored.
theorem current_spec (cursor : Cursor) : ∃ token after, cursor.current = (token, after) ∧
    token = cursor.reported after.offset ∧ cursor.Grows after ∧
    cursor.Comments cursor.offset after.offset := by
  unfold current
  split
  · obtain ⟨skipped, comments⟩ := cursor.skipComments_spec
    obtain ⟨after, fetched, position, grows⟩ := cursor.skipComments.fetch_spec
    refine ⟨_, after, fetched, ?_, skipped.trans grows, position ▸ comments⟩
    rw [skipped.reported, position]
  · obtain ⟨after, fetched, position, grows⟩ := cursor.fetch_spec
    exact ⟨_, after, fetched, by rw [position], grows, position ▸ .none⟩

-- In either mode what is no comment is read where it stands.
theorem current_standing {token : Token} (stands : cursor.reported cursor.offset = token)
    (significant : token.isComment = false) : cursor.current.1 = token := by
  obtain ⟨read, after, came, reported, _, comments⟩ := cursor.current_spec
  generalize after.offset = there at reported comments
  rw [came, reported]
  cases comments with
  | none => exact stands
  | next comment =>
      rw [stands, significant] at comment
      cases comment

theorem next_grows (cursor : Cursor) : cursor.Grows cursor.next.2 := by
  obtain ⟨token, after, read, _, grows, _⟩ := cursor.current_spec
  unfold next
  simp only [read]
  split
  · exact grows
  · split
    · exact grows
    · exact grows.trans (grows_moveTo (Nat.min_le_right _ _))

theorem valid_grows (cursor : Cursor) : cursor.Grows cursor.valid.2 := by
  obtain ⟨token, after, read, _, grows, _⟩ := cursor.current_spec
  simpa only [valid, read] using grows

end CssSelectors.Cursor
