import CssSelectors.Cursor.Tokens

namespace CssSelectors

-- What a tokenizer promises about a text: the text ends where its bytes do, and only the end covers
-- nothing. Tokens may still overlap, reach past the end, or stop early.
structure Regular (tokenizer : Tokenizer) (text : String) : Prop where
  ends : tokenizer text text.utf8ByteSize = .endOfText
  solid : ∀ offset, (tokenizer text offset).byteLength = 0 → tokenizer text offset = .endOfText

-- Where a reader stands after the token at an offset.
def past (tokenizer : Tokenizer) (text : String) (offset : Nat) : Nat :=
  min (offset + (tokenizer text offset).byteLength) text.utf8ByteSize

-- The tokens but comments from an offset on, and where the end is reported after them.
inductive Scans (tokenizer : Tokenizer) (text : String) : Nat → List (Nat × Token) → Nat → Prop where
  | ended {offset : Nat} (stop : tokenizer text offset = .endOfText) :
      Scans tokenizer text offset [] offset
  | comment {offset close : Nat} {tokens : List (Nat × Token)}
      (ignorable : (tokenizer text offset).isComment = true)
      (advances : offset < past tokenizer text offset)
      (rest : Scans tokenizer text (past tokenizer text offset) tokens close) :
      Scans tokenizer text offset tokens close
  | token {offset close : Nat} {tokens : List (Nat × Token)}
      (significant : (tokenizer text offset).isComment = false)
      (running : tokenizer text offset ≠ .endOfText)
      (advances : offset < past tokenizer text offset)
      (rest : Scans tokenizer text (past tokenizer text offset) tokens close) :
      Scans tokenizer text offset ((offset, tokenizer text offset) :: tokens) close

-- The token that a reader meets first, which is the end when there is no other.
def front (tokens : List (Nat × Token)) (close : Nat) : Nat × Token :=
  tokens.head?.getD (close, .endOfText)

variable {tokenizer : Tokenizer} {text : String} {offset close : Nat} {tokens : List (Nat × Token)}

@[simp] theorem front_nil : front [] close = (close, .endOfText) := rfl

@[simp] theorem front_cons {token : Nat × Token} : front (token :: tokens) close = token := rfl

theorem front_map {move : Nat × Token → Nat × Token} {final : Nat}
    (ends : move (close, .endOfText) = (final, .endOfText)) :
    front (tokens.map move) final = move (front tokens close) := by
  cases tokens with
  | nil => exact ends.symm
  | cons token tokens => rfl

theorem past_le : past tokenizer text offset ≤ text.utf8ByteSize := Nat.min_le_right _ _

theorem Regular.advances (regular : Regular tokenizer text) (within : offset ≤ text.utf8ByteSize)
    (running : tokenizer text offset ≠ .endOfText) : offset < past tokenizer text offset := by
  have inside : offset ≠ text.utf8ByteSize := fun same => running (same ▸ regular.ends)
  have covers : (tokenizer text offset).byteLength ≠ 0 := fun zero => running (regular.solid _ zero)
  unfold past
  omega

-- Every reader of such a text comes to its end.
theorem Regular.scans (regular : Regular tokenizer text) (offset : Nat)
    (within : offset ≤ text.utf8ByteSize) : ∃ tokens close, Scans tokenizer text offset tokens close := by
  induction left : text.utf8ByteSize - offset using Nat.strongRecOn generalizing offset with
  | _ left ih =>
      by_cases stop : tokenizer text offset = .endOfText
      · exact ⟨[], offset, .ended stop⟩
      · have advances := regular.advances within stop
        have bounded : past tokenizer text offset ≤ text.utf8ByteSize := past_le
        obtain ⟨tokens, close, rest⟩ :=
          ih _ (by omega) (past tokenizer text offset) bounded rfl
        by_cases ignorable : (tokenizer text offset).isComment = true
        · exact ⟨tokens, close, .comment ignorable advances rest⟩
        · exact ⟨_, close, .token (by simpa using ignorable) stop advances rest⟩

theorem not_comment_endOfText : Token.isComment .endOfText = false := rfl

theorem Scans.unique {others : List (Nat × Token)} {otherClose : Nat}
    (one : Scans tokenizer text offset tokens close)
    (two : Scans tokenizer text offset others otherClose) : tokens = others ∧ close = otherClose := by
  induction one generalizing others otherClose with
  | ended stop =>
      cases two with
      | ended => exact ⟨rfl, rfl⟩
      | comment ignorable => simp [stop, not_comment_endOfText] at ignorable
      | token _ running => exact absurd stop running
  | comment ignorable _ _ ih =>
      cases two with
      | ended stop => simp [stop, not_comment_endOfText] at ignorable
      | comment _ _ rest => exact ih rest
      | token significant => simp [ignorable] at significant
  | token significant running _ _ ih =>
      cases two with
      | ended stop => exact absurd stop running
      | comment ignorable => simp [ignorable] at significant
      | token _ _ _ rest =>
          obtain ⟨rfl, rfl⟩ := ih rest
          exact ⟨rfl, rfl⟩

theorem Scans.le_front (scans : Scans tokenizer text offset tokens close) :
    offset ≤ (front tokens close).1 := by
  induction scans with
  | ended => exact Nat.le_refl _
  | comment _ advances _ ih => exact Nat.le_trans (Nat.le_of_lt advances) ih
  | token => exact Nat.le_refl _

theorem Scans.at_front (scans : Scans tokenizer text offset tokens close) :
    Scans tokenizer text (front tokens close).1 tokens close := by
  induction scans with
  | ended stop => exact .ended stop
  | comment _ _ _ ih => exact ih
  | token significant running advances rest _ => exact .token significant running advances rest

theorem Scans.front_token (scans : Scans tokenizer text offset tokens close) :
    tokenizer text (front tokens close).1 = (front tokens close).2 := by
  induction scans with
  | ended stop => exact stop
  | comment _ _ _ ih => exact ih
  | token => rfl

theorem Scans.uncons {token : Nat × Token} (scans : Scans tokenizer text offset (token :: tokens) close) :
    token.2.isComment = false ∧ token.2 ≠ .endOfText ∧ token.1 < past tokenizer text token.1 ∧
      Scans tokenizer text (past tokenizer text token.1) tokens close := by
  obtain ⟨position, reported⟩ := token
  have standing : Scans tokenizer text position ((position, reported) :: tokens) close := scans.at_front
  have read : tokenizer text position = reported := scans.front_token
  subst reported
  cases standing with
  | comment _ advances rest =>
      have ahead : past tokenizer text position ≤ position := rest.le_front
      omega
  | token significant running advances rest => exact ⟨significant, running, advances, rest⟩

theorem Scans.increasing (scans : Scans tokenizer text offset tokens close) :
    ∀ n m, n < m → m ≤ tokens.length →
      (front (tokens.drop n) close).1 < (front (tokens.drop m) close).1 := by
  induction scans with
  | ended =>
      intro n m less bound
      simp at bound
      omega
  | comment _ _ _ ih => exact ih
  | @token offset close tokens _ _ advances rest ih =>
      intro n m less bound
      cases m with
      | zero => omega
      | succ m =>
          cases n with
          | succ n => simpa using ih n m (by omega) (by simpa using bound)
          | zero =>
              have near := rest.le_front
              rw [List.drop_zero, front_cons, List.drop_succ_cons]
              cases m with
              | zero => simpa using Nat.lt_of_lt_of_le advances near
              | succ m =>
                  have far := ih 0 (m + 1) (by omega) (by simpa using bound)
                  simp only [List.drop_zero] at far
                  show offset < _
                  omega

namespace Cursor

-- A cursor on a text that ignores comments and remembers nothing but what its tokenizer reports.
structure Reads (cursor : Cursor) (tokenizer : Tokenizer) (text : String) : Prop where
  asks : cursor.tokenizer = tokenizer
  holds : cursor.source = text
  ignoring : cursor.ignoreComments = true
  cached : ∀ offset token, cursor.cache.lookup offset = some token → token = tokenizer text offset

-- Such a cursor with what it has still to read.
structure Stands (cursor : Cursor) (tokenizer : Tokenizer) (text : String)
    (tokens : List (Nat × Token)) (close : Nat) : Prop extends Reads cursor tokenizer text where
  within : cursor.offset ≤ text.utf8ByteSize
  scans : Scans tokenizer text cursor.offset tokens close

variable {cursor other : Cursor}

theorem Reads.moveTo (reads : Reads cursor tokenizer text) (position : Nat) :
    Reads (cursor.moveTo position) tokenizer text :=
  ⟨reads.asks, reads.holds, reads.ignoring, reads.cached⟩

theorem Reads.size (reads : Reads cursor tokenizer text) : cursor.size = text.utf8ByteSize := by
  rw [Cursor.size, reads.holds]

theorem Reads.fetch (reads : Reads cursor tokenizer text) :
    cursor.fetch.1 = tokenizer text cursor.offset ∧ Reads cursor.fetch.2 tokenizer text := by
  cases known : cursor.cache.lookup cursor.offset with
  | some token =>
      simp only [Cursor.fetch, known]
      exact ⟨reads.cached _ _ known, reads⟩
  | none =>
      simp only [Cursor.fetch, known, ask, reads.asks, reads.holds]
      refine ⟨trivial, rfl, rfl, reads.ignoring, ?_⟩
      intro offset token found
      by_cases same : offset = cursor.offset
      · rw [List.lookup_cons, same, beq_self_eq_true] at found
        rw [same, ← Option.some.inj found]
      · rw [List.lookup_cons, beq_false_of_ne same] at found
        exact reads.cached _ _ found

theorem Reads.after (reads : Reads cursor tokenizer text) :
    cursor.after (tokenizer text cursor.offset) = past tokenizer text cursor.offset := by
  rw [Cursor.after, past, reads.size]

theorem Stands.fetch (stands : Stands cursor tokenizer text tokens close) :
    Stands cursor.fetch.2 tokenizer text tokens close := by
  refine ⟨stands.toReads.fetch.2, ?_, ?_⟩
  · simpa using stands.within
  · simpa using stands.scans

-- Skipping comments ends at the next token and loses nothing but comments.
theorem Stands.skipComments (stands : Stands cursor tokenizer text tokens close) :
    Stands cursor.skipComments tokenizer text tokens close ∧
      cursor.skipComments.offset = (front tokens close).1 := by
  obtain ⟨reads, within, scans⟩ := stands
  generalize position : cursor.offset = offset at scans within
  induction scans generalizing cursor with
  | @ended offset stop =>
      obtain ⟨read, fetched⟩ := reads.fetch
      rw [position, stop] at read
      rw [Cursor.skipComments]
      simp only [read, not_comment_endOfText, Bool.false_eq_true, if_false]
      exact ⟨⟨fetched, by simpa [position] using within, by simpa [position] using .ended stop⟩,
        by simpa using position⟩
  | @comment offset close tokens ignorable advances rest ih =>
      obtain ⟨read, fetched⟩ := reads.fetch
      have after := reads.after
      rw [position] at read after
      rw [Cursor.skipComments]
      simp only [read, after, position, ignorable, advances, if_true]
      exact ih (fetched.moveTo _) (offset_moveTo _ _) past_le
  | @token offset close tokens significant running advances rest _ =>
      obtain ⟨read, fetched⟩ := reads.fetch
      rw [position] at read
      rw [Cursor.skipComments]
      simp only [read, significant, Bool.false_eq_true, if_false]
      exact ⟨⟨fetched, by simpa [position] using within,
        by simpa [position] using .token significant running advances rest⟩, by simpa using position⟩

theorem Stands.current (stands : Stands cursor tokenizer text tokens close) :
    cursor.current.1 = (front tokens close).2 ∧ cursor.current.2.offset = (front tokens close).1 ∧
      Stands cursor.current.2 tokenizer text tokens close := by
  obtain ⟨skipped, position⟩ := stands.skipComments
  have read := skipped.toReads.fetch.1
  rw [position, stands.scans.front_token] at read
  simp only [Cursor.current, stands.ignoring, if_true]
  exact ⟨read, by simpa using position, skipped.fetch⟩

theorem Stands.next {token : Nat × Token} (stands : Stands cursor tokenizer text (token :: tokens) close) :
    ∃ moved, cursor.next = (.ok (), moved) ∧ Stands moved tokenizer text tokens close ∧
      token.1 < moved.offset := by
  obtain ⟨read, position, standing⟩ := stands.current
  obtain ⟨_, running, advances, rest⟩ := stands.scans.uncons
  have reported : tokenizer text token.1 = token.2 := stands.scans.front_token
  rw [front_cons] at read position
  have after := standing.toReads.after
  rw [position, reported] at after
  have solid : token.2.byteLength ≠ 0 := by
    intro zero
    rw [past, reported, zero] at advances
    omega
  refine ⟨cursor.current.2.moveTo (past tokenizer text token.1), ?_, ?_, advances⟩
  · simp [Cursor.next, read, running, solid, after]
  · exact ⟨standing.toReads.moveTo _, past_le, rest⟩

theorem Stands.seek (stands : Stands cursor tokenizer text tokens close)
    (reads : Reads other tokenizer text) :
    Stands (other.seek cursor.offset) tokenizer text tokens close ∧
      (other.seek cursor.offset).offset = cursor.offset := by
  have inside : min cursor.offset other.size = cursor.offset := by
    rw [reads.size]
    exact Nat.min_eq_left stands.within
  rw [Cursor.seek, inside]
  exact ⟨⟨reads.moveTo _, stands.within, stands.scans⟩, rfl⟩

theorem Reads.remaining_lt (reads : Reads cursor tokenizer text) (reading : Reads other tokenizer text)
    (within : other.offset ≤ text.utf8ByteSize) (less : cursor.offset < other.offset) :
    other.remaining < cursor.remaining := by
  simp only [Cursor.remaining, reads.size, reading.size]
  omega

end Cursor

end CssSelectors
