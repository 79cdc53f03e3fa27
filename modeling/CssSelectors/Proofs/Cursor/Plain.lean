import CssSelectors.Cursor.Tokens
import CssSelectors.Proofs.Cursor.Reported

-- A cursor that remembers nothing, and that a cursor with a cache cannot be told from one.
namespace CssSelectors

-- A text, a position in it and whether comments count. Every reading asks the tokenizer anew.
structure PlainCursor where
  tokenizer : Tokenizer
  source : String := ""
  offset : Nat := 0
  ignoreComments : Bool := true

namespace PlainCursor

def size (cursor : PlainCursor) : Nat := cursor.source.utf8ByteSize

def remaining (cursor : PlainCursor) : Nat := cursor.size - cursor.offset

-- The token at the position itself.
def here (cursor : PlainCursor) : Token := cursor.tokenizer cursor.source cursor.offset

def moveTo (cursor : PlainCursor) (position : Nat) : PlainCursor := { cursor with offset := position }

-- The position behind the token here, which never leaves the text.
def behind (cursor : PlainCursor) : Nat :=
  min (cursor.offset + cursor.here.byteLength) cursor.size

def skipComments (cursor : PlainCursor) : PlainCursor :=
  if cursor.here.isComment then
    if cursor.offset < cursor.behind then skipComments (cursor.moveTo cursor.behind) else cursor
  else cursor
termination_by cursor.remaining
decreasing_by
  have bounded : cursor.behind ≤ cursor.size := Nat.min_le_right _ _
  simp only [remaining, size, moveTo] at bounded ⊢
  omega

-- Where the next token is read.
def settle (cursor : PlainCursor) : PlainCursor :=
  if cursor.ignoreComments then cursor.skipComments else cursor

def current (cursor : PlainCursor) : Token × PlainCursor := (cursor.settle.here, cursor.settle)

def next (cursor : PlainCursor) : Except MalformedToken Unit × PlainCursor :=
  let settled := cursor.settle
  if settled.here = .endOfText then (.ok (), settled)
  else if settled.here.byteLength = 0 then (.error ⟨settled.here, settled.offset⟩, settled)
  else (.ok (), settled.moveTo settled.behind)

def valid (cursor : PlainCursor) : Bool × PlainCursor :=
  (!cursor.settle.here.isEnd, cursor.settle)

def seek (cursor : PlainCursor) (position : Nat) : PlainCursor :=
  cursor.moveTo (min position cursor.size)

def rewind (cursor : PlainCursor) : PlainCursor := cursor.moveTo 0

def load (cursor : PlainCursor) (text : String) : PlainCursor :=
  { cursor with source := text, offset := 0 }

def ignoringComments (cursor : PlainCursor) (ignore : Bool) : PlainCursor :=
  { cursor with ignoreComments := ignore }

-- Up to a number of tokens with their offsets. A malformed one is the last.
def take : Nat → PlainCursor → List TokenItem × PlainCursor
  | 0, cursor => ([], cursor)
  | count + 1, cursor =>
    let settled := cursor.settle
    if settled.here = .endOfText then ([], settled)
    else
      match settled.next with
      | (.error malformed, stopped) => ([.error malformed], stopped)
      | (.ok _, moved) =>
        let others := take count moved
        (.ok (settled.offset, settled.here) :: others.1, others.2)

end PlainCursor

namespace Cursor

-- What a cursor is but for what it remembers.
def plain (cursor : Cursor) : PlainCursor :=
  ⟨cursor.tokenizer, cursor.source, cursor.offset, cursor.ignoreComments⟩

-- The position is in the text, and so is all that is remembered, as the tokenizer reports it of the
-- text that is loaded.
structure Sound (cursor : Cursor) (tokenizer : Tokenizer) : Prop where
  asks : cursor.tokenizer = tokenizer
  within : cursor.offset ≤ cursor.size
  cached : ∀ entry ∈ cursor.cache,
    entry.1 ≤ cursor.size ∧ entry.2 = tokenizer cursor.source entry.1

-- Reading a sound cursor gives what the plain one gives, and leaves a sound cursor.
def Reflects {α : Type} (read : Cursor → α × Cursor) (plainly : PlainCursor → α × PlainCursor) :
    Prop :=
  ∀ (tokenizer : Tokenizer) (cursor : Cursor), cursor.Sound tokenizer → ∃ answer after,
    read cursor = (answer, after) ∧ plainly cursor.plain = (answer, after.plain) ∧
      after.Sound tokenizer

variable {cursor : Cursor} {tokenizer : Tokenizer}

theorem sound_on (tokenizer : Tokenizer) : (Cursor.on tokenizer).Sound tokenizer :=
  ⟨rfl, Nat.zero_le _, nofun⟩

theorem Sound.moveTo (sound : cursor.Sound tokenizer) {position : Nat}
    (within : position ≤ cursor.size) : (cursor.moveTo position).Sound tokenizer :=
  ⟨sound.asks, within, sound.cached⟩

theorem Sound.seek (sound : cursor.Sound tokenizer) (position : Nat) :
    (cursor.seek position).Sound tokenizer :=
  sound.moveTo (Nat.min_le_right _ _)

theorem Sound.ignoringComments (sound : cursor.Sound tokenizer) (ignore : Bool) :
    (cursor.ignoringComments ignore).Sound tokenizer := ⟨sound.asks, sound.within, sound.cached⟩

-- A cursor that has forgotten everything is sound, whatever text it holds.
theorem Sound.rewind (sound : cursor.Sound tokenizer) : cursor.rewind.Sound tokenizer :=
  ⟨sound.asks, Nat.zero_le _, nofun⟩

theorem Sound.load (sound : cursor.Sound tokenizer) (text : String) :
    (cursor.load text).Sound tokenizer := ⟨sound.asks, Nat.zero_le _, nofun⟩

-- What a reader of a sound cursor is told is what the tokenizer says.
theorem Sound.reported (sound : cursor.Sound tokenizer) (offset : Nat) :
    cursor.reported offset = tokenizer cursor.source offset := by
  cases known : cursor.cache.lookup offset with
  | none => rw [Cursor.reported, known, Option.getD_none, sound.asks]
  | some token =>
      rw [reported_remembered known]
      exact (sound.cached _ (mem_of_remembered known)).2

-- Fetching remembers what the tokenizer says here, or finds it remembered.
theorem Sound.fetch (sound : cursor.Sound tokenizer) :
    ∃ after, cursor.fetch = (cursor.plain.here, after) ∧ after.plain = cursor.plain ∧
      after.Sound tokenizer := by
  unfold Cursor.fetch
  cases known : cursor.cache.lookup cursor.offset with
  | some token =>
      have reported : token = cursor.plain.here := by
        rw [PlainCursor.here, Cursor.plain, sound.asks]
        exact (sound.cached _ (mem_of_remembered known)).2
      exact ⟨cursor, by rw [reported], rfl, sound⟩
  | none =>
      refine ⟨_, rfl, rfl, sound.asks, sound.within, ?_⟩
      refine List.forall_mem_cons.mpr ⟨⟨sound.within, ?_⟩, sound.cached⟩
      exact congrFun (congrFun sound.asks _) _

theorem Sound.skipComments (sound : cursor.Sound tokenizer) :
    cursor.skipComments.plain = cursor.plain.skipComments ∧ cursor.skipComments.Sound tokenizer := by
  refine skipComments_induction (motive := fun before after => before.Sound tokenizer →
    after.plain = before.plain.skipComments ∧ after.Sound tokenizer) ?_ ?_ cursor sound
  · intro cursor last sound
    obtain ⟨after, fetched, same, kept⟩ := sound.fetch
    rw [fetched] at last ⊢
    rw [PlainCursor.skipComments]
    refine ⟨same.trans ?_, kept⟩
    split
    · rename_i comment
      exact (if_neg (last comment)).symm
    · rfl
  · intro cursor stopped comment advances later sound
    obtain ⟨after, fetched, same, kept⟩ := sound.fetch
    have whole : after.size = cursor.size := congrArg PlainCursor.size same
    have bounded : cursor.plain.behind ≤ after.size := whole ▸ Nat.min_le_right _ _
    have moved : (after.moveTo cursor.plain.behind).plain = cursor.plain.moveTo cursor.plain.behind := by
      rw [← same]
      rfl
    rw [fetched] at comment advances later
    obtain ⟨skipped, settled⟩ := later (kept.moveTo bounded)
    refine ⟨skipped.trans ?_, settled⟩
    rw [PlainCursor.skipComments.eq_def cursor.plain, if_pos comment, ← moved]
    exact (if_pos advances).symm

theorem reflects_current : Reflects Cursor.current PlainCursor.current := by
  intro tokenizer cursor sound
  have mode : cursor.plain.ignoreComments = cursor.ignoreComments := rfl
  unfold Cursor.current PlainCursor.current PlainCursor.settle
  rw [mode]
  split
  · obtain ⟨skipped, settled⟩ := sound.skipComments
    obtain ⟨after, fetched, same, kept⟩ := settled.fetch
    exact ⟨_, after, fetched, by rw [same, skipped], kept⟩
  · obtain ⟨after, fetched, same, kept⟩ := sound.fetch
    exact ⟨_, after, fetched, by rw [same], kept⟩

-- What `current` reads, in the words of the plain cursor.
theorem Sound.current (sound : cursor.Sound tokenizer) : ∃ after,
    cursor.current = (cursor.plain.settle.here, after) ∧ after.plain = cursor.plain.settle ∧
      after.Sound tokenizer := by
  obtain ⟨answer, after, ran, plainly, kept⟩ := reflects_current tokenizer cursor sound
  obtain ⟨rfl, same⟩ := Prod.mk.inj plainly
  exact ⟨after, ran, same.symm, kept⟩

theorem reflects_next : Reflects Cursor.next PlainCursor.next := by
  intro tokenizer cursor sound
  obtain ⟨after, read, same, kept⟩ := sound.current
  unfold Cursor.next PlainCursor.next
  simp only [read]
  split
  · exact ⟨_, after, rfl, by rw [same], kept⟩
  · split
    · have position : after.offset = cursor.plain.settle.offset := congrArg PlainCursor.offset same
      exact ⟨_, after, rfl, by rw [same, position], kept⟩
    · have behind : after.after cursor.plain.settle.here = cursor.plain.settle.behind := by
        rw [← same]
        rfl
      have bounded : after.after cursor.plain.settle.here ≤ after.size := Nat.min_le_right _ _
      refine ⟨_, _, rfl, ?_, kept.moveTo bounded⟩
      rw [← behind, ← same]
      rfl

theorem reflects_valid : Reflects Cursor.valid PlainCursor.valid := by
  intro tokenizer cursor sound
  obtain ⟨after, read, same, kept⟩ := sound.current
  refine ⟨!cursor.plain.settle.here.isEnd, after, ?_, ?_, kept⟩
  · simp only [Cursor.valid, read]
  · rw [PlainCursor.valid, same]

theorem take_failed (count : Nat) :
    Tokens.take count { cursor, failed := true } = ([], { cursor, failed := true }) := by
  cases count with
  | zero => rfl
  | succ count => rfl

-- A walk of so many steps yields what the plain cursor takes at a stroke.
theorem reflects_take (count : Nat) : Reflects
    (fun cursor => ((cursor.tokens.take count).1, (cursor.tokens.take count).2.cursor))
    (PlainCursor.take count) := by
  intro tokenizer cursor sound
  induction count generalizing cursor with
  | zero => exact ⟨[], cursor, rfl, rfl, sound⟩
  | succ count ih =>
      obtain ⟨after, read, same, kept⟩ := sound.current
      obtain ⟨answer, moved, stepped, plainly, going⟩ := reflects_next tokenizer after kept
      rw [same] at plainly
      have position : after.offset = cursor.plain.settle.offset := congrArg PlainCursor.offset same
      by_cases ended : cursor.plain.settle.here = .endOfText
      · refine ⟨[], after, ?_, ?_, kept⟩
        · simp [Tokens.take, Tokens.next?, Cursor.tokens, read, ended]
        · simp [PlainCursor.take, same, ended]
      · cases answer with
        | error malformed =>
            refine ⟨[.error malformed], moved, ?_, ?_, going⟩
            · simp [Tokens.take, Tokens.next?, Cursor.tokens, read, ended, stepped, take_failed]
            · simp [PlainCursor.take, ended, plainly]
        | ok =>
            obtain ⟨others, last, taken, also, final⟩ := ih moved going
            obtain ⟨items, rest⟩ := Prod.mk.inj taken
            simp only [Cursor.tokens] at items rest
            refine ⟨.ok (after.offset, cursor.plain.settle.here) :: others, last, ?_, ?_, final⟩
            · simp [Tokens.take, Tokens.next?, Cursor.tokens, read, ended, stepped, items, rest]
            · simp [PlainCursor.take, ended, plainly, also, position]

end Cursor

end CssSelectors
