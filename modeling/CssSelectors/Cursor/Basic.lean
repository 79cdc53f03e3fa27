import CssSelectors.Token.Scan

namespace CssSelectors

-- A tokenizer reported a token that covers nothing and is not the end of the text.
structure MalformedToken where
  token : Token
  offset : Nat
deriving DecidableEq, Repr

-- A reading position in a loaded text. The cache holds what the tokenizer reported for this text,
-- comments included, newest first. `queries` logs every offset the tokenizer was ever asked for,
-- newest first and across texts; no result depends on it.
structure Cursor where
  tokenizer : Tokenizer
  source : String := ""
  offset : Nat := 0
  cache : List (Nat × Token) := []
  ignoreComments : Bool := true
  queries : List Nat := []

namespace Cursor

-- A cursor over the empty text.
def on (tokenizer : Tokenizer) : Cursor := { tokenizer }

def size (cursor : Cursor) : Nat := cursor.source.utf8ByteSize

-- Bytes between the position and the end of the text.
def remaining (cursor : Cursor) : Nat := cursor.size - cursor.offset

-- The only place where the tokenizer is used.
def ask (cursor : Cursor) (position : Nat) : Token × Cursor :=
  (cursor.tokenizer cursor.source position, { cursor with queries := position :: cursor.queries })

-- The token at the position itself, asked for once and then remembered.
def fetch (cursor : Cursor) : Token × Cursor :=
  match cursor.cache.lookup cursor.offset with
  | some token => (token, cursor)
  | none =>
    let asked := cursor.ask cursor.offset
    (asked.1, { asked.2 with cache := (cursor.offset, asked.1) :: cursor.cache })

-- The position after a token that starts here, which never leaves the text.
def after (cursor : Cursor) (token : Token) : Nat :=
  min (cursor.offset + token.byteLength) cursor.size

def moveTo (cursor : Cursor) (position : Nat) : Cursor := { cursor with offset := position }

@[simp] theorem size_moveTo (cursor : Cursor) (position : Nat) :
    (cursor.moveTo position).size = cursor.size := rfl

@[simp] theorem offset_moveTo (cursor : Cursor) (position : Nat) :
    (cursor.moveTo position).offset = position := rfl

@[simp] theorem fetch_tokenizer (cursor : Cursor) : cursor.fetch.2.tokenizer = cursor.tokenizer := by
  unfold fetch ask; split <;> rfl

@[simp] theorem fetch_source (cursor : Cursor) : cursor.fetch.2.source = cursor.source := by
  unfold fetch ask; split <;> rfl

@[simp] theorem fetch_offset (cursor : Cursor) : cursor.fetch.2.offset = cursor.offset := by
  unfold fetch ask; split <;> rfl

@[simp] theorem fetch_ignoreComments (cursor : Cursor) :
    cursor.fetch.2.ignoreComments = cursor.ignoreComments := by
  unfold fetch ask; split <;> rfl

@[simp] theorem fetch_size (cursor : Cursor) : cursor.fetch.2.size = cursor.size := by
  simp [size]

-- Moves past comments until one does not advance: an empty comment, or one at the end of the text.
def skipComments (cursor : Cursor) : Cursor :=
  let read := cursor.fetch
  if read.1.isComment then
    if cursor.offset < cursor.after read.1 then
      skipComments (read.2.moveTo (cursor.after read.1))
    else read.2
  else read.2
termination_by cursor.remaining
decreasing_by
  have advances : cursor.offset < cursor.after cursor.fetch.1 := by assumption
  have bounded : cursor.after cursor.fetch.1 ≤ cursor.size := Nat.min_le_right _ _
  simp only [remaining, size_moveTo, offset_moveTo, fetch_size]
  omega

-- The token to read next. With comments ignored the position first moves to it.
def current (cursor : Cursor) : Token × Cursor :=
  if cursor.ignoreComments then cursor.skipComments.fetch else cursor.fetch

-- Consumes the current token. At the end of the text nothing happens.
def next (cursor : Cursor) : Except MalformedToken Unit × Cursor :=
  let read := cursor.current
  if read.1 = .endOfText then (.ok (), read.2)
  else if read.1.byteLength = 0 then (.error ⟨read.1, read.2.offset⟩, read.2)
  else (.ok (), read.2.moveTo (read.2.after read.1))

def valid (cursor : Cursor) : Bool × Cursor :=
  let read := cursor.current
  (!read.1.isEnd, read.2)

-- Moves to a position, or to the end of the text if that comes first.
def seek (cursor : Cursor) (position : Nat) : Cursor := cursor.moveTo (min position cursor.size)

-- Moves to the start and forgets every token.
def rewind (cursor : Cursor) : Cursor := { cursor with offset := 0, cache := [] }

def load (cursor : Cursor) (text : String) : Cursor := rewind { cursor with source := text }

def ignoringComments (cursor : Cursor) (ignore : Bool) : Cursor :=
  { cursor with ignoreComments := ignore }

end Cursor

end CssSelectors
