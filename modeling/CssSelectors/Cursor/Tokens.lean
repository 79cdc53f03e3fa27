import CssSelectors.Cursor.Basic

namespace CssSelectors

-- A walk over the tokens from a cursor's position. It ends before the end of the text, or after the
-- first malformed token.
structure Tokens where
  cursor : Cursor
  failed : Bool := false

-- What a walk yields: a token with its offset, or the failure that ends it.
abbrev TokenItem := Except MalformedToken (Nat × Token)

namespace Tokens

def next? (walk : Tokens) : Option TokenItem × Tokens :=
  if walk.failed then (none, walk)
  else
    let read := walk.cursor.current
    if read.1 = .endOfText then (none, { walk with cursor := read.2 })
    else
      match read.2.next with
      | (.ok _, moved) => (some (.ok (read.2.offset, read.1)), { walk with cursor := moved })
      | (.error malformed, stopped) =>
        (some (.error malformed), { walk with cursor := stopped, failed := true })

-- Up to a number of items. Fewer means that the walk has ended.
def take : Nat → Tokens → List TokenItem × Tokens
  | 0, walk => ([], walk)
  | count + 1, walk =>
    match walk.next? with
    | (none, ended) => ([], ended)
    | (some item, moved) =>
      let others := take count moved
      (item :: others.1, others.2)

-- All items. None stands for a walk without an end, which needs a tokenizer that reports tokens at
-- the very end of the text: the position then stays there.
def drain? (walk : Tokens) : Option (List TokenItem × Tokens) :=
  match walk.next? with
  | (none, ended) => some ([], ended)
  | (some (.error malformed), stopped) => some ([.error malformed], stopped)
  | (some (.ok item), moved) =>
    if moved.cursor.remaining < walk.cursor.remaining then
      (drain? moved).map fun others => (.ok item :: others.1, others.2)
    else none
termination_by walk.cursor.remaining

end Tokens

def Cursor.tokens (cursor : Cursor) : Tokens := { cursor }

end CssSelectors
