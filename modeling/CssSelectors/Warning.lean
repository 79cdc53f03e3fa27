import CssSelectors.Text.Terminal

namespace CssSelectors

-- A warning of a part of the program.
structure Warning where
  component : String
  message : String
deriving DecidableEq, Repr

namespace Warning

-- Warnings with the same key count as one. A component that holds a closing bracket can share a key
-- with another one.
def key (warning : Warning) : String := "[" ++ warning.component ++ "] " ++ warning.message

-- One yellow line of a terminal.
def display (warning : Warning) : String :=
  Text.yellow ("[selcheck " ++ warning.component ++ "] ⚠ " ++ warning.message)

end Warning

-- The warnings given so far: the keys seen, whether new ones are written, and what was written, the
-- newest first.
structure Warnings where
  seen : List String := []
  enabled : Bool := true
  written : List Warning := []

namespace Warnings

-- Warns unless the same warning was given before. The answer does not depend on whether warnings are
-- written.
def warnOnce (warnings : Warnings) (warning : Warning) : Bool × Warnings :=
  if warning.key ∈ warnings.seen then (false, warnings)
  else
    (true, { warnings with
      seen := warning.key :: warnings.seen
      written := if warnings.enabled then warning :: warnings.written else warnings.written })

-- How many different warnings were given since the last `clear`.
def emitted (warnings : Warnings) : Nat := warnings.seen.length

-- Forgets which warnings were given. What was written stays written.
def clear (warnings : Warnings) : Warnings := { warnings with seen := [] }

def setEnabled (warnings : Warnings) (enabled : Bool) : Warnings := { warnings with enabled }

end Warnings

end CssSelectors
