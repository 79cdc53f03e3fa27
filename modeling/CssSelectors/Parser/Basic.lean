import CssSelectors.Grammar.Error

namespace CssSelectors

-- A character or token class that was tried in vain, with the token that stood there instead.
structure Miss where
  term : Term
  offset : Nat
  found : Token
deriving DecidableEq, Repr

-- The farthest point at which something was tried in vain: what was tried there, in order and
-- without repetition, and the token that stood there.
structure Frontier where
  offset : Nat
  expected : List Term
  found : Token
deriving DecidableEq, Repr

-- One attempt at a production.
structure TraceEntry where
  production : Production
  offset : Nat
  depth : Nat
  matched : Bool
deriving DecidableEq, Repr

-- A recognizer at work on a cursor. `depth` counts the attempts that are under way. The misses, and
-- the trace while one is kept, have the newest entry first.
structure Parser where
  cursor : Cursor
  depth : Nat := 0
  misses : List Miss := []
  trace : Option (List TraceEntry) := none

-- Whether something matched, or an error that ends the whole recognition.
abbrev Outcome := Except SelectorError Bool

-- A step of recognition. The state it leaves counts after an error too.
abbrev Recognizer := Parser → Outcome × Parser

-- Whether a term that stands for one token matches it.
def Term.fits : Term → Token → Bool
  | .char c, token => token == .literal c
  | .symbol name, token => token.symbol? == some name
  | .production _, _ => false

-- A miss nearer than the frontier is forgotten, one at it adds its term, and one beyond it is the
-- frontier from then on.
def Frontier.extend (reached : Option Frontier) (miss : Miss) : Frontier :=
  match reached with
  | none => ⟨miss.offset, [miss.term], miss.found⟩
  | some frontier =>
    if miss.offset < frontier.offset then frontier
    else if miss.offset = frontier.offset then
      if miss.term ∈ frontier.expected then frontier
      else { frontier with expected := frontier.expected ++ [miss.term] }
    else ⟨miss.offset, [miss.term], miss.found⟩

-- The frontier of misses of which the newest comes first.
def Frontier.ofMisses? (misses : List Miss) : Option Frontier :=
  misses.foldr (fun miss reached => some (extend reached miss)) none

namespace Parser

-- A parser that starts at the cursor's position.
def on (cursor : Cursor) : Parser := { cursor }

def remaining (parser : Parser) : Nat := parser.cursor.remaining

def withCursor (parser : Parser) (cursor : Cursor) : Parser := { parser with cursor }

-- Starting a trace keeps the one there is; stopping drops it.
def tracing (parser : Parser) (enabled : Bool) : Parser :=
  { parser with trace := if enabled then some (parser.trace.getD []) else none }

-- The attempts of the trace in the order in which they started.
def entries (parser : Parser) : List TraceEntry := (parser.trace.getD []).reverse

-- A parser that goes on with an empty trace, if it keeps one.
def clearTrace (parser : Parser) : Parser := { parser with trace := parser.trace.map fun _ => [] }

-- The error for a mismatch that ends the recognition. Without any miss so far it speaks of the
-- current token.
def mismatch (context : List Term) (parser : Parser) : SelectorError × Parser :=
  match Frontier.ofMisses? parser.misses with
  | some frontier => (.mismatch context frontier.expected frontier.found frontier.offset, parser)
  | none =>
    let read := parser.cursor.current
    (.mismatch context context read.1 read.2.offset, parser.withCursor read.2)

end Parser

end CssSelectors
