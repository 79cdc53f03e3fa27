import CssSelectors.Cursor.Basic
import CssSelectors.Grammar.Term

namespace CssSelectors

-- Why a text could not be recognized. A mismatch names the terms that were tried at the farthest
-- point reached, and as its context the terms whose match failed in the end. The other two are the
-- tokenizer's doing. A repetition is endless when it matches tokens that are reported at the very end
-- of the text, so that the position stays where it is.
inductive SelectorError where
  | mismatch (context expected : List Term) (found : Token) (offset : Nat)
  | malformed (failure : MalformedToken)
  | endless (offset : Nat)
deriving DecidableEq, Repr

def MalformedToken.message (failure : MalformedToken) : String :=
  "malformed token " ++ failure.token.display ++ " at " ++ toString failure.offset ++
    ": current token has no length"

namespace SelectorError

def offset : SelectorError → Nat
  | .mismatch _ _ _ offset => offset
  | .malformed failure => failure.offset
  | .endless offset => offset

def isMismatch : SelectorError → Bool
  | .mismatch .. => true
  | _ => false

def message : SelectorError → String
  | .mismatch context expected found offset =>
    "parse error at " ++ toString offset ++ ": expected " ++ Term.displayChoice expected ++
      ", found " ++ found.display ++ " (while matching " ++ Term.displayChoice context ++ ")"
  | .malformed failure => failure.message
  | .endless offset => "tokens without end at " ++ toString offset

end SelectorError

end CssSelectors
