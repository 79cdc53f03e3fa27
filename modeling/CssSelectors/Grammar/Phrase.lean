import CssSelectors.Grammar.Term

namespace CssSelectors

-- What a production may consist of, as a recognizer without lookahead reads it. A named production
-- stands in a phrase together with its body, so a phrase is a finite tree.
--
-- `either` commits to its first part if that matches. `optional` and `many` take what they can, and
-- `both` never goes back into its first part. `absent` matches where its phrase does not; what that
-- phrase has read when it matches is given back by the production around it. `toEnd` repeats its
-- phrase until the text ends. `required` marks a phrase whose mismatch is an error unless it happens
-- inside an attempt.
inductive Phrase where
  | char (c : Char)
  | symbol (name : Symbol)
  | production (name : Production) (body : Phrase)
  | spaces
  | fail
  | either (first second : Phrase)
  | both (first second : Phrase)
  | optional (phrase : Phrase)
  | absent (phrase : Phrase)
  | many (phrase : Phrase)
  | toEnd (phrase : Phrase)
  | required (phrase : Phrase)
deriving DecidableEq, Repr

namespace Phrase

-- Ordered choice.
def choice (phrases : List Phrase) : Phrase := phrases.foldr .either .fail

-- The terms that a phrase offers at its front when it is a term or a choice between terms.
def terms : Phrase → List Term
  | .char c => [.char c]
  | .symbol name => [.symbol name]
  | .production name _ => [.production name]
  | .either first second => first.terms ++ second.terms
  | _ => []

end Phrase

end CssSelectors
