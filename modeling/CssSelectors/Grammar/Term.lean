import CssSelectors.Grammar.Production
import CssSelectors.Text.Blank
import CssSelectors.Text.Quoted
import CssSelectors.Token.Symbol

namespace CssSelectors

-- A term of the grammar's notation: a quoted character, the name of a token class in capitals, or
-- the name of a production.
inductive Term where
  | char (c : Char)
  | symbol (name : Symbol)
  | production (name : Production)
deriving DecidableEq, Repr

-- A text that is no term, or no list of alternatives.
structure InvalidTerm where
  text : String
deriving DecidableEq, Repr

def InvalidTerm.message (invalid : InvalidTerm) : String :=
  "invalid grammar term " ++ Text.quote invalid.text

namespace Term

def display : Term → String
  | .char c => String.ofList ['\'', c, '\'']
  | .symbol name => name.name
  | .production name => name.name

-- Terms as the notation separates them in an ordered choice.
def displayChoice (terms : List Term) : String := " | ".intercalate (terms.map display)

-- The first character decides which of the three kinds a term is. Any single character may stand
-- between the quotes, a quote included.
def ofChars? : List Char → Option Term
  | [] => none
  | '\'' :: rest =>
    match rest with
    | [c, '\''] => some (.char c)
    | _ => none
  | c :: rest =>
    let text := String.ofList (c :: rest)
    if c.isUpper then (Symbol.ofName? text).map .symbol
    else (Production.ofName? text).map .production

-- Blanks around a term do not count, but a failure reports the text with them.
def parse (text : String) : Except InvalidTerm Term :=
  match ofChars? (Text.trim text.toList) with
  | some term => .ok term
  | none => .error ⟨text⟩

-- The words of a list of alternatives, read from the left with the word since the last bar. The end
-- of the list closes an alternative as a bar does.
def alternativesFrom (pending : Option String) : List String → Except InvalidTerm (List Term)
  | [] =>
    match pending with
    | none => .error ⟨""⟩
    | some word => (parse word).map fun term => [term]
  | word :: rest =>
    match pending with
    | none => if word = "|" then .error ⟨""⟩ else alternativesFrom (some word) rest
    | some previous =>
      if word = "|" then
        match parse previous with
        | .error invalid => .error invalid
        | .ok term => (alternativesFrom none rest).map (term :: ·)
      else .error ⟨previous ++ " " ++ word⟩

-- A list of alternatives, separated by bars that stand alone between blanks.
def alternatives (text : String) : Except InvalidTerm (List Term) :=
  alternativesFrom none ((Text.words text.toList).map String.ofList)

end Term

end CssSelectors
