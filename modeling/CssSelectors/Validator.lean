import CssSelectors.Parser.Run

namespace CssSelectors

-- Validates one text after another on a cursor of its own, which afterwards holds the last one.
structure Validator where
  cursor : Cursor

namespace Validator

def on (tokenizer : Tokenizer) : Validator := { cursor := Cursor.on tokenizer }

-- Loads a text without validating it.
def load (validator : Validator) (text : String) : Validator := ⟨validator.cursor.load text⟩

def parse (validator : Validator) (text : String) : Except SelectorError Unit × Validator :=
  let ran := (Parser.on (validator.cursor.load text)).parseSelectorsGroup
  (ran.1, ⟨ran.2.cursor⟩)

-- `parse` with every attempt at a production, in the order in which they started.
def parseTraced (validator : Validator) (text : String) :
    Except SelectorError Unit × List TraceEntry × Validator :=
  let ran := ((Parser.on (validator.cursor.load text)).tracing true).parseSelectorsGroup
  (ran.1, ran.2.entries, ⟨ran.2.cursor⟩)

end Validator

-- Whether a text is a selector group, and if not, why.
def validate (text : String) : Except SelectorError Unit := ((Validator.on tokenAt).parse text).1

def isValid (text : String) : Bool := (validate text).isOk

end CssSelectors
