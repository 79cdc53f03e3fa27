import CssSelectors.Cursor.Tokens
import CssSelectors.Parser.Run

namespace CssSelectors

-- What can be asked of a parser, and of the cursor that it works on.
inductive Operation where
  | load (text : String)
  | seek (position : Nat)
  | rewind
  | ignoreComments (ignore : Bool)
  | current
  | next
  | valid
  | tokens (count : Nat)
  | newParser
  | tracing (enabled : Bool)
  | clearTrace
  | accept (term : Term)
  | acceptChoice (terms : List Term)
  | expect (term : Term)
  | expectChoice (terms : List Term)
  | selectorsGroup
deriving DecidableEq, Repr

-- What is answered. Moving around and starting anew have nothing to say.
inductive Answer where
  | done
  | token (token : Token)
  | consumed (result : Except MalformedToken Unit)
  | running (more : Bool)
  | items (items : List TokenItem)
  | recognized (outcome : Outcome)
  | judged (result : Except SelectorError Unit)

namespace Operation

-- An operation of the cursor, while a parser works on it.
def onCursor {α : Type} (read : Cursor → α × Cursor) (answer : α → Answer) (parser : Parser) :
    Answer × Parser :=
  let ran := read parser.cursor
  (answer ran.1, parser.withCursor ran.2)

-- An operation that answers nothing.
def moving (move : Cursor → Cursor) : Parser → Answer × Parser :=
  onCursor (fun cursor => ((), move cursor)) fun _ => .done

def recognizing (recognizer : Recognizer) (parser : Parser) : Answer × Parser :=
  let ran := recognizer parser
  (.recognized ran.1, ran.2)

def run : Operation → Parser → Answer × Parser
  | .load text => moving (·.load text)
  | .seek position => moving (·.seek position)
  | .rewind => moving Cursor.rewind
  | .ignoreComments ignore => moving (·.ignoringComments ignore)
  | .current => onCursor Cursor.current .token
  | .next => onCursor Cursor.next .consumed
  | .valid => onCursor Cursor.valid .running
  | .tokens count => onCursor (fun cursor =>
      let taken := cursor.tokens.take count
      (taken.1, taken.2.cursor)) .items
  | .newParser => fun parser => (.done, Parser.on parser.cursor)
  | .tracing enabled => fun parser => (.done, parser.tracing enabled)
  | .clearTrace => fun parser => (.done, parser.clearTrace)
  | .accept term => recognizing (Parser.accept term)
  | .acceptChoice terms => recognizing (Parser.acceptChoice terms)
  | .expect term => recognizing (Parser.expect term)
  | .expectChoice terms => recognizing (Parser.expectChoice terms)
  | .selectorsGroup => fun parser =>
    let ran := parser.parseSelectorsGroup
    (.judged ran.1, ran.2)

-- Where operations lead, one after another.
def reached (operations : List Operation) (parser : Parser) : Parser :=
  operations.foldl (fun parser operation => (operation.run parser).2) parser

-- One operation after another: every answer, with the state that the operation left.
def runAll : List Operation → Parser → List (Answer × Parser)
  | [], _ => []
  | operation :: rest, parser =>
    let ran := operation.run parser
    ran :: runAll rest ran.2

end Operation

end CssSelectors
