import CssSelectors.Grammar.Selectors
import CssSelectors.Parser.Basic

namespace CssSelectors

namespace Parser

-- Moves past the current token.
def consume : Recognizer := fun parser =>
  match parser.cursor.next with
  | (.ok _, moved) => (.ok true, parser.withCursor moved)
  | (.error failure, stopped) => (.error (.malformed failure), parser.withCursor stopped)

-- Matches one token. A miss is noted where the token stands, and the position is as before it.
def acceptToken (term : Term) : Recognizer := fun parser =>
  let read := parser.cursor.current
  if term.fits read.1 then consume (parser.withCursor read.2)
  else
    (.ok false, { parser with
      cursor := read.2.seek parser.cursor.offset
      misses := ⟨term, read.2.offset, read.1⟩ :: parser.misses })

-- Matches a token of white space. It is never expected, so its absence is no miss.
def acceptSpace : Recognizer := fun parser =>
  let read := parser.cursor.current
  if read.1.symbol? = some .space then consume (parser.withCursor read.2)
  else (.ok false, parser.withCursor read.2)

def moreText : Recognizer := fun parser =>
  let read := parser.cursor.valid
  (.ok read.1, parser.withCursor read.2)

def pass : Recognizer := fun parser => (.ok true, parser)

-- As long as the first step matches, the second one must match too. A round that does not bring the
-- end of the text nearer would repeat for ever.
def repeatWhile (head tail : Recognizer) (parser : Parser) : Outcome × Parser :=
  match head parser with
  | (.ok true, headed) =>
    match tail headed with
    | (.ok true, next) =>
      if next.remaining < parser.remaining then repeatWhile head tail next
      else (.error (.endless next.cursor.offset), next)
    | other => other
  | (.ok false, ended) => (.ok true, ended)
  | other => other
termination_by parser.remaining

-- Runs the body of a production and records the attempt. Entries of the attempts inside it come
-- after its own.
def attempt (production : Production) (body : Recognizer) : Recognizer := fun parser =>
  match parser.trace with
  | none => body parser
  | some before =>
    let ran := body { parser with trace := some [] }
    let entry : TraceEntry := {
      production, offset := parser.cursor.offset, depth := parser.depth
      matched := match ran.1 with
        | .ok matched => matched
        | .error _ => false }
    (ran.1, { ran.2 with trace := some (ran.2.trace.getD [] ++ entry :: before) })

-- Attempts a production one level deeper. After a mismatch the position is as before it, however far
-- the attempt has come; after an error it stays where the error arose.
def acceptProduction (production : Production) (body : Recognizer) : Recognizer := fun parser =>
  let ran := attempt production body { parser with depth := parser.depth + 1 }
  let cursor :=
    match ran.1 with
    | .ok false => ran.2.cursor.seek parser.cursor.offset
    | _ => ran.2.cursor
  (ran.1, { ran.2 with cursor, depth := ran.2.depth - 1 })

end Parser

namespace Phrase

-- Recognizes a phrase at the parser's position.
def run : Phrase → Recognizer
  | .char c, parser => parser.acceptToken (.char c)
  | .symbol name, parser => parser.acceptToken (.symbol name)
  | .production name body, parser => parser.acceptProduction name body.run
  | .spaces, parser => parser.repeatWhile Parser.acceptSpace Parser.pass
  | .fail, parser => (.ok false, parser)
  | .either first second, parser =>
    match first.run parser with
    | (.ok false, missed) => second.run missed
    | other => other
  | .both first second, parser =>
    match first.run parser with
    | (.ok true, matched) => second.run matched
    | other => other
  | .optional phrase, parser =>
    match phrase.run parser with
    | (.ok _, tried) => (.ok true, tried)
    | other => other
  | .absent phrase, parser =>
    match phrase.run parser with
    | (.ok matched, tried) => (.ok !matched, tried)
    | other => other
  | .many phrase, parser => parser.repeatWhile phrase.run Parser.pass
  | .toEnd phrase, parser => parser.repeatWhile Parser.moreText phrase.run
  | .required phrase, parser =>
    match phrase.run parser with
    | (.ok false, missed) =>
      if missed.depth = 0 then
        let failed := missed.mismatch phrase.terms
        (.error failed.1, failed.2)
      else (.ok false, missed)
    | other => other

end Phrase

namespace Parser

-- Tries a term. A mismatch leaves the position as it was and is not an error.
def accept (term : Term) : Recognizer := term.phrase.run

-- Tries terms from the left and commits to the first that matches.
def acceptChoice (terms : List Term) : Recognizer := (Phrase.choice (terms.map Term.phrase)).run

-- Like `accept`, but outside of every attempt a mismatch is an error.
def expect (term : Term) : Recognizer := (Phrase.required term.phrase).run

def expectChoice (terms : List Term) : Recognizer :=
  (Phrase.required (Phrase.choice (terms.map Term.phrase))).run

-- Recognizes the rest of the text as a selector group. Comments are ignored meanwhile.
def parseSelectorsGroup (parser : Parser) : Except SelectorError Unit × Parser :=
  let ignore := parser.cursor.ignoreComments
  let ran := attempt .selectorsGroup Phrase.selectorsGroupBody.run
    (parser.withCursor (parser.cursor.ignoringComments true))
  let ended := ran.2.withCursor (ran.2.cursor.ignoringComments ignore)
  match ran.1 with
  | .ok true => (.ok (), ended)
  | .ok false =>
    let failed := ended.mismatch [.production .selectorsGroup]
    (.error failed.1, failed.2)
  | .error failure => (.error failure, ended)

end Parser

end CssSelectors
