import CssSelectors.Cli.Arguments
import CssSelectors.Cli.Listing
import CssSelectors.Text.Blank
import CssSelectors.Text.Lines
import CssSelectors.Validator
import CssSelectors.Warning

namespace CssSelectors.Cli

-- Why a file could not be read as text.
inductive ReadFailure where
  | notFound
  | isDirectory
  | notText
  | other (reason : String)
deriving DecidableEq, Repr

def ReadFailure.message : ReadFailure → String
  | .notFound => "No such file or directory (os error 2)"
  | .isDirectory => "Is a directory (os error 21)"
  | .notText => "stream did not contain valid UTF-8"
  | .other reason => reason

-- What a run of the program leaves: an exit code and the texts of its two outputs.
structure Report where
  exitCode : Nat
  output : String
  errors : String
deriving DecidableEq, Repr

-- Why a run stops before its end.
inductive Failure where
  | noSelectors
  | unreadable (file : String) (reason : ReadFailure)
  | unlistable (selector : String) (reason : SelectorError)

-- The lines that report a failure, with its cause if it has one.
def Failure.lines : Failure → List String
  | .noSelectors => ["Error: No selectors given; pass SELECTOR arguments or --file"]
  | .unreadable file reason =>
    ["Error: Failed to read " ++ file, "", "Caused by:", "    " ++ reason.message]
  | .unlistable selector reason =>
    ["Error: Failed to tokenize " ++ Text.quote selector, "", "Caused by:", "    " ++ reason.message]

def blankLine (number : Nat) (file : String) : Warning :=
  ⟨"CLI", "skipping blank line " ++ toString number ++ " in " ++ file⟩

def combinatorFound (symbol : Symbol) : Warning :=
  ⟨"Selectors", "combinators are not supported (found " ++ symbol.name ++ ")"⟩

-- The selectors among the lines of a file, counted from a number on, with a warning for each line
-- that is blank.
def collectLines (file : String) (number : Nat) (warnings : Warnings) :
    List (List Char) → List String × Warnings
  | [] => ([], warnings)
  | line :: rest =>
    if (Text.trim line).isEmpty then
      collectLines file (number + 1) (warnings.warnOnce (blankLine number file)).2 rest
    else
      let others := collectLines file (number + 1) warnings rest
      (String.ofList line :: others.1, others.2)

-- The selectors of the arguments, then those of the file.
def collectSelectors (options : Options) (readFile : String → Except ReadFailure String)
    (warnings : Warnings) : Except Failure (List String × Warnings) :=
  match options.file with
  | none => .ok (options.selectors, warnings)
  | some file =>
    match readFile file with
    | .error reason => .error (.unreadable file reason)
    | .ok content =>
      let collected := collectLines file 1 warnings (Text.lines content.toList)
      .ok (options.selectors ++ collected.1, collected.2)

-- The combinator at which a rejected selector stopped, if it is one.
def unsupportedCombinator (selector : String) (failure : SelectorError) : Option Symbol :=
  if failure.isMismatch then
    (tokenAt selector failure.offset).symbol?.filter Symbol.isCombinator
  else none

def mark (good : Bool) : String := if good then Text.green "✓" else Text.red "✗"

def traceLine (entry : TraceEntry) : String :=
  String.join (List.replicate entry.depth "  ") ++ mark entry.matched ++ " " ++
    entry.production.name ++ " @" ++ toString entry.offset

-- The verdict on a selector, with the reason if it is rejected.
def verdictLines (selector : String) : Except SelectorError Unit → List String
  | .ok _ => [mark true ++ " " ++ selector]
  | .error failure => [mark false ++ " " ++ selector, "    " ++ Text.dimmed failure.message]

-- Where the validation of a list of selectors stands.
structure Session where
  validator : Validator
  warnings : Warnings
  output : List String := []
  invalid : Nat := 0

-- Validates one selector with the validator that the one before it has left.
def Session.check (trace : Bool) (session : Session) (selector : String) : Session :=
  let (result, entries, validator) :=
    if trace then session.validator.parseTraced selector
    else
      let ran := session.validator.parse selector
      (ran.1, [], ran.2)
  let output := session.output ++ entries.map traceLine ++ verdictLines selector result
  match result with
  | .ok _ => { session with validator, output }
  | .error failure =>
    let warnings :=
      match unsupportedCombinator selector failure with
      | none => session.warnings
      | some symbol => (session.warnings.warnOnce (combinatorFound symbol)).2
    { validator, output, warnings, invalid := session.invalid + 1 }

def warningLines (warnings : Warnings) : List String := warnings.written.reverse.map Warning.display

-- Validates all selectors. Warnings from before do not count as suppressed.
def checkAll (options : Options) (selectors : List String) (warnings : Warnings) : Report :=
  let session := selectors.foldl (Session.check options.trace)
    { validator := Validator.on tokenAt, warnings := warnings.clear }
  let suppressed :=
    if options.quiet && 0 < session.warnings.emitted then
      [toString session.warnings.emitted ++ " warnings suppressed"]
    else []
  let rejected :=
    if 0 < session.invalid then
      [toString session.invalid ++ " of " ++ toString selectors.length ++ " selector groups invalid"]
    else []
  { exitCode := if 0 < session.invalid then 1 else 0
    output := Text.unlines session.output
    errors := Text.unlines (warningLines session.warnings ++ suppressed ++ rejected) }

-- The listings of all selectors, up to the first that cannot be listed.
def listAll (options : Options) : List String → List String × Option Failure
  | [] => ([], none)
  | selector :: rest =>
    match listTokens selector options.comments with
    | .error reason => ([], some (.unlistable selector reason))
    | .ok tokens =>
      let shown := if options.json then jsonListing tokens else plainListing selector tokens
      let others := listAll options rest
      (shown ++ others.1, others.2)

def failed (failure : Failure) (output : List String) (warnings : Warnings) : Report :=
  { exitCode := 1
    output := Text.unlines output
    errors := Text.unlines (warningLines warnings ++ failure.lines) }

def runOptions (options : Options) (readFile : String → Except ReadFailure String) : Report :=
  let quieted := ({} : Warnings).setEnabled (!options.quiet)
  match collectSelectors options readFile quieted with
  | .error failure => failed failure [] quieted
  | .ok (selectors, warnings) =>
    if selectors.isEmpty then failed .noSelectors [] warnings
    else if options.tokens then
      match listAll options selectors with
      | (output, some failure) => failed failure output warnings
      | (output, none) =>
        { exitCode := 0, output := Text.unlines output, errors := Text.unlines (warningLines warnings) }
    else checkAll options selectors warnings

-- The whole program on its arguments. Arguments that cannot be understood exit with a code of their
-- own.
def run (arguments : List String) (readFile : String → Except ReadFailure String) : Report :=
  match readArguments arguments with
  | .error failure =>
    { exitCode := 2, output := "", errors := Text.unlines ["error: " ++ failure.message] }
  | .ok .version => { exitCode := 0, output := Text.unlines ["selcheck 0.1.0"], errors := "" }
  | .ok (.check options) => runOptions options readFile

end CssSelectors.Cli
