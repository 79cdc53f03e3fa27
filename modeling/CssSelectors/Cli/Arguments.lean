namespace CssSelectors.Cli

-- The flags of the command line. Only `file` takes a value.
inductive Flag where
  | file | tokens | comments | json | trace | quiet | version
deriving DecidableEq, Repr

namespace Flag

def long : Flag → String
  | .file => "file"
  | .tokens => "tokens"
  | .comments => "comments"
  | .json => "json"
  | .trace => "trace"
  | .quiet => "quiet"
  | .version => "version"

def ofLong? (text : String) : Option Flag :=
  [.file, .tokens, .comments, .json, .trace, .quiet, .version].find? fun flag => flag.long == text

def ofShort? : Char → Option Flag
  | 'f' => some .file
  | 't' => some .tokens
  | 'q' => some .quiet
  | 'V' => some .version
  | _ => none

end Flag

-- What a command line asks for.
structure Options where
  selectors : List String := []
  file : Option String := none
  tokens : Bool := false
  comments : Bool := false
  json : Bool := false
  trace : Bool := false
  quiet : Bool := false
deriving DecidableEq, Repr

inductive Request where
  | version
  | check (options : Options)
deriving DecidableEq, Repr

inductive UsageError where
  | unknown (argument : String)
  | repeated (flag : Flag)
  | valueMissing (flag : Flag)
  | valueUnexpected (flag : Flag)
  | needs (flag other : Flag)
  | excludes (flag other : Flag)
deriving DecidableEq, Repr

def UsageError.message : UsageError → String
  | .unknown argument => "unexpected argument '" ++ argument ++ "'"
  | .repeated flag => "the argument '--" ++ flag.long ++ "' cannot be used multiple times"
  | .valueMissing flag => "a value is required for '--" ++ flag.long ++ "'"
  | .valueUnexpected flag => "the argument '--" ++ flag.long ++ "' takes no value"
  | .needs flag other => "the argument '--" ++ flag.long ++ "' requires '--" ++ other.long ++ "'"
  | .excludes flag other =>
    "the argument '--" ++ flag.long ++ "' cannot be used with '--" ++ other.long ++ "'"

-- What one argument of flags comes to: the options with these flags, or a flag that still waits for
-- its value, or the one flag that ends the reading at once.
inductive FlagEffect where
  | settled (options : Options)
  | awaitsFile (options : Options)
  | version
deriving DecidableEq, Repr

namespace Options

-- A flag without a value may be given once.
def set (options : Options) : Flag → Except UsageError FlagEffect
  | .file => .ok (.awaitsFile options)
  | .tokens =>
    if options.tokens then .error (.repeated .tokens) else .ok (.settled { options with tokens := true })
  | .comments =>
    if options.comments then .error (.repeated .comments)
    else .ok (.settled { options with comments := true })
  | .json =>
    if options.json then .error (.repeated .json) else .ok (.settled { options with json := true })
  | .trace =>
    if options.trace then .error (.repeated .trace) else .ok (.settled { options with trace := true })
  | .quiet =>
    if options.quiet then .error (.repeated .quiet) else .ok (.settled { options with quiet := true })
  | .version => .ok .version

-- A file is named once, and its name is not empty.
def setFile (options : Options) (name : String) : Except UsageError Options :=
  if name = "" then .error (.valueMissing .file)
  else if options.file.isSome then .error (.repeated .file)
  else .ok { options with file := some name }

-- Flags that only go with others are judged when all arguments are read. `comments` and `json` need
-- `tokens`. Under `trace`, which excludes `tokens`, nothing is missing and they have no effect.
def request (options : Options) : Except UsageError Request :=
  let missing := !options.tokens && !options.trace
  if options.tokens && options.trace then .error (.excludes .trace .tokens)
  else if options.comments && missing then .error (.needs .comments .tokens)
  else if options.json && missing then .error (.needs .json .tokens)
  else .ok (.check options)

theorem request_eq_ok_iff (options : Options) (request : Request) :
    options.request = .ok request ↔
      request = .check options ∧ ¬(options.tokens = true ∧ options.trace = true) ∧
        (options.comments = true ∨ options.json = true →
          options.tokens = true ∨ options.trace = true) := by
  cases tokens : options.tokens <;> cases trace : options.trace <;>
    cases comments : options.comments <;> cases json : options.json <;>
      simp [Options.request, tokens, trace, comments, json, eq_comm]

-- Short flags, one letter each. What follows the one with a value in the same argument is its value,
-- with or without an equals sign before it.
def readShort (options : Options) : List Char → Except UsageError FlagEffect
  | [] => .ok (.settled options)
  | c :: rest =>
    match Flag.ofShort? c, rest with
    | none, _ => .error (.unknown (String.ofList ['-', c]))
    | some .file, '=' :: value => (options.setFile (String.ofList value)).map .settled
    | some .file, c :: value => (options.setFile (String.ofList (c :: value))).map .settled
    | some flag, rest =>
      match options.set flag with
      | .ok (.settled changed) => changed.readShort rest
      | other => other

-- A long flag, with its value after an equals sign or without one.
def readLong (options : Options) (cs : List Char) : Except UsageError FlagEffect :=
  let name := String.ofList (cs.takeWhile (· != '='))
  match Flag.ofLong? name, cs.dropWhile (· != '=') with
  | none, _ => .error (.unknown ("--" ++ name))
  | some flag, [] => options.set flag
  | some .file, _ :: value => (options.setFile (String.ofList value)).map .settled
  | some flag, _ => .error (.valueUnexpected flag)

-- Reads arguments from the left; the first fault, or the flag for the version, decides. After `--`
-- every argument is a selector. A lone dash is a selector too, or a value; any other argument that
-- starts with a dash is neither.
def read (options : Options) (awaitsFile : Bool) : List String → Except UsageError Request
  | [] => if awaitsFile then .error (.valueMissing .file) else options.request
  | argument :: rest =>
    match awaitsFile, argument.toList with
    | true, '-' :: _ :: _ => .error (.valueMissing .file)
    | true, _ =>
      match options.setFile argument with
      | .ok named => named.read false rest
      | .error failure => .error failure
    | false, ['-', '-'] => { options with selectors := options.selectors ++ rest }.request
    | false, '-' :: c :: cs =>
      match if c = '-' then options.readLong cs else options.readShort (c :: cs) with
      | .ok (.settled changed) => changed.read false rest
      | .ok (.awaitsFile waiting) => waiting.read true rest
      | .ok .version => .ok .version
      | .error failure => .error failure
    | false, _ => { options with selectors := options.selectors ++ [argument] }.read false rest

end Options

def readArguments (arguments : List String) : Except UsageError Request :=
  ({} : Options).read false arguments

end CssSelectors.Cli
