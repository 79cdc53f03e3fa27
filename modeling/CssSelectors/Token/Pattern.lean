namespace CssSelectors

-- A pattern of the scanner reads a text from its front. It reports how many characters it takes, or
-- nothing when the text does not start with it; taking no characters is a match of its own.
abbrev Pattern := List Char → Option Nat

namespace Pattern

def isSpace (c : Char) : Bool := c == ' ' || c == '\t' || c == '\r' || c == '\n' || c == '\x0c'

def isNewline (c : Char) : Bool := c == '\n' || c == '\r' || c == '\x0c'

def isHexDigit (c : Char) : Bool :=
  c.isDigit || ('a' ≤ c && c ≤ 'f') || ('A' ≤ c && c ≤ 'F')

def isNonAscii (c : Char) : Bool := 0x80 ≤ c.toNat

def isNameStart (c : Char) : Bool := c == '_' || c.isAlpha || isNonAscii c

def isNameChar (c : Char) : Bool := c == '-' || c == '_' || c.isAlphanum || isNonAscii c

-- The same ASCII letter in either case; other characters are only equal to themselves.
def sameLetter (left right : Char) : Bool := left.toLower == right.toLower

-- How many characters from the front satisfy a test.
def run (test : Char → Bool) (cs : List Char) : Nat := (cs.takeWhile test).length

def literal (expected : String) : Pattern := fun cs =>
  if expected.toList.isPrefixOf cs then some expected.length else none

-- One pattern directly after another.
def followedBy (first second : Pattern) : Pattern := fun cs =>
  match first cs with
  | none => none
  | some n => (second (cs.drop n)).map (n + ·)

-- A pattern that must take something.
def nonempty (pattern : Pattern) : Pattern := fun cs => (pattern cs).filter (0 < ·)

-- The unit pattern as often as it takes something, each time as much as it can.
def greedy (unit : Pattern) : List Char → Nat
  | [] => 0
  | c :: rest =>
    match unit (c :: rest) with
    | some (n + 1) => n + 1 + greedy unit (rest.drop n)
    | _ => 0
termination_by cs => cs.length
decreasing_by simp only [List.length_cons, List.length_drop]; omega

def spaces : Pattern := fun cs => some (run isSpace cs)

-- The single white space, or pair CR LF, that ends a hexadecimal escape and belongs to it.
def escapeEnd : List Char → Nat
  | '\r' :: '\n' :: _ => 2
  | c :: _ => if isSpace c then 1 else 0
  | [] => 0

-- A backslash with one to six hexadecimal digits, or with any character but a newline.
def escape : Pattern
  | '\\' :: rest =>
    match run isHexDigit (rest.take 6), rest with
    | 0, [] => none
    | 0, c :: _ => if isNewline c then none else some 2
    | n + 1, _ => some (n + 2 + escapeEnd (rest.drop (n + 1)))
  | _ => none

def nameStart : Pattern
  | [] => none
  | c :: rest => if isNameStart c then some 1 else escape (c :: rest)

def nameChar : Pattern
  | [] => none
  | c :: rest => if isNameChar c then some 1 else escape (c :: rest)

def nameTail : Pattern := fun cs => some (greedy nameChar cs)

def ident : Pattern
  | '-' :: rest => (followedBy nameStart nameTail rest).map (1 + ·)
  | cs => followedBy nameStart nameTail cs

def name : Pattern := nonempty nameTail

-- Digits, or digits with a point that has at least one digit after it.
def number : Pattern := fun cs =>
  let whole := run Char.isDigit cs
  match cs.drop whole with
  | '.' :: rest =>
    match run Char.isDigit rest with
    | 0 => if whole = 0 then none else some whole
    | n + 1 => some (whole + 1 + (n + 1))
  | _ => if whole = 0 then none else some whole

-- One piece of the body of a string: an escaped newline, an escape, or a character other than the
-- quotation mark, a newline and the backslash.
def quotedUnit (mark : Char) : Pattern
  | '\\' :: '\r' :: '\n' :: _ => some 3
  | '\\' :: c :: rest => if isNewline c then some 2 else escape ('\\' :: c :: rest)
  | c :: _ => if c == mark || c == '\\' || isNewline c then none else some 1
  | [] => none

-- A quotation mark with the body after it, and whether the closing mark follows.
def quoted : List Char → Option (Nat × Bool)
  | mark :: rest =>
    if mark == '"' || mark == '\'' then
      let body := greedy (quotedUnit mark) rest
      some (body + 1, (rest.drop body).head? == some mark)
    else none
  | [] => none

def string : Pattern := fun cs =>
  match quoted cs with
  | some (n, true) => some (n + 1)
  | _ => none

-- A string without its closing mark; a closed string has this form too, and is longer.
def unclosed : Pattern := fun cs => (quoted cs).map (·.1)

def commentEnd : Pattern
  | '*' :: '/' :: _ => some 2
  | _ :: rest => (commentEnd rest).map (1 + ·)
  | [] => none

def comment : Pattern := followedBy (literal "/*") commentEnd

-- A letter in either case, after a backslash or without, or as an escape by one of its two codes,
-- which at most four zeros may precede.
def letter (c : Char) (upperCode lowerCode : Char × Char) : Pattern
  | '\\' :: rest =>
    if (rest.head?.map (sameLetter c)).getD false then some 2
    else
      let zeros := run (· == '0') (rest.take 4)
      match rest.drop zeros with
      | high :: low :: after =>
        if (high, low.toLower) = upperCode || (high, low.toLower) = lowerCode then
          some (1 + zeros + 2 + escapeEnd after)
        else none
      | _ => none
  | d :: _ => if sameLetter c d then some 1 else none
  | [] => none

def negation : Pattern :=
  followedBy (literal ":") (followedBy (letter 'n' ('4', 'e') ('6', 'e'))
    (followedBy (letter 'o' ('4', 'f') ('6', 'f'))
      (followedBy (letter 't' ('5', '4') ('7', '4')) (literal "("))))

end Pattern

end CssSelectors
