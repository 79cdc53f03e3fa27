import CssSelectors.Token.Scan

-- The scanner as it works on the bytes of a text. An index past the end, a slice that cuts a character
-- and a loop that stays where it is are faults here; where a look at the text may fail, failing is no match.
namespace CssSelectors

inductive ScanFault where
  | outOfRange (position : Nat)
  | insideCharacter (position : Nat)
  | endless (position : Nat)
deriving DecidableEq, Repr

-- What comes of a step of the scanner.
inductive Probe (α : Type) where
  | found (value : α)
  | missed
  | failed (fault : ScanFault)
deriving DecidableEq, Repr

namespace Probe

variable {α β : Type}

def ofOption : Option α → Probe α
  | some value => .found value
  | none => .missed

def ofExcept : Except ScanFault α → Probe α
  | .ok value => .found value
  | .error fault => .failed fault

def toExcept : Probe α → Except ScanFault (Option α)
  | .found value => .ok (some value)
  | .missed => .ok none
  | .failed fault => .error fault

def bind (probe : Probe α) (next : α → Probe β) : Probe β :=
  match probe with
  | .found value => next value
  | .missed => .missed
  | .failed fault => .failed fault

instance : Monad Probe where
  pure := .found
  bind := bind

def orElse (first second : Probe α) : Probe α :=
  match first with
  | .missed => second
  | other => other

def filter (test : α → Bool) (probe : Probe α) : Probe α :=
  match probe with
  | .found value => if test value then .found value else .missed
  | other => other

end Probe

namespace Byte

def ofChar (c : Char) : UInt8 := UInt8.ofNat c.toNat

def isSpace (b : UInt8) : Bool :=
  b == ofChar ' ' || b == ofChar '\t' || b == ofChar '\r' || b == ofChar '\n' || b == ofChar '\x0c'

def isNewline (b : UInt8) : Bool := b == ofChar '\n' || b == ofChar '\r' || b == ofChar '\x0c'

def isDigit (b : UInt8) : Bool := ofChar '0' ≤ b && b ≤ ofChar '9'

def isAlpha (b : UInt8) : Bool :=
  (ofChar 'a' ≤ b && b ≤ ofChar 'z') || (ofChar 'A' ≤ b && b ≤ ofChar 'Z')

def isHexDigit (b : UInt8) : Bool :=
  isDigit b || (ofChar 'a' ≤ b && b ≤ ofChar 'f') || (ofChar 'A' ≤ b && b ≤ ofChar 'F')

def isNameStart (b : UInt8) : Bool := b == ofChar '_' || isAlpha b

def isNameChar (b : UInt8) : Bool := b == ofChar '-' || b == ofChar '_' || isAlpha b || isDigit b

-- A byte read as a character of its own.
def toChar (b : UInt8) : Char := Char.ofNat b.toNat

end Byte

-- How many bytes from the front satisfy a test.
def Byte.run (test : UInt8 → Bool) (bytes : List UInt8) : Nat := (bytes.takeWhile test).length

-- The byte offset at which one text first occurs in another.
def Text.find? (needle : List Char) : List Char → Option Nat
  | [] => if needle.isEmpty then some 0 else none
  | c :: rest =>
    if needle.isPrefixOf (c :: rest) then some 0 else (find? needle rest).map (c.utf8Size + ·)

-- The part of a text between two byte offsets, if both lie between characters.
def Text.between? (start stop : Nat) (cs : List Char) : Option (List Char) :=
  match dropBytes? start cs, dropBytes? stop cs with
  | some front, some back => if start ≤ stop then some (front.take (front.length - back.length)) else none
  | _, _ => none

-- A text with its bytes.
structure ByteScanner where
  text : String
  bytes : List UInt8

namespace ByteScanner

def on (text : String) : ByteScanner := ⟨text, text.toByteArray.data.toList⟩

variable (scanner : ByteScanner)

def byte? (p : Nat) : Option UInt8 := scanner.bytes[p]?

def bytesFrom? (p : Nat) : Option (List UInt8) :=
  if p ≤ scanner.bytes.length then some (scanner.bytes.drop p) else none

def bytesFrom (p : Nat) : Except ScanFault (List UInt8) :=
  match scanner.bytesFrom? p with
  | some bytes => .ok bytes
  | none => .error (.outOfRange p)

def charsFrom? (p : Nat) : Option (List Char) := Text.dropBytes? p scanner.text.toList

def charsFrom (p : Nat) : Except ScanFault (List Char) :=
  match scanner.charsFrom? p with
  | some cs => .ok cs
  | none => .error (.insideCharacter p)

def between? (start stop : Nat) : Option (List Char) := Text.between? start stop scanner.text.toList

def between (start stop : Nat) : Except ScanFault (List Char) :=
  match scanner.between? start stop with
  | some cs => .ok cs
  | none => .error (.insideCharacter stop)

def literal? (p : Nat) (expected : String) : Option Nat :=
  ((scanner.bytesFrom? p).filter (expected.toByteArray.data.toList.isPrefixOf ·)).map
    fun _ => expected.utf8ByteSize

def literal (p : Nat) (expected : String) : Probe Nat := .ofOption (scanner.literal? p expected)

-- The bytes matched so far, with what is expected behind them.
def thenLiteral (p n : Nat) (expected : String) : Probe Nat := do
  let m ← scanner.literal (p + n) expected
  pure (n + m)

def whitespace (p : Nat) : Probe Nat := do
  let bytes ← .ofOption (scanner.bytesFrom? p)
  pure (Byte.run Byte.isSpace bytes)

def afterWhitespace (p : Nat) (delimiter : String) : Probe Nat := do
  let n ← scanner.whitespace p
  scanner.thenLiteral p n delimiter

def charAt (p : Nat) : Probe Char := do
  let cs ← .ofOption (scanner.charsFrom? p)
  .ofOption cs.head?

def nonAscii (p : Nat) : Probe Nat := do
  let b ← .ofOption (scanner.byte? p)
  if b < 0x80 then .missed
  else do
    let c ← scanner.charAt p
    pure c.utf8Size

-- The pair CR LF, or a single byte that passes a test.
def lineEnding (test : UInt8 → Bool) (p : Nat) : Option Nat :=
  if (scanner.literal? p "\r\n").isSome then some 2
  else if (scanner.byte? p).any test then some 1
  else none

-- The bytes of white space that belong to a hexadecimal escape before them.
def escapeEnd (p : Nat) : Nat := (scanner.lineEnding Byte.isSpace p).getD 0

def escape (p : Nat) : Probe Nat := do
  let b ← .ofOption (scanner.byte? p)
  if b ≠ Byte.ofChar '\\' then .missed
  else do
    let behind ← .ofExcept (scanner.bytesFrom (p + 1))
    let hex := Byte.run Byte.isHexDigit (behind.take 6)
    if 0 < hex then pure (1 + hex + scanner.escapeEnd (p + 1 + hex))
    else do
      let c ← scanner.charAt (p + 1)
      if Pattern.isNewline c then .missed else pure (1 + c.utf8Size)

-- A byte that passes a test, a character that is not ASCII, or an escape.
def nameUnit (test : UInt8 → Bool) (p : Nat) : Probe Nat := do
  let b ← .ofOption (scanner.byte? p)
  if test b then pure 1 else (scanner.nonAscii p).orElse (scanner.escape p)

def nameStart (p : Nat) : Probe Nat := scanner.nameUnit Byte.isNameStart p

def nameChar (p : Nat) : Probe Nat := scanner.nameUnit Byte.isNameChar p

def nameTail (p : Nat) : Probe Nat :=
  match scanner.nameChar p with
  | .found n =>
    if scanner.bytes.length - (p + n) < scanner.bytes.length - p then do
      let more ← nameTail (p + n)
      pure (n + more)
    else .failed (.endless p)
  | .missed => .found 0
  | .failed fault => .failed fault
termination_by scanner.bytes.length - p

def ident (p : Nat) : Probe Nat := do
  let dash := if scanner.byte? p = some (Byte.ofChar '-') then 1 else 0
  let start ← scanner.nameStart (p + dash)
  let more ← scanner.nameTail (p + (dash + start))
  pure (dash + start + more)

def name (p : Nat) : Probe Nat := (scanner.nameTail p).filter (0 < ·)

def digits (p : Nat) : Nat :=
  match scanner.bytesFrom? p with
  | some bytes => Byte.run Byte.isDigit bytes
  | none => 0

def number (p : Nat) : Probe Nat :=
  let whole := scanner.digits p
  let fraction := scanner.digits (p + whole + 1)
  if scanner.byte? (p + whole) = some (Byte.ofChar '.') ∧ 0 < fraction then .found (whole + 1 + fraction)
  else if 0 < whole then .found whole
  else .missed

-- An escaped newline, or an escape.
def quotedEscape (p : Nat) : Probe Nat :=
  (Probe.ofOption ((scanner.lineEnding Byte.isNewline (p + 1)).map (1 + ·))).orElse (scanner.escape p)

-- The next piece of the body of a string; none where the body ends.
def quotedPiece (mark b : UInt8) (p : Nat) : Probe (Option Nat) :=
  if Byte.isNewline b || b == mark then .found none
  else if b = Byte.ofChar '\\' then
    match scanner.quotedEscape p with
    | .found n => .found (some n)
    | .missed => .found none
    | .failed fault => .failed fault
  else do
    let c ← scanner.charAt p
    pure (some c.utf8Size)

-- The body of a string with its closing mark, and whether there is one.
def quotedBody (mark : UInt8) (p : Nat) : Probe (Nat × Bool) :=
  match scanner.byte? p with
  | none => .found (0, false)
  | some b =>
    match scanner.quotedPiece mark b p with
    | .found (some n) =>
      if scanner.bytes.length - (p + n) < scanner.bytes.length - p then do
        let more ← quotedBody mark (p + n)
        pure (n + more.1, more.2)
      else .failed (.endless p)
    | .found none => .found (if b == mark then (1, true) else (0, false))
    | .missed => .missed
    | .failed fault => .failed fault
termination_by scanner.bytes.length - p

def quoted (p : Nat) : Probe (Nat × Bool) := do
  let mark ← .ofOption (scanner.byte? p)
  if mark = Byte.ofChar '"' ∨ mark = Byte.ofChar '\'' then do
    let body ← scanner.quotedBody mark (p + 1)
    pure (1 + body.1, body.2)
  else .missed

def string (p : Nat) : Probe Nat := do
  let body ← scanner.quoted p
  if body.2 then pure body.1 else .missed

def unclosed (p : Nat) : Probe Nat := do
  let body ← scanner.quoted p
  pure (if body.2 then body.1 - 1 else body.1)

def comment (p : Nat) : Probe Nat := do
  let n ← scanner.literal p "/*"
  let body ← .ofOption (scanner.charsFrom? (p + n))
  let stop ← .ofOption (Text.find? ['*', '/'] body)
  pure (n + stop + 2)

-- The same text but for the case of ASCII letters.
def sameText (left right : List Char) : Bool := left.map Char.toLower == right.map Char.toLower

-- The hexadecimal code of a letter in either case, with what ends the escape.
def letterCode (p : Nat) (c : Char) : Probe Nat := do
  let code ← .ofOption (scanner.between? p (p + 2))
  if sameText code (Nat.toDigits 16 c.toUpper.toNat) || sameText code (Nat.toDigits 16 c.toLower.toNat)
  then pure (2 + scanner.escapeEnd (p + 2))
  else .missed

def letter (p : Nat) (c : Char) : Probe Nat := do
  let b ← .ofOption (scanner.byte? p)
  if Pattern.sameLetter (Byte.toChar b) c then pure 1
  else if b ≠ Byte.ofChar '\\' then .missed
  else if (scanner.byte? (p + 1)).any (fun next => Pattern.sameLetter (Byte.toChar next) c) &&
      !Pattern.isHexDigit c then pure 2
  else do
    let behind ← .ofExcept (scanner.bytesFrom (p + 1))
    let zeros := Byte.run (· == Byte.ofChar '0') (behind.take 4)
    let n ← scanner.letterCode (p + 1 + zeros) c
    pure (1 + zeros + n)

def letters (p : Nat) : List Char → Probe Nat
  | [] => pure 0
  | c :: rest => do
    let n ← scanner.letter p c
    let more ← letters (p + n) rest
    pure (n + more)

def negation (p : Nat) : Probe Nat := do
  let n ← scanner.literal p ":"
  let m ← scanner.letters (p + n) ['n', 'o', 't']
  scanner.thenLiteral p (n + m) "("

def rules : List (Symbol × (ByteScanner → Nat → Probe Nat)) := [
  (.space, fun s p => (s.whitespace p).filter (0 < ·)),
  (.includes, fun s p => s.literal p "~="),
  (.dashMatch, fun s p => s.literal p "|="),
  (.prefixMatch, fun s p => s.literal p "^="),
  (.suffixMatch, fun s p => s.literal p "$="),
  (.substringMatch, fun s p => s.literal p "*="),
  (.ident, ident),
  (.string, string),
  (.function, fun s p => do
    let n ← s.ident p
    s.thenLiteral p n "("),
  (.number, number),
  (.hash, fun s p => do
    let n ← s.literal p "#"
    let m ← s.name (p + n)
    pure (n + m)),
  (.plus, fun s p => s.afterWhitespace p "+"),
  (.greater, fun s p => s.afterWhitespace p ">"),
  (.comma, fun s p => s.afterWhitespace p ","),
  (.tilde, fun s p => s.afterWhitespace p "~"),
  (.not, negation),
  (.atKeyword, fun s p => do
    let n ← s.literal p "@"
    let m ← s.ident (p + n)
    pure (n + m)),
  (.invalid, unclosed),
  (.percentage, fun s p => do
    let n ← s.number p
    s.thenLiteral p n "%"),
  (.dimension, fun s p => do
    let n ← s.number p
    let m ← s.ident (p + n)
    pure (n + m)),
  (.cdo, fun s p => s.literal p "<!--"),
  (.cdc, fun s p => s.literal p "-->"),
  (.comment, comment)
]

-- The longest match of some rules, the first one among equals.
def longest (rules : List (Symbol × (ByteScanner → Nat → Probe Nat))) (p : Nat) :
    Except ScanFault (Option (Symbol × Nat)) :=
  rules.foldlM (fun best rule => do
    let found ← (rule.2 scanner p).toExcept
    pure (Token.better best rule.1 found)) none

end ByteScanner

def byteTokenAt (text : String) (offset : Nat) : Except ScanFault Token :=
  if text.utf8ByteSize ≤ offset ∨ ¬ String.Pos.Raw.isValid text ⟨offset⟩ then .ok .endOfText
  else do
    let scanner := ByteScanner.on text
    match ← scanner.longest ByteScanner.rules offset with
    | some (name, n) => do
      let lexeme ← scanner.between offset (offset + n)
      pure (.symbol name (String.ofList lexeme))
    | none => do
      let cs ← scanner.charsFrom offset
      pure ((cs.head?.map .literal).getD .endOfText)

-- The tokens from an offset on. A token without length would be reported for ever.
def byteTokensFrom (text : String) (offset : Nat) : Except ScanFault (List (Nat × Token)) :=
  match byteTokenAt text offset with
  | .error fault => .error fault
  | .ok token =>
    if token.isEnd then .ok []
    else if text.utf8ByteSize - (offset + token.byteLength) < text.utf8ByteSize - offset then
      (byteTokensFrom text (offset + token.byteLength)).map ((offset, token) :: ·)
    else .error (.endless offset)
termination_by text.utf8ByteSize - offset

def byteTokenize (text : String) : Except ScanFault (List (Nat × Token)) := byteTokensFrom text 0

end CssSelectors
