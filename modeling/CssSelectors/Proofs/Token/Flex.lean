import CssSelectors.Token.Basic
import Mathlib.Computability.Language

open scoped Computability

-- The scanner's rules as regular languages, and what it means to scan by such rules. The scanner is
-- caseless: a character belongs to a class if its lower case does.
namespace CssSelectors.Flex

def oneOf (test : Char → Bool) : Language Char := {word | ∃ c, word = [c] ∧ test c.toLower = true}

def noneOf (test : Char → Bool) : Language Char := oneOf fun c => !test c

def text (lower : String) : Language Char := {word | word.map Char.toLower = lower.toList}

def optional (language : Language Char) : Language Char := language + 1

def plus (language : Language Char) : Language Char := language * language∗

def between (least most : Nat) (language : Language Char) : Language Char :=
  {word | ∃ count, least ≤ count ∧ count ≤ most ∧ word ∈ language ^ count}

def isBlank (c : Char) : Bool := c ∈ [' ', '\t', '\r', '\n', '\x0c']

def isLineEnd (c : Char) : Bool := c ∈ ['\n', '\r', '\x0c']

def isHex (c : Char) : Bool := c.isDigit || ('a' ≤ c && c ≤ 'f')

-- `w  [ \t\r\n\f]*`
def blanks : Language Char := (oneOf isBlank)∗

-- `nonascii  [^\0-\177]`
def nonascii : Language Char := oneOf fun c => 0x80 ≤ c.toNat

-- `(\r\n|[ \n\r\t\f])?`
def escapeEnd : Language Char := optional (text "\r\n" + oneOf isBlank)

-- `unicode  \\[0-9a-f]{1,6}(\r\n|[ \n\r\t\f])?`
def unicode : Language Char := text "\\" * between 1 6 (oneOf isHex) * escapeEnd

-- `escape  {unicode}|\\[^\n\r\f0-9a-f]`
def escape : Language Char := unicode + text "\\" * noneOf fun c => isLineEnd c || isHex c

-- `nmstart  [_a-z]|{nonascii}|{escape}`
def nmstart : Language Char := oneOf (fun c => c == '_' || ('a' ≤ c && c ≤ 'z')) + nonascii + escape

-- `nmchar  [_a-z0-9-]|{nonascii}|{escape}`
def nmchar : Language Char :=
  oneOf (fun c => c == '_' || ('a' ≤ c && c ≤ 'z') || c.isDigit || c == '-') + nonascii + escape

-- `ident  [-]?{nmstart}{nmchar}*`
def ident : Language Char := optional (text "-") * (nmstart * nmchar∗)

-- `name  {nmchar}+`
def name : Language Char := plus nmchar

def digit : Language Char := oneOf Char.isDigit

-- `num  [0-9]+|[0-9]*\.[0-9]+`
def num : Language Char := plus digit + digit∗ * (text "." * plus digit)

-- `nl  \n|\r\n|\r|\f`
def nl : Language Char := text "\n" + text "\r\n" + text "\r" + text "\x0c"

-- `([^\n\r\f\\"]|\\{nl}|{escape})*`, and the same for the other quotation mark.
def piece (mark : Char) : Language Char :=
  noneOf (fun c => isLineEnd c || c == '\\' || c == mark) + text "\\" * nl + escape

def body (mark : Char) : Language Char := (piece mark)∗

-- `string  {string1}|{string2}`
def string : Language Char :=
  text "\"" * (body '"' * text "\"") + text "'" * (body '\'' * text "'")

-- `invalid  {invalid1}|{invalid2}`
def invalid : Language Char := text "\"" * body '"' + text "'" * body '\''

-- `N  n|\\0{0,4}(4e|6e)(\r\n|[ \t\r\n\f])?|\\n`, and so for `O` and `T`.
def letter (itself escaped upperCode lowerCode : String) : Language Char :=
  text itself + text "\\" * (between 0 4 (text "0") * ((text upperCode + text lowerCode) * escapeEnd)) +
    text escaped

def negation : Language Char :=
  text ":" * (letter "n" "\\n" "4e" "6e" * (letter "o" "\\o" "4f" "6f" *
    (letter "t" "\\t" "54" "74" * text "(")))

-- The rules in order, but for what a comment is.
def rulesWith (comment : Language Char) : List (Symbol × Language Char) := [
  (.space, plus (oneOf isBlank)),
  (.includes, text "~="),
  (.dashMatch, text "|="),
  (.prefixMatch, text "^="),
  (.suffixMatch, text "$="),
  (.substringMatch, text "*="),
  (.ident, ident),
  (.string, string),
  (.function, ident * text "("),
  (.number, num),
  (.hash, text "#" * name),
  (.plus, blanks * text "+"),
  (.greater, blanks * text ">"),
  (.comma, blanks * text ","),
  (.tilde, blanks * text "~"),
  (.not, negation),
  (.atKeyword, text "@" * ident),
  (.invalid, invalid),
  (.percentage, num * text "%"),
  (.dimension, num * ident),
  (.cdo, text "<!--"),
  (.cdc, text "-->"),
  (.comment, comment)
]

-- `\/\*[^*]*\*+([^/*][^*]*)*\/`, as it is written down. No star may come after the first run of them
-- but at the end.
def writtenComment : Language Char :=
  text "/*" * ((noneOf (· == '*'))∗ * (plus (text "*") *
    ((noneOf (fun c => c == '/' || c == '*') * (noneOf (· == '*'))∗)∗ * text "/")))

-- `/* ... */`, where the first `*/` behind the opening is the end.
def comment : Language Char :=
  {word | ∃ inside, word = '/' :: '*' :: (inside ++ ['*', '/']) ∧ ¬ ['*', '/'] <:+: inside ++ ['*']}

-- A rule takes the front of a text, and not nothing.
structure Takes (rules : List (Symbol × Language Char)) (cs : List Char) (index : Nat)
    (name : Symbol) (lexeme : List Char) : Prop where
  rule : ∃ language, rules[index]? = some (name, language) ∧ lexeme ∈ language
  front : lexeme <+: cs
  solid : lexeme ≠ []

-- The token at the front of a text: the longest that any rule takes, by the first of the rules that
-- take as much; or else the first character.
inductive Gives (rules : List (Symbol × Language Char)) (cs : List Char) : Token → Prop where
  | symbol {index : Nat} {name : Symbol} {lexeme : List Char}
      (takes : Takes rules cs index name lexeme)
      (best : ∀ other symbol word, Takes rules cs other symbol word →
        word.length < lexeme.length ∨ (word.length = lexeme.length ∧ index ≤ other)) :
      Gives rules cs (.symbol name (String.ofList lexeme))
  | literal {c : Char} {rest : List Char} (first : cs = c :: rest)
      (none : ∀ other symbol word, ¬ Takes rules cs other symbol word) :
      Gives rules cs (.literal c)

end CssSelectors.Flex
