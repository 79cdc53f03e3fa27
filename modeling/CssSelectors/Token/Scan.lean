import CssSelectors.Token.Basic
import CssSelectors.Token.Pattern

namespace CssSelectors

namespace Token

open Pattern

-- The scanner's rules. The longest match wins, and of two equally long ones the rule listed first.
def scanRules : List (Symbol × Pattern) := [
  (.space, nonempty spaces),
  (.includes, Pattern.literal "~="),
  (.dashMatch, Pattern.literal "|="),
  (.prefixMatch, Pattern.literal "^="),
  (.suffixMatch, Pattern.literal "$="),
  (.substringMatch, Pattern.literal "*="),
  (.ident, ident),
  (.string, string),
  (.function, followedBy ident (Pattern.literal "(")),
  (.number, number),
  (.hash, followedBy (Pattern.literal "#") name),
  (.plus, followedBy spaces (Pattern.literal "+")),
  (.greater, followedBy spaces (Pattern.literal ">")),
  (.comma, followedBy spaces (Pattern.literal ",")),
  (.tilde, followedBy spaces (Pattern.literal "~")),
  (.not, negation),
  (.atKeyword, followedBy (Pattern.literal "@") ident),
  (.invalid, unclosed),
  (.percentage, followedBy number (Pattern.literal "%")),
  (.dimension, followedBy number ident),
  (.cdo, Pattern.literal "<!--"),
  (.cdc, Pattern.literal "-->"),
  (.comment, comment)
]

-- A later candidate replaces the best one so far only if it is longer.
def better (best : Option (Symbol × Nat)) (name : Symbol) (found : Option Nat) :
    Option (Symbol × Nat) :=
  match found, best with
  | none, _ => best
  | some n, none => if 0 < n then some (name, n) else none
  | some n, some (_, longest) => if longest < n then some (name, n) else best

def longestMatch (cs : List Char) : Option (Symbol × Nat) :=
  scanRules.foldl (fun best rule => better best rule.1 (rule.2 cs)) none

-- The token at the front of a text, with the number of characters it covers. A character that no
-- rule matches stands for itself.
def scanFront (c : Char) (rest : List Char) : Token × Nat :=
  match longestMatch (c :: rest) with
  | some (name, n) => (.symbol name (String.ofList ((c :: rest).take n)), n)
  | none => (.literal c, 1)

def scan : List Char → Token
  | [] => .endOfText
  | c :: rest => (scanFront c rest).1

-- The tokens of a text with their offsets, counted from that of its front. Each token starts where
-- the one before it ended, and comments are tokens too.
def scanAll (offset : Nat) : List Char → List (Nat × Token)
  | [] => []
  | c :: rest =>
    let front := scanFront c rest
    (offset, front.1) :: scanAll (offset + front.1.byteLength) (rest.drop (front.2 - 1))
termination_by cs => cs.length
decreasing_by simp only [List.length_cons, List.length_drop]; omega

end Token

-- The tokenizer of the selector language. No token starts at or past the end of the text, nor inside
-- a character.
def tokenAt : Tokenizer := fun text offset =>
  match Text.dropBytes? offset text.toList with
  | some cs => Token.scan cs
  | none => .endOfText

def tokenize (text : String) : List (Nat × Token) := Token.scanAll 0 text.toList

end CssSelectors
