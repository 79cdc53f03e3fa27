import CssSelectors.Text.Offset
import CssSelectors.Text.Quoted
import CssSelectors.Token.Symbol

namespace CssSelectors

-- What a tokenizer reports at one position. Nothing here promises that a lexeme is non-empty or that
-- it is the text at that position: a tokenizer chosen by the caller may report anything.
inductive Token where
  | symbol (name : Symbol) (lexeme : String)
  | literal (c : Char)
  | endOfText
deriving DecidableEq, Repr

namespace Token

-- Bytes of text that a token covers.
def byteLength : Token → Nat
  | .symbol _ lexeme => lexeme.utf8ByteSize
  | .literal c => c.utf8Size
  | .endOfText => 0

def isEmpty (token : Token) : Bool := token.byteLength == 0

def isEnd (token : Token) : Bool := token == .endOfText

def symbol? : Token → Option Symbol
  | .symbol name _ => some name
  | _ => none

def lexeme? : Token → Option String
  | .symbol _ lexeme => some lexeme
  | _ => none

def isComment : Token → Bool
  | .symbol name _ => name.isIgnorable
  | _ => false

-- The form in which diagnostics and listings name a token.
def display : Token → String
  | .symbol name lexeme => name.name ++ " " ++ Text.quote lexeme
  | .literal c => String.ofList ['\'', c, '\'']
  | .endOfText => "<end>"

theorem byteLength_eq_zero {token : Token} :
    token.byteLength = 0 ↔ token = .endOfText ∨ ∃ name, token = .symbol name "" := by
  cases token with
  | symbol name lexeme => simp [byteLength]
  | literal c => simp [byteLength, Nat.ne_of_gt (Char.utf8Size_pos c)]
  | endOfText => simp [byteLength]

theorem isEnd_iff {token : Token} : token.isEnd = true ↔ token = .endOfText := by
  simp [isEnd]

end Token

-- A tokenizer reports the token that starts at a byte offset of a text.
abbrev Tokenizer := String → Nat → Token

end CssSelectors
