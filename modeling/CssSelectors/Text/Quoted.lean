import CssSelectors.Text.GraphemeExtend
import CssSelectors.Text.Printable

namespace CssSelectors.Text

-- A quoted text stands between double quotes. Five characters have a short escape, with the
-- backslash itself; a character that would leave no mark of its own is written by its code point.
def escapeChar (c : Char) : List Char :=
  match c with
  | '\x00' => ['\\', '0']
  | '\t' => ['\\', 't']
  | '\n' => ['\\', 'n']
  | '\r' => ['\\', 'r']
  | '"' => ['\\', '"']
  | '\\' => ['\\', '\\']
  | c =>
    if isGraphemeExtend c || !isPrintable c then
      ['\\', 'u', '\x7b'] ++ Nat.toDigits 16 c.toNat ++ ['\x7d']
    else [c]

def escape (cs : List Char) : List Char := cs.flatMap escapeChar

def quote (text : String) : String := String.ofList ('"' :: escape text.toList ++ ['"'])

end CssSelectors.Text
