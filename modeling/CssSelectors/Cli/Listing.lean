import CssSelectors.Cursor.Tokens
import CssSelectors.Grammar.Error
import CssSelectors.Text.Terminal

namespace CssSelectors.Cli

-- The tokens of a text with their offsets, with comments or without.
def listTokens (text : String) (comments : Bool) : Except SelectorError (List (Nat × Token)) :=
  let cursor := ((Cursor.on tokenAt).ignoringComments (!comments)).load text
  match cursor.tokens.drain? with
  | none => .error (.endless cursor.size)
  | some (items, _) =>
    match items.mapM id with
    | .ok tokens => .ok tokens
    | .error malformed => .error (.malformed malformed)

-- A number in at least four columns.
def column (n : Nat) : String :=
  let digits := toString n
  String.ofList (List.replicate (4 - digits.length) ' ') ++ digits

-- The text itself as a heading, and a line for each token.
def plainListing (text : String) (tokens : List (Nat × Token)) : List String :=
  Text.bold text :: tokens.map fun (offset, token) => "  " ++ column offset ++ "  " ++ token.display

-- A character inside a JSON string. Only quotes, backslashes and control characters are escaped.
def jsonChar (c : Char) : List Char :=
  match c with
  | '"' => ['\\', '"']
  | '\\' => ['\\', '\\']
  | '\x08' => ['\\', 'b']
  | '\x0c' => ['\\', 'f']
  | '\n' => ['\\', 'n']
  | '\r' => ['\\', 'r']
  | '\t' => ['\\', 't']
  | c =>
    if c.toNat < 0x20 then
      ['\\', 'u', '0', '0', Nat.digitChar (c.toNat / 16), Nat.digitChar (c.toNat % 16)]
    else [c]

def jsonString (text : String) : String :=
  String.ofList ('"' :: text.toList.flatMap jsonChar ++ ['"'])

-- The members of a token's JSON object, with its kind first and a comma between them.
def jsonToken : Token → List String
  | .symbol name lexeme => [
      "      \"kind\": \"symbol\",",
      "      \"value\": \x7b",
      "        \"lexeme\": " ++ jsonString lexeme ++ ",",
      "        \"name\": " ++ jsonString name.name,
      "      \x7d"]
  | .literal c => [
      "      \"kind\": \"literal\",",
      "      \"value\": " ++ jsonString (String.ofList [c])]
  | .endOfText => ["      \"kind\": \"end\""]

-- A token with its offset, as the lines of one element of a JSON list.
def jsonItem (offset : Nat) (token : Token) (close : String) : List String :=
  ["  \x7b", "    \"offset\": " ++ toString offset ++ ",", "    \"token\": \x7b"] ++
    jsonToken token ++ ["    \x7d", close]

def jsonItems : List (Nat × Token) → List String
  | [] => []
  | [(offset, token)] => jsonItem offset token "  \x7d"
  | (offset, token) :: rest => jsonItem offset token "  \x7d," ++ jsonItems rest

-- The tokens as a JSON list, indented by two columns a level. Members stand in the order of their
-- names.
def jsonListing (tokens : List (Nat × Token)) : List String :=
  if tokens.isEmpty then ["[]"] else "[" :: jsonItems tokens ++ ["]"]

end CssSelectors.Cli
