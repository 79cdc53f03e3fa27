import CssSelectors.Cli.Listing
import CssSelectors.Text.Lines
import Mathlib.Data.List.Basic

-- A listing is read back, token by token.
namespace CssSelectors.Cli

variable {rest : List Char}

-- What is behind a text, where it stands.
def skip (text : String) (cs : List Char) : Option (List Char) := text.toList.isPrefixOf? cs

theorem skip_append (text : String) (rest : List Char) : skip text (text.toList ++ rest) = some rest :=
  List.isPrefixOf?_eq_some_iff_append_eq.mpr rfl

def readNumber (cs : List Char) : Nat × List Char :=
  (Nat.ofDigitChars 10 (cs.takeWhile Char.isDigit) 0, cs.dropWhile Char.isDigit)

-- A number is read up to the first character that is no digit.
theorem readNumber_append (n : Nat) (ended : ∀ c ∈ rest.head?, c.isDigit = false) :
    readNumber ((toString n).toList ++ rest) = (n, rest) := by
  have shown : (toString n).toList = Nat.toDigits 10 n := by
    rw [Nat.toString_eq_ofList_toDigits, String.toList_ofList]
  have digits : ∀ c ∈ Nat.toDigits 10 n, c.isDigit = true := fun c member =>
    Nat.isDigit_of_mem_toDigits (by decide) (by decide) member
  have front : rest.takeWhile Char.isDigit = [] ∧ rest.dropWhile Char.isDigit = rest := by
    cases rest with
    | nil => exact ⟨rfl, rfl⟩
    | cons c others =>
        have stop := ended c rfl
        exact ⟨by simp [stop], by simp [stop]⟩
  rw [readNumber, shown, List.takeWhile_append_of_pos digits, List.dropWhile_append_of_pos digits, front.1,
    front.2, List.append_nil, Nat.ofDigitChars_ten_toDigits]

def readHex (c : Char) : Nat := (List.range 16).findIdx fun n => Nat.digitChar n == c

theorem readHex_digitChar {n : Nat} (below : n < 16) : readHex (Nat.digitChar n) = n := by
  have all : ∀ n < 16, readHex (Nat.digitChar n) = n := by decide
  exact all n below

-- What a letter behind a backslash stands for.
def unescape : Char → Char
  | 'b' => '\x08'
  | 'f' => '\x0c'
  | 'n' => '\n'
  | 'r' => '\r'
  | 't' => '\t'
  | c => c

-- The characters up to the quote that closes a string.
def readChars : List Char → Option (List Char × List Char)
  | [] => none
  | '"' :: rest => some ([], rest)
  | '\\' :: 'u' :: _ :: _ :: high :: low :: rest =>
    (readChars rest).map fun read => (Char.ofNat (16 * readHex high + readHex low) :: read.1, read.2)
  | '\\' :: c :: rest => (readChars rest).map fun read => (unescape c :: read.1, read.2)
  | c :: rest => (readChars rest).map fun read => (c :: read.1, read.2)

theorem readChars_jsonChar (c : Char) (rest : List Char) :
    readChars (jsonChar c ++ rest) = (readChars rest).map fun read => (c :: read.1, read.2) := by
  unfold jsonChar
  split
  case h_8 quote backslash _ _ _ _ _ =>
    split
    · rename_i control
      have code : 16 * readHex (Nat.digitChar (c.toNat / 16)) + readHex (Nat.digitChar (c.toNat % 16)) =
          c.toNat := by
        rw [readHex_digitChar (by omega), readHex_digitChar (by omega)]
        omega
      show (readChars rest).map (fun read => (Char.ofNat _ :: read.1, read.2)) = _
      rw [code, Char.ofNat_toNat]
    · exact readChars.eq_5 c rest quote (fun _ _ _ _ _ same _ => backslash same) fun _ _ same _ => backslash same
  all_goals rfl

theorem readChars_append (cs rest : List Char) :
    readChars (cs.flatMap jsonChar ++ '"' :: rest) = some (cs, rest) := by
  induction cs with
  | nil => rfl
  | cons c cs ih => rw [List.flatMap_cons, List.append_assoc, readChars_jsonChar, ih, Option.map_some]

def readString : List Char → Option (String × List Char)
  | '"' :: cs => (readChars cs).map fun read => (String.ofList read.1, read.2)
  | _ => none

theorem readString_append (text : String) (rest : List Char) :
    readString ((jsonString text).toList ++ rest) = some (text, rest) := by
  have shape : (jsonString text).toList ++ rest = '"' :: (text.toList.flatMap jsonChar ++ '"' :: rest) := by
    simp [jsonString]
  rw [shape, readString, readChars_append, Option.map_some, String.ofList_toList]

-- The members of a token's object, with the line end behind them.
def readToken (cs : List Char) : Option (Token × List Char) := do
  let cs ← skip "      \"kind\": " cs
  let (kind, cs) ← readString cs
  if kind = "symbol" then
    let cs ← skip ",\n      \"value\": \x7b\n        \"lexeme\": " cs
    let (lexeme, cs) ← readString cs
    let cs ← skip ",\n        \"name\": " cs
    let (name, cs) ← readString cs
    let symbol ← Symbol.ofName? name
    let cs ← skip "\n      \x7d\n" cs
    some (.symbol symbol lexeme, cs)
  else if kind = "literal" then
    let cs ← skip ",\n      \"value\": " cs
    let (value, cs) ← readString cs
    let c ← value.toList.head?
    let cs ← skip "\n" cs
    some (.literal c, cs)
  else
    let cs ← skip "\n" cs
    some (.endOfText, cs)

theorem readToken_append (token : Token) (rest : List Char) :
    readToken ((Text.unlines (jsonToken token)).toList ++ rest) = some (token, rest) := by
  cases token with
  | symbol name lexeme =>
      have kind : jsonString "symbol" = "\"symbol\"" := by decide
      have shape : (Text.unlines (jsonToken (.symbol name lexeme))).toList ++ rest =
          "      \"kind\": ".toList ++ ((jsonString "symbol").toList ++
            (",\n      \"value\": \x7b\n        \"lexeme\": ".toList ++ ((jsonString lexeme).toList ++
              (",\n        \"name\": ".toList ++ ((jsonString name.name).toList ++
                ("\n      \x7d\n".toList ++ rest)))))) := by
        simp [Text.unlines, jsonToken, kind]
      rw [shape, readToken]
      simp only [skip_append, readString_append, Symbol.ofName?_name, Option.bind_eq_bind, Option.bind_some]
      rfl
  | literal c =>
      have kind : jsonString "literal" = "\"literal\"" := by decide
      have shape : (Text.unlines (jsonToken (.literal c))).toList ++ rest =
          "      \"kind\": ".toList ++ ((jsonString "literal").toList ++
            (",\n      \"value\": ".toList ++ ((jsonString (String.ofList [c])).toList ++
              ("\n".toList ++ rest)))) := by
        simp [Text.unlines, jsonToken, kind]
      rw [shape, readToken]
      simp only [skip_append, readString_append, String.toList_ofList, List.head?_cons, Option.bind_eq_bind,
        Option.bind_some]
      rfl
  | endOfText =>
      have kind : jsonString "end" = "\"end\"" := by decide
      have shape : (Text.unlines (jsonToken .endOfText)).toList ++ rest =
          "      \"kind\": ".toList ++ ((jsonString "end").toList ++ ("\n".toList ++ rest)) := by
        simp [Text.unlines, jsonToken, kind]
      rw [shape, readToken]
      simp only [skip_append, readString_append, Option.bind_eq_bind, Option.bind_some]
      rfl

-- A token with its offset, up to the line that closes its object.
def readItem (cs : List Char) : Option ((Nat × Token) × List Char) := do
  let cs ← skip "  \x7b\n    \"offset\": " cs
  let (offset, cs) := readNumber cs
  let cs ← skip ",\n    \"token\": \x7b\n" cs
  let (token, cs) ← readToken cs
  let cs ← skip "    \x7d\n" cs
  some ((offset, token), cs)

theorem readItem_append (offset : Nat) (token : Token) (close : String) (rest : List Char) :
    readItem ((Text.unlines (jsonItem offset token close)).toList ++ rest) =
      some ((offset, token), close.toList ++ '\n' :: rest) := by
  have shape : (Text.unlines (jsonItem offset token close)).toList ++ rest =
      "  \x7b\n    \"offset\": ".toList ++ ((toString offset).toList ++
        (",\n    \"token\": \x7b\n".toList ++ ((Text.unlines (jsonToken token)).toList ++
          ("    \x7d\n".toList ++ (close.toList ++ '\n' :: rest))))) := by
    simp [Text.unlines, jsonItem]
  have ended : ∀ c ∈ (",\n    \"token\": \x7b\n".toList ++ ((Text.unlines (jsonToken token)).toList ++
      ("    \x7d\n".toList ++ (close.toList ++ '\n' :: rest)))).head?, c.isDigit = false := by
    rintro c ⟨⟩
    rfl
  rw [shape, readItem]
  simp only [skip_append, readNumber_append offset ended, readToken_append, Option.bind_eq_bind, Option.bind_some]

-- The elements of a list, up to the line that closes it.
def readItems (cs : List Char) : Option (List (Nat × Token)) :=
  match readItem cs with
  | none => none
  | some (item, after) =>
    match skip "  \x7d,\n" after with
    | none => if after = "  \x7d\n]\n".toList then some [item] else none
    | some behind => if behind.length < cs.length then (readItems behind).map (item :: ·) else none
termination_by cs.length

theorem readItems_last (offset : Nat) (token : Token) :
    readItems ((Text.unlines (jsonItem offset token "  \x7d")).toList ++ "]\n".toList) =
      some [(offset, token)] := by
  rw [readItems, readItem_append]
  rfl

theorem readItems_next (offset : Nat) (token : Token) (rest : List Char) :
    readItems ((Text.unlines (jsonItem offset token "  \x7d,")).toList ++ rest) =
      (readItems rest).map ((offset, token) :: ·) := by
  have separated : skip "  \x7d,\n" ("  \x7d,".toList ++ '\n' :: rest) = some rest := rfl
  have shorter : rest.length < ((Text.unlines (jsonItem offset token "  \x7d,")).toList ++ rest).length := by
    rw [List.length_append]
    exact Nat.lt_add_of_pos_left (by simp [Text.unlines, jsonItem])
  rw [readItems, readItem_append]
  simp only [separated, if_pos shorter]

theorem readItems_append (tokens : List (Nat × Token)) (some_token : tokens ≠ []) :
    readItems ((Text.unlines (jsonItems tokens)).toList ++ "]\n".toList) = some tokens := by
  induction tokens with
  | nil => exact absurd rfl some_token
  | cons token tokens ih =>
      cases tokens with
      | nil => exact readItems_last token.1 token.2
      | cons next others =>
          have split : jsonItems (token :: next :: others) =
              jsonItem token.1 token.2 "  \x7d," ++ jsonItems (next :: others) := rfl
          rw [split, Text.unlines_append, String.toList_append, List.append_assoc, readItems_next,
            ih (List.cons_ne_nil _ _)]
          rfl

-- Reads a listing.
def readListing (text : String) : Option (List (Nat × Token)) :=
  match skip "[\n" text.toList with
  | some cs => readItems cs
  | none => if text = "[]\n" then some [] else none

-- No two lists of tokens are listed in the same way, whatever their lexemes hold.
theorem readListing_unlines (tokens : List (Nat × Token)) :
    readListing (Text.unlines (jsonListing tokens)) = some tokens := by
  cases tokens with
  | nil => rfl
  | cons token tokens =>
      have shape : (Text.unlines (jsonListing (token :: tokens))).toList =
          "[\n".toList ++ ((Text.unlines (jsonItems (token :: tokens))).toList ++ "]\n".toList) := by
        have lines : jsonListing (token :: tokens) = ["["] ++ (jsonItems (token :: tokens) ++ ["]"]) := rfl
        rw [lines, Text.unlines_append, Text.unlines_append, String.toList_append, String.toList_append]
        rfl
      rw [readListing, shape, skip_append]
      exact readItems_append _ (List.cons_ne_nil _ _)

end CssSelectors.Cli
