namespace CssSelectors

-- The named token classes of the selector scanner, in the order in which it lists their rules.
inductive Symbol where
  | space | includes | dashMatch | prefixMatch | suffixMatch | substringMatch
  | ident | string | function | number | hash
  | plus | greater | comma | tilde
  | not | atKeyword | invalid | percentage | dimension
  | cdo | cdc | comment
deriving DecidableEq, Repr

namespace Symbol

def all : List Symbol := [
  .space, .includes, .dashMatch, .prefixMatch, .suffixMatch, .substringMatch,
  .ident, .string, .function, .number, .hash,
  .plus, .greater, .comma, .tilde,
  .not, .atKeyword, .invalid, .percentage, .dimension,
  .cdo, .cdc, .comment
]

-- The name of a class as the grammar writes it.
def name : Symbol → String
  | .space => "S"
  | .includes => "INCLUDES"
  | .dashMatch => "DASHMATCH"
  | .prefixMatch => "PREFIXMATCH"
  | .suffixMatch => "SUFFIXMATCH"
  | .substringMatch => "SUBSTRINGMATCH"
  | .ident => "IDENT"
  | .string => "STRING"
  | .function => "FUNCTION"
  | .number => "NUMBER"
  | .hash => "HASH"
  | .plus => "PLUS"
  | .greater => "GREATER"
  | .comma => "COMMA"
  | .tilde => "TILDE"
  | .not => "NOT"
  | .atKeyword => "ATKEYWORD"
  | .invalid => "INVALID"
  | .percentage => "PERCENTAGE"
  | .dimension => "DIMENSION"
  | .cdo => "CDO"
  | .cdc => "CDC"
  | .comment => "COMMENT"

def ofName? (text : String) : Option Symbol := all.find? fun symbol => symbol.name == text

-- Comments carry no meaning for the grammar.
def isIgnorable (symbol : Symbol) : Bool := symbol == .comment

-- The classes that separate two compound selectors in the full selector language.
def isCombinator : Symbol → Bool
  | .space | .plus | .greater | .tilde => true
  | _ => false

theorem mem_all (symbol : Symbol) : symbol ∈ all := by cases symbol <;> decide

theorem ofName?_name (symbol : Symbol) : ofName? symbol.name = some symbol := by
  cases symbol <;> decide

theorem ofName?_eq_some_iff {text : String} {symbol : Symbol} :
    ofName? text = some symbol ↔ symbol.name = text := by
  constructor
  · intro found
    simpa using List.find?_some found
  · rintro rfl
    exact ofName?_name symbol

theorem name_injective {left right : Symbol} (same : left.name = right.name) : left = right := by
  have found := ofName?_name right
  rw [← same, ofName?_name] at found
  exact Option.some.inj found

end Symbol

end CssSelectors
