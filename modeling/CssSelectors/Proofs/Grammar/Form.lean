import CssSelectors.Proofs.Parser.Reading

namespace CssSelectors

-- A grammar over shapes whose alternatives have no order: a word has a form as soon as there is one
-- way to derive it. `notBefore` takes nothing and asks that another shape, or none, comes next.
inductive Form where
  | one (shape : Shape)
  | never
  | empty
  | notBefore (shape : Shape)
  | seq (first second : Form)
  | alt (first second : Form)
  | star (form : Form)
deriving DecidableEq, Repr

namespace Form

-- A derivation takes the front of a word and leaves the rest.
inductive Leaves : Form → List Shape → List Shape → Prop where
  | one {shape : Shape} {rest : List Shape} : Leaves (.one shape) (shape :: rest) rest
  | empty {rest : List Shape} : Leaves .empty rest rest
  | notBefore {shape : Shape} {rest : List Shape} (other : rest.head? ≠ some shape) :
      Leaves (.notBefore shape) rest rest
  | seq {first second : Form} {word middle rest : List Shape} (one : Leaves first word middle)
      (two : Leaves second middle rest) : Leaves (.seq first second) word rest
  | left {first second : Form} {word rest : List Shape} (one : Leaves first word rest) :
      Leaves (.alt first second) word rest
  | right {first second : Form} {word rest : List Shape} (two : Leaves second word rest) :
      Leaves (.alt first second) word rest
  | stop {form : Form} {rest : List Shape} : Leaves (.star form) rest rest
  | again {form : Form} {word middle rest : List Shape} (one : Leaves form word middle)
      (more : Leaves (.star form) middle rest) : Leaves (.star form) word rest

def any (forms : List Form) : Form := forms.foldr .alt .never

def inTurn (forms : List Form) : Form := forms.foldr .seq .empty

def optional (form : Form) : Form := .alt form .empty

def plus (form : Form) : Form := .seq form (.star form)

variable {form : Form} {forms : List Form} {word rest : List Shape}

theorem Leaves.any (present : form ∈ forms) (leaves : Leaves form word rest) :
    Leaves (any forms) word rest := by
  induction forms with
  | nil => cases present
  | cons other forms ih =>
      rcases List.mem_cons.mp present with same | later
      · exact .left (same ▸ leaves)
      · exact .right (ih later)

-- The grammar of selector groups. White space and combinators separate nothing: a selector is one
-- sequence of simple selectors.

def symbol (name : Symbol) : Form := .one (.symbol name)

def char (c : Char) : Form := .one (.literal c)

def spaces : Form := .star (symbol .space)

-- `(IDENT | '*')? '|'`
def prefixed : Form := inTurn [optional (any [symbol .ident, char '*']), char '|']

-- `prefixed? (IDENT | '*')`
def head : Form := inTurn [optional prefixed, any [symbol .ident, char '*']]

-- `'.' IDENT`
def ofClass : Form := inTurn [char '.', symbol .ident]

def operator : Form :=
  any [symbol .prefixMatch, symbol .suffixMatch, symbol .substringMatch, char '=',
    symbol .includes, symbol .dashMatch]

-- `operator S* (IDENT | STRING) S*`
def comparison : Form := inTurn [operator, spaces, any [symbol .ident, symbol .string], spaces]

-- `'[' S* prefixed? IDENT S* comparison? ']'`
def attrib : Form :=
  inTurn [char '[', spaces, optional prefixed, symbol .ident, spaces, optional comparison, char ']']

-- `(PLUS | '-' | DIMENSION | NUMBER | STRING | IDENT) S*`
def argument : Form :=
  inTurn [any [symbol .plus, char '-', symbol .dimension, symbol .number, symbol .string,
    symbol .ident], spaces]

-- `':' ':'? (IDENT | FUNCTION S* argument+ ')')`
def pseudo : Form :=
  inTurn [char ':', optional (char ':'),
    any [symbol .ident, inTurn [symbol .function, spaces, plus argument, char ')']]]

-- `NOT S* (head | HASH | ofClass | attrib | pseudo) S*`, unless `')'` comes next.
def negation : Form :=
  inTurn [symbol .not, spaces, any [head, symbol .hash, ofClass, attrib, pseudo], spaces,
    .notBefore (.literal ')')]

-- `HASH | ofClass | attrib | pseudo | negation`
def tail : Form := any [symbol .hash, ofClass, attrib, pseudo, negation]

-- `head tail* | tail+`
def sequence : Form := .alt (.seq head (.star tail)) (plus tail)

-- `sequence (COMMA S* sequence)*`
def group : Form := .seq sequence (.star (inTurn [symbol .comma, spaces, sequence]))

end Form

-- A sequence of shapes that a selector group may begin with.
def Viable (shapes : List Shape) : Prop := ∃ more, Form.group.Leaves (shapes ++ more) []

end CssSelectors
