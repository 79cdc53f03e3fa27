import CssSelectors.Grammar.Phrase

-- The productions of the grammar of selector groups, each above those that use it. Combinators are
-- named by the grammar and match nothing, so a selector is one sequence of simple selectors.
namespace CssSelectors.Phrase

def namespaceName : List Phrase := [.symbol .ident, .char '*']

-- `[ IDENT | '*' ]? '|'`
def namespacePrefix : Phrase :=
  .production .namespacePrefix (.both (.optional (choice namespaceName)) (.char '|'))

-- `IDENT`
def elementName : Phrase := .production .elementName (.symbol .ident)

-- `[ namespace_prefix ]? element_name`
def typeSelector : Phrase :=
  .production .typeSelector (.both (.optional namespacePrefix) elementName)

-- `[ namespace_prefix ]? '*'`
def universal : Phrase :=
  .production .universal (.both (.optional namespacePrefix) (.char '*'))

-- `'.' IDENT`
def classSelector : Phrase :=
  .production .classSelector (.both (.char '.') (.symbol .ident))

def attributeOperator : List Phrase := [
  .symbol .prefixMatch, .symbol .suffixMatch, .symbol .substringMatch,
  .char '=', .symbol .includes, .symbol .dashMatch
]

def attributeValue : List Phrase := [.symbol .ident, .symbol .string]

-- `[ PREFIXMATCH | SUFFIXMATCH | SUBSTRINGMATCH | '=' | INCLUDES | DASHMATCH ] S*
--     [ IDENT | STRING ] S*`
def attributeMatch : Phrase :=
  .production .attributeMatch
    (.both (choice attributeOperator) (.both .spaces (.both (choice attributeValue) .spaces)))

-- `'[' S* [ namespace_prefix ]? IDENT S* [ attrib_match ]? ']'`
def attributeSelector : Phrase :=
  .production .attributeSelector
    (.both (.char '[') (.both .spaces (.both (.optional namespacePrefix)
      (.both (.symbol .ident) (.both .spaces (.both (.optional attributeMatch) (.char ']')))))))

def expressionTerm : List Phrase := [
  .symbol .plus, .char '-', .symbol .dimension, .symbol .number, .symbol .string, .symbol .ident
]

def expressionItem : Phrase := .both (choice expressionTerm) .spaces

-- `[ [ PLUS | '-' | DIMENSION | NUMBER | STRING | IDENT ] S* ]+`
def expression : Phrase :=
  .production .expression (.both expressionItem (.many expressionItem))

-- `FUNCTION S* expression ')'`
def functionalPseudo : Phrase :=
  .production .functionalPseudo
    (.both (.symbol .function) (.both .spaces (.both expression (.char ')'))))

def pseudoName : List Phrase := [.symbol .ident, functionalPseudo]

-- `':' ':'? [ IDENT | functional_pseudo ]`
def pseudo : Phrase :=
  .production .pseudo (.both (.char ':') (.both (.optional (.char ':')) (choice pseudoName)))

def negationArguments : List Phrase :=
  [typeSelector, universal, .symbol .hash, classSelector, attributeSelector, pseudo]

-- `type_selector | universal | HASH | class | attrib | pseudo`
def negationArgument : Phrase := .production .negationArgument (choice negationArguments)

-- `NOT S* negation_arg S*`, which a closing parenthesis must not follow: only a negation that is left
-- open matches.
def negation : Phrase :=
  .production .negation
    (.both (.symbol .not) (.both .spaces (.both negationArgument
      (.both .spaces (.absent (.char ')'))))))

def sequenceTail : List Phrase := [.symbol .hash, classSelector, attributeSelector, pseudo, negation]

-- `HASH | class | attrib | pseudo | negation`
def simpleSelectorSequenceTail : Phrase :=
  .production .simpleSelectorSequenceTail (choice sequenceTail)

def sequenceHead : List Phrase := [typeSelector, universal]

-- `[ type_selector | universal ] tail* | tail+`
def simpleSelectorSequence : Phrase :=
  .production .simpleSelectorSequence
    (.both (.either (choice sequenceHead) simpleSelectorSequenceTail)
      (.many simpleSelectorSequenceTail))

-- Matches nothing.
def combinator : Phrase := .production .combinator .fail

-- `simple_selector_sequence [ combinator simple_selector_sequence ]*`
def selector : Phrase :=
  .production .selector
    (.both simpleSelectorSequence (.many (.both combinator simpleSelectorSequence)))

-- `selector [ COMMA S* selector ]*`, up to the end of the text.
def selectorsGroupBody : Phrase :=
  .both (.required selector)
    (.toEnd (.both (.required (.symbol .comma)) (.both .spaces (.required selector))))

def selectorsGroup : Phrase := .production .selectorsGroup selectorsGroupBody

end CssSelectors.Phrase

namespace CssSelectors

def Production.phrase : Production → Phrase
  | .selectorsGroup => Phrase.selectorsGroup
  | .selector => Phrase.selector
  | .combinator => Phrase.combinator
  | .simpleSelectorSequence => Phrase.simpleSelectorSequence
  | .simpleSelectorSequenceTail => Phrase.simpleSelectorSequenceTail
  | .typeSelector => Phrase.typeSelector
  | .namespacePrefix => Phrase.namespacePrefix
  | .elementName => Phrase.elementName
  | .universal => Phrase.universal
  | .classSelector => Phrase.classSelector
  | .attributeSelector => Phrase.attributeSelector
  | .attributeMatch => Phrase.attributeMatch
  | .pseudo => Phrase.pseudo
  | .functionalPseudo => Phrase.functionalPseudo
  | .expression => Phrase.expression
  | .negation => Phrase.negation
  | .negationArgument => Phrase.negationArgument

def Term.phrase : Term → Phrase
  | .char c => .char c
  | .symbol name => .symbol name
  | .production name => name.phrase

-- A term is what its phrase offers.
theorem Term.terms_phrase (term : Term) : term.phrase.terms = [term] := by
  cases term with
  | char c => rfl
  | symbol name => rfl
  | production name => cases name <;> rfl

-- The ordered choices of the grammar by name, each as its list of terms.
def choiceLists : List (String × List Term) := [
  ("SEQUENCE_HEAD", Phrase.sequenceHead),
  ("SEQUENCE_TAIL", Phrase.sequenceTail),
  ("NAMESPACE_NAME", Phrase.namespaceName),
  ("ATTRIB_OPERATOR", Phrase.attributeOperator),
  ("ATTRIB_VALUE", Phrase.attributeValue),
  ("PSEUDO_NAME", Phrase.pseudoName),
  ("EXPRESSION_TERM", Phrase.expressionTerm),
  ("NEGATION_ARG", Phrase.negationArguments)
].map fun (name, phrases) => (name, phrases.flatMap Phrase.terms)

end CssSelectors
