namespace CssSelectors

-- The named productions of the selector grammar, in the order in which it lists them.
inductive Production where
  | selectorsGroup | selector | combinator
  | simpleSelectorSequence | simpleSelectorSequenceTail
  | typeSelector | namespacePrefix | elementName | universal
  | classSelector | attributeSelector | attributeMatch
  | pseudo | functionalPseudo | expression
  | negation | negationArgument
deriving DecidableEq, Repr

namespace Production

def all : List Production := [
  .selectorsGroup, .selector, .combinator,
  .simpleSelectorSequence, .simpleSelectorSequenceTail,
  .typeSelector, .namespacePrefix, .elementName, .universal,
  .classSelector, .attributeSelector, .attributeMatch,
  .pseudo, .functionalPseudo, .expression,
  .negation, .negationArgument
]

-- The name of a production as the grammar writes it.
def name : Production → String
  | .selectorsGroup => "selectors_group"
  | .selector => "selector"
  | .combinator => "combinator"
  | .simpleSelectorSequence => "simple_selector_sequence"
  | .simpleSelectorSequenceTail => "simple_selector_sequence_tail"
  | .typeSelector => "type_selector"
  | .namespacePrefix => "namespace_prefix"
  | .elementName => "element_name"
  | .universal => "universal"
  | .classSelector => "class"
  | .attributeSelector => "attrib"
  | .attributeMatch => "attrib_match"
  | .pseudo => "pseudo"
  | .functionalPseudo => "functional_pseudo"
  | .expression => "expression"
  | .negation => "negation"
  | .negationArgument => "negation_arg"

def ofName? (text : String) : Option Production :=
  all.find? fun production => production.name == text

theorem mem_all (production : Production) : production ∈ all := by cases production <;> decide

theorem ofName?_name (production : Production) : ofName? production.name = some production := by
  cases production <;> decide

theorem ofName?_eq_some_iff {text : String} {production : Production} :
    ofName? text = some production ↔ production.name = text := by
  constructor
  · intro found
    simpa using List.find?_some found
  · rintro rfl
    exact ofName?_name production

theorem name_injective {left right : Production} (same : left.name = right.name) :
    left = right := by
  have found := ofName?_name right
  rw [← same, ofName?_name] at found
  exact Option.some.inj found

end Production

end CssSelectors
