import CssSelectors.Proofs.Grammar.Automaton
import CssSelectors.Proofs.Grammar.Derivation
import CssSelectors.Proofs.Parser.Outcome

namespace CssSelectors

-- Where the same may follow, one place is as good as another.

namespace State

variable {state next : State} {inside : Bool} {word : List Shape} {shape : Shape}

theorem accepts_except {other : State} (accepted : state.accepts word = true)
    (absent : word.head? ≠ some shape) (ends : state.final = other.final)
    (steps : ∀ first, first ≠ shape → state.step first = other.step first) :
    other.accepts word = true := by
  cases word with
  | nil =>
      rw [accepts] at accepted ⊢
      exact ends.symm.trans accepted
  | cons first word =>
      have different : first ≠ shape := by
        rintro rfl
        exact absent rfl
      rw [accepts] at accepted ⊢
      rwa [← steps first different]

theorem accepts_named (accepted : (State.named inside).accepts word = true)
    (absent : word.head? ≠ some (.literal '|')) : (State.done inside).accepts word = true := by
  refine accepts_except accepted absent rfl ?_
  intro first different
  simp [step, moves, List.lookup_cons, beq_false_of_ne different]

theorem accepts_attrName (accepted : (State.attrName inside).accepts word = true)
    (absent : word.head? ≠ some (.literal '|')) : (State.attrNamed inside).accepts word = true := by
  refine accepts_except accepted absent rfl ?_
  intro first different
  simp [step, moves, List.lookup_cons, beq_false_of_ne different]

theorem accepts_afterComma (accepted : State.afterComma.accepts word = true)
    (absent : word.head? ≠ some Shape.space) : State.start.accepts word = true := by
  refine accepts_except accepted absent rfl ?_
  intro first different
  simp [step, moves, List.lookup_cons, beq_false_of_ne different]

theorem accepts_done (accepted : (State.done inside).accepts word = true)
    (absent : word.head? ≠ some Shape.space) : (State.done false).accepts word = true := by
  refine accepts_except accepted absent rfl ?_
  intro first different
  cases inside with
  | false => rfl
  | true => simp [step, moves, follow, List.lookup_append, List.lookup_cons, beq_false_of_ne different]

theorem accepts_more (accepted : state.accepts word = true) (unfinished : state.final = false) :
    ∃ shape next rest, word = shape :: rest ∧ (shape, next) ∈ state.moves ∧ next.accepts rest = true := by
  cases word with
  | nil =>
      rw [accepts, unfinished] at accepted
      cases accepted
  | cons shape rest =>
      obtain ⟨next, offered, further⟩ := accepts_cons accepted
      exact ⟨shape, next, rest, rfl, offered, further⟩

-- White space may be skipped where it leads nowhere else.
theorem accepts_spaces (stays : state.step Shape.space = some state)
    (accepted : state.accepts word = true) :
    state.accepts (word.dropWhile (· == Shape.space)) = true ∧
      (word.dropWhile (· == Shape.space)).head? ≠ some Shape.space := by
  induction word with
  | nil => exact ⟨accepted, nofun⟩
  | cons shape word ih =>
      by_cases same : shape = Shape.space
      · subst same
        rw [accepts, stays] at accepted
        simpa using ih accepted
      · simp only [List.dropWhile_cons, beq_false_of_ne same]
        exact ⟨accepted, fun first => same (Option.some.inj first)⟩

end State

namespace Phrase

variable {inside top : Bool} {word : List Shape} {shape : Shape} {next : State}

-- A prefix is read greedily, but only a bar makes it one.
theorem namespacePrefix_bare : Phrase.namespacePrefix.Matches top (.literal '|' :: word) word := by
  simp [namespacePrefix, namespaceName, choice]

theorem namespacePrefix_named (named : shape = .symbol .ident ∨ shape = .literal '*') :
    Phrase.namespacePrefix.Matches top (shape :: .literal '|' :: word) word := by
  rcases named with rfl | rfl
  · simp [namespacePrefix, namespaceName, choice]
  · simp [namespacePrefix, namespaceName, choice]

theorem namespacePrefix_missed (top : Bool) (named : shape = .symbol .ident ∨ shape = .literal '*')
    (absent : word.head? ≠ some (.literal '|')) :
    Phrase.namespacePrefix.Misses top (shape :: word) (shape :: word) := by
  rcases named with rfl | rfl
  · simp [namespacePrefix, namespaceName, choice, absent]
  · simp [namespacePrefix, namespaceName, choice, absent]

-- A head is a type selector, or else a universal one.
def TakesHead (top : Bool) (word rest : List Shape) : Prop :=
  typeSelector.Matches top word rest ∨
    typeSelector.Misses top word word ∧ universal.Matches top word rest

theorem takesHead_ident {whole : List Shape}
    (before : (Phrase.optional namespacePrefix).Matches false whole (.symbol .ident :: word)) :
    TakesHead top whole word := by
  refine .inl (matches_production.mpr (matches_both.mpr ⟨_, before, ?_⟩))
  simp [elementName]

theorem takesHead_star {whole : List Shape}
    (before : (Phrase.optional namespacePrefix).Matches false whole (.literal '*' :: word)) :
    TakesHead top whole word := by
  refine .inr ⟨misses_production.mpr ⟨⟨.literal '*' :: word, ?_⟩, rfl⟩, ?_⟩
  · refine misses_both.mpr (.inr ⟨_, before, ?_⟩)
    simp [elementName]
  · refine matches_production.mpr (matches_both.mpr ⟨_, before, ?_⟩)
    simp

theorem takesHead_prefixed (inside : Bool) {whole : List Shape} (taken : namespacePrefix.Matches false whole word)
    (accepted : (State.prefixed inside).accepts word = true) :
    ∃ rest, (State.done inside).accepts rest = true ∧ TakesHead top whole rest := by
  have before := matches_optional.mpr (.inl taken)
  obtain ⟨shape, next, rest, rfl, offered, further⟩ := State.accepts_more accepted rfl
  simp only [State.moves, List.mem_cons, Prod.mk.injEq, List.not_mem_nil, or_false] at offered
  rcases offered with ⟨rfl, rfl⟩ | ⟨rfl, rfl⟩
  · exact ⟨rest, further, takesHead_ident before⟩
  · exact ⟨rest, further, takesHead_star before⟩

theorem takesHead (top : Bool) (offered : (shape, next) ∈ State.heads inside) (accepted : next.accepts word = true) :
    ∃ rest, (State.done inside).accepts rest = true ∧ TakesHead top (shape :: word) rest := by
  have named : shape = .symbol .ident ∨ shape = .literal '*' → next = .named inside →
      ∃ rest, (State.done inside).accepts rest = true ∧ TakesHead top (shape :: word) rest := by
    rintro kind rfl
    by_cases barred : word.head? = some (.literal '|')
    · obtain ⟨rest, rfl⟩ := List.head?_eq_some_iff.mp barred
      apply takesHead_prefixed inside (namespacePrefix_named kind)
      simpa [State.accepts, State.step, State.moves] using accepted
    · have before := matches_optional.mpr (.inr (namespacePrefix_missed false kind barred))
      refine ⟨word, State.accepts_named accepted barred, ?_⟩
      rcases kind with rfl | rfl
      · exact takesHead_ident before
      · exact takesHead_star before
  simp only [State.heads, List.mem_cons, Prod.mk.injEq, List.not_mem_nil, or_false] at offered
  rcases offered with ⟨kind, leads⟩ | ⟨kind, leads⟩ | ⟨rfl, rfl⟩
  · exact named (.inl kind) leads
  · exact named (.inr kind) leads
  · exact takesHead_prefixed _ namespacePrefix_bare accepted

theorem classSelector_matches (top : Bool) (accepted : (State.dot inside).accepts word = true) :
    ∃ rest, (State.done inside).accepts rest = true ∧
      classSelector.Matches top (.literal '.' :: word) rest := by
  obtain ⟨shape, next, rest, rfl, offered, further⟩ := State.accepts_more accepted rfl
  simp only [State.moves, List.mem_cons, Prod.mk.injEq, List.not_mem_nil, or_false] at offered
  obtain ⟨rfl, rfl⟩ := offered
  exact ⟨rest, further, by simp [classSelector]⟩

theorem attributeMatch_matches (top : Bool) (offered : (shape, next) ∈ State.operators (.attrOp inside))
    (accepted : next.accepts word = true) :
    ∃ rest, (State.done inside).accepts rest = true ∧
      attributeMatch.Matches top (shape :: word) (.literal ']' :: rest) := by
  have operator : next = .attrOp inside ∧
      (choice attributeOperator).Matches false (shape :: word) word := by
    simp only [State.operators, List.mem_cons, Prod.mk.injEq, List.not_mem_nil, or_false] at offered
    rcases offered with ⟨rfl, rfl⟩ | ⟨rfl, rfl⟩ | ⟨rfl, rfl⟩ | ⟨rfl, rfl⟩ | ⟨rfl, rfl⟩ | ⟨rfl, rfl⟩ <;>
      simp [attributeOperator, choice]
  obtain ⟨rfl, compared⟩ := operator
  obtain ⟨trimmed, solid⟩ := State.accepts_spaces rfl accepted
  obtain ⟨value, follows, after, opens, among, further⟩ := State.accepts_more trimmed rfl
  have valued : follows = .attrValue inside ∧
      (choice attributeValue).Matches false (value :: after) after := by
    simp only [State.moves, List.mem_cons, Prod.mk.injEq, List.not_mem_nil, or_false] at among
    rcases among with ⟨rfl, rfl⟩ | ⟨rfl, rfl⟩ | ⟨rfl, rfl⟩
    · simp [opens] at solid
    · simp [attributeValue, choice]
    · simp [attributeValue, choice]
  obtain ⟨rfl, taken⟩ := valued
  obtain ⟨closing, ended⟩ := State.accepts_spaces rfl further
  obtain ⟨bracket, last, rest, closes, only, beyond⟩ := State.accepts_more closing rfl
  simp only [State.moves, List.mem_cons, Prod.mk.injEq, List.not_mem_nil, or_false] at only
  rcases only with ⟨rfl, rfl⟩ | ⟨rfl, rfl⟩
  · simp [closes] at ended
  · refine ⟨rest, beyond, matches_production.mpr (matches_both.mpr ⟨_, compared, ?_⟩)⟩
    refine matches_both.mpr ⟨_, matches_spaces.mpr opens.symm, matches_both.mpr ⟨_, taken, ?_⟩⟩
    exact matches_spaces.mpr closes.symm

abbrev attributeEnd : Phrase := .both .spaces (.both (.optional attributeMatch) (.char ']'))

abbrev attributeInside : Phrase :=
  .both (.optional namespacePrefix) (.both (.symbol .ident) attributeEnd)

theorem attribute_closes (top : Bool) (accepted : (State.attrNamed inside).accepts word = true) :
    ∃ rest, (State.done inside).accepts rest = true ∧
      attributeEnd.Matches top word rest := by
  obtain ⟨trimmed, solid⟩ := State.accepts_spaces rfl accepted
  obtain ⟨shape, next, rest, opens, among, further⟩ := State.accepts_more trimmed rfl
  have spaced : Phrase.spaces.Matches top word (shape :: rest) := matches_spaces.mpr opens.symm
  simp only [State.moves, List.cons_append, List.nil_append, List.mem_cons, Prod.mk.injEq] at among
  rcases among with ⟨rfl, rfl⟩ | ⟨rfl, rfl⟩ | offered
  · simp [opens] at solid
  · refine ⟨rest, further, matches_both.mpr ⟨_, spaced, matches_both.mpr ⟨.literal ']' :: rest, ?_, ?_⟩⟩⟩
    · simp [attributeMatch, attributeOperator, choice]
    · simp
  · obtain ⟨after, beyond, compared⟩ := attributeMatch_matches top offered further
    refine ⟨after, beyond, matches_both.mpr ⟨_, spaced, matches_both.mpr ⟨.literal ']' :: after, ?_, ?_⟩⟩⟩
    · exact matches_optional.mpr (.inl compared)
    · simp

theorem attribute_named {whole : List Shape}
    (before : (Phrase.optional namespacePrefix).Matches top whole (.symbol .ident :: word))
    (accepted : (State.attrNamed inside).accepts word = true) :
    ∃ rest, (State.done inside).accepts rest = true ∧
      attributeInside.Matches top whole rest := by
  obtain ⟨rest, further, closed⟩ := attribute_closes top accepted
  refine ⟨rest, further, matches_both.mpr ⟨_, before, matches_both.mpr ⟨word, ?_, closed⟩⟩⟩
  simp

theorem attribute_prefixed (inside : Bool) {whole : List Shape} (taken : namespacePrefix.Matches top whole word)
    (accepted : (State.attrPrefixed inside).accepts word = true) :
    ∃ rest, (State.done inside).accepts rest = true ∧
      attributeInside.Matches top whole rest := by
  obtain ⟨shape, next, rest, rfl, offered, further⟩ := State.accepts_more accepted rfl
  simp only [State.moves, List.mem_cons, Prod.mk.injEq, List.not_mem_nil, or_false] at offered
  obtain ⟨rfl, rfl⟩ := offered
  exact attribute_named (matches_optional.mpr (.inl taken)) further

theorem attributeSelector_matches (top : Bool) (accepted : (State.bracket inside).accepts word = true) :
    ∃ rest, (State.done inside).accepts rest = true ∧
      attributeSelector.Matches top (.literal '[' :: word) rest := by
  obtain ⟨trimmed, solid⟩ := State.accepts_spaces rfl accepted
  obtain ⟨shape, next, after, opens, among, further⟩ := State.accepts_more trimmed rfl
  have inner : ∃ rest, (State.done inside).accepts rest = true ∧
      attributeInside.Matches false (shape :: after) rest := by
    simp only [State.moves, List.mem_cons, Prod.mk.injEq, List.not_mem_nil, or_false] at among
    rcases among with ⟨rfl, rfl⟩ | ⟨rfl, rfl⟩ | ⟨rfl, rfl⟩ | ⟨rfl, rfl⟩
    · simp [opens] at solid
    · by_cases barred : after.head? = some (.literal '|')
      · obtain ⟨rest, rfl⟩ := List.head?_eq_some_iff.mp barred
        apply attribute_prefixed inside (namespacePrefix_named (.inl rfl))
        simpa [State.accepts, State.step, State.moves] using further
      · refine attribute_named ?_ (State.accepts_attrName further barred)
        exact matches_optional.mpr (.inr (namespacePrefix_missed _ (.inl rfl) barred))
    · obtain ⟨bar, next, rest, rfl, only, beyond⟩ := State.accepts_more further rfl
      simp only [State.moves, List.mem_cons, Prod.mk.injEq, List.not_mem_nil, or_false] at only
      obtain ⟨rfl, rfl⟩ := only
      exact attribute_prefixed _ (namespacePrefix_named (.inr rfl)) beyond
    · exact attribute_prefixed _ namespacePrefix_bare further
  obtain ⟨rest, last, closed⟩ := inner
  refine ⟨rest, last, matches_production.mpr (matches_both.mpr ⟨word, by simp, ?_⟩)⟩
  exact matches_both.mpr ⟨_, matches_spaces.mpr opens.symm, closed⟩

theorem expressionItem_matches (top : Bool) (offered : (shape, next) ∈ State.arguments (.args inside))
    (accepted : next.accepts word = true) :
    ∃ rest, (State.args inside).accepts rest = true ∧ rest.head? ≠ some Shape.space ∧
      expressionItem.Matches top (shape :: word) rest := by
  have term : next = .args inside ∧ (choice expressionTerm).Matches top (shape :: word) word := by
    simp only [State.arguments, List.mem_cons, Prod.mk.injEq, List.not_mem_nil, or_false] at offered
    rcases offered with ⟨rfl, rfl⟩ | ⟨rfl, rfl⟩ | ⟨rfl, rfl⟩ | ⟨rfl, rfl⟩ | ⟨rfl, rfl⟩ | ⟨rfl, rfl⟩ <;>
      simp [expressionTerm, choice]
  obtain ⟨rfl, taken⟩ := term
  obtain ⟨trimmed, solid⟩ := State.accepts_spaces rfl accepted
  exact ⟨_, trimmed, solid, matches_both.mpr ⟨_, taken, matches_spaces.mpr rfl⟩⟩

theorem expressionItems_match (top : Bool) (accepted : (State.args inside).accepts word = true)
    (solid : word.head? ≠ some Shape.space) :
    ∃ rest, (State.done inside).accepts rest = true ∧
      (Phrase.many expressionItem).Matches top word (.literal ')' :: rest) := by
  induction size : word.length using Nat.strongRecOn generalizing word with
  | _ size ih =>
      obtain ⟨shape, next, rest, rfl, offered, further⟩ := State.accepts_more accepted rfl
      simp only [State.moves, List.cons_append, List.nil_append, List.mem_cons, Prod.mk.injEq] at offered
      rcases offered with ⟨rfl, rfl⟩ | ⟨rfl, rfl⟩ | argument
      · simp at solid
      · refine ⟨rest, further, matches_many.mpr (.inl ?_)⟩
        simp [expressionItem, expressionTerm, choice]
      · obtain ⟨after, trimmed, unspaced, item⟩ := expressionItem_matches top argument further
        have less := item.shorter rfl rfl
        obtain ⟨last, beyond, items⟩ := ih _ (size ▸ less) trimmed unspaced rfl
        exact ⟨last, beyond, matches_many.mpr (.inr ⟨after, item, less, items⟩)⟩

theorem functionalPseudo_matches (top : Bool) (accepted : (State.argsOpen inside).accepts word = true) :
    ∃ rest, (State.done inside).accepts rest = true ∧
      functionalPseudo.Matches top (.symbol .function :: word) rest := by
  obtain ⟨trimmed, solid⟩ := State.accepts_spaces rfl accepted
  obtain ⟨shape, next, after, opens, offered, further⟩ := State.accepts_more trimmed rfl
  simp only [State.moves, List.mem_cons, Prod.mk.injEq] at offered
  rcases offered with ⟨rfl, rfl⟩ | argument
  · simp [opens] at solid
  · obtain ⟨middle, going, unspaced, item⟩ := expressionItem_matches false argument further
    obtain ⟨rest, beyond, items⟩ := expressionItems_match false going unspaced
    refine ⟨rest, beyond, matches_production.mpr (matches_both.mpr ⟨word, by simp, ?_⟩)⟩
    refine matches_both.mpr ⟨_, matches_spaces.mpr opens.symm, ?_⟩
    refine matches_both.mpr ⟨.literal ')' :: rest, ?_, by simp⟩
    exact matches_production.mpr (matches_both.mpr ⟨middle, item, items⟩)

theorem pseudoName_matches (top : Bool)
    (offered : (shape, next) ∈ (State.colons inside).moves) (accepted : next.accepts word = true) :
    ∃ rest, (State.done inside).accepts rest = true ∧
      (choice pseudoName).Matches top (shape :: word) rest := by
  simp only [State.moves, List.mem_cons, Prod.mk.injEq, List.not_mem_nil, or_false] at offered
  rcases offered with ⟨rfl, rfl⟩ | ⟨rfl, rfl⟩
  · exact ⟨word, accepted, by simp [pseudoName, choice]⟩
  · obtain ⟨rest, further, called⟩ := functionalPseudo_matches top accepted
    refine ⟨rest, further, called.choice [.symbol .ident] ?_⟩
    simp

theorem pseudo_matches (top : Bool) (accepted : (State.colon inside).accepts word = true) :
    ∃ rest, (State.done inside).accepts rest = true ∧
      pseudo.Matches top (.literal ':' :: word) rest := by
  have inner : ∃ rest, (State.done inside).accepts rest = true ∧
      (Phrase.both (.optional (.char ':')) (choice pseudoName)).Matches false word rest := by
    obtain ⟨shape, next, after, rfl, offered, further⟩ := State.accepts_more accepted rfl
    rw [State.moves, List.mem_cons, Prod.mk.injEq] at offered
    rcases offered with ⟨rfl, rfl⟩ | offered
    · obtain ⟨name, follows, behind, rfl, only, beyond⟩ := State.accepts_more further rfl
      obtain ⟨rest, last, named⟩ := pseudoName_matches false only beyond
      refine ⟨rest, last, matches_both.mpr ⟨name :: behind, ?_, named⟩⟩
      simp
    · obtain ⟨rest, last, named⟩ := pseudoName_matches false offered further
      refine ⟨rest, last, matches_both.mpr ⟨shape :: after, ?_, named⟩⟩
      have single : shape ≠ .literal ':' := by
        rintro rfl
        simp at offered
      simp [single]
  obtain ⟨rest, last, named⟩ := inner
  exact ⟨rest, last, matches_production.mpr (matches_both.mpr ⟨word, by simp, named⟩)⟩

-- The simple selectors that may stand inside a negation as well as outside.
abbrev simpleSelectors : List Phrase := [.symbol .hash, classSelector, attributeSelector, pseudo]

theorem simpleSelectors_match (top : Bool) (later : List Phrase) (offered : (shape, next) ∈ State.simple inside)
    (accepted : next.accepts word = true) :
    ∃ rest, (State.done inside).accepts rest = true ∧
      (choice (simpleSelectors ++ later)).Matches top (shape :: word) rest := by
  simp only [State.simple, List.mem_cons, Prod.mk.injEq, List.not_mem_nil, or_false] at offered
  rcases offered with ⟨rfl, rfl⟩ | ⟨rfl, rfl⟩ | ⟨rfl, rfl⟩ | ⟨rfl, rfl⟩
  · have taken : (Phrase.symbol .hash).Matches top (.symbol .hash :: word) word := by simp
    exact ⟨word, accepted, taken.choice [] nofun⟩
  · obtain ⟨rest, further, taken⟩ := classSelector_matches top accepted
    refine ⟨rest, further, taken.choice [.symbol .hash] ?_⟩
    simp
  · obtain ⟨rest, further, taken⟩ := attributeSelector_matches top accepted
    refine ⟨rest, further, taken.choice [.symbol .hash, classSelector] ?_⟩
    simp [classSelector]
  · obtain ⟨rest, further, taken⟩ := pseudo_matches top accepted
    refine ⟨rest, further, taken.choice [.symbol .hash, classSelector, attributeSelector] ?_⟩
    simp [classSelector, attributeSelector]

theorem heads_missed (top : Bool) (word : List Shape) (offered : (shape, next) ∈ State.simple inside ++ [(.symbol .not, .negated)]) :
    ∀ phrase ∈ sequenceHead, phrase.Misses top (shape :: word) (shape :: word) := by
  simp only [State.simple, List.cons_append, List.nil_append, List.mem_cons, Prod.mk.injEq,
    List.not_mem_nil, or_false] at offered
  rcases offered with ⟨rfl, _⟩ | ⟨rfl, _⟩ | ⟨rfl, _⟩ | ⟨rfl, _⟩ | ⟨rfl, _⟩ <;>
    simp [sequenceHead, typeSelector, universal, elementName, namespacePrefix, namespaceName, choice]

theorem TakesHead.choice {rest : List Shape} (takes : TakesHead top word rest) (later : List Phrase) :
    (Phrase.choice (sequenceHead ++ later)).Matches top word rest := by
  rcases takes with typed | ⟨missed, every⟩
  · exact typed.choice [] nofun
  · apply every.choice [typeSelector]
    simpa using missed

theorem negationArgument_matches (top : Bool) (offered : (shape, next) ∈ State.heads true ++ State.simple true)
    (accepted : next.accepts word = true) :
    ∃ rest, (State.done true).accepts rest = true ∧
      negationArgument.Matches top (shape :: word) rest := by
  rcases List.mem_append.mp offered with head | simple
  · obtain ⟨rest, further, takes⟩ := takesHead false head accepted
    exact ⟨rest, further, matches_production.mpr (takes.choice simpleSelectors)⟩
  · obtain ⟨rest, further, taken⟩ := simpleSelectors_match false [] simple accepted
    have missed := heads_missed false word (List.mem_append_left _ simple)
    refine ⟨rest, further, matches_production.mpr ?_⟩
    refine matches_either.mpr (.inr ⟨_, missed _ List.mem_cons_self, ?_⟩)
    exact matches_either.mpr (.inr ⟨_, missed _ (List.mem_cons_of_mem _ List.mem_cons_self), taken⟩)

-- A negation is left open, so that no parenthesis follows, and white space after it belongs to it.
theorem negation_matches (top : Bool) (accepted : State.negated.accepts word = true) :
    ∃ rest, (State.done false).accepts rest = true ∧
      negation.Matches top (.symbol .not :: word) rest := by
  obtain ⟨trimmed, solid⟩ := State.accepts_spaces rfl accepted
  obtain ⟨shape, next, after, opens, offered, further⟩ := State.accepts_more trimmed rfl
  rw [State.moves, List.cons_append, List.mem_cons, Prod.mk.injEq] at offered
  rcases offered with ⟨rfl, rfl⟩ | offered
  · simp [opens] at solid
  · obtain ⟨behind, beyond, argued⟩ := negationArgument_matches false offered further
    obtain ⟨ended, unspaced⟩ := State.accepts_spaces rfl beyond
    have unclosed : (behind.dropWhile (· == Shape.space)).head? ≠ some (.literal ')') := by
      intro closed
      obtain ⟨rest, same⟩ := List.head?_eq_some_iff.mp closed
      have stuck : (State.done true).step (.literal ')') = none := by decide
      rw [same, State.accepts, stuck] at ended
      cases ended
    refine ⟨_, State.accepts_done ended unspaced, matches_production.mpr ?_⟩
    refine matches_both.mpr ⟨word, by simp, matches_both.mpr ⟨_, matches_spaces.mpr opens.symm, ?_⟩⟩
    refine matches_both.mpr ⟨behind, argued, matches_both.mpr ⟨_, matches_spaces.mpr rfl, ?_⟩⟩
    exact matches_absent.mpr (misses_char.mpr ⟨unclosed, rfl⟩)

theorem tail_matches (top : Bool) (offered : (shape, next) ∈ State.simple false ++ [(.symbol .not, .negated)])
    (accepted : next.accepts word = true) :
    ∃ rest, (State.done false).accepts rest = true ∧
      simpleSelectorSequenceTail.Matches top (shape :: word) rest := by
  rcases List.mem_append.mp offered with simple | negated
  · obtain ⟨rest, further, taken⟩ := simpleSelectors_match false [negation] simple accepted
    exact ⟨rest, further, matches_production.mpr taken⟩
  · simp only [List.mem_cons, Prod.mk.injEq, List.not_mem_nil, or_false] at negated
    obtain ⟨rfl, rfl⟩ := negated
    obtain ⟨rest, further, taken⟩ := negation_matches false accepted
    refine ⟨rest, further, matches_production.mpr (taken.choice simpleSelectors ?_)⟩
    simp [classSelector, attributeSelector, pseudo]

def Separated (word : List Shape) : Prop :=
  word = [] ∨ ∃ rest, word = .symbol .comma :: rest ∧ State.afterComma.accepts rest = true

theorem tails_match (top : Bool) (accepted : (State.done false).accepts word = true) :
    ∃ rest, Separated rest ∧ (Phrase.many simpleSelectorSequenceTail).Matches top word rest := by
  induction size : word.length using Nat.strongRecOn generalizing word with
  | _ size ih =>
      cases word with
      | nil =>
          refine ⟨[], .inl rfl, matches_many.mpr (.inl ?_)⟩
          refine misses_production.mpr ⟨⟨[], Misses.choice ?_⟩, rfl⟩
          simp [sequenceTail, classSelector, attributeSelector, pseudo, negation]
      | cons shape rest =>
          obtain ⟨next, offered, further⟩ := State.accepts_cons accepted
          have split : (shape, next) ∈ State.simple false ++ [(.symbol .not, .negated)] ∨
              (shape = .symbol .comma ∧ next = .afterComma) := by
            simp only [State.moves, State.follow, List.mem_append, List.mem_cons, Prod.mk.injEq] at offered ⊢
            simpa [or_assoc] using offered
          rcases split with tail | ⟨rfl, rfl⟩
          · obtain ⟨after, beyond, taken⟩ := tail_matches top tail further
            have less := taken.shorter rfl rfl
            obtain ⟨last, separated, others⟩ := ih _ (size ▸ less) beyond rfl
            exact ⟨last, separated, matches_many.mpr (.inr ⟨after, taken, less, others⟩)⟩
          · refine ⟨_, .inr ⟨rest, rfl, further⟩, matches_many.mpr (.inl ?_)⟩
            refine misses_production.mpr ⟨⟨.symbol .comma :: rest, Misses.choice ?_⟩, rfl⟩
            simp [sequenceTail, classSelector, attributeSelector, pseudo, negation]

theorem simpleSelectorSequence_matches (top : Bool) (accepted : State.start.accepts word = true) :
    ∃ rest, Separated rest ∧ simpleSelectorSequence.Matches top word rest := by
  obtain ⟨shape, next, after, rfl, offered, further⟩ := State.accepts_more accepted rfl
  have first : ∃ middle, (State.done false).accepts middle = true ∧
      (Phrase.either (choice sequenceHead) simpleSelectorSequenceTail).Matches false
        (shape :: after) middle := by
    rw [State.moves, List.append_assoc] at offered
    rcases List.mem_append.mp offered with head | tail
    · obtain ⟨middle, beyond, takes⟩ := takesHead false head further
      exact ⟨middle, beyond, matches_either.mpr (.inl (takes.choice []))⟩
    · obtain ⟨middle, beyond, taken⟩ := tail_matches false tail further
      refine ⟨middle, beyond, matches_either.mpr (.inr ⟨_, Misses.choice ?_, taken⟩)⟩
      exact heads_missed _ _ tail
  obtain ⟨middle, beyond, taken⟩ := first
  obtain ⟨rest, separated, others⟩ := tails_match false beyond
  exact ⟨rest, separated, matches_production.mpr (matches_both.mpr ⟨middle, taken, others⟩)⟩

theorem selector_matches (top : Bool) (accepted : State.start.accepts word = true) :
    ∃ rest, Separated rest ∧ selector.Matches top word rest := by
  obtain ⟨rest, separated, sequence⟩ := simpleSelectorSequence_matches false accepted
  refine ⟨rest, separated, matches_production.mpr (matches_both.mpr ⟨rest, sequence, ?_⟩)⟩
  refine matches_many.mpr (.inl (misses_both.mpr (.inl (misses_production.mpr ⟨⟨rest, ?_⟩, rfl⟩))))
  simp

theorem separated_matches (separated : Separated word) :
    (Phrase.toEnd (.both (.required (.symbol .comma)) (.both .spaces (.required selector)))).Matches
      top word [] := by
  induction size : word.length using Nat.strongRecOn generalizing word with
  | _ size ih =>
      rcases separated with rfl | ⟨rest, rfl, accepted⟩
      · exact matches_toEnd.mpr (.inl ⟨rfl, rfl⟩)
      · obtain ⟨trimmed, solid⟩ := State.accepts_spaces rfl accepted
        obtain ⟨after, further, selected⟩ :=
          selector_matches top (State.accepts_afterComma trimmed solid)
        have round : (Phrase.both (.required (.symbol .comma)) (.both .spaces (.required selector))).Matches
            top (.symbol .comma :: rest) after := by
          refine matches_both.mpr ⟨rest, by simp, matches_both.mpr ⟨_, matches_spaces.mpr rfl, ?_⟩⟩
          exact matches_required.mpr selected
        have less := round.shorter rfl rfl
        exact matches_toEnd.mpr (.inr ⟨nofun, after, round, less, ih _ (size ▸ less) further rfl⟩)

theorem selectorsGroupBody_matches (top : Bool) (accepted : State.start.accepts word = true) :
    selectorsGroupBody.Matches top word [] := by
  obtain ⟨rest, separated, selected⟩ := selector_matches top accepted
  exact matches_both.mpr ⟨rest, matches_required.mpr selected, separated_matches separated⟩

theorem matches_toEnd_rest {phrase : Phrase} {rest : List Shape}
    (matched : (Phrase.toEnd phrase).Matches top word rest) : rest = [] := by
  induction size : word.length using Nat.strongRecOn generalizing word with
  | _ size ih =>
      rcases matches_toEnd.mp matched with ⟨_, ended⟩ | ⟨_, middle, _, less, more⟩
      · exact ended
      · exact ih _ (size ▸ less) more rfl

theorem selectorsGroupBody_leaves (matched : selectorsGroupBody.Matches top word []) :
    Form.group.Leaves word [] := Derives.selectorsGroupBody _ _ _ matched

end Phrase

-- Reading in order, without going back, and deriving in any way come to the same: the automaton is
-- what both are compared with.
theorem recognize_iff {shapes : List Shape} :
    recognize shapes = .ok () ↔ Form.group.Leaves shapes [] := by
  unfold recognize
  constructor
  · intro accepted
    have matched : (Phrase.selectorsGroupBody.read true shapes).verdict = .matched := by
      cases verdict : (Phrase.selectorsGroupBody.read true shapes).verdict with
      | matched => rfl
      | _ => simp [verdict] at accepted
    have whole : Phrase.selectorsGroupBody.Matches true shapes _ := ⟨matched, rfl⟩
    obtain ⟨_, _, others⟩ := Phrase.matches_both.mp whole
    rw [Phrase.matches_toEnd_rest others] at whole
    exact Phrase.selectorsGroupBody_leaves whole
  · intro leaves
    simp only [(Phrase.selectorsGroupBody_matches true leaves.accepts).1]

theorem accepts_iff {shapes : List Shape} :
    State.start.accepts shapes = true ↔ Form.group.Leaves shapes [] :=
  ⟨fun accepted => Phrase.selectorsGroupBody_leaves (Phrase.selectorsGroupBody_matches true accepted),
    Form.Leaves.accepts⟩

end CssSelectors
