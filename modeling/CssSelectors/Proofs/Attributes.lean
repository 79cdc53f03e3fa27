import CssSelectors.Proofs.Joining
import CssSelectors.Proofs.Token.Marks

open scoped Computability

-- Attribute selectors with white space wherever their production allows it. They are valid, but that no
-- white space may be left between the name and the operator `~=`: it is read as part of a tilde.
namespace CssSelectors

open Pattern

-- A text that is one token, of a class.
def Lexes (name : Symbol) (text : String) : Prop := tokenAt text 0 = .symbol name text

-- What may stand before the name of an attribute.
inductive IsNamespace : String → Prop where
  | absent : IsNamespace ""
  | unnamed : IsNamespace "|"
  | any : IsNamespace "*|"
  | named {name : String} (ident : Lexes .ident name) : IsNamespace (name ++ "|")

def attributeOperators : List String := ["^=", "$=", "*=", "=", "~=", "|="]

-- Reading the front of a text leads from one place in the grammar to another, and leaves the rest.
def Leads (cs : List Char) (state : State) (rest : List Char) (next : State) : Prop :=
  ∃ shapes : List Shape, outline cs = shapes.map some ++ outline rest ∧ state.run shapes = some next

variable {cs word blank rest more : List Char} {c mark : Char} {text namespacePrefix operator value : String}
  {state next last : State} {name : Symbol} {shape : Shape} {lexeme : String} {token : Token}

theorem Flex.Gives.symbol_takes (gives : Flex.Gives scannerRules cs (.symbol name lexeme)) :
    ∃ index, Flex.Takes scannerRules cs index name lexeme.toList := by
  cases gives with
  | symbol takes _ => exact ⟨_, by rwa [String.toList_ofList]⟩

namespace Lexes

theorem gives (lexes : Lexes name text) : Flex.Gives scannerRules text.toList (.symbol name text) := by
  rw [Lexes, tokenAt, Text.dropBytes?_zero] at lexes
  cases whole : text.toList with
  | nil =>
      rw [whole] at lexes
      cases lexes
  | cons c rest =>
      rw [whole] at lexes
      exact lexes ▸ Token.scanFront_gives c rest

theorem of_gives (gives : Flex.Gives scannerRules text.toList (.symbol name text)) : Lexes name text := by
  have whole : tokenAt (String.ofList ([] ++ text.toList)) 0 = _ := tokenAt_gives gives
  rwa [List.nil_append, String.ofList_toList] at whole

theorem ident (lexes : Lexes .ident text) : text.toList ∈ Flex.ident := by
  obtain ⟨index, takes⟩ := lexes.gives.symbol_takes
  exact (takes.mem (show scannerRules[6]? = _ from rfl)).2

theorem string (lexes : Lexes .string text) : text.toList ∈ Flex.string := by
  obtain ⟨index, takes⟩ := lexes.gives.symbol_takes
  exact (takes.mem (show scannerRules[7]? = _ from rfl)).2

theorem of_ident (named : text.toList ∈ Flex.ident) : Lexes .ident text := by
  have gives := gives_marked [] named (show isOutside '|' = true from rfl) (by decide)
  rw [String.ofList_toList] at gives
  exact .of_gives (gives.cut (List.prefix_append _ _) (List.prefix_refl _))

end Lexes

namespace Leads

theorem refl : Leads cs state cs state := ⟨[], rfl, rfl⟩

theorem trans (one : Leads cs state rest next) (two : Leads rest next more last) :
    Leads cs state more last := by
  obtain ⟨front, shown, early⟩ := one
  obtain ⟨back, follows, late⟩ := two
  refine ⟨front ++ back, ?_, (State.run_from early).trans late⟩
  rw [shown, follows, List.map_append, List.append_assoc]

theorem symbol (word : List Char) (covers : lexeme.toList = word)
    (gives : Flex.Gives scannerRules (word ++ rest) (.symbol name lexeme)) (meant : name.isIgnorable = false)
    (steps : state.step (.symbol name) = some next) : Leads (word ++ rest) state rest next := by
  refine ⟨[.symbol name], outline_symbol word covers gives meant, ?_⟩
  rw [State.run, steps]
  rfl

theorem literal (gives : Flex.Gives scannerRules (c :: rest) (.literal c))
    (steps : state.step (.literal c) = some next) : Leads (c :: rest) state rest next := by
  have front : Flex.Gives scannerRules ((Token.literal c).chars ++ rest) (.literal c) := gives
  refine ⟨[.literal c], outline_gives front, ?_⟩
  rw [State.run, steps]
  rfl

theorem white (spaces : ∀ c ∈ blank, isSpace c = true)
    (apart : ∀ c late, rest = c :: late → isSpace c = false ∧ c ∉ delimiters)
    (steps : state.step Shape.space = some next) (stays : blank = [] → state = next) :
    Leads (blank ++ rest) state rest next := by
  by_cases empty : blank = []
  · subst empty
    exact ⟨[], rfl, congrArg some (stays rfl)⟩
  · exact .symbol blank String.toList_ofList (gives_space empty spaces apart) rfl steps

theorem valid (leads : Leads text.toList .start [] last) (final : last.final = true) :
    isValid text = true := by
  obtain ⟨shapes, outlined, judged⟩ := exists_outline text
  obtain ⟨front, shown, reached⟩ := leads
  rw [outline_nil, List.append_nil, outlined] at shown
  obtain rfl := List.map_injective_iff.mpr (Option.some_injective Shape) shown
  exact judged.mpr (State.accepts_iff.mpr ⟨last, reached, final⟩)

-- A text cannot be read where the next shape leads nowhere.
theorem stuck {others : List (Option Shape)} (leads : Leads text.toList .start rest state)
    (follows : outline rest = some shape :: others) (none : state.step shape = none) :
    isValid text = false := by
  obtain ⟨shapes, outlined, judged⟩ := exists_outline text
  obtain ⟨front, shown, reached⟩ := leads
  rw [follows, outlined] at shown
  obtain ⟨early, late, rfl, one, behind⟩ := List.map_eq_append_iff.mp shown
  obtain rfl := List.map_injective_iff.mpr (Option.some_injective Shape) one
  obtain ⟨first, later, rfl, same, _⟩ := List.map_eq_cons_iff.mp behind
  obtain rfl := Option.some.inj same
  rw [Bool.eq_false_iff, Ne, judged, State.accepts_iff]
  rintro ⟨last, runs, _⟩
  rw [State.run_from reached, State.run, none] at runs
  cases runs

end Leads

theorem apart_of_cons (solid : isSpace mark = false) (apart : mark ∉ delimiters) :
    ∀ c late, mark :: rest = c :: late → isSpace c = false ∧ c ∉ delimiters := by
  intro c late same
  obtain rfl := (List.cons.inj same).1
  exact ⟨solid, apart⟩

-- What begins a name or a quoted text is not taken along by what is before it.
theorem apart_of_head (begins : Head.of c = .name ∨ Head.of c = .quote) :
    isSpace c = false ∧ c ∉ delimiters ∧ c ≠ '=' := by
  refine ⟨?_, ?_, ?_⟩
  · rw [Bool.eq_false_iff]
    intro blank
    rw [head_space blank] at begins
    rcases begins with other | other
    · cases other
    · cases other
  · intro listed
    have marks : ∀ c ∈ delimiters, Head.of c = .mark c := List.forall_iff_forall_mem.mp (by decide)
    rw [marks c listed] at begins
    rcases begins with other | other
    · cases other
    · cases other
  · rintro rfl
    revert begins
    decide

theorem ident_begins (named : word ∈ Flex.ident) : ∃ c late, word = c :: late ∧ Head.of c = .name := by
  cases word with
  | nil => exact absurd named nil_notMem_ident
  | cons c late => exact ⟨c, late, rfl, head_name (ident_head named)⟩

-- The places behind the name of an attribute, where an operator or the end may follow.
def nameStates : List State := [.attrName false, .attrNamed false]

theorem leads_namespace (prefixed : IsNamespace namespacePrefix) (named : word ∈ Flex.ident) :
    ∃ state ∈ [State.bracket false, .attrPrefixed false],
      Leads (namespacePrefix.toList ++ (word ++ rest)) (.bracket false) (word ++ rest) state := by
  obtain ⟨c, late, rfl, begins⟩ := ident_begins named
  have apart := (apart_of_head (.inl begins)).2.2
  have bar : ∀ state ∈ [State.bracket false, .attrStar false, .attrName false],
      Leads ('|' :: (c :: late ++ rest)) state (c :: late ++ rest) (.attrPrefixed false) := by
    intro state listed
    have steps : ∀ state ∈ [State.bracket false, .attrStar false, .attrName false],
        state.step (.literal '|') = some (.attrPrefixed false) := by decide
    exact .literal (gives_mark (.inl rfl) apart) (steps state listed)
  cases prefixed with
  | absent => exact ⟨_, .head _, .refl⟩
  | unnamed => exact ⟨_, .tail _ (.head _), bar _ (by decide)⟩
  | any =>
      have star : Leads ('*' :: '|' :: (c :: late ++ rest)) (.bracket false) ('|' :: (c :: late ++ rest))
          (.attrStar false) := .literal (gives_mark (.inr rfl) (by decide)) rfl
      exact ⟨_, .tail _ (.head _), star.trans (bar _ (by decide))⟩
  | @named name ident =>
      have gives := gives_marked (c :: late ++ rest) ident.ident (show isOutside '|' = true from rfl) (by decide)
      rw [String.ofList_toList] at gives
      have first : Leads (name.toList ++ ('|' :: (c :: late ++ rest))) (.bracket false)
          ('|' :: (c :: late ++ rest)) (.attrName false) := .symbol name.toList rfl gives rfl rfl
      refine ⟨_, .tail _ (.head _), ?_⟩
      rw [String.toList_append, List.append_assoc]
      exact first.trans (bar _ (by decide))

theorem leads_name (rest : List Char) (named : word ∈ Flex.ident) (spaces : ∀ c ∈ blank, isSpace c = true)
    (outside : isOutside mark = true) (unopened : mark ≠ '(')
    (listed : state ∈ [State.bracket false, .attrPrefixed false]) :
    ∃ left, left <:+ blank ∧ (left = [] ↔ word ++ blank ∈ Flex.ident) ∧ ∃ next ∈ nameStates,
      Leads (word ++ (blank ++ mark :: rest)) state (left ++ mark :: rest) next := by
  obtain ⟨more, left, rfl, whole, gives⟩ := gives_name rest named spaces outside unopened
  refine ⟨left, List.suffix_append more left, whole, ?_⟩
  have steps : ∀ state ∈ [State.bracket false, .attrPrefixed false], ∃ next ∈ nameStates,
      state.step (.symbol .ident) = some next := by decide
  obtain ⟨next, there, steps⟩ := steps state listed
  rw [List.append_assoc, ← List.append_assoc word more] at gives ⊢
  exact ⟨next, there, .symbol (word ++ more) String.toList_ofList gives rfl steps⟩

theorem leads_blank (spaces : ∀ c ∈ blank, isSpace c = true) (solid : isSpace mark = false)
    (apart : mark ∉ delimiters) (listed : state ∈ nameStates) :
    ∃ next ∈ nameStates, Leads (blank ++ mark :: rest) state (mark :: rest) next := by
  have steps : ∀ state ∈ nameStates, state.step Shape.space = some (.attrNamed false) := by decide
  by_cases empty : blank = []
  · exact ⟨state, listed, by rw [empty]; exact .refl⟩
  · exact ⟨_, .tail _ (.head _), .white spaces (apart_of_cons solid apart) (steps state listed)
      fun none => absurd none empty⟩

theorem outline_tilde (solid : blank ≠ []) (spaces : ∀ c ∈ blank, isSpace c = true) :
    ∃ others, outline (blank ++ '~' :: rest) = some (.symbol .tilde) :: others := by
  obtain ⟨lexeme, gives⟩ : ∃ lexeme, Flex.Gives scannerRules (blank ++ '~' :: rest) (.symbol .tilde lexeme) :=
    gives_tilde solid spaces
  obtain ⟨behind, covers⟩ := (Token.gives_chars gives).2
  rw [← covers] at gives ⊢
  exact ⟨_, outline_symbol lexeme.toList rfl gives rfl⟩

theorem leads_operator (operating : operator ∈ attributeOperators) (listed : state ∈ nameStates) :
    Leads (operator.toList ++ rest) state rest (.attrOp false) := by
  have steps : ∀ state ∈ nameStates, ∀ move ∈ State.operators (.attrOp false),
      state.step move.1 = some move.2 := by decide
  have moves := steps state listed
  simp only [State.operators, List.forall_mem_cons, List.not_mem_nil, false_implies, implies_true,
    and_true] at moves
  obtain ⟨prefixed, suffixed, within, equal, includes, dashed⟩ := moves
  simp only [attributeOperators, List.mem_cons, List.not_mem_nil, or_false] at operating
  rcases operating with rfl | rfl | rfl | rfl | rfl | rfl
  · exact .symbol ['^', '='] String.toList_ofList (Token.scanFront_gives '^' ('=' :: rest)) rfl prefixed
  · exact .symbol ['$', '='] String.toList_ofList (Token.scanFront_gives '$' ('=' :: rest)) rfl suffixed
  · exact .symbol ['*', '='] String.toList_ofList (Token.scanFront_gives '*' ('=' :: rest)) rfl within
  · exact .literal (Token.scanFront_gives '=' rest) equal
  · exact .symbol ['~', '='] String.toList_ofList (Token.scanFront_gives '~' ('=' :: rest)) rfl includes
  · exact .symbol ['|', '='] String.toList_ofList (Token.scanFront_gives '|' ('=' :: rest)) rfl dashed

theorem leads_value (valued : Lexes .ident value ∨ Lexes .string value)
    (spaces : ∀ c ∈ blank, isSpace c = true) :
    Leads (value.toList ++ (blank ++ ']' :: rest)) (.attrOp false) (']' :: rest) (.attrValue false) := by
  have apart : ∀ c late, ']' :: rest = c :: late → isSpace c = false ∧ c ∉ delimiters :=
    apart_of_cons rfl (by decide)
  rcases valued with named | quoted
  · obtain ⟨more, left, rfl, _, gives⟩ :=
      gives_name rest named.ident spaces (show isOutside ']' = true from rfl) (by decide)
    obtain ⟨_, behind⟩ := List.forall_mem_append.mp spaces
    rw [List.append_assoc, ← List.append_assoc value.toList more] at gives ⊢
    have read : Leads _ (.attrOp false) (left ++ ']' :: rest) (.attrValue false) :=
      .symbol (value.toList ++ more) String.toList_ofList gives rfl rfl
    exact read.trans (.white behind apart rfl fun _ => rfl)
  · have gives : Flex.Gives scannerRules (value.toList ++ (blank ++ ']' :: rest)) _ :=
      gives_quoted quoted.string
    have read : Leads _ (.attrOp false) (blank ++ ']' :: rest) (.attrValue false) :=
      .symbol value.toList String.toList_ofList gives rfl rfl
    exact read.trans (.white spaces apart rfl fun _ => rfl)

theorem leads_compared (valued : Lexes .ident value ∨ Lexes .string value)
    (spaces : ∀ c ∈ blank, isSpace c = true) :
    Leads (blank ++ (value.toList ++ rest)) (.attrOp false) (value.toList ++ rest) (.attrOp false) := by
  obtain ⟨d, tail, spelled, begins⟩ :
      ∃ d tail, value.toList = d :: tail ∧ (Head.of d = .name ∨ Head.of d = .quote) := by
    rcases valued with named | quoted
    · obtain ⟨d, tail, spelled, begins⟩ := ident_begins named.ident
      exact ⟨d, tail, spelled, .inl begins⟩
    · obtain ⟨d, body, quote, spelled, _⟩ := string_shape quoted.string
      refine ⟨d, body ++ [d], spelled, .inr ?_⟩
      rcases isQuote_cases quote with rfl | rfl
      · rfl
      · rfl
  obtain ⟨solid, apart, _⟩ := apart_of_head begins
  rw [spelled]
  exact .white spaces (apart_of_cons solid apart) rfl fun _ => rfl

theorem leads_close (closing : state ∈ .attrValue false :: nameStates) :
    Leads (']' :: rest) state rest (.done false) := by
  have steps : ∀ state ∈ .attrValue false :: nameStates, state.step (.literal ']') = some (.done false) := by
    decide
  exact .literal (Token.scanFront_gives ']' rest) (steps state closing)

theorem namespace_begins (prefixed : IsNamespace namespacePrefix) (named : word ∈ Flex.ident) :
    ∀ c late, namespacePrefix.toList ++ (word ++ rest) = c :: late → isSpace c = false ∧ c ∉ delimiters := by
  have first : ∀ {name more : List Char}, name ∈ Flex.ident → ∀ c late, name ++ more = c :: late →
      isSpace c = false ∧ c ∉ delimiters := by
    intro name more ident
    obtain ⟨d, tail, rfl, begins⟩ := ident_begins ident
    obtain ⟨solid, apart, _⟩ := apart_of_head (.inl begins)
    exact apart_of_cons solid apart
  cases prefixed with
  | absent =>
      rw [show "".toList = [] from rfl, List.nil_append]
      exact first named
  | unnamed => exact apart_of_cons rfl (by decide)
  | any => exact apart_of_cons rfl (by decide)
  | @named name ident =>
      rw [String.toList_append, List.append_assoc]
      exact first ident.ident

-- Reading goes as far as the name of an attribute, whatever mark is behind it.
theorem leads_attribute (rest : List Char) (prefixed : IsNamespace namespacePrefix) (named : word ∈ Flex.ident)
    (before : ∀ c ∈ cs, isSpace c = true) (spaces : ∀ c ∈ blank, isSpace c = true)
    (outside : isOutside mark = true) (unopened : mark ≠ '(') :
    ∃ left, left <:+ blank ∧ (left = [] ↔ word ++ blank ∈ Flex.ident) ∧ ∃ next ∈ nameStates,
      Leads ('[' :: (cs ++ (namespacePrefix.toList ++ (word ++ (blank ++ mark :: rest))))) .start
        (left ++ mark :: rest) next := by
  obtain ⟨state, listed, front⟩ := leads_namespace prefixed named
  obtain ⟨left, part, whole, next, there, behind⟩ := leads_name rest named spaces outside unopened listed
  refine ⟨left, part, whole, next, there, ?_⟩
  have bracket : Leads ('[' :: (cs ++ (namespacePrefix.toList ++ (word ++ (blank ++ mark :: rest))))) .start _
      (.bracket false) := .literal (Token.scanFront_gives '[' _) rfl
  have white : Leads (cs ++ (namespacePrefix.toList ++ (word ++ (blank ++ mark :: rest)))) (.bracket false) _
      (.bracket false) := .white before (namespace_begins prefixed named) rfl fun _ => rfl
  exact bracket.trans (white.trans (front.trans behind))

theorem operator_begins (operating : operator ∈ attributeOperators) :
    ∃ mark late, operator.toList = mark :: late ∧ isOutside mark = true ∧ mark ≠ '(' ∧
      (operator ≠ "~=" → isSpace mark = false ∧ mark ∉ delimiters) := by
  simp only [attributeOperators, List.mem_cons, List.not_mem_nil, or_false] at operating
  rcases operating with rfl | rfl | rfl | rfl | rfl | rfl
  · exact ⟨'^', ['='], rfl, rfl, by decide, by decide⟩
  · exact ⟨'$', ['='], rfl, rfl, by decide, by decide⟩
  · exact ⟨'*', ['='], rfl, rfl, by decide, by decide⟩
  · exact ⟨'=', [], rfl, rfl, by decide, by decide⟩
  · exact ⟨'~', ['='], rfl, rfl, by decide, fun other => absurd rfl other⟩
  · exact ⟨'|', ['='], rfl, rfl, by decide, by decide⟩

theorem leads_spaced (operating : operator ∈ attributeOperators) (reaches : operator = "~=" → blank = [])
    (spaces : ∀ c ∈ blank, isSpace c = true) (listed : state ∈ nameStates) :
    Leads (blank ++ (operator.toList ++ rest)) state rest (.attrOp false) := by
  by_cases same : operator = "~="
  · rw [reaches same]
    exact leads_operator operating listed
  · obtain ⟨mark, late, spelled, _, _, apart⟩ := operator_begins operating
    have white : ∃ next ∈ nameStates, Leads (blank ++ mark :: (late ++ rest)) state _ next :=
      leads_blank spaces (apart same).1 (apart same).2 listed
    rw [← List.cons_append, ← spelled] at white
    obtain ⟨next, there, front⟩ := white
    exact front.trans (leads_operator operating there)

-- An attribute selector with white space wherever its production allows it is valid, unless white space
-- is left before `~=`, which the name does not take as the end of an escape.
theorem isValid_attribute (first second third fourth name : String) (prefixed : IsNamespace namespacePrefix)
    (named : Lexes .ident name) (operating : operator ∈ attributeOperators)
    (valued : Lexes .ident value ∨ Lexes .string value)
    (spaces : ∀ blank ∈ [first, second, third, fourth], ∀ c ∈ blank.toList, isSpace c = true) :
    (isValid ("[" ++ first ++ namespacePrefix ++ name ++ second ++ operator ++ third ++ value ++ fourth ++
        "]") = true ↔ (operator = "~=" → Lexes .ident (name ++ second))) ∧
      isValid ("[" ++ first ++ namespacePrefix ++ name ++ second ++ "]") = true := by
  simp only [List.forall_mem_cons, List.not_mem_nil, false_implies, implies_true, and_true] at spaces
  obtain ⟨one, two, three, four⟩ := spaces
  refine ⟨?compared, ?present⟩
  case compared =>
    obtain ⟨mark, late, spelled, outside, unopened, apart⟩ := operator_begins operating
    have whole : ("[" ++ first ++ namespacePrefix ++ name ++ second ++ operator ++ third ++ value ++ fourth ++
        "]").toList = '[' :: (first.toList ++ (namespacePrefix.toList ++ (name.toList ++ (second.toList ++
          mark :: (late ++ (third.toList ++ (value.toList ++ (fourth.toList ++ [']'])))))))) := by
      simp [String.toList_append, spelled]
    obtain ⟨left, part, taken, state, there, front⟩ :=
      leads_attribute (late ++ (third.toList ++ (value.toList ++ (fourth.toList ++ [']']))))
        prefixed named.ident one two outside unopened
    rw [← whole] at front
    have behind : ∀ c ∈ left, isSpace c = true := fun c present => two c (part.subset present)
    by_cases hidden : operator = "~=" ∧ left ≠ []
    · obtain ⟨rfl, solid⟩ := hidden
      obtain ⟨rfl, rfl⟩ := List.cons.inj spelled
      have none : ∀ state ∈ nameStates, state.step (.symbol .tilde) = none := by decide
      obtain ⟨others, tilde⟩ := outline_tilde solid behind
      rw [front.stuck tilde (none state there)]
      refine ⟨nofun, fun needed => absurd (taken.mpr ?_) solid⟩
      rw [← String.toList_append]
      exact (needed rfl).ident
    · have reaches : operator = "~=" → left = [] := by
        intro same
        by_contra solid
        exact hidden ⟨same, solid⟩
      rw [← List.cons_append, ← spelled] at front
      have operated := front.trans (leads_spaced operating reaches behind there)
      have matched := (operated.trans (leads_compared valued three)).trans (leads_value valued four)
      have accepted := (matched.trans (leads_close (.head _))).valid rfl
      refine ⟨fun _ same => .of_ident ?_, fun _ => accepted⟩
      rw [String.toList_append]
      exact taken.mp (reaches same)
  case present =>
    have whole : ("[" ++ first ++ namespacePrefix ++ name ++ second ++ "]").toList = '[' ::
        (first.toList ++ (namespacePrefix.toList ++ (name.toList ++ (second.toList ++ [']'])))) := by
      simp [String.toList_append]
    obtain ⟨left, part, _, state, there, front⟩ :=
      leads_attribute [] prefixed named.ident one two (show isOutside ']' = true from rfl) (by decide)
    rw [← whole] at front
    have behind : ∀ c ∈ left, isSpace c = true := fun c present => two c (part.subset present)
    obtain ⟨last, here, white⟩ := leads_blank behind (show isSpace ']' = false from rfl) (by decide) there
    exact (front.trans (white.trans (leads_close (.tail _ here)))).valid rfl

-- The name ends with an escape that takes the line end before the operator along.
theorem isValid_attribute_escape : IsNamespace ("b" ++ "|") ∧ Lexes .ident "\\61" ∧ "~=" ∈ attributeOperators ∧
    Lexes .string "'c'" ∧ (∀ blank ∈ ["\t", "\n", " ", ""], ∀ c ∈ blank.toList, isSpace c = true) ∧
    (isValid ("[" ++ "\t" ++ ("b" ++ "|") ++ "\\61" ++ "\n" ++ "~=" ++ " " ++ "'c'" ++ "" ++ "]") = true ↔
      ("~=" = "~=" → Lexes .ident ("\\61" ++ "\n"))) ∧
    isValid ("[" ++ "\t" ++ ("b" ++ "|") ++ "\\61" ++ "\n" ++ "]") = true := by
  have prefixed : IsNamespace ("b" ++ "|") := .named (show tokenAt "b" 0 = _ by decide +kernel)
  have named : Lexes .ident "\\61" := show tokenAt "\\61" 0 = _ by decide +kernel
  have operating : "~=" ∈ attributeOperators := by decide
  have quoted : Lexes .string "'c'" := show tokenAt "'c'" 0 = _ by decide +kernel
  have spaces : ∀ blank ∈ ["\t", "\n", " ", ""], ∀ c ∈ blank.toList, isSpace c = true := by
    simp [isSpace]
  exact ⟨prefixed, named, operating, quoted, spaces,
    isValid_attribute _ _ _ _ _ prefixed named operating (.inr quoted) spaces⟩

-- The space is read as part of a tilde, and the equals sign is left alone.
theorem isValid_attribute_tilde : Lexes .ident "a" ∧ Lexes .ident "b" ∧ "~=" ∈ attributeOperators ∧
    isSpace ' ' = true ∧ isValid ("[" ++ "" ++ "" ++ "a" ++ " " ++ "~=" ++ "" ++ "b" ++ "" ++ "]") = false :=
  ⟨show tokenAt "a" 0 = _ by decide +kernel, show tokenAt "b" 0 = _ by decide +kernel, by decide, rfl,
    by decide +kernel⟩

end CssSelectors
