import CssSelectors.Proofs.Grammar.Expectation
import CssSelectors.Proofs.Token.Stream

-- What validating a text comes to: whether the shapes of its tokens are a word of the grammar, and
-- where they cease to be the beginning of one.
namespace CssSelectors

variable {text : String} {shapes : List Shape} {tokens : List (Nat × Token)} {close : Nat}

def course (text : String) : Course :=
  ⟨tokenAt, text, significant (tokenize text), text.utf8ByteSize⟩

theorem course_begun (spells : Spells (significant (tokenize text)) shapes) :
    (course text).Begun shapes := ⟨tokenize_scans text, spells⟩

theorem exists_spells (text : String) : ∃ shapes, Spells (significant (tokenize text)) shapes :=
  (tokenize_scans text).spells

theorem validate_eq (spells : Spells (significant (tokenize text)) shapes) :
    validate text = (recognize shapes).mapError (course text).error := by
  have asks : (Validator.on tokenAt).cursor.tokenizer = (course text).tokenizer := rfl
  have parsed := Validator.parse_eq asks (course_begun spells)
  exact parsed

theorem mapError_ok_iff {result : Except Reading.Fault Unit} {name : Reading.Fault → SelectorError} :
    result.mapError name = .ok () ↔ result = .ok () := by
  cases result with
  | ok => simp [Except.mapError]
  | error => simp [Except.mapError]

theorem isValid_iff_ok : isValid text = true ↔ validate text = .ok () := by
  unfold isValid
  cases validate text with
  | ok => exact ⟨fun _ => rfl, fun _ => rfl⟩
  | error fault => exact ⟨nofun, nofun⟩

theorem isValid_iff (spells : Spells (significant (tokenize text)) shapes) :
    isValid text = true ↔ State.start.accepts shapes = true := by
  rw [isValid_iff_ok, validate_eq spells, mapError_ok_iff, recognize_iff, accepts_iff]

theorem Course.Begun.accepted_iff {course : Course} {validator : Validator}
    (begun : course.Begun shapes) (asks : validator.cursor.tokenizer = course.tokenizer) :
    (validator.parse course.text).1 = .ok () ↔ Form.group.Leaves shapes [] := by
  rw [Validator.parse_eq asks begun, mapError_ok_iff, recognize_iff]

theorem Scans.drained {tokenizer : Tokenizer} (regular : Regular tokenizer text)
    (scans : Scans tokenizer text 0 tokens close) :
    ∃ ended, (((Cursor.on tokenizer).load text).tokens).drain? = some (tokens.map .ok, ended) ∧
      ended.cursor.offset = close := by
  obtain ⟨visits, last⟩ := scans.visits
  have walks : ((Cursor.on tokenizer).load text).Walks tokenizer text true 0 :=
    ((Cursor.sound_on tokenizer).load text).walks
  exact walks.drain?_ended regular.ends visits last

-- With any tokenizer that ends with the text and covers something before, a text is accepted just if
-- the shapes of its tokens can be derived in the grammar, in whatever way.
theorem Validator.parse_ok_iff : (∀ text, Regular tokenAt text) ∧
    ∀ (validator : Validator) (text : String), Regular validator.cursor.tokenizer text →
      ∃ (tokens : List (Nat × Token)) (shapes : List Shape) (ended : Tokens),
        (((Cursor.on validator.cursor.tokenizer).load text).tokens).drain? =
          some (tokens.map .ok, ended) ∧
        tokens.map (fun token => token.2.shape?) = shapes.map some ∧
        ((validator.parse text).1 = .ok () ↔ Form.group.Leaves shapes []) := by
  refine ⟨tokenAt_regular, ?_⟩
  intro validator text regular
  obtain ⟨tokens, close, scans⟩ := regular.scans 0 (Nat.zero_le _)
  obtain ⟨shapes, spells⟩ := scans.spells
  obtain ⟨ended, walked, _⟩ := scans.drained regular
  have begun : Course.Begun ⟨validator.cursor.tokenizer, text, tokens, close⟩ shapes :=
    ⟨scans, spells⟩
  exact ⟨tokens, shapes, ended, walked, spells, begun.accepted_iff rfl⟩

theorem Validator.parse_ok_iff_div : Regular tokenAt "div" ∧
    ∃ (tokens : List (Nat × Token)) (shapes : List Shape) (ended : Tokens),
      (((Cursor.on tokenAt).load "div").tokens).drain? = some (tokens.map .ok, ended) ∧
      tokens.map (fun token => token.2.shape?) = shapes.map some ∧
      (((Validator.on tokenAt).parse "div").1 = .ok () ↔ Form.group.Leaves shapes []) :=
  ⟨Validator.parse_ok_iff.1 "div",
    Validator.parse_ok_iff.2 (.on tokenAt) "div" (Validator.parse_ok_iff.1 "div")⟩

theorem Viable.front {front : List Shape} (back : List Shape) (viable : Viable (front ++ back)) : Viable front := by
  obtain ⟨more, leaves⟩ := viable
  exact ⟨back ++ more, by rwa [← List.append_assoc]⟩

-- What an error is to say of a text: how many of its tokens may begin a selector group, and, if there
-- is no negation among them, the token behind these and all that could have come there but white space.
structure Diagnosis (text : String) (error : SelectorError) (shapes : List Shape) (count : Nat) :
    Prop where
  spells : (significant (tokenize text)).map (fun token => token.2.shape?) = shapes.map some
  within : count ≤ shapes.length
  viable : ∀ fewer, fewer ≤ count → Viable (shapes.take fewer)
  first : count < shapes.length → ¬ Viable (shapes.take (count + 1))
  reported : Shape.symbol .not ∉ shapes.take count →
    ∃ (context expected : List Term) (found : Token) (offset : Nat),
      error = .mismatch context expected found offset ∧
      (offset, found) = front ((significant (tokenize text)).drop count) text.utf8ByteSize ∧
      ∀ term, term ∈ expected ↔
        ∃ shape, term = Shape.term shape ∧ shape ≠ Shape.space ∧ Viable (shapes.take count ++ [shape])

-- A rejected text is one whose tokens cease to be viable, or end too early, and the error says where.
theorem validate_error {error : SelectorError} (rejected : validate text = .error error) :
    ∃ shapes count, Diagnosis text error shapes count := by
  obtain ⟨shapes, spells⟩ := exists_spells text
  have parsed := validate_eq spells
  rw [rejected] at parsed
  have refused : State.start.accepts shapes = false := by
    apply Bool.eq_false_iff.mpr
    intro accepted
    rw [recognize_iff.mpr (accepts_iff.mp accepted)] at parsed
    cases parsed
  obtain ⟨before, behind, ending, rfl, run, stuck⟩ := State.stuck_of_rejected refused
  have alive : Viable before := viable_iff.mpr (by rw [run]; rfl)
  refine ⟨before ++ behind, before.length, spells, by simp, ?viable, ?first, ?reported⟩
  case viable =>
    intro fewer within
    rw [List.take_append_of_le_length within]
    exact Viable.front (before.drop fewer) (by rwa [List.take_append_drop])
  case first =>
    intro more
    cases behind with
    | nil => simp at more
    | cons shape behind =>
        have blocked : ending.step shape = none := stuck
        rw [List.take_length_add_append, List.take_one, List.head?_cons, Option.toList_some,
          viable_append_iff run, blocked]
        exact nofun
  case reported =>
    rw [List.take_left]
    intro unnegated
    obtain ⟨context, expected, faulted, names⟩ := recognize_fault run stuck unnegated
    rw [faulted] at parsed
    cases parsed
    refine ⟨context, expected.map Shape.term, _, _, rfl, ?_, ?_⟩
    · have place : (significant (tokenize text)).length - behind.length = before.length := by
        rw [spells.length, List.length_append, Nat.add_sub_cancel]
      rw [← place]
      rfl
    · intro term
      rw [List.mem_map]
      constructor
      · rintro ⟨shape, named, rfl⟩
        exact ⟨shape, rfl, (names shape).mp named⟩
      · rintro ⟨shape, rfl, expected⟩
        exact ⟨shape, (names shape).mpr expected, rfl⟩

theorem validate_error_half_name :
    validate "*|." = .error (.mismatch [.production .selector] [.symbol .ident, .char '*'] (.literal '.') 2) ∧
      ∃ shapes count, Diagnosis "*|."
        (.mismatch [.production .selector] [.symbol .ident, .char '*'] (.literal '.') 2) shapes count := by
  have tokens : significant (tokenize "*|.") = [(0, .literal '*'), (1, .literal '|'), (2, .literal '.')] := by
    decide +kernel
  have spells : Spells (significant (tokenize "*|.")) [.literal '*', .literal '|', .literal '.'] := by
    rw [tokens]
    rfl
  have faulted : recognize [.literal '*', .literal '|', .literal '.'] =
    .error ⟨[.production .selector], [.symbol .ident, .char '*'], 1⟩ := rfl
  have place : (course "*|.").ahead 1 = (2, .literal '.') := by
    rw [Course.ahead, course, tokens]
    rfl
  have rejected : validate "*|." = .error
      (.mismatch [.production .selector] [.symbol .ident, .char '*'] (.literal '.') 2) := by
    rw [validate_eq spells, faulted]
    simp only [Except.mapError, Course.error, place]
  exact ⟨rejected, validate_error rejected⟩

end CssSelectors
