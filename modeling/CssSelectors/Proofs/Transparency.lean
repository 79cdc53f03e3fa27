import CssSelectors.Proofs.Token.Insertion
import CssSelectors.Proofs.Validation

open scoped Computability

-- A comment between two tokens changes nothing for the validation but where an error lies.
namespace CssSelectors

variable {front back word : List Char} {before after tokens : List (Nat × Token)}
  {place width close : Nat} {shapes : List Shape}

def moveFrom (place width offset : Nat) : Nat := if offset < place then offset else offset + width

def SelectorError.movedFrom (place width : Nat) : SelectorError → SelectorError
  | .mismatch context expected found offset =>
    .mismatch context expected found (moveFrom place width offset)
  | other => other

def moveToken (place width : Nat) (token : Nat × Token) : Nat × Token :=
  (moveFrom place width token.1, token.2)

theorem Cut.insert (cut : Cut 0 front back before after)
    (clean : ∀ token ∈ before, token.2.isClean = true) (comment : word ∈ Flex.comment) :
    Token.scanAll 0 (front ++ word ++ back) =
      before ++ (Text.byteLength front, .symbol .comment (String.ofList word)) ::
        moved (Text.byteLength word) after := by
  obtain ⟨inside, shape, _⟩ := id comment
  have covers : (Token.symbol .comment (String.ofList word)).chars = word := String.toList_ofList
  have width : (Token.symbol .comment (String.ofList word)).byteLength = Text.byteLength word :=
    Text.utf8ByteSize_ofList word
  have gives : Flex.Gives scannerRules ((Token.symbol .comment (String.ofList word)).chars ++ back)
      (.symbol .comment (String.ofList word)) := by
    rw [covers]
    exact gives_comment comment
  have scanned : Token.scanAll (Text.byteLength front) (word ++ back) =
      (Text.byteLength front, .symbol .comment (String.ofList word)) ::
        moved (Text.byteLength word) after := by
    have later := cut.later
    rw [Nat.zero_add] at later
    have step : Token.scanAll (Text.byteLength front) _ = _ := Token.scanAll_gives gives
    rw [covers, width, scanAll_add, later] at step
    exact step
  have slashed : Token.scanAll 0 (front ++ (word ++ back)) =
      before ++ Token.scanAll (0 + Text.byteLength front) (word ++ back) := by
    rw [shape]
    exact cut.slashed clean _
  rw [List.append_assoc, slashed, Nat.zero_add, scanned]

theorem moveToken_earlier (earlier : ∀ token ∈ before, token.1 < place) :
    before.map (moveToken place width) = before := by
  have same : ∀ token ∈ before, moveToken place width token = token := by
    intro token present
    rw [moveToken, moveFrom, if_pos (earlier token present)]
  rw [List.map_congr_left same, List.map_id']

theorem moveToken_later (later : ∀ token ∈ after, place ≤ token.1) :
    after.map (moveToken place width) = moved width after := by
  refine List.map_congr_left fun token present => ?_
  rw [moveToken, moveFrom, if_neg (Nat.not_lt.mpr (later token present))]

theorem Course.ahead_moved {one two : Course} (tokens : two.tokens = one.tokens.map (moveToken place width))
    (close : two.close = one.close + width) (within : place ≤ one.close) (left : Nat) :
    two.ahead left = moveToken place width (one.ahead left) := by
  have ends : moveToken place width (one.close, .endOfText) = (two.close, .endOfText) := by
    rw [moveToken, moveFrom, if_neg (Nat.not_lt.mpr within), close]
  exact ahead_map tokens ends left

theorem Course.error_moved {one two : Course} (tokens : two.tokens = one.tokens.map (moveToken place width))
    (close : two.close = one.close + width) (within : place ≤ one.close) (fault : Reading.Fault) :
    two.error fault = (one.error fault).movedFrom place width := by
  rw [error, error, ahead_moved tokens close within]
  rfl

-- The same shapes make the same fault, at the same token.
theorem validate_moved {one two : String}
    (tokens : significant (tokenize two) = (significant (tokenize one)).map (moveToken place width))
    (size : two.utf8ByteSize = one.utf8ByteSize + width) (within : place ≤ one.utf8ByteSize) :
    validate two = (validate one).mapError (SelectorError.movedFrom place width) := by
  obtain ⟨shapes, spells⟩ := exists_spells one
  have respells : Spells (significant (tokenize two)) shapes := by
    rw [tokens, Spells, List.map_map]
    exact spells
  rw [validate_eq spells, validate_eq respells]
  cases recognize shapes with
  | ok => rfl
  | error fault => exact congrArg Except.error (Course.error_moved tokens size within fault)

-- No step of the automaton takes what a slash could change.
theorem State.step_clean {state next : State} {shape : Shape} (steps : state.step shape = some next) :
    shape ≠ .symbol .invalid ∧ shape ≠ .literal '\\' ∧ shape ≠ .literal '/' := by
  have every : ∀ state ∈ all, state.step (.symbol .invalid) = none ∧
      state.step (.literal '\\') = none ∧ state.step (.literal '/') = none := by decide
  obtain ⟨invalid, backslash, slash⟩ := every state (mem_all state)
  refine ⟨?_, ?_, ?_⟩
  · rintro rfl
    simp [invalid] at steps
  · rintro rfl
    simp [backslash] at steps
  · rintro rfl
    simp [slash] at steps

theorem State.run_steps {state last : State} (run : state.run shapes = some last) :
    ∀ shape ∈ shapes, ∃ (earlier next : State), earlier.step shape = some next := by
  induction shapes generalizing state with
  | nil => nofun
  | cons shape shapes ih =>
      obtain ⟨next, steps, further⟩ := Option.bind_eq_some_iff.mp run
      exact List.forall_mem_cons.mpr ⟨⟨state, next, steps⟩, ih further⟩

theorem clean_of_shape {token : Token} {shape : Shape} (seen : token.shape? = some shape)
    (clean : shape ≠ .symbol .invalid ∧ shape ≠ .literal '\\' ∧ shape ≠ .literal '/') :
    token.isClean = true := by
  cases token with
  | symbol name lexeme =>
      cases Option.some.inj seen
      simpa [Token.isClean] using clean.1
  | literal c =>
      cases Option.some.inj seen
      simpa [Token.isClean] using clean.2
  | endOfText => rfl

theorem isClean_of_isComment {token : Token} (comment : token.isComment = true) :
    token.isClean = true := by
  cases token with
  | symbol name lexeme =>
      rw [Token.isComment, Symbol.isIgnorable, beq_iff_eq] at comment
      subst comment
      rfl
  | literal c => cases comment
  | endOfText => rfl

theorem clean_of_valid {text : String} (valid : validate text = .ok ()) :
    ∀ token ∈ tokenize text, token.2.isClean = true := by
  obtain ⟨shapes, spells⟩ := exists_spells text
  rw [validate_eq spells, mapError_ok_iff, recognize_iff, ← accepts_iff] at valid
  obtain ⟨last, run, _⟩ := State.accepts_iff.mp valid
  intro token present
  cases comment : token.2.isComment with
  | true => exact isClean_of_isComment comment
  | false =>
      have meant : token ∈ significant (tokenize text) := by
        simp [significant, present, comment]
      have seen : token.2.shape? ∈ shapes.map some :=
        spells ▸ List.mem_map_of_mem (f := fun token => token.2.shape?) meant
      obtain ⟨shape, inside, same⟩ := List.mem_map.mp seen
      obtain ⟨earlier, next, steps⟩ := State.run_steps run shape inside
      exact clean_of_shape same.symm (State.step_clean steps)

theorem significant_inserted {lexeme : String} (earlier : ∀ token ∈ before, token.1 < place)
    (later : ∀ token ∈ after, place ≤ token.1) :
    significant (before ++ (place, .symbol .comment lexeme) :: moved width after) =
      (significant (before ++ after)).map (moveToken place width) := by
  have inside : ∀ {tokens token}, token ∈ significant tokens → token ∈ tokens :=
    fun present => List.mem_of_mem_filter present
  have comment : Token.isComment (.symbol .comment lexeme) = true := rfl
  rw [significant_append, significant_append, significant_cons, if_pos comment, significant_moved,
    List.map_append, moveToken_earlier fun token present => earlier token (inside present),
    moveToken_later fun token present => later token (inside present)]

-- A comment at any boundary between tokens becomes one token more there, and the text is judged as
-- before: accepted, or rejected with the same error at the same token.
theorem comment_transparent :
    (∀ text, validate text = .ok () → ∀ token ∈ tokenize text, token.2.isClean = true) ∧
    ∀ (text : String) (before after : List (Nat × Token)),
      (∀ token ∈ tokenize text, token.2.isClean = true) → tokenize text = before ++ after →
      ∃ front back, text = String.ofList (front ++ back) ∧
        Text.byteLength front = (CssSelectors.front after text.utf8ByteSize).1 ∧
        ∀ word ∈ Flex.comment,
          tokenize (String.ofList (front ++ word ++ back)) =
            before ++ (Text.byteLength front, .symbol .comment (String.ofList word)) ::
              moved (Text.byteLength word) after ∧
          validate (String.ofList (front ++ word ++ back)) = (validate text).mapError
            (SelectorError.movedFrom (Text.byteLength front) (Text.byteLength word)) := by
  refine ⟨fun text => clean_of_valid, ?_⟩
  intro text before after clean tokens
  obtain ⟨front, back, parts, cut⟩ := exists_cut tokens
  have whole : text = String.ofList (front ++ back) := by
    rw [← parts, String.ofList_toList]
  have later : Token.scanAll (Text.byteLength front) back = after := by
    have behind := cut.later
    rwa [Nat.zero_add] at behind
  have earlier : ∀ token ∈ before, token.1 < Text.byteLength front := by
    have ahead := cut.earlier
    rwa [Nat.zero_add] at ahead
  have beyond : ∀ token ∈ after, Text.byteLength front ≤ token.1 :=
    later ▸ scanAll_le back (Text.byteLength front)
  have size : text.utf8ByteSize = Text.byteLength front + Text.byteLength back := by
    rw [whole, Text.utf8ByteSize_ofList, Text.byteLength_append]
  refine ⟨front, back, whole, ?boundary, ?inserted⟩
  case boundary =>
    rw [size, ← later, front_scanAll]
  case inserted =>
    intro word comment
    have inserted := cut.insert
      (fun token present => clean token (tokens ▸ List.mem_append_left _ present)) comment
    have scanned : tokenize (String.ofList (front ++ word ++ back)) =
        before ++ (Text.byteLength front, .symbol .comment (String.ofList word)) ::
          moved (Text.byteLength word) after := by
      rw [tokenize, String.toList_ofList, inserted]
    refine ⟨scanned, validate_moved ?_ ?_ ?_⟩
    · rw [scanned, tokens, significant_inserted earlier beyond]
    · rw [size, Text.utf8ByteSize_ofList, Text.byteLength_append, Text.byteLength_append]
      omega
    · omega

theorem comment_transparent_comma : ∃ front back, "a,b" = String.ofList (front ++ back) ∧
    Text.byteLength front = 1 ∧ "/* x */".toList ∈ Flex.comment ∧
    tokenize (String.ofList (front ++ "/* x */".toList ++ back)) =
      [(0, .symbol .ident "a"), (1, .symbol .comment "/* x */"), (8, .symbol .comma ","),
        (9, .symbol .ident "b")] ∧
    validate (String.ofList (front ++ "/* x */".toList ++ back)) =
      (validate "a,b").mapError (SelectorError.movedFrom 1 7) := by
  have member : "/* x */".toList ∈ Flex.comment := ⟨" x ".toList, rfl, by decide⟩
  obtain ⟨front, back, whole, place, inserted⟩ := comment_transparent.2 "a,b"
    [(0, .symbol .ident "a")] [(1, .symbol .comma ","), (2, .symbol .ident "b")]
    (by decide +kernel) (by decide +kernel)
  have here : Text.byteLength front = 1 := place
  have width : Text.byteLength "/* x */".toList = 7 := by decide
  obtain ⟨tokens, verdict⟩ := inserted _ member
  rw [here, width] at tokens verdict
  exact ⟨front, back, whole, here, member, tokens, verdict⟩

end CssSelectors
