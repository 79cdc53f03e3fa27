import CssSelectors.Proofs.Token.Caseless
import CssSelectors.Proofs.Validation

-- Validation does not tell the cases of ASCII letters apart.
namespace CssSelectors

variable {text other : String} {shapes : List Shape}

theorem isComment_toLower (token : Token) : token.toLower.isComment = token.isComment := by
  cases token <;> rfl

theorem shape?_toLower (token : Token) : token.toLower.shape? = token.shape? := by
  cases token <;> rfl

theorem significant_toLower (text : String) :
    significant (tokenize text.toLower) = (significant (tokenize text)).map (Prod.map id Token.toLower) := by
  rw [tokenize_toLower, significant, List.filter_map, significant]
  congr 1
  apply List.filter_congr
  exact fun token _ => congrArg (!·) (isComment_toLower token.2)

theorem spells_toLower : Spells (significant (tokenize text.toLower)) shapes ↔
    Spells (significant (tokenize text)) shapes := by
  rw [significant_toLower, Spells, Spells, List.map_map]
  have same : (fun token : Nat × Token => token.2.shape?) ∘ Prod.map id Token.toLower =
    fun token => token.2.shape? := funext fun token => shape?_toLower token.2
  rw [same]

-- What an error would lie at is the same token in lower case, at the same offset.
theorem ahead_toLower (text : String) (left : Nat) :
    (course text.toLower).ahead left = Prod.map id Token.toLower ((course text).ahead left) := by
  apply Course.ahead_map (significant_toLower text)
  rw [course, course, utf8ByteSize_toLower]
  rfl

-- Texts that differ in the case of ASCII letters only have the same tokens, at the same offsets, but for the
-- case of what they cover, and the same verdict, by the same token.
theorem validate_caseless (same : text.toLower = other.toLower) :
    (∀ offset, (tokenAt text offset).toLower = (tokenAt other offset).toLower) ∧
    (tokenize text).map (Prod.map id Token.toLower) = (tokenize other).map (Prod.map id Token.toLower) ∧
    (validate text = .ok () ∧ validate other = .ok () ∨
      ∃ context expected offset found folded,
        validate text = .error (.mismatch context expected found offset) ∧
        validate other = .error (.mismatch context expected folded offset) ∧
        found.toLower = folded.toLower) := by
  refine ⟨?scanned, ?listed, ?judged⟩
  case scanned =>
    intro offset
    rw [← tokenAt_toLower, same, tokenAt_toLower]
  case listed => rw [← tokenize_toLower, same, tokenize_toLower]
  case judged =>
    obtain ⟨shapes, spells⟩ := exists_spells text
    have spelt : Spells (significant (tokenize other)) shapes :=
      spells_toLower.mp (same ▸ spells_toLower.mpr spells)
    rw [validate_eq spells, validate_eq spelt]
    cases recognize shapes with
    | ok => exact .inl ⟨rfl, rfl⟩
    | error fault =>
        have places : Prod.map id Token.toLower ((course text).ahead fault.left) =
            Prod.map id Token.toLower ((course other).ahead fault.left) := by
          rw [← ahead_toLower, same, ahead_toLower]
        obtain ⟨offset, found⟩ := Prod.mk.inj places
        refine .inr ⟨fault.context, fault.expected, ((course text).ahead fault.left).1, _, _, rfl, ?_, found⟩
        have place : ((course text).ahead fault.left).1 = ((course other).ahead fault.left).1 := offset
        rw [place]
        rfl

-- The letters of an escape's code decide where it ends, and a name is found where it is to end.
theorem validate_caseless_escape : "A[\\4E  P]".toLower = "a[\\4e  p]".toLower ∧
    (tokenize "A[\\4E  P]").map (Prod.map id Token.toLower) =
      (tokenize "a[\\4e  p]").map (Prod.map id Token.toLower) ∧
    ∃ expected folded,
      validate "A[\\4E  P]" = .error (.mismatch [.symbol .comma] expected (.symbol .ident "P") 7) ∧
      validate "a[\\4e  p]" = .error (.mismatch [.symbol .comma] expected folded 7) ∧
      (Token.symbol .ident "P").toLower = folded.toLower := by
  have same : "A[\\4E  P]".toLower = "a[\\4e  p]".toLower := by
    apply String.toList_inj.mp
    rw [toList_toLower, toList_toLower]
    decide
  have rejected : validate "A[\\4E  P]" = .error (.mismatch [.symbol .comma]
      [.symbol .prefixMatch, .symbol .suffixMatch, .symbol .substringMatch, .char '=', .symbol .includes,
        .symbol .dashMatch, .char ']'] (.symbol .ident "P") 7) := by
    decide +kernel
  obtain ⟨_, listed, accepted | ⟨context, expected, offset, found, folded, one, two, alike⟩⟩ :=
    validate_caseless same
  · rw [rejected] at accepted
    cases accepted.1
  · rw [rejected] at one
    cases one
    exact ⟨same, listed, _, folded, rejected, two, alike⟩

end CssSelectors
