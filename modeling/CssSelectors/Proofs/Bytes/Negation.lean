import CssSelectors.Proofs.Bytes.Ahead

-- The letters of a negation, whose codes are compared as text.
namespace CssSelectors.ByteScanner

open Pattern

variable {c : Char} {cs rest : List Char} {n p : Nat} {scanner : ByteScanner}
  {test : UInt8 → Bool} {check : Char → Bool}

theorem Ahead.between?_sound {stop : Nat} {part : List Char} (ahead : scanner.Ahead p cs)
    (found : scanner.between? p stop = some part) : part <+: cs := by
  have here := ahead.charsFrom?
  unfold ByteScanner.charsFrom? at here
  simp only [ByteScanner.between?, Text.between?, here] at found
  split at found
  · split at found
    · rename_i parts _ _
      cases Option.some.inj parts
      cases Option.some.inj found
      exact List.take_prefix _ _
    · cases found
  · cases found

section Letters

variable {spelling : Spelling} {high low : Char}

theorem sameText_iff {pair : Char × Char} (valid : IsCode pair) {code : List Char} :
    sameText code [pair.1, pair.2] = true ↔
      ∃ high low, code = [high, low] ∧ (high, low.toLower) = pair := by
  have first : ∀ c : Char, c.toLower = pair.1 ↔ c = pair.1 :=
    fun c => toLower_eq_iff (Spelling.isAlpha_of_isDigit valid.digit)
  have second : pair.2.toLower = pair.2 := by
    have hex := valid.hex
    have lower := toNat_toLower pair.2
    simp only [Flex.isHex, Bool.or_eq_true, Bool.and_eq_true, decide_eq_true_eq, char_le_iff,
      Char.isDigit_iff_toNat, Char.reduceToNat] at hex
    rw [char_eq_iff, lower, if_neg (by omega)]
  rw [sameText, beq_iff_eq, List.map_cons, List.map_cons, List.map_nil, (first _).mpr rfl, second]
  simp only [List.map_eq_cons_iff, List.map_eq_nil_iff, first]
  constructor
  · rintro ⟨high, _, rfl, rfl, low, _, rfl, same, rfl⟩
    exact ⟨_, low, rfl, Prod.ext rfl same⟩
  · rintro ⟨high, low, rfl, rfl⟩
    exact ⟨high, _, rfl, rfl, low, _, rfl, rfl, rfl⟩

-- The codes of a spelling are those of its letter in either case.
structure Coded (spelling : Spelling) : Prop where
  upper : Nat.toDigits 16 spelling.itself.toUpper.toNat = [spelling.upperCode.1, spelling.upperCode.2]
  lower : Nat.toDigits 16 spelling.itself.toLower.toNat = [spelling.lowerCode.1, spelling.lowerCode.2]

theorem Coded.reads (coded : Coded spelling) (code : List Char) :
    (sameText code (Nat.toDigits 16 spelling.itself.toUpper.toNat) ||
      sameText code (Nat.toDigits 16 spelling.itself.toLower.toNat)) = true ↔
      ∃ high low, code = [high, low] ∧ spelling.spells high low = true := by
  rw [Bool.or_eq_true, coded.upper, coded.lower, sameText_iff spelling.upper, sameText_iff spelling.lower]
  simp only [Spelling.spells, Bool.or_eq_true, decide_eq_true_eq]
  constructor
  · rintro (⟨high, low, same, pair⟩ | ⟨high, low, same, pair⟩)
    · exact ⟨high, low, same, .inl pair⟩
    · exact ⟨high, low, same, .inr pair⟩
  · rintro ⟨high, low, same, pair | pair⟩
    · exact .inl ⟨high, low, same, pair⟩
    · exact .inr ⟨high, low, same, pair⟩

theorem spells_ascii (spells : spelling.spells high low = true) : high.toNat < 128 ∧ low.toNat < 128 := by
  have small : ∀ pair, IsCode pair → (high, low.toLower) = pair → high.toNat < 128 ∧ low.toNat < 128 := by
    rintro pair valid rfl
    have digit := valid.digit
    have hex := valid.hex
    have lower := toNat_toLower low
    simp only [Flex.isHex, Bool.or_eq_true, Bool.and_eq_true, decide_eq_true_eq, char_le_iff,
      Char.isDigit_iff_toNat, Char.reduceToNat] at digit hex
    split at lower <;> omega
  simp only [Spelling.spells, Bool.or_eq_true, decide_eq_true_eq] at spells
  exact spells.elim (small _ spelling.upper) (small _ spelling.lower)

theorem mirrors_letterCode (coded : Coded spelling) :
    Mirrors (fun s p => s.letterCode p spelling.itself)
      (Pattern.followedBy spelling.code fun cs => some (Pattern.escapeEnd cs)) := by
  intro scanner p cs ahead
  by_cases spelled : ∃ high low after, cs = high :: low :: after ∧ spelling.spells high low = true
  · obtain ⟨high, low, after, rfl, spells⟩ := spelled
    obtain ⟨first, second⟩ := spells_ascii spells
    have wide : width (high :: low :: after) 2 = 2 := by
      rw [width_succ, width_succ, width_zero, utf8Size_ascii first, utf8Size_ascii second]
    have part := ahead.between? 2
    have behind := ahead.drop 2
    rw [wide] at part behind
    have reads := (coded.reads [high, low]).mpr ⟨high, low, rfl, spells⟩
    simp only [letterCode, part, List.take_succ_cons, List.take_zero, Probe.ofOption_some,
      Probe.found_bind, reads, if_true, behind.escapeEnd, Spelling.code_pair, spells, Option.map_some,
      width_add, wide]
    rfl
  · have untaken : Pattern.followedBy spelling.code (fun cs => some (Pattern.escapeEnd cs)) cs = none := by
      match cs with
      | [] => rfl
      | [_] => rfl
      | high :: low :: after =>
          have other : spelling.spells high low = false :=
            Bool.eq_false_iff.mpr fun spells => spelled ⟨high, low, after, rfl, spells⟩
          rw [Spelling.code_pair, other]
          rfl
    rw [untaken]
    simp only [letterCode]
    cases part : scanner.between? p (p + 2) with
    | none => rfl
    | some code =>
        have other : ¬ (sameText code (Nat.toDigits 16 spelling.itself.toUpper.toNat) ||
            sameText code (Nat.toDigits 16 spelling.itself.toLower.toNat)) = true := by
          intro same
          obtain ⟨high, low, rfl, spells⟩ := (coded.reads code).mp same
          obtain ⟨after, rfl⟩ := ahead.between?_sound part
          exact spelled ⟨high, low, after, rfl, spells⟩
        simp only [Probe.ofOption_some, Probe.found_bind, if_neg other]
        rfl

theorem isHexDigit_itself (spelling : Spelling) : Pattern.isHexDigit spelling.itself = false := by
  have solid := spelling.solid
  rw [Bool.or_eq_false_iff] at solid
  rw [← isHex_toLower, spelling.small]
  exact solid.1

theorem pattern_backslash (spelling : Spelling) (rest : List Char) : spelling.pattern ('\\' :: rest) =
    if (rest.head?.map (sameLetter spelling.itself)).getD false then some 2
    else (Pattern.followedBy (upTo 4 (· == '0')) (Pattern.followedBy spelling.code
      fun cs => some (Pattern.escapeEnd cs)) rest).map (1 + ·) := by
  cases follows : (rest.head?.map (sameLetter spelling.itself)).getD false with
  | true =>
      unfold Spelling.pattern Pattern.letter
      simp only [follows]
      rfl
  | false =>
      rw [spelling.letter_code follows]
      rfl

-- Whether the letter itself is next.
theorem Ahead.follows (ahead : scanner.Ahead p cs) :
    (scanner.byte? p).any (fun next => sameLetter (Byte.toChar next) spelling.itself) =
      (cs.head?.map (sameLetter spelling.itself)).getD false := by
  cases cs with
  | nil =>
      rw [ahead.byte?_nil]
      rfl
  | cons c rest =>
      obtain ⟨next, there, heads⟩ := ahead.byte?_cons
      rw [there]
      exact heads.test (Faithful.letter spelling.itself spelling.alpha)

-- Behind a backslash that the letter itself does not follow.
theorem Ahead.letterCode (ahead : scanner.Ahead p cs) (coded : Coded spelling) :
    (do
      let behind ← Probe.ofExcept (scanner.bytesFrom p)
      let n ← scanner.letterCode (p + Byte.run (· == Byte.ofChar '0') (behind.take 4)) spelling.itself
      pure (Byte.run (· == Byte.ofChar '0') (behind.take 4) + n)) =
    .ofOption ((Pattern.followedBy (upTo 4 (· == '0'))
      (Pattern.followedBy spelling.code fun cs => some (Pattern.escapeEnd cs)) cs).map (width cs)) := by
  have zeros : Faithful (· == Byte.ofChar '0') (· == '0') := .char '0' (by decide)
  have wide := zeros.width_run_take 4 cs
  have behind := ahead.drop (Pattern.run (· == '0') (cs.take 4))
  rw [wide] at behind
  simp only [ahead.bytesFrom, Probe.ofExcept_ok, Probe.found_bind, zeros.run_take,
    mirrors_letterCode coded scanner _ _ behind, Pattern.followedBy, upTo]
  cases spelling.code (cs.drop (Pattern.run (· == '0') (cs.take 4))) with
  | none => rfl
  | some n => simp [width_add, wide]

theorem mirrors_letter (spelling : Spelling) (coded : Coded spelling) :
    Mirrors (fun s p => s.letter p spelling.itself) spelling.pattern := by
  intro scanner p cs ahead
  have faithful := Faithful.letter spelling.itself spelling.alpha
  cases cs with
  | nil =>
      simp only [letter, ahead.byte?_nil]
      rfl
  | cons c rest =>
      obtain ⟨b, here, heads⟩ := ahead.byte?_cons
      have slashed := heads.eq_iff (d := '\\') (by decide)
      have itself : sameLetter (Byte.toChar b) spelling.itself = sameLetter spelling.itself c :=
        heads.test faithful
      simp only [letter, here, Probe.ofOption_some, Probe.found_bind, itself]
      by_cases same : sameLetter spelling.itself c = true
      · rw [spelling.pattern_eq]
        simp [same, Pattern.either, single, faithful.width_one same]
      · rw [if_neg same]
        by_cases slash : c = '\\'
        · subst slash
          have behind : scanner.Ahead (p + 1) rest := ahead.tail
          rw [if_neg (not_not.mpr (slashed.mpr rfl)), behind.follows, isHexDigit_itself, Bool.not_false,
            Bool.and_true, pattern_backslash]
          split
          · cases rest with
            | nil => rename_i none; cases none
            | cons d after =>
                rename_i first
                have wide : width ('\\' :: d :: after) 2 = 2 := by
                  rw [width_succ, faithful.width_one first, utf8Size_ascii (by decide)]
                rw [Option.map_some, wide]
                rfl
          · have tail := congrArg (fun probe => probe >>= fun n => pure (1 + n)) (behind.letterCode coded)
            simp only [Probe.bind_assoc, Probe.pure_eq, Probe.found_bind, Nat.add_assoc] at tail ⊢
            rw [tail]
            cases Pattern.followedBy (upTo 4 (· == '0')) (Pattern.followedBy spelling.code
              fun cs => some (Pattern.escapeEnd cs)) rest with
            | none => rfl
            | some n => simp [Nat.add_comm 1 n, utf8Size_ascii, Nat.add_comm 1 (width rest n)]
        · rw [if_pos (mt slashed.mp slash), spelling.pattern_eq, Pattern.either, Pattern.either,
            Spelling.escaped, Spelling.coded, behind_other slash, behind_other slash, single, if_neg same]
          rfl

theorem followedBy_assoc (first second third : Pattern) :
    Pattern.followedBy (Pattern.followedBy first second) third =
      Pattern.followedBy first (Pattern.followedBy second third) := by
  funext cs
  unfold Pattern.followedBy
  cases first cs with
  | none => rfl
  | some n =>
      simp only
      cases second (cs.drop n) with
      | none => rfl
      | some m => simp [Function.comp_def, Nat.add_assoc]

theorem nothing_followedBy (pattern : Pattern) :
    Pattern.followedBy (fun _ => some 0) pattern = pattern := by
  funext cs
  simp [Pattern.followedBy]

theorem mirrors_letters : Mirrors (fun s p => s.letters p ['n', 'o', 't'])
    (Pattern.followedBy letterN.pattern (Pattern.followedBy letterO.pattern
      (Pattern.followedBy letterT.pattern fun _ => some 0))) := by
  have nothing : Mirrors (fun s p => s.letters p []) fun _ => some 0 := by
    intro scanner p cs ahead
    simp [letters]
  exact (mirrors_letter letterN ⟨rfl, rfl⟩).followedBy
    ((mirrors_letter letterO ⟨rfl, rfl⟩).followedBy
      ((mirrors_letter letterT ⟨rfl, rfl⟩).followedBy nothing))

theorem mirrors_negation : Mirrors negation Pattern.negation := by
  have parts := (Mirrors.behind ":" (by simp) mirrors_letters).thenLiteral "(" (by simp)
  simp only [followedBy_assoc, nothing_followedBy] at parts
  intro scanner p cs ahead
  refine Eq.trans ?_ (parts scanner p cs ahead)
  simp only [negation, Probe.pure_eq, Probe.found_bind, Probe.bind_assoc]

end Letters

end CssSelectors.ByteScanner
