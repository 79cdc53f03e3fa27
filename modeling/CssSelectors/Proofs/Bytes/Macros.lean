import CssSelectors.Proofs.Bytes.Ahead
import CssSelectors.Proofs.Token.Shielding

-- The macros that the scanner's rules are made of.
namespace CssSelectors.ByteScanner

open Pattern

variable {c : Char} {cs rest : List Char} {n p : Nat} {scanner : ByteScanner}
  {test : UInt8 → Bool} {check : Char → Bool}

theorem mirrors_spaces : Mirrors whitespace spaces := .run .space

theorem mirrors_escape : Mirrors escape Pattern.escape := by
  intro scanner p cs ahead
  cases cs with
  | nil => simp [escape, ahead.byte?_nil, Pattern.escape]
  | cons c rest =>
      obtain ⟨b, here, heads⟩ := ahead.byte?_cons
      have slashed := heads.eq_iff (d := '\\') (by decide)
      by_cases slash : c = '\\'
      · subst slash
        have behind : scanner.Ahead (p + 1) rest := ahead.tail
        have digits := Faithful.hexDigit.width_run_take 6 rest
        simp only [escape, here, Probe.ofOption_some, Probe.found_bind, ne_eq,
          slashed.mpr rfl, not_true_eq_false, if_false, behind.bytesFrom, Probe.ofExcept_ok,
          Faithful.hexDigit.run_take]
        cases count : Pattern.run isHexDigit (rest.take 6) with
        | zero =>
            simp only [Nat.lt_irrefl, if_false, behind.charAt]
            cases rest with
            | nil => rfl
            | cons d after =>
                rw [escape_self (letter_of_run count)]
                cases newline : isNewline d with
                | true => simp [newline]
                | false => simp [newline, utf8Size_ascii]
        | succ n =>
            rw [count] at digits
            have ending : scanner.Ahead (p + 1 + (n + 1)) (rest.drop (n + 1)) := by
              simpa [digits] using behind.drop (n + 1)
            have wide : width ('\\' :: rest) (n + 2 + Pattern.escapeEnd (rest.drop (n + 1))) =
                1 + (n + 1) + width (rest.drop (n + 1)) (Pattern.escapeEnd (rest.drop (n + 1))) := by
              rw [Nat.add_right_comm n 2, width_succ, Nat.add_right_comm n _ 1, width_add, digits,
                utf8Size_ascii (by decide), Nat.add_assoc 1]
            rw [if_pos (Nat.succ_pos n), escape_code count, ending.escapeEnd, Option.map_some, wide]
            rfl
      · rw [escape_other slash]
        simp [escape, here, mt slashed.mp slash]

theorem mirrors_nonAscii : Mirrors nonAscii (single isNonAscii) := by
  intro scanner p cs ahead
  cases cs with
  | nil => simp [nonAscii, ahead.byte?_nil, single]
  | cons c rest =>
      obtain ⟨b, here, heads⟩ := ahead.byte?_cons
      simp only [nonAscii, here, Probe.ofOption_some, Probe.found_bind, heads.small, ahead.charAt,
        List.head?_cons, single, isNonAscii]
      rcases Nat.lt_or_ge c.toNat 128 with ascii | other
      · simp [ascii, Nat.not_le.mpr ascii]
      · simp [other, Nat.not_lt.mpr other]

-- A byte that passes the test is a character of its own; all others are left to the other two.
theorem mirrors_nameUnit (faithful : Faithful test check) : Mirrors (fun s p => s.nameUnit test p)
    (Pattern.either (single fun c => check c || isNonAscii c) Pattern.escape) := by
  have others := mirrors_nonAscii.either mirrors_escape
  intro scanner p cs ahead
  have behind := others scanner p cs ahead
  cases cs with
  | nil => simp [nameUnit, ahead.byte?_nil, Pattern.either, single, Pattern.escape]
  | cons c rest =>
      obtain ⟨b, here, heads⟩ := ahead.byte?_cons
      simp only [nameUnit, here, Probe.ofOption_some, Probe.found_bind, heads.test faithful]
      cases plain : check c with
      | true =>
          simp only [if_true, Pattern.either, single, plain, Bool.true_or, Option.some_or, Option.map_some,
            faithful.width_one plain]
          rfl
      | false =>
          simpa [Pattern.either, single, plain] using behind

theorem mirrors_nameStart : Mirrors nameStart Pattern.nameStart :=
  nameStart_eq ▸ mirrors_nameUnit .nameStart

theorem mirrors_nameChar : Mirrors nameChar Pattern.nameChar :=
  nameChar_eq ▸ mirrors_nameUnit .nameChar

theorem piece_bounds {unit : Pattern} {language : Language Char} (longest : Longest unit language)
    (pieces : Pieces language) (found : unit cs = some n) : 0 < n ∧ n ≤ cs.length := by
  refine ⟨?_, longest.bounded found⟩
  have solid := pieces.solid (longest.take found)
  exact Nat.pos_of_ne_zero fun zero => solid (by rw [zero, List.take_zero])

-- A piece that takes something brings the end nearer, so that no loop over such pieces is endless.
theorem Ahead.nearer (ahead : scanner.Ahead p cs) (positive : 0 < n) (within : n ≤ cs.length) :
    scanner.bytes.length - (p + width cs n) < scanner.bytes.length - p := by
  have parts : Text.byteLength cs = width cs n + Text.byteLength (cs.drop n) := by
    rw [width, ← Text.byteLength_append, List.take_append_drop]
  have taken := (width_pos within).mpr positive
  rw [(ahead.drop n).left, ahead.left]
  omega

theorem greedy_some {unit : Pattern} (found : unit (c :: rest) = some n) (positive : 0 < n) :
    greedy unit (c :: rest) = n + greedy unit ((c :: rest).drop n) := by
  obtain ⟨m, rfl⟩ := Nat.exists_eq_succ_of_ne_zero (Nat.ne_of_gt positive)
  rw [greedy]
  simp only [found, List.drop_succ_cons]

theorem Ahead.nameTail (ahead : scanner.Ahead p cs) :
    scanner.nameTail p = .found (width cs (greedy Pattern.nameChar cs)) := by
  induction size : cs.length using Nat.strongRecOn generalizing cs p with
  | _ count ih =>
      rw [ByteScanner.nameTail, mirrors_nameChar scanner p cs ahead]
      cases found : Pattern.nameChar cs with
      | none =>
          rw [greedy_none found, width_zero]
          rfl
      | some n =>
          obtain ⟨positive, within⟩ := piece_bounds longest_nameChar pieces_nmchar found
          cases cs with
          | nil => cases found
          | cons c rest =>
              have shorter : ((c :: rest).drop n).length < count := by
                rw [← size, List.length_drop]
                omega
              simp only [Option.map_some, Probe.ofOption_some, if_pos (ahead.nearer positive within),
                ih _ shorter (ahead.drop n) rfl, greedy_some found positive, width_add, Probe.found_bind,
                Probe.pure_eq]

theorem mirrors_nameTail : Mirrors nameTail Pattern.nameTail := fun _ _ _ ahead => ahead.nameTail

theorem mirrors_name : Mirrors name Pattern.name :=
  mirrors_nameTail.nonempty fun _ _ found => longest_nameTail.bounded found

theorem mirrors_dash : Mirrors (fun s p => pure (if s.byte? p = some (Byte.ofChar '-') then 1 else 0))
    (Pattern.either (Pattern.literal "-") fun _ => some 0) := by
  intro scanner p cs ahead
  cases cs with
  | nil => simp [ahead.byte?_nil, Pattern.either, Pattern.literal]
  | cons c rest =>
      obtain ⟨b, here, heads⟩ := ahead.byte?_cons
      have dash := heads.eq_iff (d := '-') (by decide)
      by_cases same : c = '-'
      · subst same
        simp [here, dash.mpr rfl, Pattern.either, Pattern.literal]
        rfl
      · simp [here, mt dash.mp same, Pattern.either, Pattern.literal, Ne.symm same]

theorem mirrors_ident : Mirrors ident Pattern.ident := by
  have parts := mirrors_dash.followedBy (mirrors_nameStart.followedBy mirrors_nameTail)
  rw [← ident_eq] at parts
  intro scanner p cs ahead
  rw [← parts scanner p cs ahead]
  simp only [ident, Probe.pure_eq, Probe.found_bind, Probe.bind_assoc, Nat.add_assoc]

theorem Ahead.digits (ahead : scanner.Ahead p cs) :
    scanner.digits p = Pattern.run Char.isDigit cs ∧
      scanner.Ahead (p + Pattern.run Char.isDigit cs) (cs.drop (Pattern.run Char.isDigit cs)) := by
  constructor
  · simp only [ByteScanner.digits, ahead.bytesFrom?, Faithful.digit.run]
  · simpa only [Faithful.digit.width_run] using ahead.drop (Pattern.run Char.isDigit cs)

theorem mirrors_number : Mirrors number Pattern.number := by
  intro scanner p cs ahead
  obtain ⟨count, behind⟩ := ahead.digits
  have wide := Faithful.digit.width_run cs
  simp only [number, count, Pattern.number]
  generalize Pattern.run Char.isDigit cs = whole at behind wide ⊢
  have pointless : (if 0 < whole then Probe.found whole else .missed) =
      .ofOption ((if whole = 0 then none else some whole).map (width cs)) := by
    cases whole with
    | zero => rfl
    | succ n => simp [wide]
  cases parts : cs.drop whole with
  | nil =>
      rw [parts] at behind
      simpa [behind.byte?_nil] using pointless
  | cons c rest =>
      rw [parts] at behind
      obtain ⟨b, here, heads⟩ := behind.byte?_cons
      have point := heads.eq_iff (d := '.') (by decide)
      by_cases same : c = '.'
      · subst same
        have after : scanner.Ahead (p + whole + 1) rest := behind.tail
        obtain ⟨fraction, _⟩ := after.digits
        have narrow := Faithful.digit.width_run rest
        simp only [here, point.mpr rfl, fraction, true_and]
        cases digits : Pattern.run Char.isDigit rest with
        | zero => simpa using pointless
        | succ n =>
            rw [digits] at narrow
            have total : width cs (whole + 1 + (n + 1)) = whole + 1 + (n + 1) := by
              rw [Nat.add_assoc, Nat.add_comm 1, width_add, wide, parts, width_succ, narrow,
                utf8Size_ascii (by decide), Nat.add_comm 1]
            simp [total]
      · simpa [here, mt point.mp same, same] using pointless

theorem quotedUnit_backslash {mark : Char} : quotedUnit mark ('\\' :: rest) =
    ((Pattern.lineEnding isNewline rest).map (1 + ·)).or (Pattern.escape ('\\' :: rest)) := by
  rw [quotedUnit_eq, Pattern.either, Pattern.either, single, quotable_backslash, lineBreak_backslash]
  rfl

theorem quotedUnit_plain {mark : Char} (other : c ≠ '\\') :
    quotedUnit mark (c :: rest) = if isNewline c || c == mark then none else some 1 := by
  rw [quotedUnit_eq, Pattern.either, Pattern.either, lineBreak_other other, escape_other other, single,
    isQuotable, beq_eq_false_iff_ne.mpr other]
  cases newline : isNewline c with
  | true => rfl
  | false => cases ends : c == mark <;> rfl

theorem isQuote_ascii {mark : Char} (quote : isQuote mark = true) : mark.toNat < 128 := by
  rcases isQuote_cases quote with rfl | rfl <;> decide

theorem Ahead.quotedPiece {mark : Char} {b : UInt8} (ahead : scanner.Ahead p (c :: rest))
    (quote : isQuote mark = true) (heads : Heads b c) :
    scanner.quotedPiece (Byte.ofChar mark) b p =
      .found ((quotedUnit mark (c :: rest)).map (width (c :: rest))) := by
  have slash := heads.eq_iff (d := '\\') (by decide)
  have ends := heads.test (.char mark (isQuote_ascii quote))
  simp only [ByteScanner.quotedPiece, heads.test .newline, ends, slash]
  by_cases same : c = '\\'
  · subst same
    have inside : (isNewline '\\' || '\\' == mark) = false := by
      rcases isQuote_cases quote with rfl | rfl <;> decide
    have behind : scanner.Ahead (p + 1) rest := ahead.tail
    have escaped := mirrors_escape scanner p _ ahead
    rw [inside, quotedUnit_backslash]
    simp only [Bool.false_eq_true, if_false, if_true, quotedEscape, behind.lineEnding .newline, escaped]
    cases broken : Pattern.lineEnding isNewline rest with
    | some n => simp [Nat.add_comm 1, utf8Size_ascii]
    | none => cases Pattern.escape ('\\' :: rest) <;> rfl
  · rw [quotedUnit_plain same]
    cases ends : isNewline c || c == mark with
    | true => rfl
    | false => simp [same, ahead.charAt]

-- The body as bytes, with the closing mark if it follows.
def bodyWidth (mark : Char) (cs : List Char) : Nat × Bool :=
  if (cs.drop (greedy (quotedUnit mark) cs)).head? == some mark then
    (width cs (greedy (quotedUnit mark) cs) + 1, true)
  else (width cs (greedy (quotedUnit mark) cs), false)

theorem Ahead.quotedBody {mark : Char} (ahead : scanner.Ahead p cs) (quote : isQuote mark = true) :
    scanner.quotedBody (Byte.ofChar mark) p = .found (bodyWidth mark cs) := by
  have letterless := isAlpha_of_isQuote quote
  induction size : cs.length using Nat.strongRecOn generalizing cs p with
  | _ count ih =>
      rw [ByteScanner.quotedBody]
      cases cs with
      | nil =>
          rw [ahead.byte?_nil, bodyWidth, greedy_none rfl]
          rfl
      | cons c rest =>
          obtain ⟨b, here, heads⟩ := ahead.byte?_cons
          have closes := heads.test (.char mark (isQuote_ascii quote))
          simp only [here, ahead.quotedPiece quote heads, closes]
          cases found : quotedUnit mark (c :: rest) with
          | none =>
              rw [bodyWidth, greedy_none found]
              cases ends : c == mark <;> simp [ends]
          | some n =>
              obtain ⟨positive, within⟩ :=
                piece_bounds (longest_quotedUnit letterless) (pieces_piece letterless) found
              have shorter : ((c :: rest).drop n).length < count := by
                rw [← size, List.length_drop]
                omega
              simp only [Option.map_some, if_pos (ahead.nearer positive within),
                ih _ shorter (ahead.drop n) rfl, Probe.found_bind, Probe.pure_eq]
              rw [bodyWidth, bodyWidth, greedy_some found positive, width_add, List.drop_drop]
              split <;> simp [Nat.add_assoc]

theorem Ahead.quoted (ahead : scanner.Ahead p cs) : scanner.quoted p = .ofOption
    ((Pattern.quoted cs).map fun body =>
      if body.2 then (width cs body.1 + 1, true) else (width cs body.1, false)) := by
  cases cs with
  | nil => simp [ByteScanner.quoted, ahead.byte?_nil, Pattern.quoted]
  | cons c rest =>
      obtain ⟨b, here, heads⟩ := ahead.byte?_cons
      have double := heads.eq_iff (d := '"') (by decide)
      have single := heads.eq_iff (d := '\'') (by decide)
      simp only [ByteScanner.quoted, here, Probe.ofOption_some, Probe.found_bind, double, single]
      cases quote : isQuote c with
      | false =>
          have other : ¬ (c = '"' ∨ c = '\'') := by simpa [isQuote] using quote
          rw [quoted_other quote, if_neg other]
          rfl
      | true =>
          have ascii := isQuote_ascii quote
          have itself : b = Byte.ofChar c := (heads.eq_iff ascii).mpr rfl
          have behind : scanner.Ahead (p + 1) rest := utf8Size_ascii ascii ▸ ahead.tail
          rw [if_pos (isQuote_cases quote), itself, behind.quotedBody quote, quoted_mark quote]
          simp only [Probe.found_bind, bodyWidth, Option.map_some, Probe.ofOption_some, Probe.pure_eq]
          split <;> simp [utf8Size_ascii ascii, Nat.add_assoc]

-- The closing mark is one byte.
theorem width_closed (found : Pattern.quoted cs = some (n, true)) : width cs (n + 1) = width cs n + 1 := by
  cases cs with
  | nil => cases found
  | cons mark rest =>
      cases quote : isQuote mark with
      | false => simp [quoted_other quote] at found
      | true =>
          rw [quoted_mark quote] at found
          obtain ⟨rfl, closes⟩ := Prod.ext_iff.mp (Option.some.inj found)
          obtain ⟨behind, parts⟩ := List.head?_eq_some_iff.mp (beq_iff_eq.mp closes)
          have one : width (mark :: behind) 1 = 1 := by
            rw [width_succ, width_zero, utf8Size_ascii (isQuote_ascii quote)]
          rw [width_add, List.drop_succ_cons, parts, one]

theorem mirrors_string : Mirrors string Pattern.string := by
  intro scanner p cs ahead
  simp only [string, ahead.quoted, Pattern.string]
  cases found : Pattern.quoted cs with
  | none => rfl
  | some body =>
      obtain ⟨n, closed⟩ := body
      cases closed with
      | false => rfl
      | true => simp [width_closed found]

theorem mirrors_unclosed : Mirrors unclosed Pattern.unclosed := by
  intro scanner p cs ahead
  simp only [unclosed, ahead.quoted, Pattern.unclosed]
  cases found : Pattern.quoted cs with
  | none => rfl
  | some body =>
      obtain ⟨n, closed⟩ := body
      cases closed with
      | false => rfl
      | true => rfl

theorem find?_commentEnd (cs : List Char) :
    (Text.find? ['*', '/'] cs).map (· + 2) = (commentEnd cs).map (width cs) := by
  induction cs with
  | nil => rfl
  | cons c rest ih =>
      by_cases front : ['*', '/'] <+: c :: rest
      · obtain ⟨behind, same⟩ := front
        rw [← same]
        rfl
      · have apart : ['*', '/'].isPrefixOf (c :: rest) = false :=
          Bool.eq_false_iff.mpr fun holds => front (List.isPrefixOf_iff_prefix.mp holds)
        rw [commentEnd_step front, Text.find?, apart]
        simp only [Bool.false_eq_true, if_false, Option.map_map]
        cases later : Text.find? ['*', '/'] rest with
        | none =>
            rw [later] at ih
            rw [Option.map_eq_none_iff.mp ih.symm]
            rfl
        | some place =>
            rw [later] at ih
            obtain ⟨n, found, wide⟩ := Option.map_eq_some_iff.mp ih.symm
            rw [found]
            simp [Nat.add_comm 1 n, wide, Nat.add_assoc]

theorem mirrors_commentEnd : Mirrors (fun s p => do
    let body ← .ofOption (s.charsFrom? p)
    let stop ← .ofOption (Text.find? ['*', '/'] body)
    pure (stop + 2)) commentEnd := by
  intro scanner p cs ahead
  simp only [ahead.charsFrom?, Probe.ofOption_some, Probe.found_bind, ← find?_commentEnd]
  cases Text.find? ['*', '/'] cs <;> rfl

theorem mirrors_comment : Mirrors comment Pattern.comment := by
  have parts := Mirrors.behind "/*" (by simp) mirrors_commentEnd
  intro scanner p cs ahead
  rw [← Pattern.comment] at parts
  rw [← parts scanner p cs ahead]
  simp only [comment, Probe.pure_eq, Probe.found_bind, Probe.bind_assoc, Nat.add_assoc]

end CssSelectors.ByteScanner
