import CssSelectors.Proofs.Bytes.Encoding
import CssSelectors.Proofs.Token.Rules

-- Where a character starts, the bytes ahead show the characters ahead. A rule that finds in the bytes what
-- a pattern finds in the characters neither leaves the text nor cuts a character.
namespace CssSelectors

open Pattern

namespace Probe

variable {α β γ : Type} {value : α} {next : α → Probe β}

@[simp] theorem pure_eq : (pure value : Probe α) = .found value := rfl

@[simp] theorem found_bind : (Probe.found value >>= next) = next value := rfl

@[simp] theorem missed_bind : (Probe.missed >>= next) = .missed := rfl

@[simp] theorem ofOption_some : Probe.ofOption (some value) = .found value := rfl

@[simp] theorem ofOption_none : (Probe.ofOption none : Probe α) = .missed := rfl

@[simp] theorem ofExcept_ok : Probe.ofExcept (.ok value) = .found value := rfl

@[simp] theorem orElse_found {second : Probe α} : (Probe.found value).orElse second = .found value := rfl

@[simp] theorem orElse_missed {second : Probe α} : Probe.missed.orElse second = second := rfl

theorem bind_assoc (probe : Probe α) (next : α → Probe β) (last : β → Probe γ) :
    (probe >>= next >>= last) = probe >>= fun value => next value >>= last := by
  cases probe <;> rfl

end Probe

-- The bytes that a number of characters from the front take.
def width (cs : List Char) (n : Nat) : Nat := Text.byteLength (cs.take n)

variable {c : Char} {cs rest : List Char} {n m p : Nat} {scanner : ByteScanner}
  {test : UInt8 → Bool} {check : Char → Bool}

@[simp] theorem width_zero : width cs 0 = 0 := by simp [width]

@[simp] theorem width_succ : width (c :: rest) (n + 1) = c.utf8Size + width rest n := by
  simp [width]

theorem width_add (cs : List Char) (n m : Nat) : width cs (n + m) = width cs n + width (cs.drop n) m := by
  rw [width, List.take_add, Text.byteLength_append]
  rfl

theorem width_pos (within : n ≤ cs.length) : 0 < width cs n ↔ 0 < n := by
  rw [Nat.pos_iff_ne_zero, Nat.pos_iff_ne_zero, width, ne_eq, Text.byteLength_eq_zero, List.take_eq_nil_iff]
  constructor
  · exact fun solid zero => solid (.inl zero)
  · rintro positive (zero | rfl)
    · exact positive zero
    · exact positive (Nat.le_zero.mp within)

theorem width_lt (within : m ≤ cs.length) : width cs n < width cs m ↔ n < m := by
  rcases Nat.lt_or_ge n m with less | enough
  · obtain ⟨more, rfl⟩ := Nat.exists_eq_add_of_lt less
    have left : more + 1 ≤ (cs.drop n).length := by
      rw [List.length_drop]
      omega
    have positive := (width_pos left).mpr (Nat.succ_pos more)
    rw [Nat.add_assoc, width_add]
    omega
  · obtain ⟨more, rfl⟩ := Nat.exists_eq_add_of_le enough
    rw [width_add]
    omega

namespace Faithful

theorem width_run_take (faithful : Faithful test check) (most : Nat) (cs : List Char) :
    width cs (Pattern.run check (cs.take most)) = Pattern.run check (cs.take most) := by
  have front : (cs.take most).takeWhile check <+: cs :=
    (List.takeWhile_prefix _).trans (List.take_prefix _ _)
  rw [width, Pattern.run, ← List.prefix_iff_eq_take.mp front]
  exact faithful.byteLength (List.all_eq_true.mp List.all_takeWhile)

theorem width_run (faithful : Faithful test check) (cs : List Char) :
    width cs (Pattern.run check cs) = Pattern.run check cs := by
  simpa using faithful.width_run_take cs.length cs

theorem width_one (faithful : Faithful test check) (holds : check c = true) : width (c :: rest) 1 = 1 := by
  have alone : Text.byteLength [c] = 1 := faithful.byteLength (List.forall_mem_singleton.mpr holds)
  simpa [width] using alone

end Faithful

namespace ByteScanner

-- At a position between two characters, the characters that are ahead.
def Ahead (scanner : ByteScanner) (p : Nat) (cs : List Char) : Prop :=
  ∃ front, scanner = .on (String.ofList (front ++ cs)) ∧ Text.byteLength front = p

namespace Ahead

theorem bytes (ahead : scanner.Ahead p cs) :
    p ≤ scanner.bytes.length ∧ scanner.bytes.drop p = encode cs := by
  obtain ⟨front, rfl, rfl⟩ := ahead
  simp only [ByteScanner.on, bytes_toByteArray, String.toList_ofList, encode_append, List.length_append,
    length_encode]
  exact ⟨Nat.le_add_right _ _, List.drop_left' (length_encode front)⟩

theorem drop (ahead : scanner.Ahead p cs) (n : Nat) : scanner.Ahead (p + width cs n) (cs.drop n) := by
  obtain ⟨front, rfl, rfl⟩ := ahead
  refine ⟨front ++ cs.take n, ?_, by rw [Text.byteLength_append]; rfl⟩
  rw [List.append_assoc, List.take_append_drop]

theorem tail (ahead : scanner.Ahead p (c :: rest)) : scanner.Ahead (p + c.utf8Size) rest := by
  simpa using ahead.drop 1

theorem left (ahead : scanner.Ahead p cs) : scanner.bytes.length - p = Text.byteLength cs := by
  obtain ⟨_, same⟩ := ahead.bytes
  rw [← length_encode, ← same, List.length_drop]

theorem byte?_nil (ahead : scanner.Ahead p []) : scanner.byte? p = none := by
  obtain ⟨_, same⟩ := ahead.bytes
  rw [ByteScanner.byte?, ← List.head?_drop, same]
  rfl

theorem byte?_cons (ahead : scanner.Ahead p (c :: rest)) :
    ∃ b, scanner.byte? p = some b ∧ Heads b c := by
  obtain ⟨_, same⟩ := ahead.bytes
  rw [ByteScanner.byte?, ← List.head?_drop, same]
  exact encode_heads c rest

theorem bytesFrom? (ahead : scanner.Ahead p cs) : scanner.bytesFrom? p = some (encode cs) := by
  obtain ⟨within, same⟩ := ahead.bytes
  rw [ByteScanner.bytesFrom?, if_pos within, same]

theorem bytesFrom (ahead : scanner.Ahead p cs) : scanner.bytesFrom p = .ok (encode cs) := by
  rw [ByteScanner.bytesFrom, ahead.bytesFrom?]

theorem charsFrom? (ahead : scanner.Ahead p cs) : scanner.charsFrom? p = some cs := by
  obtain ⟨front, rfl, rfl⟩ := ahead
  rw [ByteScanner.charsFrom?]
  exact Text.dropBytes?_eq_some_iff.mpr ⟨front, String.toList_ofList, rfl⟩

theorem charAt (ahead : scanner.Ahead p cs) : scanner.charAt p = .ofOption cs.head? := by
  simp [ByteScanner.charAt, ahead.charsFrom?]

theorem between? (ahead : scanner.Ahead p cs) (n : Nat) :
    scanner.between? p (p + width cs n) = some (cs.take n) := by
  have here := ahead.charsFrom?
  have there := (ahead.drop n).charsFrom?
  unfold ByteScanner.charsFrom? at here there
  simp only [ByteScanner.between?, Text.between?, here, there, Nat.le_add_right, if_true, List.length_drop,
    Option.some.injEq]
  rw [List.take_eq_take_iff]
  omega

theorem literal? (ahead : scanner.Ahead p cs) {expected : String}
    (ascii : ∀ c ∈ expected.toList, c.toNat < 128) :
    scanner.literal? p expected = (Pattern.literal expected cs).map (width cs) := by
  simp only [ByteScanner.literal?, ahead.bytesFrom?, bytes_toByteArray, Option.filter,
    isPrefixOf_encode ascii, Pattern.literal]
  split
  · rename_i front
    obtain ⟨rest, rfl⟩ := List.isPrefixOf_iff_prefix.mp front
    rw [Option.map_some, Option.map_some, width, ← String.length_toList, List.take_left,
      Text.byteLength_toList]
  · rfl

theorem lineEnding (ahead : scanner.Ahead p cs) (faithful : Faithful test check) :
    scanner.lineEnding test p = (Pattern.lineEnding check cs).map (width cs) := by
  have pair : scanner.literal? p "\r\n" = (Pattern.literal "\r\n" cs).map (width cs) :=
    ahead.literal? (by simp)
  unfold ByteScanner.lineEnding
  rw [pair, Option.isSome_map]
  cases cs with
  | nil =>
      rw [ahead.byte?_nil]
      rfl
  | cons c rest =>
      obtain ⟨b, here, heads⟩ := ahead.byte?_cons
      by_cases both : ∃ behind, c = '\r' ∧ rest = '\n' :: behind
      · obtain ⟨behind, rfl, rfl⟩ := both
        rfl
      · have apart : Pattern.literal "\r\n" (c :: rest) = none := by
          apply if_neg
          intro front
          obtain ⟨behind, same⟩ := List.isPrefixOf_iff_prefix.mp front
          obtain ⟨first, second⟩ := List.cons.inj same
          exact both ⟨behind, first.symm, second.symm⟩
        rw [apart, here, lineEnding_single fun behind first second => both ⟨behind, first, second⟩]
        simp only [Option.isSome_none, Bool.false_eq_true, if_false, Option.any_some, heads.test faithful]
        split
        · rename_i holds
          rw [Option.map_some, faithful.width_one holds]
        · rfl

theorem escapeEnd (ahead : scanner.Ahead p cs) :
    scanner.escapeEnd p = width cs (Pattern.escapeEnd cs) := by
  have same := congrFun escapeEnd_eq cs
  rw [ByteScanner.escapeEnd, ahead.lineEnding .space]
  unfold Pattern.either at same
  cases ending : Pattern.lineEnding isSpace cs with
  | none =>
      rw [ending] at same
      rw [Option.some.inj same]
      exact width_zero.symm
  | some n =>
      rw [ending] at same
      rw [Option.some.inj same]
      rfl

end Ahead

-- A rule for bytes finds what a pattern finds.
def Mirrors (rule : ByteScanner → Nat → Probe Nat) (pattern : Pattern) : Prop :=
  ∀ scanner p cs, Ahead scanner p cs → rule scanner p = .ofOption ((pattern cs).map (width cs))

namespace Mirrors

variable {rule other : ByteScanner → Nat → Probe Nat} {first second pattern : Pattern}
  {expected : String}

theorem followedBy (one : Mirrors rule first) (two : Mirrors other second) :
    Mirrors (fun s p => do
      let n ← rule s p
      let m ← other s (p + n)
      pure (n + m)) (followedBy first second) := by
  intro scanner p cs ahead
  simp only [one scanner p cs ahead, Pattern.followedBy]
  cases first cs with
  | none => rfl
  | some n =>
      simp only [Option.map_some, Probe.ofOption_some, Probe.found_bind, two scanner _ _ (ahead.drop n)]
      cases second (cs.drop n) with
      | none => rfl
      | some m => simp [width_add]

theorem nonempty (mirrors : Mirrors rule pattern) (bounded : ∀ cs n, pattern cs = some n → n ≤ cs.length) :
    Mirrors (fun s p => (rule s p).filter (0 < ·)) (nonempty pattern) := by
  intro scanner p cs ahead
  simp only [mirrors scanner p cs ahead, Pattern.nonempty]
  cases found : pattern cs with
  | none => rfl
  | some n =>
      have solid := width_pos (bounded cs n found)
      simp only [Option.map_some, Probe.ofOption_some, Probe.filter, Option.filter, solid]
      split <;> rfl

theorem run (faithful : Faithful test check) :
    Mirrors (fun s p => do
      let bytes ← .ofOption (s.bytesFrom? p)
      pure (Byte.run test bytes)) fun cs => some (run check cs) := by
  intro scanner p cs ahead
  simp [ahead.bytesFrom?, faithful.run, faithful.width_run]

theorem literal (ascii : ∀ c ∈ expected.toList, c.toNat < 128) :
    Mirrors (fun s p => s.literal p expected) (Pattern.literal expected) := by
  intro scanner p cs ahead
  simp only [ByteScanner.literal, ahead.literal? ascii]

theorem thenLiteral (mirrors : Mirrors rule pattern) (expected : String)
    (ascii : ∀ c ∈ expected.toList, c.toNat < 128) :
    Mirrors (fun s p => do
      let n ← rule s p
      s.thenLiteral p n expected) (Pattern.followedBy pattern (Pattern.literal expected)) :=
  mirrors.followedBy (literal ascii)

theorem behind (expected : String) (ascii : ∀ c ∈ expected.toList, c.toNat < 128)
    (mirrors : Mirrors rule pattern) :
    Mirrors (fun s p => do
      let n ← s.literal p expected
      let m ← rule s (p + n)
      pure (n + m)) (Pattern.followedBy (Pattern.literal expected) pattern) :=
  (literal ascii).followedBy mirrors

theorem either (one : Mirrors rule first) (two : Mirrors other second) :
    Mirrors (fun s p => (rule s p).orElse (other s p)) (either first second) := by
  intro scanner p cs ahead
  simp only [one scanner p cs ahead, two scanner p cs ahead, Pattern.either]
  cases first cs with
  | none => rfl
  | some n => rfl

end Mirrors

end ByteScanner

end CssSelectors
