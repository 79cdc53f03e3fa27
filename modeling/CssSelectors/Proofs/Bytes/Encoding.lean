import CssSelectors.Proofs.Token.Macros
import CssSelectors.Token.Bytes

-- What bytes tell of characters. An ASCII character is one byte of its own value, and no byte of another
-- character looks like one; so a scanner of bytes that stands between two characters sees the next one.
namespace CssSelectors

open Pattern

def encode (cs : List Char) : List UInt8 := cs.flatMap String.utf8EncodeChar

variable {c : Char} {cs rest : List Char} {test : UInt8 → Bool} {check : Char → Bool}

@[simp] theorem encode_nil : encode [] = [] := rfl

@[simp] theorem encode_cons : encode (c :: rest) = String.utf8EncodeChar c ++ encode rest := rfl

theorem encode_append (front back : List Char) : encode (front ++ back) = encode front ++ encode back :=
  List.flatMap_append ..

theorem length_encode (cs : List Char) : (encode cs).length = Text.byteLength cs := by
  induction cs with
  | nil => rfl
  | cons c rest ih => rw [encode_cons, List.length_append, String.length_utf8EncodeChar, ih, Text.byteLength_cons]

theorem bytes_toByteArray (text : String) : text.toByteArray.data.toList = encode text.toList := by
  rw [← String.utf8Encode_toList, List.utf8Encode, List.toList_data_toByteArray]
  rfl

theorem utf8Size_ascii (ascii : c.toNat < 128) : c.utf8Size = 1 := by
  rw [Char.utf8Size_eq_one_iff, UInt32.le_iff_toNat_le]
  exact Nat.le_of_lt_succ ascii

theorem encode_ascii (ascii : c.toNat < 128) : encode (c :: rest) = Byte.ofChar c :: encode rest := by
  rw [encode_cons, String.utf8EncodeChar_eq_singleton (utf8Size_ascii ascii)]
  rfl

theorem encodeChar_high (other : 128 ≤ c.toNat) : ∀ b ∈ String.utf8EncodeChar c, 128 ≤ b.toNat := by
  have wide : ¬ c.val.toNat ≤ 127 := Nat.not_le.mpr other
  have high : ∀ n, 128 ≤ n → n < 256 → 128 ≤ (UInt8.ofNat n).toNat := by
    intro n least most
    rw [UInt8.toNat_ofNat']
    omega
  intro b present
  simp only [String.utf8EncodeChar, wide, if_false] at present
  -- Two, three and four bytes.
  split at present
  · simp only [List.mem_cons, List.not_mem_nil, or_false] at present
    rcases present with rfl | rfl <;> exact high _ (by omega) (by omega)
  · split at present
    · simp only [List.mem_cons, List.not_mem_nil, or_false] at present
      rcases present with rfl | rfl | rfl <;> exact high _ (by omega) (by omega)
    · simp only [List.mem_cons, List.not_mem_nil, or_false] at present
      rcases present with rfl | rfl | rfl | rfl <;> exact high _ (by omega) (by omega)

theorem encode_other (rest : List Char) (other : 128 ≤ c.toNat) :
    ∃ b behind, encode (c :: rest) = b :: behind ∧ 128 ≤ b.toNat := by
  cases bytes : String.utf8EncodeChar c with
  | nil => exact absurd bytes String.utf8EncodeChar_ne_nil
  | cons b more =>
      refine ⟨b, more ++ encode rest, by rw [encode_cons, bytes]; rfl, ?_⟩
      exact encodeChar_high other b (bytes ▸ List.mem_cons_self)

-- A test on bytes that finds the ASCII characters of a kind and nothing else.
structure Faithful (test : UInt8 → Bool) (check : Char → Bool) : Prop where
  same : ∀ c, c.toNat < 128 → test (Byte.ofChar c) = check c
  other : ∀ c, 128 ≤ c.toNat → check c = false
  high : ∀ b : UInt8, 128 ≤ b.toNat → test b = false

namespace Faithful

-- Bytes can be told apart by going through all of them.
theorem of_table (same : ∀ n < 128, test (UInt8.ofNat n) = check (Char.ofNat n))
    (high : ∀ n < 128, test (UInt8.ofNat (128 + n)) = false)
    (other : ∀ c, check c = true → c.toNat < 128) : Faithful test check := by
  refine ⟨?_, ?_, ?_⟩
  · intro c ascii
    simpa [Byte.ofChar] using same c.toNat ascii
  · intro c beyond
    exact Bool.eq_false_iff.mpr fun holds => absurd (other c holds) (Nat.not_lt.mpr beyond)
  · intro b beyond
    have bound := b.toNat_lt
    have found := high (b.toNat - 128) (by omega)
    rwa [Nat.add_sub_cancel' beyond, UInt8.ofNat_toNat] at found

theorem char (d : Char) (ascii : d.toNat < 128) : Faithful (· == Byte.ofChar d) (· == d) := by
  have value : ∀ c : Char, c.toNat < 128 → (Byte.ofChar c).toNat = c.toNat := by
    intro c small
    rw [Byte.ofChar, UInt8.toNat_ofNat']
    omega
  refine ⟨?_, ?_, ?_⟩
  · intro c small
    rw [Bool.eq_iff_iff, beq_iff_eq, beq_iff_eq, char_eq_iff, ← UInt8.toNat_inj, value c small,
      value d ascii]
  · intro c beyond
    rw [beq_eq_false_iff_ne, ne_eq, char_eq_iff]
    omega
  · intro b beyond
    rw [beq_eq_false_iff_ne, ne_eq, ← UInt8.toNat_inj, value d ascii]
    omega

-- A byte read as a character is the same letter only if it is an ASCII one.
theorem letter (d : Char) (alpha : d.isAlpha = true) :
    Faithful (fun b => sameLetter (Byte.toChar b) d) (sameLetter d) := by
  have value : ∀ n < 128, (Char.ofNat (128 + n)).toNat = 128 + n := by decide
  have small := isAlpha_iff.mp alpha
  have lower := toNat_toLower d
  have apart : ∀ c : Char, 128 ≤ c.toNat → c.toLower ≠ d.toLower := by
    intro c beyond same
    have other := toNat_toLower c
    rw [char_eq_iff] at same
    split at lower <;> split at other <;> omega
  refine ⟨?_, ?_, ?_⟩
  · intro c ascii
    have back : Byte.toChar (Byte.ofChar c) = c := by
      rw [Byte.toChar, Byte.ofChar, UInt8.toNat_ofNat', Nat.mod_eq_of_lt (by omega), Char.ofNat_toNat]
    simp only [back, sameLetter, Bool.beq_comm]
  · intro c beyond
    exact beq_false_of_ne (apart c beyond).symm
  · intro b beyond
    have bound := b.toNat_lt
    have same := value (b.toNat - 128) (by omega)
    rw [Nat.add_sub_cancel' beyond] at same
    exact beq_false_of_ne (apart _ (by rw [Byte.toChar, same]; exact beyond))

theorem space : Faithful Byte.isSpace isSpace := by
  refine of_table (by decide) (by decide) fun c holds => ?_
  simp only [isSpace, Bool.or_eq_true, beq_iff_eq, char_eq_iff, Char.reduceToNat] at holds
  omega

theorem newline : Faithful Byte.isNewline isNewline := by
  refine of_table (by decide) (by decide) fun c holds => ?_
  simp only [isNewline, Bool.or_eq_true, beq_iff_eq, char_eq_iff, Char.reduceToNat] at holds
  omega

theorem digit : Faithful Byte.isDigit Char.isDigit := by
  refine of_table (by decide) (by decide) fun c holds => ?_
  simp only [Char.isDigit_iff_toNat, Char.reduceToNat] at holds
  omega

theorem hexDigit : Faithful Byte.isHexDigit isHexDigit := by
  refine of_table (by decide) (by decide) fun c holds => ?_
  simp only [isHexDigit, Bool.or_eq_true, Bool.and_eq_true, decide_eq_true_eq, char_le_iff,
    Char.isDigit_iff_toNat, Char.reduceToNat] at holds
  omega

theorem nameStart : Faithful Byte.isNameStart fun c => c == '_' || c.isAlpha := by
  refine of_table (by decide) (by decide) fun c holds => ?_
  simp only [Bool.or_eq_true, beq_iff_eq, char_eq_iff, isAlpha_iff, Char.reduceToNat] at holds
  omega

theorem nameChar : Faithful Byte.isNameChar fun c => c == '-' || c == '_' || c.isAlphanum := by
  refine of_table (by decide) (by decide) fun c holds => ?_
  simp only [Char.isAlphanum, Bool.or_eq_true, beq_iff_eq, char_eq_iff, isAlpha_iff,
    Char.isDigit_iff_toNat, Char.reduceToNat] at holds
  omega

theorem run_take (faithful : Faithful test check) (most : Nat) (cs : List Char) :
    Byte.run test ((encode cs).take most) = run check (cs.take most) := by
  induction cs generalizing most with
  | nil => simp [Byte.run, run]
  | cons c rest ih =>
      cases most with
      | zero => simp [Byte.run, run]
      | succ most =>
          rcases Nat.lt_or_ge c.toNat 128 with ascii | other
          · have further := ih most
            unfold Byte.run run at further ⊢
            rw [encode_ascii ascii, List.take_succ_cons, List.take_succ_cons, List.takeWhile_cons,
              List.takeWhile_cons, faithful.same c ascii]
            split
            · simpa using further
            · rfl
          · obtain ⟨b, behind, bytes, beyond⟩ := encode_other rest other
            rw [bytes, List.take_succ_cons, List.take_succ_cons]
            simp [Byte.run, run, faithful.high b beyond, faithful.other c other]

theorem run (faithful : Faithful test check) (cs : List Char) :
    Byte.run test (encode cs) = Pattern.run check cs := by
  have enough : cs.length ≤ (encode cs).length := by
    rw [length_encode]
    induction cs with
    | nil => exact Nat.le_refl _
    | cons c rest ih =>
        have positive := Char.utf8Size_pos c
        rw [List.length_cons, Text.byteLength_cons]
        omega
  have whole := faithful.run_take (encode cs).length cs
  rwa [List.take_length, List.take_of_length_le enough] at whole

-- What such a test finds is ASCII, so there are as many bytes of it as characters.
theorem byteLength (faithful : Faithful test check) (all : ∀ c ∈ cs, check c = true) :
    Text.byteLength cs = cs.length := by
  induction cs with
  | nil => rfl
  | cons c rest ih =>
      obtain ⟨holds, others⟩ := List.forall_mem_cons.mp all
      have ascii : c.toNat < 128 := by
        refine Nat.lt_of_not_le fun beyond => ?_
        rw [faithful.other c beyond] at holds
        cases holds
      rw [Text.byteLength_cons, utf8Size_ascii ascii, ih others, List.length_cons, Nat.add_comm]

end Faithful

-- A byte that a character begins with: every test sees in it what it would see in the character.
structure Heads (b : UInt8) (c : Char) : Prop where
  test : ∀ {test : UInt8 → Bool} {check : Char → Bool}, Faithful test check → test b = check c
  small : b < 0x80 ↔ c.toNat < 128

theorem Heads.eq_iff {b : UInt8} (heads : Heads b c) {d : Char} (ascii : d.toNat < 128) :
    b = Byte.ofChar d ↔ c = d := by
  have same := heads.test (.char d ascii)
  rwa [Bool.eq_iff_iff, beq_iff_eq, beq_iff_eq] at same

theorem encode_heads (c : Char) (rest : List Char) :
    ∃ b, (encode (c :: rest)).head? = some b ∧ Heads b c := by
  have limit : ∀ b : UInt8, b < 0x80 ↔ b.toNat < 128 := fun b => UInt8.lt_iff_toNat_lt
  rcases Nat.lt_or_ge c.toNat 128 with ascii | other
  · refine ⟨Byte.ofChar c, by rw [encode_ascii ascii]; rfl, fun faithful => faithful.same c ascii, ?_⟩
    rw [limit, Byte.ofChar, UInt8.toNat_ofNat', Nat.mod_eq_of_lt (by omega)]
  · obtain ⟨b, behind, bytes, high⟩ := encode_other rest other
    refine ⟨b, by rw [bytes]; rfl, fun faithful => ?_, ?_⟩
    · rw [faithful.high b high, faithful.other c other]
    · rw [limit]
      omega

-- ASCII text is found as bytes just where it is found as characters.
theorem isPrefixOf_encode {word : List Char} (ascii : ∀ c ∈ word, c.toNat < 128) (cs : List Char) :
    (encode word).isPrefixOf (encode cs) = word.isPrefixOf cs := by
  induction word generalizing cs with
  | nil => rfl
  | cons d word ih =>
      obtain ⟨small, others⟩ := List.forall_mem_cons.mp ascii
      have faithful := Faithful.char d small
      rw [encode_ascii small]
      cases cs with
      | nil => rfl
      | cons c rest =>
          rcases Nat.lt_or_ge c.toNat 128 with also | high
          · have first : (Byte.ofChar d == Byte.ofChar c) = (d == c) := by
              rw [Bool.beq_comm, faithful.same c also, Bool.beq_comm]
            rw [encode_ascii also, List.isPrefixOf_cons_cons, List.isPrefixOf_cons_cons, ih others, first]
          · obtain ⟨b, behind, bytes, beyond⟩ := encode_other rest high
            have different : (Byte.ofChar d == b) = false := Bool.beq_comm.trans (faithful.high b beyond)
            have apart : (d == c) = false := Bool.beq_comm.trans (faithful.other c high)
            rw [bytes, List.isPrefixOf_cons_cons, List.isPrefixOf_cons_cons, different, apart]
            rfl

end CssSelectors
