import CssSelectors.Proofs.Cli.Decoding
import CssSelectors.Text.Quoted

-- A quoted text can be read in one way only, although the text itself may hold quotation marks, backslashes and
-- whatever looks like an escape.
namespace CssSelectors.Text

variable {hidden also : Char → Bool} {c : Char} {cs others rest more : List Char}

-- A text splits in one way at the first character that fails a test.
theorem split_at {test : Char → Bool} {front : List Char} (passes : ∀ d ∈ front, test d = true)
    (fails : test c = false) (rest : List Char) :
    (front ++ c :: rest).takeWhile test = front ∧ (front ++ c :: rest).dropWhile test = c :: rest := by
  rw [List.takeWhile_append_of_pos passes, List.dropWhile_append_of_pos passes]
  exact ⟨by simp [fails], by simp [fails]⟩

-- The characters with a short escape, each with the letter behind its backslash.
def shortForms : List (Char × Char) :=
  [('\x00', '0'), ('\t', 't'), ('\n', 'n'), ('\r', 'r'), ('"', '"'), ('\\', '\\')]

-- A character in a quoted text, for any choice of the characters that are written by their code points.
def writeChar (hidden : Char → Bool) (c : Char) : List Char :=
  match shortForms.lookup c with
  | some letter => ['\\', letter]
  | none => if hidden c then '\\' :: 'u' :: '\x7b' :: (Nat.toDigits 16 c.toNat ++ ['\x7d']) else [c]

def quoteWith (hidden : Char → Bool) (text : String) : String :=
  String.ofList ('"' :: text.toList.flatMap (writeChar hidden) ++ ['"'])

-- The characters that leave no mark of their own.
def isHidden (c : Char) : Bool := isGraphemeExtend c || !isPrintable c

theorem escapeChar_eq (c : Char) : escapeChar c = writeChar isHidden c := by
  unfold escapeChar
  split
  case h_7 nul tab newline carriage quote backslash =>
    have other : shortForms.lookup c = none := by
      apply List.lookup_eq_none_iff.mpr
      simp only [shortForms, List.forall_mem_cons, bne_iff_ne]
      exact ⟨nul, tab, newline, carriage, quote, backslash, nofun⟩
    rw [writeChar, other]
    rfl
  all_goals rfl

theorem quote_eq (text : String) : quote text = quoteWith isHidden text := by
  rw [quote, escape, funext escapeChar_eq]
  rfl

def readCode (digits : List Char) : Nat := digits.foldl (fun code digit => 16 * code + Cli.readHex digit) 0

-- The character that was written at the front, with what is behind it. A quotation mark by itself is the end.
def readChar : List Char → Option (Char × List Char)
  | '\\' :: 'u' :: '\x7b' :: rest =>
    some (Char.ofNat (readCode (rest.takeWhile (· != '\x7d'))), (rest.dropWhile (· != '\x7d')).tail)
  | '\\' :: letter :: rest => (shortForms.find? (·.2 == letter)).map fun form => (form.1, rest)
  | '"' :: _ => none
  | c :: rest => some (c, rest)
  | [] => none

-- The digits of a code give it back, and no brace is among them.
theorem readCode_toDigits (n : Nat) :
    readCode (Nat.toDigits 16 n) = n ∧ ∀ digit ∈ Nat.toDigits 16 n, (digit != '\x7d') = true := by
  have digit : ∀ n < 16, (Nat.digitChar n != '\x7d') = true := by decide
  induction n using Nat.strongRecOn with
  | _ n ih =>
      rcases Nat.lt_or_ge n 16 with small | large
      · rw [Nat.toDigits_of_lt_base small]
        refine ⟨?_, List.forall_mem_singleton.mpr (digit n small)⟩
        simpa [readCode] using Cli.readHex_digitChar small
      · have last := Nat.mod_lt n (show 16 > 0 by decide)
        obtain ⟨code, plain⟩ := ih (n / 16) (by omega)
        rw [Nat.toDigits_of_base_le (by decide) large]
        constructor
        · rw [readCode, List.foldl_append, ← readCode, code, List.foldl_cons, Cli.readHex_digitChar last]
          exact Nat.div_add_mod n 16
        · exact List.forall_mem_append.mpr ⟨plain, List.forall_mem_singleton.mpr (digit _ last)⟩

theorem readChar_writeChar (hidden : Char → Bool) (c : Char) (rest : List Char) :
    readChar (writeChar hidden c ++ rest) = some (c, rest) := by
  unfold writeChar
  split
  · rename_i letter short
    have every : ∀ form ∈ shortForms, readChar ('\\' :: form.2 :: rest) = some (form.1, rest) := by
      simp only [shortForms, List.forall_mem_cons]
      exact ⟨rfl, rfl, rfl, rfl, rfl, rfl, nofun⟩
    obtain ⟨before, behind, parts, _⟩ := List.lookup_eq_some_iff.mp short
    exact every (c, letter) (by simp [parts])
  · rename_i other
    split
    · obtain ⟨code, plain⟩ := readCode_toDigits c.toNat
      obtain ⟨digits, behind⟩ := split_at plain (show ('\x7d' != '\x7d') = false from rfl) rest
      have whole : '\\' :: 'u' :: '\x7b' :: (Nat.toDigits 16 c.toNat ++ ['\x7d']) ++ rest =
          '\\' :: 'u' :: '\x7b' :: (Nat.toDigits 16 c.toNat ++ '\x7d' :: rest) := by simp
      rw [whole, readChar, digits, behind, code, Char.ofNat_toNat]
      rfl
    · have listed := List.lookup_eq_none_iff.mp other
      have quote : c ≠ '"' := bne_iff_ne.mp (listed ('"', '"') (by decide))
      have backslash : c ≠ '\\' := bne_iff_ne.mp (listed ('\\', '\\') (by decide))
      exact readChar.eq_4 c rest (fun _ same _ => backslash same) (fun _ _ same _ => backslash same) quote

theorem readChar_written (hidden : Char → Bool) (c : Char) (cs rest : List Char) :
    readChar ((c :: cs).flatMap (writeChar hidden) ++ rest) =
      some (c, cs.flatMap (writeChar hidden) ++ rest) := by
  rw [List.flatMap_cons, List.append_assoc, readChar_writeChar]

-- A quoted text ends at the first mark that stands by itself, whatever characters are written by their code
-- points, for there nothing can be read.
theorem written_unique
    (same : cs.flatMap (writeChar hidden) ++ '"' :: rest = others.flatMap (writeChar also) ++ '"' :: more) :
    cs = others ∧ rest = more := by
  have read := congrArg readChar same
  induction cs generalizing others with
  | nil =>
      cases others with
      | nil => exact ⟨rfl, (List.cons.inj same).2⟩
      | cons d others =>
          rw [readChar_written] at read
          cases read
  | cons c cs ih =>
      rw [readChar_written] at read
      cases others with
      | nil => cases read
      | cons d others =>
          rw [readChar_written] at read
          obtain ⟨rfl, left⟩ := Prod.mk.inj (Option.some.inj read)
          obtain ⟨rfl, behind⟩ := ih left (congrArg readChar left)
          exact ⟨rfl, behind⟩

end CssSelectors.Text
