import CssSelectors.Proofs.Bytes.Macros
import CssSelectors.Proofs.Bytes.Negation
import CssSelectors.Proofs.Token.Stream

-- Scanning bytes never fails, whatever the text, and the tokens together are the text.
namespace CssSelectors

open Pattern

variable {text : String} {c : Char} {cs rest front : List Char} {p offset : Nat} {scanner : ByteScanner}
  {token : Token} {tokens : List (Nat × Token)} {best : Option (Symbol × Nat)} {name : Symbol}
  {found : Option Nat} {patterns : List (Symbol × Pattern)} {languages : Languages}

theorem isValid_iff_dropBytes? : String.Pos.Raw.IsValid text ⟨offset⟩ ↔
    ∃ cs, Text.dropBytes? offset text.toList = some cs := by
  rw [String.Pos.Raw.isValid_iff_exists_append]
  simp only [Text.dropBytes?_eq_some_iff]
  constructor
  · rintro ⟨early, late, rfl, place⟩
    refine ⟨late.toList, early.toList, String.toList_append, ?_⟩
    rw [Text.byteLength_toList]
    exact (congrArg String.Pos.Raw.byteIdx place).symm
  · rintro ⟨cs, front, parts, length⟩
    refine ⟨String.ofList front, String.ofList cs, ?_, ?_⟩
    · rw [← String.ofList_append, ← parts, String.ofList_toList]
    · rw [← length, ← Text.utf8ByteSize_ofList]
      rfl

-- What a rule takes, it finds in the text.
theorem Agree.bounded (agree : Agree patterns languages) :
    ∀ entry ∈ patterns, ∀ cs n, entry.2 cs = some n → n ≤ cs.length := by
  induction agree with
  | nil => exact nofun
  | cons same _ ih =>
      exact List.forall_mem_cons.mpr ⟨fun _ _ found => same.2.bounded found, ih⟩

-- The best match by its bytes.
def widen (cs : List Char) (best : Option (Symbol × Nat)) : Option (Symbol × Nat) :=
  best.map fun match_ => (match_.1, width cs match_.2)

def Bounded (cs : List Char) (best : Option (Symbol × Nat)) : Prop :=
  ∀ match_ ∈ best, match_.2 ≤ cs.length

theorem bounded_none (cs : List Char) : Bounded cs none := by
  intro match_ present
  cases present

-- One match takes more bytes than another just if it takes more characters.
theorem better_widen (name : Symbol) (sofar : Bounded cs best) (within : ∀ n ∈ found, n ≤ cs.length) :
    Token.better (widen cs best) name (found.map (width cs)) = widen cs (Token.better best name found) ∧
      Bounded cs (Token.better best name found) := by
  cases found with
  | none => exact ⟨by cases best <;> rfl, sofar⟩
  | some n =>
      have bound : n ≤ cs.length := within n rfl
      have taken : Bounded cs (some (name, n)) := by
        rintro _ ⟨⟩
        exact bound
      cases best with
      | none =>
          simp only [widen, Option.map_none, Option.map_some, Token.better, width_pos bound]
          split
          · exact ⟨rfl, taken⟩
          · exact ⟨rfl, bounded_none cs⟩
      | some longest =>
          simp only [widen, Option.map_some, Token.better, width_lt bound]
          split
          · exact ⟨rfl, taken⟩
          · exact ⟨rfl, sofar⟩

namespace ByteScanner

-- A table of rules for bytes with the patterns that they find.
def RulesMirror (rules : List (Symbol × (ByteScanner → Nat → Probe Nat)))
    (patterns : List (Symbol × Pattern)) : Prop :=
  List.Forall₂ (fun rule entry => rule.1 = entry.1 ∧ Mirrors rule.2 entry.2) rules patterns

theorem rules_mirror : RulesMirror rules Token.scanRules :=
  .cons ⟨rfl, mirrors_spaces.nonempty fun _ _ found => longest_spaces.bounded found⟩ <|
  .cons ⟨rfl, .literal (by simp)⟩ <|
  .cons ⟨rfl, .literal (by simp)⟩ <|
  .cons ⟨rfl, .literal (by simp)⟩ <|
  .cons ⟨rfl, .literal (by simp)⟩ <|
  .cons ⟨rfl, .literal (by simp)⟩ <|
  .cons ⟨rfl, mirrors_ident⟩ <|
  .cons ⟨rfl, mirrors_string⟩ <|
  .cons ⟨rfl, mirrors_ident.thenLiteral _ (by simp)⟩ <|
  .cons ⟨rfl, mirrors_number⟩ <|
  .cons ⟨rfl, .behind _ (by simp) mirrors_name⟩ <|
  .cons ⟨rfl, mirrors_spaces.thenLiteral _ (by simp)⟩ <|
  .cons ⟨rfl, mirrors_spaces.thenLiteral _ (by simp)⟩ <|
  .cons ⟨rfl, mirrors_spaces.thenLiteral _ (by simp)⟩ <|
  .cons ⟨rfl, mirrors_spaces.thenLiteral _ (by simp)⟩ <|
  .cons ⟨rfl, mirrors_negation⟩ <|
  .cons ⟨rfl, .behind _ (by simp) mirrors_ident⟩ <|
  .cons ⟨rfl, mirrors_unclosed⟩ <|
  .cons ⟨rfl, mirrors_number.thenLiteral _ (by simp)⟩ <|
  .cons ⟨rfl, mirrors_number.followedBy mirrors_ident⟩ <|
  .cons ⟨rfl, .literal (by simp)⟩ <|
  .cons ⟨rfl, .literal (by simp)⟩ <|
  .cons ⟨rfl, mirrors_comment⟩ .nil

variable {rules : List (Symbol × (ByteScanner → Nat → Probe Nat))}

theorem ahead_on (parts : text.toList = front ++ cs) : Ahead (.on text) (Text.byteLength front) cs :=
  ⟨front, by rw [← parts, String.ofList_toList], rfl⟩

theorem Ahead.isValid (ahead : Ahead (.on text) p cs) : String.Pos.Raw.IsValid text ⟨p⟩ := by
  obtain ⟨front, same, rfl⟩ := ahead
  obtain rfl : text = String.ofList (front ++ cs) := congrArg ByteScanner.text same
  exact isValid_iff_dropBytes?.mpr ⟨cs, Text.dropBytes?_eq_some_iff.mpr ⟨front, String.toList_ofList, rfl⟩⟩

theorem ahead_of_dropBytes? (found : Text.dropBytes? p text.toList = some cs) : Ahead (.on text) p cs := by
  obtain ⟨front, parts, rfl⟩ := Text.dropBytes?_eq_some_iff.mp found
  exact ahead_on parts

theorem RulesMirror.exists_pattern (mirror : RulesMirror rules patterns) :
    ∀ rule ∈ rules, ∃ pattern, Mirrors rule.2 pattern := by
  induction mirror with
  | nil => exact nofun
  | @cons rule entry _ _ same _ ih => exact List.forall_mem_cons.mpr ⟨⟨entry.2, same.2⟩, ih⟩

-- Started between two characters, a rule finds nothing or ends between two characters.
theorem rule_ends (boundary : String.Pos.Raw.IsValid text ⟨p⟩) :
    ∀ rule ∈ ByteScanner.rules, rule.2 (.on text) p = .missed ∨
      ∃ n, rule.2 (.on text) p = .found n ∧ String.Pos.Raw.IsValid text ⟨p + n⟩ := by
  intro rule present
  obtain ⟨cs, dropped⟩ := isValid_iff_dropBytes?.mp boundary
  have ahead := ahead_of_dropBytes? dropped
  obtain ⟨pattern, mirrors⟩ := RulesMirror.exists_pattern rules_mirror rule present
  rw [mirrors _ p cs ahead]
  cases pattern cs with
  | none => exact .inl rfl
  | some n => exact .inr ⟨width cs n, rfl, (ahead.drop n).isValid⟩

theorem RulesMirror.longest (mirror : RulesMirror rules patterns)
    (bounded : ∀ entry ∈ patterns, ∀ cs n, entry.2 cs = some n → n ≤ cs.length)
    (ahead : scanner.Ahead p cs) (sofar : Bounded cs best) :
    (rules.foldlM (fun best rule => do
      let found ← (rule.2 scanner p).toExcept
      pure (Token.better best rule.1 found)) (widen cs best) : Except ScanFault _) =
      .ok (widen cs (patterns.foldl (fun best entry => Token.better best entry.1 (entry.2 cs)) best)) ∧
    Bounded cs (patterns.foldl (fun best entry => Token.better best entry.1 (entry.2 cs)) best) := by
  induction mirror generalizing best with
  | nil => exact ⟨rfl, sofar⟩
  | @cons rule entry _ _ same _ ih =>
      obtain ⟨name, mirrors⟩ := same
      obtain ⟨here, others⟩ := List.forall_mem_cons.mp bounded
      have found : (rule.2 scanner p).toExcept = .ok ((entry.2 cs).map (width cs)) := by
        rw [mirrors scanner p cs ahead]
        cases entry.2 cs <;> rfl
      obtain ⟨step, after⟩ := better_widen entry.1 sofar (here cs)
      rw [List.foldlM_cons, found, name]
      show (List.foldlM _ (Token.better (widen cs best) entry.1 ((entry.2 cs).map (width cs))) _) = _ ∧ _
      rw [step]
      exact ih others after

theorem Ahead.longest (ahead : scanner.Ahead p cs) :
    scanner.longest ByteScanner.rules p = .ok (widen cs (Token.longestMatch cs)) := by
  have whole := RulesMirror.longest rules_mirror scanRules_agree.bounded ahead (bounded_none cs)
  exact whole.1

end ByteScanner

-- The scanner of bytes is the scanner of characters.
theorem byteTokenAt_eq (text : String) (offset : Nat) : byteTokenAt text offset = .ok (tokenAt text offset) := by
  unfold byteTokenAt tokenAt
  have valid : String.Pos.Raw.isValid text ⟨offset⟩ = true ↔
      ∃ cs, Text.dropBytes? offset text.toList = some cs := by
    rw [String.Pos.Raw.isValid_eq_true_iff, isValid_iff_dropBytes?]
  cases dropped : Text.dropBytes? offset text.toList with
  | none =>
      refine if_pos (.inr fun holds => ?_)
      obtain ⟨cs, found⟩ := valid.mp holds
      rw [dropped] at found
      cases found
  | some cs =>
      have ahead := ByteScanner.ahead_of_dropBytes? dropped
      obtain ⟨front, parts, rfl⟩ := Text.dropBytes?_eq_some_iff.mp dropped
      have size : text.utf8ByteSize = Text.byteLength front + Text.byteLength cs := by
        rw [← Text.byteLength_toList, parts, Text.byteLength_append]
      cases cs with
      | nil => exact if_pos (.inl (Nat.le_of_eq size))
      | cons c rest =>
          have positive := Char.utf8Size_pos c
          rw [Text.byteLength_cons] at size
          have inside : ¬ (text.utf8ByteSize ≤ Text.byteLength front ∨
              ¬ String.Pos.Raw.isValid text ⟨Text.byteLength front⟩ = true) := by
            rintro (past | split)
            · omega
            · exact split (valid.mpr ⟨_, dropped⟩)
          rw [if_neg inside]
          simp only [ahead.longest, Token.scan, Token.scanFront]
          cases Token.longestMatch (c :: rest) with
          | none =>
              show (Except.bind (ByteScanner.charsFrom (.on text) (Text.byteLength front)) _) = _
              rw [ByteScanner.charsFrom, ahead.charsFrom?]
              rfl
          | some longest =>
              obtain ⟨name, n⟩ := longest
              show (Except.bind (ByteScanner.between (.on text) (Text.byteLength front)
                (Text.byteLength front + width (c :: rest) n)) _) = _
              rw [ByteScanner.between, ahead.between?]
              rfl

-- The tokens of a text from an offset on: none is empty, each is the text where it starts and starts
-- between two characters, where the one before it ended, and the last one ends with the text.
inductive Tiles (text : String) : Nat → List (Nat × Token) → Prop where
  | done : Tiles text text.utf8ByteSize []
  | token {offset : Nat} {token : Token} {tokens : List (Nat × Token)} (front back : List Char)
      (covers : text.toList = front ++ token.chars ++ back) (place : Text.byteLength front = offset)
      (boundary : String.Pos.Raw.IsValid text ⟨offset⟩) (solid : 0 < token.byteLength)
      (later : Tiles text (offset + token.byteLength) tokens) : Tiles text offset ((offset, token) :: tokens)

theorem scanAll_tiles (parts : text.toList = front ++ cs) :
    byteTokensFrom text (Text.byteLength front) = .ok (Token.scanAll (Text.byteLength front) cs) ∧
      Tiles text (Text.byteLength front) (Token.scanAll (Text.byteLength front) cs) := by
  have size : text.utf8ByteSize = Text.byteLength front + Text.byteLength cs := by
    rw [← Text.byteLength_toList, parts, Text.byteLength_append]
  have whole : text = String.ofList (front ++ cs) := by rw [← parts, String.ofList_toList]
  induction cs using Token.scan_induction generalizing front with
  | nil =>
      rw [Text.byteLength_nil, Nat.add_zero] at size
      rw [Token.scanAll_nil, byteTokensFrom, byteTokenAt_eq, ← size, tokenAt_end]
      exact ⟨rfl, .done⟩
  | next token rest gives ih =>
      have here : tokenAt text (Text.byteLength front) = token := whole ▸ tokenAt_gives gives
      have solid := Token.gives_byteLength gives
      have running : token.isEnd = false :=
        Bool.eq_false_iff.mpr fun ended => Token.gives_running gives (Token.isEnd_iff.mp ended)
      have next : Text.byteLength (front ++ token.chars) = Text.byteLength front + token.byteLength := by
        rw [Text.byteLength_append, Token.byteLength_chars]
      rw [Text.byteLength_append, Token.byteLength_chars] at size
      have beyond : text.toList = (front ++ token.chars) ++ rest := by rw [parts, List.append_assoc]
      obtain ⟨scanned, later⟩ := ih beyond (by rw [next, size, Nat.add_assoc])
        (by rw [whole, List.append_assoc])
      rw [next] at scanned later
      have nearer : text.utf8ByteSize - (Text.byteLength front + token.byteLength) <
          text.utf8ByteSize - Text.byteLength front := by omega
      rw [Token.scanAll_gives gives]
      refine ⟨?_, .token front rest (by rw [parts, List.append_assoc]) rfl
        (ByteScanner.ahead_on parts).isValid solid later⟩
      rw [byteTokensFrom, byteTokenAt_eq, here]
      simp only [running, Bool.false_eq_true, if_false, if_pos nearer, scanned]
      rfl

theorem Tiles.flatten (tiles : Tiles text offset tokens) (parts : text.toList = front ++ cs)
    (place : Text.byteLength front = offset) : tokens.flatMap (fun token => token.2.chars) = cs := by
  induction tiles generalizing front cs with
  | done =>
      rw [← Text.byteLength_toList, parts, Text.byteLength_append] at place
      exact (Text.byteLength_eq_zero.mp (by omega)).symm
  | @token offset token tokens early back covers here _ _ _ ih =>
      have one : Text.dropBytes? offset text.toList = some cs :=
        Text.dropBytes?_eq_some_iff.mpr ⟨front, parts, place⟩
      have two : Text.dropBytes? offset text.toList = some (token.chars ++ back) :=
        Text.dropBytes?_eq_some_iff.mpr ⟨early, by rw [covers, List.append_assoc], here⟩
      obtain rfl := Option.some.inj (one.symm.trans two)
      have next : Text.byteLength (early ++ token.chars) = offset + token.byteLength := by
        rw [Text.byteLength_append, here, Token.byteLength_chars]
      rw [List.flatMap_cons, ih covers next]

theorem tokenAt_eq_end_iff : tokenAt text offset = .endOfText ↔
    text.utf8ByteSize ≤ offset ∨ ¬ String.Pos.Raw.IsValid text ⟨offset⟩ := by
  rw [isValid_iff_dropBytes?, tokenAt]
  cases dropped : Text.dropBytes? offset text.toList with
  | none => simp
  | some cs =>
      obtain ⟨front, parts, rfl⟩ := Text.dropBytes?_eq_some_iff.mp dropped
      have size : text.utf8ByteSize = Text.byteLength front + Text.byteLength cs := by
        rw [← Text.byteLength_toList, parts, Text.byteLength_append]
      cases cs with
      | nil => simp [size, Token.scan]
      | cons c rest =>
          have running : Token.scan (c :: rest) ≠ .endOfText :=
            Token.gives_running (Token.scanFront_gives c rest)
          have positive := Char.utf8Size_pos c
          rw [Text.byteLength_cons] at size
          simp only [running, false_iff, not_or, not_not, Nat.not_le]
          exact ⟨by omega, _, rfl⟩

example : tokenAt "é" 1 = .endOfText ∧ tokenAt "é" 2 = .endOfText := by decide +kernel

-- The scanner of bytes ends on every text without a fault. Its tokens tile the text, no rule leaves the
-- text or cuts a character, and there is no token just where no character starts.
theorem tokenize_lossless (text : String) :
    byteTokenize text = .ok (tokenize text) ∧
    Tiles text 0 (tokenize text) ∧
    (tokenize text).flatMap (fun token => token.2.chars) = text.toList ∧
    (∀ offset, String.Pos.Raw.IsValid text ⟨offset⟩ → ∀ rule ∈ ByteScanner.rules,
      rule.2 (.on text) offset = .missed ∨
        ∃ n, rule.2 (.on text) offset = .found n ∧ String.Pos.Raw.IsValid text ⟨offset + n⟩) ∧
    ∀ offset, byteTokenAt text offset = .ok (tokenAt text offset) ∧
      (tokenAt text offset = .endOfText ↔
        text.utf8ByteSize ≤ offset ∨ ¬ String.Pos.Raw.IsValid text ⟨offset⟩) := by
  have parts : text.toList = [] ++ text.toList := rfl
  obtain ⟨scanned, tiles⟩ := scanAll_tiles parts
  exact ⟨scanned, tiles, tiles.flatten parts rfl, fun _ => ByteScanner.rule_ends,
    fun offset => ⟨byteTokenAt_eq text offset, tokenAt_eq_end_iff⟩⟩

end CssSelectors
