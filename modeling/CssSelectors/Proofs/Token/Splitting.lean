import CssSelectors.Proofs.Bytes.Lossless
import CssSelectors.Proofs.Token.Insertion

-- A text may be cut wherever one of its tokens ends, and its two parts scanned on their own.
namespace CssSelectors

variable {cs short front back : List Char} {before after : List (Nat × Token)} {text : String}
  {token : Token} {name : Symbol} {word : List Char} {index offset : Nat}

theorem Text.dropBytes?_behind (front back : String) :
    dropBytes? front.utf8ByteSize (front ++ back).toList = some back.toList :=
  dropBytes?_eq_some_iff.mpr ⟨front.toList, String.toList_append, byteLength_toList front⟩

theorem Text.append_inj {front back first last : String} (same : front ++ back = first ++ last)
    (place : front.utf8ByteSize = first.utf8ByteSize) : front = first ∧ back = last := by
  have one := dropBytes?_behind front back
  rw [same, place, dropBytes?_behind first last] at one
  obtain rfl : last = back := String.toList_inj.mp (Option.some.inj one)
  exact ⟨(String.append_left_inj last).mp same, rfl⟩

-- What a token stands for in the text.
def Token.written (token : Token) : String := String.ofList token.chars

theorem Flex.Takes.extend (takes : Flex.Takes scannerRules short index name word) (part : short <+: cs) :
    Flex.Takes scannerRules cs index name word :=
  ⟨takes.rule, takes.front.trans part, takes.solid⟩

-- A rule looks ahead only to take more, so a token stays the best of a text that ends behind it.
theorem Flex.Gives.cut (gives : Flex.Gives scannerRules cs token) (part : short <+: cs)
    (covers : token.chars <+: short) : Flex.Gives scannerRules short token := by
  cases gives with
  | symbol takes best =>
      rw [Token.chars, String.toList_ofList] at covers
      apply Flex.Gives.symbol ⟨takes.rule, covers, takes.solid⟩
      exact fun other symbol word also => best other symbol word (also.extend part)
  | literal first none =>
      obtain ⟨rest, rfl⟩ := covers
      exact .literal rfl fun other symbol word also => none other symbol word (also.extend part)

namespace Token

theorem exists_split (tokens : scanAll offset cs = before ++ after) :
    ∃ front back, cs = front ++ back ∧ scanAll offset front = before ∧
      scanAll (offset + Text.byteLength front) back = after := by
  induction before generalizing offset cs with
  | nil => exact ⟨[], cs, rfl, scanAll_nil offset, tokens⟩
  | cons first before ih =>
      obtain ⟨place, token⟩ := first
      obtain ⟨rest, rfl, rfl, gives, others⟩ := scanAll_uncons tokens
      obtain ⟨front, back, rfl, early, late⟩ := ih others
      have alone : Flex.Gives scannerRules (token.chars ++ front) token :=
        gives.cut (by rw [← List.append_assoc]; exact List.prefix_append _ back) (List.prefix_append _ _)
      refine ⟨token.chars ++ front, back, (List.append_assoc ..).symm, ?_, ?_⟩
      · rw [scanAll_gives alone, early]
      · rw [Text.byteLength_append, byteLength_chars, ← Nat.add_assoc, late]

theorem gives_of_mem (present : (index, token) ∈ scanAll offset cs) :
    ∃ rest, Flex.Gives scannerRules rest token := by
  induction cs using scan_induction generalizing offset with
  | nil =>
      rw [scanAll_nil] at present
      cases present
  | next first rest gives ih =>
      rw [scanAll_gives gives] at present
      rcases List.mem_cons.mp present with same | later
      · cases same
        exact ⟨_, gives⟩
      · exact ih later

end Token

theorem exists_tokenize_split (tokens : tokenize text = before ++ after) :
    ∃ first last : String, text = first ++ last ∧ tokenize first = before ∧
      moved first.utf8ByteSize (tokenize last) = after ∧
      first.utf8ByteSize = (CssSelectors.front after text.utf8ByteSize).1 := by
  obtain ⟨front, back, parts, early, late⟩ := Token.exists_split tokens
  rw [Nat.zero_add] at late
  have width : (String.ofList front).utf8ByteSize = Text.byteLength front := Text.utf8ByteSize_ofList front
  have size : text.utf8ByteSize = Text.byteLength front + Text.byteLength back := by
    rw [← Text.byteLength_toList, parts, Text.byteLength_append]
  refine ⟨String.ofList front, String.ofList back, ?_, ?_, ?_, ?_⟩
  · rw [← String.ofList_append, ← parts, String.ofList_toList]
  · rw [tokenize, String.toList_ofList, early]
  · rw [width, tokenize, String.toList_ofList, ← scanAll_add, Nat.zero_add, late]
  · rw [width, size, ← late, front_scanAll]

-- Where a token of the text begins, or the last one ends.
def Boundary (text : String) (offset : Nat) : Prop :=
  offset = text.utf8ByteSize ∨ ∃ token, (offset, token) ∈ tokenize text

theorem Boundary.exists_split (boundary : Boundary text offset) :
    ∃ front back : String, text = front ++ back ∧ front.utf8ByteSize = offset ∧
      tokenize text = tokenize front ++ moved offset (tokenize back) := by
  rcases boundary with rfl | ⟨token, present⟩
  · have nothing : tokenize "" = [] := Token.scanAll_nil 0
    refine ⟨text, "", String.append_empty.symm, rfl, ?_⟩
    rw [nothing]
    exact (List.append_nil _).symm
  · obtain ⟨before, after, tokens⟩ := List.append_of_mem present
    obtain ⟨front, back, parts, early, late, place⟩ := exists_tokenize_split tokens
    refine ⟨front, back, parts, place, ?_⟩
    rw [tokens, early, ← late, place]
    rfl

theorem boundary_of_split {front back : String}
    (tokens : tokenize (front ++ back) = tokenize front ++ moved front.utf8ByteSize (tokenize back)) :
    Boundary (front ++ back) front.utf8ByteSize := by
  by_cases empty : back.toList = []
  · left
    rw [String.toList_eq_nil_iff.mp empty, String.append_empty]
  · right
    obtain ⟨token, rest, gives, parts⟩ := Token.exists_gives empty
    refine ⟨token, ?_⟩
    rw [parts] at gives
    rw [tokens, tokenize, tokenize, parts, Token.scanAll_gives gives]
    simp [moved]

theorem tokenAt_behind (front back : String) :
    tokenAt (front ++ back) front.utf8ByteSize = tokenAt back 0 := by
  rw [tokenAt, tokenAt, Text.dropBytes?_behind, Text.dropBytes?_zero]

theorem tokenize_written (gives : Flex.Gives scannerRules cs token) :
    tokenize token.written = [(0, token)] := by
  have covers := (Token.gives_chars gives).2
  have alone : Flex.Gives scannerRules (token.chars ++ []) token :=
    gives.cut (by rwa [List.append_nil]) (List.prefix_append _ [])
  have scanned : Token.scanAll 0 _ = _ := Token.scanAll_gives alone
  rw [List.append_nil, Token.scanAll_nil] at scanned
  rw [tokenize, Token.written, String.toList_ofList, scanned]

-- The tokens of a text are those of its two parts just where a token begins or the text ends. Each
-- token is that of its own lexeme, and what begins at an offset does not depend on what is before it.
theorem tokenize_splits :
    (∀ text offset, Boundary text offset → ∃ front back : String, text = front ++ back ∧
      front.utf8ByteSize = offset ∧ tokenize text = tokenize front ++ moved offset (tokenize back)) ∧
    (∀ front back : String, Boundary (front ++ back) front.utf8ByteSize ↔
      tokenize (front ++ back) = tokenize front ++ moved front.utf8ByteSize (tokenize back)) ∧
    (∀ text, ∀ token ∈ tokenize text, tokenize token.2.written = [(0, token.2)]) ∧
    ∀ front back : String,
      tokenAt (front ++ back) front.utf8ByteSize = tokenAt back 0 ∧
      byteTokenAt (front ++ back) front.utf8ByteSize = byteTokenAt back 0 := by
  refine ⟨fun text offset => Boundary.exists_split, ?parts, ?alone, ?behind⟩
  case parts =>
    intro front back
    constructor
    · intro boundary
      obtain ⟨first, last, same, place, tokens⟩ := boundary.exists_split
      obtain ⟨rfl, rfl⟩ := Text.append_inj same place.symm
      exact tokens
    · exact boundary_of_split
  case alone =>
    rintro text ⟨offset, token⟩ present
    obtain ⟨rest, gives⟩ := Token.gives_of_mem present
    exact tokenize_written gives
  case behind =>
    intro front back
    have same := tokenAt_behind front back
    refine ⟨same, ?_⟩
    rw [byteTokenAt_eq, byteTokenAt_eq, same]

-- The point is not part of the number, and the quotation is left open.
theorem tokenize_splits_point : Boundary "12.'a" 3 ∧
    (∃ front back : String, "12.'a" = front ++ back ∧ front.utf8ByteSize = 3 ∧
      tokenize "12.'a" = tokenize front ++ moved 3 (tokenize back)) ∧
    tokenize ("12." ++ "'a") = tokenize "12." ++ moved 3 (tokenize "'a") ∧
    (2, Token.literal '.') ∈ tokenize "12.'a" ∧ tokenize (Token.literal '.').written = [(0, .literal '.')] ∧
    tokenAt ("1" ++ "2.'a") 1 = tokenAt "2.'a" 0 ∧ byteTokenAt ("1" ++ "2.'a") 1 = byteTokenAt "2.'a" 0 := by
  have boundary : Boundary "12.'a" 3 := .inr ⟨.symbol .invalid "'a", by decide +kernel⟩
  have point : (2, Token.literal '.') ∈ tokenize "12.'a" := by decide +kernel
  obtain ⟨exists_parts, parts, alone, behind⟩ := tokenize_splits
  exact ⟨boundary, exists_parts _ _ boundary, (parts "12." "'a").mp boundary, point, alone _ _ point,
    behind "1" "2.'a"⟩

end CssSelectors
