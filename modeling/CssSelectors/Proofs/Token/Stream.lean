import CssSelectors.Proofs.Cursor.Visiting
import CssSelectors.Proofs.Token.Rules

-- The tokens of a text in a row, and that a reader of the text meets all of them but the comments.
namespace CssSelectors

def scannerRules : List (Symbol × Language Char) := Flex.rulesWith Flex.comment

-- No two rules have one name.
theorem rule_unique {index other : Nat} {name : Symbol} {language another : Language Char}
    (one : scannerRules[index]? = some (name, language))
    (two : scannerRules[other]? = some (name, another)) : index = other ∧ language = another := by
  have distinct : (scannerRules.map Prod.fst).Nodup := by decide
  obtain ⟨within, here⟩ := List.getElem?_eq_some_iff.mp one
  have first : (scannerRules.map Prod.fst)[index]? = some name := by
    rw [List.getElem?_map, one]
    rfl
  have second : (scannerRules.map Prod.fst)[other]? = some name := by
    rw [List.getElem?_map, two]
    rfl
  obtain rfl := (List.getElem?_inj (by rwa [List.length_map]) distinct).mp (first.trans second.symm)
  rw [one] at two
  cases two
  exact ⟨rfl, rfl⟩

namespace Token

def chars : Token → List Char
  | .symbol _ lexeme => lexeme.toList
  | .literal c => [c]
  | .endOfText => []

variable {cs rest : List Char} {token : Token} {offset : Nat}

theorem byteLength_chars (token : Token) : Text.byteLength token.chars = token.byteLength := by
  cases token with
  | symbol name lexeme => exact Text.byteLength_toList lexeme
  | literal c => exact Nat.add_zero _
  | endOfText => rfl

theorem gives_chars (gives : Flex.Gives scannerRules cs token) :
    token.chars ≠ [] ∧ token.chars <+: cs := by
  cases gives with
  | symbol takes _ =>
      rw [chars, String.toList_ofList]
      exact ⟨takes.solid, takes.front⟩
  | literal first _ =>
      subst first
      exact ⟨List.cons_ne_nil _ _, List.prefix_append [_] _⟩

theorem gives_byteLength (gives : Flex.Gives scannerRules cs token) : 0 < token.byteLength := by
  rw [← byteLength_chars]
  exact Nat.pos_of_ne_zero (mt Text.byteLength_eq_zero.mp (gives_chars gives).1)

theorem gives_running (gives : Flex.Gives scannerRules cs token) : token ≠ .endOfText := by
  rintro rfl
  exact (gives_chars gives).1 rfl

theorem exists_gives (solid : cs ≠ []) : ∃ token rest, Flex.Gives scannerRules cs token ∧
    cs = token.chars ++ rest := by
  cases cs with
  | nil => exact absurd rfl solid
  | cons c behind =>
      have gives := scanFront_gives c behind
      obtain ⟨rest, parts⟩ := (gives_chars gives).2
      exact ⟨_, rest, gives, parts.symm⟩

theorem scan_induction {motive : List Char → Prop} (nil : motive [])
    (next : ∀ token rest, Flex.Gives scannerRules (token.chars ++ rest) token → motive rest →
      motive (token.chars ++ rest)) (cs : List Char) : motive cs := by
  induction size : cs.length using Nat.strongRecOn generalizing cs with
  | _ count ih =>
      by_cases empty : cs = []
      · exact empty ▸ nil
      · obtain ⟨token, rest, gives, rfl⟩ := exists_gives empty
        have solid := List.length_pos_iff.mpr (gives_chars gives).1
        refine next token rest gives (ih rest.length ?_ rest rfl)
        rw [← size, List.length_append]
        omega

theorem scanFront_length (c : Char) (rest : List Char) :
    (scanFront c rest).2 = (scanFront c rest).1.chars.length := by
  have bounds := scanFront_bounds c rest
  unfold scanFront at bounds ⊢
  cases found : longestMatch (c :: rest) with
  | none => rfl
  | some longest =>
      obtain ⟨name, n⟩ := longest
      simp only [found] at bounds
      simp only [chars, String.toList_ofList]
      rw [List.length_take_of_le bounds.2]

theorem scanAll_nil (offset : Nat) : scanAll offset [] = [] := by
  rw [scanAll]

theorem scanAll_gives (gives : Flex.Gives scannerRules (token.chars ++ rest) token) :
    scanAll offset (token.chars ++ rest) =
      (offset, token) :: scanAll (offset + token.byteLength) rest := by
  cases whole : token.chars ++ rest with
  | nil => exact absurd (List.append_eq_nil_iff.mp whole).1 (gives_chars gives).1
  | cons c behind =>
      rw [whole] at gives
      have same := (scanFront_gives c behind).unique gives
      have positive := (scanFront_bounds c behind).1
      have length := scanFront_length c behind
      have dropped : behind.drop ((scanFront c behind).2 - 1) = rest := by
        have front : (c :: behind).drop (scanFront c behind).2 = rest := by
          rw [length, same, ← whole, List.drop_left]
        rw [← front]
        cases n : (scanFront c behind).2 with
        | zero => omega
        | succ n => rfl
      rw [scanAll]
      simp only [dropped, same]

-- The first token of a text with tokens, and what is left of the text behind it.
theorem scanAll_uncons {place : Nat} {tokens : List (Nat × Token)}
    (scanned : scanAll offset cs = (place, token) :: tokens) : ∃ rest, offset = place ∧
      cs = token.chars ++ rest ∧ Flex.Gives scannerRules (token.chars ++ rest) token ∧
      scanAll (offset + token.byteLength) rest = tokens := by
  have solid : cs ≠ [] := by
    rintro rfl
    rw [scanAll_nil] at scanned
    cases scanned
  obtain ⟨first, rest, gives, rfl⟩ := exists_gives solid
  rw [scanAll_gives gives] at scanned
  obtain ⟨same, others⟩ := List.cons.inj scanned
  obtain ⟨rfl, rfl⟩ := Prod.mk.inj same
  exact ⟨rest, rfl, rfl, gives, others⟩

end Token

variable {front cs rest : List Char} {token : Token}

theorem tokenAt_gives (gives : Flex.Gives scannerRules cs token) :
    tokenAt (String.ofList (front ++ cs)) (Text.byteLength front) = token := by
  cases cs with
  | nil =>
      obtain ⟨solid, part⟩ := Token.gives_chars gives
      exact absurd (List.prefix_nil.mp part) solid
  | cons c behind =>
      rw [tokenAt_scanFront]
      exact (Token.scanFront_gives c behind).unique gives

theorem tokenAt_end (text : String) : tokenAt text text.utf8ByteSize = .endOfText := by
  have dropped : Text.dropBytes? text.utf8ByteSize text.toList = some [] :=
    Text.dropBytes?_eq_some_iff.mpr ⟨text.toList, by simp, Text.byteLength_toList text⟩
  rw [tokenAt, dropped]
  rfl

theorem tokenAt_regular (text : String) : Regular tokenAt text := by
  refine ⟨tokenAt_end text, ?_⟩
  intro offset empty
  unfold tokenAt at empty ⊢
  cases dropped : Text.dropBytes? offset text.toList with
  | none => rfl
  | some cs =>
      cases cs with
      | nil => rfl
      | cons c behind =>
          rw [dropped] at empty
          have covers := Token.gives_byteLength (Token.scanFront_gives c behind)
          exact absurd empty (Nat.pos_iff_ne_zero.mp covers)

-- The tokens that mean something to the grammar.
def significant (tokens : List (Nat × Token)) : List (Nat × Token) :=
  tokens.filter fun token => !token.2.isComment

theorem significant_append (left right : List (Nat × Token)) :
    significant (left ++ right) = significant left ++ significant right := List.filter_append ..

theorem significant_cons (token : Nat × Token) (tokens : List (Nat × Token)) :
    significant (token :: tokens) =
      if token.2.isComment then significant tokens else token :: significant tokens := by
  unfold significant
  cases ignorable : token.2.isComment with
  | true => simp [ignorable]
  | false => simp [ignorable]

-- A walk from the middle of a text meets the tokens of what is left of it.
theorem scanAll_visits (cs front : List Char) :
    Visits tokenAt (String.ofList (front ++ cs)) false (Text.byteLength front)
      (Token.scanAll (Text.byteLength front) cs) (Text.byteLength (front ++ cs)) := by
  have total : ∀ cs, (String.ofList cs).utf8ByteSize = Text.byteLength cs := Text.utf8ByteSize_ofList
  induction cs using Token.scan_induction generalizing front with
  | nil =>
      rw [List.append_nil, Token.scanAll_nil]
      apply Visits.closed .shown
      exact Token.byteLength_eq_zero.mpr (.inl (total front ▸ tokenAt_end _))
  | next token rest gives ih =>
      have here : tokenAt (String.ofList (front ++ (token.chars ++ rest)))
        (Text.byteLength front) = token := tokenAt_gives gives
      have covers := Token.gives_byteLength gives
      have next : past tokenAt (String.ofList (front ++ (token.chars ++ rest)))
          (Text.byteLength front) = Text.byteLength front + token.byteLength := by
        rw [past, here, total]
        simp only [Text.byteLength_append, Token.byteLength_chars]
        omega
      have further := ih (front ++ token.chars)
      rw [List.append_assoc, Text.byteLength_append front token.chars, Token.byteLength_chars,
        ← next] at further
      have solid : (tokenAt (String.ofList (front ++ (token.chars ++ rest)))
          (Text.byteLength front)).byteLength ≠ 0 := by
        rw [here]
        exact Nat.ne_of_gt covers
      have step := Visits.token .shown solid further
      rw [here, next] at step
      rwa [Token.scanAll_gives gives]

theorem scanAll_scans (cs front : List Char) :
    Scans tokenAt (String.ofList (front ++ cs)) (Text.byteLength front)
      (significant (Token.scanAll (Text.byteLength front) cs)) (Text.byteLength (front ++ cs)) := by
  have size : (String.ofList (front ++ cs)).utf8ByteSize = Text.byteLength (front ++ cs) :=
    Text.utf8ByteSize_ofList _
  have ends := tokenAt_end (String.ofList (front ++ cs))
  have within : Text.byteLength front ≤ (String.ofList (front ++ cs)).utf8ByteSize := by
    rw [size, Text.byteLength_append]
    exact Nat.le_add_right _ _
  exact (scanAll_visits cs front).ignoring.scans ends within (size ▸ ends)

-- What a reader meets in a text from its front on.
theorem tokenize_scans (text : String) :
    Scans tokenAt text 0 (significant (tokenize text)) text.utf8ByteSize := by
  have whole := scanAll_scans text.toList []
  rwa [List.nil_append, String.ofList_toList, Text.byteLength_toList] at whole

end CssSelectors
