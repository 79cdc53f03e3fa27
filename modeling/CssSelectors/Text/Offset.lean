namespace CssSelectors.Text

-- Positions in a text are byte offsets into its UTF-8 form. Characters are the unit of reading, so
-- the two functions here are all that ties an offset to a suffix of the text.
def byteLength : List Char → Nat
  | [] => 0
  | c :: rest => c.utf8Size + byteLength rest

-- The characters from a byte offset on: none when the offset is past the end or inside a character.
def dropBytes? : Nat → List Char → Option (List Char)
  | 0, cs => some cs
  | _ + 1, [] => none
  | n + 1, c :: rest => if c.utf8Size ≤ n + 1 then dropBytes? (n + 1 - c.utf8Size) rest else none

@[simp] theorem byteLength_nil : byteLength [] = 0 := rfl

@[simp] theorem byteLength_cons (c : Char) (rest : List Char) :
    byteLength (c :: rest) = c.utf8Size + byteLength rest := rfl

@[simp] theorem byteLength_append (front back : List Char) :
    byteLength (front ++ back) = byteLength front + byteLength back := by
  induction front with
  | nil => simp
  | cons c rest ih => simp [ih, Nat.add_assoc]

theorem byteLength_eq_zero {cs : List Char} : byteLength cs = 0 ↔ cs = [] := by
  cases cs with
  | nil => simp
  | cons c rest =>
      have positive := Char.utf8Size_pos c
      constructor
      · intro zero
        rw [byteLength_cons] at zero
        omega
      · intro empty
        cases empty

@[simp] theorem dropBytes?_zero (cs : List Char) : dropBytes? 0 cs = some cs := by
  cases cs <;> rfl

theorem dropBytes?_append (front back : List Char) (extra : Nat) :
    dropBytes? (byteLength front + extra) (front ++ back) = dropBytes? extra back := by
  induction front with
  | nil => simp
  | cons c rest ih =>
      have positive := Char.utf8Size_pos c
      obtain ⟨n, shape⟩ : ∃ n, c.utf8Size + byteLength rest + extra = n + 1 :=
        ⟨c.utf8Size + byteLength rest + extra - 1, by omega⟩
      have fits : c.utf8Size ≤ n + 1 := by omega
      have remains : n + 1 - c.utf8Size = byteLength rest + extra := by omega
      rw [byteLength_cons, shape, List.cons_append, dropBytes?, if_pos fits, remains, ih]

theorem dropBytes?_eq_some_iff {n : Nat} {cs back : List Char} :
    dropBytes? n cs = some back ↔ ∃ front, cs = front ++ back ∧ byteLength front = n := by
  constructor
  · intro found
    induction cs generalizing n with
    | nil =>
        cases n with
        | zero => exact ⟨[], by simpa using found, rfl⟩
        | succ n => simp [dropBytes?] at found
    | cons c rest ih =>
        cases n with
        | zero => exact ⟨[], by simpa using found, rfl⟩
        | succ n =>
            rw [dropBytes?] at found
            split at found
            · obtain ⟨front, parts, length⟩ := ih found
              exact ⟨c :: front, by rw [parts]; rfl, by rw [byteLength_cons, length]; omega⟩
            · cases found
  · rintro ⟨front, rfl, rfl⟩
    simpa using dropBytes?_append front back 0

theorem size_utf8Encode (cs : List Char) : cs.utf8Encode.size = byteLength cs := by
  induction cs with
  | nil => simp
  | cons c rest ih =>
      rw [List.utf8Encode_cons, ByteArray.size_append, ih]
      simp [List.utf8Encode]

theorem byteLength_toList (text : String) : byteLength text.toList = text.utf8ByteSize := by
  rw [← size_utf8Encode, String.utf8Encode_toList]
  rfl

theorem utf8ByteSize_ofList (cs : List Char) : (String.ofList cs).utf8ByteSize = byteLength cs := by
  rw [← byteLength_toList, String.toList_ofList]

end CssSelectors.Text
