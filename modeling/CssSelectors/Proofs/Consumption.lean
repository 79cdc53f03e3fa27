import CssSelectors.Proofs.AskedOnce
import CssSelectors.Proofs.Token.Splitting

-- A text that is accepted was read to its end, and every token of it was looked at and no other place.
namespace CssSelectors

variable {text : String} {before after : List (Nat × Token)} {token : Token} {place : Nat}

-- In the row of a text's tokens each is the one that begins where it stands, and the next one begins
-- where a reader comes to behind it.
theorem tokenize_next (tokens : tokenize text = before ++ (place, token) :: after) :
    tokenAt text place = token ∧
      past tokenAt text place = (front after text.utf8ByteSize).1 := by
  obtain ⟨early, behind, parts, _, late⟩ := Token.exists_split tokens
  obtain ⟨rest, here, covers, gives, others⟩ := Token.scanAll_uncons late
  rw [Nat.zero_add] at here others
  have whole : text = String.ofList (early ++ (token.chars ++ rest)) := by
    rw [← covers, ← parts, String.ofList_toList]
  have size : text.utf8ByteSize = place + token.byteLength + Text.byteLength rest := by
    rw [whole, Text.utf8ByteSize_ofList, Text.byteLength_append, Text.byteLength_append,
      Token.byteLength_chars, here, Nat.add_assoc]
  have reported : tokenAt text place = token := by
    rw [whole, ← here]
    exact tokenAt_gives gives
  refine ⟨reported, ?_⟩
  rw [here] at others
  have next := front_scanAll (place + token.byteLength) rest
  rw [others, ← size] at next
  rw [next, past, reported]
  omega

theorem running_of_mem (present : (place, token) ∈ tokenize text) : token ≠ .endOfText := by
  obtain ⟨rest, gives⟩ := Token.gives_of_mem present
  exact Token.gives_running gives

theorem front_le (tokens : tokenize text = before ++ after) :
    (front after text.utf8ByteSize).1 ≤ text.utf8ByteSize := by
  obtain ⟨first, last, parts, _, _, width⟩ := exists_tokenize_split tokens
  rw [← width, parts, String.utf8ByteSize_append]
  exact Nat.le_add_right _ _

theorem nodup_scanAll (cs : List Char) (offset : Nat) : (Token.scanAll offset cs).Nodup := by
  induction cs using Token.scan_induction generalizing offset with
  | nil =>
      rw [Token.scanAll_nil]
      exact List.nodup_nil
  | next token rest gives ih =>
      rw [Token.scanAll_gives gives]
      refine List.nodup_cons.mpr ⟨fun again => ?_, ih _⟩
      have solid := Token.gives_byteLength gives
      have later := scanAll_le rest (offset + token.byteLength) _ again
      simp only at later
      omega

-- No token occurs twice in the row, nor does the end.
theorem nodup_tokens (text : String) : (tokenize text ++ [(text.utf8ByteSize, Token.endOfText)]).Nodup := by
  refine List.nodup_append.mpr ⟨nodup_scanAll _ _, List.nodup_singleton _, ?_⟩
  rintro ⟨place, token⟩ present last ended same
  have running := running_of_mem present
  rw [List.mem_singleton.mp ended] at same
  exact running (congrArg Prod.snd same)

namespace Cursor

variable {cursor middle : Cursor}

theorem valid_ended {ended : Cursor} (stopped : cursor.valid = (false, ended)) :
    ended.cache.lookup ended.offset = some .endOfText := by
  obtain ⟨there, _, read⟩ := cursor.current_route
  obtain ⟨finished, rfl⟩ := Prod.mk.inj stopped
  have last : cursor.current.1 = .endOfText := by simpa [Token.isEnd] using finished
  rw [read] at last ⊢
  rw [← last, fetch_offset]
  exact there.fetch_remembers

-- Before the position every token of the text is remembered, and nothing is but these tokens and the end.
structure Covers (cursor : Cursor) (text : String) : Prop where
  asks : cursor.tokenizer = tokenAt
  holds : cursor.source = text
  known : ∀ entry ∈ cursor.cache, entry ∈ tokenize text ∨ entry = (text.utf8ByteSize, .endOfText)
  standing : ∃ done rest, tokenize text = done ++ rest ∧
    cursor.offset = (front rest text.utf8ByteSize).1 ∧ done ⊆ cursor.cache

theorem Covers.ignoringComments (covers : cursor.Covers text) (ignore : Bool) :
    (cursor.ignoringComments ignore).Covers text :=
  ⟨covers.asks, covers.holds, covers.known, covers.standing⟩

theorem covers_load (asks : cursor.tokenizer = tokenAt) (text : String) : (cursor.load text).Covers text := by
  have begins := front_scanAll 0 text.toList
  rw [Nat.zero_add, Text.byteLength_toList] at begins
  exact ⟨asks, rfl, nofun, [], tokenize text, rfl, begins.symm, nofun⟩

theorem Covers.size (covers : cursor.Covers text) : cursor.size = text.utf8ByteSize := by
  rw [Cursor.size, covers.holds]

theorem Covers.within (covers : cursor.Covers text) : cursor.offset ≤ text.utf8ByteSize := by
  obtain ⟨done, rest, tokens, position, _⟩ := covers.standing
  exact position ▸ front_le tokens

-- What is fetched is the token that begins here, or the end behind the last one.
theorem Covers.fetched (covers : cursor.Covers text) : cursor.fetch.1 = tokenAt text cursor.offset := by
  cases remembered : cursor.cache.lookup cursor.offset with
  | none => simp only [Cursor.fetch, remembered, ask, covers.asks, covers.holds]
  | some token =>
      simp only [Cursor.fetch, remembered]
      rcases covers.known _ (mem_of_remembered remembered) with present | ended
      · obtain ⟨before, after, tokens⟩ := List.append_of_mem present
        exact (tokenize_next tokens).1.symm
      · obtain ⟨position, last⟩ := Prod.mk.inj ended
        rw [last, position, tokenAt_end]

theorem Covers.fetch (covers : cursor.Covers text) : cursor.fetch.2.Covers text := by
  obtain ⟨done, rest, tokens, position, remembered⟩ := covers.standing
  obtain ⟨after, fetched, place, grows⟩ := cursor.fetch_spec
  have here : (cursor.offset, tokenAt text cursor.offset) ∈ tokenize text ∨
      (cursor.offset, tokenAt text cursor.offset) = (text.utf8ByteSize, .endOfText) := by
    cases rest with
    | nil => exact .inr (by rw [position, front_nil, tokenAt_end])
    | cons token rest =>
        left
        rw [position, front_cons, (tokenize_next tokens).1, tokens]
        exact List.mem_append_right _ List.mem_cons_self
  refine ⟨cursor.fetch_tokenizer.trans covers.asks, cursor.fetch_source.trans covers.holds, ?_,
    done, rest, tokens, cursor.fetch_offset.trans position, ?_⟩
  · cases known : cursor.cache.lookup cursor.offset with
    | some token => simpa only [Cursor.fetch, known] using covers.known
    | none =>
        simp only [Cursor.fetch, known, ask, covers.asks, covers.holds]
        exact List.forall_mem_cons.mpr ⟨here, covers.known⟩
  · rw [fetched]
    exact fun entry present => grows.cache.subset (remembered present)

theorem Covers.passed (covers : cursor.Covers text) : cursor.passed.Covers text := by
  obtain ⟨asks, holds, known, _⟩ := covers.fetch
  obtain ⟨done, rest, tokens, position, remembered⟩ := covers.standing
  have grown : done ⊆ cursor.fetch.2.cache := by
    obtain ⟨after, fetched, _, grows⟩ := cursor.fetch_spec
    rw [fetched]
    exact fun entry present => grows.cache.subset (remembered present)
  have onward : cursor.after cursor.fetch.1 = past tokenAt text cursor.offset := by
    rw [after, past, covers.fetched, covers.size]
  refine ⟨asks, holds, known, ?_⟩
  cases rest with
  | nil =>
      refine ⟨done, [], tokens, ?_, grown⟩
      rw [Cursor.passed, offset_moveTo, onward, position, front_nil, past]
      exact Nat.min_eq_right (Nat.le_add_right _ _)
  | cons token rest =>
      obtain ⟨place, token⟩ := token
      rw [front_cons] at position
      obtain ⟨reported, next⟩ := tokenize_next tokens
      refine ⟨done ++ [(place, token)], rest, by rw [tokens, List.append_assoc]; rfl, ?_, ?_⟩
      · rw [Cursor.passed, offset_moveTo, onward, position, next]
      · have looked := mem_of_remembered cursor.fetch_remembers
        rw [covers.fetched, position, reported] at looked
        exact List.append_subset.mpr ⟨grown, List.cons_subset.mpr ⟨looked, List.nil_subset _⟩⟩

-- Who goes back stands again between the tokens where that was, and has seen no fewer.
theorem Covers.returned {visited : Cursor} (been : visited.Covers text) (grows : visited.Grows cursor)
    (covers : cursor.Covers text) : (cursor.seek visited.offset).Covers text := by
  obtain ⟨done, rest, tokens, position, remembered⟩ := been.standing
  refine ⟨covers.asks, covers.holds, covers.known, done, rest, tokens, ?_, ?_⟩
  · rw [Cursor.seek, offset_moveTo, covers.size, Nat.min_eq_left been.within, position]
  · exact fun entry present => grows.cache.subset (remembered present)

theorem stable_covers (text : String) : Stable (·.Covers text) where
  looked _ covers := covers.fetch
  passed _ covers := covers.passed
  returned _ _ grows been covers := been.returned grows covers

theorem Covers.leads (covers : cursor.Covers text) (leads : cursor.Leads middle) : middle.Covers text :=
  leads.keeps (stable_covers text) covers

-- Where the end is remembered there is no token left.
theorem Covers.ended (covers : cursor.Covers text)
    (remembered : cursor.cache.lookup cursor.offset = some .endOfText) :
    cursor.offset = text.utf8ByteSize ∧
      ∀ entry, entry ∈ cursor.cache ↔ entry ∈ tokenize text ++ [(text.utf8ByteSize, .endOfText)] := by
  have last := mem_of_remembered remembered
  have position : cursor.offset = text.utf8ByteSize := by
    rcases covers.known _ last with present | ended
    · exact absurd rfl (running_of_mem present)
    · exact congrArg Prod.fst ended
  refine ⟨position, fun entry => ⟨fun present => ?_, fun present => ?_⟩⟩
  · exact List.mem_append.mpr ((covers.known entry present).imp_right List.mem_singleton.mpr)
  · rcases List.mem_append.mp present with token | ended
    · obtain ⟨done, rest, tokens, here, all⟩ := covers.standing
      cases rest with
      | nil =>
          rw [List.append_nil] at tokens
          exact all (tokens ▸ token)
      | cons next rest =>
          have present : (next.1, next.2) ∈ tokenize text := by
            rw [tokens]
            exact List.mem_append_right _ List.mem_cons_self
          have running := running_of_mem present
          rw [front_cons] at here
          have reported := (tokenize_next tokens).1
          rw [← here, position, tokenAt_end] at reported
          exact absurd reported.symm running
    · rw [List.mem_singleton.mp ended, ← position]
      exact last

end Cursor

-- A repetition that matches has stopped where its first step did not.
theorem Parser.repeatWhile_last {head tail : Recognizer} {parser ended : Parser}
    (ran : repeatWhile head tail parser = (.ok true, ended)) : ∃ last, head last = (.ok false, ended) := by
  induction size : parser.remaining using Nat.strongRecOn generalizing parser with
  | _ left ih =>
      rw [repeatWhile] at ran
      split at ran
      · split at ran
        · split at ran
          · rename_i nearer
            exact ih _ (size ▸ nearer) ran rfl
          · cases ran
        · rename_i unmatched
          exact absurd ran (unmatched ended)
      · rename_i stopped missed
        cases ran
        exact ⟨parser, missed⟩
      · rename_i unmatched _
        exact absurd ran (unmatched ended)

theorem Phrase.group_ended {parser ended : Parser}
    (ran : selectorsGroupBody.run parser = (.ok true, ended)) :
    ended.cursor.cache.lookup ended.cursor.offset = some .endOfText := by
  simp only [selectorsGroupBody, run] at ran
  split at ran
  · obtain ⟨last, stopped⟩ := Parser.repeatWhile_last ran
    obtain ⟨no, rfl⟩ := Prod.mk.inj stopped
    exact Cursor.valid_ended (Prod.ext (Except.ok.inj no) rfl)
  · rename_i unmatched
    exact absurd ran (unmatched ended)

theorem Parser.attempt_matched {production : Production} {recognizer : Recognizer} {parser ended : Parser}
    (ran : attempt production recognizer parser = (.ok true, ended)) :
    ∃ begun last, recognizer begun = (.ok true, last) ∧ ended.cursor = last.cursor := by
  unfold attempt at ran
  split at ran
  · exact ⟨parser, ended, ran, rfl⟩
  · obtain ⟨matched, rfl⟩ := Prod.mk.inj ran
    exact ⟨_, _, Prod.ext matched rfl, rfl⟩

theorem Parser.parseSelectorsGroup_ended {parser : Parser} (accepted : parser.parseSelectorsGroup.1 = .ok ()) :
    parser.parseSelectorsGroup.2.cursor.cache.lookup parser.parseSelectorsGroup.2.cursor.offset =
      some .endOfText := by
  unfold parseSelectorsGroup at accepted ⊢
  generalize tried : attempt .selectorsGroup Phrase.selectorsGroupBody.run
    (parser.withCursor (parser.cursor.ignoringComments true)) = ran at accepted ⊢
  obtain ⟨failure | _ | _, ended⟩ := ran
  · cases accepted
  · cases accepted
  · obtain ⟨begun, last, matched, same⟩ := attempt_matched tried
    have remembered := Phrase.group_ended matched
    rw [← same] at remembered
    exact remembered

namespace Validator

-- Whatever the tokenizer, an accepted text is left at its end, in the mode of before. The scanner is asked for
-- the tokens of a text and for its end and nowhere else, and for all of them if the text is accepted.
theorem parse_consumes :
    (∀ (validator : Validator) (text : String), (validator.parse text).1 = .ok () →
      (validator.parse text).2.cursor.current.1 = .endOfText ∧
      (validator.parse text).2.cursor.ignoreComments = validator.cursor.ignoreComments) ∧
    ∀ (validator : Validator) (text : String), validator.cursor.tokenizer = tokenAt →
      (∀ entry ∈ (validator.parse text).2.cursor.cache,
        entry ∈ tokenize text ∨ entry = (text.utf8ByteSize, .endOfText)) ∧
      ((validator.parse text).1 = .ok () →
        (validator.parse text).2.cursor.offset = text.utf8ByteSize ∧
        (validator.parse text).2.cursor.cache.Perm
          (tokenize text ++ [(text.utf8ByteSize, .endOfText)])) := by
  simp only [parse]
  constructor
  case left =>
    intro validator text accepted
    obtain ⟨middle, _, told⟩ := (Parser.on (validator.cursor.load text)).leads_parseSelectorsGroup
    have remembered := Parser.parseSelectorsGroup_ended accepted
    exact ⟨Cursor.current_standing (Cursor.reported_remembered remembered) rfl, told.grows.ignoreComments⟩
  case right =>
    intro validator text asks
    obtain ⟨middle, read, told⟩ := (Parser.on (validator.cursor.load text)).leads_parseSelectorsGroup
    have covers :=
      ((((Cursor.covers_load asks text).ignoringComments true).leads read).ignoringComments _).leads told
    refine ⟨covers.known, fun accepted => ?_⟩
    obtain ⟨position, entries⟩ := covers.ended (Parser.parseSelectorsGroup_ended accepted)
    have loaded : (validator.cursor.load text).Counted validator.cursor.queries :=
      Cursor.counted_rewind { validator.cursor with source := text }
    have counted := Parser.counted_parseSelectorsGroup (Parser.on (validator.cursor.load text)) loaded
    have once := counted.once.of_map
    exact ⟨position, (List.perm_ext_iff_of_nodup once (nodup_tokens text)).mpr entries⟩

-- It shows comments. What it is to parse has one of them, and a prefix that turns out to be a name.
def showingValidator : Validator := ⟨(Cursor.on tokenAt).ignoringComments false⟩

theorem parse_consumes_negation : showingValidator.cursor.tokenizer = tokenAt ∧
    showingValidator.cursor.ignoreComments = false ∧
    (showingValidator.parse "a/**/,:not(b").1 = .ok () ∧
    (showingValidator.parse "a/**/,:not(b").2.cursor.current.1 = .endOfText ∧
    (showingValidator.parse "a/**/,:not(b").2.cursor.ignoreComments = false ∧
    (5, .symbol .comma ",") ∈ (showingValidator.parse "a/**/,:not(b").2.cursor.cache ∧
    ((5, .symbol .comma ",") ∈ tokenize "a/**/,:not(b" ∨
      (5, .symbol .comma ",") = ("a/**/,:not(b".utf8ByteSize, Token.endOfText)) ∧
    (showingValidator.parse "a/**/,:not(b").2.cursor.offset = 12 ∧
    (showingValidator.parse "a/**/,:not(b").2.cursor.cache.Perm
      (tokenize "a/**/,:not(b" ++ [(12, .endOfText)]) := by
  have accepted : (showingValidator.parse "a/**/,:not(b").1 = .ok () := by decide +kernel
  have remembered : (5, Token.symbol .comma ",") ∈ (showingValidator.parse "a/**/,:not(b").2.cursor.cache := by
    decide +kernel
  obtain ⟨left, mode⟩ := parse_consumes.1 showingValidator _ accepted
  obtain ⟨places, whole⟩ := parse_consumes.2 showingValidator "a/**/,:not(b" rfl
  obtain ⟨position, entries⟩ := whole accepted
  exact ⟨rfl, rfl, accepted, left, mode, remembered, places _ remembered, position, entries⟩

end Validator

end CssSelectors
