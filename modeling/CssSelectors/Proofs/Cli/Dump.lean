import CssSelectors.Cli.Run
import CssSelectors.Proofs.Bytes.Lossless
import CssSelectors.Proofs.Cli.Decoding
import CssSelectors.Proofs.Iteration

-- The dump of a text's tokens loses nothing.
namespace CssSelectors.Cli

variable {arguments : List String} {text : String} {comments : Bool}
variable {readFile : String → Except ReadFailure String}

theorem mapM_ok (tokens : List (Nat × Token)) :
    (tokens.map Except.ok : List TokenItem).mapM id = .ok tokens := by
  induction tokens with
  | nil => rfl
  | cons token tokens ih =>
      rw [List.map_cons, List.mapM_cons, ih]
      rfl

theorem visits_text (text : String) : Visits tokenAt text false 0 (tokenize text) text.utf8ByteSize := by
  have whole := scanAll_visits text.toList []
  rwa [List.nil_append, String.ofList_toList, Text.byteLength_toList] at whole

theorem listTokens_eq (text : String) (comments : Bool) :
    listTokens text comments = .ok ((tokenize text).filter fun token => !(!comments && token.2.isComment)) := by
  have ends := tokenAt_end text
  have loaded : (((Cursor.on tokenAt).ignoringComments (!comments)).load text).Sound tokenAt :=
    ⟨rfl, Nat.zero_le _, nofun⟩
  obtain ⟨ended, drained, _⟩ := loaded.walks.drain?_ended ends ((visits_text text).inMode (!comments)) ends
  rw [listTokens]
  simp only [drained, mapM_ok]

-- A command line that has the tokens of one text listed, with comments or without.
def Dumps (arguments : List String) (text : String) (comments : Bool) : Prop :=
  ∃ quiet, readArguments arguments =
    .ok (.check { selectors := [text], tokens := true, comments, json := true, quiet })

theorem dumps_commented (text : String) : Dumps ["--tokens", "--comments", "--json", "--", text] text true :=
  ⟨false, rfl⟩

theorem dumps_plain (text : String) : Dumps ["--tokens", "--json", "--", text] text false := ⟨false, rfl⟩

theorem run_dumps (dumps : Dumps arguments text comments) (readFile : String → Except ReadFailure String) :
    run arguments readFile = {
      exitCode := 0
      output := Text.unlines
        (jsonListing ((tokenize text).filter fun token => !(!comments && token.2.isComment)))
      errors := "" } := by
  obtain ⟨quiet, understood⟩ := dumps
  simp only [run, understood, runOptions, collectSelectors, listAll, listTokens_eq, List.append_nil]
  rfl

theorem Dumps.read (dumps : Dumps arguments text comments) (readFile : String → Except ReadFailure String) :
    readListing (run arguments readFile).output =
      some ((tokenize text).filter fun token => !(!comments && token.2.isComment)) := by
  rw [run_dumps dumps]
  exact readListing_unlines _

theorem Dumps.read_all (dumps : Dumps arguments text true) (readFile : String → Except ReadFailure String) :
    readListing (run arguments readFile).output = some (tokenize text) := by
  have all : (tokenize text).filter (fun token => !(!true && token.2.isComment)) = tokenize text :=
    List.filter_eq_self.mpr fun _ _ => rfl
  rw [dumps.read, all]

theorem tokenize_spelled (text : String) : (tokenize text).flatMap (fun token => token.2.chars) = text.toList := by
  have parts : text.toList = [] ++ text.toList := rfl
  exact (scanAll_tiles parts).2.flatten parts rfl

-- The output of a dump gives back all that was listed, and with comments the text itself. Without them
-- the other tokens are listed as they are.
theorem dump_lossless (dumps : Dumps arguments text true) {plain : List String} (bare : Dumps plain text false)
    (readFile : String → Except ReadFailure String) :
    readListing (run arguments readFile).output = some (tokenize text) ∧
      (tokenize text).flatMap (fun token => token.2.chars) = text.toList ∧
      (∀ {another other}, Dumps another other true →
        (run another readFile).output = (run arguments readFile).output → other = text) ∧
      (run plain readFile).output =
        Text.unlines (jsonListing ((tokenize text).filter fun token => !token.2.isComment)) ∧
      readListing (run plain readFile).output =
        some ((tokenize text).filter fun token => !token.2.isComment) ∧
      (run arguments readFile).exitCode = 0 ∧ (run plain readFile).exitCode = 0 := by
  refine ⟨dumps.read_all readFile, tokenize_spelled text, ?_, ?_, bare.read readFile, ?_, ?_⟩
  · intro another other also same
    have tokens := also.read_all readFile
    rw [same, dumps.read_all] at tokens
    apply String.toList_injective
    rw [← tokenize_spelled other, ← Option.some.inj tokens, tokenize_spelled text]
  · rw [run_dumps bare]
    rfl
  · rw [run_dumps dumps]
  · rw [run_dumps bare]

-- A quote and a backslash in a comment, and a control character alone.
theorem dump_lossless_escaped :
    let readFile : String → Except ReadFailure String := fun _ => .error .notFound
    let text := "a/*\"\\*/\x01"
    readListing (run ["--tokens", "--comments", "--json", "--", text] readFile).output =
        some [(0, .symbol .ident "a"), (1, .symbol .comment "/*\"\\*/"), (7, .literal '\x01')] ∧
      readListing (run ["--tokens", "--json", "--", text] readFile).output =
        some [(0, .symbol .ident "a"), (7, .literal '\x01')] := by
  intro readFile text
  have tokens : tokenize text =
      [(0, .symbol .ident "a"), (1, .symbol .comment "/*\"\\*/"), (7, .literal '\x01')] := by decide +kernel
  obtain ⟨whole, _, _, _, bare, _⟩ := dump_lossless (dumps_commented text) (dumps_plain text) readFile
  rw [tokens] at whole bare
  exact ⟨whole, bare⟩

end CssSelectors.Cli
