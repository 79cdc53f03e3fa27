import CssSelectors.Cli.Arguments

-- Arguments are read one after another; what is read of the first does not depend on those behind it.
namespace CssSelectors.Cli

variable {options done : Options} {argument file : String}

theorem Options.read_value (options : Options) (rest : List String)
    (undashed : ∀ c cs, argument.toList ≠ '-' :: c :: cs) :
    options.read true (argument :: rest) =
      match options.setFile argument with
      | .ok named => named.read false rest
      | .error failure => .error failure := Options.read.eq_3 _ _ _ undashed

theorem Options.read_flag (options : Options) (rest : List String) {c : Char} {cs : List Char}
    (unclosed : argument ≠ "--") (shape : argument.toList = '-' :: c :: cs) :
    options.read false (argument :: rest) =
      match if c = '-' then options.readLong cs else options.readShort (c :: cs) with
      | .ok (.settled changed) => changed.read false rest
      | .ok (.awaitsFile waiting) => waiting.read true rest
      | .ok .version => .ok .version
      | .error failure => .error failure := by
  refine Options.read.eq_5 _ _ _ _ _ ?_ shape
  rintro rfl rfl
  exact unclosed (String.toList_injective shape)

-- What an argument does, whatever is behind it.
inductive Options.Takes (options : Options) (awaits : Bool) (argument : String) : Prop where
  | stops (answer : Except UsageError Request) (idle : ∀ done, answer ≠ .ok (.check done))
      (reads : ∀ rest, options.read awaits (argument :: rest) = answer)
  | goes (changed : Options) (waits : Bool)
      (reads : ∀ rest, options.read awaits (argument :: rest) = changed.read waits rest)

theorem Options.takes (options : Options) (awaits : Bool) (unclosed : argument ≠ "--") :
    options.Takes awaits argument := by
  by_cases dashed : ∃ c cs, argument.toList = '-' :: c :: cs
  · obtain ⟨c, cs, shape⟩ := dashed
    cases awaits with
    | true => exact .stops (.error (.valueMissing .file)) nofun fun rest => Options.read.eq_2 _ _ rest _ _ shape
    | false =>
        have reads := fun rest => options.read_flag rest unclosed shape
        cases effect : if c = '-' then options.readLong cs else options.readShort (c :: cs) with
        | error failure => exact .stops (.error failure) nofun fun rest => by rw [reads, effect]
        | ok effect' =>
            cases effect' with
            | settled changed => exact .goes changed false fun rest => by rw [reads, effect]
            | awaitsFile waiting => exact .goes waiting true fun rest => by rw [reads, effect]
            | version => exact .stops (.ok .version) nofun fun rest => by rw [reads, effect]
  · have plain : ∀ c cs, argument.toList = '-' :: c :: cs → False := fun c cs shape => dashed ⟨c, cs, shape⟩
    cases awaits with
    | true =>
        have reads := fun rest => options.read_value rest plain
        cases named : options.setFile argument with
        | error failure => exact .stops (.error failure) nofun fun rest => by rw [reads, named]
        | ok changed => exact .goes changed false fun rest => by rw [reads, named]
    | false => exact .goes _ false fun rest => Options.read.eq_6 _ _ rest (plain _ _) plain

theorem Options.read_append {flags : List String} {awaits : Bool} (unclosed : "--" ∉ flags)
    (understood : options.read awaits flags = .ok (.check done)) (rest : List String) :
    options.read awaits (flags ++ rest) = done.read false rest ∧ done.request = .ok (.check done) := by
  induction flags generalizing options awaits with
  | nil =>
      cases awaits with
      | true => cases understood
      | false =>
          obtain rfl : done = options := Request.check.inj ((options.request_eq_ok_iff _).mp understood).1
          exact ⟨rfl, understood⟩
  | cons argument flags ih =>
      obtain ⟨plain, later⟩ := not_or.mp (mt List.mem_cons.mpr unclosed)
      cases options.takes awaits (Ne.symm plain) with
      | stops answer idle reads =>
          rw [reads] at understood
          exact absurd understood (idle done)
      | goes changed waits reads =>
          rw [reads] at understood
          rw [List.cons_append, reads]
          exact ih later understood

theorem Options.read_file (admitted : options.request = .ok (.check options)) (unnamed : options.file = none)
    (named : file ≠ "") (undashed : ∀ c cs, file.toList ≠ '-' :: c :: cs) :
    options.read false ["-f", file] = .ok (.check { options with file := some file }) := by
  rw [options.read_flag [file] (by decide) (show "-f".toList = ['-', 'f'] from rfl)]
  refine (options.read_value [] undashed).trans ?_
  rw [Options.setFile, if_neg named, unnamed]
  exact (Options.request_eq_ok_iff _ _).mpr ⟨rfl, ((Options.request_eq_ok_iff _ _).mp admitted).2⟩

theorem Options.read_rest (admitted : options.request = .ok (.check options)) (texts : List String) :
    options.read false ("--" :: texts) =
      .ok (.check { options with selectors := options.selectors ++ texts }) := by
  rw [Options.read.eq_4 _ _ _ rfl]
  exact (Options.request_eq_ok_iff _ _).mpr ⟨rfl, ((Options.request_eq_ok_iff _ _).mp admitted).2⟩

-- Flags that take no value.
def plainFlags : List String := ["-q", "--quiet", "--trace", "-t", "--tokens", "--comments", "--json"]

theorem Options.set_cases (options : Options) {flag : Flag} (valueless : flag ≠ .file)
    (running : flag ≠ .version) : (∃ failure, options.set flag = .error failure) ∨
      ∃ changed, options.set flag = .ok (.settled changed) ∧ changed.file = options.file := by
  cases flag with
  | file => exact absurd rfl valueless
  | version => exact absurd rfl running
  | _ =>
      simp only [Options.set]
      split
      · exact .inl ⟨_, rfl⟩
      · exact .inr ⟨_, rfl, rfl⟩

theorem Options.readShort_single (options : Options) {c : Char} {flag : Flag}
    (named : Flag.ofShort? c = some flag) (valueless : flag ≠ .file) :
    options.readShort [c] = options.set flag := by
  cases flag with
  | file => exact absurd rfl valueless
  | _ =>
      rw [Options.readShort.eq_def]
      simp only [named]
      split
      · rename_i changed settled
        exact settled.symm
      · rfl

-- Such a flag is set, and that is all.
theorem plainFlags_set (plain : argument ∈ plainFlags) : ∃ c cs flag, argument.toList = '-' :: c :: cs ∧
    argument ≠ "--" ∧ flag ≠ .file ∧ flag ≠ .version ∧ ∀ options : Options,
      (if c = '-' then options.readLong cs else options.readShort (c :: cs)) = options.set flag := by
  simp only [plainFlags, List.mem_cons, List.not_mem_nil, or_false] at plain
  rcases plain with rfl | rfl | rfl | rfl | rfl | rfl | rfl
  · exact ⟨'q', [], .quiet, rfl, by decide, nofun, nofun, fun options => options.readShort_single rfl nofun⟩
  · exact ⟨'-', "quiet".toList, .quiet, rfl, by decide, nofun, nofun, fun _ => rfl⟩
  · exact ⟨'-', "trace".toList, .trace, rfl, by decide, nofun, nofun, fun _ => rfl⟩
  · exact ⟨'t', [], .tokens, rfl, by decide, nofun, nofun, fun options => options.readShort_single rfl nofun⟩
  · exact ⟨'-', "tokens".toList, .tokens, rfl, by decide, nofun, nofun, fun _ => rfl⟩
  · exact ⟨'-', "comments".toList, .comments, rfl, by decide, nofun, nofun, fun _ => rfl⟩
  · exact ⟨'-', "json".toList, .json, rfl, by decide, nofun, nofun, fun _ => rfl⟩

theorem Options.read_plain {front : List String} (plain : ∀ argument ∈ front, argument ∈ plainFlags)
    (understood : options.read false front = .ok (.check done)) : done.file = options.file := by
  induction front generalizing options with
  | nil =>
      obtain rfl : done = options := Request.check.inj ((options.request_eq_ok_iff _).mp understood).1
      rfl
  | cons argument front ih =>
      obtain ⟨first, later⟩ := List.forall_mem_cons.mp plain
      obtain ⟨c, cs, flag, shape, unclosed, valueless, running, sets⟩ := plainFlags_set first
      rw [options.read_flag front unclosed shape, sets] at understood
      rcases options.set_cases valueless running with ⟨failure, failed⟩ | ⟨changed, settled, kept⟩
      · rw [failed] at understood
        cases understood
      · rw [settled] at understood
        exact (ih later understood).trans kept

-- Arguments that selectors may be behind, from a file or as they are.
structure Opening (front : List String) (options : Options) : Prop where
  understood : readArguments front = .ok (.check options)
  unclosed : "--" ∉ front
  unnamed : options.file = none

theorem opening_plain {front : List String} (plain : ∀ argument ∈ front, argument ∈ plainFlags)
    (understood : readArguments front = .ok (.check options)) : Opening front options := by
  refine ⟨understood, fun closing => ?_, Options.read_plain plain understood⟩
  exact absurd (plain _ closing) (by decide)

end CssSelectors.Cli
