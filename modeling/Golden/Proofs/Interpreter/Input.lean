import Golden.Interpreter.Fake
import Golden.Proofs.Fixture.Grouping
import Golden.Proofs.Files.Listing
import Golden.Run.Options

/-!
# Two ways to pass an input

The input of a fixture is passed as the value of a flag or as the path of a file. The interpreter reads
its words from left to right, and some of them take the word that follows as their value. The path of a
program is not such a word (`not_takesValue_programPath`), so that whatever stands in front of it, the
words up to it are read before the flag of the input is looked at (`readWords_append`). From there on the
two ways come to the same (`readWords_inputArgs`, `run_inline_eq_run_file`).
-/

namespace Golden

/-! ## Paths of programs -/

theorem dot_mem_of_classify? {name programExtension id : Bytes} {role : Role}
    (h : classify? name programExtension = some (id, role)) : ('.' : UInt8) ∈ name := by
  obtain ⟨e, hextension, -, -⟩ := isExtension_of_classify? h
  rw [eq_append_of_classify? h, hextension]
  exact List.mem_append_right _ List.mem_cons_self

/-- What stands in a name stands in the path that it is joined to. -/
theorem Path.mem_join_of_mem {dir name : Bytes} {x : UInt8} (hdir : dir ≠ [])
    (hname : Tree.IsFileName name) (hx : x ∈ name) : x ∈ join dir name := by
  rw [join_eq_clean hdir]
  refine mem_clean_of_mem_cleanElements ?_ hx
  rw [cleanElements_join hdir hname.noSlash hname.ne_nil hname.ne_dot hname.ne_dots]
  exact List.mem_append_right _ List.mem_cons_self

section Found

variable {t : Tree} {dir : Bytes} {o : ResolveOptions} {s : FixtureSet} {f : Fixture}

/-- The paths of a fixture end in the names of files, and these have a dot. -/
theorem dot_mem_path (hwf : t.WellFormed) (h : resolve t dir o = .ok s) (hf : f ∈ s.fixtures)
    (role : Role) (hne : f.path role ≠ []) : ('.' : UInt8) ∈ f.path role := by
  obtain ⟨listing, hlist, hlisting⟩ := resolve_eq_ok_iff.mp h
  have hhas := (path_ne_nil_iff hlisting hf role).mp hne
  obtain ⟨entry, hmem, hbelongs⟩ := hasMember_membersOf.mp hhas
  rw [path_eq_slotPath hlisting hf role hne, hbelongs.path dir]
  exact Path.mem_join_of_mem (Tree.ne_nil_of_list hlist) (hwf.isFileName_of_list hlist hmem)
    (dot_mem_of_classify? hbelongs.2)

theorem read_inputPath (h : resolve t dir o = .ok s) (hload : o.loadInput = true)
    (hf : f ∈ s.fixtures) (hinput : f.hasInput = true) : t.read f.inputPath = .ok f.input := by
  obtain ⟨listing, -, hlisting⟩ := resolve_eq_ok_iff.mp h
  have hcontent := input_of_mem hlisting hf
  have hpath : f.inputPath ≠ [] := by
    intro hnil
    rw [Fixture.hasInput, hnil] at hinput
    cases hinput
  rwa [if_neg (by simp [hpath, hload])] at hcontent

end Found

namespace Fake

/-! ## Reading words -/

/-- The word takes the next one as its value. -/
def TakesValue (w : Bytes) : Prop := w = utf8 "-u" ∨ w = utf8 "--stdin"

instance (w : Bytes) : Decidable (TakesValue w) := inferInstanceAs (Decidable (_ ∨ _))

section Words

variable {t : Tree} {i : Invocation} {words rest : List Bytes} {w v data path : Bytes}

theorem readWords_cons (hw : ¬TakesValue w) (rest : List Bytes) :
    readWords t i (w :: rest) = readWords t (readWords.other i w) rest := by
  obtain ⟨hinline, hfile⟩ := not_or.mp hw
  cases rest with
  | nil => rfl
  | cons v rest => rw [readWords, if_neg hinline, if_neg hfile]

theorem readWords_inline (rest : List Bytes) :
    readWords t i (utf8 "-u" :: v :: rest) = readWords t { i with input := v } rest := by
  rw [readWords, if_pos rfl]

theorem readWords_file (hread : t.read path = .ok data) (rest : List Bytes) :
    readWords t i (utf8 "--stdin" :: path :: rest) = readWords t { i with input := data } rest := by
  rw [readWords, if_neg (by decide), if_pos rfl, hread]

theorem readWords_file_error {e : FileError} (hread : t.read path = .error e) (rest : List Bytes) :
    readWords t i (utf8 "--stdin" :: path :: rest) = .error e := by
  rw [readWords, if_neg (by decide), if_pos rfl, hread]

/-- Where the last of some words takes no value, these words are read before those that follow. Words in
front may well take others as their values, also the last one. -/
theorem readWords_append (hlast : ∀ w ∈ words.getLast?, ¬TakesValue w) (rest : List Bytes) :
    readWords t i (words ++ rest) = (readWords t i words).bind fun i' => readWords t i' rest := by
  induction i, words using readWords.induct t with
  | case1 i => rfl
  | case2 i w =>
    have hw : ¬TakesValue w := hlast w rfl
    rw [readWords_cons hw, List.singleton_append, readWords_cons hw]
    rfl
  | case3 i v words ih =>
    -- the last of the words behind the value, if there are any, is the last of all
    rw [List.cons_append, List.cons_append, readWords_inline, readWords_inline]
    exact ih fun w hw => hlast w (List.mem_getLast?_cons (List.mem_getLast?_cons hw))
  | case4 i v words e hread =>
    rw [List.cons_append, List.cons_append, readWords_file_error hread, readWords_file_error hread]
    rfl
  | case5 i v words data hread _ ih =>
    rw [List.cons_append, List.cons_append, readWords_file hread, readWords_file hread]
    exact ih fun w hw => hlast w (List.mem_getLast?_cons (List.mem_getLast?_cons hw))
  | case6 i w v words hinline hfile ih =>
    have hw : ¬TakesValue w := not_or.mpr ⟨hinline, hfile⟩
    rw [List.cons_append, readWords_cons hw, readWords_cons hw]
    exact ih fun w hw => hlast w (List.mem_getLast?_cons hw)

end Words

/-! ## Inputs of fixtures -/

/-- A run whose inputs are passed in this way, with the flags that the interpreter knows. -/
def passing (o : RunOptions) (inputMode : Bytes) : RunOptions :=
  { o with inputMode := inputMode, inlineFlag := "-u", fileFlag := "--stdin" }

section Inputs

variable {t : Tree} {dir : Bytes} {ro : ResolveOptions} {s : FixtureSet} {f : Fixture} {o : RunOptions}

theorem not_takesValue_programPath (hwf : t.WellFormed) (h : resolve t dir ro = .ok s)
    (hf : f ∈ s.fixtures) : ¬TakesValue f.programPath := by
  intro htakes
  have hne : f.programPath ≠ [] := by
    rintro hnil
    rw [hnil] at htakes
    exact absurd htakes (by decide)
  have hdot : ('.' : UInt8) ∈ f.programPath := dot_mem_path hwf h hf .program hne
  rcases htakes with hflag | hflag
  all_goals
    rw [hflag] at hdot
    exact absurd hdot (by decide)

/-- The words up to the path of the program, but for the first. -/
def leadingWords (o : RunOptions) (f : Fixture) : List Bytes :=
  (o.command ++ o.extraArgs ++ [f.programPath]).tail

theorem tail_args (o : RunOptions) (f : Fixture) :
    (o.args f).tail = leadingWords o f ++ o.inputArgs f := by
  rw [RunOptions.args, leadingWords, List.tail_append_of_ne_nil (by simp)]

theorem not_takesValue_of_mem_getLast? (hprogram : ¬TakesValue f.programPath) :
    ∀ w ∈ (leadingWords o f).getLast?, ¬TakesValue w := by
  intro w hw
  unfold leadingWords at hw
  -- without a command the path may itself be the first word, and then no word leads
  cases hfront : o.command ++ o.extraArgs with
  | nil =>
    rw [hfront] at hw
    cases hw
  | cons x xs =>
    rw [hfront, List.cons_append, List.tail_cons, List.getLast?_concat] at hw
    cases hw
    exact hprogram

/-- Whichever way an input is passed, the words up to the program are read as if it were not, and then the
input is that of the fixture. -/
theorem readWords_inputArgs (hprogram : ¬TakesValue f.programPath) (hinput : f.hasInput = true)
    (hread : t.read f.inputPath = .ok f.input) (o : RunOptions) (inputMode : Bytes) :
    readWords t {} ((passing o inputMode).args f).tail
      = (readWords t {} (leadingWords o f)).map fun i => { i with input := f.input } := by
  have hinputArgs (i : Invocation) :
      readWords t i ((passing o inputMode).inputArgs f) = .ok { i with input := f.input } := by
    rw [RunOptions.inputArgs, hinput, Bool.not_true, if_neg Bool.false_ne_true]
    split
    · exact readWords_file hread []
    · exact readWords_inline []
  have hleading : leadingWords (passing o inputMode) f = leadingWords o f := rfl
  rw [tail_args, hleading, readWords_append (not_takesValue_of_mem_getLast? hprogram)]
  simp only [hinputArgs]
  cases readWords t {} (leadingWords o f) <;> rfl

/-- For every fixture that is found with its input, whatever the words in front of its program are: the
interpreter does the same step by step and ends with the same exit status whether the input is passed as a
value or as a file, and where its words can be read, the input that it gets is that of the fixture. -/
theorem run_inline_eq_run_file (hwf : t.WellFormed) (h : resolve t dir ro = .ok s)
    (hload : ro.loadInput = true) (hf : f ∈ s.fixtures) (hinput : f.hasInput = true) (o : RunOptions) :
    run t ((passing o Config.inlineInput).args f).tail
        = run t ((passing o Config.fileInput).args f).tail ∧
      ∀ inputMode i, readWords t {} ((passing o inputMode).args f).tail = .ok i → i.input = f.input := by
  have hprogram := not_takesValue_programPath hwf h hf
  have hwords := readWords_inputArgs hprogram hinput (read_inputPath h hload hf hinput) o
  constructor
  · rw [run, run, hwords, hwords]
  · intro inputMode i hi
    rw [hwords] at hi
    cases hleading : readWords t {} (leadingWords o f) with
    | error e =>
      rw [hleading] at hi
      cases hi
    | ok i' =>
      rw [hleading] at hi
      cases hi
      rfl

end Inputs

/-- A suite with an input that reads like a flag. -/
def flagTree : Tree :=
  { cwd := []
    entries := [(["suite"], .dir), (["suite", "a.asm"], .file "input\nflags\nexit 3"),
      (["suite", "a.in"], .file "--stdin"), (["suite", "a.out"], .file "")] }

/-- The fixture of that suite. -/
def flagFixture : Fixture where
  id := "a"
  programPath := "suite/a.asm"
  inputPath := "suite/a.in"
  input := "--stdin"
  expectedPath := "suite/a.out"

theorem flagTree_resolve : resolve flagTree "suite" { loadInput := true } = .ok ⟨[flagFixture]⟩ := by
  have hlocate : flagTree.locate "suite" = .ok ["suite"] := by decide +kernel
  refine resolve_eq_ok_iff.mpr ⟨_, Tree.list_of_locate hlocate (by decide +kernel), ?_⟩
  rw [Tree.children_eq (by decide +kernel)]
  decide +kernel

/-- The input looks like a flag, and among the words in front of the program is a flag that takes another
one as its value. -/
theorem run_inline_eq_run_file_flagTree :
    let o : RunOptions := { command := ["interp"], extraArgs := ["-u", "-u", "-q"] }
    flagTree.WellFormed ∧ resolve flagTree "suite" { loadInput := true } = .ok ⟨[flagFixture]⟩ ∧
    flagFixture.hasInput = true ∧
    ((passing o Config.inlineInput).args flagFixture).tail
      = ["-u", "-u", "-q", "suite/a.asm", "-u", "--stdin"] ∧
    run flagTree ((passing o Config.inlineInput).args flagFixture).tail
      = ⟨[.out "--stdin", .out "-q"], 3⟩ ∧
    run flagTree ((passing o Config.fileInput).args flagFixture).tail
      = ⟨[.out "--stdin", .out "-q"], 3⟩ := by
  intro o
  have hwf : flagTree.WellFormed := by decide +kernel
  have hinline : run flagTree ((passing o Config.inlineInput).args flagFixture).tail
      = ⟨[.out "--stdin", .out "-q"], 3⟩ := by decide +kernel
  obtain ⟨hsame, -⟩ := run_inline_eq_run_file hwf flagTree_resolve rfl List.mem_cons_self rfl o
  exact ⟨hwf, flagTree_resolve, rfl, rfl, hinline, hsame ▸ hinline⟩

end Fake

end Golden
