import Golden.Proofs.Cli.ExitCode
import Golden.Proofs.Config.Settings

/-!
# How the interpreter is invoked

The words of an invocation are the command, the words to pass on, the program, and those that pass the
input (`args_documented`). Three places decide about the input: discovery reads it if the configuration
says inline, the words are chosen by whether the options say file, and both look at a path to see whether
there is an input at all. `InputWords` says what they amount to: the directory listing and the input mode
alone decide, and an input that is passed inline is what its file holds.
-/

namespace Golden

/-! ## Discovery under a valid configuration -/

theorem ofConfig_eq_ok_iff {config : Config} {o : RunOptions} :
    RunOptions.ofConfig config = .ok o ↔
      ∃ timeout, parseTimeout config.timeout = .ok timeout ∧ o =
        { command := config.runner, extraArgs := config.extraArgs, inputMode := config.inputMode,
          inlineFlag := config.inlineInputFlag, fileFlag := config.fileInputFlag, mode := config.mode,
          jobs := config.jobs, timeout := timeout, incomplete := config.incomplete } := by
  unfold RunOptions.ofConfig
  cases parseTimeout config.timeout <;> simp [eq_comm]

/-- The directory has a file of this name, or anything else that is no directory. -/
def HoldsFile (listing : List (Bytes × Entry)) (name : Bytes) : Prop :=
  ∃ entry ∈ listing, entry.1 = name ∧ entry.2 ≠ .dir

namespace Cli

theorem resolveOptions_extension {config : Config} (h : config.Valid) :
    (resolveOptions config).extension = config.extension := by
  have hne : config.extension.isEmpty = false := by
    cases hext : config.extension with
    | nil =>
      have hcheck := h.extension
      rw [hext] at hcheck
      cases hcheck
    | cons b e => rfl
  show (if config.extension.isEmpty then _ else config.extension) = config.extension
  rw [hne]
  rfl

theorem belongs_iff {config : Config} (h : config.Valid) {entry : Bytes × Entry} {id : Bytes}
    {role : Role} :
    Belongs (resolveOptions config) entry id role ↔
      id ≠ [] ∧ entry.1 = id ++ role.extension config.extension ∧ entry.2 ≠ .dir := by
  rw [Belongs, resolveOptions_extension h, classify?_eq_some_iff h.extension, and_comm, and_assoc]

section Fixtures

variable {t : Tree} {dir : Bytes} {config : Config} {listing : List (Bytes × Entry)}
  {set : FixtureSet} {f : Fixture} {o : RunOptions}

theorem id_ne_nil (hvalid : config.Valid)
    (hset : resolveListing t dir (resolveOptions config) listing = .ok set) (hf : f ∈ set.fixtures) :
    f.id ≠ [] := by
  have hid : f.id ∈ set.ids := FixtureSet.mem_ids.mpr ⟨f, hf, rfl⟩
  obtain ⟨entry, -, role, hbelongs⟩ := (mem_ids_iff hset).mp hid
  exact ((belongs_iff hvalid).mp hbelongs).1

/-- A slot of a fixture is filled iff the directory has the file for it. -/
theorem path_ne_nil_iff_holdsFile (hvalid : config.Valid)
    (hset : resolveListing t dir (resolveOptions config) listing = .ok set) (hf : f ∈ set.fixtures)
    (role : Role) :
    f.path role ≠ [] ↔ HoldsFile listing (f.id ++ role.extension config.extension) := by
  rw [path_ne_nil_iff hset hf, hasMember_membersOf]
  have hid := id_ne_nil hvalid hset hf
  constructor
  · rintro ⟨entry, hentry, hbelongs⟩
    obtain ⟨-, hname, hfile⟩ := (belongs_iff hvalid).mp hbelongs
    exact ⟨entry, hentry, hname, hfile⟩
  · rintro ⟨entry, hentry, hname, hfile⟩
    exact ⟨entry, hentry, (belongs_iff hvalid).mpr ⟨hid, hname, hfile⟩⟩

theorem path_eq_join (hvalid : config.Valid)
    (hset : resolveListing t dir (resolveOptions config) listing = .ok set) (hf : f ∈ set.fixtures)
    (role : Role) (hne : f.path role ≠ []) :
    f.path role = Path.join dir (f.id ++ role.extension config.extension) := by
  rw [path_eq_slotPath hset hf role hne, slotPath, resolveOptions_extension hvalid]

/-! ## The words that pass the input -/

/-- The words that pass the input of a fixture, by what the directory holds and by the input mode. -/
inductive InputWords (config : Config) (t : Tree) (dir : Bytes) (listing : List (Bytes × Entry))
    (id : Bytes) : List Bytes → Prop
  | absent (absent : ¬HoldsFile listing (id ++ inputExtension)) :
      InputWords config t dir listing id []
  | inline {data : Bytes} (present : HoldsFile listing (id ++ inputExtension))
      (mode : config.inputMode = Config.inlineInput)
      (content : t.read (Path.join dir (id ++ inputExtension)) = .ok data) :
      InputWords config t dir listing id [config.inlineInputFlag, data]
  | file (present : HoldsFile listing (id ++ inputExtension))
      (mode : config.inputMode = Config.fileInput) :
      InputWords config t dir listing id
        [config.fileInputFlag, Path.join dir (id ++ inputExtension)]

theorem inputWords_inputArgs (hvalid : config.Valid)
    (hset : resolveListing t dir (resolveOptions config) listing = .ok set) (hf : f ∈ set.fixtures)
    (ho : RunOptions.ofConfig config = .ok o) :
    InputWords config t dir listing f.id (o.inputArgs f) := by
  obtain ⟨timeout, -, rfl⟩ := ofConfig_eq_ok_iff.mp ho
  unfold RunOptions.inputArgs
  by_cases hinput : f.inputPath = []
  · have hnone : ¬HoldsFile listing (f.id ++ inputExtension) := fun hheld =>
      (path_ne_nil_iff_holdsFile hvalid hset hf .input).mpr hheld hinput
    rw [Fixture.hasInput, hinput]
    exact .absent hnone
  · have hheld : HoldsFile listing (f.id ++ inputExtension) :=
      (path_ne_nil_iff_holdsFile hvalid hset hf .input).mp hinput
    have hpath : f.inputPath = Path.join dir (f.id ++ inputExtension) :=
      path_eq_join hvalid hset hf .input hinput
    have hhas : f.hasInput = true := by simpa [Fixture.hasInput] using hinput
    rw [hhas]
    rcases hvalid.inputMode with hmode | hmode
    · -- Discovery has read the input, since it goes by the same mode.
      have hcontent := input_of_mem hset hf
      rw [if_neg (by simp [hinput, resolveOptions, hmode]), hpath] at hcontent
      have hne : Config.inlineInput ≠ Config.fileInput := by decide
      simp only [Bool.not_true, Bool.false_eq_true, if_false, hmode, if_neg hne]
      exact .inline hheld hmode hcontent
    · simp only [Bool.not_true, Bool.false_eq_true, if_false, hmode, if_true, hpath]
      exact .file hheld hmode

end Fixtures

/-! ## The words of an invocation -/

/-- Under a configuration that is accepted, over any file and with any flags, the interpreter is invoked
for each complete fixture with the command, the words to pass on, the program, and the words that pass
the input; the first of them is never blank. -/
theorem args_documented {t : Tree} {dir : Bytes} {file config : Config} {flags : Flags}
    {set : FixtureSet} (hconfig : applyFlags file flags = .ok config)
    (hset : resolve t dir (resolveOptions config) = .ok set) :
    ∃ listing o, t.list dir = .ok listing ∧ RunOptions.ofConfig config = .ok o ∧
      ∀ f ∈ set.fixtures, f.isComplete = true → ∀ verbose,
        (∃ tail, InputWords config t dir listing f.id tail ∧
          { o with verbose := verbose }.args f = config.runner ++ config.extraArgs
            ++ [Path.join dir (f.id ++ config.extension)] ++ tail) ∧
        ∃ w words, { o with verbose := verbose }.args f = w :: words ∧ isBlank w = false := by
  obtain ⟨-, -, -, hvalid⟩ := applyFlags_eq_ok hconfig
  obtain ⟨listing, hlist, hlisting⟩ := resolve_eq_ok_iff.mp hset
  obtain ⟨o, ho⟩ := hvalid.options
  refine ⟨listing, o, hlist, ho, ?_⟩
  intro f hf hcomplete verbose
  have hinput := inputWords_inputArgs hvalid hlisting hf ho
  have hprogram : f.programPath = Path.join dir (f.id ++ config.extension) :=
    path_eq_join hvalid hlisting hf .program (path_ne_nil_of_isComplete hcomplete nofun)
  have hargs : { o with verbose := verbose }.args f = config.runner ++ config.extraArgs
      ++ [Path.join dir (f.id ++ config.extension)] ++ o.inputArgs f := by
    obtain ⟨timeout, -, rfl⟩ := ofConfig_eq_ok_iff.mp ho
    rw [← hprogram]
    rfl
  obtain ⟨w, ws, hrunner, hblank⟩ := Config.hasRunner_iff.mp hvalid.runner
  refine ⟨⟨o.inputArgs f, hinput, hargs⟩, w, ws ++ config.extraArgs
    ++ [Path.join dir (f.id ++ config.extension)] ++ o.inputArgs f, ?_, hblank⟩
  rw [hargs, hrunner]
  rfl

/-! ## An empty input -/

/-- The files of a test case with an empty input. -/
def emptyInputListing : List (Bytes × Entry) :=
  [("a.asm", .file "println 1"), ("a.in", .file []), ("a.out", .file "1\n")]

def emptyInputTree : Tree where
  cwd := []
  entries :=
    (["cases"], .dir) :: emptyInputListing.map fun entry => (["cases", entry.1], entry.2)

def emptyInputFixture : Fixture where
  id := "a"
  programPath := "cases/a.asm"
  inputPath := "cases/a.in"
  expectedPath := "cases/a.out"
  expected := "1\n"

theorem emptyInputTree_list : emptyInputTree.list "cases" = .ok emptyInputListing := by
  have hsorted :
      emptyInputListing.mergeSort (fun a b => Bytes.le a.1 b.1) = emptyInputListing :=
    List.mergeSort_of_pairwise (by decide)
  exact congrArg Except.ok hsorted

theorem emptyInputTree_resolve :
    resolve emptyInputTree "cases" (resolveOptions Config.default) = .ok ⟨[emptyInputFixture]⟩ :=
  resolve_eq_ok_iff.mpr ⟨emptyInputListing, emptyInputTree_list, rfl⟩

/-- An empty input is passed as an empty word. -/
theorem args_emptyInput :
    ∃ o, RunOptions.ofConfig Config.default = .ok o ∧
      o.args emptyInputFixture = ["cargo", "-q", "run", "cases/a.asm", "-u", ""] := by
  have hconfig : applyFlags Config.default {} = .ok Config.default := by decide +kernel
  obtain ⟨listing, o, hlist, ho, hargs⟩ := args_documented hconfig emptyInputTree_resolve
  obtain ⟨⟨tail, htail, heq⟩, -⟩ :=
    hargs emptyInputFixture List.mem_cons_self (by decide) o.verbose
  refine ⟨o, ho, heq.trans ?_⟩
  cases hlist.symm.trans emptyInputTree_list
  have hheld : HoldsFile emptyInputListing (emptyInputFixture.id ++ inputExtension) :=
    ⟨("a.in", .file []), by decide, by decide, by decide⟩
  cases htail with
  | absent habsent => exact absurd hheld habsent
  | file _ hmode => exact absurd hmode (by decide)
  | @inline data _ _ hcontent =>
    have hempty : emptyInputTree.read (Path.join "cases" (emptyInputFixture.id ++ inputExtension))
        = .ok [] := by decide +kernel
    obtain rfl := Except.ok.inj (hcontent.symm.trans hempty)
    decide +kernel

end Cli

end Golden
