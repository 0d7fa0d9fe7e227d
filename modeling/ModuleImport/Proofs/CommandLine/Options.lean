import ModuleImport.CommandLine
import ModuleImport.Proofs.Interpreter.Sightings

namespace ModuleImport.CommandLine

/-- An option that gives a directory, in one of its two spellings. -/
inductive PathOption where
  /-- The directory is the next argument, whatever it looks like. -/
  | apart (directory : String)
  | joined (directory : String)

namespace PathOption

def directory : PathOption → Path
  | apart directory => ⟨directory⟩
  | joined directory => ⟨directory⟩

def arguments : PathOption → List String
  | apart directory => ["--path", directory]
  | joined directory => ["--path=" ++ directory]

end PathOption

/-- The arguments that options in a row are written as. -/
def spelled (options : List PathOption) : List String :=
  options.flatMap PathOption.arguments

/-- Whether an option can be read where these arguments start. -/
def StartsOption (arguments : List String) : Prop :=
  ∃ (option : PathOption) (rest : List String), arguments = option.arguments ++ rest

variable {arguments rest : List String} {argument directory : String}

theorem joinedDirectory?_eq_some_iff :
    joinedDirectory? argument = some directory ↔ argument = "--path=" ++ directory := by
  unfold joinedDirectory?
  dsimp only
  split
  · rename_i isPrefix
    obtain ⟨behind, whole⟩ := List.isPrefixOf_iff_prefix.mp isPrefix
    obtain rfl : argument = "--path=" ++ String.ofList behind := by
      apply String.toList_inj.mp
      rw [← whole, String.toList_append, String.toList_ofList (l := behind)]
    rw [← whole, List.drop_left, Option.some.injEq, String.append_right_inj]
  · rename_i noPrefix
    constructor
    · nofun
    · rintro rfl
      refine absurd (List.isPrefixOf_iff_prefix.mpr ?_) noPrefix
      rw [String.toList_append]
      exact List.prefix_append _ _

theorem joined_ne (directory : String) : "--path=" ++ directory ≠ "--path" := by
  intro same
  have length := congrArg String.length same
  rw [String.length_append] at length
  have longer : "--path=".length = "--path".length + 1 := rfl
  omega

theorem extraDirectories_option (option : PathOption) (rest : List String) :
    extraDirectories (option.arguments ++ rest) =
      (extraDirectories rest).map (option.directory :: ·) := by
  cases option with
  | apart directory =>
    rw [PathOption.arguments, List.cons_append, extraDirectories.eq_def]
    exact if_pos rfl
  | joined directory =>
    rw [PathOption.arguments, List.singleton_append, extraDirectories.eq_def]
    dsimp only
    rw [if_neg (joined_ne directory), joinedDirectory?_eq_some_iff.mpr rfl]
    rfl

theorem extraDirectories_spelled (options : List PathOption) (rest : List String) :
    extraDirectories (spelled options ++ rest) =
      (extraDirectories rest).map (options.map PathOption.directory ++ ·) := by
  induction options with
  | nil =>
    change extraDirectories rest = _
    cases extraDirectories rest <;> rfl
  | cons option options ih =>
    rw [spelled, List.flatMap_cons, List.append_assoc, extraDirectories_option]
    change (extraDirectories (spelled options ++ rest)).map _ = _
    rw [ih]
    cases extraDirectories rest <;> rfl

theorem extraDirectories_of_stuck (stuck : ¬StartsOption (argument :: rest)) :
    extraDirectories (argument :: rest) = .error argument := by
  rw [extraDirectories.eq_def]
  dsimp only
  split
  · rename_i isOption
    subst isOption
    cases rest with
    | nil => rfl
    | cons directory rest => exact absurd ⟨.apart directory, rest, rfl⟩ stuck
  · split
    · rename_i directory isJoined
      refine absurd ⟨.joined directory, rest, ?_⟩ stuck
      rw [joinedDirectory?_eq_some_iff.mp isJoined]
      rfl
    · rfl

/-- All arguments can be read as options up to some place, behind the last one or where no option
starts. -/
theorem exists_reading (arguments : List String) : ∃ options rest,
    arguments = spelled options ++ rest ∧ (rest = [] ∨ ¬StartsOption rest) := by
  by_cases starts : StartsOption arguments
  · obtain ⟨option, behind, whole⟩ := starts
    -- an option takes one argument or two, so the length has to do for the recursion
    have shorter : behind.length < arguments.length := by
      rw [whole, List.length_append]
      cases option <;> simp [PathOption.arguments]
    obtain ⟨options, rest, read, ended⟩ := exists_reading behind
    refine ⟨option :: options, rest, ?_, ended⟩
    rw [whole, read, ← List.append_assoc]
    rfl
  · exact ⟨[], arguments, rfl, .inr starts⟩
termination_by arguments.length

/-- Arguments that are options in a row give the directories of these, in their order. -/
theorem extraDirectories_eq_ok_iff {extra : List Path} : extraDirectories arguments = .ok extra ↔
    ∃ options, arguments = spelled options ∧ extra = options.map PathOption.directory := by
  constructor
  · intro read
    obtain ⟨options, rest, rfl, ended⟩ := exists_reading arguments
    rw [extraDirectories_spelled] at read
    cases rest with
    | nil =>
      exact ⟨options, List.append_nil _, (Except.ok.inj read).symm.trans (List.append_nil _)⟩
    | cons argument rest =>
      have stuck := ended.resolve_left (List.cons_ne_nil _ _)
      rw [extraDirectories_of_stuck stuck] at read
      cases read
  · rintro ⟨options, rfl, rfl⟩
    have read := extraDirectories_spelled options []
    rw [List.append_nil] at read
    rw [read]
    exact congrArg Except.ok (List.append_nil _)

/-- In other arguments the first one is reported that no option starts with, behind some options. -/
theorem extraDirectories_eq_error_iff : extraDirectories arguments = .error argument ↔
    ∃ options rest, arguments = spelled options ++ argument :: rest ∧
      ¬StartsOption (argument :: rest) := by
  constructor
  · intro read
    obtain ⟨options, rest, rfl, ended⟩ := exists_reading arguments
    rw [extraDirectories_spelled] at read
    cases rest with
    | nil => cases read
    | cons first rest =>
      have stuck := ended.resolve_left (List.cons_ne_nil _ _)
      rw [extraDirectories_of_stuck stuck] at read
      obtain rfl := Except.error.inj read
      exact ⟨options, rest, rfl, stuck⟩
  · rintro ⟨options, rest, rfl, stuck⟩
    rw [extraDirectories_spelled, extraDirectories_of_stuck stuck]
    rfl

theorem foldl_withPath (config : Config) (extra : List Path) :
    extra.foldl Config.withPath config =
      { config with searchPath := config.searchPath ++ extra } := by
  induction extra generalizing config with
  | nil => rw [List.foldl_nil, List.append_nil]
  | cons directory extra ih =>
    rw [List.foldl_cons, ih, Config.withPath, List.append_assoc]
    rfl

theorem runConfig_eq (repository : Path) (extra : List Path) :
    runConfig repository extra = ⟨repository :: extra, none, .stdout []⟩ :=
  foldl_withPath _ extra

/-- A run always ends, and has searched the repository and the extra directories then. -/
theorem runMain_runConfig (fs : FileSystem) (name : String) (repository : Path) (extra : List Path) :
    ∃ x t, Interpreter.runMain fs name (.new (runConfig repository extra)) = some (x, t) ∧
      t.searchPath = repository :: extra := by
  have reached : Interpreter.Reached (.new (runConfig repository extra)) := .new _
  obtain ⟨⟨x, t⟩, ended⟩ := Interpreter.ends_importModule
    (reached.called (.setEntryPoint _ (some name))).consistent fs name
  have ran : Interpreter.runMain fs name (.new (runConfig repository extra)) = some (x, t) := by
    rw [Interpreter.runMain_eq]
    exact ended _ (Nat.le_refl _)
  have main : (Interpreter.Request.toRunMain name).run fs (.new (runConfig repository extra)) =
      some (x, t) := ran
  refine ⟨x, t, ran, ?_⟩
  rw [Interpreter.searchPath_of_edits (Interpreter.Act.edits_request main), runConfig_eq]
  rfl

theorem ended_singleton (line : String) : ended [line] = line ++ "\n" := by
  simp [ended]

/-- The arguments behind the name of the module are accepted just if they are options in a row, and
then the module is run by an interpreter that searches the repository and after it the directories of
all options in their order. Of any other arguments the first is reported at which no option can be
read, and nothing is run. -/
theorem run_reads_options (fs : FileSystem) (repository name : String) (arguments : List String) :
    (∀ extra, extraDirectories arguments = .ok extra ↔
      ∃ options, arguments = spelled options ∧ extra = options.map PathOption.directory) ∧
    (∀ argument, extraDirectories arguments = .error argument ↔
      ∃ options rest, arguments = spelled options ++ argument :: rest ∧
        ¬StartsOption (argument :: rest)) ∧
    match extraDirectories arguments with
    | .ok extra =>
      ∃ x t, Interpreter.runMain fs name (.new ⟨⟨repository⟩ :: extra, none, .stdout []⟩) =
          some (x, t) ∧
        t.searchPath = ⟨repository⟩ :: extra ∧
        execute fs ("run" :: repository :: name :: arguments) = report x t
    | .error argument =>
      execute fs ("run" :: repository :: name :: arguments) =
        ⟨1, "", "error: unexpected argument '" ++ argument ++ "'\n"⟩ := by
  refine ⟨fun extra => extraDirectories_eq_ok_iff, fun argument => extraDirectories_eq_error_iff, ?_⟩
  have started : execute fs ("run" :: repository :: name :: arguments) =
      run fs (repository :: name :: arguments) := rfl
  rw [started, run]
  cases extraDirectories arguments with
  | ok extra =>
    obtain ⟨x, t, ran, searchPath⟩ := runMain_runConfig fs name ⟨repository⟩ extra
    refine ⟨x, t, ?_, searchPath, ?_⟩
    · rw [← ran, runConfig_eq]
    · dsimp only
      rw [runModule, ran]
  | error argument =>
    change Outcome.failure _ = _
    rw [Outcome.failure, ended_singleton, String.append_assoc]
    rfl

/-- A repository without modules, and another one with a module `m`. -/
def extraFiles : FileSystem where
  entries := [
    ("r", .directory []),
    ("x", .directory [("m.pyf", .file (Artifact.frame (Artifact.body.write
      ⟨"m", "m.py", [.print "hello"]⟩)))])]
  workingDirectory := .top

/-- The module is not in the repository, but in the directory of an option. -/
theorem run_reads_options_extraFiles :
    Repository.resolve extraFiles ⟨"/r"⟩ "m" = .ok .nothing ∧
    execute extraFiles ["run", "/r", "m", "--path", "/x"] = ⟨0, "hello\n", ""⟩ := by
  have nothing : (Repository.resolve extraFiles ⟨"/r"⟩ "m").toOption = some .nothing := by
    decide +kernel
  have printed : (Interpreter.runMain extraFiles "m"
      (.new ⟨[⟨"/r"⟩, ⟨"/x"⟩], none, .stdout []⟩)).map (fun p => report p.1 p.2) =
        some ⟨0, "hello\n", ""⟩ := by decide +kernel
  obtain ⟨-, -, x, t, ran, -, outcome⟩ :=
    run_reads_options extraFiles "/r" "m" ["--path", "/x"]
  rw [ran] at printed
  exact ⟨Run.eq_ok_of_toOption nothing, outcome.trans (Option.some.inj printed)⟩

/-- A directory may look like an option, but an option without one is reported. -/
example : extraDirectories ["--path", "--path=a", "--path=b", "--path"] = .error "--path" :=
  rfl

end ModuleImport.CommandLine
