import ModuleImport.FileSystem.Basic
import ModuleImport.Proofs.Path.Names

namespace ModuleImport

open ModuleImport.Path

namespace FileSystem

variable {fs : FileSystem} {links : Nat} {here : Trail} {p q : Path}

theorem walk_cons (fs : FileSystem) (links : Nat) (here : Trail) (step : String)
    (rest : List String) :
    fs.walk links here (step :: rest) =
      (fs.walk links here [step]).bind fun place => fs.walk place.linksLeft place.trail rest :=
  walk_append fs links here [step] rest

theorem walk_nil (fs : FileSystem) (links : Nat) (here : Trail) :
    fs.walk links here [] = .ok ⟨here, links⟩ := by
  cases links <;> rfl

theorem fault?_of_barred {fault : Fault} (barred : fs.barred here = some fault) (name : String) :
    fs.fault? here name = some fault := by
  rw [fault?, barred]
  rfl

theorem step_of_fault {fault : Fault} {step : String} (some : step ≠ "")
    {entries : List (String × Node)} (directory : fs.nodeAt here = .directory entries)
    (refused : fs.fault? here step = .some fault) :
    fs.step here step = .error (.failed fault) := by
  rw [FileSystem.step, directory]
  dsimp only
  rw [if_neg some, refused]

theorem step_of_idle {step : String} (idle : step = "" ∨ step = ".") {entries : List (String × Node)}
    (directory : fs.nodeAt here = .directory entries)
    (unbarred : step = "" ∨ fs.barred here = none) :
    fs.step here step = .ok (.arrived here) := by
  rw [FileSystem.step, directory]
  dsimp only
  split
  · rfl
  · rename_i some
    obtain rfl := idle.resolve_left some
    rw [fault?, unbarred.resolve_left some]
    rfl

theorem walk_of_step_error {e : IoError} {name : String} (taken : fs.step here name = .error e)
    (rest : List String) : fs.walk links here (name :: rest) = .error e := by
  cases links <;> rw [walk, walkSteps, taken]

theorem walk_of_arrived {there : Trail} {name : String}
    (taken : fs.step here name = .ok (.arrived there)) (rest : List String) :
    fs.walk links here (name :: rest) = fs.walk links there rest := by
  cases links <;> rw [walk, walkSteps, taken]

theorem walk_empty {entries : List (String × Node)}
    (directory : fs.nodeAt here = .directory entries) :
    fs.walk links here [""] = .ok ⟨here, links⟩ := by
  rw [walk_of_arrived (step_of_idle (.inl rfl) directory (.inl rfl)), walk_nil]

theorem walk_not_directory {step : String} {rest : List String}
    (noDirectory : ∀ entries, fs.nodeAt here ≠ .directory entries) :
    fs.walk links here (step :: rest) = .error .notADirectory := by
  apply walk_of_step_error
  unfold FileSystem.step
  split
  · rename_i entries same
    exact absurd same (noDirectory entries)
  · rfl

theorem walk_barred {fault : Fault} {entries : List (String × Node)} {steps : List String}
    (directory : fs.nodeAt here = .directory entries) (barred : fs.barred here = some fault)
    (leads : ∃ step ∈ steps, step ≠ "") : fs.walk links here steps = .error (.failed fault) := by
  induction steps with
  | nil =>
    obtain ⟨_, member, -⟩ := leads
    cases member
  | cons step rest ih =>
    by_cases empty : step = ""
    · rw [walk_of_arrived (step_of_idle (.inl empty) directory (.inl empty))]
      obtain ⟨other, member, some⟩ := leads
      rcases List.mem_cons.mp member with rfl | member
      · exact absurd empty some
      · exact ih ⟨other, member, some⟩
    · exact walk_of_step_error (step_of_fault empty directory (fault?_of_barred barred step)) rest

theorem directory_of_walk_cons {step : String} {rest : List String} {place : Place}
    (found : fs.walk links here (step :: rest) = .ok place) :
    ∃ entries, fs.nodeAt here = .directory entries := by
  by_cases directory : ∃ entries, fs.nodeAt here = .directory entries
  · exact directory
  · rw [walk_not_directory (not_exists.mp directory)] at found
    cases found

theorem walk_of_idle_ok {step : String} (idle : step = "" ∨ step = ".") {rest : List String}
    {place : Place} (ok : fs.walk links here (step :: rest) = .ok place) :
    fs.walk links here rest = .ok place := by
  by_cases directory : ∃ entries, fs.nodeAt here = .directory entries
  · obtain ⟨entries, directory⟩ := directory
    by_cases unbarred : step = "" ∨ fs.barred here = none
    · rw [walk_of_arrived (step_of_idle idle directory unbarred)] at ok
      exact ok
    · obtain ⟨some, isBarred⟩ := not_or.mp unbarred
      obtain ⟨fault, barred⟩ := Option.ne_none_iff_exists'.mp isBarred
      rw [walk_barred directory barred ⟨step, List.mem_cons_self, some⟩] at ok
      cases ok
  · rw [walk_not_directory (not_exists.mp directory)] at ok
    cases ok

theorem walk_idle_cons {step : String} (idle : step = "" ∨ step = ".") {rest : List String}
    (leads : ∃ next ∈ rest, next ≠ "") : fs.walk links here (step :: rest) = fs.walk links here rest := by
  by_cases directory : ∃ entries, fs.nodeAt here = .directory entries
  · obtain ⟨entries, directory⟩ := directory
    by_cases unbarred : step = "" ∨ fs.barred here = none
    · exact walk_of_arrived (step_of_idle idle directory unbarred) rest
    · obtain ⟨some, isBarred⟩ := not_or.mp unbarred
      obtain ⟨fault, barred⟩ := Option.ne_none_iff_exists'.mp isBarred
      rw [walk_barred directory barred ⟨step, List.mem_cons_self, some⟩,
        walk_barred directory barred leads]
  · have noDirectory := not_exists.mp directory
    obtain ⟨next, member, -⟩ := leads
    obtain ⟨first, others, rfl⟩ := List.exists_cons_of_ne_nil (List.ne_nil_of_mem member)
    rw [walk_not_directory noDirectory, walk_not_directory noDirectory]

theorem walk_names_of_last {front : List String} {name : String} (isName : IsName name)
    (links : Nat) (here : Trail) :
    fs.walk links here (front ++ [name]) = fs.walk links here (namesIn (front ++ [name])) := by
  induction front generalizing links here with
  | nil => rw [List.nil_append, namesIn_cons_of_ne isName.some isName.noDot]; rfl
  | cons step front ih =>
    rw [List.cons_append]
    by_cases idle : step = "" ∨ step = "."
    · rw [walk_idle_cons idle ⟨name, by simp, isName.some⟩, namesIn_cons_of_idle idle, ih]
    · obtain ⟨some, noDot⟩ := not_or.mp idle
      rw [walk_cons, namesIn_cons_of_ne some noDot, walk_cons fs links here step (namesIn _)]
      congr 1
      funext place
      exact ih place.linksLeft place.trail

theorem walk_names_of_ok {steps : List String} {place : Place}
    (ok : fs.walk links here steps = .ok place) : fs.walk links here (namesIn steps) = .ok place := by
  induction steps generalizing links here with
  | nil => exact ok
  | cons step rest ih =>
    by_cases idle : step = "" ∨ step = "."
    · rw [namesIn_cons_of_idle idle]
      exact ih (walk_of_idle_ok idle ok)
    · obtain ⟨some, noDot⟩ := not_or.mp idle
      rw [namesIn_cons_of_ne some noDot, walk_cons]
      rw [walk_cons] at ok
      cases taken : fs.walk links here [step] with
      | error e =>
        rw [taken] at ok
        cases ok
      | ok next =>
        rw [taken] at ok
        exact ih ok

/-- Steps without dots lead where their names lead, if these lead to a directory. A dot at their end
asks for a directory that may be searched. -/
theorem walk_of_names {steps : List String} {place : Place} {entries : List (String × Node)}
    (noDot : "." ∉ steps) (ok : fs.walk links here (namesIn steps) = .ok place)
    (directory : fs.nodeAt place.trail = .directory entries) :
    fs.walk links here steps = .ok place := by
  induction steps generalizing links here with
  | nil => exact ok
  | cons step rest ih =>
    rw [List.mem_cons, not_or] at noDot
    obtain ⟨noDot, restNoDot⟩ := noDot
    have ih {links here} := @ih links here restNoDot
    by_cases empty : step = ""
    · rw [namesIn_cons_of_idle (.inl empty)] at ok
      have later := ih ok
      have inside : ∃ entries, fs.nodeAt here = .directory entries := by
        cases rest with
        | nil =>
          rw [walk_nil] at later
          cases later
          exact ⟨entries, directory⟩
        | cons next rest => exact directory_of_walk_cons later
      obtain ⟨_, inside⟩ := inside
      rw [walk_of_arrived (step_of_idle (.inl empty) inside (.inl empty))]
      exact later
    · rw [namesIn_cons_of_ne empty (Ne.symm noDot), walk_cons] at ok
      rw [walk_cons]
      cases taken : fs.walk links here [step] with
      | error e =>
        rw [taken] at ok
        cases ok
      | ok next =>
        rw [taken] at ok
        exact ih ok

/-- What names in a row lead to from the root. -/
def leads (fs : FileSystem) (names : List String) : Except IoError Node :=
  (fs.walk linkLimit [] names).map fun place => fs.nodeAt place.trail

theorem stat_of_nul (nul : '\x00' ∈ p.text.toList) : fs.stat p = .error .nulInPath := by
  unfold stat find
  rw [if_pos nul]
  rfl

theorem stat_of_long (plain : '\x00' ∉ p.text.toList) (long : pathLimit < p.text.utf8ByteSize) :
    fs.stat p = .error .nameTooLong := by
  have some : p.text ≠ "" := by
    intro empty
    rw [empty] at long
    contradiction
  unfold stat find
  rw [if_neg plain, if_neg some, if_pos long]
  rfl

section Origin

variable (plain : '\x00' ∉ p.text.toList) (some : p.text ≠ "")
  (short : p.text.utf8ByteSize ≤ pathLimit) (origin : fs.origin? p = .some here)

include plain some short origin

theorem find_of_origin :
    fs.find p = (fs.walk linkLimit here p.steps).map Place.trail := by
  unfold find
  rw [if_neg plain, if_neg some, if_neg (Nat.not_lt.mpr short), origin]

theorem stat_of_origin :
    fs.stat p = (fs.walk linkLimit here p.steps).map fun place => fs.nodeAt place.trail := by
  rw [stat, find_of_origin plain some short origin]
  cases fs.walk linkLimit here p.steps <;> rfl

end Origin

theorem stat_of_no_origin (plain : '\x00' ∉ p.text.toList)
    (short : p.text.utf8ByteSize ≤ pathLimit) (origin : fs.origin? p = none) :
    fs.stat p = .error .notFound := by
  unfold stat find
  rw [if_neg plain]
  split
  · rfl
  · rw [if_neg (Nat.not_lt.mpr short), origin]
    rfl

theorem stat_of_absolute (absolute : p.isAbsolute = true) (plain : '\x00' ∉ p.text.toList)
    (short : p.text.utf8ByteSize ≤ pathLimit) :
    fs.stat p = (fs.walk linkLimit [] p.steps).map fun place => fs.nodeAt place.trail :=
  stat_of_origin plain (text_ne_of_isAbsolute absolute) short (if_pos absolute)

/-- A path can be looked up: what comes of it is not due to its text. -/
def IsReadable (fs : FileSystem) (p : Path) : Prop :=
  fs.stat p ≠ .error .nulInPath ∧ fs.stat p ≠ .error .nameTooLong

theorem IsReadable.plain (readable : fs.IsReadable p) : '\x00' ∉ p.text.toList :=
  fun nul => readable.1 (stat_of_nul nul)

theorem IsReadable.short (readable : fs.IsReadable p) : p.text.utf8ByteSize ≤ pathLimit :=
  Nat.le_of_not_lt fun long => readable.2 (stat_of_long readable.plain long)

theorem isReadable_of_stat {node : Node} (found : fs.stat p = .ok node) : fs.IsReadable p := by
  constructor
  all_goals
    intro failed
    rw [failed] at found
    cases found

theorem isReadable_of_notFound (missing : fs.stat p = .error .notFound) :
    fs.IsReadable p := by
  constructor
  all_goals
    intro failed
    rw [failed] at missing
    cases missing

/-- An absolute path that ends in a name and can be looked up leads where its names lead. -/
theorem stat_of_endsInName (absolute : p.isAbsolute = true) (ends : EndsInName p)
    (plain : '\x00' ∉ p.text.toList) (short : p.text.utf8ByteSize ≤ pathLimit) :
    fs.stat p = fs.leads p.names := by
  obtain ⟨front, name, steps, isName⟩ := ends
  rw [stat_of_absolute absolute plain short, leads, names_eq, steps, walk_names_of_last isName]

theorem isDirectory_iff :
    fs.isDirectory p = true ↔ ∃ entries, fs.stat p = .ok (.directory entries) := by
  unfold isDirectory
  constructor
  · intro directory
    split at directory
    · rename_i entries found
      exact ⟨entries, found⟩
    · cases directory
  · rintro ⟨entries, found⟩
    rw [found]

/-- Absolute paths with the same names. -/
structure Aliased (p q : Path) : Prop where
  absolute : p.isAbsolute = true
  absolute' : q.isAbsolute = true
  names : p.names = q.names

/-- Absolute paths that end in the same names, so that they lead to the same. -/
structure Respelled (p q : Path) : Prop extends Aliased p q where
  ends : EndsInName p
  ends' : EndsInName q

theorem Aliased.symm (aliased : Aliased p q) : Aliased q p :=
  ⟨aliased.absolute', aliased.absolute, aliased.names.symm⟩

/-- Below different spellings of a directory stand different spellings of what is in it. -/
theorem respelled_join (aliased : Aliased p q) {step : String} (isName : IsName step) :
    Respelled (p.join step) (q.join step) where
  absolute := isAbsolute_join aliased.absolute step
  absolute' := isAbsolute_join aliased.absolute' step
  names := by
    rw [names_join aliased.absolute isName, names_join aliased.absolute' isName, aliased.names]
  ends := endsInName_join aliased.absolute isName
  ends' := endsInName_join aliased.absolute' isName

theorem Aliased.same (aliased : Aliased p q) : p.same q = true :=
  same_of_names aliased.absolute aliased.absolute' aliased.names

theorem aliased_of_around {text : String} (absolute : (Path.mk text).isAbsolute = true)
    (around : IsAround text p) (around' : IsAround text q) : Aliased p q where
  absolute := around.isAbsolute absolute
  absolute' := around'.isAbsolute absolute
  names := around.names.trans around'.names.symm

/-- Paths with the same names hold a character that makes them unreadable in the same names. -/
theorem Aliased.plain (aliased : Aliased p q) (plain : '\x00' ∉ p.text.toList) :
    '\x00' ∉ q.text.toList := by
  rw [mem_iff_mem_names (by decide) (by decide), aliased.names] at plain
  rw [mem_iff_mem_names (by decide) (by decide)]
  exact plain

/-- Under any spelling without dots that is short enough a directory is found as a directory. -/
theorem isDirectory_of_aliased (aliased : Aliased p q) (directory : fs.isDirectory p = true)
    (noDot : "." ∉ q.steps) (short : q.text.utf8ByteSize ≤ pathLimit) : fs.isDirectory q = true := by
  obtain ⟨entries, found⟩ := isDirectory_iff.mp directory
  have readable := isReadable_of_stat found
  rw [stat_of_absolute aliased.absolute readable.plain readable.short] at found
  cases walked : fs.walk linkLimit [] p.steps with
  | error e =>
    rw [walked] at found
    cases found
  | ok place =>
    rw [walked] at found
    have node : fs.nodeAt place.trail = .directory entries := Except.ok.inj found
    have names : namesIn p.steps = namesIn q.steps := aliased.names
    have led := walk_names_of_ok walked
    rw [names] at led
    apply isDirectory_iff.mpr
    refine ⟨entries, ?_⟩
    rw [stat_of_absolute aliased.absolute' (aliased.plain readable.plain) short,
      walk_of_names noDot led node]
    exact found

theorem Respelled.stat (respelled : Respelled p q) (readable : fs.IsReadable p)
    (readable' : fs.IsReadable q) : fs.stat p = fs.stat q := by
  rw [stat_of_endsInName respelled.absolute respelled.ends readable.plain readable.short,
    stat_of_endsInName respelled.absolute' respelled.ends' readable'.plain readable'.short,
    respelled.names]

theorem isReadable_of_read {bytes : List UInt8} (read : fs.read p = .ok bytes) :
    fs.IsReadable p := by
  unfold FileSystem.read at read
  constructor
  all_goals
    intro failed
    rw [failed] at read
    cases read

theorem Respelled.read {bytes bytes' : List UInt8} (respelled : Respelled p q)
    (read : fs.read p = .ok bytes) (read' : fs.read q = .ok bytes') : bytes = bytes' := by
  have same := respelled.stat (isReadable_of_read read) (isReadable_of_read read')
  unfold FileSystem.read at read read'
  rw [same, read'] at read
  cases read
  rfl

end FileSystem

end ModuleImport
