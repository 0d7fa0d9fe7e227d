import ModuleImport.Proofs.Repository.Checks

namespace ModuleImport

open ModuleImport.Path ModuleImport.FileSystem Name

/-- A name that an entry of a directory can have. -/
structure IsFileName (name : String) : Prop extends IsName name where
  notUp : name ≠ ".."
  plain : '\x00' ∉ name.toList
  fits : name.utf8ByteSize ≤ nameLimit

namespace Repository

variable {fs : FileSystem} {root : Path} {name segment : String}
  {entries inner : List (String × Node)}

/-- A directory under a name in a root with some entries, itself or at the end of a link. -/
inductive HoldsDirectory (fs : FileSystem) (root : Path) (entries : List (String × Node))
    (name : String) (inner : List (String × Node)) : Prop
  | itself : Table.lookupIn name entries = some (.directory inner) →
      HoldsDirectory fs root entries name inner
  | linked {target} : Table.lookupIn name entries = some (.link target) →
      fs.stat (root.join name) = .ok (.directory inner) →
      HoldsDirectory fs root entries name inner

/-- Why a name cannot be looked up in the directory at a path, whatever is there: the path is too long
then, or the system refuses. -/
def hindrance? (fs : FileSystem) (directory : Path) (name : String) : Option ProbeError :=
  let p := directory.join name
  if pathLimit < p.text.utf8ByteSize then some ⟨p, .nameTooLong⟩
  else (fs.refusal? directory name).map fun fault => ⟨p, .failed fault⟩

/-- The first hindrance among the three look-ups that lead to the initializer of a directory. -/
def obstacle? (fs : FileSystem) (root : Path) (segment : String) : Option ProbeError :=
  (hindrance? fs root (artifactFileName segment)).or
    ((hindrance? fs root segment).or (hindrance? fs (root.join segment) packageInitializer))

theorem hindrance?_eq_none_iff {p : Path} : hindrance? fs p name = none ↔
    (p.join name).text.utf8ByteSize ≤ pathLimit ∧ fs.refusal? p name = none := by
  unfold hindrance?
  dsimp only
  split
  · rename_i long
    simp [Nat.not_le.mpr long]
  · rename_i short
    simp [Nat.le_of_not_lt short]

theorem HoldsDirectory.entries_ne (holds : HoldsDirectory fs root entries name inner) :
    entries ≠ [] := by
  rintro rfl
  cases holds with
  | itself entry => cases entry
  | linked entry => cases entry

theorem artifactFileName_ne_up (segment : String) : artifactFileName segment ≠ ".." := by
  intro same
  have size := size_artifactFileName segment
  have two : "..".utf8ByteSize = 2 := rfl
  rw [same] at size
  omega

theorem probe_of_hindrance {p : Path} {e : ProbeError} (found : fs.stat p = .ok (.directory entries))
    (isName : IsName name) (plain : '\x00' ∉ name.toList) (hindered : hindrance? fs p name = some e) :
    probe fs (p.join name) = .error e := by
  unfold hindrance? at hindered
  dsimp only at hindered
  split at hindered
  · rename_i long
    obtain rfl := Option.some.inj hindered
    exact probe_of_failure (stat_of_long (plain_join found isName plain) long) (by decide)
  · rename_i short
    obtain ⟨fault, refused, rfl⟩ := Option.map_eq_some_iff.mp hindered
    exact probe_of_failure
      (stat_join_of_fault found isName plain (Nat.le_of_not_lt short) refused) nofun

section Legal

variable (legal : IsFileName segment)

include legal

theorem plain_artifactFileName : '\x00' ∉ (artifactFileName segment).toList := by
  rw [artifactFileName, String.toList_append, List.mem_append, not_or]
  exact ⟨legal.plain, by decide⟩

variable (opened : fs.stat root = .ok (.directory entries))

include opened

theorem probe_artifact (unhidden : Table.lookupIn (artifactFileName segment) entries = none)
    (fits : (artifactFileName segment).utf8ByteSize ≤ nameLimit)
    (free : hindrance? fs root (artifactFileName segment) = none) :
    probe fs (root.join (artifactFileName segment)) = .ok .missing := by
  obtain ⟨short, free⟩ := hindrance?_eq_none_iff.mp free
  exact probe_of_notFound (stat_join_of_missing opened (isName_artifactFileName legal.toIsName)
    (plain_artifactFileName legal) short (artifactFileName_ne_up segment) free fits unhidden)

variable (holds : HoldsDirectory fs root entries segment inner)

include holds

theorem HoldsDirectory.stat (free : hindrance? fs root segment = none) :
    fs.stat (root.join segment) = .ok (.directory inner) := by
  cases holds with
  | itself entry =>
    obtain ⟨short, free⟩ := hindrance?_eq_none_iff.mp free
    exact stat_join_of_entry opened legal.toIsName legal.plain short legal.notUp free legal.fits
      entry (fun _ => nofun)
  | linked _ found => exact found

theorem classify_of_long_name (long : nameLimit < (artifactFileName segment).utf8ByteSize) :
    classify fs root segment = .error ((hindrance? fs root (artifactFileName segment)).getD
      ⟨root.join (artifactFileName segment), .nameTooLong⟩) := by
  have isName := isName_artifactFileName legal.toIsName
  have plain := plain_artifactFileName legal
  apply classify_of_error
  cases hindered : hindrance? fs root (artifactFileName segment) with
  | some e => exact probe_of_hindrance opened isName plain hindered
  | none =>
    obtain ⟨short, free⟩ := hindrance?_eq_none_iff.mp hindered
    exact probe_of_failure (stat_join_of_long_name opened isName plain short
      (artifactFileName_ne_up segment) free holds.entries_ne long) (by decide)

variable (unhidden : Table.lookupIn (artifactFileName segment) entries = none)
  (fits : (artifactFileName segment).utf8ByteSize ≤ nameLimit)

include unhidden fits

/-- Where nothing hinders the artifact and the directory everything depends on the initializer. -/
theorem classify_of_holds (free : hindrance? fs root (artifactFileName segment) = none)
    (free' : hindrance? fs root segment = none) :
    classify fs root segment = (probe fs ((root.join segment).join packageInitializer)).map
      (ofInitializer (root.join segment)) := by
  have artifact := probe_artifact legal opened unhidden fits free
  have base := holds.stat legal opened free'
  rw [classify_of_ne_file artifact (by decide), probe_of_stat base]
  rfl

theorem classify_of_obstacle {e : ProbeError} (obstacle : obstacle? fs root segment = some e) :
    classify fs root segment = .error e := by
  rcases Option.or_eq_some_iff.mp obstacle with first | ⟨free, obstacle⟩
  · exact classify_of_error (probe_of_hindrance opened (isName_artifactFileName legal.toIsName)
      (plain_artifactFileName legal) first)
  rcases Option.or_eq_some_iff.mp obstacle with second | ⟨free', third⟩
  · have artifact := probe_artifact legal opened unhidden fits free
    have base := probe_of_hindrance opened legal.toIsName legal.plain second
    rw [classify_of_ne_file artifact (by decide), base]
    rfl
  · have base := holds.stat legal opened free'
    rw [classify_of_holds legal opened holds unhidden fits free free',
      probe_of_hindrance base isName_packageInitializer (by decide) third]
    rfl

/-- Where there is no obstacle the directory is a package or a portion, as its initializer says. -/
theorem classify_of_entry (clear : obstacle? fs root segment = none) :
    classify fs root segment = (probe fs ((root.join segment).join packageInitializer)).map
      (ofInitializer (root.join segment)) ∧
    (∀ content, Table.lookupIn packageInitializer inner = some (.file content) →
      classify fs root segment =
        .ok (.package ((root.join segment).join packageInitializer) (root.join segment))) ∧
    (Table.lookupIn packageInitializer inner = none →
      classify fs root segment = .ok (.portion (root.join segment))) := by
  obtain ⟨free, clear⟩ := Option.or_eq_none_iff.mp clear
  obtain ⟨free', clear⟩ := Option.or_eq_none_iff.mp clear
  obtain ⟨short, unrefused⟩ := hindrance?_eq_none_iff.mp clear
  have base := holds.stat legal opened free'
  rw [classify_of_holds legal opened holds unhidden fits free free']
  refine ⟨rfl, fun content entry => ?_, fun missing => ?_⟩
  · have found := stat_join_of_entry base isName_packageInitializer (by decide) short (by decide)
      unrefused (by decide) entry (fun _ => nofun)
    rw [probe_of_stat found]
    rfl
  · have gone := stat_join_of_missing base isName_packageInitializer (by decide) short (by decide)
      unrefused (by decide) missing
    rw [probe_of_notFound gone]
    rfl

end Legal

theorem map_ofInitializer_ne (probed : Except ProbeError Entry) (base : Path) :
    probed.map (ofInitializer base) ≠ .ok .nothing := by
  cases probed with
  | error e => exact nofun
  | ok entry => cases entry <;> exact nofun

/-- A segment that no artifact answers to never stands for nothing if the root holds a directory of
that name. If an artifact could have the name of the segment, then the first path on the way to the
initializer that is too long or that the system refuses to look up is reported. If there is none, the
segment stands for the package that an initializer makes of the directory, or for a portion if there
is no initializer. -/
theorem resolve_directory (isLast : segment? name = some segment) (legal : IsFileName segment)
    (opened : fs.stat root = .ok (.directory entries))
    (holds : HoldsDirectory fs root entries segment inner)
    (unhidden : Table.lookupIn (artifactFileName segment) entries = none) :
    resolve fs root name ≠ .ok .nothing ∧
    (nameLimit < (artifactFileName segment).utf8ByteSize →
      resolve fs root name = .error ((hindrance? fs root (artifactFileName segment)).getD
        ⟨root.join (artifactFileName segment), .nameTooLong⟩)) ∧
    ((artifactFileName segment).utf8ByteSize ≤ nameLimit →
      (∀ e, obstacle? fs root segment = some e → resolve fs root name = .error e) ∧
      (obstacle? fs root segment = none →
        resolve fs root name = (probe fs ((root.join segment).join packageInitializer)).map
          (ofInitializer (root.join segment)) ∧
        (∀ content, Table.lookupIn packageInitializer inner = some (.file content) →
          resolve fs root name =
            .ok (.package ((root.join segment).join packageInitializer) (root.join segment))) ∧
        (Table.lookupIn packageInitializer inner = none →
          resolve fs root name = .ok (.portion (root.join segment))))) := by
  rw [resolve_of_some isLast]
  refine ⟨?_, classify_of_long_name legal opened holds, fun fits =>
    ⟨fun e => classify_of_obstacle legal opened holds unhidden fits,
      classify_of_entry legal opened holds unhidden fits⟩⟩
  by_cases fits : (artifactFileName segment).utf8ByteSize ≤ nameLimit
  · cases obstacle : obstacle? fs root segment with
    | some e =>
      rw [classify_of_obstacle legal opened holds unhidden fits obstacle]
      nofun
    | none =>
      rw [(classify_of_entry legal opened holds unhidden fits obstacle).1]
      exact map_ofInitializer_ne _ _
  · rw [classify_of_long_name legal opened holds (Nat.lt_of_not_le fits)]
    nofun

/-- A package, a link to it, an empty directory, and a package that may not be searched. -/
def directoriesFiles : FileSystem where
  entries := [
    ("r", .directory [
      ("alias", .link ⟨"pkg"⟩),
      ("pkg", .directory [("__init__.pyf", .file [])]),
      ("sealed", .directory [("__init__.pyf", .file [])]),
      ("space", .directory [])])]
  workingDirectory := .top
  barred here := if here.location = ["r", "sealed"] then some .permissionDenied else none

theorem resolve_directory_directoriesFiles :
    resolve directoriesFiles ⟨"/r"⟩ "pkg" =
      .ok (.package ⟨"/r/pkg/__init__.pyf"⟩ ⟨"/r/pkg"⟩) ∧
    resolve directoriesFiles ⟨"/r"⟩ "x.alias" =
      .ok (.package ⟨"/r/alias/__init__.pyf"⟩ ⟨"/r/alias"⟩) ∧
    resolve directoriesFiles ⟨"/r"⟩ "space" = .ok (.portion ⟨"/r/space"⟩) ∧
    resolve directoriesFiles ⟨"/r"⟩ "sealed" =
      .error ⟨⟨"/r/sealed/__init__.pyf"⟩, .failed .permissionDenied⟩ := by
  have opened : directoriesFiles.stat ⟨"/r"⟩ = .ok (.directory _) := rfl
  have legal {segment : String} (isName : IsName segment)
      (rest : segment ≠ ".." ∧ '\x00' ∉ segment.toList ∧ segment.utf8ByteSize ≤ nameLimit) :
      IsFileName segment := ⟨isName, rest.1, rest.2.1, rest.2.2⟩
  have pkg : segment? "pkg" = some "pkg" := rfl
  have toPkg : segment? "x.alias" = some "alias" := rfl
  have space : segment? "space" = some "space" := rfl
  have closed : segment? "sealed" = some "sealed" := rfl
  obtain ⟨-, -, itself⟩ := resolve_directory pkg (legal (by decide) (by decide)) opened
    (.itself rfl) rfl
  obtain ⟨-, -, linked⟩ := resolve_directory toPkg (legal (by decide) (by decide)) opened
    (.linked rfl rfl) rfl
  obtain ⟨-, -, empty⟩ := resolve_directory space (legal (by decide) (by decide)) opened
    (.itself rfl) rfl
  obtain ⟨-, -, barred⟩ := resolve_directory closed (legal (by decide) (by decide)) opened
    (.itself rfl) rfl
  exact ⟨((itself (by decide)).2 (by decide +kernel)).2.1 _ rfl,
    ((linked (by decide)).2 (by decide +kernel)).2.1 _ rfl,
    ((empty (by decide)).2 (by decide +kernel)).2.2 rfl,
    (barred (by decide)).1 _ (by decide +kernel)⟩

/-- A name of some letters. -/
def letters (n : Nat) : String :=
  String.ofList (List.replicate n 'a')

theorem eq_of_mem_letters {n : Nat} {c : Char} (member : c ∈ (letters n).toList) : c = 'a' := by
  rw [letters, String.toList_ofList] at member
  exact List.eq_of_mem_replicate member

theorem isSegment_letters {n : Nat} (some : 0 < n) : IsSegment (letters n) where
  text := by
    intro empty
    have length := congrArg (fun text => text.toList.length) empty
    simp only [letters, String.toList_ofList, List.length_replicate] at length
    exact absurd length (Nat.ne_of_gt some)
  noDot := fun member => absurd (eq_of_mem_letters member) (by decide)
  noSlash := fun member => absurd (eq_of_mem_letters member) (by decide)

/-- A directory whose name leaves no room for that of an artifact. -/
def longNameFiles : FileSystem where
  entries := [("r", .directory [(letters 252, .directory [])])]
  workingDirectory := .top

/-- The directory is there, and nothing else, but it is not found. -/
theorem directory_with_long_name :
    IsFileName (letters 252) ∧ segment? (letters 252) = some (letters 252) ∧
    longNameFiles.stat ⟨"/r"⟩ = .ok (.directory [(letters 252, .directory [])]) ∧
    Table.lookupIn (letters 252) [(letters 252, Node.directory [])] = some (.directory []) ∧
    Table.lookupIn (artifactFileName (letters 252)) [(letters 252, Node.directory [])] = none ∧
    resolve longNameFiles ⟨"/r"⟩ (letters 252) =
      .error ⟨(Path.mk "/r").join (artifactFileName (letters 252)), .nameTooLong⟩ := by
  have isSegment : IsSegment (letters 252) := isSegment_letters (by decide)
  have isLast : segment? (letters 252) = some (letters 252) := by
    have last := segment?_dotted [] isSegment
    rwa [List.nil_append, dotted_singleton] at last
  have only {c : Char} (other : c ≠ 'a') : c ∉ (letters 252).toList :=
    fun member => other (eq_of_mem_letters member)
  have legal : IsFileName (letters 252) := {
    toIsName := isName_of_isSegment isSegment
    notUp := fun same => isSegment.noDot (by rw [same]; decide)
    plain := only (by decide)
    fits := by decide +kernel }
  have longer : nameLimit < (artifactFileName (letters 252)).utf8ByteSize := by decide +kernel
  have opened : longNameFiles.stat ⟨"/r"⟩ = .ok (.directory [(letters 252, .directory [])]) := rfl
  have entry : Table.lookupIn (letters 252) [(letters 252, Node.directory [])] =
      some (.directory []) := if_pos rfl
  have unhidden : Table.lookupIn (artifactFileName (letters 252))
      [(letters 252, Node.directory [])] = none := by
    refine if_neg fun same => ?_
    rw [same] at longer
    exact absurd legal.fits (Nat.not_le.mpr longer)
  refine ⟨legal, isLast, opened, entry, unhidden, ?_⟩
  rw [resolve_of_some isLast, classify_of_long_name legal opened (.itself entry) longer]
  have free : hindrance? longNameFiles ⟨"/r"⟩ (artifactFileName (letters 252)) = none :=
    hindrance?_eq_none_iff.mpr
      ⟨by decide +kernel, refusal?_eq_none (fun _ => rfl) fun _ _ => rfl⟩
  rw [free]
  rfl

end Repository

end ModuleImport
