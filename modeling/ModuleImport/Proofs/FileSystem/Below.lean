import ModuleImport.Proofs.FileSystem.Spelling
import ModuleImport.Proofs.Path.Sizes

namespace ModuleImport

namespace Path

variable {p : Path} {name : String}

/-- Below a path its steps go on with a name, but for the empty step behind a slash at its end. -/
theorem steps_join (some : p.text ≠ "") (isName : IsName name) :
    ∃ front, (p.join name).steps = front ++ [name] ∧ (p.steps = front ∨ p.steps = front ++ [""]) := by
  have relative := isAbsolute_of_isName isName
  unfold join
  rw [if_neg (by rw [relative]; decide)]
  by_cases slash : p.endsInSlash = true
  · obtain ⟨front, rfl⟩ := eq_of_endsInSlash slash
    refine ⟨(Path.mk front).steps, ?_, .inr ?_⟩
    · rw [if_pos (.inr slash), steps_slash, steps_of_noSlash isName.noSlash]
    · have split := steps_slash front ""
      rw [String.append_empty] at split
      exact split
  · refine ⟨p.steps, ?_, .inl rfl⟩
    rw [if_neg (not_or.mpr ⟨some, slash⟩), steps_slash, steps_of_noSlash isName.noSlash]

theorem text_join_prefix (p : Path) (isName : IsName name) :
    ∃ back, (p.join name).text = p.text ++ (back ++ name) := by
  rw [text_join p (isAbsolute_of_isName isName), join_empty]
  split
  · exact ⟨"", by rw [String.empty_append]⟩
  · exact ⟨"/", String.append_assoc⟩

theorem text_join_ne (p : Path) (isName : IsName name) : (p.join name).text ≠ "" := by
  obtain ⟨back, text⟩ := text_join_prefix p isName
  intro empty
  rw [text, ← String.append_assoc] at empty
  exact isName.some (String.append_eq_empty_iff.mp empty).2

end Path

open ModuleImport.Path

namespace FileSystem

variable {fs : FileSystem} {p : Path} {name : String} {here : Trail} {links : Nat}

section Taken

variable {entries : List (String × Node)} (directory : fs.nodeAt here = .directory entries)

include directory

theorem isRemoved_of_entries (some : entries ≠ []) : here.isRemoved = false := by
  match here with
  | [] => rfl
  | (_, .some _) :: _ => rfl
  | (_, none) :: _ =>
    cases directory
    exact absurd rfl some

variable (isName : IsName name) (notUp : name ≠ "..") (free : fs.fault? here name = none)

include isName notUp free

theorem step_of_isName : fs.step here name = enter here entries name := by
  unfold step
  rw [directory]
  dsimp only
  rw [if_neg isName.some, free]
  dsimp only
  rw [if_neg isName.noDot, if_neg notUp]

theorem step_of_long_name (some : entries ≠ []) (long : nameLimit < name.utf8ByteSize) :
    fs.step here name = .error .nameTooLong := by
  have there := isRemoved_of_entries directory some
  rw [step_of_isName directory isName notUp free, enter, if_neg (by rw [there]; decide), if_pos long]

theorem step_of_missing (fits : name.utf8ByteSize ≤ nameLimit)
    (missing : Table.lookupIn name entries = none) : fs.step here name = .error .notFound := by
  rw [step_of_isName directory isName notUp free, enter]
  split
  · rfl
  · rw [if_neg (Nat.not_lt.mpr fits), missing]

theorem step_of_entry {node : Node} (fits : name.utf8ByteSize ≤ nameLimit)
    (entry : Table.lookupIn name entries = some node) (noLink : ∀ target, node ≠ .link target) :
    fs.step here name = .ok (.arrived ((name, some node) :: here)) := by
  have there : here.isRemoved = false := by
    apply isRemoved_of_entries directory
    rintro rfl
    cases entry
  rw [step_of_isName directory isName notUp free, enter, if_neg (by rw [there]; decide),
    if_neg (Nat.not_lt.mpr fits), entry]
  cases node with
  | link target => exact absurd rfl (noLink target)
  | _ => rfl

end Taken

section Steps

variable {steps front : List String} {place there : Place} {entries : List (String × Node)}
  (into : steps = front ∨ steps = front ++ [""])

include into

theorem walk_into_directory (arrived : fs.walk links here steps = .ok place)
    (directory : fs.nodeAt place.trail = .directory entries) (name : String) :
    fs.walk links here (front ++ [name]) = fs.walk place.linksLeft place.trail [name] := by
  rw [walk_append]
  rcases into with rfl | rfl
  · rw [arrived]
    rfl
  · rw [walk_append] at arrived
    cases walked : fs.walk links here front with
    | error e =>
      rw [walked] at arrived
      cases arrived
    | ok before =>
      rw [walked] at arrived
      obtain ⟨inner, inside⟩ := directory_of_walk_cons arrived
      have stayed := walk_of_idle_ok (.inl rfl) arrived
      rw [walk_nil] at stayed
      cases stayed
      rfl

theorem walk_into_error {e : IoError} (failed : fs.walk links here steps = .error e)
    (name : String) : fs.walk links here (front ++ [name]) = .error e := by
  rw [walk_append]
  rcases into with rfl | rfl
  · rw [failed]
    rfl
  · rw [walk_append] at failed
    cases walked : fs.walk links here front with
    | error e' =>
      rw [walked] at failed
      exact failed
    | ok before =>
      rw [walked] at failed
      have noDirectory : ∀ entries, fs.nodeAt before.trail ≠ .directory entries := by
        intro entries directory
        have stayed := (walk_empty directory).symm.trans failed
        cases stayed
      exact (walk_not_directory noDirectory).trans ((walk_not_directory noDirectory).symm.trans failed)

theorem directory_of_walk_into {name : String}
    (found : fs.walk links here (front ++ [name]) = .ok there) :
    ∃ place entries, fs.walk links here steps = .ok place ∧
      fs.nodeAt place.trail = .directory entries := by
  rw [walk_append] at found
  cases walked : fs.walk links here front with
  | error e =>
    rw [walked] at found
    cases found
  | ok place =>
    rw [walked] at found
    obtain ⟨entries, directory⟩ := directory_of_walk_cons found
    refine ⟨place, entries, ?_, directory⟩
    rcases into with rfl | rfl
    · exact walked
    · rw [walk_append, walked]
      exact walk_empty directory

end Steps

section Joined

variable (isName : IsName name)

include isName

theorem plain_of_join (plain : '\x00' ∉ (p.join name).text.toList) : '\x00' ∉ p.text.toList := by
  obtain ⟨back, text⟩ := text_join_prefix p isName
  rw [text, String.toList_append] at plain
  exact fun nul => plain (List.mem_append_left _ nul)

theorem short_of_join (short : (p.join name).text.utf8ByteSize ≤ pathLimit) :
    p.text.utf8ByteSize ≤ pathLimit := by
  rw [size_join p (isAbsolute_of_isName isName)] at short
  have within := size_le_extent p
  omega

variable (some : p.text ≠ "")

include some

theorem origin_join : fs.origin? (p.join name) = fs.origin? p := by
  obtain ⟨back, text⟩ := text_join_prefix p isName
  have alike : (p.join name).isAbsolute = p.isAbsolute := by
    rw [← isAbsolute_append some (back ++ name), ← text]
  unfold origin?
  rw [alike]

theorem isDirectory_of_stat_join {node : Node} (found : fs.stat (p.join name) = .ok node) :
    fs.isDirectory p = true := by
  have readable := isReadable_of_stat found
  cases origin : fs.origin? p with
  | none =>
    have missing := stat_of_no_origin readable.plain readable.short
      ((origin_join isName some).trans origin)
    rw [missing] at found
    cases found
  | some here =>
    obtain ⟨front, steps, into⟩ := steps_join some isName
    rw [stat_of_origin readable.plain (text_join_ne p isName) readable.short
      ((origin_join isName some).trans origin), steps] at found
    cases walked : fs.walk linkLimit here (front ++ [name]) with
    | error e =>
      rw [walked] at found
      cases found
    | ok there =>
      obtain ⟨place, entries, arrived, directory⟩ := directory_of_walk_into into walked
      apply isDirectory_iff.mpr
      refine ⟨entries, ?_⟩
      rw [stat_of_origin (plain_of_join isName readable.plain) some
        (short_of_join isName readable.short) origin, arrived, ← directory]
      rfl

theorem stat_join_of_error {cause : IoError} (failed : fs.stat p = .error cause)
    (other : cause ≠ .notFound) :
    ∃ cause', fs.stat (p.join name) = .error cause' ∧ cause' ≠ .notFound := by
  by_cases nul : '\x00' ∈ (p.join name).text.toList
  · exact ⟨_, stat_of_nul nul, by decide⟩
  by_cases long : pathLimit < (p.join name).text.utf8ByteSize
  · exact ⟨_, stat_of_long nul long, by decide⟩
  have short := Nat.le_of_not_lt long
  have plain := plain_of_join isName nul
  have within := short_of_join isName short
  cases origin : fs.origin? p with
  | none =>
    rw [stat_of_no_origin plain within origin] at failed
    cases failed
    exact absurd rfl other
  | some here =>
    obtain ⟨front, steps, into⟩ := steps_join some isName
    rw [stat_of_origin plain some within origin] at failed
    cases walked : fs.walk linkLimit here p.steps with
    | ok place =>
      rw [walked] at failed
      cases failed
    | error e =>
      rw [walked] at failed
      cases failed
      refine ⟨_, ?_, other⟩
      rw [stat_of_origin nul (text_join_ne p isName) short
        ((origin_join isName some).trans origin), steps, walk_into_error into walked]
      rfl

end Joined

/-- Why a name cannot be looked up in the directory at a path, whether or not it is there. -/
def refusal? (fs : FileSystem) (p : Path) (name : String) : Option Fault :=
  match fs.find p with
  | .ok here => fs.fault? here name
  | .error _ => none

/-- A file system that has nothing to refuse refuses nothing. -/
theorem refusal?_eq_none (unbarred : ∀ here, fs.barred here = none)
    (unbroken : ∀ here name, fs.broken here name = none) : fs.refusal? p name = none := by
  unfold refusal? fault?
  simp only [unbarred, unbroken, ite_self, Option.or_none]
  split <;> rfl

section Inside

variable {entries : List (String × Node)} (found : fs.stat p = .ok (.directory entries))
  (isName : IsName name)

include found isName

theorem plain_join (plain : '\x00' ∉ name.toList) : '\x00' ∉ (p.join name).text.toList := by
  have before := (isReadable_of_stat found).plain
  rw [text_join p (isAbsolute_of_isName isName), join_empty]
  split <;> simp [before, plain]

theorem stat_join_of_directory (plain : '\x00' ∉ name.toList)
    (short : (p.join name).text.utf8ByteSize ≤ pathLimit) :
    ∃ links here, fs.fault? here name = fs.refusal? p name ∧ fs.nodeAt here = .directory entries ∧
      fs.stat (p.join name) = (fs.walk links here [name]).map fun place => fs.nodeAt place.trail := by
  have readable := isReadable_of_stat found
  have some : p.text ≠ "" := by
    intro empty
    unfold stat find at found
    rw [if_neg readable.plain, if_pos empty] at found
    cases found
  have plain' := plain_join found isName plain
  cases origin : fs.origin? p with
  | none =>
    rw [stat_of_no_origin readable.plain readable.short origin] at found
    cases found
  | some start =>
    obtain ⟨front, steps, into⟩ := steps_join some isName
    rw [stat_of_origin readable.plain some readable.short origin] at found
    cases walked : fs.walk linkLimit start p.steps with
    | error e =>
      rw [walked] at found
      cases found
    | ok place =>
      rw [walked] at found
      have directory : fs.nodeAt place.trail = .directory entries := Except.ok.inj found
      have arrived : fs.find p = .ok place.trail := by
        rw [find_of_origin readable.plain some readable.short origin, walked]
        rfl
      refine ⟨place.linksLeft, place.trail, by rw [refusal?, arrived], directory, ?_⟩
      rw [stat_of_origin plain' (text_join_ne p isName) short
        ((origin_join isName some).trans origin), steps, walk_into_directory into walked directory]

variable (plain : '\x00' ∉ name.toList) (short : (p.join name).text.utf8ByteSize ≤ pathLimit)

include plain short

theorem stat_join_of_fault {fault : Fault} (refused : fs.refusal? p name = some fault) :
    fs.stat (p.join name) = .error (.failed fault) := by
  obtain ⟨links, here, same, directory, whole⟩ := stat_join_of_directory found isName plain short
  rw [whole, walk_of_step_error (step_of_fault isName.some directory (same.trans refused))]
  rfl

variable (notUp : name ≠ "..") (free : fs.refusal? p name = none)

include notUp free

theorem stat_join_of_long_name (some : entries ≠ []) (long : nameLimit < name.utf8ByteSize) :
    fs.stat (p.join name) = .error .nameTooLong := by
  obtain ⟨links, here, same, directory, whole⟩ := stat_join_of_directory found isName plain short
  rw [whole, walk_of_step_error
    (step_of_long_name directory isName notUp (same.trans free) some long)]
  rfl

theorem stat_join_of_missing (fits : name.utf8ByteSize ≤ nameLimit)
    (missing : Table.lookupIn name entries = none) : fs.stat (p.join name) = .error .notFound := by
  obtain ⟨links, here, same, directory, whole⟩ := stat_join_of_directory found isName plain short
  rw [whole, walk_of_step_error
    (step_of_missing directory isName notUp (same.trans free) fits missing)]
  rfl

theorem stat_join_of_entry {node : Node} (fits : name.utf8ByteSize ≤ nameLimit)
    (entry : Table.lookupIn name entries = some node) (noLink : ∀ target, node ≠ .link target) :
    fs.stat (p.join name) = .ok node := by
  obtain ⟨links, here, same, directory, whole⟩ := stat_join_of_directory found isName plain short
  rw [whole, walk_of_arrived
    (step_of_entry directory isName notUp (same.trans free) fits entry noLink), walk_nil]
  rfl

end Inside

end FileSystem

end ModuleImport
