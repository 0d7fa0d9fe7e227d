import ModuleImport.Proofs.FileSystem.Below
import ModuleImport.Proofs.Repository.Spelling

namespace ModuleImport

open ModuleImport.Path ModuleImport.FileSystem Name

def Node.isFile : Node → Bool
  | .file _ => true
  | _ => false

def Node.isDirectory : Node → Bool
  | .directory _ => true
  | _ => false

namespace Repository

variable {fs : FileSystem} {root p : Path} {name segment : String}

section Classifying

def Entry.ofNode : Node → Entry
  | .file _ => .file
  | .directory _ => .directory
  | _ => .other

theorem ofNode_eq_file_iff {node : Node} : Entry.ofNode node = .file ↔ node.isFile = true := by
  cases node <;> simp [Entry.ofNode, Node.isFile]

theorem ofNode_eq_directory_iff {node : Node} :
    Entry.ofNode node = .directory ↔ node.isDirectory = true := by
  cases node <;> simp [Entry.ofNode, Node.isDirectory]

theorem probe_of_stat {node : Node} (found : fs.stat p = .ok node) :
    probe fs p = .ok (Entry.ofNode node) := by
  rw [probe, found]
  cases node <;> rfl

theorem probe_of_failure {cause : IoError} (failed : fs.stat p = .error cause)
    (other : cause ≠ .notFound) : probe fs p = .error ⟨p, cause⟩ := by
  rw [probe, failed]
  cases cause with
  | notFound => exact absurd rfl other
  | _ => rfl

theorem stat_of_probe_error {e : ProbeError} (probed : probe fs p = .error e) :
    ∃ cause, e = ⟨p, cause⟩ ∧ fs.stat p = .error cause ∧ cause ≠ .notFound := by
  cases found : fs.stat p with
  | ok node =>
    rw [probe_of_stat found] at probed
    cases probed
  | error cause =>
    by_cases missing : cause = .notFound
    · subst missing
      rw [probe, found] at probed
      cases probed
    · rw [probe_of_failure found missing] at probed
      exact ⟨cause, (Except.error.inj probed).symm, rfl, missing⟩

theorem probe_inv {entry : Entry} (probed : probe fs p = .ok entry) :
    (∃ node, fs.stat p = .ok node ∧ entry = Entry.ofNode node) ∨
      fs.stat p = .error .notFound ∧ entry = .missing := by
  cases found : fs.stat p with
  | ok node =>
    rw [probe_of_stat found] at probed
    exact .inl ⟨node, rfl, (Except.ok.inj probed).symm⟩
  | error cause =>
    by_cases missing : cause = .notFound
    · subst missing
      rw [probe_of_notFound found] at probed
      exact .inr ⟨rfl, (Except.ok.inj probed).symm⟩
    · rw [probe_of_failure found missing] at probed
      cases probed

/-- What a directory stands for, by what its initializer is. -/
def ofInitializer (base : Path) : Entry → Resolution
  | .file => .package (base.join packageInitializer) base
  | _ => .portion base

theorem classify_of_file (first : probe fs (root.join (artifactFileName segment)) = .ok .file) :
    classify fs root segment = .ok (.module (root.join (artifactFileName segment))) := by
  unfold classify classifyWith
  dsimp only
  rw [first]
  rfl

theorem classify_of_error {e : ProbeError}
    (first : probe fs (root.join (artifactFileName segment)) = .error e) :
    classify fs root segment = .error e := by
  unfold classify classifyWith
  dsimp only
  rw [first]
  rfl

theorem classify_of_ne_file {entry : Entry}
    (first : probe fs (root.join (artifactFileName segment)) = .ok entry) (ne : entry ≠ .file) :
    classify fs root segment = (probe fs (root.join segment)).bind fun base =>
      if base = .directory then
        (probe fs ((root.join segment).join packageInitializer)).map
          (ofInitializer (root.join segment))
      else .ok .nothing := by
  unfold classify classifyWith
  dsimp only
  rw [first]
  cases entry with
  | file => exact absurd rfl ne
  | _ =>
    refine congrArg (Except.bind (probe fs (root.join segment))) (funext fun base => ?_)
    cases base with
    | directory =>
      rw [if_pos rfl]
      cases probe fs ((root.join segment).join packageInitializer) with
      | error e => rfl
      | ok init => cases init <;> rfl
    | _ => rfl

/-- Which of the places that are looked at cannot be inspected. -/
inductive Obstructed (fs : FileSystem) (root : Path) (segment : String) : IoError → Path → Prop
  | artifact {cause} : fs.stat (root.join (artifactFileName segment)) = .error cause →
      cause ≠ .notFound → Obstructed fs root segment cause (root.join (artifactFileName segment))
  | base {entry cause} : probe fs (root.join (artifactFileName segment)) = .ok entry →
      entry ≠ .file → fs.stat (root.join segment) = .error cause → cause ≠ .notFound →
      Obstructed fs root segment cause (root.join segment)
  | initializer {entry entries cause} :
      probe fs (root.join (artifactFileName segment)) = .ok entry → entry ≠ .file →
      fs.stat (root.join segment) = .ok (.directory entries) →
      fs.stat ((root.join segment).join packageInitializer) = .error cause → cause ≠ .notFound →
      Obstructed fs root segment cause ((root.join segment).join packageInitializer)

theorem stat_of_probe_directory (probed : probe fs p = .ok .directory) :
    ∃ entries, fs.stat p = .ok (.directory entries) := by
  obtain ⟨node, found, same⟩ | ⟨-, same⟩ := probe_inv probed
  · cases node with
    | directory entries => exact ⟨entries, found⟩
    | _ => cases same
  · cases same

theorem obstructed_of_classify {e : ProbeError} (failed : classify fs root segment = .error e) :
    Obstructed fs root segment e.cause e.path := by
  cases first : probe fs (root.join (artifactFileName segment)) with
  | error e' =>
    obtain rfl : e' = e := Except.error.inj ((classify_of_error first).symm.trans failed)
    obtain ⟨cause, rfl, failed, other⟩ := stat_of_probe_error first
    exact .artifact failed other
  | ok entry =>
    by_cases isFile : entry = .file
    · rw [classify_of_file (isFile ▸ first)] at failed
      cases failed
    rw [classify_of_ne_file first isFile] at failed
    cases second : probe fs (root.join segment) with
    | error e' =>
      obtain ⟨cause, rfl, failed', other⟩ := stat_of_probe_error second
      rw [second] at failed
      cases failed
      exact .base first isFile failed' other
    | ok base =>
      rw [second] at failed
      by_cases isDirectory : base = .directory
      · subst isDirectory
        obtain ⟨entries, directory⟩ := stat_of_probe_directory second
        cases third : probe fs ((root.join segment).join packageInitializer) with
        | error e' =>
          obtain ⟨cause, rfl, failed', other⟩ := stat_of_probe_error third
          rw [third] at failed
          cases failed
          exact .initializer first isFile directory failed' other
        | ok init =>
          rw [third] at failed
          cases failed
      · have nothing := (if_neg isDirectory).symm.trans failed
        cases nothing

end Classifying

/-- Whether a path leads to what is wanted. A failure that counts as `absent` says that it does not;
any other failure leaves it open. -/
def check (fs : FileSystem) (wanted : Node → Bool) (absent : IoError → Bool) (p : Path) :
    Except ProbeError Bool :=
  match fs.stat p with
  | .ok node => .ok (wanted node)
  | .error cause => if absent cause then .ok false else .error ⟨p, cause⟩

/-- Whether a path leads to something that is no directory. -/
def blocks (fs : FileSystem) (p : Path) : Bool :=
  match fs.stat p with
  | .ok node => !node.isDirectory
  | .error _ => false

theorem blocks_of_stat {node : Node} (found : fs.stat p = .ok node) :
    blocks fs p = !node.isDirectory := by
  rw [blocks, found]

theorem blocks_of_failure {cause : IoError} (failed : fs.stat p = .error cause) :
    blocks fs p = false := by
  rw [blocks, failed]

/-- The failures that say that a directory has no initializer: nothing is there, or the way to it is
blocked by something that is no directory. -/
def lacksInitializer (fs : FileSystem) (base : Path) (cause : IoError) : Bool :=
  cause = .notFound ∨ cause = .notADirectory ∧ blocks fs base

/-- The first of the three shapes that a segment has. -/
def firstShape (fs : FileSystem) (root : Path) (segment : String) : Except ProbeError Resolution := do
  let artifact := root.join (artifactFileName segment)
  let base := root.join segment
  let initializer := base.join packageInitializer
  if ← check fs Node.isFile (· = .notFound) artifact then return .module artifact
  if ← check fs Node.isFile (lacksInitializer fs base) initializer then
    return .package initializer base
  if ← check fs Node.isDirectory (· = .notFound) base then return .portion base
  return .nothing

theorem notFound_of_lacksInitializer {base : Path} {cause : IoError}
    (clear : blocks fs base = false) (lacks : lacksInitializer fs base cause = true) :
    cause = .notFound := by
  simpa [lacksInitializer, clear] using lacks

section Checking

variable {wanted : Node → Bool} {absent : IoError → Bool}

theorem check_of_failure {cause : IoError} (failed : fs.stat p = .error cause)
    (undecided : absent cause = false) : check fs wanted absent p = .error ⟨p, cause⟩ := by
  rw [check, failed]
  exact if_neg (by rw [undecided]; decide)

theorem check_of_probe {entry : Entry} (probed : probe fs p = .ok entry) (ne : entry ≠ .file) :
    check fs Node.isFile (· = .notFound) p = .ok false := by
  obtain ⟨node, found, rfl⟩ | ⟨missing, -⟩ := probe_inv probed
  · have noFile : node.isFile = false :=
      Bool.eq_false_iff.mpr fun isFile => ne (ofNode_eq_file_iff.mpr isFile)
    rw [check, found, ← noFile]
  · rw [check, missing]
    rfl

theorem check_inv {answer : Bool} (checked : check fs wanted absent p = .ok answer) :
    (∃ node, fs.stat p = .ok node ∧ wanted node = answer) ∨
      ∃ cause, fs.stat p = .error cause ∧ absent cause = true ∧ answer = false := by
  unfold check at checked
  cases found : fs.stat p with
  | ok node =>
    rw [found] at checked
    exact .inl ⟨node, rfl, Except.ok.inj checked⟩
  | error cause =>
    rw [found] at checked
    dsimp only at checked
    split at checked
    · rename_i counts
      exact .inr ⟨cause, rfl, counts, (Except.ok.inj checked).symm⟩
    · cases checked

theorem stat_of_check (checked : check fs wanted absent p = .ok true) :
    ∃ node, fs.stat p = .ok node ∧ wanted node = true := by
  rcases check_inv checked with found | ⟨_, _, _, no⟩
  · exact found
  · cases no

/-- A check that does not find what is wanted has seen something else or nothing, if it takes no
other failure for an absence. -/
theorem probe_of_check {kind : Entry}
    (tells : ∀ node, Entry.ofNode node = kind ↔ wanted node = true) (there : kind ≠ .missing)
    (checked : check fs wanted absent p = .ok false)
    (only : ∀ cause, absent cause = true → cause = .notFound) :
    ∃ entry, probe fs p = .ok entry ∧ entry ≠ kind := by
  rcases check_inv checked with ⟨node, found, unwanted⟩ | ⟨cause, failed, counts, -⟩
  · refine ⟨_, probe_of_stat found, fun same => ?_⟩
    rw [(tells node).mp same] at unwanted
    cases unwanted
  · obtain rfl := only cause counts
    exact ⟨.missing, probe_of_notFound failed, there.symm⟩

end Checking

section Order

variable (isName : IsName segment)

include isName

theorem classify_of_firstShape {resolution : Resolution}
    (shaped : firstShape fs root segment = .ok resolution) :
    classify fs root segment = .ok resolution := by
  have some := text_join_ne root isName
  have missingOnly : ∀ cause, decide (cause = IoError.notFound) = true → cause = .notFound :=
    fun _ => of_decide_eq_true
  unfold firstShape at shaped
  dsimp only at shaped
  obtain ⟨isModule, first, shaped⟩ := except_bind_inv shaped
  cases isModule with
  | true =>
    cases shaped
    obtain ⟨node, found, isFile⟩ := stat_of_check first
    apply classify_of_file
    rw [probe_of_stat found, ofNode_eq_file_iff.mpr isFile]
  | false =>
    obtain ⟨entry, first, ne⟩ := probe_of_check @ofNode_eq_file_iff (by decide) first missingOnly
    rw [classify_of_ne_file first ne]
    obtain ⟨isPackage, second, shaped⟩ := except_bind_inv shaped
    cases isPackage with
    | true =>
      cases shaped
      obtain ⟨node, found, isFile⟩ := stat_of_check second
      -- the initializer is there, so it stands in a directory
      obtain ⟨entries, directory⟩ :=
        isDirectory_iff.mp (isDirectory_of_stat_join isName_packageInitializer some found)
      rw [probe_of_stat directory, probe_of_stat found, ofNode_eq_file_iff.mpr isFile]
      rfl
    | false =>
      obtain ⟨isPortion, third, shaped⟩ := except_bind_inv shaped
      cases isPortion with
      | true =>
        cases shaped
        obtain ⟨node, directory, isDirectory⟩ := stat_of_check third
        -- nothing blocks the way to the initializer
        have clear : blocks fs (root.join segment) = false := by
          rw [blocks_of_stat directory, isDirectory]
          rfl
        obtain ⟨init, second, ne'⟩ := probe_of_check @ofNode_eq_file_iff (by decide) second
          fun _ => notFound_of_lacksInitializer clear
        rw [probe_of_stat directory, ofNode_eq_directory_iff.mpr isDirectory, second]
        cases init with
        | file => exact absurd rfl ne'
        | _ => rfl
      | false =>
        cases shaped
        obtain ⟨base, third, ne'⟩ :=
          probe_of_check @ofNode_eq_directory_iff (by decide) third missingOnly
        rw [third]
        exact if_neg ne'

omit isName in
/-- The second check fails where the initializer cannot be inspected and nothing blocks the way. -/
theorem firstShape_of_initializer {entry : Entry} {cause : IoError}
    (first : probe fs (root.join (artifactFileName segment)) = .ok entry) (ne : entry ≠ .file)
    (failed : fs.stat ((root.join segment).join packageInitializer) = .error cause)
    (other : cause ≠ .notFound) (clear : blocks fs (root.join segment) = false) :
    ∃ e, firstShape fs root segment = .error e := by
  have undecided : lacksInitializer fs (root.join segment) cause = false :=
    Bool.eq_false_iff.mpr fun lacks => other (notFound_of_lacksInitializer clear lacks)
  refine ⟨⟨(root.join segment).join packageInitializer, cause⟩, ?_⟩
  unfold firstShape
  dsimp only
  rw [check_of_probe first ne, check_of_failure failed undecided]
  rfl

theorem firstShape_of_obstructed {cause : IoError} (obstructed : Obstructed fs root segment cause p) :
    ∃ e, firstShape fs root segment = .error e := by
  have some := text_join_ne root isName
  cases obstructed with
  | artifact failed other =>
    refine ⟨⟨root.join (artifactFileName segment), cause⟩, ?_⟩
    unfold firstShape
    dsimp only
    rw [check_of_failure failed (decide_eq_false other)]
    rfl
  | base first ne failed other =>
    obtain ⟨cause', failed', other'⟩ := stat_join_of_error isName_packageInitializer some failed other
    exact firstShape_of_initializer first ne failed' other' (blocks_of_failure failed)
  | initializer first ne directory failed other =>
    exact firstShape_of_initializer first ne failed other (blocks_of_stat directory)

end Order

theorem Obstructed.mem {cause : IoError} (obstructed : Obstructed fs root segment cause p) :
    p ∈ [root.join (artifactFileName segment), root.join segment,
      (root.join segment).join packageInitializer] := by
  cases obstructed <;> simp

/-- What a name stands for is the first shape that the checks find. If looking it up fails, it is at
one of the places that the checks look at, and a check fails as well. -/
theorem resolve_firstShape (isLast : segment? name = some segment) :
    (∀ resolution, firstShape fs root segment = .ok resolution →
      resolve fs root name = .ok resolution) ∧
    ∀ e, resolve fs root name = .error e →
      e.path ∈ [root.join (artifactFileName segment), root.join segment,
        (root.join segment).join packageInitializer] ∧
      ∃ e', firstShape fs root segment = .error e' := by
  have isName := isName_of_segment? isLast
  rw [resolve_of_some isLast]
  refine ⟨fun resolution shaped => classify_of_firstShape isName shaped, fun e failed => ?_⟩
  have obstructed := obstructed_of_classify failed
  exact ⟨obstructed.mem, firstShape_of_obstructed isName obstructed⟩

/-- A module beside a directory, a package, a file in the place of a directory, and a link that
leads to itself. -/
def shapesFiles : FileSystem where
  entries := [
    ("r", .directory [
      ("both", .directory []),
      ("both.pyf", .file []),
      ("knot", .link ⟨"knot"⟩),
      ("pkg", .directory [("__init__.pyf", .link ⟨"../both.pyf"⟩)]),
      ("plain", .file [])])]
  workingDirectory := .top

theorem resolve_firstShape_shapesFiles :
    resolve shapesFiles ⟨"/r"⟩ "x.both" = .ok (.module ⟨"/r/both.pyf"⟩) ∧
    resolve shapesFiles ⟨"/r"⟩ "pkg" = .ok (.package ⟨"/r/pkg/__init__.pyf"⟩ ⟨"/r/pkg"⟩) ∧
    resolve shapesFiles ⟨"/r"⟩ "plain" = .ok .nothing ∧
    resolve shapesFiles ⟨"/r"⟩ "knot" = .error ⟨⟨"/r/knot"⟩, .tooManyLinks⟩ ∧
    ∃ e, firstShape shapesFiles ⟨"/r"⟩ "knot" = .error e := by
  have looped : resolve shapesFiles ⟨"/r"⟩ "knot" = .error ⟨⟨"/r/knot"⟩, .tooManyLinks⟩ := rfl
  have shown {name segment : String} {resolution : Resolution}
      (isLast : segment? name = some segment)
      (shaped : firstShape shapesFiles ⟨"/r"⟩ segment = .ok resolution) :
      resolve shapesFiles ⟨"/r"⟩ name = .ok resolution :=
    (resolve_firstShape isLast).1 resolution shaped
  have both : segment? "x.both" = some "both" := rfl
  have pkg : segment? "pkg" = some "pkg" := rfl
  have plain : segment? "plain" = some "plain" := rfl
  have knot : segment? "knot" = some "knot" := rfl
  exact ⟨shown both rfl, shown pkg rfl, shown plain rfl, looped,
    ((resolve_firstShape knot).2 _ looped).2⟩

end Repository

end ModuleImport
