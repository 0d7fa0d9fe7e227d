import ModuleImport.Proofs.FileSystem.Spelling
import ModuleImport.Proofs.Name.Dotted
import ModuleImport.Proofs.Path.Components
import ModuleImport.Proofs.Path.Normal
import ModuleImport.Proofs.Path.Sizes
import ModuleImport.Repository.Importer

namespace ModuleImport

open ModuleImport.Path ModuleImport.FileSystem

namespace Repository

variable {fs : FileSystem} {p q root root' : Path} {name : String}

theorem isReadable_of_probe {entry : Entry} (probed : probe fs p = .ok entry) :
    fs.IsReadable p := by
  unfold probe at probed
  constructor
  all_goals
    intro failed
    rw [failed] at probed
    cases probed

theorem probe_of_notFound (missing : fs.stat p = .error .notFound) :
    probe fs p = .ok .missing := by
  rw [probe, missing]

theorem probe_of_isDirectory (isDirectory : fs.isDirectory p = true) :
    probe fs p = .ok .directory := by
  obtain ⟨entries, found⟩ := isDirectory_iff.mp isDirectory
  rw [probe, found]

theorem probe_respelled {entry entry' : Entry} (respelled : Respelled p q)
    (probed : probe fs p = .ok entry) (probed' : probe fs q = .ok entry') : entry = entry' := by
  have same := respelled.stat (isReadable_of_probe probed) (isReadable_of_probe probed')
  unfold probe at probed probed'
  rw [same] at probed
  cases found : fs.stat q with
  | ok node =>
    rw [found] at probed probed'
    cases node <;> cases probed <;> cases probed' <;> rfl
  | error cause =>
    rw [found] at probed probed'
    cases cause with
    | notFound =>
      cases probed
      cases probed'
      rfl
    | _ => cases probed

/-- What is looked at and seen where a segment is classified. -/
inductive Classified (fs : FileSystem) (root : Path) (segment : String) : Resolution → Prop
  | module : probe fs (root.join (Name.artifactFileName segment)) = .ok .file →
      Classified fs root segment (.module (root.join (Name.artifactFileName segment)))
  | package {entry} : probe fs (root.join (Name.artifactFileName segment)) = .ok entry →
      entry ≠ .file → probe fs (root.join segment) = .ok .directory →
      probe fs ((root.join segment).join Name.packageInitializer) = .ok .file →
      Classified fs root segment
        (.package ((root.join segment).join Name.packageInitializer) (root.join segment))
  | portion {entry init} : probe fs (root.join (Name.artifactFileName segment)) = .ok entry →
      entry ≠ .file → probe fs (root.join segment) = .ok .directory →
      probe fs ((root.join segment).join Name.packageInitializer) = .ok init → init ≠ .file →
      Classified fs root segment (.portion (root.join segment))
  | nothing {entry base} : probe fs (root.join (Name.artifactFileName segment)) = .ok entry →
      entry ≠ .file → probe fs (root.join segment) = .ok base → base ≠ .directory →
      Classified fs root segment .nothing

theorem except_bind_inv {ε α β : Type} {x : Except ε α} {f : α → Except ε β} {b : β}
    (h : x >>= f = .ok b) : ∃ a, x = .ok a ∧ f a = .ok b := by
  cases x with
  | error e => cases h
  | ok a => exact ⟨a, rfl, h⟩

theorem classified_of_classify {segment : String} {resolution : Resolution}
    (h : classify fs root segment = .ok resolution) : Classified fs root segment resolution := by
  unfold classify classifyWith at h
  dsimp only at h
  obtain ⟨entry, first, h⟩ := except_bind_inv h
  cases entry with
  | file =>
    cases h
    exact .module first
  | _ =>
    obtain ⟨base, second, h⟩ := except_bind_inv h
    cases base with
    | directory =>
      obtain ⟨init, third, h⟩ := except_bind_inv h
      cases init with
      | file =>
        cases h
        exact .package first (by decide) second third
      | _ =>
        cases h
        exact .portion first (by decide) second third (by decide)
    | _ =>
      cases h
      exact .nothing first (by decide) second (by decide)

theorem some_of_lastSegment? {segment : String} (h : Name.lastSegment? name = some segment) :
    segment ≠ "" ∧ '.' ∉ segment.toList := by
  obtain ⟨some, rfl⟩ := Name.lastSegment?_eq_some_iff.mp h
  exact ⟨some, Name.noDot_ending name⟩

/-- A text without dots is a single component of a path if it is no empty text and has no slash. -/
theorem isSingleComponent_of_noDot {segment : String} (some : segment ≠ "")
    (noDot : '.' ∉ segment.toList) :
    isSingleComponent segment = true ↔ '/' ∉ segment.toList := by
  have other {dots : String} (dot : '.' ∈ dots.toList) : segment ≠ dots := by
    rintro rfl
    exact noDot dot
  rw [isSingleComponent_iff]
  exact ⟨fun single => single.1.noSlash,
    fun noSlash => ⟨⟨noSlash, some, other (by decide)⟩, other (by decide)⟩⟩

theorem segment?_eq_some_iff {segment : String} : segment? name = some segment ↔
    Name.lastSegment? name = some segment ∧ '/' ∉ segment.toList := by
  rw [segment?, Option.filter_eq_some_iff]
  refine and_congr_right fun isLast => ?_
  obtain ⟨some, noDot⟩ := some_of_lastSegment? isLast
  exact isSingleComponent_of_noDot some noDot

theorem isName_of_segment? {segment : String} (h : segment? name = some segment) :
    IsName segment :=
  (isSingleComponent_iff.mp (Option.filter_eq_some_iff.mp h).2).1

theorem isName_of_isSegment {segment : String} (isSegment : Name.IsSegment segment) :
    IsName segment where
  noSlash := isSegment.noSlash
  some := isSegment.text
  noDot := by
    rintro rfl
    exact isSegment.noDot List.mem_cons_self

theorem segment?_dotted {segment : String} (outer : List String)
    (isSegment : Name.IsSegment segment) :
    segment? (Name.dotted (outer ++ [segment])) = some segment :=
  segment?_eq_some_iff.mpr ⟨Name.lastSegment?_dotted outer isSegment, isSegment.noSlash⟩

theorem isName_artifactFileName {segment : String} (isName : IsName segment) :
    IsName (Name.artifactFileName segment) := by
  have text : (Name.artifactFileName segment).toList = segment.toList ++ ".pyf".toList :=
    String.toList_append
  refine ⟨?_, ?_, ?_⟩
  · rw [text, List.mem_append, not_or]
    exact ⟨isName.noSlash, by decide⟩
  all_goals
    intro same
    have length := congrArg List.length (text.symm.trans (congrArg String.toList same))
    simp at length

theorem size_artifactFileName (segment : String) :
    (Name.artifactFileName segment).utf8ByteSize = segment.utf8ByteSize + 4 :=
  String.utf8ByteSize_append

theorem isName_packageInitializer : IsName Name.packageInitializer :=
  ⟨by decide, by decide, by decide⟩

/-- Resolutions that differ in the spelling of their paths only. -/
inductive Same : Resolution → Resolution → Prop
  | nothing : Same .nothing .nothing
  | module {artifact artifact'} : Respelled artifact artifact' →
      Same (.module artifact) (.module artifact')
  | package {artifact artifact' base base'} : Respelled artifact artifact' →
      Respelled base base' → Same (.package artifact base) (.package artifact' base')
  | portion {base base'} : Respelled base base' → Same (.portion base) (.portion base')

theorem Classified.same {segment : String} {resolution resolution' : Resolution}
    (classified : Classified fs root segment resolution)
    (classified' : Classified fs root' segment resolution') (aliased : Aliased root root')
    (isName : IsName segment) : Same resolution resolution' := by
  have artifact := respelled_join aliased (isName_artifactFileName isName)
  have base := respelled_join aliased isName
  have initializer := respelled_join base.toAliased isName_packageInitializer
  -- where the first file is there, both are modules
  have noFile {entry entry' : Entry}
      (first : probe fs (root.join (Name.artifactFileName segment)) = .ok entry)
      (first' : probe fs (root'.join (Name.artifactFileName segment)) = .ok entry')
      (ne : entry' ≠ .file) : entry ≠ .file := by
    rw [probe_respelled artifact first first']
    exact ne
  cases classified with
  | module first =>
    cases classified' with
    | module => exact .module artifact
    | package first' ne => exact absurd rfl (noFile first first' ne)
    | portion first' ne => exact absurd rfl (noFile first first' ne)
    | nothing first' ne => exact absurd rfl (noFile first first' ne)
  | package first ne second third =>
    cases classified' with
    | module first' => exact absurd (probe_respelled artifact first first') ne
    | package => exact .package initializer base
    | portion _ _ _ third' ne' => exact absurd (probe_respelled initializer third third').symm ne'
    | nothing _ _ second' ne' => exact absurd (probe_respelled base second second').symm ne'
  | portion first ne second third ne' =>
    cases classified' with
    | module first' => exact absurd (probe_respelled artifact first first') ne
    | package _ _ _ third' => exact absurd (probe_respelled initializer third third') ne'
    | portion => exact .portion base
    | nothing _ _ second' ne' => exact absurd (probe_respelled base second second').symm ne'
  | nothing first ne second ne' =>
    cases classified' with
    | module first' => exact absurd (probe_respelled artifact first first') ne
    | package _ _ second' => exact absurd (probe_respelled base second second') ne'
    | portion _ _ second' => exact absurd (probe_respelled base second second') ne'
    | nothing => exact .nothing

theorem resolve_of_some {segment : String} (isLast : segment? name = some segment) :
    resolve fs root name = classify fs root segment := by
  rw [resolve, resolveWith, isLast]
  rfl

theorem classified_of_resolve {segment : String} {resolution : Resolution}
    (isLast : segment? name = some segment) (resolved : resolve fs root name = .ok resolution) :
    Classified fs root segment resolution := by
  rw [resolve_of_some isLast] at resolved
  exact classified_of_classify resolved

theorem resolve_of_none {resolution : Resolution} (none : segment? name = none)
    (resolved : resolve fs root name = .ok resolution) : resolution = .nothing := by
  unfold resolve resolveWith at resolved
  rw [none] at resolved
  cases resolved
  rfl

theorem resolve_aliased {resolution resolution' : Resolution} (aliased : Aliased root root')
    (resolved : resolve fs root name = .ok resolution)
    (resolved' : resolve fs root' name = .ok resolution') : Same resolution resolution' := by
  cases isLast : segment? name with
  | none =>
    rw [resolve_of_none isLast resolved, resolve_of_none isLast resolved']
    exact .nothing
  | some segment =>
    exact (classified_of_resolve isLast resolved).same (classified_of_resolve isLast resolved')
      aliased (isName_of_segment? isLast)

theorem openRoot_inv (opened : openRoot fs p = .ok root) :
    p.absolute? fs.workingPath? = some root ∧ fs.isDirectory root = true := by
  unfold openRoot at opened
  split at opened
  · rename_i path formed
    split at opened
    · rename_i directory
      cases opened
      exact ⟨formed, directory⟩
    · cases opened
  · cases opened

theorem isBase_workingPath (fs : FileSystem) : ∀ base ∈ fs.workingPath?, base.IsBase := by
  intro base isWorking
  obtain ⟨location, stands, rfl⟩ := Option.map_eq_some_iff.mp isWorking
  refine ⟨location, ?_, rfl⟩
  unfold WorkingDirectory.location? at stands
  split at stands
  · obtain rfl := Option.some.inj stands
    exact fs.workingDirectory.named
  · cases stands

theorem isAbsolute_workingPath (fs : FileSystem) :
    ∀ base ∈ fs.workingPath?, base.isAbsolute = true := by
  intro base isWorking
  obtain ⟨names, -, rfl⟩ := isBase_workingPath fs base isWorking
  exact isAbsolute_joinNames (isAbsolute_slash "") names

theorem isNormal_of_formed (formed : p.absolute? fs.workingPath? = some root) : root.IsNormal :=
  isNormal_of_absolute? (fun _ => isBase_workingPath fs) formed

theorem aliased_of_openRoot (same : p.same q = true) (opened : openRoot fs p = .ok root)
    (opened' : openRoot fs q = .ok root') : Aliased root root' := by
  obtain ⟨other, text, formed', absolute, around, around'⟩ :=
    absolute?_of_same (isAbsolute_workingPath fs) same (openRoot_inv opened).1
  cases formed'.symm.trans (openRoot_inv opened').1
  exact aliased_of_around absolute around around'

/-- If an entry is no repository only because of its spelling, then its text is so long that nothing
can be looked up below any other spelling of it, either. -/
theorem resolve_of_closed {e : InvalidRepository} {resolution : Resolution}
    (same : p.same q = true) (opened : openRoot fs p = .ok root)
    (closed : openRoot fs q = .error e) (resolved : resolve fs root name = .ok resolution) :
    resolution = .nothing := by
  obtain ⟨formed, directory⟩ := openRoot_inv opened
  obtain ⟨other, text, formed', absolute, around, around'⟩ :=
    absolute?_of_same (isAbsolute_workingPath fs) same formed
  have long : pathLimit < other.text.utf8ByteSize := by
    apply Nat.lt_of_not_le
    intro short
    have directory' := isDirectory_of_aliased (aliased_of_around absolute around around')
      directory (isNormal_of_formed formed').noDot short
    unfold openRoot at closed
    rw [formed'] at closed
    dsimp only at closed
    rw [if_pos directory'] at closed
    cases closed
  cases isLast : segment? name with
  | none => exact resolve_of_none isLast resolved
  | some segment =>
    have isName := isName_of_segment? isLast
    obtain ⟨entry, first⟩ : ∃ entry,
        probe fs (root.join (Name.artifactFileName segment)) = .ok entry := by
      cases classified_of_resolve isLast resolved with
      | module first => exact ⟨_, first⟩
      | package first => exact ⟨_, first⟩
      | portion first => exact ⟨_, first⟩
      | nothing first => exact ⟨_, first⟩
    have short := (isReadable_of_probe first).short
    have below := size_join root (isAbsolute_of_isName (isName_artifactFileName isName))
    have within := size_le_extent root
    have extended := size_artifactFileName segment
    have sizes := around.size.1
    have sizes' := around'.size.2
    omega

end Repository

end ModuleImport
