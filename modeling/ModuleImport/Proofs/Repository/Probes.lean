import ModuleImport.Proofs.Repository.Directories

namespace ModuleImport

open ModuleImport.Path Name

/-- The paths that a resolution names. -/
def Resolution.paths : Resolution → List Path
  | nothing => []
  | module artifact => [artifact]
  | package artifact searchPath => [artifact, searchPath]
  | portion searchPath => [searchPath]

namespace Repository

/-- Looking at paths while they are noted, the first one first. -/
abbrev Noting := ExceptT ProbeError (StateM (List Path))

/-- Looks at a path and notes it. -/
def probeNoting (fs : FileSystem) (p : Path) : Noting Entry :=
  .mk fun noted => (probe fs p, noted ++ [p])

/-- What a name stands for, and the paths that were looked at to find out. -/
def resolveNoting (fs : FileSystem) (root : Path) (name : String) :
    Except ProbeError Resolution × List Path :=
  (resolveWith (probeNoting fs) root name).run.run []

/-- The places where a segment can be found below a root, in the order in which they are looked at:
the artifact of a module, the directory of a package or a portion, and the initializer in it. -/
def places (root : Path) (segment : String) : List Path :=
  [root.join (artifactFileName segment), root.join segment,
    (root.join segment).join packageInitializer]

variable {fs : FileSystem} {root p : Path} {name segment : String} {noted more rest : List Path}

/-- A result in which all paths have been noted. -/
structure Accounted (noted : List Path) (result : Except ProbeError Resolution) : Prop where
  ok : ∀ resolution, result = .ok resolution → ∀ p ∈ resolution.paths, p ∈ noted
  error : ∀ e, result = .error e → e.path ∈ noted

/-- A noting run that ends like a plain one. On the way it has noted some paths, which are the first
of those that it may look at, and its result names no path that has not been noted. -/
structure Watches (rest noted more : List Path) (noting : Noting Resolution)
    (plain : Except ProbeError Resolution) : Prop where
  same : noting.run.run noted = (plain, noted ++ more)
  first : more <+: rest
  accounted : Accounted (noted ++ more) plain

section Rules

theorem watches_pure {resolution : Resolution} (named : ∀ p ∈ resolution.paths, p ∈ noted) :
    ∃ more, Watches rest noted more (pure resolution) (pure resolution) := by
  refine ⟨[], ?_, List.nil_prefix, ?_⟩
  · rw [List.append_nil]
    rfl
  · rw [List.append_nil]
    refine ⟨?_, nofun⟩
    rintro _ ⟨⟩
    exact named

variable {next : Entry → Noting Resolution} {plainNext : Entry → Except ProbeError Resolution}
  (goesOn : ∀ entry, ∃ more, Watches rest (noted ++ [p]) more (next entry) (plainNext entry))

include goesOn

theorem watches_probe : ∃ more, Watches (p :: rest) noted (p :: more) (probeNoting fs p >>= next)
    (probe fs p >>= plainNext) := by
  have noting : (probeNoting fs p >>= next).run.run noted =
      (ExceptT.bindCont next (probe fs p)).run (noted ++ [p]) := rfl
  cases probed : probe fs p with
  | error e =>
    -- an error names the path that was being looked at
    obtain ⟨cause, rfl, -⟩ := stat_of_probe_error probed
    refine ⟨[], ?_, ?_, ?_⟩
    · rw [noting, probed]
      rfl
    · exact (List.prefix_cons_inj p).mpr List.nil_prefix
    · refine ⟨nofun, ?_⟩
      rintro _ ⟨⟩
      exact List.mem_append_right _ List.mem_cons_self
  | ok entry =>
    obtain ⟨more, watches⟩ := goesOn entry
    refine ⟨more, ?_, ?_, ?_⟩
    · rw [noting, probed, List.append_cons noted p more]
      exact watches.same
    · exact (List.prefix_cons_inj p).mpr watches.first
    · rw [List.append_cons noted p more]
      exact watches.accounted

theorem watches_bind : ∃ more, Watches (p :: rest) noted more (probeNoting fs p >>= next)
    (probe fs p >>= plainNext) := by
  obtain ⟨more, watches⟩ := watches_probe goesOn
  exact ⟨p :: more, watches⟩

end Rules

theorem classify_watched (fs : FileSystem) (root : Path) (segment : String) :
    ∃ more, Watches (places root segment) [] (root.join (artifactFileName segment) :: more)
      (classifyWith (probeNoting fs) root segment) (classify fs root segment) := by
  unfold classify classifyWith
  dsimp only
  refine watches_probe fun artifact => ?_
  cases artifact with
  | file => exact watches_pure (by simp [Resolution.paths])
  | _ =>
    refine watches_bind fun base => ?_
    cases base with
    | directory =>
      refine watches_bind fun initializer => ?_
      cases initializer with
      | file => exact watches_pure (by simp [Resolution.paths])
      | _ => exact watches_pure (by simp [Resolution.paths])
    | _ => exact watches_pure (by simp [Resolution.paths])

theorem segment?_eq (name : String) : segment? name =
    if ending name = "" ∨ '/' ∈ (ending name).toList then none else some (ending name) := by
  split
  · rename_i unusable
    apply Option.eq_none_iff_forall_ne_some.mpr
    intro segment isSegment
    obtain ⟨isLast, noSlash⟩ := segment?_eq_some_iff.mp isSegment
    obtain ⟨some, rfl⟩ := lastSegment?_eq_some_iff.mp isLast
    exact unusable.elim some noSlash
  · rename_i usable
    obtain ⟨some, noSlash⟩ := not_or.mp usable
    exact segment?_eq_some_iff.mpr ⟨lastSegment?_eq_some_iff.mpr ⟨some, rfl⟩, noSlash⟩

theorem components_places (root : Path) (isSegment : segment? name = some segment) :
    (places root segment).map components =
      [root.components ++ [.normal (artifactFileName segment)],
        root.components ++ [.normal segment],
        root.components ++ [.normal segment, .normal packageInitializer]] := by
  have isName := isName_of_segment? isSegment
  have notUp : segment ≠ ".." := (isSingleComponent_iff.mp (Option.filter_eq_some_iff.mp isSegment).2).2
  simp only [places, List.map_cons, List.map_nil,
    components_join root (isName_artifactFileName isName) (artifactFileName_ne_up segment),
    components_join root isName notUp,
    components_join (root.join segment) isName_packageInitializer (by decide), List.append_assoc]
  rfl

/-- Looking a name up either looks at nothing, which is so exactly if the name has no text behind its
last dot or a slash in it, and then nothing is found; or it looks at some of the first of three places,
which are below the root by normal components, and names no other path in its result. -/
theorem resolve_looks_below (fs : FileSystem) (root : Path) (name : String) :
    ∃ looked, resolveNoting fs root name = (resolve fs root name, looked) ∧
      if ending name = "" ∨ '/' ∈ (ending name).toList then
        looked = [] ∧ resolve fs root name = .ok .nothing
      else
        looked ≠ [] ∧ looked <+: places root (ending name) ∧
        (places root (ending name)).map components =
          [root.components ++ [.normal (artifactFileName (ending name))],
            root.components ++ [.normal (ending name)],
            root.components ++ [.normal (ending name), .normal packageInitializer]] ∧
        (∀ resolution, resolve fs root name = .ok resolution →
          ∀ p ∈ resolution.paths, p ∈ looked) ∧
        ∀ e, resolve fs root name = .error e → e.path ∈ looked := by
  have isSegment := segment?_eq name
  split
  · rename_i unusable
    rw [if_pos unusable] at isSegment
    unfold resolveNoting resolve resolveWith
    rw [isSegment]
    exact ⟨[], rfl, rfl, rfl⟩
  · rename_i usable
    rw [if_neg usable] at isSegment
    obtain ⟨more, watches⟩ := classify_watched fs root (ending name)
    rw [resolve_of_some isSegment]
    refine ⟨_, ?_, List.cons_ne_nil _ more, watches.first, components_places root isSegment,
      watches.accounted.ok, watches.accounted.error⟩
    unfold resolveNoting resolveWith
    rw [isSegment]
    exact watches.same

end Repository

end ModuleImport
