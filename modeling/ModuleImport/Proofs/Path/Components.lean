import ModuleImport.Proofs.Path.Names

namespace ModuleImport.Path

variable {p base : Path} {name text : String}

/-- Where a path says that it starts. -/
def lead (p : Path) : List Component :=
  if p.isAbsolute then [.root] else if p.startsWithDot then [.current] else []

theorem components_eq (p : Path) : p.components = p.lead ++ p.names.map Component.ofName := rfl

theorem ofName_of_ne (notUp : name ≠ "..") : Component.ofName name = .normal name :=
  if_neg notUp

theorem ofName_eq_normal_iff : Component.ofName name = .normal text ↔ name = text ∧ text ≠ ".." := by
  unfold Component.ofName
  split
  · rename_i up
    subst up
    constructor
    · nofun
    · rintro ⟨rfl, other⟩
      exact absurd rfl other
  · rename_i notUp
    rw [Component.normal.injEq]
    constructor
    · rintro rfl
      exact ⟨rfl, notUp⟩
    · exact And.left

theorem normal_notMem_lead (p : Path) (name : String) : .normal name ∉ p.lead := by
  unfold lead
  split
  · simp
  · split <;> simp

theorem startsWithDot_of_isName (isName : IsName name) : (Path.mk name).startsWithDot = false := by
  simp [startsWithDot, steps_of_noSlash isName.noSlash, isName.noDot]

theorem lead_of_isName (isName : IsName name) : (Path.mk name).lead = [] := by
  simp [lead, isAbsolute_of_isName isName, startsWithDot_of_isName isName]

theorem isSingleComponent_iff :
    isSingleComponent text = true ↔ IsName text ∧ text ≠ ".." := by
  rw [isSingleComponent, decide_eq_true_eq, components_eq]
  constructor
  · intro single
    -- the one component is normal, so the text does not start with a slash or a dot step
    have leadless : (Path.mk text).lead = [] := by
      cases isLead : (Path.mk text).lead with
      | nil => rfl
      | cons first rest =>
        rw [isLead, List.cons_append] at single
        have member : Component.normal text ∈ (Path.mk text).lead := by
          rw [isLead, (List.cons.inj single).1]
          exact List.mem_cons_self
        exact absurd member (normal_notMem_lead _ _)
    rw [leadless, List.nil_append] at single
    obtain ⟨name, names, isNormal⟩ := List.map_eq_singleton_iff.mp single
    obtain ⟨rfl, notUp⟩ := ofName_eq_normal_iff.mp isNormal
    exact ⟨isName_of_mem (p := ⟨name⟩) (names ▸ List.mem_cons_self), notUp⟩
  · rintro ⟨isName, notUp⟩
    rw [lead_of_isName isName, names_of_isName isName, List.map_singleton, ofName_of_ne notUp]
    rfl

theorem startsWithDot_slash (front back : String) :
    (Path.mk (front ++ "/" ++ back)).startsWithDot = (Path.mk front).startsWithDot := by
  have some : (Path.mk front).steps ≠ [] := by simp [Path.steps, Text.pieces_ne_nil]
  rw [startsWithDot, startsWithDot, steps_slash, List.head?_append, List.head?_eq_some_head some]
  rfl

theorem lead_slash (front back : String) :
    (Path.mk (front ++ "/" ++ back)).lead = (Path.mk (front ++ "/")).lead := by
  have closed := startsWithDot_slash front ""
  rw [String.append_empty] at closed
  have absolute : (Path.mk (front ++ "/" ++ back)).isAbsolute = (Path.mk (front ++ "/")).isAbsolute :=
    isAbsolute_append (fun empty => absurd (String.append_eq_empty_iff.mp empty).2 (by decide)) back
  rw [lead, lead, absolute, startsWithDot_slash, closed]

theorem lead_slash_right {front : String} (some : front ≠ "") :
    (Path.mk (front ++ "/")).lead = (Path.mk front).lead := by
  have closed := startsWithDot_slash front ""
  rw [String.append_empty] at closed
  rw [lead, lead, isAbsolute_append some, closed]

/-- One name more behind a path is one normal component more. -/
theorem components_join (base : Path) (isName : IsName name) (notUp : name ≠ "..") :
    (base.join name).components = base.components ++ [.normal name] := by
  have relative : ¬(Path.mk name).isAbsolute = true := by
    rw [isAbsolute_of_isName isName]
    decide
  have behind (front : String) : (Path.mk (front ++ "/" ++ name)).components =
      (Path.mk (front ++ "/")).components ++ [.normal name] := by
    rw [components_eq, components_eq, lead_slash, names_slash, names_slash_right,
      names_of_isName isName, List.map_append, List.map_singleton, ofName_of_ne notUp,
      List.append_assoc]
  unfold join
  rw [if_neg relative]
  by_cases empty : base.text = ""
  · obtain rfl : base = ⟨""⟩ := congrArg Path.mk empty
    rw [if_pos (.inl rfl), String.empty_append, components_eq, lead_of_isName isName,
      names_of_isName isName, List.map_singleton, ofName_of_ne notUp]
    rfl
  · by_cases slash : base.endsInSlash = true
    · rw [if_pos (.inr slash)]
      obtain ⟨front, rfl⟩ := eq_of_endsInSlash slash
      exact behind front
    · rw [if_neg (not_or.mpr ⟨empty, slash⟩), behind, components_eq (Path.mk (base.text ++ "/")),
        lead_slash_right empty, names_slash_right]
      rfl

end ModuleImport.Path
