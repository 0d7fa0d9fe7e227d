import Mathlib.Data.List.Basic
import ModuleImport.Proofs.Path.Sizes

namespace ModuleImport.Path

variable {p base root : Path} {name start front rest : String} {names : List String}
  {base? : Option Path}

/-- A text that an absolute form can start with. -/
def IsRoot (start : String) : Prop :=
  start = "/" ∨ start = "//"

/-- A path that is written as an absolute form. -/
inductive IsNormal : Path → Prop
  | plain {start : String} {names : List String} : IsRoot start → (∀ name ∈ names, IsName name) →
      IsNormal ⟨start ++ "/".intercalate names⟩
  /-- A slash stands behind the last name, if there is one. -/
  | closed {start : String} {names : List String} : IsRoot start → (∀ name ∈ names, IsName name) →
      names ≠ [] → IsNormal ⟨start ++ "/".intercalate names ++ "/"⟩

section Text

theorem endsInSlash_append {back : String} (some : back ≠ "") (front : String) :
    (Path.mk (front ++ back)).endsInSlash = (Path.mk back).endsInSlash := by
  simp [endsInSlash, List.getLast?_append, some]

theorem endsInSlash_of_isName (isName : IsName name) : (Path.mk name).endsInSlash = false := by
  apply Bool.eq_false_iff.mpr
  intro slash
  have last : name.toList.getLast? = some '/' := by simpa [endsInSlash] using slash
  exact isName.noSlash (List.mem_of_getLast? last)

theorem intercalate_ne_empty (some : names ≠ []) (all : ∀ name ∈ names, IsName name) :
    "/".intercalate names ≠ "" := by
  intro empty
  have read := names_intercalate all
  rw [empty, names_empty] at read
  exact some read.symm

theorem endsInSlash_intercalate (some : names ≠ []) (all : ∀ name ∈ names, IsName name)
    (front : String) : (Path.mk (front ++ "/".intercalate names)).endsInSlash = false := by
  rw [endsInSlash_append (intercalate_ne_empty some all)]
  obtain rfl | ⟨outer, last, rfl⟩ := List.eq_nil_or_concat' names
  · exact absurd rfl some
  · have isName := all last (List.mem_append_right _ List.mem_cons_self)
    by_cases outermost : outer = []
    · rw [outermost, List.nil_append, String.intercalate_singleton]
      exact endsInSlash_of_isName isName
    · rw [String.intercalate_append_of_ne_nil outermost (List.cons_ne_nil _ _),
        String.intercalate_singleton, endsInSlash_append isName.some]
      exact endsInSlash_of_isName isName

theorem rootText_append (isRoot : IsRoot start) (relative : (Path.mk rest).isAbsolute = false) :
    (Path.mk (start ++ rest)).rootText = start := by
  have noSlash : rest.toList.head? ≠ some '/' := by simpa [isAbsolute] using relative
  rcases isRoot with rfl | rfl
  all_goals
    unfold rootText
    simp only [String.toList_append]
    cases chars : rest.toList with
    | nil => rfl
    | cons c cs =>
      rw [chars, List.head?_cons, ne_eq, Option.some.injEq] at noSlash
      simp [noSlash]

theorem isAbsolute_root (isRoot : IsRoot start) (rest : String) :
    (Path.mk (start ++ rest)).isAbsolute = true := by
  rcases isRoot with rfl | rfl
  all_goals
    rw [isAbsolute_append (by decide)]
    rfl

end Text

theorem IsNormal.isAbsolute (isNormal : p.IsNormal) : p.isAbsolute = true := by
  cases isNormal with
  | plain isRoot => exact isAbsolute_root isRoot _
  | closed isRoot =>
    rw [String.append_assoc]
    exact isAbsolute_root isRoot _

section Dots

theorem noDot_slash {front back : String} (noDot : "." ∉ (Path.mk front).steps)
    (noDot' : "." ∉ (Path.mk back).steps) : "." ∉ (Path.mk (front ++ "/" ++ back)).steps := by
  rw [steps_slash, List.mem_append, not_or]
  exact ⟨noDot, noDot'⟩

theorem noDot_intercalate (all : ∀ name ∈ names, IsName name) :
    "." ∉ (Path.mk ("/".intercalate names)).steps := by
  induction names with
  | nil =>
    rw [String.intercalate_nil]
    decide
  | cons first rest ih =>
    have isName := all first List.mem_cons_self
    have single : "." ∉ (Path.mk first).steps := by
      rw [steps_of_noSlash isName.noSlash, List.mem_singleton]
      exact isName.noDot.symm
    cases rest with
    | nil =>
      rw [String.intercalate_singleton]
      exact single
    | cons second rest =>
      rw [String.intercalate_cons_cons]
      exact noDot_slash single (ih fun name member => all name (List.mem_cons_of_mem _ member))

theorem IsNormal.noDot (isNormal : p.IsNormal) : "." ∉ p.steps := by
  have plain {start : String} {names : List String} (isRoot : IsRoot start)
      (all : ∀ name ∈ names, IsName name) :
      "." ∉ (Path.mk (start ++ "/".intercalate names)).steps := by
    rcases isRoot with rfl | rfl
    · exact @noDot_slash "" _ (by decide) (noDot_intercalate all)
    · exact @noDot_slash "/" _ (by decide) (noDot_intercalate all)
  cases isNormal with
  | plain isRoot all => exact plain isRoot all
  | closed isRoot all =>
    have closed := @noDot_slash _ "" (plain isRoot all) (by decide)
    rw [String.append_empty] at closed
    exact closed

end Dots

section Roots

variable (isRoot : IsRoot start) (all : ∀ name ∈ names, IsName name)

include isRoot all

theorem joinNames_joinNames {inner : List String} (all' : ∀ name ∈ inner, IsName name) :
    ((Path.mk start).joinNames names).joinNames inner =
      (Path.mk start).joinNames (names ++ inner) := by
  by_cases nameless : names = []
  · rw [nameless, List.nil_append]
    rfl
  by_cases nothing : inner = []
  · rw [nothing, List.append_nil]
    rfl
  rw [joinNames_root isRoot all, joinNames_root isRoot (List.forall_mem_append.mpr ⟨all, all'⟩),
    joinNames, if_neg nothing, join, if_neg (by rw [isAbsolute_intercalate all']; decide), if_neg,
    String.intercalate_append_of_ne_nil nameless nothing]
  · simp only [String.append_assoc]
  · rw [not_or, endsInSlash_intercalate nameless all]
    exact ⟨fun empty => intercalate_ne_empty nameless all (String.append_eq_empty_iff.mp empty).2,
      by decide⟩

end Roots

/-- A path with a slash behind it, if one is wanted there. -/
def close (slash : Bool) (full : Path) : Path :=
  if slash ∧ ¬full.endsInSlash then ⟨full.text ++ "/"⟩ else full

theorem absolute?_eq {base : Path} (some : p.text ≠ "") (starts : p.start? base? = .some base) :
    p.absolute? base? = .some (close p.endsInSlash (base.joinNames p.names)) := by
  unfold start? at starts
  unfold absolute?
  rw [if_neg some, starts]
  rfl

theorem isNormal_close (isRoot : IsRoot start) (all : ∀ name ∈ names, IsName name) (slash : Bool) :
    (close slash ((Path.mk start).joinNames names)).IsNormal := by
  rw [joinNames_root isRoot all]
  unfold close
  split
  · rename_i closing
    refine .closed isRoot all ?_
    -- a root alone ends in a slash already
    rintro rfl
    rw [String.intercalate_nil, String.append_empty] at closing
    exact closing.2 (endsInSlash_root isRoot)
  · exact .plain isRoot all

/-- A base that a normal path can go on from: the root, or a path of names behind it. -/
def IsBase (base : Path) : Prop :=
  ∃ names, (∀ name ∈ names, IsName name) ∧ base = (Path.mk "/").joinNames names

theorem isNormal_of_absolute? (isBase : p.isAbsolute = false → ∀ base ∈ base?, base.IsBase)
    (formed : p.absolute? base? = some root) : root.IsNormal := by
  obtain ⟨some, base, starts⟩ := start?_of_absolute? formed
  have all : ∀ name ∈ p.names, IsName name := fun _ => isName_of_mem
  rw [absolute?_eq some starts] at formed
  obtain rfl := Option.some.inj formed
  unfold start? at starts
  split at starts
  · obtain rfl := Option.some.inj starts
    exact isNormal_close (rootText_cases p) all _
  · rename_i relative
    obtain ⟨names, all', rfl⟩ := isBase (Bool.eq_false_iff.mpr relative) base starts
    rw [joinNames_joinNames (.inl rfl) all' all]
    exact isNormal_close (.inl rfl) (List.forall_mem_append.mpr ⟨all', all⟩) _

namespace IsNormal

theorem absolute? (isNormal : p.IsNormal) (base? : Option Path) : p.absolute? base? = some p := by
  have absolute := isNormal.isAbsolute
  rw [absolute?_eq (text_ne_of_isAbsolute absolute) (if_pos absolute)]
  congr 1
  cases isNormal with
  | @plain start names isRoot all =>
    have same : (Path.mk (start ++ "/".intercalate names)).rootText = start :=
      rootText_append isRoot (isAbsolute_intercalate all)
    rw [same, names_root isRoot, names_intercalate all, joinNames_root isRoot all, close, if_neg]
    exact fun both => both.2 both.1
  | @closed start names isRoot all some =>
    have relative : (Path.mk ("/".intercalate names ++ "/")).isAbsolute = false := by
      rw [isAbsolute_append (intercalate_ne_empty some all), isAbsolute_intercalate all]
    have same : (Path.mk (start ++ "/".intercalate names ++ "/")).rootText = start := by
      rw [String.append_assoc]
      exact rootText_append isRoot relative
    rw [same, names_slash_right, names_root isRoot, names_intercalate all, joinNames_root isRoot all,
      close, if_pos]
    refine ⟨by rw [endsInSlash_append (by decide)]; decide, ?_⟩
    rw [endsInSlash_intercalate some all]
    decide

theorem join (isNormal : p.IsNormal) (isName : IsName name) : (p.join name).IsNormal := by
  have relative : ¬(Path.mk name).isAbsolute = true := by
    rw [isAbsolute_of_isName isName]
    decide
  have single : ∀ other ∈ [name], IsName other := List.forall_mem_singleton.mpr isName
  cases isNormal with
  | @plain start names isRoot all =>
    have longer : ∀ other ∈ names ++ [name], IsName other :=
      List.forall_mem_append.mpr ⟨all, single⟩
    have behind : (Path.mk (start ++ "/".intercalate names)).join name =
        ⟨start ++ "/".intercalate (names ++ [name])⟩ := by
      rw [← joinNames_root isRoot all, ← joinNames_root isRoot longer,
        ← joinNames_joinNames isRoot all single]
      simp [joinNames]
    rw [behind]
    exact .plain isRoot longer
  | @closed start names isRoot all some =>
    have longer : ∀ other ∈ names ++ [name], IsName other :=
      List.forall_mem_append.mpr ⟨all, single⟩
    have slash : (Path.mk (start ++ "/".intercalate names ++ "/")).endsInSlash = true := by
      rw [endsInSlash_append (by decide)]
      decide
    have behind : (Path.mk (start ++ "/".intercalate names ++ "/")).join name =
        ⟨start ++ "/".intercalate (names ++ [name])⟩ := by
      rw [Path.join, if_neg relative, if_pos (.inr slash),
        String.intercalate_append_of_ne_nil some (List.cons_ne_nil _ _),
        String.intercalate_singleton]
      simp only [String.append_assoc]
    rw [behind]
    exact .plain isRoot longer

end IsNormal

end ModuleImport.Path
