import ModuleImport.Proofs.Path.Names

namespace ModuleImport.Path

variable {p base root : Path} {name : String}

/-- The bytes that a path takes up in the paths below it. -/
def extent (p : Path) : Nat :=
  (p.join "").text.utf8ByteSize

/-- The bytes that steps in a row take up if each has a slash behind it. -/
def weight : List String → Nat
  | [] => 0
  | step :: rest => step.utf8ByteSize + 1 + weight rest

theorem join_empty (p : Path) :
    p.join "" = if p.text = "" ∨ p.endsInSlash then p else ⟨p.text ++ "/"⟩ := by
  unfold join
  rw [if_neg (by decide)]
  split
  · rw [String.append_empty]
  · rw [String.append_empty]

theorem text_join (base : Path) {below : String} (relative : (Path.mk below).isAbsolute = false) :
    (base.join below).text = (base.join "").text ++ below := by
  rw [join_empty]
  unfold join
  rw [if_neg (by rw [relative]; decide)]
  split <;> rfl

theorem size_join (base : Path) {below : String} (relative : (Path.mk below).isAbsolute = false) :
    (base.join below).text.utf8ByteSize = base.extent + below.utf8ByteSize := by
  rw [text_join base relative, String.utf8ByteSize_append, extent]

theorem size_le_extent (p : Path) : p.text.utf8ByteSize ≤ p.extent := by
  rw [extent, join_empty]
  split
  · exact Nat.le_refl _
  · rw [String.utf8ByteSize_append]
    exact Nat.le_add_right _ _

theorem extent_le_size (p : Path) : p.extent ≤ p.text.utf8ByteSize + 1 := by
  rw [extent, join_empty]
  split
  · exact Nat.le_succ _
  · rw [String.utf8ByteSize_append]
    exact Nat.le_refl _

theorem extent_of_open (some : p.text ≠ "") (noSlash : p.endsInSlash = false) :
    p.extent = p.text.utf8ByteSize + 1 := by
  rw [extent, join_empty, if_neg (not_or.mpr ⟨some, by rw [noSlash]; decide⟩),
    String.utf8ByteSize_append]
  rfl

theorem extent_of_closed (closed : p.text = "" ∨ p.endsInSlash) :
    p.extent = p.text.utf8ByteSize := by
  rw [extent, join_empty, if_pos closed]

theorem extent_join (base : Path) (isName : IsName name) :
    (base.join name).extent = base.extent + name.utf8ByteSize + 1 := by
  have relative := isAbsolute_of_isName isName
  have text := text_join base relative
  rw [extent_of_open, size_join base relative]
  · rw [text]
    intro empty
    exact isName.some (String.append_eq_empty_iff.mp empty).2
  · apply Bool.eq_false_iff.mpr
    intro slash
    have last : name.toList.getLast? = some '/' := by
      simpa [endsInSlash, text, isName.some] using slash
    exact isName.noSlash (List.mem_of_getLast? last)

theorem weight_pieces (cs : List Char) :
    weight ((Text.pieces '/' cs).map String.ofList) = (String.ofList cs).utf8ByteSize + 1 := by
  have slash : '/'.utf8Size = 1 := rfl
  induction cs with
  | nil => rfl
  | cons c cs ih =>
    rw [Text.pieces_cons, String.ofList_cons, String.utf8ByteSize_append,
      String.utf8ByteSize_singleton]
    split
    · rename_i isSlash
      rw [isSlash, slash, List.map_cons, weight, ih]
      simp
      omega
    · rw [← List.cons_head_tail (Text.pieces_ne_nil '/' cs), List.map_cons, weight] at ih
      rw [List.map_cons, weight, String.ofList_cons, String.utf8ByteSize_append,
        String.utf8ByteSize_singleton]
      omega

theorem weight_steps (p : Path) : weight p.steps = p.text.utf8ByteSize + 1 := by
  rw [steps, weight_pieces, String.ofList_toList]

theorem weight_namesIn_le (steps : List String) : weight (namesIn steps) ≤ weight steps := by
  induction steps with
  | nil => exact Nat.le_refl _
  | cons step rest ih =>
    by_cases idle : step = "" ∨ step = "."
    · rw [namesIn_cons_of_idle idle, weight]
      omega
    · obtain ⟨some, noDot⟩ := not_or.mp idle
      rw [namesIn_cons_of_ne some noDot, weight, weight]
      omega

theorem weight_names_le (p : Path) : weight p.names ≤ p.extent := by
  have kept (q : Path) : weight q.names ≤ q.text.utf8ByteSize + 1 := by
    rw [← weight_steps]
    exact weight_namesIn_le q.steps
  by_cases empty : p.text = ""
  · obtain rfl : p = ⟨""⟩ := congrArg Path.mk empty
    exact Nat.zero_le _
  · by_cases slash : p.endsInSlash = true
    · obtain ⟨front, rfl⟩ := eq_of_endsInSlash slash
      rw [names_slash_right, extent_of_closed (.inr slash), String.utf8ByteSize_append]
      exact kept ⟨front⟩
    · rw [extent_of_open empty (Bool.eq_false_iff.mpr slash)]
      exact kept p

theorem size_intercalate (first : String) (rest : List String) :
    ("/".intercalate (first :: rest)).utf8ByteSize + 1 = weight (first :: rest) := by
  induction rest generalizing first with
  | nil => rw [String.intercalate_singleton, weight]; rfl
  | cons second rest ih =>
    have slash : "/".utf8ByteSize = 1 := rfl
    rw [String.intercalate_cons_cons, weight, ← ih second, String.utf8ByteSize_append,
      String.utf8ByteSize_append]
    omega

theorem text_of_isAbsolute (absolute : p.isAbsolute = true) :
    ∃ rest, p.text = p.rootText ++ rest := by
  have chars : p.text.toList.head? = some '/' := by simpa [isAbsolute] using absolute
  obtain ⟨tail, whole⟩ := List.head?_eq_some_iff.mp chars
  have one : p.text = "/" ++ String.ofList tail := by
    apply String.toList_inj.mp
    rw [whole]
    simp
  unfold rootText
  split
  · exact ⟨_, one⟩
  · rename_i rest _ two
    refine ⟨String.ofList rest, String.toList_inj.mp ?_⟩
    rw [two]
    simp
  · exact ⟨_, one⟩

section Roots

variable {rootText : String} (isRoot : rootText = "/" ∨ rootText = "//")

include isRoot

theorem endsInSlash_root : (Path.mk rootText).endsInSlash = true := by
  rcases isRoot with rfl | rfl <;> decide

theorem names_root (rest : String) : (Path.mk (rootText ++ rest)).names = (Path.mk rest).names := by
  rcases isRoot with rfl | rfl
  · exact names_slash_left rest
  · have twice : "//" ++ rest = "/" ++ ("/" ++ rest) := by rw [← String.append_assoc]; rfl
    rw [twice, names_slash_left, names_slash_left]

theorem extent_root (rest : String) :
    (Path.mk (rootText ++ rest)).extent = rootText.utf8ByteSize + (Path.mk rest).extent := by
  have some : rootText ++ rest ≠ "" := by
    intro empty
    rcases isRoot with rfl | rfl <;> exact absurd (String.append_eq_empty_iff.mp empty).1 (by decide)
  by_cases empty : rest = ""
  · subst empty
    have closed := extent_of_closed (p := ⟨rootText⟩) (.inr (endsInSlash_root isRoot))
    rw [String.append_empty, closed, extent_of_closed (.inl rfl)]
    rfl
  · have same : (Path.mk (rootText ++ rest)).endsInSlash = (Path.mk rest).endsInSlash := by
      simp [endsInSlash, List.getLast?_append, empty]
    by_cases slash : (Path.mk rest).endsInSlash = true
    · rw [extent_of_closed (.inr (same.trans slash)), extent_of_closed (.inr slash),
        String.utf8ByteSize_append]
    · have noSlash := Bool.eq_false_iff.mpr slash
      rw [extent_of_open some (same.trans noSlash), extent_of_open empty noSlash,
        String.utf8ByteSize_append, Nat.add_assoc]

theorem extent_joinNames_root {names : List String} (all : ∀ name ∈ names, IsName name) :
    ((Path.mk rootText).joinNames names).extent ≤ rootText.utf8ByteSize + weight names := by
  unfold joinNames
  cases names with
  | nil =>
    rw [if_pos rfl, extent_of_closed (.inr (endsInSlash_root isRoot))]
    exact Nat.le_add_right _ _
  | cons first rest =>
    have size := size_join ⟨rootText⟩ (isAbsolute_intercalate all)
    rw [extent_of_closed (.inr (endsInSlash_root isRoot))] at size
    rw [if_neg (List.cons_ne_nil _ _), ← size_intercalate, ← Nat.add_assoc, ← size]
    exact extent_le_size _

end Roots

theorem extent_absolute?_le {base? : Option Path} (absolute : p.isAbsolute = true)
    (formed : p.absolute? base? = some root) : root.extent ≤ p.extent := by
  have isRoot := rootText_cases p
  have rooted : (Path.mk p.rootText).isAbsolute = true := by
    rcases isRoot with same | same <;> rw [same] <;> decide
  have start := isAbsolute_joinNames rooted p.names
  have full : ((Path.mk p.rootText).joinNames p.names).extent ≤ p.extent := by
    obtain ⟨rest, text⟩ := text_of_isAbsolute absolute
    have path : p = ⟨p.rootText ++ rest⟩ := congrArg Path.mk text
    have size := extent_root isRoot rest
    have names := names_root isRoot rest
    rw [← path] at size names
    have spread := extent_joinNames_root isRoot (fun _ => isName_of_mem (p := p))
    have within := weight_names_le ⟨rest⟩
    rw [← names] at within
    omega
  unfold absolute? at formed
  rw [if_neg (text_ne_of_isAbsolute absolute), if_pos absolute, Option.map_some] at formed
  obtain rfl := Option.some.inj formed
  dsimp only
  split
  · rename_i slashes
    have noSlash := Bool.eq_false_iff.mpr slashes.2
    have opened := extent_of_open (text_ne_of_isAbsolute start) noSlash
    have closed := extent_of_closed
      (p := ⟨((Path.mk p.rootText).joinNames p.names).text ++ "/"⟩) (.inr (by simp [endsInSlash]))
    rw [String.utf8ByteSize_append] at closed
    rw [closed]
    exact opened ▸ full
  · exact full

end ModuleImport.Path
