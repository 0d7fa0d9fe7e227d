import ModuleImport.Path

namespace ModuleImport.Path

/-- The steps of a row that lead somewhere. -/
def namesIn (steps : List String) : List String :=
  steps.filter fun step => step ≠ "" ∧ step ≠ "."

theorem names_eq (p : Path) : p.names = namesIn p.steps := rfl

theorem namesIn_append (xs ys : List String) : namesIn (xs ++ ys) = namesIn xs ++ namesIn ys :=
  List.filter_append xs ys

theorem namesIn_cons_of_idle {step : String} (idle : step = "" ∨ step = ".") (rest : List String) :
    namesIn (step :: rest) = namesIn rest := by
  rcases idle with rfl | rfl <;> rfl

theorem namesIn_cons_of_ne {step : String} (some : step ≠ "") (noDot : step ≠ ".")
    (rest : List String) : namesIn (step :: rest) = step :: namesIn rest := by
  simp [namesIn, some, noDot]

theorem steps_of_noSlash {text : String} (noSlash : '/' ∉ text.toList) :
    (Path.mk text).steps = [text] := by
  rw [steps, Text.pieces_of_not_mem noSlash, List.map_singleton, String.ofList_toList]

theorem steps_slash (front back : String) :
    (Path.mk (front ++ "/" ++ back)).steps = (Path.mk front).steps ++ (Path.mk back).steps := by
  have text : (front ++ "/" ++ back).toList = front.toList ++ '/' :: back.toList := by simp
  rw [steps, text, Text.pieces_append_cons, List.map_append]
  rfl

theorem names_slash (front back : String) :
    (Path.mk (front ++ "/" ++ back)).names = (Path.mk front).names ++ (Path.mk back).names := by
  rw [names_eq, steps_slash, namesIn_append]
  rfl

theorem names_empty : (Path.mk "").names = [] := rfl

theorem names_of_isName {name : String} (isName : IsName name) : (Path.mk name).names = [name] := by
  rw [names_eq, steps_of_noSlash isName.noSlash, namesIn_cons_of_ne isName.some isName.noDot]
  rfl

theorem mem_iff_mem_names {c : Char} (noSlash : c ≠ '/') (noDot : c ≠ '.') (p : Path) :
    c ∈ p.text.toList ↔ ∃ name ∈ p.names, c ∈ name.toList := by
  have pieces := Text.mem_iff_mem_pieces noSlash p.text.toList
  constructor
  · intro member
    obtain ⟨piece, isPiece, inside⟩ := pieces.mp member
    rw [← String.toList_ofList (l := piece)] at inside
    refine ⟨_, List.mem_filter.mpr ⟨List.mem_map_of_mem isPiece, ?_⟩, inside⟩
    rw [decide_eq_true_eq]
    constructor
    · intro empty
      rw [empty] at inside
      cases inside
    · intro dot
      rw [dot] at inside
      exact noDot (List.mem_singleton.mp inside)
  · rintro ⟨name, isName, inside⟩
    obtain ⟨piece, isPiece, rfl⟩ := List.mem_map.mp (List.mem_filter.mp isName).1
    rw [String.toList_ofList] at inside
    exact pieces.mpr ⟨piece, isPiece, inside⟩

theorem names_slash_left (text : String) : (Path.mk ("/" ++ text)).names = (Path.mk text).names := by
  have split := names_slash "" text
  rw [String.empty_append, names_empty, List.nil_append] at split
  exact split

theorem names_slash_right (text : String) :
    (Path.mk (text ++ "/")).names = (Path.mk text).names := by
  have split := names_slash text ""
  rw [String.append_empty, names_empty, List.append_nil] at split
  exact split

theorem names_intercalate {names : List String} (all : ∀ name ∈ names, IsName name) :
    (Path.mk ("/".intercalate names)).names = names := by
  induction names with
  | nil => rw [String.intercalate_nil, names_empty]
  | cons first rest ih =>
    have inside : ∀ name ∈ rest, IsName name :=
      fun name member => all name (List.mem_cons_of_mem _ member)
    cases rest with
    | nil =>
      rw [String.intercalate_singleton]
      exact names_of_isName (all first List.mem_cons_self)
    | cons second rest =>
      rw [String.intercalate_cons_cons, names_slash, ih inside,
        names_of_isName (all first List.mem_cons_self)]
      rfl

theorem isAbsolute_slash (text : String) : (Path.mk ("/" ++ text)).isAbsolute = true := by
  simp [isAbsolute]

theorem isAbsolute_append {front : String} (some : front ≠ "") (back : String) :
    (Path.mk (front ++ back)).isAbsolute = (Path.mk front).isAbsolute := by
  have chars : front.toList ≠ [] := fun empty => some (String.toList_inj.mp empty)
  simp [isAbsolute, List.head?_append, List.head?_eq_some_head chars]

theorem text_ne_of_isAbsolute {p : Path} (absolute : p.isAbsolute = true) : p.text ≠ "" := by
  intro empty
  simp [isAbsolute, empty] at absolute

theorem isAbsolute_of_isName {name : String} (isName : IsName name) :
    (Path.mk name).isAbsolute = false := by
  apply Bool.eq_false_iff.mpr
  intro absolute
  have head : name.toList.head? = some '/' := by simpa [isAbsolute] using absolute
  exact isName.noSlash (List.mem_of_mem_head? head)

theorem isAbsolute_intercalate {names : List String} (all : ∀ name ∈ names, IsName name) :
    (Path.mk ("/".intercalate names)).isAbsolute = false := by
  cases names with
  | nil => rfl
  | cons first rest =>
    have isName := all first List.mem_cons_self
    cases rest with
    | nil =>
      rw [String.intercalate_singleton]
      exact isAbsolute_of_isName isName
    | cons second rest =>
      rw [String.intercalate_cons_cons, String.append_assoc, isAbsolute_append isName.some]
      exact isAbsolute_of_isName isName

theorem names_canonicalText (p : Path) : (Path.mk p.canonicalText).names = p.names := by
  have all : ∀ name ∈ p.names, IsName name := fun _ => isName_of_mem
  unfold canonicalText
  by_cases absolute : p.isAbsolute = true
  · rw [if_pos absolute, names_slash_left, names_intercalate all]
  · rw [if_neg absolute]
    by_cases dotted : p.startsWithDot = true
    · rw [if_pos dotted]
      have split := names_slash "." ("/".intercalate p.names)
      rw [names_intercalate all] at split
      exact split
    · rw [if_neg dotted, String.empty_append, names_intercalate all]

theorem isAbsolute_canonicalText (p : Path) :
    (Path.mk p.canonicalText).isAbsolute = p.isAbsolute := by
  have all : ∀ name ∈ p.names, IsName name := fun _ => isName_of_mem
  unfold canonicalText
  by_cases absolute : p.isAbsolute = true
  · rw [if_pos absolute, isAbsolute_slash, absolute]
  · rw [if_neg absolute, (Bool.not_eq_true _).mp absolute]
    by_cases dotted : p.startsWithDot = true
    · rw [if_pos dotted, isAbsolute_append (by decide)]
      rfl
    · rw [if_neg dotted, String.empty_append, isAbsolute_intercalate all]

theorem same_iff {p q : Path} : p.same q = true ↔ p.canonicalText = q.canonicalText := by
  simp [same]

theorem names_of_same {p q : Path} (same : p.same q = true) : p.names = q.names := by
  rw [← names_canonicalText p, same_iff.mp same, names_canonicalText q]

theorem isAbsolute_of_same {p q : Path} (same : p.same q = true) :
    p.isAbsolute = q.isAbsolute := by
  rw [← isAbsolute_canonicalText p, same_iff.mp same, isAbsolute_canonicalText q]

theorem text_eq_empty {p : Path} (relative : p.isAbsolute = false) (undotted : p.startsWithDot = false)
    (nameless : p.names = []) : p.text = "" := by
  cases chars : p.text.toList with
  | nil => exact String.toList_inj.mp chars
  | cons c cs =>
    have noSlash : c ≠ '/' := by
      rintro rfl
      simp [isAbsolute, chars] at relative
    obtain ⟨first, rest, steps, some⟩ : ∃ first rest, p.steps = first :: rest ∧ first ≠ "" := by
      refine ⟨_, _, by rw [steps, chars, Text.pieces_cons, if_neg noSlash, List.map_cons], ?_⟩
      intro empty
      have := congrArg String.toList empty
      simp at this
    have noDot : first ≠ "." := by
      rintro rfl
      simp [startsWithDot, steps] at undotted
    rw [names_eq, steps, namesIn_cons_of_ne some noDot] at nameless
    cases nameless

theorem text_eq_empty_of_same {p q : Path} (same : p.same q = true) (empty : p.text = "") :
    q.text = "" := by
  obtain rfl : p = ⟨""⟩ := congrArg Path.mk empty
  have canonical : q.canonicalText = "" := (same_iff.mp same).symm
  apply text_eq_empty
  · exact (isAbsolute_of_same same).symm
  · apply Bool.eq_false_iff.mpr
    intro dotted
    have relative : ¬q.isAbsolute = true := by
      rw [← isAbsolute_of_same same]
      decide
    rw [canonicalText, if_neg relative, if_pos dotted] at canonical
    have := congrArg String.length canonical
    simp at this
  · exact (names_of_same same).symm

theorem same_of_names {p q : Path} (absolute : p.isAbsolute = true) (absolute' : q.isAbsolute = true)
    (names : p.names = q.names) : p.same q = true := by
  rw [same_iff, canonicalText, canonicalText, if_pos absolute, if_pos absolute', names]

theorem eq_of_endsInSlash {p : Path} (slash : p.endsInSlash = true) :
    ∃ front, p = ⟨front ++ "/"⟩ := by
  have last : p.text.toList.getLast? = some '/' := by simpa [endsInSlash] using slash
  obtain ⟨front, chars⟩ := List.getLast?_eq_some_iff.mp last
  refine ⟨String.ofList front, congrArg Path.mk (String.toList_inj.mp ?_)⟩
  rw [chars]
  simp

/-- Below an absolute path stands what it says and then what is asked for below it. -/
theorem join_text {base : Path} (absolute : base.isAbsolute = true) {below : String}
    (relative : (Path.mk below).isAbsolute = false) :
    ∃ front, (base.join below).text = front ++ "/" ++ below ∧
      (Path.mk front).names = base.names := by
  have some := text_ne_of_isAbsolute absolute
  unfold join
  rw [if_neg (by rw [relative]; decide)]
  by_cases slash : base.endsInSlash = true
  · rw [if_pos (.inr slash)]
    obtain ⟨front, rfl⟩ := eq_of_endsInSlash slash
    exact ⟨front, rfl, (names_slash_right front).symm⟩
  · rw [if_neg (not_or.mpr ⟨some, slash⟩)]
    exact ⟨base.text, rfl, rfl⟩

theorem isAbsolute_join {base : Path} (absolute : base.isAbsolute = true) (below : String) :
    (base.join below).isAbsolute = true := by
  have some := text_ne_of_isAbsolute absolute
  unfold join
  by_cases instead : (Path.mk below).isAbsolute = true
  · rw [if_pos instead]
    exact instead
  · rw [if_neg instead]
    split
    · exact (isAbsolute_append some below).trans absolute
    · rw [String.append_assoc]
      exact (isAbsolute_append some _).trans absolute

theorem names_join {base : Path} (absolute : base.isAbsolute = true) {name : String}
    (isName : IsName name) : (base.join name).names = base.names ++ [name] := by
  obtain ⟨front, text, names⟩ := join_text absolute (isAbsolute_of_isName isName)
  rw [← names, ← names_of_isName isName, ← names_slash, ← text]

/-- Whether a path ends in a name, not in a slash or an idle step. -/
def EndsInName (p : Path) : Prop :=
  ∃ front name, p.steps = front ++ [name] ∧ IsName name

theorem endsInName_join {base : Path} (absolute : base.isAbsolute = true) {name : String}
    (isName : IsName name) : EndsInName (base.join name) := by
  obtain ⟨front, text, -⟩ := join_text absolute (isAbsolute_of_isName isName)
  refine ⟨(Path.mk front).steps, name, ?_, isName⟩
  rw [← steps_of_noSlash isName.noSlash, ← steps_slash, ← text]

/-- A path is a text but for a slash before it and a slash after it. -/
def IsAround (text : String) (p : Path) : Prop :=
  ∃ front back, p.text = front ++ text ++ back ∧ (front = "" ∨ front = "/") ∧
    (back = "" ∨ back = "/")

section IsAround

variable {text : String} {p q : Path}

theorem IsAround.names (around : IsAround text p) : p.names = (Path.mk text).names := by
  obtain ⟨front, back, same, isFront, isBack⟩ := around
  obtain rfl : p = ⟨front ++ text ++ back⟩ := congrArg Path.mk same
  have behind : (Path.mk (front ++ text ++ back)).names = (Path.mk (front ++ text)).names := by
    rcases isBack with rfl | rfl
    · rw [String.append_empty]
    · exact names_slash_right _
  rw [behind]
  rcases isFront with rfl | rfl
  · rw [String.empty_append]
  · exact names_slash_left text

theorem IsAround.isAbsolute (around : IsAround text p) (absolute : (Path.mk text).isAbsolute = true) :
    p.isAbsolute = true := by
  obtain ⟨front, back, same, isFront, -⟩ := around
  obtain rfl : p = ⟨front ++ text ++ back⟩ := congrArg Path.mk same
  rw [String.append_assoc]
  rcases isFront with rfl | rfl
  · rw [String.empty_append, isAbsolute_append (text_ne_of_isAbsolute absolute)]
    exact absolute
  · exact isAbsolute_slash _

theorem IsAround.size (around : IsAround text p) :
    text.utf8ByteSize ≤ p.text.utf8ByteSize ∧ p.text.utf8ByteSize ≤ text.utf8ByteSize + 2 := by
  obtain ⟨front, back, same, isFront, isBack⟩ := around
  have slash : "/".utf8ByteSize = 1 := rfl
  have none : "".utf8ByteSize = 0 := rfl
  rw [same, String.utf8ByteSize_append, String.utf8ByteSize_append]
  rcases isFront with rfl | rfl <;> rcases isBack with rfl | rfl <;> omega

end IsAround

/-- Where the absolute form of a path starts. -/
def start? (p : Path) (base? : Option Path) : Option Path :=
  if p.isAbsolute then some ⟨p.rootText⟩ else base?

theorem start?_of_absolute? {p root : Path} {base? : Option Path}
    (formed : p.absolute? base? = some root) :
    p.text ≠ "" ∧ ∃ start, p.start? base? = some start := by
  unfold absolute? at formed
  split at formed
  · cases formed
  · rename_i some
    obtain ⟨start, starts, -⟩ := Option.map_eq_some_iff.mp formed
    exact ⟨some, start, starts⟩

/-- The absolute form goes on from its start along the names, and may end in a slash. -/
theorem absolute?_of_start {p start : Path} {base? : Option Path} (some : p.text ≠ "")
    (starts : p.start? base? = .some start) :
    ∃ root back, p.absolute? base? = .some root ∧
      root.text = (start.joinNames p.names).text ++ back ∧ (back = "" ∨ back = "/") := by
  unfold start? at starts
  unfold absolute?
  rw [if_neg some, starts, Option.map_some]
  by_cases slash : p.endsInSlash ∧ ¬(start.joinNames p.names).endsInSlash
  · exact ⟨_, "/", rfl, by rw [if_pos slash], .inr rfl⟩
  · exact ⟨_, "", rfl, by rw [if_neg slash, String.append_empty], .inl rfl⟩

theorem rootText_cases (p : Path) : p.rootText = "/" ∨ p.rootText = "//" := by
  unfold rootText
  split
  · exact .inl rfl
  · exact .inr rfl
  · exact .inl rfl

theorem joinNames_root {root : String} (isRoot : root = "/" ∨ root = "//")
    {names : List String} (all : ∀ name ∈ names, IsName name) :
    (Path.mk root).joinNames names = ⟨root ++ "/".intercalate names⟩ := by
  unfold joinNames
  by_cases nameless : names = []
  · rw [if_pos nameless, nameless, String.intercalate_nil, String.append_empty]
  · rw [if_neg nameless, join, if_neg (by rw [isAbsolute_intercalate all]; decide), if_pos]
    right
    rcases isRoot with rfl | rfl <;> decide

theorem text_joinNames_root {root : String} (isRoot : root = "/" ∨ root = "//")
    {names : List String} (all : ∀ name ∈ names, IsName name) :
    ∃ front, ((Path.mk root).joinNames names).text = front ++ ("/" ++ "/".intercalate names) ∧
      (front = "" ∨ front = "/") := by
  have text := congrArg Path.text (joinNames_root isRoot all)
  rcases isRoot with rfl | rfl
  · exact ⟨"", by rw [text, String.empty_append], .inl rfl⟩
  · exact ⟨"/", by rw [text, ← String.append_assoc]; rfl, .inr rfl⟩

theorem isAbsolute_joinNames {base : Path} (absolute : base.isAbsolute = true)
    (names : List String) : (base.joinNames names).isAbsolute = true := by
  unfold joinNames
  split
  · exact absolute
  · exact isAbsolute_join absolute _

theorem absolute?_of_isAbsolute {p : Path} (absolute : p.isAbsolute = true) (base? : Option Path) :
    ∃ root, p.absolute? base? = some root ∧ IsAround ("/" ++ "/".intercalate p.names) root := by
  have starts : p.start? base? = some ⟨p.rootText⟩ := if_pos absolute
  obtain ⟨root, back, formed, text, isBack⟩ :=
    absolute?_of_start (text_ne_of_isAbsolute absolute) starts
  obtain ⟨front, full, isFront⟩ :=
    text_joinNames_root (rootText_cases p) (fun _ => isName_of_mem (p := p))
  rw [full] at text
  exact ⟨root, formed, front, back, text, isFront, isBack⟩

theorem absolute?_of_relative {p : Path} (base : Path) (relative : ¬p.isAbsolute = true)
    (some : p.text ≠ "") :
    ∃ root, p.absolute? (.some base) = .some root ∧ IsAround (base.joinNames p.names).text root := by
  have starts : p.start? (.some base) = .some base := if_neg relative
  obtain ⟨root, back, formed, text, isBack⟩ := absolute?_of_start some starts
  refine ⟨root, formed, "", back, ?_, .inl rfl, isBack⟩
  rw [String.empty_append]
  exact text

/-- The absolute forms of paths that are the same differ by slashes at their ends only. -/
theorem absolute?_of_same {p q root : Path} {base? : Option Path}
    (isBase : ∀ base ∈ base?, base.isAbsolute = true) (same : p.same q = true)
    (formed : p.absolute? base? = some root) :
    ∃ root' text, q.absolute? base? = some root' ∧ (Path.mk text).isAbsolute = true ∧
      IsAround text root ∧ IsAround text root' := by
  have names := names_of_same same
  have alike := isAbsolute_of_same same
  by_cases absolute : p.isAbsolute = true
  · obtain ⟨r, formed', around⟩ := absolute?_of_isAbsolute absolute base?
    cases formed.symm.trans formed'
    obtain ⟨root', formed', around'⟩ := absolute?_of_isAbsolute (alike.symm.trans absolute) base?
    rw [← names] at around'
    exact ⟨root', _, formed', isAbsolute_slash _, around, around'⟩
  · obtain ⟨someText, start, starts⟩ := start?_of_absolute? formed
    have someText' : q.text ≠ "" := by
      intro empty
      exact someText (text_eq_empty_of_same (same_comm p q ▸ same) empty)
    obtain rfl : base? = some start := by
      rw [← starts]
      exact (if_neg absolute).symm
    have isStart : start.isAbsolute = true := isBase start rfl
    obtain ⟨r, formed', around⟩ := absolute?_of_relative start absolute someText
    cases formed.symm.trans formed'
    obtain ⟨root', formed', around'⟩ := absolute?_of_relative start (alike ▸ absolute) someText'
    rw [← names] at around'
    exact ⟨root', _, formed', isAbsolute_joinNames isStart _, around, around'⟩

theorem names_of_absolute? {p root : Path} {base? : Option Path} (absolute : p.isAbsolute = true)
    (formed : p.absolute? base? = some root) : root.names = p.names := by
  obtain ⟨root', formed', around⟩ := absolute?_of_isAbsolute absolute base?
  cases formed.symm.trans formed'
  rw [around.names, names_slash_left, names_intercalate fun _ => isName_of_mem]

theorem names_joinNames {base : Path} (absolute : base.isAbsolute = true) {names : List String}
    (all : ∀ name ∈ names, IsName name) : (base.joinNames names).names = base.names ++ names := by
  unfold joinNames
  split
  · rename_i nameless
    rw [nameless, List.append_nil]
  · obtain ⟨front, text, inFront⟩ := join_text absolute (isAbsolute_intercalate all)
    have split := names_slash front ("/".intercalate names)
    rw [← text, inFront, names_intercalate all] at split
    exact split

end ModuleImport.Path
