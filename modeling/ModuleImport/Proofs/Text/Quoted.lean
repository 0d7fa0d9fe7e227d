import ModuleImport.Proofs.Text.Digits
import ModuleImport.Text.Quoted

namespace ModuleImport.Text

/-- What a letter after a backslash stands for on its own. -/
def ofLetter? : Char → Option Char
  | '0' => some '\x00'
  | 't' => some '\t'
  | 'r' => some '\r'
  | 'n' => some '\n'
  | '"' => some '"'
  | '\\' => some '\\'
  | _ => none

/-- The shapes of an escape: a backslash and a letter, the character itself, its code point. -/
theorem escape_cases (c : Char) :
    (∃ letter, ofLetter? letter = some c ∧ escape c = ['\\', letter]) ∨
      (visible c = true ∧ c ≠ '\\' ∧ escape c = [c]) ∨ escape c = codePointEscape c := by
  unfold escape
  split
  case isTrue same => exact .inl ⟨'0', by rw [same]; rfl, rfl⟩
  split
  case isTrue same => exact .inl ⟨'t', by rw [same]; rfl, rfl⟩
  split
  case isTrue same => exact .inl ⟨'r', by rw [same]; rfl, rfl⟩
  split
  case isTrue same => exact .inl ⟨'n', by rw [same]; rfl, rfl⟩
  split
  case isTrue same => exact .inl ⟨'"', by rw [same]; rfl, rfl⟩
  split
  case isTrue same => exact .inl ⟨'\\', by rw [same]; rfl, rfl⟩
  case isFalse slash =>
    split
    case isTrue shows => exact .inr (.inl ⟨shows, slash, rfl⟩)
    case isFalse => exact .inr (.inr rfl)

/-- Reads one escape: the character it stands for, and what follows the escape. -/
def unescape? : List Char → Option (Char × List Char)
  | [] => none
  | '\\' :: 'u' :: '{' :: cs =>
    some (.ofNat (ofHex (cs.takeWhile (· != '}'))), (cs.dropWhile (· != '}')).tail)
  | '\\' :: letter :: cs => (ofLetter? letter).map (·, cs)
  | c :: cs => some (c, cs)

theorem unescape?_codePointEscape (c : Char) (rest : List Char) :
    unescape? (codePointEscape c ++ rest) = some (c, rest) := by
  have brace : '}' ∉ Nat.toDigits 16 c.toNat :=
    not_mem_toDigits (by decide) (fun _ => Nat.digitChar_ne '}' rfl) c.toNat
  have digits : ∀ d ∈ Nat.toDigits 16 c.toNat, (d != '}') = true := by
    intro d mem
    rw [bne_iff_ne]
    rintro rfl
    exact brace mem
  simp [codePointEscape, unescape?, List.takeWhile_append_of_pos digits,
    List.dropWhile_append_of_pos digits, ofHex_toDigits]

theorem unescape?_escape (c : Char) (rest : List Char) :
    unescape? (escape c ++ rest) = some (c, rest) := by
  obtain ⟨letter, stands, shape⟩ | ⟨-, slash, shape⟩ | shape := escape_cases c
  · have short : letter ≠ 'u' := by rintro rfl; simp [ofLetter?] at stands
    rw [shape]
    simp [unescape?, short, stands]
  · rw [shape]
    simp [unescape?, slash]
  · rw [shape, unescape?_codePointEscape]

theorem escape_ne_nil (c : Char) : escape c ≠ [] := by
  intro empty
  have read := unescape?_escape c []
  rw [empty] at read
  cases read

theorem flatMap_escape_inj {cs ds : List Char} :
    cs.flatMap escape = ds.flatMap escape ↔ cs = ds := by
  refine ⟨fun same => ?_, congrArg _⟩
  induction cs generalizing ds with
  | nil =>
    cases ds with
    | nil => rfl
    | cons d ds => simp [escape_ne_nil] at same
  | cons c cs ih =>
    cases ds with
    | nil => simp [escape_ne_nil] at same
    | cons d ds =>
      have read := congrArg unescape? same
      rw [List.flatMap_cons, List.flatMap_cons, unescape?_escape, unescape?_escape] at read
      obtain ⟨first, rest⟩ := Prod.mk.inj (Option.some.inj read)
      rw [first, ih rest]

theorem quoted_inj {s t : String} : quoted s = quoted t ↔ s = t := by
  rw [quoted, quoted, String.ofList_inj, List.cons_inj_right, List.append_cancel_right_eq,
    flatMap_escape_inj, String.toList_inj]

theorem lineFeed_not_mem_escape (c : Char) : '\n' ∉ escape c := by
  obtain ⟨letter, stands, shape⟩ | ⟨shows, -, shape⟩ | shape := escape_cases c
  · have other : letter ≠ '\n' := by rintro rfl; simp [ofLetter?] at stands
    rw [shape]
    simp [other.symm]
  · have other : c ≠ '\n' := by
      rintro rfl
      simp [visible_of_lt (c := '\n') (by decide)] at shows
    rw [shape]
    simpa using other.symm
  · have digits : '\n' ∉ Nat.toDigits 16 c.toNat :=
      not_mem_toDigits (by decide) (fun _ => Nat.digitChar_ne '\n' rfl) c.toNat
    rw [shape]
    simp [codePointEscape, digits]

theorem lineFeed_not_mem_quoted (s : String) : '\n' ∉ (quoted s).toList := by
  simp [quoted, lineFeed_not_mem_escape]

end ModuleImport.Text
