import ModuleImport.Proofs.Interpreter.Keys
import ModuleImport.Proofs.Interpreter.Sourced
import ModuleImport.Proofs.Repository.Walk

namespace ModuleImport

open Sighting

namespace Interpreter

/-- The entries of search paths that are looked at on the way from one state to another, in order.
Nothing else changes what is kept for entries. -/
inductive Looks (fs : FileSystem) (s : Interpreter) : List Path → Interpreter → Prop
  | refl : Looks fs s [] s
  | looked {entries t} (entry : Path) : Looks fs s entries t →
      Looks fs s (entries ++ [entry]) (t.importerFor fs entry).2
  | edited {entries t u} : Looks fs s entries t → Edit fs t u → u.importers = t.importers →
      Looks fs s entries u

variable {fs : FileSystem} {entry : Path} {entries more : List Path} {seen : List Sighting}
  {s t u : Interpreter}

theorem Looks.trans (first : Looks fs s entries t) (second : Looks fs t more u) :
    Looks fs s (entries ++ more) u := by
  induction second with
  | refl =>
    rw [List.append_nil]
    exact first
  | looked entry _ ih =>
    rw [← List.append_assoc]
    exact .looked entry ih
  | edited _ edit same ih => exact .edited ih edit same

/-- Every run looks at some entries. -/
theorem exists_looks (edits : Edits fs s t) : ∃ entries, Looks fs s entries t := by
  induction edits with
  | refl => exact ⟨[], .refl⟩
  | tail _ edit ih =>
    obtain ⟨entries, looks⟩ := ih
    cases edit with
    | importerFor entry => exact ⟨_, .looked entry looks⟩
    | assign module attr value => exact ⟨_, .edited looks (.assign _ module attr value) rfl⟩
    | println line => exact ⟨_, .edited looks (.println _ line) rfl⟩
    | record event => exact ⟨_, .edited looks (.record _ event) rfl⟩
    | register name => exact ⟨_, .edited looks (.register _ name) rfl⟩
    | remove name => exact ⟨_, .edited looks (.remove _ name) rfl⟩
    | setEntryPoint main => exact ⟨_, .edited looks (.setEntryPoint _ main) rfl⟩
    | newModule name => exact ⟨_, .edited looks (.newModule _ name) rfl⟩
    | importers same => exact ⟨_, .edited looks (.importers same) rfl⟩

/-- The state after looks at some entries in a row. -/
def visited (fs : FileSystem) (entries : List Path) (s : Interpreter) : Interpreter :=
  entries.foldl (fun t entry => (t.importerFor fs entry).2) s

theorem visited_concat (fs : FileSystem) (entries : List Path) (entry : Path) (s : Interpreter) :
    s.visited fs (entries ++ [entry]) = ((s.visited fs entries).importerFor fs entry).2 := by
  simp [visited]

theorem visited_induct {P : Interpreter → Prop}
    (step : ∀ t entry, P t → P (t.importerFor fs entry).2) (entries : List Path) (start : P s) :
    P (s.visited fs entries) := by
  induction entries generalizing s with
  | nil => exact start
  | cons entry rest ih => exact ih (step s entry start)

theorem looks_visited (fs : FileSystem) (entries : List Path) (s : Interpreter) :
    Looks fs s entries (s.visited fs entries) := by
  induction entries generalizing s with
  | nil => exact .refl
  | cons entry rest ih => exact (Looks.looked entry .refl).trans (ih (s.importerFor fs entry).2)

section Remembering

/-- What is kept for an entry is what its first sighting came to, and nothing is kept for the others. -/
def Remembers (s : Interpreter) (seen : List Sighting) : Prop :=
  ∀ entry : Path,
    (s.importers.get? entry.canonicalText).map (Option.map Importer.root) = first? seen entry

theorem importerFor_of_unseen (unseen : s.importers.get? entry.canonicalText = none) :
    (s.importerFor fs entry).1.map Importer.root = (Repository.openRoot fs entry).toOption := by
  unfold importerFor
  dsimp only
  rw [unseen]
  dsimp only
  unfold Store.openImporter
  cases Repository.openRoot fs entry <;> rfl

theorem importerFor_of_seen {importer? : Option Importer}
    (seen : s.importers.get? entry.canonicalText = some importer?) :
    (s.importerFor fs entry).1 = importer? := by
  rw [importerFor, seen]

theorem importers_importerFor (s : Interpreter) (fs : FileSystem) (entry : Path) (key : String) :
    (s.importerFor fs entry).2.importers.get? key =
      if key = entry.canonicalText then some (s.importerFor fs entry).1
      else s.importers.get? key := by
  by_cases own : key = entry.canonicalText
  · rw [if_pos own, own]
    exact s.importerFor_cached fs entry
  · rw [if_neg own]
    obtain ⟨importer?, _, h⟩ | ⟨root, _, _, h⟩ | ⟨_, h⟩ := s.importerFor_cases fs entry <;> rw [h]
    · exact (Table.get?_insert _ _ _ _).trans (if_neg own)
    · exact (Table.get?_insert _ _ _ _).trans (if_neg own)

/-- The importer for an entry is that of its first sighting, which this look may be. -/
theorem Remembers.importerFor (remembers : s.Remembers seen) (fs : FileSystem) (entry : Path) :
    (s.importerFor fs entry).2.Remembers (along seen fs [entry]) := by
  intro other
  rw [importers_importerFor, along, first?_append]
  by_cases own : other.canonicalText = entry.canonicalText
  · rw [if_pos own, first?_congr own, Option.map_some]
    cases earlier : s.importers.get? entry.canonicalText with
    | none =>
      have first : first? seen entry = none := by rw [← remembers, earlier, Option.map_none]
      rw [importerFor_of_unseen earlier, first, Option.none_or]
      exact (first?_look fs own).symm
    | some importer? =>
      have first : first? seen entry = some (importer?.map Importer.root) := by
        rw [← remembers, earlier, Option.map_some]
      rw [importerFor_of_seen earlier, first, Option.some_or]
  · rw [if_neg own, remembers, List.map_singleton, first?_look_of_ne fs own, Option.or_none]

theorem Remembers.root (remembers : s.Remembers seen) (fs : FileSystem) (entry : Path)
    (rest : List Path) : (s.importerFor fs entry).1.map Importer.root =
      firstSeen (along seen fs (entry :: rest)) entry := by
  have kept := remembers.importerFor fs entry entry
  rw [importerFor_cached, Option.map_some] at kept
  rw [along_cons, firstSeen, along, first?_append, ← kept, Option.some_or, Option.join_some]

theorem Remembers.looks (remembers : s.Remembers seen) (looks : Looks fs s entries t) :
    t.Remembers (along seen fs entries) := by
  induction looks with
  | refl =>
    rw [along_nil]
    exact remembers
  | looked entry _ ih =>
    rw [along_append]
    exact ih.importerFor fs entry
  | edited _ _ same ih =>
    intro entry
    rw [same]
    exact ih entry

theorem searchPath_of_edits (edits : Edits fs s t) : t.searchPath = s.searchPath := by
  induction edits with
  | refl => rfl
  | tail _ edit ih =>
    cases edit with
    | importerFor entry => exact (searchPath_importerFor _ fs entry).trans ih
    | _ => exact ih

end Remembering

section Living

/-- An act is lawful if it executes code in modules of the store only and leaves the entry point of
the importers that the interpreter keeps to the interpreter. -/
def Act.Lawful (s : Interpreter) : Act → Prop
  | .execute module _ _ => s.Owns module
  | .setMain importer _ =>
    ∀ entry kept, s.importers.get? entry = some (some kept) → kept.id ≠ importer.id
  | _ => True

/-- A lawful act has been done, whatever the files held then. -/
def LawfullyActed (s t : Interpreter) : Prop :=
  ∃ fs act, act.Lawful s ∧ Act.Ends fs s act t

/-- A history of lawful acts, each with its own files, and all sightings on the way, the earliest
first. -/
inductive Lived (config : Config) : List Sighting → Interpreter → Prop
  | new : Lived config [] (new config)
  | acted {earlier : List Sighting} {before after : Interpreter} {files : FileSystem} {act : Act}
      {looked : List Path} : Lived config earlier before → act.Lawful before →
      Act.Ends files before act after → Looks files before looked after →
      Lived config (along earlier files looked) after

variable {config : Config}

theorem Act.Ends.consistent {act : Act} (ends : Act.Ends fs s act t) (lawful : act.Lawful s)
    (consistent : s.Consistent) : t.Consistent := by
  have operated (operation : Operation s t) : t.Consistent :=
    (operation.coheres consistent).consistent
  cases ends with
  | @request request x _ ran =>
    cases request with
    | toImport name => exact operated (.called (.importModule ran))
    | toRunMain name => exact operated (.called (.runMain ran))
    | toLoad importer name resolution => exact operated (.load ran)
    | toLoadModule importer name => exact operated (.loadModule ran)
  | setEntryPoint main => exact operated (.called (.setEntryPoint s main))
  | getOrCreate name => exact operated (.getOrCreate s name)
  | remove name => exact operated (.remove s name)
  | execute ran => exact operated (.execute lawful ran)
  | assign module attr value => exact operated (.assign s module attr value)
  | newModule name => exact operated (.newModule s name)
  | opened opened => exact operated (.openImporter opened)
  | invalid _ => exact consistent
  | setMain importer main => exact operated (.setMain main lawful)

/-- Every state that lawful acts lead to has a history. -/
theorem exists_lived (acted : Relation.ReflTransGen LawfullyActed (Interpreter.new config) s) :
    ∃ seen, Lived config seen s := by
  induction acted with
  | refl => exact ⟨[], .new⟩
  | tail _ last ih =>
    obtain ⟨seen, lived⟩ := ih
    obtain ⟨fs, act, lawful, ends⟩ := last
    obtain ⟨entries, looks⟩ := exists_looks ends.edits
    exact ⟨_, .acted lived lawful ends looks⟩

/-- Whatever the history is, what is kept for entries is what they were when they were first seen. -/
theorem Lived.remembers (lived : Lived config seen s) : s.Remembers seen := by
  induction lived with
  | new => exact fun _ => rfl
  | acted _ _ _ looks ih => exact ih.looks looks

theorem consistent_of_acted
    (acted : Relation.ReflTransGen LawfullyActed (Interpreter.new config) s) :
    s.Consistent ∧ s.searchPath = config.searchPath := by
  induction acted with
  | refl => exact ⟨Reached.consistent (.new config), rfl⟩
  | tail _ last ih =>
    obtain ⟨fs, act, lawful, ends⟩ := last
    exact ⟨ends.consistent lawful ih.1, (searchPath_of_edits ends.edits).trans ih.2⟩

end Living

end Interpreter

end ModuleImport
