import ModuleImport.FileSystem.Basic

namespace ModuleImport.FileSystem

variable {fs : FileSystem} {P : Node → Prop}

/-- Whether the root, removed directories and the entries of all that has a property have it. -/
structure Inherited (fs : FileSystem) (P : Node → Prop) : Prop where
  root : P (.directory fs.entries)
  removed : P (.directory [])
  child : ∀ {node name below}, P node → node.child? name = some below → P below

/-- Whether the nodes of a trail that are there have a property. -/
def Along (P : Node → Prop) (trail : Trail) : Prop :=
  ∀ name node, (name, some node) ∈ trail → P node

theorem Along.cons {trail : Trail} {name : String} {node : Node} (along : Along P trail)
    (holds : P node) : Along P ((name, some node) :: trail) := by
  intro other below member
  rcases List.mem_cons.mp member with same | member
  · cases same
    exact holds
  · exact along other below member

theorem Along.tail {trail : Trail} (along : Along P trail) : Along P trail.tail :=
  fun name node member => along name node (List.mem_of_mem_tail member)

theorem Along.removed {trail : Trail} (along : Along P trail) (names : Location) :
    Along P (names.foldl (fun trail name => (name, none) :: trail) trail) := by
  induction names generalizing trail with
  | nil => exact along
  | cons name names ih =>
    refine ih (fun other node member => ?_)
    rcases List.mem_cons.mp member with same | member
    · cases same
    · exact along other node member

theorem Inherited.nodeAt (inherited : Inherited fs P) {trail : Trail} (along : Along P trail) :
    P (fs.nodeAt trail) := by
  match trail with
  | [] => exact inherited.root
  | (name, some node) :: _ => exact along name node List.mem_cons_self
  | (_, none) :: _ => exact inherited.removed

/-- Where a step comes to: it stays, goes back or enters an entry. -/
inductive Arrives (fs : FileSystem) (here : Trail) (name : String) : Trail → Prop
  | stays : Arrives fs here name here
  | back : Arrives fs here name here.tail
  | enters {node : Node} : (fs.nodeAt here).child? name = some node →
      Arrives fs here name ((name, some node) :: here)

theorem arrives_of_enter {here there : Trail} {name : String} {entries : List (String × Node)}
    (directory : fs.nodeAt here = .directory entries)
    (h : enter here entries name = .ok (.arrived there)) : Arrives fs here name there := by
  unfold enter at h
  split at h
  · cases h
  · split at h
    · cases h
    · split at h
      · cases h
      · cases h
      · rename_i found
        cases h
        refine .enters ?_
        rw [directory]
        exact found

theorem arrives_of_step {here there : Trail} {name : String}
    (h : fs.step here name = .ok (.arrived there)) : Arrives fs here name there := by
  unfold step at h
  split at h
  · rename_i entries directory
    split at h
    · cases h
      exact .stays
    · split at h
      · cases h
      · split at h
        · cases h
          exact .stays
        · split at h
          · cases h
            exact .back
          · exact arrives_of_enter directory h
  · cases h

theorem along_step (inherited : Inherited fs P) {here there : Trail} {name : String}
    (along : Along P here) (h : fs.step here name = .ok (.arrived there)) : Along P there := by
  cases arrives_of_step h with
  | stays => exact along
  | back => exact along.tail
  | enters found => exact along.cons (inherited.child (inherited.nodeAt along) found)

theorem along_walkSteps (inherited : Inherited fs P) {links : Nat}
    {follow : Trail → List String → Except IoError Place}
    (following : ∀ {here names place}, Along P here → follow here names = .ok place →
      Along P place.trail)
    {here : Trail} {names : List String} {place : Place} (along : Along P here)
    (h : fs.walkSteps links follow here names = .ok place) : Along P place.trail := by
  induction names generalizing here with
  | nil =>
    cases h
    exact along
  | cons name rest ih =>
    rw [walkSteps] at h
    split at h
    · cases h
    · rename_i there stepped
      exact ih (along_step inherited along stepped) h
    · rename_i target _
      refine following ?_ h
      unfold start
      split
      · intro _ _ member
        cases member
      · exact along

theorem along_walk (inherited : Inherited fs P) {links : Nat} {here : Trail} {names : List String}
    {place : Place} (along : Along P here) (h : fs.walk links here names = .ok place) :
    Along P place.trail := by
  induction links generalizing here names place with
  | zero => exact along_walkSteps inherited (fun _ failed => by cases failed) along h
  | succ links ih => exact along_walkSteps inherited (fun along h => ih along h) along h

theorem along_along? (inherited : Inherited fs P) {here there : Trail} {names : Location}
    (along : Along P here) (h : fs.along? here names = some there) : Along P there := by
  induction names generalizing here with
  | nil =>
    cases h
    exact along
  | cons name rest ih =>
    rw [along?] at h
    split at h
    · rename_i node found
      exact ih (along.cons (inherited.child (inherited.nodeAt along) found)) h
    · cases h

theorem along_origin (inherited : Inherited fs P) {p : Path} {here : Trail}
    (h : fs.origin? p = some here) : Along P here := by
  have empty : Along P [] := fun _ _ member => by cases member
  unfold origin? at h
  split at h
  · cases h
    exact empty
  · obtain ⟨standing, found, rfl⟩ := Option.map_eq_some_iff.mp h
    have along := along_along? inherited empty found
    exact along.removed _

/-- What the root and removed directories have and entries inherit is had by all that a path leads
to. -/
theorem Inherited.stat (inherited : Inherited fs P) {p : Path} {node : Node}
    (h : fs.stat p = .ok node) : P node := by
  unfold FileSystem.stat at h
  cases found : fs.find p with
  | error e =>
    rw [found] at h
    cases h
  | ok trail =>
    rw [found] at h
    cases h
    refine inherited.nodeAt ?_
    unfold find at found
    split at found
    · cases found
    · split at found
      · cases found
      · split at found
        · cases found
        · split at found
          · rename_i here origin
            cases walked : fs.walk linkLimit here p.steps with
            | error e =>
              rw [walked] at found
              cases found
            | ok place =>
              rw [walked] at found
              cases found
              exact along_walk inherited (along_origin inherited origin) walked
          · cases found

end ModuleImport.FileSystem
