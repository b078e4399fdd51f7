import Mathlib.Data.List.Forall2

/-!
# Index spaces

The entries of one kind that a module can refer to by a number: those among its imports that
declare something of the kind, in their order, and then its own definitions.  An entry keeps
where it comes from, so two lookups that find it have found the same thing.
-/

namespace MiniWasm.Library

/-- A position among the imports, of whatever kind they are, or among the definitions. -/
inductive Origin where
  | imported (position : Nat)
  | defined (position : Nat)
  deriving DecidableEq, Repr

variable {ι α β : Type}

/-- The imports that declare something, from a position on. -/
def importedFrom (declared : ι → Option α) : (position : Nat) → List ι → List (Origin × α)
  | _, [] => []
  | position, entry :: rest =>
      match declared entry with
      | some type => (.imported position, type) :: importedFrom declared (position + 1) rest
      | none => importedFrom declared (position + 1) rest

/-- The imports that declare something, each with what it declares. -/
def declarations (declared : ι → Option α) (imports : List ι) : List (ι × α) :=
  imports.filterMap fun entry => (declared entry).map (entry, ·)

def indexSpace (declared : ι → Option α) (imports : List ι) (definitions : List α) :
    List (Origin × α) :=
  importedFrom declared 0 imports ++
    definitions.mapIdx fun position type => (.defined position, type)

section IndexSpace

variable (declared : ι → Option α)

theorem importedFrom_types (position : Nat) (imports : List ι) :
    (importedFrom declared position imports).map Prod.snd = imports.filterMap declared := by
  induction imports generalizing position with
  | nil => rfl
  | cons entry rest ih =>
    unfold importedFrom
    rw [List.filterMap_cons]
    cases declared entry with
    | none => exact ih _
    | some type =>
      dsimp only
      rw [List.map_cons, ih]

/-- What an index stands for does not depend on how the imports of the kinds interleave. -/
theorem indexSpace_types (imports : List ι) (definitions : List α) :
    (indexSpace declared imports definitions).map Prod.snd =
      imports.filterMap declared ++ definitions := by
  unfold indexSpace
  rw [List.map_append, importedFrom_types]
  congr 1
  apply List.ext_getElem?
  intro index
  rw [List.getElem?_map, List.getElem?_mapIdx]
  cases definitions[index]? <;> rfl

theorem indexSpace_length (imports : List ι) (definitions : List α) :
    (indexSpace declared imports definitions).length =
      (imports.filterMap declared).length + definitions.length := by
  rw [← List.length_map Prod.snd, indexSpace_types, List.length_append]

theorem declarations_types (imports : List ι) :
    (declarations declared imports).map Prod.snd = imports.filterMap declared := by
  rw [declarations, List.map_filterMap]
  congr 1
  funext entry
  cases declared entry <;> rfl

theorem declared_of_mem {imports : List ι} {entry : ι} {type : α}
    (member : (entry, type) ∈ declarations declared imports) : declared entry = some type := by
  obtain ⟨other, -, declares⟩ := List.mem_filterMap.mp member
  obtain ⟨found, same, pair⟩ := Option.map_eq_some_iff.mp declares
  cases pair
  exact same

theorem importedFrom_lookup {imports : List ι} {start index : Nat} {origin : Origin} {type : α}
    (found : (importedFrom declared start imports)[index]? = some (origin, type)) :
    ∃ position entry, origin = .imported (start + position) ∧
      imports[position]? = some entry ∧ declared entry = some type ∧
      (declarations declared imports)[index]? = some (entry, type) := by
  induction imports generalizing start index with
  | nil => cases found
  | cons entry rest ih =>
    unfold importedFrom at found
    cases declares : declared entry with
    | none =>
      rw [declares] at found
      obtain ⟨position, other, rfl, at_, declared_, listed⟩ := ih found
      refine ⟨position + 1, other, by rw [Nat.add_assoc, Nat.add_comm 1], at_, declared_, ?_⟩
      rw [declarations, List.filterMap_cons, declares]
      exact listed
    | some first =>
      rw [declares] at found
      cases index with
      | zero =>
        cases found
        refine ⟨0, entry, rfl, rfl, declares, ?_⟩
        rw [declarations, List.filterMap_cons, declares]
        rfl
      | succ index =>
        obtain ⟨position, other, rfl, at_, declared_, listed⟩ := ih found
        refine ⟨position + 1, other, by rw [Nat.add_assoc, Nat.add_comm 1], at_, declared_, ?_⟩
        rw [declarations, List.filterMap_cons, declares]
        exact listed

theorem importedFrom_length (position : Nat) (imports : List ι) :
    (importedFrom declared position imports).length = (declarations declared imports).length := by
  rw [← List.length_map Prod.snd, importedFrom_types, ← declarations_types, List.length_map]

/-- An entry of the space among the imports of the kind, or behind them. -/
theorem indexSpace_lookup {imports : List ι} {definitions : List α} {index : Nat}
    {origin : Origin} {type : α}
    (found : (indexSpace declared imports definitions)[index]? = some (origin, type)) :
    (∃ position entry, origin = .imported position ∧ imports[position]? = some entry ∧
      declared entry = some type ∧
      (declarations declared imports)[index]? = some (entry, type)) ∨
    ∃ position, origin = .defined position ∧ definitions[position]? = some type ∧
      index = (declarations declared imports).length + position := by
  unfold indexSpace at found
  rw [List.getElem?_append, importedFrom_length] at found
  split_ifs at found with inside
  · obtain ⟨position, entry, same, at_, declares, listed⟩ := importedFrom_lookup declared found
    rw [Nat.zero_add] at same
    exact .inl ⟨position, entry, same, at_, declares, listed⟩
  · rw [List.getElem?_mapIdx] at found
    obtain ⟨definition, at_, same⟩ := Option.map_eq_some_iff.mp found
    cases same
    exact .inr ⟨_, rfl, at_, by omega⟩

/-- An imported entry of the space: the import it comes from, and its place among the imports
of the kind. -/
theorem indexSpace_imported {imports : List ι} {definitions : List α} {index position : Nat}
    {type : α}
    (found : (indexSpace declared imports definitions)[index]? = some (.imported position, type)) :
    ∃ entry, imports[position]? = some entry ∧ declared entry = some type ∧
      (declarations declared imports)[index]? = some (entry, type) := by
  obtain ⟨_, entry, same, rest⟩ | ⟨_, same, -⟩ := indexSpace_lookup declared found
  · cases same
    exact ⟨entry, rest⟩
  · cases same

/-- A defined entry of the space: its place among the definitions, behind the imports. -/
theorem indexSpace_defined {imports : List ι} {definitions : List α} {index position : Nat}
    {type : α}
    (found : (indexSpace declared imports definitions)[index]? = some (.defined position, type)) :
    definitions[position]? = some type ∧
      index = (declarations declared imports).length + position := by
  obtain ⟨_, _, same, -⟩ | ⟨_, same, rest⟩ := indexSpace_lookup declared found
  · cases same
  · cases same
    exact rest

end IndexSpace

end MiniWasm.Library
