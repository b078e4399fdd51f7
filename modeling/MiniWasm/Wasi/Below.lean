import MiniWasm.Wasi.Attenuation
import MiniWasm.Wasi.Identity

/-!
# Paths below a directory

A path is a list of components.  A path that a guest may pass has only components that
name something, so joined to the path of a directory it leads strictly below it, and the
paths of all entries and of all open directories are such paths again.
-/

namespace MiniWasm.Wasi

open Library Action MiniWasm.Runtime FilesystemState

/-! ## Components -/

/-- The names that lead from the root of a preopen to the path. -/
def components (path : Path) : List Path :=
  if path = [] then [] else path.splitOn slash

@[simp] theorem components_nil : components [] = [] :=
  rfl

theorem components_of_ne_nil {path : Path} (named : path ≠ []) :
    components path = path.splitOn slash :=
  if_neg named

theorem components_ne_nil {path : Path} (named : path ≠ []) : components path ≠ [] := by
  rw [components_of_ne_nil named]
  exact List.splitOn_ne_nil slash path

/-- The components of a prefix that ends before a separator come first. -/
theorem components_append {base rest : Path} (named : base ≠ []) :
    components (base ++ slash :: rest) = components base ++ rest.splitOn slash := by
  rw [components_of_ne_nil (by simp), components_of_ne_nil named,
    List.splitOn_append_cons_self]

theorem components_joinRelative {base path : Path} (named : path ≠ []) :
    components (joinRelative base path) = components base ++ components path := by
  unfold joinRelative
  split_ifs with root
  · rw [root, components_nil, List.nil_append]
  · rw [components_append root, components_of_ne_nil named]

/-- What a guest may pass as a path: names separated by single slashes, none of which
stays in a directory or leaves it. -/
structure WellFormed (path : Path) : Prop where
  nonempty : path ≠ []
  bounded : path.length ≤ maxRelativePathBytes
  relative : path.head? ≠ some slash
  noNul : 0 ∉ path
  safe : ∀ component ∈ components path,
    component ≠ [] ∧ component ≠ [dot] ∧ component ≠ [dot, dot]

theorem unsafeComponent_iff {component : Path} :
    unsafeComponent component = false ↔
      component ≠ [] ∧ component ≠ [dot] ∧ component ≠ [dot, dot] := by
  simp [unsafeComponent]

/-- A path that ends with a separator has an empty component. -/
theorem nil_mem_components {path : Path} (trailing : path.getLast? = some slash) :
    [] ∈ components path := by
  obtain ⟨rest, rfl⟩ := List.getLast?_eq_some_iff.mp trailing
  rw [components_of_ne_nil (by simp), List.splitOn_append_cons_self]
  simp

theorem validateGuestPath_iff {path : Path} :
    validateGuestPath path = .ok () ↔ WellFormed path := by
  have safe_iff : path ≠ [] → (¬ (path.splitOn slash).any unsafeComponent = true ↔
      ∀ component ∈ components path,
        component ≠ [] ∧ component ≠ [dot] ∧ component ≠ [dot, dot]) := by
    intro nonempty
    rw [components_of_ne_nil nonempty, Bool.not_eq_true, List.any_eq_false]
    simp only [Bool.not_eq_true, unsafeComponent_iff]
  unfold validateGuestPath
  constructor
  · intro valid
    split_ifs at valid with empty long shape anyUnsafe
    simp only [not_or] at shape
    exact ⟨empty, Nat.le_of_not_lt long, shape.1, shape.2.2, (safe_iff empty).mp anyUnsafe⟩
  · rintro ⟨nonempty, bounded, relative, noNul, safe⟩
    have noTrailing : path.getLast? ≠ some slash :=
      fun trailing => (safe [] (nil_mem_components trailing)).1 rfl
    rw [if_neg nonempty, if_neg (Nat.not_lt.mpr bounded),
      if_neg (by simp only [not_or]; exact ⟨relative, noTrailing, noNul⟩),
      if_neg ((safe_iff nonempty).mpr safe)]

/-- A path joined to the root or to a path of the same form. -/
theorem WellFormed.join {base path : Path} (named : WellFormed path)
    (under : base = [] ∨ WellFormed base)
    (bounded : (joinRelative base path).length ≤ maxRelativePathBytes) :
    WellFormed (joinRelative base path) := by
  rcases under with rfl | base'
  · exact named
  · have joined : joinRelative base path = base ++ slash :: path := if_neg base'.nonempty
    refine ⟨joinRelative_ne_nil named.nonempty, bounded, ?_, ?_, ?_⟩
    · rw [joined, List.head?_append_of_ne_nil _ base'.nonempty]
      exact base'.relative
    · rw [joined, List.mem_append, List.mem_cons]
      rintro (inBase | separator | inPath)
      · exact base'.noNul inBase
      · exact absurd separator (by decide)
      · exact named.noNul inPath
    · intro component member
      rw [components_joinRelative named.nonempty, List.mem_append] at member
      exact member.elim (base'.safe component) (named.safe component)

/-! ## Strictly below -/

/-- The entry is in the preopen of the directory, and more names lead to it than to the
directory, which come first. -/
def Location.StrictlyBelow (entry base : Location) : Prop :=
  entry.preopenFd = base.preopenFd ∧
    components base.relativePath <+: components entry.relativePath ∧
    components entry.relativePath ≠ components base.relativePath

instance (entry base : Location) : Decidable (entry.StrictlyBelow base) :=
  inferInstanceAs (Decidable (_ ∧ _))

/-- The location that a path names in a directory. -/
def Location.at (base : Location) (path : Path) : Location :=
  { base with relativePath := joinRelative base.relativePath path }

/-- A path relative to a directory is what the entry has behind it. -/
theorem relativeToDirectory_iff {base entry : Location} {remainder : Path}
    (same : entry.preopenFd = base.preopenFd) :
    relativeToDirectory base.relativePath entry.relativePath = some remainder ↔
      entry = base.at remainder := by
  obtain ⟨number, path⟩ := entry
  obtain ⟨baseNumber, basePath⟩ := base
  dsimp only at same
  subst same
  unfold relativeToDirectory Location.at joinRelative
  by_cases root : basePath = []
  · simp [root]
  · simp only [root, if_false, Location.mk.injEq, true_and]
    split_ifs with starts
    · obtain ⟨rest, rfl⟩ := starts
      simp [directoryPrefix]
    · constructor
      · intro found
        cases found
      · rintro rfl
        exact absurd ⟨remainder, by simp [directoryPrefix]⟩ starts

theorem Location.at_strictlyBelow {base : Location} {path : Path} (named : path ≠ []) :
    (base.at path).StrictlyBelow base := by
  have joined : components (base.at path).relativePath =
      components base.relativePath ++ components path := components_joinRelative named
  refine ⟨rfl, ?_, ?_⟩
  · rw [joined]
    exact List.prefix_append ..
  · rw [joined]
    intro same
    exact components_ne_nil named (List.append_right_eq_self.mp same)

/-! ## Stored paths -/

/-- The paths of all entries and of all open directories are ones that a guest may
pass. -/
structure FilesystemState.PathsValid (state : FilesystemState) : Prop where
  entries : ∀ location ∈ state.locations, validateGuestPath location.relativePath = .ok ()
  directories : ∀ fd opened, state.openDirectories.lookup fd = some opened →
    validateGuestPath opened.relativePath = .ok ()

/-- The descriptors and paths that an operation is given. -/
def Operation.places : Operation → List (Nat × Path)
  | .openFile dirFd path _ _ | .openDirectory dirFd path _ | .createDirectory dirFd path
  | .removeDirectory dirFd path | .symlink dirFd path _ | .unlink dirFd path
  | .pathSetTimes dirFd path _ => [(dirFd, path)]
  | .link oldDirFd oldPath newDirFd newPath => [(oldDirFd, oldPath), (newDirFd, newPath)]
  | .rename old new => [(old.preopenFd, old.relativePath), (new.preopenFd, new.relativePath)]
  | _ => []

section Paths

variable {state after : FilesystemState}

theorem FilesystemState.PathsValid.base (valid : state.PathsValid) {fd : Nat} {base : Location}
    {rights : Rights} (context : state.directoryContext fd = some (base, rights)) :
    base.relativePath = [] ∨ WellFormed base.relativePath := by
  unfold directoryContext at context
  split_ifs at context with preopened
  · obtain ⟨granted, -, same⟩ := Option.map_eq_some_iff.mp context
    cases same
    exact .inl rfl
  · obtain ⟨opened, found, same⟩ := Option.map_eq_some_iff.mp context
    cases same
    exact .inr (validateGuestPath_iff.mp (valid.directories fd opened found))

theorem resolved_at {fd : Nat} {path : Path} {required rights : Rights} {location : Location}
    (resolved : state.resolveDirectoryPath fd path required = .ok (location, rights)) :
    ∃ base, state.directoryContext fd = some (base, rights) ∧ location = base.at path ∧
      location.relativePath.length ≤ maxRelativePathBytes := by
  unfold resolveDirectoryPath at resolved
  split at resolved
  · cases resolved
  · next base rights' context =>
    dsimp only at resolved
    split_ifs at resolved with denied long
    cases resolved
    exact ⟨base, context, rfl, Nat.le_of_not_lt long⟩

/-- What a descriptor and a path resolve to. -/
theorem FilesystemState.PathsValid.resolved (valid : state.PathsValid) {fd : Nat} {path : Path}
    {required rights : Rights} {location : Location}
    (named : validateGuestPath path = .ok ())
    (resolved : state.resolveDirectoryPath fd path required = .ok (location, rights)) :
    validateGuestPath location.relativePath = .ok () := by
  obtain ⟨base, context, rfl, bounded⟩ := resolved_at resolved
  exact validateGuestPath_iff.mpr
    ((validateGuestPath_iff.mp named).join (valid.base context) bounded)

/-- Entries come only from valid paths. -/
theorem FilesystemState.PathsValid.step (valid : state.PathsValid)
    (entries : ∀ location ∈ after.locations, location ∈ state.locations ∨
      validateGuestPath location.relativePath = .ok ())
    (directories : ∀ fd opened, after.openDirectories.lookup fd = some opened →
      state.openDirectories.lookup fd = some opened ∨
        validateGuestPath opened.relativePath = .ok ()) : after.PathsValid where
  entries location member := (entries location member).elim (valid.entries location) id
  directories fd opened found :=
    (directories fd opened found).elim (valid.directories fd opened) id

theorem FilesystemState.PathsValid.files (valid : state.PathsValid) {location : Location}
    (named : validateGuestPath location.relativePath = .ok ())
    (directories : after.mountedDirectories = state.mountedDirectories)
    (symlinks : after.mountedSymlinks = state.mountedSymlinks)
    (openDirectories : after.openDirectories = state.openDirectories)
    (grown : ∀ other, other ∈ after.mountedFiles.map (·.toLocation) →
      other ∈ state.mountedFiles.map (·.toLocation) ∨ other = location) : after.PathsValid := by
  apply valid.step
  · intro entry member
    refine (mem_locations_files state member directories symlinks grown).imp id ?_
    rintro rfl
    exact named
  · intro fd opened found
    rw [openDirectories] at found
    exact .inl found

/-- Every change that is made under valid paths keeps all paths valid. -/
theorem Effect.pathsValid {operation : Operation} (effect : Effect state operation after)
    (valid : state.PathsValid)
    (named : ∀ place ∈ operation.places, validateGuestPath place.2 = .ok ()) :
    after.PathsValid := by
  have fewer : ∀ {fewer : FilesystemState},
      fewer.mountedFiles.map (·.toLocation) ⊆ state.mountedFiles.map (·.toLocation) →
      fewer.mountedDirectories.map (·.toLocation) ⊆
        state.mountedDirectories.map (·.toLocation) →
      fewer.mountedSymlinks.map (·.toLocation) ⊆ state.mountedSymlinks.map (·.toLocation) →
      fewer.openDirectories = state.openDirectories → fewer.PathsValid := by
    intro fewer files directories symlinks openDirectories
    apply valid.step
    · exact fun location member =>
        .inl (mem_locations_of_subset member files directories symlinks)
    · intro fd opened found
      rw [openDirectories] at found
      exact .inl found
  have all {α : Type} (entries : List α) : entries ⊆ entries := List.Subset.refl entries
  cases effect with
  | opened opens =>
    cases opens with
    | file => exact fewer (all _) (all _) (all _) rfl
    | created resolved =>
      exact valid.files (valid.resolved (named _ List.mem_cons_self) resolved) rfl rfl rfl
        fun other => mem_map_append
    | directory resolved =>
      apply valid.step
      · exact fun location => .inl
      · intro other opened found
        rcases lookup_insert_cases found with ⟨-, rfl⟩ | ⟨-, old⟩
        · exact .inr (valid.resolved (named _ List.mem_cons_self) resolved)
        · exact .inl old
  | closed =>
    apply valid.step
    · exact fun location => .inl
    · exact fun other opened found => .inl (lookup_erase_some found).2
  | createdDirectory resolved =>
    apply valid.step
    · intro entry member
      simp only [locations, List.map_append, List.mem_append, List.map_singleton,
        List.mem_singleton] at member ⊢
      rcases member with (file | old | rfl) | symlink
      · exact .inl (.inl (.inl file))
      · exact .inl (.inl (.inr old))
      · exact .inr (valid.resolved (named _ List.mem_cons_self) resolved)
      · exact .inl (.inr symlink)
    · exact fun other opened => .inl
  | createdSymlink resolved =>
    apply valid.step
    · intro entry member
      simp only [locations, List.map_append, List.mem_append, List.map_singleton,
        List.mem_singleton] at member ⊢
      rcases member with old | old | rfl
      · exact .inl (.inl old)
      · exact .inl (.inr old)
      · exact .inr (valid.resolved (named _ List.mem_cons_self) resolved)
    · exact fun other opened => .inl
  | linked oldResolved newResolved =>
    exact valid.files
      (valid.resolved (named _ (List.mem_cons_of_mem _ List.mem_cons_self)) newResolved) rfl rfl
      rfl fun other => mem_map_append
  | renamed =>
    exact valid.files (named _ (List.mem_cons_of_mem _ List.mem_cons_self)) rfl rfl rfl
      mem_relocate
  | replaced =>
    exact valid.files (named _ (List.mem_cons_of_mem _ List.mem_cons_self)) rfl rfl rfl
      fun other erased => mem_relocate other (((List.eraseIdx_sublist ..).map _).subset erased)
  | removedDirectory =>
    exact fewer (all _) ((List.eraseIdx_sublist ..).map _).subset (all _) rfl
  | unlinked => exact fewer ((List.eraseIdx_sublist ..).map _).subset (all _) (all _) rfl
  | unlinkedSymlink => exact fewer (all _) (all _) ((List.eraseIdx_sublist ..).map _).subset rfl
  | stampedDirectory => exact fewer (all _) (map_modify_subset fun _ => rfl) (all _) rfl
  | stampedSymlink => exact fewer (all _) (all _) (map_modify_subset fun _ => rfl) rfl
  | _ => exact fewer (all _) (all _) (all _) rfl

end Paths

/-! ## Runs -/

/-- The descriptors of directories and the places of paths among the arguments of a call. -/
def Call.pathArguments : Call → List (Nat × Nat × Nat)
  | .pathCreateDirectory dirFd path length | .pathRemoveDirectory dirFd path length
  | .pathSymlink _ _ dirFd path length | .pathReadlink dirFd path length _ _ _
  | .pathFilestatGet dirFd _ path length _ | .pathFilestatSetTimes dirFd _ path length _ _ _
  | .pathOpen dirFd _ path length _ _ _ _ _ | .pathUnlinkFile dirFd path length =>
      [(dirFd.toNat, path.toNat, length.toNat)]
  | .pathLink oldFd _ oldPath oldLength newFd newPath newLength
  | .pathRename oldFd oldPath oldLength newFd newPath newLength =>
      [(oldFd.toNat, oldPath.toNat, oldLength.toNat), (newFd.toNat, newPath.toNat, newLength.toNat)]
  | _ => []

theorem pathArgument_valid {memory : Option LinearMemory} {pointer length : Nat} {path : Path}
    (named : pathArgument memory pointer length = some path) :
    validateGuestPath path = .ok () := by
  obtain ⟨found, -, named⟩ := Option.bind_eq_some_iff.mp named
  split at named
  · cases named
  · dsimp only at named
    split_ifs at named with refused
    cases named
    exact not_not.mp (not_or.mp refused).2

/-- An operation is given what the call that asks for it names. -/
theorem asks_places {memory : Option LinearMemory} {call : Call} {operation : Operation}
    (asked : operation = .nothing ∨ Asks memory call operation) :
    ∀ place ∈ operation.places, ∃ pointer length,
      (place.1, pointer, length) ∈ call.pathArguments ∧
        pathArgument memory pointer length = some place.2 := by
  rcases asked with rfl | asked
  · intro place member
    cases member
  · intro place member
    cases call with
    | pathCreateDirectory dirFd path length =>
      obtain ⟨name, named, rfl⟩ := asked
      rw [List.mem_singleton.mp member]
      exact ⟨_, _, List.mem_singleton_self _, named⟩
    | pathRemoveDirectory dirFd path length =>
      obtain ⟨name, named, rfl⟩ := asked
      rw [List.mem_singleton.mp member]
      exact ⟨_, _, List.mem_singleton_self _, named⟩
    | pathSymlink target targetLength dirFd path length =>
      obtain ⟨name, target, named, rfl⟩ := asked
      rw [List.mem_singleton.mp member]
      exact ⟨_, _, List.mem_singleton_self _, named⟩
    | pathFilestatSetTimes dirFd flags path length =>
      obtain ⟨name, update, named, rfl⟩ := asked
      rw [List.mem_singleton.mp member]
      exact ⟨_, _, List.mem_singleton_self _, named⟩
    | pathUnlinkFile dirFd path length =>
      obtain ⟨name, named, rfl⟩ := asked
      rw [List.mem_singleton.mp member]
      exact ⟨_, _, List.mem_singleton_self _, named⟩
    | pathOpen dirFd dirFlags path length =>
      obtain ⟨name, named, -, ⟨-, rfl⟩ | ⟨-, options, rfl⟩⟩ := asked
      · rw [List.mem_singleton.mp member]
        exact ⟨_, _, List.mem_singleton_self _, named⟩
      · rw [List.mem_singleton.mp member]
        exact ⟨_, _, List.mem_singleton_self _, named⟩
    | pathLink =>
      obtain ⟨oldName, newName, oldNamed, newNamed, rfl⟩ := asked
      rcases List.mem_cons.mp member with rfl | last
      · exact ⟨_, _, List.mem_cons_self, oldNamed⟩
      · rw [List.mem_singleton.mp last]
        exact ⟨_, _, List.mem_cons_of_mem _ List.mem_cons_self, newNamed⟩
    | pathRename =>
      obtain ⟨oldName, newName, oldNamed, newNamed, rfl⟩ := asked
      rcases List.mem_cons.mp member with rfl | last
      · exact ⟨_, _, List.mem_cons_self, oldNamed⟩
      · rw [List.mem_singleton.mp last]
        exact ⟨_, _, List.mem_cons_of_mem _ List.mem_cons_self, newNamed⟩
    | fdWrite | fdRead =>
      obtain rfl | ⟨_, rfl⟩ := asked <;> cases member
    | fdPwrite | fdSeek | fdFilestatSetTimes =>
      obtain ⟨_, rfl⟩ := asked
      cases member
    | _ =>
      cases asked
      cases member

theorem FilesystemState.PathsValid.afterCall (config : Config) {state : WasiState}
    (coherent : state.Coherent) (valid : state.filesystem.PathsValid) (request : Request) :
    (afterCall config state request).filesystem.PathsValid := by
  obtain ⟨operation, asked, performed⟩ := afterCall_performs config coherent request
  apply performed.effect.pathsValid valid
  intro place member
  obtain ⟨pointer, length, -, named⟩ := asks_places asked place member
  exact pathArgument_valid named

/-- Mounting checks the path of the file. -/
theorem Mounted.pathsValid {wasi : Preview1} (mounted : Mounted wasi) :
    wasi.state.filesystem.PathsValid := by
  have configured := mounted.configured
  constructor
  · apply mounted.keeps (motive := fun state => ∀ location ∈ state.locations,
      validateGuestPath location.relativePath = .ok ())
    · intro location member
      cases member
    · intro state fd writable valid
      exact valid
    · intro state after location bytes writable valid mounts entry member
      have same := (mountFile_ok mounts).1
      unfold mountFile at mounts
      obtain ⟨_, named, -⟩ := bind_ok.mp mounts
      subst same
      rcases mem_locations_files state member rfl rfl fun other => mem_map_append with old | rfl
      · exact valid entry old
      · unfold validateConfiguredPath at named
        cases result : validateGuestPath entry.relativePath with
        | ok => rfl
        | error err =>
          rw [result] at named
          cases named
  · intro fd opened found
    rw [configured.noOpenDirectory] at found
    cases found

/-- All paths are valid in every state that calls lead to. -/
theorem Mounted.paths_stay_valid {wasi : Preview1} (mounted : Mounted wasi)
    (requests : List Request) :
    (afterCalls wasi.config wasi.state requests).filesystem.PathsValid :=
  (afterCalls_keeps wasi.config (motive := fun state => state.filesystem.PathsValid)
    (fun _ request coherent valid => valid.afterCall wasi.config coherent request) requests
    mounted.coherent mounted.pathsValid).2

end MiniWasm.Wasi
