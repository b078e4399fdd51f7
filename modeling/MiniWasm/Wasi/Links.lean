import MiniWasm.Wasi.Histories

/-!
# Links and inodes

An inode stands for one object for as long as the object can be reached, by a name
or by an open descriptor, and the link count of a file is the number of its names.
-/

namespace MiniWasm.Wasi

open Library Action MiniWasm.Runtime

/-! ## Objects -/

namespace FilesystemState

variable (state : FilesystemState)

/-- The files that the namespace names, one for each name. -/
def names : List FileNode :=
  state.mountedFiles.map (·.toFileNode)

/-- A file that has a name or is open. -/
def Carries (node : FileNode) : Prop :=
  node ∈ state.names ∨ ∃ fd file, state.openFiles.lookup fd = some file ∧ file.toFileNode = node

/-- The number of names that carry an inode. -/
def nameCount (inode : Nat) : Nat :=
  (state.names.map (·.inode)).count inode

/-- The cells of a file have been handed out. -/
structure Allocated : Prop where
  bytes : ∀ node, state.Carries node → node.bytes < state.bytes.size
  linkCount : ∀ node, state.Carries node → node.linkCount < state.linkCounts.size
  times : ∀ node, state.Carries node → node.times < state.times.size

/-- Two files share their inode or a cell. -/
def Shares (left right : FileNode) : Prop :=
  left.inode = right.inode ∨ left.bytes = right.bytes ∨ left.linkCount = right.linkCount ∨
    left.times = right.times

/-- What can be reached under an inode. -/
inductive Object where
  | file (node : FileNode)
  | directory (location : Location)
  | symlink (location : Location)

def Holds (inode : Nat) : Object → Prop
  | .file node => state.Carries node ∧ node.inode = inode
  | .directory location =>
      (∃ directory ∈ state.mountedDirectories,
        directory.toLocation = location ∧ directory.inode = inode) ∨
      ∃ fd directory, state.openDirectories.lookup fd = some directory ∧
        directory.toLocation = location ∧ directory.inode = inode
  | .symlink location =>
      ∃ link ∈ state.mountedSymlinks, link.toLocation = location ∧ link.inode = inode

/-- An inode stands for one object, and the ones that have been given out are those up
to the counter. -/
structure Numbered : Prop where
  bounded : ∀ inode object, state.Holds inode object → inode ≤ state.nextInode
  distinct : ∀ inode left right, state.Holds inode left → state.Holds inode right →
    left = right

/-- Files that share anything are one file, and its link count counts its names. -/
structure Linked : Prop where
  allocated : state.Allocated
  shares : ∀ left right, state.Carries left → state.Carries right → Shares left right →
    left = right
  counted : ∀ node, state.Carries node →
    state.linkCounts.get node.linkCount = state.nameCount node.inode

/-- The inode and the cells of the next file. -/
def freshNode : FileNode where
  inode := state.nextInode + 1
  bytes := state.bytes.size
  linkCount := state.linkCounts.size
  times := state.times.size

end FilesystemState

open FilesystemState

/-! ## Changes of the names -/

/-- The change makes a file with one name. -/
structure Creates (before after : FilesystemState) : Prop where
  names : after.names = before.names ++ [before.freshNode]
  numbers : after.nextInode = before.nextInode + 1
  bytes : before.bytes.size < after.bytes.size
  times : before.times.size < after.times.size
  counts : after.linkCounts = (before.linkCounts.alloc 1).2

/-- What a change of the filesystem does to the names of files and to the counters. -/
inductive NamesChange (before after : FilesystemState) : Prop where
  | kept (names : after.names = before.names)
      (counts : ∀ address, address < before.linkCounts.size →
        after.linkCounts.get address = before.linkCounts.get address)
  | created (creates : Creates before after)
  | added {node : FileNode} (member : node ∈ before.names)
      (names : after.names = before.names ++ [node])
      (counts : after.linkCounts =
        before.linkCounts.set node.linkCount (before.linkCounts.get node.linkCount + 1))
  | dropped {node : FileNode} {index links : Nat} (found : before.names[index]? = some node)
      (names : after.names = before.names.eraseIdx index)
      (counted : before.linkCounts.get node.linkCount = links + 1)
      (counts : after.linkCounts = before.linkCounts.set node.linkCount links)

/-- What a change of the filesystem does to its files. -/
structure FilesChange (before after : FilesystemState) : Prop where
  names : NamesChange before after
  opens : ∀ fd file, after.openFiles.lookup fd = some file →
    file.toFileNode ∈ after.names ∨ before.Carries file.toFileNode
  numbers : before.nextInode ≤ after.nextInode
  bytes : before.bytes.size ≤ after.bytes.size
  linkCounts : before.linkCounts.size ≤ after.linkCounts.size
  times : before.times.size ≤ after.times.size

namespace FilesChange

variable {before after : FilesystemState}

/-- A change that does not concern the files. -/
theorem unconcerned (names : after.mountedFiles = before.mountedFiles)
    (opens : after.openFiles = before.openFiles)
    (numbers : before.nextInode ≤ after.nextInode) (bytes : after.bytes = before.bytes)
    (linkCounts : after.linkCounts = before.linkCounts) (times : after.times = before.times) :
    FilesChange before after where
  names := .kept (by rw [FilesystemState.names, names]; rfl) fun address _ => by rw [linkCounts]
  opens fd file found := .inr (.inr ⟨fd, file, opens ▸ found, rfl⟩)
  numbers := numbers
  bytes := Nat.le_of_eq (by rw [bytes])
  linkCounts := Nat.le_of_eq (by rw [linkCounts])
  times := Nat.le_of_eq (by rw [times])

end FilesChange

theorem mem_names {state : FilesystemState} {location : Location} {file : MountedFile}
    (found : state.fileAt location = some file) : file.toFileNode ∈ state.names :=
  List.mem_map_of_mem (List.mem_of_find?_eq_some found)

theorem getElem?_names {state : FilesystemState} {location : Location} {file : MountedFile}
    {index : Nat} (indexed : state.mountedFiles.findIdx? (·.toLocation = location) = some index)
    (found : state.fileAt location = some file) :
    state.names[index]? = some file.toFileNode := by
  have located := getElem?_of_findIdx? indexed
  rw [names, List.getElem?_map, located]
  exact congrArg (Option.map _) found

theorem names_relocate {files : List MountedFile} {index : Nat} {location : Location} :
    (relocate files index location).map (·.toFileNode) = files.map (·.toFileNode) :=
  map_modify fun _ => rfl

theorem lookup_names {state : FilesystemState} {fd : Nat} {file : OpenFile}
    (found : state.openFiles.lookup fd = some file) : state.Carries file.toFileNode :=
  .inr ⟨fd, file, found, rfl⟩

/-- The record of an open file is replaced by one of the same file. -/
theorem opens_insert {before : FilesystemState} {fd : Nat} {file changed : OpenFile}
    (found : before.openFiles.lookup fd = some file) {other : Nat} {opened : OpenFile}
    (lookup : (before.openFiles.insert fd changed).lookup other = some opened)
    (same : changed.toFileNode = file.toFileNode) :
    before.Carries opened.toFileNode := by
  rcases lookup_insert_cases lookup with ⟨-, rfl⟩ | ⟨-, lookup⟩
  · rw [same]
    exact lookup_names found
  · exact lookup_names lookup

theorem Opened.files {before after : FilesystemState} {operation : Operation} {fd : Nat}
    (opens : Opened before operation fd after) : FilesChange before after := by
  cases opens with
  | @file _ _ _ _ _ _ location file bytes resolved allocated found admitted truncated =>
    have size : bytes.size = before.bytes.size := by
      rcases truncated with rfl | ⟨rfl, -⟩ <;> rfl
    refine ⟨.kept rfl fun _ _ => rfl, ?_, le_rfl, size.ge, le_rfl, le_rfl⟩
    intro other opened lookup
    rcases lookup_insert_cases lookup with ⟨-, rfl⟩ | ⟨-, lookup⟩
    · exact .inl (mem_names found)
    · exact .inr (lookup_names lookup)
  | @created _ _ _ _ _ _ location bytes resolved allocated create mayCreate free parent writable
      truncated =>
    have size : bytes.size = before.bytes.size + 1 := by
      rcases truncated with rfl | rfl <;> rfl
    have names : (before.mountedFiles ++ [before.freshFile location]).map (·.toFileNode) =
        before.names ++ [before.freshNode] := by
      rw [List.map_append]
      rfl
    refine ⟨.created ⟨names, rfl, ?_, Nat.lt_succ_self _, rfl⟩, ?_, Nat.le_succ _, ?_,
      Nat.le_succ _, Nat.le_succ _⟩
    · dsimp only
      omega
    · intro other opened lookup
      rcases lookup_insert_cases lookup with ⟨-, rfl⟩ | ⟨-, lookup⟩
      · refine .inl ?_
        show (before.freshFile location).toFileNode ∈
          (before.mountedFiles ++ [before.freshFile location]).map (·.toFileNode)
        simp
      · exact .inr (lookup_names lookup)
    · dsimp only
      omega
  | directory => exact .unconcerned rfl rfl le_rfl rfl rfl rfl

theorem Effect.files {before after : FilesystemState} {operation : Operation}
    (effect : Effect before operation after) : FilesChange before after := by
  cases effect with
  | unchanged => exact .unconcerned rfl rfl le_rfl rfl rfl rfl
  | abandoned =>
    refine ⟨.kept rfl fun address allocated => Arena.get_alloc_of_lt _ _ allocated, ?_,
      Nat.le_succ _, Nat.le_succ _, Nat.le_succ _, Nat.le_succ _⟩
    intro fd file found
    exact .inr (lookup_names found)
  | opened opens => exact opens.files
  | closed =>
    refine ⟨.kept rfl fun _ _ => rfl, ?_, le_rfl, le_rfl, le_rfl, le_rfl⟩
    intro fd file found
    exact .inr (lookup_names (lookup_erase_some found).2)
  | createdDirectory => exact .unconcerned rfl rfl (Nat.le_succ _) rfl rfl rfl
  | removedDirectory => exact .unconcerned rfl rfl le_rfl rfl rfl rfl
  | createdSymlink => exact .unconcerned rfl rfl (Nat.le_succ _) rfl rfl rfl
  | @linked _ _ _ _ _ _ _ _ file oldResolved newResolved free parent found =>
    refine ⟨.added (mem_names found) ?_ rfl, fun fd opened lookup => .inr (lookup_names lookup),
      le_rfl, le_rfl, le_rfl, le_rfl⟩
    rw [names, List.map_append]
    rfl
  | renamed =>
    refine ⟨.kept names_relocate fun _ _ => rfl,
      fun fd opened lookup => .inr (lookup_names lookup), le_rfl, le_rfl, le_rfl, le_rfl⟩
  | replaced oldWritable newWritable noSymlink found sourceFound foundTarget targetFound
      different counted =>
    refine ⟨.dropped (getElem?_names foundTarget targetFound) ?_ counted rfl,
      fun fd opened lookup => .inr (lookup_names lookup), le_rfl, le_rfl, le_rfl, le_rfl⟩
    rw [names, ← List.eraseIdx_map, names_relocate]
    rfl
  | unlinked resolved found fileFound counted =>
    refine ⟨.dropped (getElem?_names found fileFound) ?_ counted rfl,
      fun fd opened lookup => .inr (lookup_names lookup), le_rfl, le_rfl, le_rfl, le_rfl⟩
    rw [names, ← List.eraseIdx_map]
    rfl
  | unlinkedSymlink => exact .unconcerned rfl rfl le_rfl rfl rfl rfl
  | contents subject found =>
    exact ⟨.kept rfl fun _ _ => rfl, fun fd opened lookup => .inr (opens_insert found lookup rfl),
      le_rfl, le_rfl, le_rfl, le_rfl⟩
  | resized =>
    exact ⟨.kept rfl fun _ _ => rfl, fun fd opened lookup => .inr (lookup_names lookup),
      le_rfl, le_rfl, le_rfl, le_rfl⟩
  | described subject found =>
    exact ⟨.kept rfl fun _ _ => rfl, fun fd opened lookup => .inr (opens_insert found lookup rfl),
      le_rfl, le_rfl, le_rfl, le_rfl⟩
  | stamped =>
    exact ⟨.kept rfl fun _ _ => rfl, fun fd opened lookup => .inr (lookup_names lookup),
      le_rfl, le_rfl, le_rfl, le_rfl⟩
  | stampedFile =>
    exact ⟨.kept rfl fun _ _ => rfl, fun fd opened lookup => .inr (lookup_names lookup),
      le_rfl, le_rfl, le_rfl, le_rfl⟩
  | stampedDirectory => exact .unconcerned rfl rfl le_rfl rfl rfl rfl
  | stampedSymlink => exact .unconcerned rfl rfl le_rfl rfl rfl rfl

/-! ## Link counts -/

section Linked

variable {before after : FilesystemState}

/-- A file that can be reached after a change could be reached before, or is the new one. -/
theorem FilesChange.carries (changes : FilesChange before after) {node : FileNode}
    (carried : after.Carries node) :
    before.Carries node ∨ node = before.freshNode ∧ Creates before after := by
  have named : node ∈ after.names →
      before.Carries node ∨ node = before.freshNode ∧ Creates before after := by
    intro member
    cases changes.names with
    | kept names counts => exact Or.inl (Or.inl (names ▸ member))
    | created creates =>
      rw [creates.names] at member
      rcases List.mem_append.mp member with old | new
      · exact Or.inl (Or.inl old)
      · exact Or.inr ⟨List.mem_singleton.mp new, creates⟩
    | added known names counts =>
      rw [names] at member
      rcases List.mem_append.mp member with old | new
      · exact Or.inl (Or.inl old)
      · exact Or.inl (Or.inl (List.mem_singleton.mp new ▸ known))
    | dropped found names counted counts =>
      rw [names] at member
      exact Or.inl (Or.inl (List.mem_of_mem_eraseIdx member))
  rcases carried with member | ⟨fd, file, found, rfl⟩
  · exact named member
  · rcases changes.opens fd file found with member | old
    · exact named member
    · exact .inl old

theorem FilesChange.allocated (changes : FilesChange before after)
    (allocated : before.Allocated) : after.Allocated := by
  constructor
  · intro node carried
    rcases changes.carries carried with old | ⟨rfl, creates⟩
    · exact (allocated.bytes node old).trans_le changes.bytes
    · exact creates.bytes
  · intro node carried
    rcases changes.carries carried with old | ⟨rfl, creates⟩
    · exact (allocated.linkCount node old).trans_le changes.linkCounts
    · rw [creates.counts]
      exact Nat.lt_succ_self _
  · intro node carried
    rcases changes.carries carried with old | ⟨rfl, creates⟩
    · exact (allocated.times node old).trans_le changes.times
    · exact creates.times

/-- The new file shares nothing with a file that could be reached before. -/
theorem freshNode_apart (allocated : before.Allocated)
    (bounded : ∀ node, before.Carries node → node.inode ≤ before.nextInode) {node : FileNode}
    (carried : before.Carries node) : ¬ Shares node before.freshNode := by
  rintro (inode | bytes | linkCount | times)
  · have := bounded node carried
    simp only [freshNode] at inode
    omega
  · exact absurd (allocated.bytes node carried) (by rw [bytes]; exact Nat.lt_irrefl _)
  · exact absurd (allocated.linkCount node carried) (by rw [linkCount]; exact Nat.lt_irrefl _)
  · exact absurd (allocated.times node carried) (by rw [times]; exact Nat.lt_irrefl _)

theorem shares_symm {left right : FileNode} (shares : Shares left right) : Shares right left := by
  rcases shares with inode | bytes | linkCount | times
  · exact .inl inode.symm
  · exact .inr (.inl bytes.symm)
  · exact .inr (.inr (.inl linkCount.symm))
  · exact .inr (.inr (.inr times.symm))

theorem FilesChange.shares (changes : FilesChange before after) (linked : before.Linked)
    (bounded : ∀ node, before.Carries node → node.inode ≤ before.nextInode)
    (left right : FileNode) (leftCarried : after.Carries left)
    (rightCarried : after.Carries right) (shares : Shares left right) : left = right := by
  rcases changes.carries leftCarried with leftOld | ⟨rfl, -⟩
  · rcases changes.carries rightCarried with rightOld | ⟨rfl, -⟩
    · exact linked.shares left right leftOld rightOld shares
    · exact absurd shares (freshNode_apart linked.allocated bounded leftOld)
  · rcases changes.carries rightCarried with rightOld | ⟨rfl, -⟩
    · exact absurd (shares_symm shares) (freshNode_apart linked.allocated bounded rightOld)
    · rfl

theorem nameCount_append {names : List FileNode} {node : FileNode} (inode : Nat) :
    ((names ++ [node]).map (·.inode)).count inode =
      (names.map (·.inode)).count inode + if node.inode = inode then 1 else 0 := by
  rw [List.map_append, List.count_append, List.map_singleton, List.count_singleton]
  simp only [beq_iff_eq]

theorem FilesChange.counted (changes : FilesChange before after) (linked : before.Linked)
    (bounded : ∀ node, before.Carries node → node.inode ≤ before.nextInode) (node : FileNode)
    (carried : after.Carries node) :
    after.linkCounts.get node.linkCount = after.nameCount node.inode := by
  unfold nameCount
  rcases changes.carries carried with old | ⟨rfl, creates⟩
  · have counted := linked.counted node old
    unfold nameCount at counted
    cases changes.names with
    | kept names counts =>
      rw [names, counts _ (linked.allocated.linkCount node old)]
      exact counted
    | created creates =>
      have different : before.freshNode.inode ≠ node.inode := by
        intro same
        exact freshNode_apart linked.allocated bounded old (.inl same.symm)
      rw [creates.names, creates.counts,
        Arena.get_alloc_of_lt _ _ (linked.allocated.linkCount node old), nameCount_append,
        if_neg different]
      exact counted
    | @added known member names counts =>
      rw [names, counts, nameCount_append, Arena.get_set]
      by_cases same : known = node
      · subst same
        rw [if_pos rfl, if_pos rfl, counted]
      · have apart : ¬ Shares known node := fun shares =>
          same (linked.shares known node (.inl member) old shares)
        rw [if_neg fun inode => apart (.inl inode),
          if_neg fun count => apart (.inr (.inr (.inl count.symm)))]
        exact counted
    | @dropped removed index links found names before_counted counts =>
      have member : removed ∈ before.names := List.mem_of_getElem? found
      have foundInode : (before.names.map (·.inode))[index]? = some removed.inode := by
        rw [List.getElem?_map, found]
        rfl
      have total := count_eraseIdx foundInode node.inode
      rw [names, counts, ← List.eraseIdx_map, Arena.get_set]
      by_cases same : removed = node
      · subst same
        rw [if_pos rfl] at total ⊢
        omega
      · have apart : ¬ Shares removed node := fun shares =>
          same (linked.shares removed node (.inl member) old shares)
        rw [if_neg fun inode => apart (.inl inode)] at total
        rw [if_neg fun count => apart (.inr (.inr (.inl count.symm)))]
        omega
  · have none : (before.names.map (·.inode)).count before.freshNode.inode = 0 := by
      apply List.count_eq_zero_of_not_mem
      intro member
      obtain ⟨node, named, same⟩ := List.mem_map.mp member
      exact freshNode_apart linked.allocated bounded (.inl named) (.inl same)
    rw [creates.names, creates.counts, nameCount_append, none, if_pos rfl]
    exact (before.linkCounts.get_alloc _ _).trans (if_pos rfl)

theorem FilesChange.linked (changes : FilesChange before after) (numbered : before.Numbered)
    (linked : before.Linked) : after.Linked := by
  have bounded : ∀ node, before.Carries node → node.inode ≤ before.nextInode := by
    intro node carried
    exact numbered.bounded node.inode (.file node) ⟨carried, rfl⟩
  exact ⟨changes.allocated linked.allocated, changes.shares linked bounded,
    changes.counted linked bounded⟩

end Linked

/-! ## Inodes -/

/-- What a change of the filesystem does to its objects. -/
structure ObjectsChange (before after : FilesystemState) : Prop where
  numbers : before.nextInode ≤ after.nextInode ∧ after.nextInode ≤ before.nextInode + 1
  holds : ∃ fresh : Option Object,
    (fresh.isSome → before.nextInode + 1 ≤ after.nextInode) ∧
    ∀ inode object, after.Holds inode object →
      before.Holds inode object ∨ inode = before.nextInode + 1 ∧ fresh = some object

section Numbered

variable {before after : FilesystemState}

theorem ObjectsChange.numbered (changes : ObjectsChange before after)
    (numbered : before.Numbered) : after.Numbered := by
  obtain ⟨fresh, counts, holds⟩ := changes.holds
  constructor
  · intro inode object held
    rcases holds inode object held with old | ⟨rfl, new⟩
    · exact (numbered.bounded inode object old).trans changes.numbers.1
    · exact counts (by rw [new]; rfl)
  · intro inode left right leftHeld rightHeld
    rcases holds inode left leftHeld with leftOld | ⟨rfl, leftNew⟩
    · rcases holds inode right rightHeld with rightOld | ⟨rfl, rightNew⟩
      · exact numbered.distinct inode left right leftOld rightOld
      · exact absurd (numbered.bounded _ left leftOld) (Nat.not_succ_le_self _)
    · rcases holds _ right rightHeld with rightOld | ⟨-, rightNew⟩
      · exact absurd (numbered.bounded _ right rightOld) (Nat.not_succ_le_self _)
      · exact Option.some.inj (leftNew.symm.trans rightNew)

/-- A change that makes no directory and no symbolic link. -/
theorem ObjectsChange.ofFiles (changes : FilesChange before after)
    (numbers : after.nextInode ≤ before.nextInode + 1)
    (directories : ∀ inode location, after.Holds inode (.directory location) →
      before.Holds inode (.directory location))
    (symlinks : ∀ inode location, after.Holds inode (.symlink location) →
      before.Holds inode (.symlink location)) : ObjectsChange before after where
  numbers := ⟨changes.numbers, numbers⟩
  holds := by
    by_cases creates : Creates before after
    · refine ⟨some (.file before.freshNode), fun _ => creates.numbers.ge, ?_⟩
      rintro inode (node | location | location) held
      · obtain ⟨carried, rfl⟩ := held
        rcases changes.carries carried with old | ⟨rfl, -⟩
        · exact .inl ⟨old, rfl⟩
        · exact .inr ⟨rfl, rfl⟩
      · exact .inl (directories inode location held)
      · exact .inl (symlinks inode location held)
    · refine ⟨none, by simp, ?_⟩
      rintro inode (node | location | location) held
      · obtain ⟨carried, rfl⟩ := held
        rcases changes.carries carried with old | ⟨-, creates'⟩
        · exact .inl ⟨old, rfl⟩
        · exact absurd creates' creates
      · exact .inl (directories inode location held)
      · exact .inl (symlinks inode location held)

theorem Effect.objects {operation : Operation} (effect : Effect before operation after) :
    ObjectsChange before after := by
  have files := effect.files
  cases effect with
  | opened opens =>
    cases opens with
    | file => exact .ofFiles files (Nat.le_succ _) (fun _ _ held => held) fun _ _ held => held
    | created => exact .ofFiles files le_rfl (fun _ _ held => held) fun _ _ held => held
    | @directory _ _ _ _ _ _ location directory resolved attenuated found parent allocated =>
      refine .ofFiles files (Nat.le_succ _) ?_ fun _ _ held => held
      intro inode other held
      rcases held with mounted | ⟨fd, opened, lookup, rfl, rfl⟩
      · exact .inl mounted
      · rcases lookup_insert_cases lookup with ⟨-, rfl⟩ | ⟨-, lookup⟩
        · refine .inl ⟨directory, List.mem_of_find?_eq_some found, ?_, rfl⟩
          simpa using List.find?_some found
        · exact .inr ⟨fd, opened, lookup, rfl, rfl⟩
  | closed =>
    refine .ofFiles files (Nat.le_succ _) ?_ fun _ _ held => held
    intro inode location held
    rcases held with mounted | ⟨fd, opened, lookup, same⟩
    · exact .inl mounted
    · exact .inr ⟨fd, opened, (lookup_erase_some lookup).2, same⟩
  | abandoned => exact .ofFiles files le_rfl (fun _ _ held => held) fun _ _ held => held
  | @createdDirectory _ _ _ location resolved free parent =>
    refine ⟨⟨Nat.le_succ _, le_rfl⟩, some (.directory location), fun _ => le_rfl, ?_⟩
    rintro inode (node | other | other) held
    · exact .inl held
    · rcases held with ⟨directory, member, rfl, rfl⟩ | opened
      · rcases List.mem_append.mp member with old | new
        · exact .inl (.inl ⟨directory, old, rfl, rfl⟩)
        · rw [List.mem_singleton.mp new]
          exact .inr ⟨rfl, rfl⟩
      · exact .inl (.inr opened)
    · exact .inl held
  | removedDirectory =>
    refine .ofFiles files (Nat.le_succ _) ?_ fun _ _ held => held
    intro inode location held
    rcases held with ⟨directory, member, same⟩ | opened
    · exact .inl ⟨directory, List.mem_of_mem_eraseIdx member, same⟩
    · exact .inr opened
  | @createdSymlink _ _ _ _ location resolved free parent =>
    refine ⟨⟨Nat.le_succ _, le_rfl⟩, some (.symlink location), fun _ => le_rfl, ?_⟩
    rintro inode (node | other | other) held
    · exact .inl held
    · exact .inl held
    · obtain ⟨link, member, rfl, rfl⟩ := held
      rcases List.mem_append.mp member with old | new
      · exact .inl ⟨link, old, rfl, rfl⟩
      · rw [List.mem_singleton.mp new]
        exact .inr ⟨rfl, rfl⟩
  | unlinkedSymlink =>
    refine .ofFiles files (Nat.le_succ _) (fun _ _ held => held) ?_
    rintro inode location ⟨link, member, same⟩
    exact ⟨link, List.mem_of_mem_eraseIdx member, same⟩
  | stampedDirectory =>
    refine .ofFiles files (Nat.le_succ _) ?_ fun _ _ held => held
    intro inode location held
    rcases held with ⟨directory, member, same⟩ | opened
    · obtain ⟨old, oldMember, rfl | rfl⟩ := mem_modify_cases member
      · exact .inl ⟨_, oldMember, same⟩
      · exact .inl ⟨old, oldMember, same⟩
    · exact .inr opened
  | stampedSymlink =>
    refine .ofFiles files (Nat.le_succ _) (fun _ _ held => held) ?_
    rintro inode location ⟨link, member, same⟩
    obtain ⟨old, oldMember, rfl | rfl⟩ := mem_modify_cases member
    · exact ⟨_, oldMember, same⟩
    · exact ⟨old, oldMember, same⟩
  | _ => exact .ofFiles files (Nat.le_succ _) (fun _ _ held => held) fun _ _ held => held

/-- A directory that a change makes takes the next inode. -/
theorem Effect.madeDirectory {operation : Operation} (effect : Effect before operation after)
    {directory : MountedDirectory} (member : directory ∈ after.mountedDirectories) :
    (∃ old ∈ before.mountedDirectories, old.toLocation = directory.toLocation ∧
        old.inode = directory.inode) ∨
      directory.inode = before.nextInode + 1 := by
  cases effect with
  | opened opens => cases opens <;> exact .inl ⟨directory, member, rfl, rfl⟩
  | createdDirectory =>
    rcases List.mem_append.mp member with old | new
    · exact .inl ⟨directory, old, rfl, rfl⟩
    · rw [List.mem_singleton.mp new]
      exact .inr rfl
  | removedDirectory => exact .inl ⟨directory, List.mem_of_mem_eraseIdx member, rfl, rfl⟩
  | stampedDirectory =>
    obtain ⟨old, oldMember, rfl | rfl⟩ := mem_modify_cases member
    · exact .inl ⟨_, oldMember, rfl, rfl⟩
    · exact .inl ⟨old, oldMember, rfl, rfl⟩
  | _ => exact .inl ⟨directory, member, rfl, rfl⟩

end Numbered

/-! ## Configurations and runs -/

theorem default_not_carries (node : FileNode) : ¬ FilesystemState.default.Carries node := by
  rintro (member | ⟨fd, file, found, -⟩)
  · cases member
  · cases found

theorem default_not_holds (inode : Nat) (object : Object) :
    ¬ FilesystemState.default.Holds inode object := by
  rcases object with node | location | location
  · exact fun held => default_not_carries node held.1
  · rintro (⟨directory, member, -⟩ | ⟨fd, directory, found, -⟩)
    · cases member
    · cases found
  · rintro ⟨link, member, -⟩
    cases member

theorem mountFile_files {state after : FilesystemState} {location : Location}
    {bytes : List UInt8} {writable : Bool}
    (mounts : state.mountFile location bytes writable = .ok after) :
    FilesChange state after ∧ ObjectsChange state after := by
  obtain ⟨rfl, -⟩ := mountFile_ok mounts
  have names : (state.mountedFiles ++ [state.mounted location writable]).map (·.toFileNode) =
      state.names ++ [state.freshNode] := by
    rw [List.map_append]
    rfl
  have files : FilesChange state
      { state.withFreshCells with
        bytes := (state.bytes.alloc bytes).2
        mountedFiles := state.mountedFiles ++ [state.mounted location writable] } := by
    refine ⟨.created ⟨names, rfl, Nat.lt_succ_self _, Nat.lt_succ_self _, rfl⟩, ?_,
      Nat.le_succ _, Nat.le_succ _, Nat.le_succ _, Nat.le_succ _⟩
    intro fd file found
    exact .inr (lookup_names found)
  exact ⟨files, .ofFiles files le_rfl (fun _ _ held => held) fun _ _ held => held⟩

theorem Mounted.linked {wasi : Preview1} (mounted : Mounted wasi) :
    wasi.state.filesystem.Numbered ∧ wasi.state.filesystem.Linked := by
  apply mounted.keeps (motive := fun state => state.Numbered ∧ state.Linked)
  · refine ⟨⟨?_, ?_⟩, ⟨?_, ?_, ?_⟩, ?_, ?_⟩
    · intro inode object held
      exact absurd held (default_not_holds inode object)
    · intro inode object other held
      exact absurd held (default_not_holds inode object)
    · exact fun node carried => absurd carried (default_not_carries node)
    · exact fun node carried => absurd carried (default_not_carries node)
    · exact fun node carried => absurd carried (default_not_carries node)
    · exact fun node other carried => absurd carried (default_not_carries node)
    · exact fun node carried => absurd carried (default_not_carries node)
  · rintro state fd writable ⟨numbered, linked⟩
    have files : FilesChange state (state.reservePreopen fd writable) :=
      .unconcerned rfl rfl le_rfl rfl rfl rfl
    have objects : ObjectsChange state (state.reservePreopen fd writable) :=
      .ofFiles files (Nat.le_succ _) (fun _ _ held => held) fun _ _ held => held
    exact ⟨objects.numbered numbered, files.linked numbered linked⟩
  · rintro state after location bytes writable ⟨numbered, linked⟩ mounts
    obtain ⟨files, objects⟩ := mountFile_files mounts
    exact ⟨objects.numbered numbered, files.linked numbered linked⟩

theorem afterCalls_linked {wasi : Preview1} (mounted : Mounted wasi) (requests : List Request) :
    (afterCalls wasi.config wasi.state requests).filesystem.Numbered ∧
      (afterCalls wasi.config wasi.state requests).filesystem.Linked := by
  apply afterCalls_keeps_filesystem wasi.config (motive := fun state =>
    state.Numbered ∧ state.Linked) ?_ requests mounted.coherent mounted.linked
  rintro before after operation reserved effect ⟨numbered, linked⟩
  exact ⟨effect.objects.numbered numbered, effect.files.linked numbered linked⟩

/-! ## The counter of inodes -/

theorem afterCalls_nextInode (config : Config) (requests : List Request) {state : WasiState}
    (coherent : state.Coherent) :
    (afterCalls config state requests).filesystem.nextInode ≤
      state.filesystem.nextInode + requests.length := by
  induction requests generalizing state with
  | nil => exact le_rfl
  | cons request requests ih =>
    obtain ⟨operation, asked, performed⟩ := afterCall_performs config coherent request
    have step := performed.effect.objects.numbers.2
    have rest := ih (afterCall_coherent config coherent request)
    calc (afterCalls config state (request :: requests)).filesystem.nextInode
        ≤ (afterCall config state request).filesystem.nextInode + requests.length := rest
      _ ≤ state.filesystem.nextInode + 1 + requests.length := Nat.add_le_add_right step _
      _ = state.filesystem.nextInode + (request :: requests).length := by
        rw [List.length_cons]
        omega

/-! ## Operations that give, change and take names -/

/-- A file with a name has a link. -/
theorem links_positive {state : FilesystemState} (linked : state.Linked) {location : Location}
    {file : MountedFile} (found : state.fileAt location = some file) :
    state.linkCounts.get file.linkCount ≠ 0 := by
  have member := mem_names found
  have counted := linked.counted file.toFileNode (.inl member)
  intro zero
  rw [zero] at counted
  exact (List.count_pos_iff.mpr (List.mem_map_of_mem member)).ne counted

theorem rename_valid {state : FilesystemState} (linked : state.Linked) (old new : Location) :
    Meets (fun err _ => err ≠ .invalidLinkCount) (fun _ _ => True)
      (FilesystemState.rename old new) state := by
  simp only [FilesystemState.rename, meets_bind, meets_ask, id_eq, meets_ite, meets_fail]
  refine ⟨fun _ => by decide, fun _ => ⟨fun _ => by decide, fun _ => ?_⟩⟩
  cases state.mountedFiles.findIdx? (·.toLocation = old) with
  | none => simp
  | some sourceIndex =>
    cases state.fileAt old with
    | none => simp
    | some source =>
      simp only [meets_ite, meets_pure]
      refine ⟨fun _ => trivial, fun _ => ?_⟩
      cases state.mountedFiles.findIdx? (·.toLocation = new) with
      | none => simp
      | some targetIndex =>
        cases found : state.fileAt new with
        | none => simp
        | some target =>
          simp only [meets_ite, meets_pure]
          refine ⟨fun _ => trivial, fun _ => ?_⟩
          cases counted : state.linkCounts.get target.linkCount with
          | zero => exact absurd counted (links_positive linked found)
          | succ links => simp

theorem unlink_valid {state : FilesystemState} (linked : state.Linked) (fd : Nat)
    (path : Path) :
    Meets (fun err _ => err ≠ .invalidLinkCount) (fun _ _ => True)
      (FilesystemState.unlink fd path) state := by
  simp only [FilesystemState.unlink, meets_bind]
  apply FilesystemState.meets_resolve
  · intro err
    cases err <;> decide
  · intro location rights resolved
    simp only [meets_ask, id_eq]
    cases state.mountedFiles.findIdx? (·.toLocation = location) with
    | none => cases state.mountedSymlinks.findIdx? (·.toLocation = location) <;> simp
    | some index =>
      cases found : state.fileAt location with
      | none => cases state.mountedSymlinks.findIdx? (·.toLocation = location) <;> simp
      | some file =>
        dsimp only
        cases counted : state.linkCounts.get file.linkCount with
        | zero => exact absurd counted (links_positive linked found)
        | succ links => simp

/-- An error that is not raised is not the result. -/
theorem not_error_of_meets {σ ε α : Type} {action : Action σ ε α} {state : σ} {err : ε}
    (meets : Meets (fun raised _ => raised ≠ err) (fun _ _ => True) action state) :
    (action state).1 ≠ .error err := by
  unfold Meets at meets
  intro raised
  split at meets
  · next found =>
    rw [found] at raised
    cases raised
  · next found =>
    rw [found] at raised
    exact meets (Except.error.inj raised)

/-- The calls that change the names of files. -/
def Call.changesNames : Call → Bool
  | .pathLink .. | .pathRename .. | .pathUnlinkFile .. => true
  | _ => false

/-- Operations that change the names of files, or nothing. -/
def Operation.changesNames : Operation → Bool
  | .nothing | .link .. | .rename .. | .unlink .. => true
  | _ => false

/-- The open files, and the bytes of every file, stay as they are. -/
structure KeepsContents (before after : FilesystemState) : Prop where
  openFiles : after.openFiles = before.openFiles
  bytes : ∀ address < before.bytes.size, after.bytes.get address = before.bytes.get address

theorem Effect.keepsContents {before after : FilesystemState} {operation : Operation}
    (effect : Effect before operation after) (changes : operation.changesNames = true) :
    KeepsContents before after := by
  have noSubject : operation.subject = none := by
    cases operation <;> first | rfl | cases changes
  cases effect with
  | unchanged => exact ⟨rfl, fun _ _ => rfl⟩
  | abandoned => exact ⟨rfl, fun address allocated => Arena.get_alloc_of_lt _ _ allocated⟩
  | opened opens => cases opens <;> cases changes
  | linked => exact ⟨rfl, fun _ _ => rfl⟩
  | renamed => exact ⟨rfl, fun _ _ => rfl⟩
  | replaced => exact ⟨rfl, fun _ _ => rfl⟩
  | unlinked => exact ⟨rfl, fun _ _ => rfl⟩
  | unlinkedSymlink => exact ⟨rfl, fun _ _ => rfl⟩
  | contents subject => exact absurd subject (by simp [noSubject])
  | resized subject => exact absurd subject (by simp [noSubject])
  | described subject => exact absurd subject (by simp [noSubject])
  | stamped subject => exact absurd subject (by simp [noSubject])
  | _ => cases changes

theorem afterCall_keepsContents (config : Config) {state : WasiState}
    (coherent : state.Coherent) (request : Request)
    (changes : request.call.changesNames = true) :
    KeepsContents state.filesystem (afterCall config state request).filesystem := by
  obtain ⟨operation, asked, performed⟩ := afterCall_performs config coherent request
  apply performed.effect.keepsContents
  rcases asked with rfl | asked
  · rfl
  · obtain ⟨memory, call⟩ := request
    cases call with
    | pathLink =>
      obtain ⟨oldName, newName, -, -, rfl⟩ := asked
      rfl
    | pathRename =>
      obtain ⟨oldName, newName, -, -, rfl⟩ := asked
      rfl
    | pathUnlinkFile =>
      obtain ⟨name, -, rfl⟩ := asked
      rfl
    | _ => cases changes

/-- In every state that calls can reach: a link count is the number of names, files have
the same inode exactly when they have the same cells, an inode stands for one object and
for no root of a preopen in any history short enough to be run, a directory that is made has
an inode that nothing had, not even a directory that is gone but open, and the names of a
file can be changed without a bad link count and without any effect on an open file. -/
theorem links_and_inodes {wasi : Preview1} (mounted : Mounted wasi) (requests : List Request) :
    let state := afterCalls wasi.config wasi.state requests
    let filesystem := state.filesystem
    (∀ node, filesystem.Carries node →
      filesystem.linkCounts.get node.linkCount = filesystem.nameCount node.inode) ∧
    (∀ left right, filesystem.Carries left → filesystem.Carries right →
      (left.inode = right.inode ↔
        left.bytes = right.bytes ∧ left.linkCount = right.linkCount ∧
          left.times = right.times)) ∧
    (∀ inode left right, filesystem.Holds inode left → filesystem.Holds inode right →
      left = right) ∧
    (∀ fd inode object, filesystem.Holds inode object → inode = preopenInode fd →
      2 ^ 63 ≤ wasi.state.filesystem.nextInode + requests.length) ∧
    (∀ request, ∀ directory ∈
        (afterCall wasi.config state request).filesystem.mountedDirectories,
      (∃ old ∈ filesystem.mountedDirectories, old.toLocation = directory.toLocation ∧
          old.inode = directory.inode) ∨
        ∀ object, ¬ filesystem.Holds directory.inode object) ∧
    (∀ old new, (FilesystemState.rename old new filesystem).1 ≠ .error .invalidLinkCount) ∧
    (∀ fd path, (FilesystemState.unlink fd path filesystem).1 ≠ .error .invalidLinkCount) ∧
    ∀ request : Request, request.call.changesNames = true →
      let after := (afterCall wasi.config state request).filesystem
      after.openFiles = filesystem.openFiles ∧
        ∀ fd file, filesystem.openFiles.lookup fd = some file →
          after.bytes.get file.bytes = filesystem.bytes.get file.bytes := by
  intro state filesystem
  obtain ⟨numbered, linked⟩ := afterCalls_linked mounted requests
  have coherent : state.Coherent :=
    (afterCalls_keeps wasi.config (motive := fun _ => True) (fun _ _ _ _ => trivial) requests
      mounted.coherent trivial).1
  refine ⟨linked.counted, ?_, numbered.distinct, ?_, ?_, ?_, ?_, ?_⟩
  · intro left right leftCarried rightCarried
    constructor
    · intro same
      rw [linked.shares left right leftCarried rightCarried (.inl same)]
      exact ⟨rfl, rfl, rfl⟩
    · rintro ⟨same, -⟩
      rw [linked.shares left right leftCarried rightCarried (.inr (.inl same))]
  · rintro fd inode object held rfl
    calc 2 ^ 63 ≤ preopenInode fd := Nat.left_le_or
      _ ≤ filesystem.nextInode := numbered.bounded _ object held
      _ ≤ wasi.state.filesystem.nextInode + requests.length :=
        afterCalls_nextInode wasi.config requests mounted.coherent
  · intro request directory member
    obtain ⟨operation, -, performed⟩ := afterCall_performs wasi.config coherent request
    refine (performed.effect.madeDirectory member).imp id fun fresh object held => ?_
    have bounded := numbered.bounded _ object held
    rw [fresh] at bounded
    exact Nat.not_succ_le_self _ bounded
  · intro old new
    exact not_error_of_meets (rename_valid linked old new)
  · intro fd path
    exact not_error_of_meets (unlink_valid linked fd path)
  · intro request changes
    have keeps := afterCall_keepsContents wasi.config coherent request changes
    refine ⟨keeps.openFiles, fun fd file found => keeps.bytes _ ?_⟩
    exact linked.allocated.bytes file.toFileNode (lookup_names found)

/-- Two names for one file, after `path_link` of `a` to `b`. -/
theorem links_and_inodes_linked :
    let filesystem :=
      (afterCalls (Preview1.workspace true).config (Preview1.workspace true).state
        [fromGuest (.pathLink 3 0 0 1 3 1 1)]).filesystem
    filesystem.linkCounts.get 0 = filesystem.nameCount 1 ∧ filesystem.nameCount 1 = 2 :=
  ⟨(links_and_inodes (workspace_mounted true) [fromGuest (.pathLink 3 0 0 1 3 1 1)]).1
      { inode := 1, bytes := 0, linkCount := 0, times := 0 } (.inl (by decide)), by decide⟩

end MiniWasm.Wasi
