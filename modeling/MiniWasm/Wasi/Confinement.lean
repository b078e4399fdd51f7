import MiniWasm.Wasi.Links

/-!
# Read-only preopens and files

No call changes an entry of a preopen that is configured as read-only, and none
changes a file that is mounted read-only, whatever names and descriptors it has.
-/

namespace MiniWasm.Wasi

open Library Action MiniWasm.Runtime FilesystemState

/-! ## Entries of a preopen -/

/-- The entries that were created under a preopen. -/
def FilesystemState.entriesOf (state : FilesystemState) (preopen : Nat) :
    List MountedFile × List MountedDirectory × List MountedSymlink :=
  (state.mountedFiles.filter (·.preopenFd = preopen),
    state.mountedDirectories.filter (·.preopenFd = preopen),
    state.mountedSymlinks.filter (·.preopenFd = preopen))

/-- No preopen has become writable, and no descriptor of a directory in a read-only
preopen has a right that the preopen does not have. -/
structure Confined (initial state : FilesystemState) : Prop where
  writable : state.writablePreopens ⊆ initial.writablePreopens
  directories : ∀ fd directory, state.openDirectories.lookup fd = some directory →
    initial.isWritablePreopen directory.preopenFd = false →
    Rights.Within directory.rightsBase (preopenRights false)

section Confined

variable {initial state after : FilesystemState}

theorem isWritable_of_now (confined : Confined initial state) {preopen : Nat}
    (writable : state.isWritablePreopen preopen = true) :
    initial.isWritablePreopen preopen = true := by
  simp only [isWritablePreopen, decide_eq_true_eq] at writable ⊢
  exact confined.writable writable

/-- What a descriptor resolves to, in a read-only preopen, comes with the rights of a
read-only preopen. -/
theorem resolved_within (confined : Confined initial state) {fd : Nat} {path : Path}
    {right rights : Rights} {location : Location}
    (resolved : state.resolveDirectoryPath fd path right = .ok (location, rights))
    (readOnly : initial.isWritablePreopen location.preopenFd = false) :
    Rights.Within rights (preopenRights false) ∧ rights &&& right = right := by
  unfold resolveDirectoryPath at resolved
  cases context : state.directoryContext fd with
  | none =>
    rw [context] at resolved
    cases resolved
  | some base =>
    obtain ⟨directory, granted⟩ := base
    rw [context] at resolved
    dsimp only at resolved
    split_ifs at resolved with denied tooLong
    cases resolved
    refine ⟨?_, not_not.mp denied⟩
    unfold directoryContext at context
    split_ifs at context with preopened
    · simp only [directoryRights, preopened, if_true, Option.map_some, Option.some.injEq,
        Prod.mk.injEq] at context
      obtain ⟨rfl, rfl⟩ := context
      have notWritable : state.isWritablePreopen fd = false := by
        by_contra writable
        rw [Bool.not_eq_false] at writable
        rw [isWritable_of_now confined writable] at readOnly
        cases readOnly
      rw [notWritable]
      exact BitVec.and_not_self _
    · obtain ⟨opened, lookup, same⟩ := Option.map_eq_some_iff.mp context
      cases same
      exact confined.directories fd opened lookup readOnly

/-- A right that a read-only preopen does not have leads to a writable one. -/
theorem resolved_writable (confined : Confined initial state) {fd : Nat} {path : Path}
    {right rights : Rights} {location : Location}
    (resolved : state.resolveDirectoryPath fd path right = .ok (location, rights))
    (mutates : preopenRights false &&& right ≠ right) :
    initial.isWritablePreopen location.preopenFd = true := by
  by_contra readOnly
  rw [Bool.not_eq_true] at readOnly
  obtain ⟨within, granted⟩ := resolved_within confined resolved readOnly
  exact mutates (within.covers granted)

theorem Effect.confined {operation : Operation} (effect : Effect state operation after)
    (confined : Confined initial state) : Confined initial after := by
  cases effect with
  | closed =>
    constructor
    · exact List.Subset.trans (List.erase_subset ..) confined.writable
    · intro fd directory lookup readOnly
      exact confined.directories fd directory (lookup_erase_some lookup).2 readOnly
  | opened opens =>
    cases opens with
    | file => exact ⟨confined.writable, confined.directories⟩
    | created => exact ⟨confined.writable, confined.directories⟩
    | directory resolved attenuated found parent allocated =>
      refine ⟨confined.writable, ?_⟩
      intro fd directory lookup readOnly
      rcases lookup_insert_cases lookup with ⟨-, rfl⟩ | ⟨-, lookup⟩
      · exact attenuated.trans (resolved_within confined resolved readOnly).1
      · exact confined.directories fd directory lookup readOnly
  | _ => exact ⟨confined.writable, confined.directories⟩

theorem Effect.entriesOf {operation : Operation} (effect : Effect state operation after)
    (confined : Confined initial state) {preopen : Nat}
    (readOnly : initial.isWritablePreopen preopen = false) :
    after.entriesOf preopen = state.entriesOf preopen := by
  have elsewhere {location : Location}
      (writable : initial.isWritablePreopen location.preopenFd = true) :
      decide (location.preopenFd = preopen) = false := by
    apply decide_eq_false
    rintro rfl
    rw [writable] at readOnly
    cases readOnly
  have resolvedElsewhere {fd : Nat} {path : Path} {right rights : Rights} {location : Location}
      (resolved : state.resolveDirectoryPath fd path right = .ok (location, rights))
      (mutates : preopenRights false &&& right ≠ right) :
      decide (location.preopenFd = preopen) = false :=
    elsewhere (resolved_writable confined resolved mutates)
  cases effect with
  | opened opens =>
    cases opens with
    | file => rfl
    | directory => rfl
    | created resolved allocated create mayCreate free parent writable truncated =>
      exact Prod.ext (filter_append_dropped (elsewhere (isWritable_of_now confined writable))) rfl
  | createdDirectory resolved free parent =>
    exact Prod.ext rfl
      (Prod.ext (filter_append_dropped (resolvedElsewhere resolved (by decide))) rfl)
  | createdSymlink resolved free parent =>
    exact Prod.ext rfl
      (Prod.ext rfl (filter_append_dropped (resolvedElsewhere resolved (by decide))))
  | linked oldResolved newResolved free parent found =>
    exact Prod.ext (filter_append_dropped (resolvedElsewhere newResolved (by decide))) rfl
  | removedDirectory resolved found =>
    obtain ⟨directory, located, same⟩ := exists_of_findIdx? found
    obtain rfl := of_decide_eq_true same
    exact Prod.ext rfl (Prod.ext
      (filter_eraseIdx_dropped located (resolvedElsewhere resolved (by decide))) rfl)
  | unlinkedSymlink resolved found =>
    obtain ⟨link, located, same⟩ := exists_of_findIdx? found
    obtain rfl := of_decide_eq_true same
    exact Prod.ext rfl (Prod.ext rfl
      (filter_eraseIdx_dropped located (resolvedElsewhere resolved (by decide))))
  | unlinked resolved found fileFound counted =>
    obtain ⟨file, located, same⟩ := exists_of_findIdx? found
    obtain rfl := of_decide_eq_true same
    exact Prod.ext
      (filter_eraseIdx_dropped located (resolvedElsewhere resolved (by decide))) rfl
  | renamed oldWritable newWritable noSymlink found =>
    obtain ⟨file, located, same⟩ := exists_of_findIdx? found
    obtain rfl := of_decide_eq_true same
    exact Prod.ext (filter_modify_dropped located
      (elsewhere (isWritable_of_now confined oldWritable))
      (elsewhere (isWritable_of_now confined newWritable))) rfl
  | @replaced old new sourceIndex targetIndex links source target oldWritable newWritable noSymlink
      found sourceFound foundTarget targetFound different counted =>
    obtain ⟨file, located, same⟩ := exists_of_findIdx? found
    obtain rfl := of_decide_eq_true same
    obtain ⟨replaced, replacedLocated, same⟩ := exists_of_findIdx? foundTarget
    obtain rfl := of_decide_eq_true same
    have newElsewhere := elsewhere (isWritable_of_now confined newWritable)
    have relocated :
        (relocate state.mountedFiles sourceIndex replaced.toLocation)[targetIndex]? =
          some { replaced with toLocation := replaced.toLocation } := by
      rw [relocate, List.getElem?_modify, replacedLocated]
      by_cases same : sourceIndex = targetIndex
      · simp [same]
      · simp [same]
    exact Prod.ext ((filter_eraseIdx_dropped relocated newElsewhere).trans
      (filter_modify_dropped located (elsewhere (isWritable_of_now confined oldWritable))
        newElsewhere)) rfl
  | stampedDirectory resolved found =>
    obtain ⟨directory, located, same⟩ := exists_of_findIdx? found
    obtain rfl := of_decide_eq_true same
    have dropped := resolvedElsewhere resolved (by decide)
    exact Prod.ext rfl (Prod.ext (filter_modify_dropped located dropped dropped) rfl)
  | stampedSymlink resolved found =>
    obtain ⟨link, located, same⟩ := exists_of_findIdx? found
    obtain rfl := of_decide_eq_true same
    have dropped := resolvedElsewhere resolved (by decide)
    exact Prod.ext rfl (Prod.ext rfl (filter_modify_dropped located dropped dropped))
  | _ => rfl

end Confined

/-! ## Files that are mounted read-only -/

def ReadOnly (initial : FilesystemState) (node : FileNode) : Prop :=
  ∃ file ∈ initial.mountedFiles, file.toFileNode = node ∧ file.writable = false

/-- Every name and descriptor of a file that was mounted read-only is read-only, and no
other file shares a cell with it. -/
structure Preserved (initial state : FilesystemState) : Prop where
  entries : ∀ file ∈ state.mountedFiles, ReadOnly initial file.toFileNode →
    file.writable = false
  opens : ∀ fd file, state.openFiles.lookup fd = some file →
    ReadOnly initial file.toFileNode → file.rightsBase &&& Rights.mutation = 0
  apart : ∀ node, state.Carries node → ∀ kept, ReadOnly initial kept → Shares node kept →
    node = kept
  allocated : ∀ kept, ReadOnly initial kept →
    kept.inode ≤ state.nextInode ∧ kept.bytes < state.bytes.size ∧
      kept.linkCount < state.linkCounts.size ∧ kept.times < state.times.size
  bytes : ∀ kept, ReadOnly initial kept →
    state.bytes.get kept.bytes = initial.bytes.get kept.bytes
  times : ∀ kept, ReadOnly initial kept →
    state.times.get kept.times = initial.times.get kept.times

namespace Preserved

variable {initial state after : FilesystemState} (preserved : Preserved initial state)

include preserved

theorem fresh {kept : FileNode} (readOnly : ReadOnly initial kept) :
    ¬ Shares state.freshNode kept := by
  obtain ⟨inode, bytes, linkCount, times⟩ := preserved.allocated kept readOnly
  simp only [Shares, freshNode]
  omega

/-- The cells of a file that may be changed are not those of a read-only one. -/
theorem elsewhere {node kept : FileNode} (carried : state.Carries node)
    (mutable : ¬ ReadOnly initial node) (readOnly : ReadOnly initial kept) :
    kept.bytes ≠ node.bytes ∧ kept.times ≠ node.times := by
  constructor
  · intro same
    exact mutable (preserved.apart node carried kept readOnly (.inr (.inl same.symm)) ▸ readOnly)
  · intro same
    exact mutable
      (preserved.apart node carried kept readOnly (.inr (.inr (.inr same.symm))) ▸ readOnly)

theorem mutable_of_rights {fd : Nat} {file : OpenFile}
    (found : state.openFiles.lookup fd = some file)
    (mayMutate : file.rightsBase &&& Rights.mutation ≠ 0) :
    ¬ ReadOnly initial file.toFileNode :=
  fun readOnly => mayMutate (preserved.opens fd file found readOnly)

theorem mutable_of_writable {location : Location} {file : MountedFile}
    (found : state.fileAt location = some file) (writable : file.writable = true) :
    ¬ ReadOnly initial file.toFileNode := by
  intro readOnly
  have member := List.mem_of_find?_eq_some found
  rw [preserved.entries file member readOnly] at writable
  cases writable

end Preserved

/-- What remains to be shown of a change, besides what holds of every change. -/
theorem Preserved.step {initial state after : FilesystemState} (preserved : Preserved initial state)
    (changes : FilesChange state after)
    (entries : ∀ file ∈ after.mountedFiles,
      (∃ old ∈ state.mountedFiles, old.toFileNode = file.toFileNode ∧
        old.writable = file.writable) ∨ file.toFileNode = state.freshNode)
    (opens : ∀ fd file, after.openFiles.lookup fd = some file →
      ReadOnly initial file.toFileNode → file.rightsBase &&& Rights.mutation = 0)
    (bytes : ∀ kept, ReadOnly initial kept → kept.bytes < state.bytes.size →
      after.bytes.get kept.bytes = state.bytes.get kept.bytes)
    (times : ∀ kept, ReadOnly initial kept → kept.times < state.times.size →
      after.times.get kept.times = state.times.get kept.times) :
    Preserved initial after where
  entries file member readOnly := by
    rcases entries file member with ⟨old, oldMember, sameNode, sameFlag⟩ | new
    · rw [← sameFlag]
      exact preserved.entries old oldMember (sameNode ▸ readOnly)
    · rw [new] at readOnly
      exact absurd (.inl rfl) (preserved.fresh readOnly)
  opens := opens
  apart node carried kept readOnly shares := by
    rcases changes.carries carried with old | ⟨rfl, -⟩
    · exact preserved.apart node old kept readOnly shares
    · exact absurd shares (preserved.fresh readOnly)
  allocated kept readOnly := by
    obtain ⟨inode, bytes, linkCount, times⟩ := preserved.allocated kept readOnly
    exact ⟨inode.trans changes.numbers, bytes.trans_le changes.bytes,
      linkCount.trans_le changes.linkCounts, times.trans_le changes.times⟩
  bytes kept readOnly :=
    (bytes kept readOnly (preserved.allocated kept readOnly).2.1).trans
      (preserved.bytes kept readOnly)
  times kept readOnly :=
    (times kept readOnly (preserved.allocated kept readOnly).2.2.2).trans
      (preserved.times kept readOnly)

section Preserved

variable {initial state after : FilesystemState}

theorem Opened.preserved {operation : Operation} {fd : Nat}
    (opens : Opened state operation fd after) (preserved : Preserved initial state) :
    Preserved initial after := by
  have files := opens.files
  cases opens with
  | @file _ _ _ _ _ _ location file bytes resolved allocated found admitted truncated =>
    apply preserved.step files
    · exact fun file member => .inl ⟨file, member, rfl, rfl⟩
    · intro other opened lookup readOnly
      rcases lookup_insert_cases lookup with ⟨-, rfl⟩ | ⟨-, lookup⟩
      · by_contra mutates
        exact preserved.mutable_of_writable found (admitted mutates).1 readOnly
      · exact preserved.opens other opened lookup readOnly
    · intro kept readOnly inside
      rcases truncated with rfl | ⟨rfl, writable, -⟩
      · rfl
      · exact Arena.get_set_of_ne _ _
          (preserved.elsewhere (.inl (mem_names found))
            (preserved.mutable_of_writable found writable) readOnly).1
    · exact fun _ _ _ => rfl
  | @created _ _ _ _ _ _ location bytes resolved allocated create mayCreate free parent writable
      truncated =>
    apply preserved.step files
    · intro file member
      rcases List.mem_append.mp member with old | new
      · exact .inl ⟨file, old, rfl, rfl⟩
      · rw [List.mem_singleton.mp new]
        exact .inr rfl
    · intro other opened lookup readOnly
      rcases lookup_insert_cases lookup with ⟨-, rfl⟩ | ⟨-, lookup⟩
      · exact absurd (.inl rfl) (preserved.fresh readOnly)
      · exact preserved.opens other opened lookup readOnly
    · intro kept readOnly inside
      rcases truncated with rfl | rfl
      · exact Arena.get_alloc_of_lt _ _ inside
      · exact (Arena.get_set_of_ne _ _ inside.ne).trans (Arena.get_alloc_of_lt _ _ inside)
    · exact fun kept readOnly inside => Arena.get_alloc_of_lt _ _ inside
  | directory =>
    exact preserved.step files (fun file member => .inl ⟨file, member, rfl, rfl⟩) preserved.opens
      (fun _ _ _ => rfl) fun _ _ _ => rfl

theorem Effect.preserved {operation : Operation} (effect : Effect state operation after)
    (preserved : Preserved initial state) : Preserved initial after := by
  have files := effect.files
  have sameEntries : ∀ file ∈ state.mountedFiles,
      (∃ old ∈ state.mountedFiles, old.toFileNode = file.toFileNode ∧
        old.writable = file.writable) ∨ file.toFileNode = state.freshNode :=
    fun file member => .inl ⟨file, member, rfl, rfl⟩
  have relocated : ∀ {index : Nat} {location : Location},
      ∀ file ∈ relocate state.mountedFiles index location,
        (∃ old ∈ state.mountedFiles, old.toFileNode = file.toFileNode ∧
          old.writable = file.writable) ∨ file.toFileNode = state.freshNode := by
    intro index location file member
    obtain ⟨old, oldMember, rfl | rfl⟩ := mem_modify_cases member
    · exact .inl ⟨_, oldMember, rfl, rfl⟩
    · exact .inl ⟨old, oldMember, rfl, rfl⟩
  have replaced {fd : Nat} {file changed : OpenFile}
      (found : state.openFiles.lookup fd = some file)
      (sameNode : changed.toFileNode = file.toFileNode)
      (sameRights : changed.rightsBase = file.rightsBase) :
      ∀ other opened, (state.openFiles.insert fd changed).lookup other = some opened →
        ReadOnly initial opened.toFileNode → opened.rightsBase &&& Rights.mutation = 0 := by
    intro other opened lookup readOnly
    rcases lookup_insert_cases lookup with ⟨-, rfl⟩ | ⟨-, lookup⟩
    · rw [sameRights]
      exact preserved.opens fd file found (sameNode ▸ readOnly)
    · exact preserved.opens other opened lookup readOnly
  cases effect with
  | opened opens => exact opens.preserved preserved
  | abandoned =>
    exact preserved.step files sameEntries preserved.opens
      (fun kept readOnly inside => Arena.get_alloc_of_lt _ _ inside)
      fun kept readOnly inside => Arena.get_alloc_of_lt _ _ inside
  | closed =>
    apply preserved.step files sameEntries _ (fun _ _ _ => rfl) fun _ _ _ => rfl
    intro fd file lookup readOnly
    exact preserved.opens fd file (lookup_erase_some lookup).2 readOnly
  | @linked _ _ _ _ _ _ _ new file oldResolved newResolved free parent found =>
    refine preserved.step files ?_ preserved.opens (fun _ _ _ => rfl) fun _ _ _ => rfl
    intro entry member
    rcases List.mem_append.mp member with old | added
    · exact .inl ⟨entry, old, rfl, rfl⟩
    · rw [List.mem_singleton.mp added]
      exact .inl ⟨file, List.mem_of_find?_eq_some found, rfl, rfl⟩
  | renamed =>
    exact preserved.step files relocated preserved.opens (fun _ _ _ => rfl) fun _ _ _ => rfl
  | replaced =>
    exact preserved.step files (fun file member => relocated file (List.mem_of_mem_eraseIdx member))
      preserved.opens (fun _ _ _ => rfl) fun _ _ _ => rfl
  | unlinked =>
    exact preserved.step files
      (fun file member => sameEntries file (List.mem_of_mem_eraseIdx member))
      preserved.opens (fun _ _ _ => rfl) fun _ _ _ => rfl
  | contents subject found mayMutate =>
    refine preserved.step files sameEntries (replaced found rfl rfl) ?_ fun _ _ _ => rfl
    intro kept readOnly inside
    exact Arena.get_set_of_ne _ _ (preserved.elsewhere (lookup_names found)
      (preserved.mutable_of_rights found mayMutate) readOnly).1
  | resized subject found mayMutate =>
    refine preserved.step files sameEntries preserved.opens ?_ fun _ _ _ => rfl
    intro kept readOnly inside
    exact Arena.get_set_of_ne _ _ (preserved.elsewhere (lookup_names found)
      (preserved.mutable_of_rights found mayMutate) readOnly).1
  | described subject found =>
    exact preserved.step files sameEntries (replaced found rfl rfl) (fun _ _ _ => rfl)
      fun _ _ _ => rfl
  | stamped subject found mayMutate =>
    refine preserved.step files sameEntries preserved.opens (fun _ _ _ => rfl) ?_
    intro kept readOnly inside
    exact Arena.get_set_of_ne _ _ (preserved.elsewhere (lookup_names found)
      (preserved.mutable_of_rights found mayMutate) readOnly).2
  | stampedFile resolved found writable =>
    refine preserved.step files sameEntries preserved.opens (fun _ _ _ => rfl) ?_
    intro kept readOnly inside
    exact Arena.get_set_of_ne _ _ (preserved.elsewhere (.inl (mem_names found))
      (preserved.mutable_of_writable found writable) readOnly).2
  | _ => exact preserved.step files sameEntries preserved.opens (fun _ _ _ => rfl) fun _ _ _ => rfl

end Preserved

/-! ## Configurations and runs -/

theorem Configured.confined {state : FilesystemState} (configured : Configured state) :
    Confined state state where
  writable := List.Subset.refl _
  directories fd directory lookup := by
    rw [configured.noOpenDirectory] at lookup
    cases lookup

theorem Configured.preserved {state : FilesystemState} (configured : Configured state)
    (numbered : state.Numbered) (linked : state.Linked) : Preserved state state where
  entries file member readOnly := by
    obtain ⟨other, otherMember, sameNode, notWritable⟩ := readOnly
    rw [← configured.distinct other otherMember file member (congrArg FileNode.inode sameNode)]
    exact notWritable
  opens fd file lookup := by
    rw [configured.noOpenFile] at lookup
    cases lookup
  apart node carried kept readOnly shares := by
    obtain ⟨file, member, rfl, -⟩ := readOnly
    exact linked.shares node _ carried (.inl (List.mem_map_of_mem member)) shares
  allocated kept readOnly := by
    obtain ⟨file, member, rfl, -⟩ := readOnly
    have carried : state.Carries file.toFileNode := .inl (List.mem_map_of_mem member)
    exact ⟨numbered.bounded _ (.file _) ⟨carried, rfl⟩, linked.allocated.bytes _ carried,
      linked.allocated.linkCount _ carried, linked.allocated.times _ carried⟩
  bytes _ _ := rfl
  times _ _ := rfl

theorem afterCalls_confined {wasi : Preview1} (mounted : Mounted wasi)
    (requests : List Request) :
    let initial := wasi.state.filesystem
    let filesystem := (afterCalls wasi.config wasi.state requests).filesystem
    Confined initial filesystem ∧ Preserved initial filesystem ∧
      ∀ preopen, initial.isWritablePreopen preopen = false →
        filesystem.entriesOf preopen = initial.entriesOf preopen := by
  intro initial filesystem
  have configured := mounted.configured
  obtain ⟨numbered, linked⟩ := mounted.linked
  apply afterCalls_keeps_filesystem wasi.config (motive := fun state =>
    Confined initial state ∧ Preserved initial state ∧
      ∀ preopen, initial.isWritablePreopen preopen = false →
        state.entriesOf preopen = initial.entriesOf preopen) ?_ requests mounted.coherent
    ⟨configured.confined, configured.preserved numbered linked, fun _ _ => rfl⟩
  rintro before after operation reserved effect ⟨confined, preserved, sameEntries⟩
  refine ⟨effect.confined confined, effect.preserved preserved, fun preopen readOnly => ?_⟩
  exact (effect.entriesOf confined readOnly).trans (sameEntries preopen readOnly)

/-- Whatever a guest calls, the entries of a preopen that is configured as read-only stay
as they were, with their times, and so do the bytes and the times of every file that is
mounted read-only. -/
theorem read_only_confined {wasi : Preview1} (mounted : Mounted wasi)
    (requests : List Request) :
    let initial := wasi.state.filesystem
    let filesystem := (afterCalls wasi.config wasi.state requests).filesystem
    (∀ preopen, initial.isWritablePreopen preopen = false →
      filesystem.entriesOf preopen = initial.entriesOf preopen ∧
        ∀ file ∈ initial.mountedFiles, file.preopenFd = preopen →
          filesystem.times.get file.times = initial.times.get file.times) ∧
    ∀ file ∈ initial.mountedFiles, file.writable = false →
      filesystem.bytes.get file.bytes = initial.bytes.get file.bytes ∧
        filesystem.times.get file.times = initial.times.get file.times := by
  intro initial filesystem
  obtain ⟨-, preserved, sameEntries⟩ := afterCalls_confined mounted requests
  have kept : ∀ file ∈ initial.mountedFiles, file.writable = false →
      filesystem.bytes.get file.bytes = initial.bytes.get file.bytes ∧
        filesystem.times.get file.times = initial.times.get file.times := by
    intro file member notWritable
    have readOnly : ReadOnly initial file.toFileNode := ⟨file, member, rfl, notWritable⟩
    exact ⟨preserved.bytes _ readOnly, preserved.times _ readOnly⟩
  refine ⟨fun preopen readOnly => ⟨sameEntries preopen readOnly, ?_⟩, kept⟩
  rintro file member rfl
  apply (kept file member _).2
  by_contra writable
  rw [Bool.not_eq_false] at writable
  rw [mounted.configured.writable file member writable] at readOnly
  cases readOnly

/-- An attempt to open `a` for writing in a read-only preopen. -/
theorem read_only_confined_open :
    let wasi := Preview1.workspace false
    (afterCalls wasi.config wasi.state
        [fromGuest (.pathOpen 3 0 0 1 8 64 0 0 16)]).filesystem.entriesOf 3 =
      wasi.state.filesystem.entriesOf 3 :=
  ((read_only_confined (workspace_mounted false)
    [fromGuest (.pathOpen 3 0 0 1 8 64 0 0 16)]).1 3 rfl).1

end MiniWasm.Wasi
