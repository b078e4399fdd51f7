import MiniWasm.Library.FileTable
import MiniWasm.Wasi.Links
import MiniWasm.Wasi.Resources

/-!
# Files as byte strings

The files of the host as a table of byte strings and cursors.  A call on open files is
an event of the table: what it takes from guest memory or leaves there is what the event
says, and the state after it is that of the table after the event.
-/

namespace MiniWasm.Wasi

open Library Action MiniWasm.Runtime FilesystemState

/-! ## Byte strings -/

theorem growTo_getElem? (bytes : List UInt8) (length position : Nat) :
    (growTo bytes length)[position]? =
      if position < max bytes.length length then some (byteAt bytes position) else none := by
  rw [growTo, List.getElem?_append, byteAt]
  split_ifs with inside within outside
  · rw [List.getElem?_eq_getElem inside]
    rfl
  · omega
  · rw [List.getElem?_replicate, if_pos (by omega), List.getElem?_eq_none (by omega)]
    rfl
  · rw [List.getElem?_replicate, if_neg (by omega)]

theorem growTo_eq (bytes : List UInt8) (length : Nat) :
    growTo bytes length = resized bytes (max bytes.length length) := by
  apply List.ext_getElem?
  intro position
  rw [growTo_getElem?, getElem?_resized]

theorem byteAt_take {bytes : List UInt8} {length position : Nat} (inside : position < length) :
    byteAt (bytes.take length) position = byteAt bytes position := by
  rw [byteAt, byteAt, List.getElem?_take, if_pos inside]

theorem resizeTo_eq (bytes : List UInt8) (length : Nat) :
    resizeTo bytes length = resized bytes length := by
  apply List.ext_getElem?
  intro position
  have shorter : max (bytes.take length).length length = length := by
    rw [List.length_take]
    omega
  rw [resizeTo, growTo_getElem?, getElem?_resized, shorter]
  split_ifs with inside
  · rw [byteAt_take inside]
  · rfl

theorem writeAt_eq (bytes : List UInt8) (start : Nat) (payload : List UInt8) :
    writeAt bytes start payload = patched bytes start payload := by
  apply List.ext_getElem?
  intro position
  have zero : byteAt (growTo bytes start) position = byteAt bytes position := by
    rw [byteAt, growTo_getElem?]
    split_ifs with inside
    · rfl
    · rw [byteAt, List.getElem?_eq_none (by omega)]
  have longer : max (growTo bytes start).length (start + payload.length) =
      max bytes.length (start + payload.length) := by
    rw [growTo_length]
    omega
  rw [writeAt, getElem?_overwrite, growTo_getElem?, getElem?_patched, longer, zero]
  by_cases inside : position < max bytes.length (start + payload.length)
  · rw [if_pos inside, if_pos inside, Option.map_some]
    by_cases after : start ≤ position
    · by_cases within : position < start + payload.length
      · rw [if_pos after, if_pos ⟨after, within⟩, byteAt, byteAt,
          List.getElem?_eq_getElem (show position - start < payload.length by omega)]
        rfl
      · rw [if_pos after, if_neg fun both => within both.2,
          List.getElem?_eq_none (show payload.length ≤ position - start by omega)]
        rfl
    · rw [if_neg after, if_neg fun both => after both.1]
  · rw [if_neg inside, if_neg inside]
    rfl

/-! ## Representation -/

/-- An open file as a cursor of the table. -/
def OpenFile.cursor (file : OpenFile) : Cursor Nat where
  file := file.inode
  position := file.offset
  append := decide (file.flags &&& fdflagsAppend ≠ 0)

/-- The table has a cursor for each open file, and the bytes of each file that has a name
or is open. -/
structure Represents (table : FileTable Nat Nat) (state : FilesystemState) : Prop where
  cursors : ∀ fd, table.cursors fd = (state.openFiles.lookup fd).map OpenFile.cursor
  contents : ∀ node, state.Carries node → table.contents node.inode = state.bytes.get node.bytes

namespace Represents

variable {table : FileTable Nat Nat} {state : FilesystemState}

theorem opened (represents : Represents table state) {fd : Nat} {file : OpenFile}
    (found : state.openFiles.lookup fd = some file) : table.cursors fd = some file.cursor := by
  rw [represents.cursors, found]
  rfl

theorem bytes (represents : Represents table state) {fd : Nat} {file : OpenFile}
    (found : state.openFiles.lookup fd = some file) :
    table.contents file.inode = state.bytes.get file.bytes :=
  represents.contents _ (.inr ⟨fd, file, found, rfl⟩)

theorem landing (represents : Represents table state) {fd : Nat} {file : OpenFile}
    (found : state.openFiles.lookup fd = some file) :
    table.landing file.cursor = state.writeStart file := by
  unfold FileTable.landing FilesystemState.writeStart
  by_cases append : file.flags &&& fdflagsAppend ≠ 0
  · rw [if_pos append, if_pos (by simpa [OpenFile.cursor] using append),
      ← represents.bytes found]
    rfl
  · rw [if_neg append, if_neg (by simpa [OpenFile.cursor] using append)]
    rfl

/-- A descriptor on a file that can be reached already. -/
theorem setOpenFile (represents : Represents table state) (fd : Nat) (file : OpenFile)
    (carried : state.Carries file.toFileNode) :
    Represents (table.setCursor fd file.cursor) (state.setOpenFile fd file) where
  cursors other := by
    simp only [FileTable.setCursor, FilesystemState.setOpenFile, Function.update_apply]
    split_ifs with equal
    · rw [equal, AList.lookup_insert]
      rfl
    · rw [AList.lookup_insert_ne equal]
      exact represents.cursors other
  contents node reached := by
    apply represents.contents node
    rcases reached with named | ⟨other, opened, lookup, rfl⟩
    · exact .inl named
    · by_cases equal : other = fd
      · rw [equal, FilesystemState.setOpenFile, AList.lookup_insert] at lookup
        cases lookup
        exact carried
      · rw [FilesystemState.setOpenFile, AList.lookup_insert_ne equal] at lookup
        exact .inr ⟨other, opened, lookup, rfl⟩

/-- The bytes of a file change. -/
theorem setBytes (represents : Represents table state) (linked : state.Linked)
    {node : FileNode} (carried : state.Carries node) (bytes : List UInt8) :
    Represents (table.setContents node.inode bytes)
      { state with bytes := state.bytes.set node.bytes bytes } where
  cursors := represents.cursors
  contents other otherCarried := by
    have shares := linked.shares other node otherCarried carried
    simp only [FileTable.setContents, Function.update_apply, Arena.get_set]
    by_cases equal : other = node
    · rw [equal, if_pos rfl, if_pos rfl]
    · rw [if_neg fun inode => equal (shares (.inl inode)),
        if_neg fun cell => equal (shares (.inr (.inl cell)))]
      exact represents.contents other otherCarried

theorem withFreshCells (represents : Represents table state) (linked : state.Linked) :
    Represents table state.withFreshCells where
  cursors := represents.cursors
  contents node carried := by
    rw [represents.contents node carried]
    exact (Arena.get_alloc_of_lt _ [] (linked.allocated.bytes node carried)).symm

/-! ### Events -/

variable {fd : Nat} {file : OpenFile}

theorem advanced (represents : Represents table state)
    (found : state.openFiles.lookup fd = some file) {bytes : List UInt8} {room : Nat}
    (taken : bytes = sliceAt (state.bytes.get file.bytes) file.offset room)
    (small : file.offset + bytes.length ≤ maxU64) :
    ∃ next, table.Step (.read fd room bytes) next ∧
      Represents next (state.advanced fd file bytes.length) := by
  refine ⟨_, .read (represents.opened found) ?_, ?_⟩
  · rw [taken, FileTable.bytesAt, OpenFile.cursor, represents.bytes found]
    rfl
  · have exact' : min (file.offset + bytes.length) maxU64 = file.offset + bytes.length :=
      Nat.min_eq_left small
    unfold FilesystemState.advanced
    rw [exact']
    exact represents.setOpenFile fd { file with offset := file.offset + bytes.length }
      (.inr ⟨fd, file, found, rfl⟩)

theorem written (represents : Represents table state) (linked : state.Linked)
    (found : state.openFiles.lookup fd = some file) (payload : List UInt8) :
    ∃ next, table.Step (.write fd payload) next ∧
      Represents next (state.written fd file payload) := by
  unfold FilesystemState.written
  by_cases empty : payload = []
  · rw [if_pos empty, empty]
    exact ⟨table, .writeNothing (represents.opened found), represents⟩
  · rw [if_neg empty]
    refine ⟨_, .write (represents.opened found) empty, ?_⟩
    have carried : state.Carries file.toFileNode := .inr ⟨fd, file, found, rfl⟩
    have changed := represents.setBytes linked carried
      (writeAt (state.bytes.get file.bytes) (state.writeStart file) payload)
    have moved := changed.setOpenFile fd
      { file with offset := state.writeStart file + payload.length } carried
    rw [represents.landing found]
    rw [writeAt_eq, ← represents.bytes found] at moved
    rw [writeAt_eq, ← represents.bytes found]
    exact moved

theorem pwritten (represents : Represents table state) (linked : state.Linked)
    (found : state.openFiles.lookup fd = some file) (offset : Nat) (payload : List UInt8) :
    ∃ next, table.Step (.writeAt fd offset payload) next ∧
      Represents next (state.pwritten file offset payload) := by
  unfold FilesystemState.pwritten
  by_cases empty : payload = []
  · rw [if_pos empty, empty]
    exact ⟨table, .writeNothingAt (represents.opened found), represents⟩
  · rw [if_neg empty]
    refine ⟨_, .writeAt (represents.opened found) empty, ?_⟩
    rw [writeAt_eq, ← represents.bytes found]
    exact represents.setBytes linked (.inr ⟨fd, file, found, rfl⟩) _

theorem sought (represents : Represents table state)
    (found : state.openFiles.lookup fd = some file) {whence base position : Nat} {delta : Int}
    (relative : state.seekBase file whence = some base)
    (moved : (position : Int) = base + delta) :
    ∃ next, table.Step (.seek fd whence delta position) next ∧
      Represents next (state.setOpenFile fd { file with offset := position }) := by
  refine ⟨_, .seek (represents.opened found) ?_ moved,
    represents.setOpenFile fd { file with offset := position } (.inr ⟨fd, file, found, rfl⟩)⟩
  rw [← relative]
  unfold FilesystemState.seekBase FileTable.origin
  match whence with
  | 0 => rfl
  | 1 => rfl
  | 2 =>
    rw [← represents.bytes found]
    rfl
  | more + 3 => rfl

theorem resized (represents : Represents table state) (linked : state.Linked)
    (found : state.openFiles.lookup fd = some file) (length : Nat) :
    ∃ next, table.Step (.resize fd length) next ∧
      Represents next
        (state.resizedTo file (resizeTo (state.bytes.get file.bytes) length)) := by
  refine ⟨_, .resize (represents.opened found), ?_⟩
  rw [resizeTo_eq, ← represents.bytes found]
  exact represents.setBytes linked (.inr ⟨fd, file, found, rfl⟩) _

theorem reserved (represents : Represents table state) (linked : state.Linked)
    (found : state.openFiles.lookup fd = some file) (length : Nat) :
    ∃ next, table.Step (.reserve fd length) next ∧
      Represents next (state.resizedTo file (growTo (state.bytes.get file.bytes) length)) := by
  refine ⟨_, .reserve (represents.opened found), ?_⟩
  rw [growTo_eq, ← represents.bytes found]
  exact represents.setBytes linked (.inr ⟨fd, file, found, rfl⟩) _

theorem marked (represents : Represents table state)
    (found : state.openFiles.lookup fd = some file) (flags : BitVec 16) :
    ∃ next, table.Step (.mark fd (decide (flags &&& fdflagsAppend ≠ 0))) next ∧
      Represents next (state.setOpenFile fd { file with flags }) :=
  ⟨_, .mark (represents.opened found),
    represents.setOpenFile fd { file with flags } (.inr ⟨fd, file, found, rfl⟩)⟩

theorem free (represents : Represents table state)
    (missing : state.openFiles.lookup fd = none) : table.cursors fd = none := by
  rw [represents.cursors, missing]
  rfl

/-- A new file goes with a new descriptor. -/
theorem created (represents : Represents table state) (numbered : state.Numbered)
    (linked : state.Linked) {location : Location} {bytes : Arena (List UInt8)}
    (file : OpenFile) (same : file.toFileNode = state.freshNode)
    (new : bytes.get state.bytes.size = [])
    (old : ∀ address, address < state.bytes.size → bytes.get address = state.bytes.get address) :
    Represents ((table.setContents file.inode []).setCursor fd file.cursor)
      { state.withFreshCells with
        bytes
        mountedFiles := state.mountedFiles ++ [state.freshFile location]
        openFiles := state.openFiles.insert fd file } where
  cursors other := by
    simp only [FileTable.setCursor, FileTable.setContents, Function.update_apply]
    split_ifs with equal
    · rw [equal, AList.lookup_insert]
      rfl
    · rw [AList.lookup_insert_ne equal]
      exact represents.cursors other
  contents node reached := by
    have known : state.Carries node ∨ node = state.freshNode := by
      rcases reached with named | ⟨other, opened, lookup, rfl⟩
      · simp only [names, List.map_append, List.mem_append, List.map_cons, List.map_nil,
          List.mem_singleton] at named
        exact named.imp .inl id
      · by_cases equal : other = fd
        · rw [equal, AList.lookup_insert] at lookup
          cases lookup
          exact .inr same
        · rw [AList.lookup_insert_ne equal] at lookup
          exact .inl (.inr ⟨other, opened, lookup, rfl⟩)
    simp only [FileTable.setCursor, FileTable.setContents, Function.update_apply, same]
    rcases known with carried | rfl
    · have apart : ¬ node.inode = state.freshNode.inode := fun inode =>
        freshNode_apart linked.allocated (fun other held => numbered.bounded _ (.file other)
          ⟨held, rfl⟩) carried (.inl inode)
      rw [if_neg apart, old _ (linked.allocated.bytes node carried)]
      exact represents.contents node carried
    · rw [if_pos rfl]
      exact new.symm

end Represents

/-- Which file a path names, and whether opening it leaves it empty: one with the name, or
a new one. -/
inductive Identifies (state : FilesystemState) (dirFd : Nat) (path : Path) (truncate : Bool) :
    Nat → Bool → Prop where
  | found {location : Location} {rights : Rights} {file : MountedFile}
      (resolved : state.resolveDirectoryPath dirFd path Rights.pathOpen = .ok (location, rights))
      (found : state.fileAt location = some file) :
      Identifies state dirFd path truncate file.inode truncate
  | created {location : Location} {rights : Rights}
      (resolved : state.resolveDirectoryPath dirFd path Rights.pathOpen = .ok (location, rights))
      (free : state.namespaceEntryExists location = false) :
      Identifies state dirFd path truncate (state.nextInode + 1) true

theorem Represents.opens {table : FileTable Nat Nat} {state after : FilesystemState}
    (represents : Represents table state) (numbered : state.Numbered) (linked : state.Linked)
    {dirFd fd : Nat} {path : Path} {rightsBase : Rights} {options : OpenOptions}
    (opens : Opened state (.openFile dirFd path rightsBase options) fd after) :
    ∃ inode emptied next, Identifies state dirFd path options.truncate inode emptied ∧
      table.Step
        (.opens fd inode (decide (options.descriptorFlags &&& fdflagsAppend ≠ 0)) emptied) next ∧
      Represents next after := by
  cases opens with
  | @file _ _ _ _ _ _ _ file bytes resolved allocated found admitted truncated emptied =>
    have free := represents.free (allocateDynamicFd_ok allocated).noFile
    have carried : state.Carries file.toFileNode := .inl (mem_names found)
    have identified : Identifies state dirFd path options.truncate file.inode options.truncate :=
      .found resolved found
    refine ⟨file.inode, options.truncate, ?_⟩
    cases truncates : options.truncate with
    | false =>
      rw [truncates, if_neg (by decide)] at emptied
      rw [truncates] at identified
      refine ⟨_, identified, .opens free, ?_⟩
      rw [emptied]
      exact represents.setOpenFile fd (openedAs file rightsBase options.descriptorFlags) carried
    | true =>
      rw [truncates, if_pos rfl] at emptied
      rw [truncates] at identified
      refine ⟨_, identified, .opensEmpty free, ?_⟩
      rw [emptied]
      exact (represents.setBytes linked carried []).setOpenFile fd
        (openedAs file rightsBase options.descriptorFlags) carried
  | @created _ _ _ _ _ _ location bytes resolved allocated create mayCreate free parent writable
      truncated room =>
    have noFile := represents.free (allocateDynamicFd_ok allocated).noFile
    refine ⟨state.nextInode + 1, true, _, .created resolved free, .opensEmpty noFile, ?_⟩
    have fresh : (state.withFreshCells.bytes.get state.bytes.size) = [] := by
      rw [FilesystemState.withFreshCells, Arena.get_alloc, if_pos rfl]
    have kept (address : Nat) (below : address < state.bytes.size) :
        state.withFreshCells.bytes.get address = state.bytes.get address :=
      Arena.get_alloc_of_lt _ [] below
    apply represents.created numbered linked
      (openedAs (state.freshFile location) rightsBase options.descriptorFlags) rfl
    · rcases truncated with rfl | rfl
      · exact fresh
      · exact Arena.get_set_self ..
    · intro address below
      rcases truncated with rfl | rfl
      · exact kept address below
      · rw [Arena.get_set_of_ne _ _ (Nat.ne_of_lt below)]
        exact kept address below

/-- Every state has a table. -/
theorem exists_represents {state : FilesystemState} (linked : state.Linked) :
    ∃ table, Represents table state := by
  classical
  refine ⟨{
    contents := fun inode =>
      if named : ∃ node, state.Carries node ∧ node.inode = inode then
        state.bytes.get named.choose.bytes
      else []
    cursors := fun fd => (state.openFiles.lookup fd).map OpenFile.cursor }, fun _ => rfl, ?_⟩
  intro node carried
  have named : ∃ other, state.Carries other ∧ other.inode = node.inode := ⟨node, carried, rfl⟩
  obtain ⟨chosen, inode⟩ := named.choose_spec
  dsimp only
  rw [dif_pos named, linked.shares _ _ chosen carried (.inl inode)]

end MiniWasm.Wasi
