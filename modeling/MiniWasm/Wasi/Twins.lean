import MiniWasm.Wasi.Lifetimes

/-!
# Filesystems with different descriptors

Two states of the filesystem with the same entries, whose descriptors differ in one
preopen that only one of them has, and in the numbers of descriptors that were opened
since.  What is done through any other descriptor is done to both alike.
-/

namespace MiniWasm.Wasi

open Library Action MiniWasm.Runtime FilesystemState

/-! ## Tables -/

/-- The part of the state that says what numbers are bound to. -/
structure Tables where
  reservedPreopens : List Nat
  writablePreopens : List Nat
  openFiles : AList fun _ : Nat => OpenFile
  openDirectories : AList fun _ : Nat => OpenDirectory

/-- No preopen is listed twice, and there are not too many. -/
structure Tables.Listed (tables : Tables) : Prop where
  reserved : tables.reservedPreopens.Nodup
  writable : tables.writablePreopens.Nodup
  room : tables.reservedPreopens.length ≤ maxPreopenDirs

namespace FilesystemState

/-- The part of a filesystem in which twins may differ. -/
def tables (state : FilesystemState) : Tables where
  reservedPreopens := state.reservedPreopens
  writablePreopens := state.writablePreopens
  openFiles := state.openFiles
  openDirectories := state.openDirectories

/-- The same namespace and the same cells under other tables of descriptors. -/
def withTables (state : FilesystemState) (tables : Tables) : FilesystemState :=
  { state with
    reservedPreopens := tables.reservedPreopens
    writablePreopens := tables.writablePreopens
    openFiles := tables.openFiles
    openDirectories := tables.openDirectories }

section Entries

variable (state : FilesystemState) (tables : Tables) (location : Location)

@[simp] theorem withTables_fileAt :
    (state.withTables tables).fileAt location = state.fileAt location :=
  rfl

@[simp] theorem withTables_directoryAt :
    (state.withTables tables).directoryAt location = state.directoryAt location :=
  rfl

@[simp] theorem withTables_symlinkAt :
    (state.withTables tables).symlinkAt location = state.symlinkAt location :=
  rfl

@[simp] theorem withTables_directoryInode :
    (state.withTables tables).directoryInode location = state.directoryInode location :=
  rfl

@[simp] theorem withTables_mountedFiles :
    (state.withTables tables).mountedFiles = state.mountedFiles :=
  rfl

@[simp] theorem withTables_mountedDirectories :
    (state.withTables tables).mountedDirectories = state.mountedDirectories :=
  rfl

@[simp] theorem withTables_mountedSymlinks :
    (state.withTables tables).mountedSymlinks = state.mountedSymlinks :=
  rfl

@[simp] theorem withTables_linkCounts :
    (state.withTables tables).linkCounts = state.linkCounts :=
  rfl

end Entries

end FilesystemState

/-- A number that is neither the preopen nor that of a descriptor opened since. -/
def Known (preopen : Nat) (fresh : List (Nat × Nat)) (fd : Nat) : Prop :=
  fd ≠ preopen ∧ ∀ pair ∈ fresh, fd ≠ pair.1 ∧ fd ≠ pair.2

instance (preopen : Nat) (fresh : List (Nat × Nat)) (fd : Nat) :
    Decidable (Known preopen fresh fd) :=
  inferInstanceAs (Decidable (_ ∧ _))

/-- The numbers are bound to the same, but for the preopen, which the first tables do not
have, and for the descriptors opened since, whose numbers are paired. -/
structure Twin (preopen : Nat) (fresh : List (Nat × Nat)) (left right : Tables) : Prop where
  reserved : ∀ fd, fd ≠ preopen → (fd ∈ left.reservedPreopens ↔ fd ∈ right.reservedPreopens)
  writable : ∀ fd, fd ≠ preopen → (fd ∈ left.writablePreopens ↔ fd ∈ right.writablePreopens)
  notWritable : preopen ∉ left.writablePreopens
  files : ∀ fd, Known preopen fresh fd → left.openFiles.lookup fd = right.openFiles.lookup fd
  directories : ∀ fd, Known preopen fresh fd →
    left.openDirectories.lookup fd = right.openDirectories.lookup fd
  freshFiles : ∀ pair ∈ fresh,
    left.openFiles.lookup pair.1 = right.openFiles.lookup pair.2
  freshDirectories : ∀ pair ∈ fresh,
    left.openDirectories.lookup pair.1 = right.openDirectories.lookup pair.2
  freshOpen : ∀ pair ∈ fresh, (left.openFiles.lookup pair.1).isSome = true ∨
    (left.openDirectories.lookup pair.1).isSome = true
  fileCount : left.openFiles.keys.length = right.openFiles.keys.length
  directoryCount : left.openDirectories.keys.length = right.openDirectories.keys.length
  leftLists : left.Listed
  rightLists : right.Listed

/-- States with the same entries and with twin tables. -/
structure Alike (preopen : Nat) (fresh : List (Nat × Nat)) (left right : FilesystemState) :
    Prop where
  same : left = right.withTables left.tables
  twin : Twin preopen fresh left.tables right.tables

/-- The two actions have the same result and leave states that are alike. -/
def Matches {ε α : Type} (preopen : Nat) (fresh : List (Nat × Nat))
    (first second : Action FilesystemState ε α) (left right : FilesystemState) : Prop :=
  (first left).1 = (second right).1 ∧ Alike preopen fresh (first left).2 (second right).2

section Rules

variable {preopen : Nat} {fresh : List (Nat × Nat)} {left right : Tables}
  {state : FilesystemState} {ε α : Type} {fd : Nat}

theorem Twin.alike (twin : Twin preopen fresh left right) (same : state.tables = right) :
    Alike preopen fresh (state.withTables left) state :=
  ⟨rfl, same ▸ twin⟩

/-- Other preopens are live in both or in neither. -/
theorem Twin.hasPreopen (twin : Twin preopen fresh left state.tables) (known : fd ≠ preopen) :
    (state.withTables left).hasPreopen fd = state.hasPreopen fd :=
  decide_eq_decide.mpr (twin.reserved fd known)

theorem Twin.isWritablePreopen (twin : Twin preopen fresh left state.tables)
    (known : fd ≠ preopen) :
    (state.withTables left).isWritablePreopen fd = state.isWritablePreopen fd :=
  decide_eq_decide.mpr (twin.writable fd known)

/-- A number that both states have known all along belongs to the same open file. -/
theorem Twin.openFile (twin : Twin preopen fresh left state.tables)
    (known : Known preopen fresh fd) :
    (state.withTables left).openFiles.lookup fd = state.openFiles.lookup fd :=
  twin.files fd known

theorem Twin.openDirectory (twin : Twin preopen fresh left state.tables)
    (known : Known preopen fresh fd) :
    (state.withTables left).openDirectories.lookup fd = state.openDirectories.lookup fd :=
  twin.directories fd known

/-- So the location that a known descriptor stands for is the same. -/
theorem Twin.directoryContext (twin : Twin preopen fresh left state.tables)
    (known : Known preopen fresh fd) :
    (state.withTables left).directoryContext fd = state.directoryContext fd := by
  unfold FilesystemState.directoryContext directoryRights
  rw [twin.hasPreopen known.1, twin.isWritablePreopen known.1, twin.openDirectory known]

theorem Twin.resolveDirectoryPath (twin : Twin preopen fresh left state.tables)
    (known : Known preopen fresh fd) (path : Path) (required : Rights) :
    (state.withTables left).resolveDirectoryPath fd path required =
      state.resolveDirectoryPath fd path required := by
  rw [FilesystemState.resolveDirectoryPath, FilesystemState.resolveDirectoryPath,
    twin.directoryContext known]

/-! ## Operations on entries -/

/-- The first action does with other tables what the second does, which keeps its own. -/
def Follows (first second : Action FilesystemState ε α) (state : FilesystemState)
    (tables : Tables) : Prop :=
  first (state.withTables tables) =
      ((second state).1, (second state).2.withTables tables) ∧
    (second state).2.tables = state.tables

/-- What never touches the tables leaves them twins. -/
theorem Follows.matches {first second : Action FilesystemState ε α}
    (follows : Follows first second state left) (twin : Twin preopen fresh left state.tables) :
    Matches preopen fresh first second (state.withTables left) state := by
  obtain ⟨result, same⟩ := follows
  unfold Matches
  rw [result]
  exact ⟨rfl, twin.alike same⟩

theorem follows_fail (err : ε) :
    Follows (fail err : Action FilesystemState ε α) (fail err) state left :=
  ⟨rfl, rfl⟩

theorem follows_pure (value : α) :
    Follows (pure value : Action FilesystemState ε α) (pure value) state left :=
  ⟨rfl, rfl⟩

/-- An operation may look at the namespace at any point. -/
theorem follows_ask {next : FilesystemState → Action FilesystemState ε α}
    (continues : Follows (next (state.withTables left)) (next state) state left) :
    Follows (ask id >>= next) (ask id >>= next) state left :=
  continues

theorem follows_ite {condition : Prop} [Decidable condition]
    {yes no otherYes otherNo : Action FilesystemState ε α}
    (whenTrue : condition → Follows yes otherYes state left)
    (whenFalse : ¬ condition → Follows no otherNo state left) :
    Follows (if condition then yes else no) (if condition then otherYes else otherNo) state
      left := by
  by_cases holds : condition
  · rw [if_pos holds, if_pos holds]
    exact whenTrue holds
  · rw [if_neg holds, if_neg holds]
    exact whenFalse holds

/-- A path is resolved alike, relative to a known descriptor. -/
theorem follows_resolve {path : Path} {required : Rights}
    {convert : ResolveDirectoryError → ε}
    {next : Location × Rights → Action FilesystemState ε α}
    (twin : Twin preopen fresh left state.tables) (known : Known preopen fresh fd)
    (continues : ∀ location rights, Follows (next (location, rights)) (next (location, rights))
      state left) :
    Follows (resolve fd path required convert >>= next)
      (resolve fd path required convert >>= next) state left := by
  have sameResolution := twin.resolveDirectoryPath known path required
  cases resolved : state.resolveDirectoryPath fd path required with
  | error err =>
    rw [resolved] at sameResolution
    simp [Follows, bind, resolve, consult, sameResolution, resolved, Except.mapError]
  | ok result =>
    rw [resolved] at sameResolution
    obtain ⟨location, rights⟩ := result
    have continued := continues location rights
    simpa [Follows, bind, resolve, consult, sameResolution, resolved, Except.mapError]
      using continued

section Operations

variable {path : Path} (twin : Twin preopen fresh left state.tables)
  (known : Known preopen fresh fd)

include twin known

theorem createDirectory_follows :
    Follows (createDirectory fd path) (createDirectory fd path) state left := by
  apply follows_resolve twin known
  intro location rights
  apply follows_ask
  apply follows_ite
  · exact fun _ => follows_fail _
  intro free
  apply follows_ite
  · exact fun _ => follows_fail _
  intro room
  apply follows_ite
  · exact fun _ => follows_fail _
  intro parent
  apply follows_ite
  · exact fun _ => follows_fail _
  · exact fun _ => ⟨rfl, rfl⟩

theorem removeDirectory_follows :
    Follows (removeDirectory fd path) (removeDirectory fd path) state left := by
  apply follows_resolve twin known
  intro location rights
  apply follows_ask
  apply follows_ite
  · exact fun _ => follows_fail _
  intro isDirectory
  rw [withTables_mountedDirectories]
  cases state.mountedDirectories.findIdx? (·.toLocation = location) with
  | none => exact follows_fail _
  | some index =>
    apply follows_ite
    · exact fun _ => follows_fail _
    · exact fun _ => ⟨rfl, rfl⟩

theorem symlink_follows {target : Path} :
    Follows (symlink fd path target) (symlink fd path target) state left := by
  apply follows_resolve twin known
  intro location rights
  apply follows_ask
  apply follows_ite
  · exact fun _ => follows_fail _
  intro free
  apply follows_ite
  · exact fun _ => follows_fail _
  intro parent
  apply follows_ite
  · exact fun _ => follows_fail _
  intro room
  apply follows_ite
  · exact fun _ => follows_fail _
  · exact fun _ => ⟨rfl, rfl⟩

theorem readlink_follows : Follows (readlink fd path) (readlink fd path) state left := by
  apply follows_resolve twin known
  intro location rights
  apply follows_ask
  rw [withTables_symlinkAt]
  cases state.symlinkAt location with
  | some link => exact follows_pure _
  | none =>
    apply follows_ite
    · exact fun _ => follows_fail _
    · exact fun _ => follows_fail _

theorem unlink_follows : Follows (unlink fd path) (unlink fd path) state left := by
  apply follows_resolve twin known
  intro location rights
  apply follows_ask
  rw [withTables_mountedFiles, withTables_fileAt, withTables_mountedSymlinks]
  cases state.mountedFiles.findIdx? (·.toLocation = location) with
  | none =>
    cases state.mountedSymlinks.findIdx? (·.toLocation = location) with
    | none => exact follows_fail _
    | some index => exact ⟨rfl, rfl⟩
  | some index =>
    cases state.fileAt location with
    | none =>
      cases state.mountedSymlinks.findIdx? (·.toLocation = location) with
      | none => exact follows_fail _
      | some index => exact ⟨rfl, rfl⟩
    | some file =>
      dsimp only
      rw [withTables_linkCounts]
      cases state.linkCounts.get file.linkCount with
      | zero => exact follows_fail _
      | succ links => exact ⟨rfl, rfl⟩

theorem pathSetTimes_follows {update : TimeUpdate} :
    Follows (pathSetTimes fd path update) (pathSetTimes fd path update) state left := by
  apply follows_resolve twin known
  intro location rights
  apply follows_ask
  rw [withTables_fileAt, withTables_mountedDirectories, withTables_mountedSymlinks]
  cases state.fileAt location with
  | some file =>
    apply follows_ite
    · exact fun _ => follows_fail _
    · exact fun _ => ⟨rfl, rfl⟩
  | none =>
    cases state.mountedDirectories.findIdx? (·.toLocation = location) with
    | some index => exact ⟨rfl, rfl⟩
    | none =>
      cases state.mountedSymlinks.findIdx? (·.toLocation = location) with
      | some index => exact ⟨rfl, rfl⟩
      | none => exact follows_fail _

theorem link_follows {newFd : Nat} {newPath : Path} (newKnown : Known preopen fresh newFd) :
    Follows (link fd path newFd newPath) (link fd path newFd newPath) state left := by
  apply follows_resolve twin known
  intro old oldRights
  apply follows_resolve twin newKnown
  intro new newRights
  apply follows_ask
  apply follows_ite
  · exact fun _ => follows_fail _
  intro room
  apply follows_ite
  · exact fun _ => follows_fail _
  intro free
  apply follows_ite
  · exact fun _ => follows_fail _
  intro parent
  rw [withTables_fileAt]
  cases state.fileAt old with
  | none => exact follows_fail _
  | some file =>
    apply follows_ite
    · exact fun _ => follows_fail _
    intro small
    apply follows_ite
    · exact fun _ => follows_fail _
    · exact fun _ => ⟨rfl, rfl⟩

end Operations

/-- A rename names two preopens, and changes the namespace alone. -/
theorem rename_follows {old new : Location} (twin : Twin preopen fresh left state.tables)
    (oldKnown : old.preopenFd ≠ preopen) (newKnown : new.preopenFd ≠ preopen) :
    Follows (rename old new) (rename old new) state left := by
  apply follows_ask
  rw [twin.isWritablePreopen oldKnown, twin.isWritablePreopen newKnown]
  apply follows_ite
  · exact fun _ => follows_fail _
  intro writable
  apply follows_ite
  · exact fun _ => follows_fail _
  intro noSymlink
  rw [withTables_mountedFiles, withTables_fileAt, withTables_fileAt, withTables_linkCounts]
  cases state.mountedFiles.findIdx? (·.toLocation = old) with
  | none => exact follows_fail _
  | some sourceIndex =>
    cases state.fileAt old with
    | none => exact follows_fail _
    | some source =>
      apply follows_ite
      · exact fun _ => follows_pure _
      intro different
      cases state.mountedFiles.findIdx? (·.toLocation = new) with
      | none => exact ⟨rfl, rfl⟩
      | some targetIndex =>
        cases state.fileAt new with
        | none => exact ⟨rfl, rfl⟩
        | some target =>
          apply follows_ite
          · exact fun _ => follows_pure _
          intro otherFile
          cases state.linkCounts.get target.linkCount with
          | zero => exact follows_fail _
          | succ links => exact ⟨rfl, rfl⟩

end Rules

/-! ## Tables that change -/

/-- Overwriting an entry keeps the number of entries, which the limit is compared with. -/
theorem length_keys_insert {α : Type} {entries : AList fun _ : Nat => α} {key : Nat}
    {old new : α} (found : entries.lookup key = some old) :
    (entries.insert key new).keys.length = entries.keys.length := by
  have member : key ∈ entries.keys := by
    rw [← AList.mem_keys, ← AList.lookup_isSome, found]
    rfl
  rw [AList.keys_insert, List.length_cons, List.length_erase_of_mem member]
  have := List.length_pos_of_mem member
  omega

theorem length_keys_erase {α : Type} (entries : AList fun _ : Nat => α) (key : Nat) :
    (entries.erase key).keys.length =
      entries.keys.length - if (entries.lookup key).isSome then 1 else 0 := by
  rw [AList.keys_erase]
  split_ifs with found
  · rw [AList.lookup_isSome, AList.mem_keys] at found
    exact List.length_erase_of_mem found
  · rw [AList.lookup_isSome, AList.mem_keys] at found
    rw [List.erase_of_not_mem found, Nat.sub_zero]

section Changes

variable {preopen : Nat} {fresh : List (Nat × Nat)} {left right : Tables} {fd : Nat}

/-- A known number is not one that was opened since. -/
theorem Known.ne_left (known : Known preopen fresh fd) {pair : Nat × Nat} (member : pair ∈ fresh) :
    pair.1 ≠ fd :=
  (known.2 pair member).1.symm

theorem Known.ne_right (known : Known preopen fresh fd) {pair : Nat × Nat}
    (member : pair ∈ fresh) : pair.2 ≠ fd :=
  (known.2 pair member).2.symm

/-- The record of an open file is replaced in both tables. -/
theorem Twin.replaceFile (twin : Twin preopen fresh left right) (known : Known preopen fresh fd)
    {old new : OpenFile} (found : right.openFiles.lookup fd = some old) :
    Twin preopen fresh { left with openFiles := left.openFiles.insert fd new }
      { right with openFiles := right.openFiles.insert fd new } where
  reserved := twin.reserved
  writable := twin.writable
  notWritable := twin.notWritable
  files other otherKnown := by
    by_cases same : other = fd
    · subst same
      rw [AList.lookup_insert, AList.lookup_insert]
    · rw [AList.lookup_insert_ne same, AList.lookup_insert_ne same]
      exact twin.files other otherKnown
  directories := twin.directories
  freshFiles pair member := by
    rw [AList.lookup_insert_ne (known.ne_left member),
      AList.lookup_insert_ne (known.ne_right member)]
    exact twin.freshFiles pair member
  freshDirectories := twin.freshDirectories
  freshOpen pair member := by
    rw [AList.lookup_insert_ne (known.ne_left member)]
    exact twin.freshOpen pair member
  fileCount := by
    rw [length_keys_insert found, length_keys_insert ((twin.files fd known).trans found)]
    exact twin.fileCount
  directoryCount := twin.directoryCount
  leftLists := ⟨twin.leftLists.reserved, twin.leftLists.writable, twin.leftLists.room⟩
  rightLists := ⟨twin.rightLists.reserved, twin.rightLists.writable, twin.rightLists.room⟩

/-- The tables without a number. -/
def Tables.close (tables : Tables) (fd : Nat) : Tables where
  reservedPreopens := tables.reservedPreopens.erase fd
  writablePreopens := tables.writablePreopens.erase fd
  openFiles := tables.openFiles.erase fd
  openDirectories := tables.openDirectories.erase fd

/-- Closing keeps every number listed once. -/
theorem Tables.Listed.close {tables : Tables} (listed : tables.Listed) (fd : Nat) :
    (tables.close fd).Listed :=
  ⟨listed.reserved.erase fd, listed.writable.erase fd,
    (List.length_erase_le ..).trans listed.room⟩

/-- A known number is closed in both tables. -/
theorem Twin.close (twin : Twin preopen fresh left right) (known : Known preopen fresh fd) :
    Twin preopen fresh (left.close fd) (right.close fd) where
  reserved other different := by
    rw [Tables.close, Tables.close, twin.leftLists.reserved.mem_erase_iff,
      twin.rightLists.reserved.mem_erase_iff, twin.reserved other different]
  writable other different := by
    rw [Tables.close, Tables.close, twin.leftLists.writable.mem_erase_iff,
      twin.rightLists.writable.mem_erase_iff, twin.writable other different]
  notWritable member := twin.notWritable (List.mem_of_mem_erase member)
  files other otherKnown := by
    by_cases same : other = fd
    · subst same
      rw [Tables.close, Tables.close, AList.lookup_erase, AList.lookup_erase]
    · rw [Tables.close, Tables.close, AList.lookup_erase_ne same, AList.lookup_erase_ne same]
      exact twin.files other otherKnown
  directories other otherKnown := by
    by_cases same : other = fd
    · subst same
      rw [Tables.close, Tables.close, AList.lookup_erase, AList.lookup_erase]
    · rw [Tables.close, Tables.close, AList.lookup_erase_ne same, AList.lookup_erase_ne same]
      exact twin.directories other otherKnown
  freshFiles pair member := by
    rw [Tables.close, Tables.close, AList.lookup_erase_ne (known.ne_left member),
      AList.lookup_erase_ne (known.ne_right member)]
    exact twin.freshFiles pair member
  freshDirectories pair member := by
    rw [Tables.close, Tables.close, AList.lookup_erase_ne (known.ne_left member),
      AList.lookup_erase_ne (known.ne_right member)]
    exact twin.freshDirectories pair member
  freshOpen pair member := by
    rw [Tables.close, AList.lookup_erase_ne (known.ne_left member),
      AList.lookup_erase_ne (known.ne_left member)]
    exact twin.freshOpen pair member
  fileCount := by
    rw [Tables.close, Tables.close, length_keys_erase, length_keys_erase, twin.files fd known,
      twin.fileCount]
  directoryCount := by
    rw [Tables.close, Tables.close, length_keys_erase, length_keys_erase, twin.directories fd known,
      twin.directoryCount]
  leftLists := twin.leftLists.close fd
  rightLists := twin.rightLists.close fd

end Changes

/-! ## Operations on open files -/

section OpenFiles

variable {preopen : Nat} {fresh : List (Nat × Nat)} {left : Tables} {state : FilesystemState}
  {ε α β : Type} {fd : Nat}

theorem matches_fail (twin : Twin preopen fresh left state.tables) (err : ε) :
    Matches preopen fresh (fail err : Action FilesystemState ε α) (fail err)
      (state.withTables left) state :=
  ⟨rfl, twin.alike rfl⟩

theorem matches_pure (twin : Twin preopen fresh left state.tables) (value : α) :
    Matches preopen fresh (pure value : Action FilesystemState ε α) (pure value)
      (state.withTables left) state :=
  ⟨rfl, twin.alike rfl⟩

theorem matches_ite {condition : Prop} [Decidable condition]
    {yes no otherYes otherNo : Action FilesystemState ε α} {first second : FilesystemState}
    (whenTrue : condition → Matches preopen fresh yes otherYes first second)
    (whenFalse : ¬ condition → Matches preopen fresh no otherNo first second) :
    Matches preopen fresh (if condition then yes else no)
      (if condition then otherYes else otherNo) first second := by
  by_cases holds : condition
  · rw [if_pos holds, if_pos holds]
    exact whenTrue holds
  · rw [if_neg holds, if_neg holds]
    exact whenFalse holds

/-- The query answers alike, so both continue with the same value or fail with the same
error. -/
theorem matches_consult {query : FilesystemState → Except ε β}
    {next : β → Action FilesystemState ε α} (twin : Twin preopen fresh left state.tables)
    (same : query (state.withTables left) = query state)
    (continues : ∀ value, query state = .ok value →
      Matches preopen fresh (next value) (next value) (state.withTables left) state) :
    Matches preopen fresh (consult query >>= next) (consult query >>= next)
      (state.withTables left) state := by
  cases found : query state with
  | error err =>
    simp only [Matches, bind, consult, same, found]
    exact ⟨trivial, twin.alike rfl⟩
  | ok value =>
    have continued := continues value found
    simpa only [Matches, bind, consult, same, found] using continued

theorem matches_ask {query : FilesystemState → β} {next : β → Action FilesystemState ε α}
    (continues : Matches preopen fresh (next (query (state.withTables left)))
      (next (query state)) (state.withTables left) state) :
    Matches preopen fresh (ask query >>= next) (ask query >>= next) (state.withTables left)
      state :=
  continues

variable (twin : Twin preopen fresh left state.tables) (known : Known preopen fresh fd)

include twin known

/-- The flags and the rights of a known descriptor are the same in both states. -/
theorem readableFile_same (required : Rights) :
    (state.withTables left).readableFile fd required = state.readableFile fd required := by
  rw [readableFile, readableFile, twin.openFile known]

theorem writableFile_same (required : Rights) :
    (state.withTables left).writableFile fd required = state.writableFile fd required := by
  rw [writableFile, writableFile, twin.openFile known]

theorem prepareWrite_same (length : Nat) :
    (state.withTables left).prepareWrite fd length = state.prepareWrite fd length := by
  rw [prepareWrite, prepareWrite, ensureWritable, ensureWritable, writableFile_same twin known]
  rfl

theorem preparePwrite_same (offset length : Nat) :
    (state.withTables left).preparePwrite fd offset length =
      state.preparePwrite fd offset length := by
  rw [preparePwrite, preparePwrite, twin.openFile known]

theorem peek_same (maxLen : Nat) :
    (state.withTables left).peek fd maxLen = state.peek fd maxLen := by
  rw [peek, peek, ensureReadable, ensureReadable, readableFile_same twin known]
  rfl

theorem pread_same (offset maxLen : Nat) :
    (state.withTables left).pread fd offset maxLen = state.pread fd offset maxLen := by
  rw [pread, pread, ensurePreadable, ensurePreadable, readableFile_same twin known]
  rfl

theorem pollReadReady_same : (state.withTables left).pollReadReady fd = state.pollReadReady fd := by
  rw [pollReadReady, pollReadReady, ensureReadable, ensureReadable, readableFile_same twin known]
  rfl

theorem pollWriteReady_same :
    (state.withTables left).pollWriteReady fd = state.pollWriteReady fd := by
  rw [pollWriteReady, pollWriteReady, ensureWritable, ensureWritable,
    writableFile_same twin known]

theorem prepareSeek_same (delta : Int) (whence : Nat) :
    (state.withTables left).prepareSeek fd delta whence = state.prepareSeek fd delta whence := by
  rw [prepareSeek, prepareSeek, twin.openFile known]
  rfl

theorem tell_same : (state.withTables left).tell fd = state.tell fd := by
  rw [FilesystemState.tell, FilesystemState.tell, twin.openFile known]

theorem fdstat_same : (state.withTables left).fdstat fd = state.fdstat fd := by
  rw [fdstat, fdstat, twin.openFile known, twin.openDirectory known]

theorem filestat_same : (state.withTables left).filestat fd = state.filestat fd := by
  rw [filestat, filestat, twin.openFile known]
  rfl

/-- The entry found at a path depends on the namespace below the descriptor. -/
theorem pathFilestat_same (path : Path) :
    (state.withTables left).pathFilestat fd path = state.pathFilestat fd path := by
  rw [pathFilestat, pathFilestat, twin.resolveDirectoryPath known]
  rfl

/-- A listing depends on the namespace below the descriptor. -/
theorem readdirSnapshot_same (cookie : Nat) :
    (state.withTables left).readdirSnapshot fd cookie = state.readdirSnapshot fd cookie := by
  have sameContext : (state.withTables left).readdirContext fd = state.readdirContext fd := by
    rw [readdirContext, readdirContext, twin.hasPreopen known.1, twin.isWritablePreopen known.1,
      twin.openDirectory known, twin.openFile known]
  rw [readdirSnapshot, readdirSnapshot, sameContext]
  rfl

theorem isKnownNonFile_same :
    (state.withTables left).isKnownNonFile fd = state.isKnownNonFile fd := by
  rw [isKnownNonFile, isKnownNonFile, twin.hasPreopen known.1, twin.openDirectory known]

/-- Preopens and open directories both count. -/
theorem hasDirectoryDescriptor_same :
    (state.withTables left).hasDirectoryDescriptor fd = state.hasDirectoryDescriptor fd := by
  rw [hasDirectoryDescriptor, hasDirectoryDescriptor, twin.hasPreopen known.1,
    twin.openDirectory known]

theorem advance_matches {length : Nat} :
    Matches preopen fresh (advance fd length) (advance fd length) (state.withTables left)
      state := by
  apply matches_consult twin (readableFile_same twin known _)
  intro file found
  exact ⟨rfl, rfl, twin.replaceFile known (readableFile_ok found).1⟩

/-- The node is shared, so the bytes arrive in the same cell; the offset moves in both
tables. -/
theorem write_matches {payload : List UInt8} :
    Matches preopen fresh (write fd payload) (write fd payload) (state.withTables left)
      state := by
  apply matches_consult twin (prepareWrite_same twin known _)
  intro _ prepared
  apply matches_ite
  · exact fun _ => matches_pure twin ()
  intro some'
  apply matches_consult twin (writableFile_same twin known _)
  intro file found
  apply matches_ask
  apply matches_consult twin rfl
  intro stop checked
  exact ⟨rfl, rfl, twin.replaceFile known (writableFile_ok found).1⟩

theorem pwrite_matches {offset : Nat} {payload : List UInt8} :
    Matches preopen fresh (pwrite fd offset payload) (pwrite fd offset payload)
      (state.withTables left) state := by
  apply matches_consult twin (preparePwrite_same twin known _ _)
  intro _ prepared
  apply matches_ite
  · exact fun _ => matches_pure twin ()
  intro some'
  apply matches_ask
  rw [id, id, twin.openFile known]
  cases state.openFiles.lookup fd with
  | none => exact matches_fail twin _
  | some file => exact ⟨rfl, rfl, twin⟩

theorem setFlags_matches {flags : BitVec 16} :
    Matches preopen fresh (setFlags fd flags) (setFlags fd flags) (state.withTables left)
      state := by
  apply matches_ask
  rw [id, id, twin.openFile known]
  cases found : state.openFiles.lookup fd with
  | none => exact matches_fail twin _
  | some file =>
    apply matches_ite
    · exact fun _ => matches_fail twin _
    intro mayChange
    apply matches_ite
    · exact fun _ => matches_fail twin _
    · exact fun _ => ⟨rfl, rfl, twin.replaceFile known found⟩

/-- `fd_allocate` and `fd_filestat_set_size` at once. -/
theorem resizeFile_matches {required : Rights} {start length : Nat}
    {change : List UInt8 → Nat → List UInt8} :
    Matches preopen fresh (resizeFile fd required start length change)
      (resizeFile fd required start length change) (state.withTables left) state := by
  apply matches_consult twin (writableFile_same twin known _)
  intro file found
  apply matches_consult twin rfl
  intro stop checked
  exact ⟨rfl, rfl, twin⟩

theorem setTimes_matches {update : TimeUpdate} :
    Matches preopen fresh (setTimes fd update) (setTimes fd update) (state.withTables left)
      state := by
  apply matches_ask
  rw [id, id, twin.openFile known]
  cases state.openFiles.lookup fd with
  | none => exact matches_fail twin _
  | some file =>
    apply matches_ite
    · exact fun _ => matches_fail twin _
    · exact fun _ => ⟨rfl, rfl, twin⟩

theorem commitSeek_matches {offset : Nat} :
    Matches (ε := ε) preopen fresh (commitSeek fd offset) (commitSeek fd offset)
      (state.withTables left) state := by
  apply matches_ask
  rw [id, id, twin.openFile known]
  cases found : state.openFiles.lookup fd with
  | none => exact matches_pure twin _
  | some file => exact ⟨rfl, rfl, twin.replaceFile known found⟩

/-- Closing a known number removes it from both tables. -/
theorem close_matches :
    Matches (ε := ε) preopen fresh (close fd) (close fd) (state.withTables left) state := by
  have sameAnswer : (((state.withTables left).openFiles.lookup fd).isSome ||
      ((state.withTables left).openDirectories.lookup fd).isSome ||
      (state.withTables left).hasPreopen fd) =
      ((state.openFiles.lookup fd).isSome || (state.openDirectories.lookup fd).isSome ||
        state.hasPreopen fd) := by
    rw [twin.openFile known, twin.openDirectory known, twin.hasPreopen known.1]
  exact ⟨congrArg Except.ok sameAnswer, rfl, twin.close known⟩

end OpenFiles

end MiniWasm.Wasi
