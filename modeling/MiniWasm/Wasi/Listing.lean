import MiniWasm.Library.Pages
import MiniWasm.Wasi.Reach
import MiniWasm.Wasi.Resources
import MiniWasm.Wasi.Strings

/-!
# Listing directories

What `fd_readdir` lists, the bytes that one call writes, and what a guest collects that calls
it again and again, from the last entry that it got as a whole.
-/

namespace MiniWasm.Wasi

open Library Action Callback MiniWasm.Runtime FilesystemState

/-! ## The entries of a directory -/

/-- The location is that of a child of the base, under this name. -/
def IsChild (base entry : Location) (name : Path) : Prop :=
  entry = base.at name ∧ name ≠ [] ∧ slash ∉ name

instance (base entry : Location) (name : Path) : Decidable (IsChild base entry name) :=
  inferInstanceAs (Decidable (_ ∧ _))

/-- All entries of the namespace, with their inodes and types. -/
def FilesystemState.nodes (state : FilesystemState) : List (Location × Nat × FileType) :=
  state.mountedDirectories.map (fun directory =>
      (directory.toLocation, directory.inode, .directory)) ++
    state.mountedFiles.map (fun file => (file.toLocation, file.inode, .regularFile)) ++
    state.mountedSymlinks.map fun link => (link.toLocation, link.inode, .symbolicLink)

/-- The children of a directory: each entry of the namespace as often as there is one, in the
order of the names as byte strings. -/
structure ListsChildren (state : FilesystemState) (base : Location)
    (children : List (Path × Nat × FileType)) : Prop where
  each : ∀ name inode filetype, children.count (name, inode, filetype) =
    state.nodes.countP fun node => IsChild base node.1 name ∧ node.2 = (inode, filetype)
  sorted : children.Pairwise fun left right =>
    left.1.map UInt8.toNat ≤ right.1.map UInt8.toNat

theorem childName_iff {base entry : Location} {name : Path} :
    childName base entry = some name ↔ IsChild base entry name := by
  unfold childName IsChild
  by_cases same : entry.preopenFd = base.preopenFd
  · rw [if_pos same, ← relativeToDirectory_iff same]
    unfold immediateChildName
    cases relativeToDirectory base.relativePath entry.relativePath with
    | none => simp
    | some remainder =>
      dsimp only
      split_ifs with excluded
      · refine ⟨nofun, ?_⟩
        rintro ⟨found, named, noSlash⟩
        cases found
        exact absurd excluded (not_or.mpr ⟨named, noSlash⟩)
      · constructor
        · intro found
          cases found
          exact ⟨rfl, not_or.mp excluded⟩
        · exact And.left
  · rw [if_neg same]
    refine ⟨nofun, ?_⟩
    rintro ⟨rfl, -⟩
    exact absurd rfl same

theorem sortByName_perm (children : List (Path × Nat × FileType)) :
    (sortByName children).Perm children :=
  List.perm_insertionSort ..

theorem sortByName_sorted (children : List (Path × Nat × FileType)) :
    (sortByName children).Pairwise fun left right =>
      left.1.map UInt8.toNat ≤ right.1.map UInt8.toNat := by
  have total : Std.Total fun left right : Path × Nat × FileType =>
      left.1.map UInt8.toNat ≤ right.1.map UInt8.toNat :=
    ⟨fun _ _ => le_total ..⟩
  have transitive : IsTrans _ fun left right : Path × Nat × FileType =>
      left.1.map UInt8.toNat ≤ right.1.map UInt8.toNat :=
    ⟨fun _ _ _ first second => le_trans first second⟩
  exact List.pairwise_insertionSort ..

theorem readdirChildren_lists (state : FilesystemState) (base : Location) :
    ListsChildren state base (state.readdirChildren base) := by
  have unsorted : state.readdirChildren base = sortByName (state.nodes.filterMap fun node =>
      (childName base node.1).map (·, node.2)) := by
    simp only [readdirChildren, nodes, List.filterMap_append, List.filterMap_map]
    rfl
  rw [unsorted]
  constructor
  · intro name inode filetype
    rw [(sortByName_perm _).count_eq, List.count, List.countP_filterMap]
    apply List.countP_congr
    rintro ⟨entry, child⟩ -
    cases found : childName base entry with
    | none =>
      have noChild : ¬ IsChild base entry name := fun child => by
        rw [childName_iff.mpr child] at found
        cases found
      simp [noChild]
    | some other =>
      have only : IsChild base entry name ↔ other = name := by
        rw [← childName_iff, found, Option.some.injEq]
      simp [only]
  · exact sortByName_sorted _

/-- A live descriptor of a directory that may be listed, on which listing is supported. -/
structure Listable (state : FilesystemState) (fd : Nat) (base : Location)
    (inode parentInode : Nat) : Prop where
  granted : ∃ rights, state.readdirContext fd = .ok (base, inode, parentInode, rights) ∧
    rights &&& Rights.fdReaddir ≠ 0
  supported : ∀ file ∈ state.mountedFiles, state.missesDirectory base file = false

/-- The directory, its parent and its children, each with the position behind it. -/
structure IsListing (state : FilesystemState) (base : Location) (inode parentInode : Nat)
    (entries : List ReaddirEntry) : Prop where
  listed : ∃ children, ListsChildren state base children ∧
    entries.map (fun entry => (entry.name, entry.inode, entry.filetype)) =
      ([dot], inode, .directory) :: ([dot, dot], parentInode, .directory) :: children
  next : ∀ position entry, entries[position]? = some entry → entry.next = position + 1

/-- All entries that `fd_readdir` finds. -/
def FilesystemState.listing (state : FilesystemState) (base : Location)
    (inode parentInode : Nat) : List ReaddirEntry :=
  { next := 1, inode, filetype := .directory, name := [dot] } ::
    { next := 2, inode := parentInode, filetype := .directory, name := [dot, dot] } ::
      (state.readdirChildren base).mapIdx fun index (name, inode, filetype) =>
        { next := index + 3, inode, filetype, name }

theorem listing_isListing (state : FilesystemState) (base : Location) (inode parentInode : Nat) :
    IsListing state base inode parentInode (state.listing base inode parentInode) := by
  constructor
  · refine ⟨state.readdirChildren base, readdirChildren_lists state base, ?_⟩
    have kept : ((state.readdirChildren base).mapIdx fun index child =>
        { next := index + 3, inode := child.2.1, filetype := child.2.2, name := child.1 :
          ReaddirEntry }).map (fun entry => (entry.name, entry.inode, entry.filetype)) =
        state.readdirChildren base := by
      apply List.ext_getElem?
      intro index
      rw [List.getElem?_map, List.getElem?_mapIdx, Option.map_map]
      exact Option.map_id'
    rw [listing, List.map_cons, List.map_cons]
    exact congrArg _ (congrArg _ kept)
  · intro position entry found
    match position with
    | 0 =>
      cases found
      rfl
    | 1 =>
      cases found
      rfl
    | position + 2 =>
      simp only [listing, List.getElem?_cons_succ, List.getElem?_mapIdx] at found
      obtain ⟨child, -, rfl⟩ := Option.map_eq_some_iff.mp found
      rfl

theorem Listable.readdirSnapshot {state : FilesystemState} {fd : Nat} {base : Location}
    {inode parentInode : Nat} (listable : Listable state fd base inode parentInode)
    (cookie : Nat) :
    state.readdirSnapshot fd cookie = .ok ((state.listing base inode parentInode).drop cookie) := by
  obtain ⟨⟨rights, context, granted⟩, supported⟩ := listable
  have none : ¬ state.mountedFiles.any (state.missesDirectory base) = true := by
    simpa using supported
  simp only [FilesystemState.readdirSnapshot, context, ok_bind, if_neg granted, if_neg none]
  rfl

theorem listable_of_readdirSnapshot {state : FilesystemState} {fd cookie : Nat}
    {entries : List ReaddirEntry} (listed : state.readdirSnapshot fd cookie = .ok entries) :
    ∃ base inode parentInode, Listable state fd base inode parentInode := by
  unfold FilesystemState.readdirSnapshot at listed
  obtain ⟨⟨base, inode, parentInode, rights⟩, context, listed⟩ := bind_ok.mp listed
  dsimp only at listed
  split_ifs at listed with denied misses
  rw [Bool.not_eq_true, List.any_eq_false] at misses
  refine ⟨base, inode, parentInode, ⟨rights, context, denied⟩, fun file member => ?_⟩
  simpa using misses file member

/-! ## One call -/

/-- The bytes that one call returns: the serialised entries from a position on, cut off at the
end of the buffer. -/
def direntPage (entries : List ReaddirEntry) (cookie bufLen : Nat) : List UInt8 :=
  ((entries.drop cookie).flatMap encodeDirent).take bufLen

theorem Listable.fdReaddir_ok {host after : Host} {memory : LinearMemory}
    {fd buf bufLen cookie bufused : Nat} {base : Location} {inode parentInode : Nat}
    (listable : Listable host.state.filesystem fd base inode parentInode)
    (readWrite : host.capabilities = .readWrite) (found : host.memory = some memory) :
    Callbacks.fdReaddir fd buf bufLen cookie bufused host = (.ok (), after) ↔
      InBounds memory buf bufLen ∧ InBounds memory bufused 4 ∧
        let page := direntPage (host.state.filesystem.listing base inode parentInode) cookie bufLen
        after = host.rewritten
          ((memory.writeBytes buf page).writeBytes bufused (leBytes 4 page.length)) := by
  have queried : Callback.query ReaddirError.errno
      (fun state : FilesystemState => state.readdirSnapshot fd cookie) host =
        (.ok ((host.state.filesystem.listing base inode parentInode).drop cookie), host) := by
    simp [Callback.query, consult, listable.readdirSnapshot, Except.mapError]
  have filled := @fillDirents_eq bufLen
    ((host.state.filesystem.listing base inode parentInode).drop cookie) [] (Nat.zero_le _)
  rw [List.nil_append, ← direntPage] at filled
  have within : (direntPage (host.state.filesystem.listing base inode parentInode) cookie
      bufLen).length ≤ bufLen := by
    rw [direntPage, List.length_take]
    exact Nat.min_le_left ..
  rw [Callbacks.fdReaddir, bind_of_ok queried, filled]
  dsimp only
  rw [writeBoth_ok readWrite found within, leBytes_length]

theorem listable_of_fdReaddir {host after : Host} {fd buf bufLen cookie bufused : Nat}
    (listed : Callbacks.fdReaddir fd buf bufLen cookie bufused host = (.ok (), after)) :
    ∃ base inode parentInode, Listable host.state.filesystem fd base inode parentInode := by
  cases snapshot : host.state.filesystem.readdirSnapshot fd cookie with
  | error err =>
    have refused : Callback.query ReaddirError.errno
        (fun state : FilesystemState => state.readdirSnapshot fd cookie) host =
          (.error (.errno err.errno), host) := by
      simp [Callback.query, consult, snapshot, Except.mapError]
    rw [Callbacks.fdReaddir, bind_of_error refused] at listed
    cases listed
  | ok entries => exact listable_of_readdirSnapshot snapshot

/-! ## Complete entries -/

/-- The length of an entry whose header the bytes start with. -/
def direntSize (bytes : List UInt8) : Nat :=
  24 + u32At bytes 16

/-- The entries that the bytes hold as a whole. -/
def completeDirents : (fuel : Nat) → List UInt8 → List (List UInt8)
  | 0, _ => []
  | fuel + 1, bytes =>
      if bytes.length < 24 ∨ bytes.length < direntSize bytes then []
      else
        bytes.take (direntSize bytes) :: completeDirents fuel (bytes.drop (direntSize bytes))

def returnedDirents (bytes : List UInt8) : List (List UInt8) :=
  completeDirents bytes.length bytes

/-- `d_next`, the cookie to resume at. -/
def direntNext (record : List UInt8) : I64 :=
  BitVec.ofNat 64 (LinearMemory.fromLeBytes (record.take 8))

@[simp] theorem direntHeader_length (entry : ReaddirEntry) : (direntHeader entry).length = 24 := by
  simp [direntHeader]

@[simp] theorem encodeDirent_length (entry : ReaddirEntry) :
    (encodeDirent entry).length = 24 + entry.name.length := by
  simp [encodeDirent]

theorem direntSize_eq {entry : ReaddirEntry} (short : entry.name.length < 2 ^ 32)
    {bytes : List UInt8} (starts : direntHeader entry <+: bytes) :
    direntSize bytes = 24 + entry.name.length := by
  obtain ⟨rest, rfl⟩ := starts
  have slice : sliceAt (direntHeader entry ++ rest) 16 4 = leBytes 4 entry.name.length := by
    have front : direntHeader entry ++ rest = (leBytes 8 entry.next ++ leBytes 8 entry.inode) ++
        (leBytes 4 entry.name.length ++
          (leBytes 1 entry.filetype.code ++ leBytes 3 0 ++ rest)) := by
      simp [direntHeader]
    rw [sliceAt, front, List.drop_left' (by simp), List.take_left' (by simp)]
  rw [direntSize, u32At, slice, leBytes, LinearMemory.fromLeBytes_toLeBytes]
  exact congrArg (24 + ·) (Nat.mod_eq_of_lt short)

theorem direntNext_eq (entry : ReaddirEntry) :
    direntNext (encodeDirent entry) = BitVec.ofNat 64 entry.next := by
  have front : encodeDirent entry = leBytes 8 entry.next ++ (leBytes 8 entry.inode ++
      leBytes 4 entry.name.length ++ leBytes 1 entry.filetype.code ++ leBytes 3 0 ++
        entry.name) := by
    simp [encodeDirent, direntHeader]
  rw [direntNext, front, List.take_left' (by simp), leBytes, LinearMemory.fromLeBytes_toLeBytes]
  apply BitVec.eq_of_toNat_eq
  rw [BitVec.toNat_ofNat, BitVec.toNat_ofNat]
  exact Nat.mod_mod ..

theorem sliceAt_middle {front middle back : List UInt8} {offset length : Nat}
    (before : front.length = offset) (inside : middle.length = length) :
    sliceAt (front ++ (middle ++ back)) offset length = middle := by
  rw [sliceAt, List.drop_left' before, List.take_left' inside]

/-- The places of a record: `d_next`, `d_ino`, `d_namlen`, `d_type`, and behind three bytes
of padding the name. -/
theorem encodeDirent_layout (entry : ReaddirEntry) :
    sliceAt (encodeDirent entry) 0 8 = leBytes 8 entry.next ∧
      sliceAt (encodeDirent entry) 8 8 = leBytes 8 entry.inode ∧
      sliceAt (encodeDirent entry) 16 4 = leBytes 4 entry.name.length ∧
      sliceAt (encodeDirent entry) 20 1 = leBytes 1 entry.filetype.code ∧
      sliceAt (encodeDirent entry) 21 3 = [0, 0, 0] ∧
      sliceAt (encodeDirent entry) 24 entry.name.length = entry.name := by
  have fields : encodeDirent entry = leBytes 8 entry.next ++ (leBytes 8 entry.inode ++
      (leBytes 4 entry.name.length ++ (leBytes 1 entry.filetype.code ++ (leBytes 3 0 ++
        (entry.name ++ []))))) := by
    simp [encodeDirent, direntHeader]
  rw [fields]
  refine ⟨List.take_left' (by simp), sliceAt_middle (by simp) (by simp), ?_, ?_, ?_, ?_⟩
  · rw [← List.append_assoc]
    exact sliceAt_middle (by simp) (by simp)
  · rw [← List.append_assoc, ← List.append_assoc]
    exact sliceAt_middle (by simp) (by simp)
  · rw [← List.append_assoc, ← List.append_assoc, ← List.append_assoc]
    exact sliceAt_middle (by simp) (by simp)
  · rw [← List.append_assoc, ← List.append_assoc, ← List.append_assoc, ← List.append_assoc]
    exact sliceAt_middle (by simp) rfl

/-- A page holds as a whole the first entries that fit into the buffer. -/
theorem completeDirents_page {entries : List ReaddirEntry}
    (short : ∀ entry ∈ entries, entry.name.length < 2 ^ 32) {room fuel : Nat}
    (enough : ((entries.flatMap encodeDirent).take room).length ≤ fuel) :
    completeDirents fuel ((entries.flatMap encodeDirent).take room) =
      (fitting (fun entry => 24 + entry.name.length) room entries).map encodeDirent := by
  induction entries generalizing room fuel with
  | nil =>
    rw [List.flatMap_nil, List.take_nil]
    cases fuel with
    | zero => rfl
    | succ fuel => simp [completeDirents, fitting]
  | cons entry entries ih =>
    have nameShort := short entry List.mem_cons_self
    rw [List.flatMap_cons] at enough ⊢
    unfold fitting
    split_ifs with fits
    · have bytes : (encodeDirent entry ++ entries.flatMap encodeDirent).take room =
          encodeDirent entry ++
            (entries.flatMap encodeDirent).take (room - (24 + entry.name.length)) := by
        rw [List.take_append, List.take_of_length_le (by rwa [encodeDirent_length]),
          encodeDirent_length]
      rw [bytes, List.length_append, encodeDirent_length] at enough
      obtain ⟨fuel, rfl⟩ : ∃ smaller, fuel = smaller + 1 := ⟨fuel - 1, by omega⟩
      have size : direntSize (encodeDirent entry ++
          (entries.flatMap encodeDirent).take (room - (24 + entry.name.length))) =
            24 + entry.name.length :=
        direntSize_eq nameShort ⟨_, (List.append_assoc ..).symm⟩
      have rest := @ih (fun other member => short other (List.mem_cons_of_mem _ member))
        (room - (24 + entry.name.length)) fuel (by omega)
      rw [bytes, completeDirents, size, List.length_append, encodeDirent_length,
        if_neg (by omega), List.take_left' (encodeDirent_length entry),
        List.drop_left' (encodeDirent_length entry), rest]
      rfl
    · have bytes : (encodeDirent entry ++ entries.flatMap encodeDirent).take room =
          (encodeDirent entry).take room :=
        List.take_append_of_le_length (by rw [encodeDirent_length]; omega)
      rw [bytes]
      cases fuel with
      | zero => rfl
      | succ fuel =>
        have length : ((encodeDirent entry).take room).length = room := by
          rw [List.length_take, encodeDirent_length]
          omega
        rw [completeDirents, if_pos]
        · rfl
        · by_cases cut : room < 24
          · exact .inl (by rwa [length])
          · have starts : direntHeader entry <+: (encodeDirent entry).take room := by
              rw [encodeDirent, List.take_append, List.take_of_length_le (by simp; omega)]
              exact List.prefix_append ..
            exact .inr (by rw [length, direntSize_eq nameShort starts]; omega)

/-! ## Listing page by page -/

/-- Every call with this cookie and this length of the buffer writes these bytes to the buffer
and their number, and changes nothing else; it succeeds when both ranges lie in the memory. -/
structure ServesDirents (config : Config) (state : WasiState) (fd bufLen : I32) (cookie : I64)
    (bytes : List UInt8) : Prop where
  within : bytes.length ≤ bufLen.toNat
  answers : ∀ memory buf bufused after,
    respond config state ⟨some memory, .fdReaddir fd buf bufLen cookie bufused⟩ =
        (.ok (), after) ↔
      InBounds memory buf.toNat bufLen.toNat ∧ InBounds memory bufused.toNat 4 ∧
        after = (Request.host ⟨some memory, .fdReaddir fd buf bufLen cookie bufused⟩
          state).rewritten ((memory.writeBytes buf.toNat bytes).writeBytes bufused.toNat
            (leBytes 4 bytes.length))

section Pages

variable {config : Config} {state : WasiState} {fd bufLen : I32} {base : Location}
  {inode parentInode : Nat}

theorem Listable.serves (listable : Listable state.filesystem fd.toNat base inode parentInode)
    (cookie : I64) :
    ServesDirents config state fd bufLen cookie
      (direntPage (state.filesystem.listing base inode parentInode) cookie.toNat
        bufLen.toNat) where
  within := by
    rw [direntPage, List.length_take]
    exact Nat.min_le_left ..
  answers memory buf bufused after := @Listable.fdReaddir_ok
    (Request.host ⟨some memory, .fdReaddir fd buf bufLen cookie bufused⟩ state) after memory
    fd.toNat buf.toNat bufLen.toNat cookie.toNat bufused.toNat base inode parentInode listable
    rfl rfl

/-- What two writes left, one behind the other. -/
theorem writeBytes_read {memory : LinearMemory} {start behind : Nat} {first second : List UInt8}
    (apart : start + first.length ≤ behind)
    (inside : behind + second.length ≤ memory.bytes.length) :
    let written := (memory.writeBytes start first).writeBytes behind second
    written.readBytes start first.length = first ∧
      written.readBytes behind second.length = second := by
  constructor
  · have kept := @take_drop_overwrite_apart _ (memory.writeBytes start first).bytes second behind
      start first.length (.inl apart)
    exact kept.trans (take_drop_overwrite (by omega))
  · exact take_drop_overwrite (by rwa [LinearMemory.writeBytes_length])

/-- A call shows which bytes it writes. -/
theorem ServesDirents.unique {cookie : I64} {first second : List UInt8}
    (one : ServesDirents config state fd bufLen cookie first)
    (other : ServesDirents config state fd bufLen cookie second) : first = second := by
  let memory : LinearMemory := ⟨List.replicate (bufLen.toNat + 4) 0, 0⟩
  have small := bufLen.isLt
  have length : memory.bytes.length = bufLen.toNat + 4 := List.length_replicate
  have start : (0 : I32).toNat = 0 := rfl
  have bufInside : InBounds memory (0 : I32).toNat bufLen.toNat := by
    rw [start]
    exact ⟨by omega, by rw [length]; omega⟩
  have usedInside : InBounds memory bufLen.toNat 4 := ⟨by omega, by rw [length]⟩
  have succeeds := (one.answers memory 0 bufLen _).mpr ⟨bufInside, usedInside, rfl⟩
  obtain ⟨-, -, same⟩ := (other.answers memory 0 bufLen _).mp succeeds
  have written := Option.some.inj (congrArg Host.memory same)
  rw [start] at written
  have firstShort := one.within
  have secondShort := other.within
  obtain ⟨firstRead, firstCount⟩ := @writeBytes_read memory 0 bufLen.toNat first
    (leBytes 4 first.length) (by omega) (by rw [leBytes_length, length])
  obtain ⟨secondRead, secondCount⟩ := @writeBytes_read memory 0 bufLen.toNat second
    (leBytes 4 second.length) (by omega) (by rw [leBytes_length, length])
  rw [leBytes_length] at firstCount secondCount
  have counts : first.length = second.length := by
    refine @LinearMemory.toLeBytes_injective 4 _ _ ?_ ?_ ?_
    · exact Nat.lt_of_le_of_lt firstShort small
    · exact Nat.lt_of_le_of_lt secondShort small
    · exact firstCount.symm.trans
        ((congrArg (·.readBytes bufLen.toNat 4) written).trans secondCount)
  rw [counts] at firstRead
  exact firstRead.symm.trans
    ((congrArg (·.readBytes 0 second.length) (counts ▸ written)).trans secondRead)

theorem mem_readdirChildren {filesystem : FilesystemState} {name : Path} {inode : Nat}
    {filetype : FileType} (member : (name, inode, filetype) ∈ filesystem.readdirChildren base) :
    ∃ location ∈ filesystem.locations, IsChild base location name := by
  have present := List.count_pos_iff.mpr member
  rw [(readdirChildren_lists filesystem base).each, List.countP_pos_iff] at present
  obtain ⟨node, listed, child⟩ := present
  refine ⟨node.1, ?_, (of_decide_eq_true child).1⟩
  simp only [nodes, List.mem_append, List.mem_map] at listed
  simp only [locations, List.mem_append, List.mem_map]
  rcases listed with (⟨directory, at_, rfl⟩ | ⟨file, at_, rfl⟩) | ⟨link, at_, rfl⟩
  · exact .inl (.inr ⟨directory, at_, rfl⟩)
  · exact .inl (.inl ⟨file, at_, rfl⟩)
  · exact .inr ⟨link, at_, rfl⟩

/-- The names of a listing are short enough for their length to be written. -/
theorem listing_names_short {filesystem : FilesystemState} (valid : filesystem.PathsValid) :
    ∀ entry ∈ filesystem.listing base inode parentInode, entry.name.length < 2 ^ 32 := by
  intro entry member
  simp only [listing, List.mem_cons, List.mem_mapIdx] at member
  rcases member with rfl | rfl | ⟨index, inside, rfl⟩
  · show 1 < 2 ^ 32
    decide
  · show 2 < 2 ^ 32
    decide
  · obtain ⟨location, stored, rfl, -, -⟩ :=
      @mem_readdirChildren base filesystem _ _ _ (List.getElem_mem inside)
    have bounded := (validateGuestPath_iff.mp (valid.entries _ stored)).bounded
    generalize (filesystem.readdirChildren base)[index].1 = name at bounded ⊢
    show name.length < 2 ^ 32
    unfold Location.at joinRelative maxRelativePathBytes at bounded
    dsimp only at bounded
    split_ifs at bounded
    · omega
    · rw [List.length_append, List.length_cons] at bounded
      omega

/-- A listing is short enough for its positions to be cookies. -/
theorem listing_short {filesystem : FilesystemState} (limits : filesystem.WithinLimits) :
    (filesystem.listing base inode parentInode).length < 2 ^ 64 := by
  have entries := limits.entries
  unfold maxMountedFiles namespaceEntryCount at entries
  have children : (filesystem.readdirChildren base).length ≤ filesystem.nodes.length := by
    have unsorted : (filesystem.readdirChildren base).Perm (filesystem.nodes.filterMap fun node =>
        (childName base node.1).map (·, node.2)) := by
      simp only [readdirChildren, nodes, List.filterMap_append, List.filterMap_map]
      exact sortByName_perm _
    rw [unsorted.length_eq]
    exact List.length_filterMap_le ..
  simp only [nodes, List.length_append, List.length_map] at children
  simp only [listing, List.length_cons, List.length_mapIdx]
  omega

/-- The pages that `fd_readdir` hands out come from the list of the entries. -/
theorem Listable.pages {entries : List ReaddirEntry}
    (listed : entries = state.filesystem.listing base inode parentInode)
    (listable : Listable state.filesystem fd.toNat base inode parentInode)
    (names : ∀ entry ∈ entries, entry.name.length < 2 ^ 32) (few : entries.length < 2 ^ 64)
    (roomy : ∀ entry ∈ entries, 24 + entry.name.length ≤ bufLen.toNat) :
    Pages (ServesDirents config state fd bufLen) [] returnedDirents direntNext
      (entries.map encodeDirent) (BitVec.ofNat 64) where
  nothing := rfl
  answered position inside := by
    rw [List.length_map] at inside ⊢
    have exact_ : (BitVec.ofNat 64 position).toNat = position :=
      Nat.mod_eq_of_lt (Nat.lt_of_le_of_lt inside few)
    have served := @Listable.serves config state fd bufLen base inode parentInode listable
      (BitVec.ofNat 64 position)
    rw [← listed, exact_] at served
    have complete : returnedDirents (direntPage entries position bufLen.toNat) =
        (fitting (fun entry => 24 + entry.name.length) bufLen.toNat
          (entries.drop position)).map encodeDirent :=
      completeDirents_page (fun entry member => names entry (List.mem_of_mem_drop member))
        (Nat.le_refl _)
    refine ⟨_, served, ?_, ?_, ?_⟩
    · rw [complete, ← List.map_drop]
      exact (fitting_first ..).map _
    · intro before
      rw [complete, List.drop_eq_getElem_cons before, ne_eq, List.map_eq_nil_iff]
      exact fitting_ne_nil _ (roomy _ (List.getElem_mem before))
    · rintro rfl
      rw [direntPage, List.drop_length, List.flatMap_nil, List.take_nil]
  determined _ _ _ := ServesDirents.unique
  resumes position record found := by
    rw [List.getElem?_map, Option.map_eq_some_iff] at found
    obtain ⟨entry, found, rfl⟩ := found
    rw [listed] at found
    rw [direntNext_eq, (listing_isListing ..).next _ _ found]

end Pages

/-- `fd_readdir` in every reachable state: a call that succeeds is for a directory that may be
listed.  For such a directory there is a list of its entries; each call writes as much of it,
from the position that is its cookie on, as the buffer holds, and calling again from the last
entry that was returned as a whole yields all entries, each once. -/
theorem readdir_pages {wasi : Preview1} (mounted : Mounted wasi) (requests : List Request)
    (fd : I32) :
    let state := afterCalls wasi.config wasi.state requests
    (∀ memory buf bufLen cookie bufused after,
      respond wasi.config state ⟨memory, .fdReaddir fd buf bufLen cookie bufused⟩ =
          (.ok (), after) →
        ∃ base inode parentInode, Listable state.filesystem fd.toNat base inode parentInode) ∧
    ∀ base inode parentInode, Listable state.filesystem fd.toNat base inode parentInode →
      ∃ entries, IsListing state.filesystem base inode parentInode entries ∧
        (∀ bufLen cookie, ServesDirents wasi.config state fd bufLen cookie
          (direntPage entries cookie.toNat bufLen.toNat)) ∧
        ∀ bufLen : I32, (∀ entry ∈ entries, 24 + entry.name.length ≤ bufLen.toNat) →
          ∀ records, Enumerates (ServesDirents wasi.config state fd bufLen) [] returnedDirents
            direntNext 0 records ↔ records = entries.map encodeDirent := by
  intro state
  constructor
  · intro memory buf bufLen cookie bufused after answered
    exact listable_of_fdReaddir answered
  · intro base inode parentInode listable
    refine ⟨_, listing_isListing .., fun bufLen cookie => listable.serves cookie, ?_⟩
    intro bufLen roomy records
    have names := @listing_names_short base inode parentInode _
      (mounted.paths_stay_valid requests)
    have few := @listing_short base inode parentInode _ (afterCalls_withinLimits mounted requests)
    exact (@Listable.pages wasi.config _ _ _ _ _ _ _ rfl listable names few roomy).enumerates_iff
      (Nat.zero_le _)

/-- Every entry of the namespace that is a child of the directory is in its listing. -/
theorem IsListing.exists_entry {state : FilesystemState} {base : Location}
    {inode parentInode : Nat} {entries : List ReaddirEntry}
    (listing : IsListing state base inode parentInode entries) {name : Path}
    {child : Nat × FileType} (stored : (base.at name, child) ∈ state.nodes) (named : name ≠ [])
    (noSlash : slash ∉ name) :
    ∃ entry ∈ entries, entry.name = name ∧ (entry.inode, entry.filetype) = child := by
  obtain ⟨children, lists, same⟩ := listing.listed
  have member : (name, child) ∈ children := by
    rw [← List.count_pos_iff, lists.each, List.countP_pos_iff]
    exact ⟨_, stored, decide_eq_true ⟨⟨rfl, named, noSlash⟩, rfl⟩⟩
  have listed : (name, child) ∈ entries.map fun entry =>
      (entry.name, entry.inode, entry.filetype) := by
    rw [same]
    exact List.mem_cons_of_mem _ (List.mem_cons_of_mem _ member)
  obtain ⟨entry, at_, found⟩ := List.mem_map.mp listed
  cases found
  exact ⟨entry, at_, rfl, rfl⟩

/-- A directory `d` and a symbolic link `b` next to the file `a`. -/
def fillWorkspace : List Request :=
  [fromGuest (.pathCreateDirectory 3 2 1), fromGuest (.pathSymlink 1 1 3 1 1)]

/-- The preopen may be listed, page by page, and the directory and the link are found. -/
theorem readdir_pages_filled :
    let wasi := Preview1.workspace true
    let state := afterCalls wasi.config wasi.state fillWorkspace
    ∃ base inode parentInode entries, IsListing state.filesystem base inode parentInode entries ∧
      (∃ entry ∈ entries, entry.name = [97] ∧ entry.filetype = .regularFile) ∧
      (∃ entry ∈ entries, entry.name = [98] ∧ entry.filetype = .symbolicLink) ∧
      (∃ entry ∈ entries, entry.name = [100] ∧ entry.filetype = .directory) ∧
      (∀ bufLen cookie, ServesDirents wasi.config state 3 bufLen cookie
        (direntPage entries cookie.toNat bufLen.toNat)) ∧
      ∀ bufLen : I32, (∀ entry ∈ entries, 24 + entry.name.length ≤ bufLen.toNat) →
        ∀ records, Enumerates (ServesDirents wasi.config state 3 bufLen) [] returnedDirents
          direntNext 0 records ↔ records = entries.map encodeDirent := by
  intro wasi state
  have listable : Listable state.filesystem 3 ⟨3, []⟩ (2 ^ 63 + 3) (2 ^ 63 + 3) :=
    ⟨⟨119012864, by decide, by decide⟩, by decide⟩
  obtain ⟨entries, listing, pages⟩ :=
    (readdir_pages (workspace_mounted true) fillWorkspace 3).2 _ _ _ listable
  have found (name : Path) (filetype : FileType)
      (stored : (Location.at ⟨3, []⟩ name, filetype) ∈
        state.filesystem.nodes.map fun node => (node.1, node.2.2))
      (named : name ≠ [] ∧ slash ∉ name) :
      ∃ entry ∈ entries, entry.name = name ∧ entry.filetype = filetype := by
    obtain ⟨⟨_, child, _⟩, at_, same⟩ := List.mem_map.mp stored
    cases same
    obtain ⟨entry, member, sameName, same⟩ := listing.exists_entry at_ named.1 named.2
    exact ⟨entry, member, sameName, congrArg Prod.snd same⟩
  exact ⟨_, _, _, entries, listing, found [97] .regularFile (by decide) (by decide),
    found [98] .symbolicLink (by decide) (by decide),
    found [100] .directory (by decide) (by decide), pages⟩

end MiniWasm.Wasi
