import MiniWasm.Wasi.Links

/-!
# Calls that fail

A call that returns an error number has changed nothing that a guest or an embedder
can observe.  Only the counter of inodes can have advanced.
-/

namespace MiniWasm.Wasi

open Library Action MiniWasm.Runtime FilesystemState

/-- What a failing call leaves as it was. -/
structure Unchanged (before after : Host) : Prop where
  memory : after.memory = before.memory
  stdin : after.state.stdin = before.state.stdin
  stdout : after.state.stdout = before.state.stdout
  stderr : after.state.stderr = before.state.stderr
  entropy : after.state.entropy = before.state.entropy
  exitCode : after.state.exitCode = before.state.exitCode
  preopens : after.state.preopens = before.state.preopens
  reserved : after.state.filesystem.reservedPreopens = before.state.filesystem.reservedPreopens
  writable : after.state.filesystem.writablePreopens = before.state.filesystem.writablePreopens
  files : after.state.filesystem.mountedFiles = before.state.filesystem.mountedFiles
  directories :
    after.state.filesystem.mountedDirectories = before.state.filesystem.mountedDirectories
  symlinks : after.state.filesystem.mountedSymlinks = before.state.filesystem.mountedSymlinks
  openFiles : after.state.filesystem.openFiles = before.state.filesystem.openFiles
  openDirectories :
    after.state.filesystem.openDirectories = before.state.filesystem.openDirectories
  inodes : before.state.filesystem.nextInode ≤ after.state.filesystem.nextInode
  bytes : ∀ node, before.state.filesystem.Carries node →
    after.state.filesystem.bytes.get node.bytes = before.state.filesystem.bytes.get node.bytes
  linkCounts : ∀ node, before.state.filesystem.Carries node →
    after.state.filesystem.linkCounts.get node.linkCount =
      before.state.filesystem.linkCounts.get node.linkCount
  times : ∀ node, before.state.filesystem.Carries node →
    after.state.filesystem.times.get node.times = before.state.filesystem.times.get node.times

theorem Refused.unchanged {before after : Host} {failure : Failure}
    (refused : Refused before failure after)
    (allocated : before.state.filesystem.Allocated) : Unchanged before after := by
  cases refused with
  | denied failure untouched =>
    cases untouched with
    | same => constructor <;> first | rfl | exact le_rfl | exact fun _ _ => rfl
    | abandoned =>
      constructor
      case bytes =>
        exact fun node carried => Arena.get_alloc_of_lt _ _ (allocated.bytes node carried)
      case linkCounts =>
        exact fun node carried => Arena.get_alloc_of_lt _ _ (allocated.linkCount node carried)
      case times =>
        exact fun node carried => Arena.get_alloc_of_lt _ _ (allocated.times node carried)
      case inodes => exact Nat.le_succ _
      all_goals rfl

/-- The failure of a call: an error number and no change, or the control transfer of
`proc_exit`. -/
theorem respond_fails {config : Config} {state : WasiState} (coherent : state.Coherent)
    (allocated : state.filesystem.Allocated) (request : Request) {failure : Failure}
    {after : Host} (fails : respond config state request = (.error failure, after)) :
    (∃ errno, failure = .errno errno ∧ errno ≠ .success ∧
        Unchanged (request.host state) after) ∨
      (∃ code, request.call = .procExit code) ∧
        failure = .host (.message "wasi proc_exit control transfer") := by
  cases returns : request.call.exits with
  | true =>
    obtain ⟨memory, call⟩ := request
    cases call with
    | procExit code =>
      cases fails
      exact .inr ⟨⟨code, rfl⟩, rfl⟩
    | _ => cases returns
  | false =>
    have performs := run_performs config coherent request returns
    unfold Performs Meets at performs
    unfold respond at fails
    rw [fails] at performs
    left
    have unchanged := Refused.unchanged performs allocated
    cases performs with
    | denied different untouched => exact ⟨_, rfl, different, unchanged⟩

/-- Every state that calls can reach is one of those that the next theorem is about. -/
theorem afterCalls_coherent {wasi : Preview1} (mounted : Mounted wasi)
    (requests : List Request) :
    (afterCalls wasi.config wasi.state requests).Coherent ∧
      (afterCalls wasi.config wasi.state requests).filesystem.Allocated :=
  ⟨(afterCalls_keeps wasi.config (motive := fun _ => True) (fun _ _ _ _ => trivial) requests
      mounted.coherent trivial).1,
    (afterCalls_linked mounted requests).2.allocated⟩

/-- An error number leaves everything as it was, and only `proc_exit` fails with an error
of the host; from every state whose preopens are listed consistently, and those are all
that a guest can reach. -/
theorem calls_atomic :
    (∀ wasi requests, Mounted wasi →
      (afterCalls wasi.config wasi.state requests).Coherent ∧
        (afterCalls wasi.config wasi.state requests).filesystem.Allocated) ∧
    ∀ config (state : WasiState), state.Coherent → state.filesystem.Allocated →
      ∀ request failure after, respond config state request = (.error failure, after) →
        (∀ errno, failure = .errno errno →
          errno ≠ .success ∧ Unchanged (request.host state) after) ∧
        ∀ err, failure = .host err →
          err = .message "wasi proc_exit control transfer" ∧
            ∃ code, request.call = .procExit code := by
  refine ⟨fun wasi requests mounted => afterCalls_coherent mounted requests, ?_⟩
  intro config state coherent allocated request failure after fails
  rcases respond_fails coherent allocated request fails with
    ⟨errno, rfl, different, unchanged⟩ | ⟨exits, rfl⟩
  · constructor
    · intro other same
      cases same
      exact ⟨different, unchanged⟩
    · intro err same
      cases same
  · constructor
    · intro errno same
      cases same
    · intro err same
      cases same
      exact ⟨rfl, exits⟩

/-- `path_open` would create the file `b`, but the number of its descriptor has no place in
the memory; and `path_symlink` finds the name that it would give already taken. -/
theorem calls_atomic_late :
    let wasi := Preview1.workspace true
    let creates := fromGuest (.pathOpen 3 0 1 1 1 Rights.fdRead 0 0 62)
    let links := fromGuest (.pathSymlink 1 1 3 0 1)
    Unchanged (creates.host wasi.state) (respond wasi.config wasi.state creates).2 ∧
      Unchanged (links.host wasi.state) (respond wasi.config wasi.state links).2 := by
  intro wasi creates links
  have start := calls_atomic.1 wasi [] (workspace_mounted true)
  have outside := calls_atomic.2 wasi.config wasi.state start.1 start.2 creates (.errno .fault)
    (respond wasi.config wasi.state creates).2 (Prod.ext rfl rfl)
  have refused : (respond wasi.config wasi.state links).1 = .error (.errno .exist) := by
    decide
  have taken := calls_atomic.2 wasi.config wasi.state start.1 start.2 links (.errno .exist)
    (respond wasi.config wasi.state links).2 (Prod.ext refused rfl)
  exact ⟨(outside.1 .fault rfl).2, (taken.1 .exist rfl).2⟩

end MiniWasm.Wasi
