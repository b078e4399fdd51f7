import MiniWasm.Wasi.Transactions

/-!
# Callbacks on related hosts

A callback does the same on two hosts with the same memory, as far as it only asks of
their states what the states agree about.
-/

namespace MiniWasm.Wasi

open Library Action MiniWasm.Runtime Callback

/-- Hosts with the same memory and related states. -/
structure RelatedHosts (related : WasiState → WasiState → Prop) (left right : Host) : Prop where
  capabilities : left.capabilities = right.capabilities
  memory : left.memory = right.memory
  state : related left.state right.state

section Rules

variable {related : WasiState → WasiState → Prop} {α ε : Type}

theorem readMemory_related (address length : Nat) :
    Agrees (RelatedHosts related) (readMemory address length) := by
  apply agrees_consult
  intro left right hosts
  rw [Host.readMemory, Host.readMemory, hosts.capabilities, hosts.memory]

theorem preflight_related (address length : Nat) :
    Agrees (RelatedHosts related) (preflight address length) :=
  agrees_bind (readMemory_related address length) fun _ => agrees_pure ()

theorem writeMemory_related (address : Nat) (bytes : List UInt8) :
    Agrees (RelatedHosts related) (writeMemory address bytes) := by
  intro left right hosts
  obtain ⟨sameCapabilities, sameMemory, states⟩ := hosts
  obtain ⟨capabilities, memory, leftState⟩ := left
  obtain ⟨_, _, rightState⟩ := right
  dsimp only at sameCapabilities sameMemory
  subst sameCapabilities sameMemory
  simp only [writeMemory, Host.writeMemory]
  by_cases mayWrite : capabilities.memoryWrite = true
  · cases memory with
    | none => simpa [mayWrite] using ⟨rfl, rfl, states⟩
    | some memory =>
      cases checked : memory.checkedHostRange address bytes.length with
      | error err => simpa [mayWrite, checked] using ⟨rfl, rfl, states⟩
      | ok start => simpa [mayWrite, checked] using ⟨rfl, rfl, states⟩
  · simpa [mayWrite] using ⟨rfl, rfl, states⟩

theorem writeChecked_related (address : Nat) (bytes : List UInt8) :
    Agrees (RelatedHosts related) (writeChecked address bytes) :=
  agrees_bind (preflight_related _ _) fun _ => writeMemory_related _ _

theorem writeBoth_related {first firstLength second : Nat} {firstBytes secondBytes : List UInt8} :
    Agrees (RelatedHosts related)
      (writeBoth first firstBytes firstLength second secondBytes) :=
  agrees_bind (preflight_related _ _) fun _ => agrees_bind (preflight_related _ _) fun _ =>
    agrees_bind (writeMemory_related _ _) fun _ => writeMemory_related _ _

theorem readIovec_related (iovs index : Nat) :
    Agrees (RelatedHosts related) (readIovec iovs index) :=
  agrees_ite (agrees_fail _) (agrees_bind (readMemory_related _ _) fun _ => agrees_pure _)

theorem gatherPayload_related {iovs limit : Nat} {tooLong : Errno} {count index : Nat}
    {payload : List UInt8} :
    Agrees (RelatedHosts related) (gatherPayload iovs limit tooLong count index payload) := by
  induction count generalizing index payload with
  | zero => exact agrees_pure payload
  | succ count ih =>
    apply agrees_bind (readIovec_related iovs index)
    intro buffer
    apply agrees_ite
    · exact agrees_fail _
    · exact agrees_bind (readMemory_related _ _) fun bytes => ih

theorem gatherDestinations_related {iovs limit count index : Nat}
    {destinations : List (Nat × Nat)} {capacity : Nat} :
    Agrees (RelatedHosts related)
      (gatherDestinations iovs limit count index destinations capacity) := by
  induction count generalizing index destinations capacity with
  | zero => exact agrees_pure _
  | succ count ih =>
    apply agrees_bind (readIovec_related iovs index)
    intro buffer
    apply agrees_ite
    · exact agrees_fail _
    · exact agrees_bind (preflight_related _ _) fun _ => ih

theorem scatter_related {destinations : List (Nat × Nat)} {bytes : List UInt8} {copied : Nat} :
    Agrees (RelatedHosts related) (scatter destinations bytes copied) := by
  induction destinations generalizing bytes copied with
  | nil => exact agrees_pure copied
  | cons destination destinations ih =>
    obtain ⟨pointer, length⟩ := destination
    apply agrees_ite
    · exact agrees_pure copied
    · apply agrees_ite
      · exact agrees_bind (writeMemory_related _ _) fun _ => ih
      · exact ih

theorem readPath_related (pointer length : Nat) :
    Agrees (RelatedHosts related) (readPath pointer length) :=
  agrees_ite (agrees_fail _) <| agrees_bind (readMemory_related _ _) fun _ =>
    agrees_bind (agrees_consult fun _ _ _ => rfl) fun _ => agrees_pure _

theorem readPaths_related {oldPtr oldLen newPtr newLen : Nat} :
    Agrees (RelatedHosts related) (readPaths oldPtr oldLen newPtr newLen) :=
  agrees_ite (agrees_fail _) <| agrees_bind (readMemory_related _ _) fun _ =>
    agrees_bind (readMemory_related _ _) fun _ =>
      agrees_bind (agrees_consult fun _ _ _ => rfl) fun _ =>
        agrees_bind (agrees_consult fun _ _ _ => rfl) fun _ => agrees_pure _

end Rules

end MiniWasm.Wasi
