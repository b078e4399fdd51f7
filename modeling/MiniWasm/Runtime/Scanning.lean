import MiniWasm.Library.Reading
import MiniWasm.Runtime.Decoding
import MiniWasm.Spec.Boundaries

/-!
# The control map of a body

The scanner walks over a body that the grammar accepts without an error, stops
where the grammar stops, and records every opener with its own terminators.
-/

namespace MiniWasm.Runtime

open Library

variable {types : List FuncType} {code : List UInt8}

/-! ## Rounds of the scanner -/

/-- The scanner gets from one state to another, in no more rounds than bytes. -/
def Scans (types : List FuncType) (code : List UInt8) (current after : ScanState × Nat) :
    Prop :=
  ∃ rounds, current.2 + rounds ≤ after.2 ∧
    ∀ extra, scanFrom code types (rounds + extra) current = scanFrom code types extra after

theorem Scans.refl (current : ScanState × Nat) : Scans types code current current :=
  ⟨0, Nat.le_refl _, fun extra => by rw [Nat.zero_add]⟩

theorem Scans.trans {first second third : ScanState × Nat}
    (before : Scans types code first second) (after : Scans types code second third) :
    Scans types code first third := by
  obtain ⟨rounds, fewer, scanned⟩ := before
  obtain ⟨more, fewer', scanned'⟩ := after
  refine ⟨rounds + more, by omega, fun extra => ?_⟩
  rw [Nat.add_assoc, scanned, scanned']

theorem Scans.round {state after : ScanState} {pc pc' : Nat} {opcode : UInt8}
    (found : code[pc]? = some opcode)
    (scanned : scanOp code (pc + 1) types pc state opcode.toNat = .ok (after, pc'))
    (ahead : pc < pc') : Scans types code (state, pc) (after, pc') := by
  refine ⟨1, ahead, fun extra => ?_⟩
  rw [Nat.add_comm, scanFrom, found]
  simp only [scanned, ok_bind]

theorem Scans.simple {state : ScanState} {pc pc' : Nat} {instr : Simple}
    (decoded : Spec.simpleAt code pc = some (instr, pc')) :
    Scans types code (state, pc) (state, pc') := by
  obtain ⟨opcode, found, notBlock, immediates⟩ := Spec.simpleAt_opcode decoded
  have ends : Spec.instrEnd types code pc = some pc' := Spec.instrEnd_simple decoded
  refine .round found ?_ (Spec.instrEnd_lt ends)
  simp only [Spec.blockOpcodes, List.mem_cons, List.not_mem_nil, or_false, not_or] at notBlock
  rw [scanOp, if_neg (by omega), if_neg notBlock.2.2.2.1, if_neg notBlock.2.2.2.2,
    scanImmediates_of immediates]
  rfl

theorem Scans.opener {openers : List (Option ControlInfo)} {pending : List PendingControl}
    {pc bodyPc : Nat} {opcode : UInt8} {kind : ControlKind} {signature : BlockSignature}
    (found : code[pc]? = some opcode)
    (opens : opcode = 0x02 ∨ opcode = 0x03 ∨ opcode = 0x04)
    (kindEq : openerKind opcode.toNat = kind)
    (decoded : Spec.blockType code types (pc + 1) = some (signature, bodyPc)) :
    Scans types code ({ openers, pending }, pc)
      ({ openers
         pending := { opener := pc, kind, bodyPc, elsePc := none, signature } :: pending },
        bodyPc) := by
  refine .round found ?_ (Spec.instrEnd_lt (Spec.instrEnd_opener found opens decoded))
  have range : 0x02 ≤ opcode.toNat ∧ opcode.toNat ≤ 0x04 := by
    rcases opens with rfl | rfl | rfl <;> decide
  rw [scanOp, if_pos range, readBlockSignature_of decoded, kindEq]
  rfl

theorem Scans.else {openers : List (Option ControlInfo)} {outer : List PendingControl}
    {opener pc bodyPc : Nat} {signature : BlockSignature} (found : code[pc]? = some 0x05) :
    Scans types code
      ({ openers
         pending := { opener, kind := .if, bodyPc, elsePc := none, signature } :: outer }, pc)
      ({ openers
         pending := { opener, kind := .if, bodyPc, elsePc := some pc, signature } :: outer },
        pc + 1) := by
  refine .round found ?_ (Nat.lt_succ_self _)
  simp [scanOp, scanElse, pure_ok]

theorem Scans.end {openers : List (Option ControlInfo)} {frame : PendingControl}
    {outer : List PendingControl} {pc : Nat} (found : code[pc]? = some 0x0b) :
    Scans types code ({ openers, pending := frame :: outer }, pc)
      ({ openers :=
          openers.set frame.opener
            (some
              { kind := frame.kind, bodyPc := frame.bodyPc, elsePc := frame.elsePc
                endPc := pc, signature := frame.signature })
         pending := outer }, pc + 1) :=
  .round found rfl (Nat.lt_succ_self _)

/-! ## What is recorded -/

/-- Between two states of the scanner the openers of the bytes that it walked
over are recorded with their matches, and the other entries are kept. -/
structure Records (types : List FuncType) (code : List UInt8)
    (before after : List (Option ControlInfo)) (pc finish : Nat) : Prop where
  length : after.length = before.length
  outside : ∀ opener, opener < pc ∨ finish ≤ opener → after[opener]? = before[opener]?
  matched : ∀ (opener : Nat) (kind : ControlKind) (signature : BlockSignature) (bodyPc : Nat)
    (elsePc : Option Nat) (endPc : Nat),
    Spec.Walk types code pc opener → opener < finish →
    Spec.BlockAt types code opener kind signature bodyPc elsePc endPc →
    after[opener]? = some (some { kind, bodyPc, elsePc, endPc, signature })

theorem Records.nothing (openers : List (Option ControlInfo)) (pc : Nat) :
    Records types code openers openers pc pc where
  length := rfl
  outside _ _ := rfl
  matched _ _ _ _ _ _ walk before _ := absurd walk.le (Nat.not_le_of_lt before)

/-- The scanner goes on behind an instruction that is not an opener. -/
theorem Records.onwards {before middle after : List (Option ControlInfo)}
    {pc landmark next finish : Nat} (first : Records types code before middle pc landmark)
    (walk : Spec.Walk types code pc landmark)
    (notOpener : ∀ opcode, code[landmark]? = some opcode →
      ¬ (opcode = 0x02 ∨ opcode = 0x03 ∨ opcode = 0x04))
    (ends : Spec.instrEnd types code landmark = some next)
    (second : Records types code middle after next finish) (fits : next ≤ finish) :
    Records types code before after pc finish where
  length := second.length.trans first.length
  outside opener outside := by
    have reached := walk.le
    have ahead := Spec.instrEnd_lt ends
    rw [second.outside opener (by omega), first.outside opener (by omega)]
  matched opener kind signature bodyPc elsePc endPc toOpener inside block := by
    rcases walk.split toOpener with before | rfl | ⟨next', ends', beyond⟩
    · have ahead := Spec.instrEnd_lt ends
      rw [second.outside opener (.inl (by omega))]
      exact first.matched _ _ _ _ _ _ toOpener before block
    · obtain ⟨opcode, found, opens⟩ := block.opens
      exact (notOpener opcode found opens).elim
    · cases ends.symm.trans ends'
      exact second.matched _ _ _ _ _ _ beyond inside block

/-- At the end of a block its opener is recorded. -/
theorem Records.close {before after : List (Option ControlInfo)} {opener bodyPc endPc : Nat}
    {kind : ControlKind} {signature : BlockSignature} {elsePc : Option Nat}
    (inner : Records types code before after bodyPc endPc)
    (ends : Spec.instrEnd types code opener = some bodyPc)
    (block : Spec.BlockAt types code opener kind signature bodyPc elsePc endPc)
    (inside : opener < before.length) (fits : bodyPc ≤ endPc) :
    Records types code before
      (after.set opener (some { kind, bodyPc, elsePc, endPc, signature })) opener endPc where
  length := by rw [List.length_set, inner.length]
  outside other outside := by
    have ahead := Spec.instrEnd_lt ends
    rw [List.getElem?_set_ne (by omega), inner.outside other (by omega)]
  matched other kind' signature' bodyPc' elsePc' endPc' walk before' block' := by
    by_cases same : opener = other
    · subst same
      obtain ⟨rfl, rfl, rfl, rfl, rfl⟩ := block.unique block'
      rw [List.getElem?_set_self (by rw [inner.length]; exact inside)]
    · obtain ⟨first, ends', rest⟩ := walk.head same
      cases ends.symm.trans ends'
      rw [List.getElem?_set_ne same]
      exact inner.matched _ _ _ _ _ _ rest before' block'

/-! ## Sequences -/

theorem notOpener_of_simpleAt {pc pc' : Nat} {instr : Simple}
    (decoded : Spec.simpleAt code pc = some (instr, pc')) (opcode : UInt8)
    (found : code[pc]? = some opcode) :
    ¬ (opcode = 0x02 ∨ opcode = 0x03 ∨ opcode = 0x04) :=
  fun opens => Spec.simpleAt_notOpener found opens decoded

theorem notOpener_of_terminator {pc : Nat} (terminator : Spec.Terminator code pc)
    (opcode : UInt8) (found : code[pc]? = some opcode) :
    ¬ (opcode = 0x02 ∨ opcode = 0x03 ∨ opcode = 0x04) :=
  fun opens => Spec.opener_notTerminator found opens terminator

theorem lt_length_of_getElem? {pc : Nat} {opcode : UInt8} (found : code[pc]? = some opcode) :
    pc < code.length :=
  (List.getElem?_eq_some_iff.mp found).1

theorem openerKind_blockOpcode (loops : Bool) :
    openerKind (Spec.blockOpcode loops).toNat = .ofBlock loops := by
  cases loops <;> rfl

/-- The scanner walks over a sequence, records its openers and leaves the pending
ones as they were. -/
theorem scans_of_encodes {instrs : Instrs} {pc finish : Nat}
    (encodes : Spec.Encodes types code pc instrs finish)
    (openers : List (Option ControlInfo)) (pending : List PendingControl)
    (indexed : openers.length = code.length) :
    ∃ after, Scans types code ({ openers, pending }, pc) ({ openers := after, pending }, finish) ∧
      Records types code openers after pc finish := by
  induction encodes generalizing openers pending with
  | done => exact ⟨openers, .refl _, .nothing _ _⟩
  | simple decoded next ih =>
      obtain ⟨after, scans, records⟩ := ih openers pending indexed
      exact ⟨after, (Scans.simple decoded).trans scans,
        (Records.nothing openers _).onwards .here (notOpener_of_simpleAt decoded)
          (Spec.instrEnd_simple decoded) records next.walk.le⟩
  | @block pc bodyPc endPc _ loops signature _ _ opcode decoded body endByte next bodyIH nextIH =>
      obtain ⟨inner, innerScans, innerRecords⟩ :=
        bodyIH openers
          ({ opener := pc, kind := .ofBlock loops, bodyPc, elsePc := none, signature }
            :: pending) indexed
      have ends : Spec.instrEnd types code pc = some bodyPc :=
        Spec.instrEnd_opener opcode (Spec.blockOpcode_opens _) decoded
      have inside : pc < openers.length := indexed ▸ lt_length_of_getElem? opcode
      have closed := innerRecords.close ends (.block opcode decoded body endByte) inside
        body.walk.le
      obtain ⟨after, scans, records⟩ :=
        nextIH (inner.set pc (some ⟨.ofBlock loops, bodyPc, none, endPc, signature⟩)) pending
          (closed.length.trans indexed)
      have toEnd : Scans types code _ _ :=
        ((Scans.opener opcode (Spec.blockOpcode_opens _) (openerKind_blockOpcode _)
          decoded).trans innerScans).trans (.end endByte)
      exact ⟨after, toEnd.trans scans,
        closed.onwards ((Spec.Walk.step ends).trans body.walk)
          (notOpener_of_terminator (.inr endByte)) (Spec.instrEnd_terminator (.inr endByte))
          records next.walk.le⟩
  | @ifThen pc bodyPc endPc _ signature _ _ opcode decoded body endByte next bodyIH nextIH =>
      obtain ⟨inner, innerScans, innerRecords⟩ :=
        bodyIH openers
          ({ opener := pc, kind := .if, bodyPc, elsePc := none, signature } :: pending) indexed
      have ends : Spec.instrEnd types code pc = some bodyPc :=
        Spec.instrEnd_opener opcode (.inr (.inr rfl)) decoded
      have inside : pc < openers.length := indexed ▸ lt_length_of_getElem? opcode
      have closed := innerRecords.close ends (.ifThen opcode decoded body endByte) inside
        body.walk.le
      obtain ⟨after, scans, records⟩ :=
        nextIH (inner.set pc (some ⟨.if, bodyPc, none, endPc, signature⟩)) pending
          (closed.length.trans indexed)
      have toEnd : Scans types code _ _ :=
        ((Scans.opener opcode (.inr (.inr rfl)) rfl decoded).trans innerScans).trans (.end endByte)
      exact ⟨after, toEnd.trans scans,
        closed.onwards ((Spec.Walk.step ends).trans body.walk)
          (notOpener_of_terminator (.inr endByte)) (Spec.instrEnd_terminator (.inr endByte))
          records next.walk.le⟩
  | @ifElse pc bodyPc elsePc endPc _ signature _ _ _ opcode decoded body elseByte other endByte
      next bodyIH otherIH nextIH =>
      obtain ⟨inner, innerScans, innerRecords⟩ :=
        bodyIH openers
          ({ opener := pc, kind := .if, bodyPc, elsePc := none, signature } :: pending) indexed
      obtain ⟨both, otherScans, otherRecords⟩ :=
        otherIH inner
          ({ opener := pc, kind := .if, bodyPc, elsePc := some elsePc, signature } :: pending)
          (innerRecords.length.trans indexed)
      have ends : Spec.instrEnd types code pc = some bodyPc :=
        Spec.instrEnd_opener opcode (.inr (.inr rfl)) decoded
      have elseEnds : Spec.instrEnd types code elsePc = some (elsePc + 1) :=
        Spec.instrEnd_terminator (.inl elseByte)
      have arms := innerRecords.onwards body.walk (notOpener_of_terminator (.inl elseByte))
        elseEnds otherRecords other.walk.le
      have armsWalk := (body.walk.next elseEnds).trans other.walk
      have inside : pc < openers.length := indexed ▸ lt_length_of_getElem? opcode
      have closed := arms.close ends (.ifElse opcode decoded body elseByte other endByte) inside
        armsWalk.le
      obtain ⟨after, scans, records⟩ :=
        nextIH (both.set pc (some ⟨.if, bodyPc, some elsePc, endPc, signature⟩)) pending
          (closed.length.trans indexed)
      have toElse : Scans types code _ _ :=
        ((Scans.opener opcode (.inr (.inr rfl)) rfl decoded).trans innerScans).trans
          (.else elseByte)
      have toEnd : Scans types code _ _ := (toElse.trans otherScans).trans (.end endByte)
      exact ⟨after, toEnd.trans scans,
        closed.onwards ((Spec.Walk.step ends).trans armsWalk)
          (notOpener_of_terminator (.inr endByte)) (Spec.instrEnd_terminator (.inr endByte))
          records next.walk.le⟩

/-! ## Bodies -/

/-- The control map of a body names the match of every opener. -/
def ControlMap.Faithful (controlMap : ControlMap) (types : List FuncType)
    (code : List UInt8) : Prop :=
  ∀ (opener : Nat) (kind : ControlKind) (signature : BlockSignature) (bodyPc : Nat)
    (elsePc : Option Nat) (endPc : Nat),
    Spec.Boundary types code opener →
    Spec.BlockAt types code opener kind signature bodyPc elsePc endPc →
    controlMap.info opener = .ok { kind, bodyPc, elsePc, endPc, signature }

/-- The scanner accepts every body of the grammar. -/
theorem buildControlMap_of_encodesBody {instrs : Instrs} {endPc : Nat}
    (body : Spec.EncodesBody types code instrs endPc) :
    ∃ controlMap, buildControlMap code types = .ok controlMap ∧
      controlMap.Faithful types code := by
  obtain ⟨openers, ⟨rounds, fewer, scanned⟩, records⟩ :=
    scans_of_encodes body.encodes (List.replicate code.length none) []
      (List.length_replicate ..)
  have walkLe := body.encodes.walk.le
  have last := body.last
  refine ⟨{ openers }, ?_, ?_⟩
  · -- The remaining rounds see the last `end` and then the end of the bytes.
    obtain ⟨extra, roundsEq⟩ : ∃ extra, code.length = rounds + (extra + 1) :=
      ⟨code.length - rounds - 1, by simp only [Nat.zero_add] at fewer; omega⟩
    have finished : scanFrom code types code.length (initialScan code, 0) =
        .ok ({ openers, pending := [] }, endPc + 1) := by
      rw [roundsEq]
      refine (scanned (extra + 1)).trans ?_
      rw [scanFrom, body.endByte]
      simp only [scanOp, scanEnd, last]
      cases extra with
      | zero => simp [scanFrom, pure_ok]
      | succ extra => simp [scanFrom, pure_ok]
    simp [buildControlMap, finished, pure_ok]
  · intro opener kind signature bodyPc elsePc blockEnd boundary block
    have before : opener < endPc := by
      obtain ⟨opcode, found, opens⟩ := block.opens
      rcases body.encodes.walk.split boundary with before | rfl | ⟨next, ends, beyond⟩
      · exact before
      · exact (Spec.opener_notTerminator found opens (.inr body.endByte)).elim
      · rw [Spec.instrEnd_terminator (.inr body.endByte)] at ends
        cases ends
        have := beyond.le
        have := lt_length_of_getElem? found
        omega
    simp only [ControlMap.info, records.matched _ _ _ _ _ _ boundary before block]

/-! ## Boundaries -/

/-- The states that the scanner's loop passes through. -/
abbrev Scanned (types : List FuncType) (code : List UInt8) : ScanState → Nat → Prop :=
  Reaches code (fun pc opcode state => scanOp code (pc + 1) types pc state opcode.toNat)
    (initialScan code)

theorem scanFrom_eq_readLoop (rounds : Nat) (current : ScanState × Nat) :
    scanFrom code types rounds current =
      readLoop code (fun pc opcode state => scanOp code (pc + 1) types pc state opcode.toNat)
        rounds current := by
  induction rounds generalizing current with
  | zero => rfl
  | succ rounds ih =>
      unfold scanFrom readLoop
      cases code[current.2]? with
      | none => rfl
      | some opcode =>
          dsimp only
          exact congrArg _ (funext ih)

/-- A round of the scanner ends where the grammar says. -/
theorem scanOp_ends {state after : ScanState} {pc pc' : Nat} {opcode : UInt8}
    (site : Spec.Site types code pc) (found : code[pc]? = some opcode)
    (scanned : scanOp code (pc + 1) types pc state opcode.toNat = .ok (after, pc')) :
    Spec.instrEnd types code pc = some pc' := by
  cases site with
  | simple decoded =>
      obtain ⟨_, found', notBlock, immediates⟩ := Spec.simpleAt_opcode decoded
      cases found.symm.trans found'
      simp only [Spec.blockOpcodes, List.mem_cons, List.not_mem_nil, or_false, not_or] at notBlock
      rw [scanOp, if_neg (by omega), if_neg notBlock.2.2.2.1, if_neg notBlock.2.2.2.2,
        scanImmediates_of immediates] at scanned
      cases scanned
      exact Spec.instrEnd_simple decoded
  | opener block =>
      obtain ⟨_, found', opens⟩ := block.opens
      cases found.symm.trans found'
      obtain ⟨signature, bodyPc, decoded⟩ : ∃ signature bodyPc,
          Spec.blockType code types (pc + 1) = some (signature, bodyPc) := by
        cases block <;> exact ⟨_, _, ‹_›⟩
      have range : 0x02 ≤ opcode.toNat ∧ opcode.toNat ≤ 0x04 := by
        rcases opens with rfl | rfl | rfl <;> decide
      rw [scanOp, if_pos range, readBlockSignature_of decoded] at scanned
      cases scanned
      exact Spec.instrEnd_opener found opens decoded
  | terminator terminator =>
      rw [Spec.instrEnd_terminator terminator]
      rcases terminator with elseByte | endByte
      · cases found.symm.trans elseByte
        obtain ⟨_, -, same⟩ := bind_ok.mp scanned
        cases same
        rfl
      · cases found.symm.trans endByte
        obtain ⟨_, -, same⟩ := bind_ok.mp scanned
        cases same
        rfl

theorem Scanned.boundary {instrs : Instrs} {endPc pc : Nat} {state : ScanState}
    (body : Spec.EncodesBody types code instrs endPc) (scanned : Scanned types code state pc) :
    Spec.Boundary types code pc := by
  induction scanned with
  | start => exact .here
  | next _ found step ih => exact ih.next (scanOp_ends (body.site ih found) found step)

/-- The scanner visits exactly the instruction boundaries of a body. -/
theorem scanned_iff_boundary {instrs : Instrs} {endPc pc : Nat}
    (body : Spec.EncodesBody types code instrs endPc) :
    (∃ state, Scanned types code state pc) ↔ Spec.Boundary types code pc := by
  obtain ⟨controlMap, built, -⟩ := buildControlMap_of_encodesBody body
  simp only [buildControlMap, bind_ok, scanFrom_eq_readLoop] at built
  obtain ⟨last, run, -⟩ := built
  rw [Spec.boundary_iff]
  exact exists_reaches_iff run
    (fun scanned found step =>
      scanOp_ends (body.site (Scanned.boundary body scanned) found) found step)
    fun ends => ⟨Spec.instrEnd_lt ends, Spec.instrEnd_inside ends⟩

end MiniWasm.Runtime
