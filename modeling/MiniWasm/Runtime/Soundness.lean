import MiniWasm.Runtime.SharedHistories
import MiniWasm.Runtime.StackTyping
import MiniWasm.Validator.Above

/-!
# Soundness of the typing rules

An instance whose function bodies are well typed runs them as their types say.  What an
invocation returns has the result types of the function that was invoked, and the only
errors are the traps of the language, the limits and the failures of the host.  Other
instances and the embedder may do anything between its steps.
-/

namespace MiniWasm.Runtime

open Library
open Validator (BodiesTyped)

variable {σ : Type}

/-! ## Bound functions -/

/-- Every function that the module imports is registered. -/
def Instance.Registered (inst : Instance σ) : Prop :=
  ∀ entry ∈ inst.module.functionImports,
    ∃ host, findKey inst.hosts.functions entry.key = some host

theorem Ready.registered {module : Module} {hosts : HostRegistry σ} {limits : RuntimeLimits}
    {host : σ} {heap : Heap} {inst : Instance σ} {store : Store σ}
    (ready : Ready module hosts limits heap host inst store) : inst.Registered := by
  cases ready with
  | intro _ bound _ _ _ _ same _ =>
    subst same
    intro entry member
    simp only [validateHostBindings, bind_ok] at bound
    obtain ⟨_, functionBindings, -⟩ := bound
    obtain ⟨host, _, key, -⟩ :=
      validateFunctionBinding_ok (forEach_ok functionBindings entry member)
    exact ⟨host, key⟩

/-! ## Entering functions -/

section Entering

variable {inst : Instance σ} {results : List ValueType} {index : Nat} {args : List Value}

/-- What a frame of the function with the result types is. -/
structure FrameTyped (inst : Instance σ) (results : List ValueType) (frame : GuestFrame) :
    Prop where
  activation : Activation inst frame
  results : frame.resultTypes = results
  stands : Stands inst frame

theorem typesOf_zeros (types : List ValueType) : typesOf (types.map zero) = types := by
  rw [typesOf, List.map_map]
  exact (List.map_congr_left fun type _ => zero_valueType type).trans (List.map_id _)

/-- The frame in which a defined function starts. -/
def GuestFrame.start (type : FuncType) (body : FunctionBody) (controlMap : ControlMap)
    (endPc : Nat) (args : List Value) : GuestFrame where
  locals := args ++ (Instance.declaredLocals body.locals).map zero
  localTypes := type.params ++ Instance.declaredLocals body.locals
  stack := []
  pc := 0
  code := body.code
  resultTypes := type.results
  controls :=
    [{ kind := .function, bodyPc := 0, endPc, stackHeight := 0
       paramTypes := [], resultTypes := type.results }]
  controlMap

/-- What a function starts with when it is called as its type says. -/
structure Started (inst : Instance σ) (results : List ValueType) (index : Nat)
    (args : List Value) (type : FuncType) (body : FunctionBody) (instrs : Instrs)
    (frame : GuestFrame) : Prop where
  typeFound : inst.module.functionType index = some type
  results : type.results = results
  argsTyped : typesOf args = type.params
  function : Validator.Defined inst.module (index - inst.module.functionImportCount) type body
  frame : ∃ controlMap endPc, frame = .start type body controlMap endPc args ∧
    inst.controlMaps[index - inst.module.functionImportCount]? = some controlMap ∧
    Spec.EncodesBody inst.module.types body.code instrs endPc
  typed : Spec.BodyTyped false
    { module := inst.module
      locals := type.params ++ Validator.declaredTypes body.locals
      results := type.results } instrs
  passed : instrs.Every (Validator.Passed inst.module)

/-- A defined function that is called as its type says starts. -/
theorem prepareGuestFrame_started (linked : inst.Linked) (bodies : BodiesTyped false inst.module)
    (calls : Calls inst results index args)
    (isDefined : ¬ index < inst.module.functionImportCount) :
    ∃ type body instrs frame, Started inst results index args type body instrs frame ∧
      inst.prepareGuestFrame index args = .ok frame := by
  obtain ⟨type, typeFound, argsTyped, rfl⟩ := calls
  have named := typeFound
  rw [Module.functionType, if_neg isDefined] at typeFound
  obtain ⟨typeIndex, indexFound, listed⟩ := Option.bind_eq_some_iff.mp typeFound
  obtain ⟨body, bodyFound⟩ := Validator.code_of_defined linked.accepted indexFound
  have function : Validator.Defined inst.module (index - inst.module.functionImportCount) type
      body := ⟨⟨typeIndex, indexFound, listed⟩, bodyFound⟩
  obtain ⟨controlMap, mapFound, -⟩ := forall₂_at linked.controlMaps bodyFound
  obtain ⟨instrs, endPc, encoded, typed⟩ := bodies _ type body function
  have length : body.code.length = endPc + 1 := encoded.last.symm
  obtain ⟨checkedInstrs, ended, checkedEnd, checked⟩ := linked.accepted.bodyChecked function
  obtain ⟨rfl, rfl⟩ := encoded.encodes.unique (.inr encoded.endByte) checked.encodes.encodes
    (.inr checked.encodes.endByte)
  have prepared : inst.prepareGuestFrame index args =
      .ok (.start type body controlMap endPc args) := by
    unfold Instance.prepareGuestFrame
    dsimp only
    rw [if_neg isDefined, indexFound]
    dsimp only
    rw [listed]
    dsimp only
    rw [validateValues_ok_iff.mpr argsTyped, ok_bind, bodyFound, mapFound]
    dsimp only
    rw [length]
    rfl
  exact ⟨type, body, instrs, _,
    ⟨named, rfl, argsTyped, function, ⟨controlMap, endPc, rfl, mapFound, encoded⟩, typed,
      checked.every⟩, prepared⟩

section Started

variable {type : FuncType} {body : FunctionBody} {instrs : Instrs} {frame : GuestFrame}

/-- The frame stands at the first instruction of the body. -/
theorem Started.placed (started : Started inst results index args type body instrs frame) :
    Placed inst.module.types frame.code (Validator.Passed inst.module) frame.pc frame.controls
      instrs [] := by
  obtain ⟨controlMap, endPc, rfl, -, encoded⟩ := started.frame
  exact .function .here encoded.encodes encoded.endByte encoded.last rfl started.passed

theorem Started.frameTyped (started : Started inst results index args type body instrs frame) :
    FrameTyped inst results frame := by
  have placed := started.placed
  obtain ⟨controlMap, endPc, rfl, mapFound, -⟩ := started.frame
  refine ⟨⟨_, type, body, controlMap, started.function, mapFound, rfl⟩, started.results, ?_⟩
  refine .at ?_ placed (.function started.typed rfl rfl) rfl
  show typesOf (args ++ (Instance.declaredLocals body.locals).map zero) =
    type.params ++ Instance.declaredLocals body.locals
  rw [typesOf_append, started.argsTyped, typesOf_zeros]

end Started

/-- The frame of a defined function starts at its body with its arguments. -/
theorem prepareGuestFrame_safe (linked : inst.Linked) (bodies : BodiesTyped false inst.module)
    (calls : Calls inst results index args)
    (isDefined : ¬ index < inst.module.functionImportCount) :
    Safe (FrameTyped inst results) (inst.prepareGuestFrame index args) := by
  obtain ⟨type, body, instrs, frame, started, prepared⟩ :=
    prepareGuestFrame_started linked bodies calls isDefined
  exact .of_ok prepared started.frameTyped

theorem checkHostResults_safe {entry : Import} {types : List ValueType} {values : List Value}
    (length : values.length = types.length) :
    Safe (fun _ => typesOf values = types) (checkHostResults entry types values) := by
  induction types generalizing values with
  | nil =>
    obtain rfl := List.length_eq_zero_iff.mp length
    exact ok_safe rfl
  | cons type types ih =>
    cases values with
    | nil => cases length
    | cons value values =>
      refine .ite (fun _ => trap_safe trivial) fun same => ?_
      refine (ih (Nat.succ.inj length)).mono fun _ rest => ?_
      exact congrArg₂ List.cons (Decidable.not_not.mp same) rest

/-- What a host function returns is checked. -/
theorem hostResults_safe {entry : Import} {type : FuncType}
    (result : Except HostError (List Value)) :
    Safe (fun values => typesOf values = type.results) (hostResults entry type result) := by
  cases result with
  | error err => exact trap_safe trivial
  | ok values =>
    refine .ite (fun _ => trap_safe trivial) fun same => ?_
    exact (checkHostResults_safe (Decidable.not_not.mp same)).bind fun _ typed =>
      (yields_pure _).mpr typed

theorem prepareHost_safe (registered : inst.Registered) (calls : Calls inst results index args)
    (isImport : index < inst.module.functionImportCount) (budget : ExecutionBudget) :
    Safe (fun prepared => prepared.2.2.1.results = results)
      (inst.prepareHost index args budget) := by
  obtain ⟨type, typeFound, argsTyped, rfl⟩ := calls
  rw [Module.functionType, if_pos isImport] at typeFound
  obtain ⟨typeIndex, indexFound, listed⟩ := Option.bind_eq_some_iff.mp typeFound
  obtain ⟨entry, entryFound, declares⟩ := Option.bind_eq_some_iff.mp indexFound
  obtain ⟨host, key⟩ := registered entry (List.mem_of_getElem? entryFound)
  have consumed : Safe (fun _ => True) (budget.consumeHostCall inst.limits.maxHostCalls) := by
    unfold ExecutionBudget.consumeHostCall
    split
    · exact .ite (fun _ => trap_safe trivial) fun _ => ok_safe trivial
    · exact ok_safe trivial
  refine consumed.bind fun budget _ => ?_
  rw [entryFound]
  dsimp only
  rw [declares]
  dsimp only
  rw [listed]
  dsimp only
  rw [validateValues_ok_iff.mpr argsTyped, ok_bind, key]
  exact (yields_pure _).mpr rfl

end Entering

/-! ## Invocations -/

/-- The contract of the types: whoever works for an invocation has values of the types with
which the functions of the module were typed. -/
def typings (inst : Instance σ) : Contract σ (List ValueType) where
  store := Store.Serves inst
  frame := FrameTyped inst
  call := Calls inst
  waits inner results frame :=
    ∀ values, typesOf values = inner → FrameTyped inst results (frame.resume values)
  results types values := typesOf values = types
  error := RuntimeError.Trap

section Invocations

variable {inst : Instance σ} {results : List ValueType}

theorem Store.Serves.step {store : Store σ} {budget : ExecutionBudget} {frame : GuestFrame}
    (serves : store.Serves inst) :
    Ensures (fun after => after.1.Serves inst) (frameStep inst store budget frame) := by
  intro after stepped
  have evolves : store.Evolves inst (fun _ => True) after.1 :=
    (frameStep_evolves store.admitted_true frame.admitted_true (fun _ _ => trivial) after
      stepped).1
  have effect : store.Effect inst after.1 := frameStep_effect after stepped
  exact ⟨serves.fits.evolves evolves, serves.declared.evolves effect.objects⟩

theorem typings_guest (linked : inst.Linked) {store : Store σ} {budget : ExecutionBudget}
    {frame : GuestFrame} (serves : store.Serves inst) (typed : FrameTyped inst results frame) :
    (typings inst).Guest inst results store budget frame := by
  have safe := @frameStep_safe σ inst frame store budget linked serves
    (typed.activation.faithful linked) typed.stands
  rw [typed.results] at safe
  refine ⟨fun after stepped => ⟨serves.step after stepped, ?_⟩, safe.2⟩
  have stepTyped := safe.1 after stepped
  -- A frame that is run again is one of the same function.
  have again (next : GuestFrame) (member : next ∈ after.2.2.frames) (stands : Stands inst next) :
      FrameTyped inst results next := by
    have same := frameStep_keepsFunction after stepped next member
    exact ⟨typed.activation.sameFunction same,
      (congrArg FrameFunction.resultTypes same).trans typed.results, stands⟩
  obtain ⟨_, _, step⟩ := after
  cases step with
  | running next => exact again next (List.mem_singleton_self _) stepTyped
  | outcome left =>
    cases left with
    | «return» | tailCall => exact stepTyped
    | call continuation function args =>
      obtain ⟨inner, calls, waits⟩ := stepTyped
      refine ⟨inner, calls, fun values valuesTyped => ?_⟩
      have same := frameStep_keepsFunction _ stepped continuation (List.mem_singleton_self _)
      have resumed : frame.SameFunction (continuation.resume values) := same
      exact ⟨typed.activation.sameFunction resumed,
        (congrArg FrameFunction.resultTypes resumed).trans typed.results, waits values valuesTyped⟩

theorem invokeHost_safe (registered : inst.Registered) {store : Store σ} {index : Nat}
    {args : List Value} (budget : ExecutionBudget) (serves : store.Serves inst)
    (calls : Calls inst results index args) (isImport : index < inst.module.functionImportCount) :
    (inst.invokeHost store budget index args).1.Serves inst ∧
      Safe (fun after => typesOf after.2 = results)
        (inst.invokeHost store budget index args).2 := by
  have prepared := prepareHost_safe registered calls isImport budget
  have objects : store.heap.ObjectsEvolve (fun _ => True)
      (inst.invokeHost store budget index args).1.heap := invokeHost_objects ..
  have declared := serves.declared.evolves objects
  unfold Instance.invokeHost at declared ⊢
  split
  · next err failed => exact ⟨serves, trap_safe (prepared.2 err failed)⟩
  · next budget entry type host ready =>
    rw [ready] at declared
    refine ⟨⟨afterHost_fits serves.fits, declared⟩, ?_⟩
    have promised : type.results = results := prepared.1 _ ready
    refine (hostResults_safe _).bind fun values valuesTyped => ?_
    exact (yields_pure _).mpr (valuesTyped.trans promised)

theorem typings_environment (linked : inst.Linked) (registered : inst.Registered)
    (bodies : BodiesTyped false inst.module) : (typings inst).Environment inst where
  prepare _ _ _ calls isDefined := prepareGuestFrame_safe linked bodies calls isDefined
  host _ _ budget _ _ serves calls isImport :=
    invokeHost_safe registered budget serves calls isImport
  resume _ _ _ values waits valuesTyped := waits values valuesTyped
  tooDeep := trivial

/-- A step of a typed machine. -/
theorem typings_step {machine : Machine σ} (linked : inst.Linked) (registered : inst.Registered)
    (bodies : BodiesTyped false inst.module) (typed : (typings inst).Machine results machine) :
    (typings inst).State results (machine.step inst) :=
  Contract.Machine.step (typings_environment linked registered bodies) typed fun _ _ _ framed =>
    typings_guest linked typed.store framed

/-- The types of the results that an invocation is to return: those of the outermost function
that it waits for. -/
def Machine.promised (inst : Instance σ) (machine : Machine σ) : List ValueType :=
  match machine.callers.getLast?, machine.current with
  | some caller, _ => caller.resultTypes
  | none, .frame frame => frame.resultTypes
  | none, .function index _ =>
      ((inst.module.functionType index).map fun type => type.results).getD []

theorem chain_results {inner : List ValueType} {callers : List GuestFrame} {caller : GuestFrame}
    (chain : (typings inst).Chain inner callers results)
    (outermost : callers.getLast? = some caller) : caller.resultTypes = results := by
  induction chain with
  | nil => cases outermost
  | @cons inner outer results first rest waits chain ih =>
    cases rest with
    | nil =>
      cases outermost
      cases chain
      exact (waits _ (typesOf_zeros inner)).results
    | cons second rest =>
      rw [List.getLast?_cons_cons] at outermost
      exact ih outermost

theorem promised_typed {machine : Machine σ} (typed : (typings inst).Machine results machine) :
    machine.promised inst = results := by
  obtain ⟨inner, current, chain⟩ := typed.parts
  unfold Machine.promised
  split
  · next outermost => exact chain_results chain outermost
  · next nobody running =>
    rw [List.getLast?_eq_none_iff.mp nobody] at chain
    rw [running] at current
    cases chain
    exact current.results
  · next nobody starting =>
    rw [List.getLast?_eq_none_iff.mp nobody] at chain
    rw [starting] at current
    cases chain
    obtain ⟨type, found, -, promised⟩ := current
    rw [found]
    exact promised

theorem Machine.step_serves {machine : Machine σ} (serves : machine.store.Serves inst) :
    (machine.step inst).store.Serves inst := by
  rcases machine.step_store inst with same | ⟨index, args, same⟩ | ⟨frame, after, ran, same⟩
  · rw [same]
    exact serves
  · have objects : machine.store.heap.ObjectsEvolve (fun _ => True)
        (inst.invokeHost machine.store machine.budget index args).1.heap := invokeHost_objects ..
    have declared := serves.declared.evolves objects
    rw [same]
    unfold Instance.invokeHost at declared ⊢
    split
    · exact serves
    · next ready =>
      rw [ready] at declared
      exact ⟨afterHost_fits serves.fits, declared⟩
  · rw [same]
    exact serves.step after ran

/-- The start of an exported function. -/
theorem startExport_running {store : Store σ} {name : String} {args : List Value}
    {machine : Machine σ} (started : inst.startExport store name args = .running machine) :
    ∃ index type, inst.exportedIndex name .function = .ok index ∧
      inst.module.functionType index = some type ∧ typesOf args = type.params ∧
      machine = .start store index args 0 (.new inst.limits) := by
  simp only [Instance.startExport] at started
  split at started
  · cases started
  · next index prepared =>
    cases started
    obtain ⟨function, exported, described⟩ := bind_ok.mp prepared
    obtain ⟨type, found, checks⟩ := bind_ok.mp described
    obtain ⟨_, checked, same⟩ := bind_ok.mp checks
    cases same
    obtain ⟨_, argsTyped, -⟩ := bind_ok.mp checked
    exact ⟨index, type, exported, functionType_ok_iff.mp found,
      validateValues_ok_iff.mp argsTyped, rfl⟩

end Invocations

/-- The invocation is to return results of the types, or has returned some, or has ended
in a trap. -/
def InvokeState.Sound (inst : Instance σ) (results : List ValueType) : InvokeState σ → Prop
  | .running machine => machine.promised inst = results
  | .finished _ (.ok values) => typesOf values = results
  | .finished _ (.error err) => err.Trap

theorem sound_of_typed {inst : Instance σ} {results : List ValueType} {state : InvokeState σ}
    (typed : (typings inst).State results state) : state.Sound inst results := by
  cases state with
  | running machine => exact promised_typed typed
  | finished store result =>
    cases result with
    | ok values => exact typed.2
    | error err => exact typed.2

/-! ## Histories -/

theorem startFunction_type {module : Module} {start : Nat} (accepted : Validator.Accepted module)
    (isStart : module.start = some start) :
    ∃ type, module.functionType start = some type ∧ type.params = [] ∧ type.results = [] := by
  obtain ⟨_, -, _, checked, -⟩ :=
    bind_ok.mp accepted.phase5 |>.imp fun _ first => first.imp_right bind_ok.mp
  unfold Validator.validateStart at checked
  rw [isStart] at checked
  dsimp only at checked
  split at checked
  · cases checked
  · next type found =>
    split_ifs at checked with signature
    exact ⟨type, found, signature⟩

namespace World

/-- What holds of a tenant of a world; an invocation under way is typed where the bodies
are. -/
structure Keeps (world : World σ) (tenant : Tenant σ) : Prop where
  linked : tenant.inst.Linked
  registered : tenant.inst.Registered
  serves : (world.store tenant).Serves tenant.inst
  running : BodiesTyped false tenant.inst.module → ∀ activity, tenant.activity = some activity →
    ∃ results, (typings tenant.inst).Machine results (activity.machine (world.store tenant))

section Keeps

variable {world after : World σ} {tenant : Tenant σ}

/-- What others do does not matter. -/
theorem Keeps.elsewhere (keeps : world.Keeps tenant) (declared : tenant.inst.Declared after.heap) :
    after.Keeps tenant where
  linked := keeps.linked
  registered := keeps.registered
  serves :=
    ⟨⟨keeps.serves.fits.memoryCount, keeps.serves.fits.dataCount, keeps.serves.fits.elementCount⟩,
      declared⟩
  running bodies activity active := by
    obtain ⟨results, typed⟩ := keeps.running bodies activity active
    refine ⟨results, ⟨?_, declared⟩, typed.parts, typed.callers, typed.depth⟩
    have fits := typed.store.fits
    exact ⟨fits.memoryCount, fits.dataCount, fits.elementCount⟩

/-- Behind a step of the tenant itself. -/
theorem Keeps.advance {index : Nat} {state : InvokeState σ} (keeps : world.Keeps tenant)
    (serves : state.store.Serves tenant.inst)
    (typed : BodiesTyped false tenant.inst.module → ∀ machine, state = .running machine →
      ∃ results, (typings tenant.inst).Machine results machine) :
    (world.advance index tenant state).Keeps (tenant.after state) := by
  cases state with
  | finished store result =>
    exact ⟨keeps.linked, keeps.registered, serves, fun _ _ active => by cases active⟩
  | running machine =>
    refine ⟨keeps.linked, keeps.registered, serves, fun bodies activity active => ?_⟩
    cases active
    exact typed bodies machine rfl

theorem startExport_serves {name : String} {args : List Value} (keeps : world.Keeps tenant) :
    (tenant.inst.startExport (world.store tenant) name args).store.Serves tenant.inst := by
  rw [startExport_store]
  exact keeps.serves

theorem startExport_typed {name : String} {args : List Value} {machine : Machine σ}
    (keeps : world.Keeps tenant)
    (started : tenant.inst.startExport (world.store tenant) name args = .running machine) :
    ∃ index type, tenant.inst.exportedIndex name .function = .ok index ∧
      tenant.inst.module.functionType index = some type ∧ typesOf args = type.params ∧
      (typings tenant.inst).Machine type.results machine := by
  obtain ⟨index, type, exported, found, argsTyped, rfl⟩ := startExport_running started
  exact ⟨index, type, exported, found, argsTyped,
    Contract.State.start keeps.serves ⟨type, found, argsTyped, rfl⟩⟩

/-- A new instance, whose start function may run. -/
theorem Keeps.created {module : Module} {hosts : HostRegistry σ} {limits : RuntimeLimits}
    {heap : Heap} {host : σ} {inst : Instance σ} {store : Store σ} (known : hosts.Known heap)
    (created : instantiate module hosts limits heap host = .ready inst store)
    (tenants : List (Tenant σ)) :
    Keeps { heap := store.heap, host := store.host, tenants }
      (.ofStore inst store ((startFunction inst store).map Machine.activity)) := by
  have ready := instantiate_ready created
  have serves : store.Serves inst := ⟨ready.fits, Ready.declared known created⟩
  refine ⟨ready.linked, ready.registered, serves, fun bodies activity active => ?_⟩
  obtain ⟨machine, started, rfl⟩ := Option.map_eq_some_iff.mp active
  obtain ⟨start, isStart, rfl⟩ := Option.map_eq_some_iff.mp started
  obtain ⟨type, found, params, results⟩ := startFunction_type ready.linked.accepted isStart
  exact ⟨[], Contract.State.start serves ⟨type, found, params.symm, results⟩⟩

end Keeps

theorem Step.keeps {before after : World σ} (step : Step before after)
    (keeps : ∀ tenant ∈ before.tenants, before.Keeps tenant) :
    ∀ tenant ∈ after.tenants, after.Keeps tenant := by
  have declared := step.declared fun tenant member => (keeps tenant member).serves.declared
  intro tenant member
  have other (old : tenant ∈ before.tenants) : after.Keeps tenant :=
    (keeps tenant old).elsewhere (declared tenant member)
  cases step with
  | handle | host | refuse => exact other member
  | @instantiate module hosts limits inst store known ready =>
    rcases List.mem_append.mp member with old | new
    · exact other old
    · rw [List.mem_singleton.mp new]
      exact .created known ready _
  | @writeMemory index memoryIndex address idle bytes store found inactive written =>
    rcases List.mem_or_eq_of_mem_set member with old | rfl
    · exact other old
    · have idleKeeps := keeps idle (List.mem_of_getElem? found)
      simp only [Store.writeMemoryAt, Store.withMemoryIndexMut, bind_ok, pure_ok,
        Except.ok.injEq] at written
      obtain ⟨memory, -, after, -, rfl⟩ := written
      have evolves : (before.store idle).Evolves idle.inst (fun _ => True)
          ((before.store idle).setMemoryAt memoryIndex after) := .setMemoryAt ..
      have fits := idleKeeps.serves.fits.evolves evolves
      refine ⟨idleKeeps.linked, idleKeeps.registered, ⟨?_, declared _ member⟩, ?_⟩
      · exact ⟨fits.memoryCount, fits.dataCount, fits.elementCount⟩
      · exact fun _ _ active => by cases active
  | @invoke index idle name args found inactive =>
    rcases List.mem_or_eq_of_mem_set member with old | rfl
    · exact other old
    · have idleKeeps := keeps idle (List.mem_of_getElem? found)
      refine idleKeeps.advance (startExport_serves idleKeeps) fun _ machine started => ?_
      obtain ⟨_, type, -, -, -, typed⟩ := startExport_typed idleKeeps started
      exact ⟨type.results, typed⟩
  | @resume index running activity found active =>
    rcases List.mem_or_eq_of_mem_set member with old | rfl
    · exact other old
    · have runningKeeps := keeps running (List.mem_of_getElem? found)
      refine runningKeeps.advance ?_ fun bodies machine stepped => ?_
      · exact Machine.step_serves runningKeeps.serves
      · obtain ⟨results, typed⟩ := runningKeeps.running bodies activity active
        have next := typings_step runningKeeps.linked runningKeeps.registered bodies typed
        rw [stepped] at next
        exact ⟨results, next⟩
  | drop => exact other (List.mem_of_mem_eraseIdx member)

theorem Reachable.keeps {world : World σ} (reachable : world.Reachable) :
    ∀ tenant ∈ world.tenants, world.Keeps tenant := by
  refine @Reachable.induct σ (fun world => ∀ tenant ∈ world.tenants, world.Keeps tenant) ?_ ?_
    world reachable
  · intro granted host tenant member
    cases member
  · exact fun step keeps => step.keeps keeps

end World

/-- Type soundness over all histories: an instance whose function bodies are well typed runs
every invocation, whatever other instances and the host do between its steps, to results of
the types of the function that was invoked, or to a trap.  It starts one only with arguments
of that function's types. -/
theorem typed_bodies_run_typed {world : World σ} (reachable : world.Reachable)
    {tenant : Tenant σ} (member : tenant ∈ world.tenants)
    (bodies : BodiesTyped false tenant.inst.module) :
    (∀ machine, world.Runs tenant machine →
      (machine.step tenant.inst).Sound tenant.inst (machine.promised tenant.inst)) ∧
    ∀ name args machine,
      tenant.inst.startExport (world.store tenant) name args = .running machine →
      ∃ index type, tenant.inst.exportedIndex name .function = .ok index ∧
        tenant.inst.module.functionType index = some type ∧ typesOf args = type.params ∧
        machine.promised tenant.inst = type.results ∧
        ∀ steps, (invokeFor tenant.inst steps (.running machine)).Sound tenant.inst
          type.results := by
  have keeps := reachable.keeps tenant member
  refine ⟨fun machine runs => ?_, fun name args machine started => ?_⟩
  · obtain ⟨activity, active, rfl⟩ := runs.running
    obtain ⟨results, typed⟩ := keeps.running bodies activity active
    rw [promised_typed typed]
    exact sound_of_typed (typings_step keeps.linked keeps.registered bodies typed)
  · obtain ⟨index, type, exported, found, argsTyped, typed⟩ :=
      World.startExport_typed keeps started
    refine ⟨index, type, exported, found, argsTyped, promised_typed typed, fun steps => ?_⟩
    refine sound_of_typed (.run (typings_environment keeps.linked keeps.registered bodies) ?_
      (show (typings tenant.inst).State type.results (.running machine) from typed) steps)
    exact fun results store budget frame serves framed =>
      typings_guest keeps.linked serves framed

/-- The exported function runs to the sum, through its block and the call of the other. -/
theorem typed_bodies_run_typed_sevens :
    ∃ (world : World Unit) (tenant : Tenant Unit) (machine : Machine Unit),
      tenant ∈ world.tenants ∧
      tenant.inst.startExport (world.store tenant) "seven" [] = .running machine ∧
      (∀ steps, (invokeFor tenant.inst steps (.running machine)).Sound tenant.inst [.i32]) ∧
      ∃ steps final, invokeFor tenant.inst steps (.running machine) =
        .finished final (.ok [.i32 7]) := by
  let hosts : HostRegistry Unit := { functions := [], globals := [], tables := [], memories := [] }
  have known : hosts.Known (World.start (fun _ => true) ()).heap := by
    refine ⟨?_, ?_, ?_⟩ <;> intro entry listed <;> cases listed
  obtain ⟨inst, store, machine, ready, same, started, promised, ends⟩ :
      ∃ inst store machine, instantiate Validator.sevens hosts ⟨26, 1, none, none⟩
          (World.start (fun _ => true) ()).heap () = .ready inst store ∧
        inst.module = Validator.sevens ∧ inst.startExport store "seven" [] = .running machine ∧
        machine.promised inst = [.i32] ∧
        ∃ steps final, invokeFor inst steps (.running machine) = .finished final (.ok [.i32 7]) :=
    ⟨_, _, _, rfl, rfl, rfl, rfl, 10, _, rfl⟩
  let tenant := Tenant.ofStore inst store ((startFunction inst store).map Machine.activity)
  let world : World Unit := { heap := store.heap, host := store.host, tenants := [tenant] }
  have steps : World.Steps (World.start (fun _ => true) ()) world :=
    .single (.instantiate known ready)
  have member : tenant ∈ world.tenants := List.mem_singleton_self _
  have bodies : BodiesTyped false tenant.inst.module := same ▸ Validator.sevens_bodiesTyped false
  obtain ⟨_, type, -, -, -, results, sound⟩ :=
    (typed_bodies_run_typed ⟨_, _, steps⟩ member bodies).2 "seven" [] machine started
  refine ⟨world, tenant, machine, member, started, fun steps => ?_, ends⟩
  rw [← promised.symm.trans results] at sound
  exact sound steps

end MiniWasm.Runtime
