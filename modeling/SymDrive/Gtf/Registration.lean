import SymDrive.Cil.DriverFile
import SymDrive.Gtf.FunctionTracker

/-!
# Every function is registered before it is looked up

The runs of an instrumented driver over the function tracker.  A run starts with the driver just
loaded next to a framework just loaded, so that every static variable has its initial value.

An event either calls a generated body or lets a body that was called before do its next statement,
so bodies interleave in any way: nested, on several processors, or abandoned.  The code of the
driver itself runs behind its `prefn`, which is why a stub or a `postfn` is called only after some
`prefn` has returned.  A statement is one step; what it finds around it is an input of the event.
What a statement does outside the tracker is the subject of other files.

The registration at the first entry is one step, too.  Nothing races it: that entry is the module
initialisation of the driver, and nothing else enters before its `gen_enter_driver` is done.

Before the first `gen_enter_driver` nothing is registered and every body is a `prefn` that is about
to call it (`Before`).  From then on the table holds every registered function (`After`), and the
bodies look up no others, because the lists that the code generator goes through are the ones that
are registered (`doSplitting_wraps`).
-/

namespace SymDrive

open Checked Cil

/-! ## Instrumented drivers -/

/-- A driver as the compiler and the loader leave it: the generated file is a C program, so it
defines no function twice, and different functions have different addresses. -/
structure Driver where
  args : SplitArgs
  nonstubFns : List String
  source : List Global
  file : SplitFile
  generated : doSplitting args nonstubFns source = .ok file
  definedOnce : file.definedNames.Nodup
  addr : String → ULong
  addr_inj : ∀ f ∈ file.definedNames, ∀ g ∈ file.definedNames, addr f = addr g → f = g
  defaultMJRcheck : ULong

inductive BodyKind where
  | prefn
  | postfn
  | stub
  deriving DecidableEq, Repr

def Driver.bodies (d : Driver) : BodyKind → List GenFun
  | .prefn => d.file.prefns
  | .postfn => d.file.postfns
  | .stub => d.file.stubs

/-- A generated body that was called, and what is left of it. -/
structure Activation where
  kind : BodyKind
  todo : List GenStmt

/-- The calls that are recorded. -/
inductive RegistrationCall where
  | genRegisterAll
  | genLookupMJRcheck (fn : String)
  deriving DecidableEq, Repr

/-- The static variables of the framework and of the driver, the bodies that were called, and the
recorded calls, the first one first. -/
structure DriverRun where
  firstTimeInDriver : ℤ
  tracker : FunctionTracker
  checkFn : String → ULong
  activations : List Activation
  calls : List RegistrationCall

def DriverRun.initial : DriverRun where
  firstTimeInDriver := 1
  tracker := initializeFunctionTracker
  checkFn := fun _ => 0
  activations := []
  calls := []

/-- What a statement finds: the allocations of `gen_register_all`, the argument of `gen_convert_fn`,
the symbols of the kernel, and whether `_call_kernel_fn_` is 0. -/
structure Inputs where
  mem : RegisterOne → Alloc
  origFnPtr : ULong
  origFn : ULong
  symbolLookup : String → ULong
  callKernelFn : Bool

inductive RunEvent where
  | call (kind : BodyKind) (i : ℕ)
  | step (i : ℕ) (inputs : Inputs)

/-! ## Steps -/

section

variable (d : Driver)

def genRegisterAll (mem : RegisterOne → Alloc) (rs : List RegisterOne) (t : FunctionTracker) :
    Except Fault FunctionTracker :=
  rs.foldlM (fun t r => genRegisterOne t (mem r) (d.addr r.wrapperFn) (d.addr r.driverFn)
    r.wrapperFnStr r.driverFnStr) t

/-- The start of `gen_enter_driver`. -/
def registerFirstTime (s : DriverRun) (inputs : Inputs) : Except Fault DriverRun :=
  if s.firstTimeInDriver = 1 then do
    let tracker ← genRegisterAll d inputs.mem d.file.registerAll s.tracker
    .ok { s with firstTimeInDriver := 0, tracker := tracker, calls := s.calls ++ [.genRegisterAll] }
  else .ok s

def execInstr (s : DriverRun) (inputs : Inputs) : GenInstr → Except Fault DriverRun
  | .genEnterDriver => registerFirstTime d s inputs
  | .genExitDriver => .ok s
  | .genConvertFn str1 str2 => do
      let tracker ← genConvertFn s.tracker inputs.origFnPtr inputs.origFn str1 str2
      .ok { s with tracker := tracker }
  | .genLookupMJRcheck prepostfn fn =>
      if s.checkFn fn = 0 then do
        let r ← genLookupMJRcheck s.tracker inputs.symbolLookup d.defaultMJRcheck prepostfn
          (d.addr fn)
        .ok { s with tracker := r.2, checkFn := Function.update s.checkFn fn r.1,
                     calls := s.calls ++ [.genLookupMJRcheck fn] }
      else .ok s
  | .callMJRcheck fn _ => do
      ensure (s.checkFn fn ≠ 0) (.nullDeref .generatedFn)
      .ok s
  | .runKernelFn _ => .ok s

/-- Some `prefn` has returned. -/
def DriverRun.entered (s : DriverRun) : Bool :=
  s.activations.any fun act => act.kind = .prefn && act.todo.isEmpty

def DriverRun.setTodo (s : DriverRun) (i : ℕ) (act : Activation) : DriverRun :=
  { s with activations := s.activations.set i act }

/-- An event that is not possible changes nothing. -/
def DriverRun.step (s : DriverRun) : RunEvent → Except Fault DriverRun
  | .call kind i =>
      match (d.bodies kind)[i]? with
      | some b =>
          if kind = .prefn ∨ s.entered then
            .ok { s with activations := s.activations ++ [⟨kind, b.body⟩] }
          else .ok s
      | none => .ok s
  | .step i inputs =>
      match s.activations[i]? with
      | some ⟨kind, .instr instr :: todo⟩ => execInstr d (s.setTodo i ⟨kind, todo⟩) inputs instr
      | some ⟨kind, .ifCallKernelFn body :: todo⟩ =>
          if inputs.callKernelFn then .ok (s.setTodo i ⟨kind, body.map .instr ++ todo⟩)
          else .ok (s.setTodo i ⟨kind, todo⟩)
      | some ⟨_, []⟩ => .ok s
      | none => .ok s

def Driver.run (events : List RunEvent) : Except Fault DriverRun :=
  events.foldlM (DriverRun.step d) DriverRun.initial

end

/-! ## The invariant -/

section

variable {d : Driver} {s : DriverRun}

/-- The functions that `gen_register_all` registers. -/
def Driver.registered (d : Driver) : List String := d.file.registerAll.map RegisterOne.driverFn

def Driver.registeredAddrs (d : Driver) : Set ULong := {k | k ∈ d.registered.map d.addr}

/-- Nothing is registered, and every body that was called is about to enter the driver. -/
structure Before (s : DriverRun) : Prop where
  first : s.firstTimeInDriver = 1
  table : s.tracker.Registered ∅
  calls : s.calls = []
  waiting : ∀ act ∈ s.activations, ∃ rest, act.todo = .instr .genEnterDriver :: rest

/-- `gen_register_all` has run, before every lookup. -/
structure After (d : Driver) (s : DriverRun) : Prop where
  first : s.firstTimeInDriver = 0
  table : s.tracker.Registered d.registeredAddrs
  calls : ∃ fns : List String, s.calls = .genRegisterAll :: fns.map .genLookupMJRcheck

/-- The bodies that were called look up registered functions only. -/
structure RunInv (d : Driver) (s : DriverRun) : Prop where
  known : ∀ act ∈ s.activations, ∀ fn ∈ lookups act.todo, fn ∈ d.registered
  phase : Before s ∨ After d s

lemma Driver.wraps (d : Driver) : ∃ fns, d.file.Wraps d.args fns := doSplitting_wraps d.generated

lemma Driver.registered_nodup (d : Driver) : d.registered.Nodup := by
  obtain ⟨fns, hw⟩ := d.wraps
  exact hw.registered_nodup d.definedOnce

lemma Driver.addr_inj_registered (d : Driver) {f g : String} (hf : f ∈ d.registered)
    (hg : g ∈ d.registered) (h : d.addr f = d.addr g) : f = g := by
  obtain ⟨fns, hw⟩ := d.wraps
  exact d.addr_inj f (hw.registered_defined hf) g (hw.registered_defined hg) h

/-- Whatever body is called, it looks up registered functions only. -/
lemma Driver.lookup_registered {kind : BodyKind} {b : GenFun} (hb : b ∈ d.bodies kind) {fn : String}
    (hfn : fn ∈ lookups b.body) : fn ∈ d.registered := by
  obtain ⟨fns, hw⟩ := d.wraps
  refine hw.lookup_registered ?_ hfn
  rw [List.mem_append, List.mem_append]
  cases kind with
  | prefn => exact Or.inl (Or.inl hb)
  | postfn => exact Or.inl (Or.inr hb)
  | stub => exact Or.inr hb

/-- A function that is registered is registered by one call only. -/
lemma Driver.countP_registered (d : Driver) {fn : String} (hfn : fn ∈ d.registered) :
    d.file.registerAll.countP (fun r => d.addr r.driverFn = d.addr fn) = 1 := by
  have hcount : d.file.registerAll.countP (fun r => d.addr r.driverFn = d.addr fn) =
      d.registered.count fn := by
    rw [Driver.registered, List.count, List.countP_map]
    refine List.countP_congr fun r hr => ?_
    have hmem : r.driverFn ∈ d.registered := List.mem_map_of_mem hr
    simp only [decide_eq_true_iff, Function.comp_apply, beq_iff_eq]
    exact ⟨d.addr_inj_registered hmem hfn, fun h => by rw [h]⟩
  rw [hcount, List.count_eq_one_of_mem d.registered_nodup hfn]

/-! ### Registration -/

/-- Registering functions with new and different addresses adds them all. -/
lemma genRegisterAll_outcome (mem : RegisterOne → Alloc) :
    ∀ (rs : List RegisterOne) {t : FunctionTracker} {ks : Set ULong}, t.Registered ks →
      (rs.map fun r => d.addr r.driverFn).Nodup → (∀ r ∈ rs, d.addr r.driverFn ∉ ks) →
        Outcome FunctionTracker.Registered Fault.NotAboutRegistration
          (ks ∪ {k | k ∈ rs.map fun r => d.addr r.driverFn}) (genRegisterAll d mem rs t)
  | [], t, ks, ht, _, _ => by
      have hks : ks ∪ {k | k ∈ ([] : List RegisterOne).map fun r => d.addr r.driverFn} = ks := by
        simp
      rw [hks]
      exact ht
  | r :: rs, t, ks, ht, hnodup, hnew => by
      rw [List.map_cons, List.nodup_cons] at hnodup
      have hks : ks ∪ {k | k ∈ (r :: rs).map fun r => d.addr r.driverFn} =
          insert (d.addr r.driverFn) ks ∪ {k | k ∈ rs.map fun r => d.addr r.driverFn} := by
        ext k
        simp only [List.map_cons, List.mem_cons, Set.mem_union, Set.mem_ofPred_eq,
          Set.mem_insert_iff]
        tauto
      rw [hks, genRegisterAll, List.foldlM_cons]
      refine Outcome.bind (genRegisterOne_outcome ht _ _ (hnew r (by simp)) _ _) fun t₁ ht₁ => ?_
      refine genRegisterAll_outcome mem rs ht₁ hnodup.2 fun r' hr' hmem => ?_
      rcases Set.mem_insert_iff.mp hmem with heq | hmem
      · exact hnodup.1 (heq ▸ List.mem_map_of_mem hr')
      · exact hnew r' (List.mem_cons_of_mem _ hr') hmem

lemma Driver.addrs_nodup (d : Driver) :
    (d.file.registerAll.map fun r => d.addr r.driverFn).Nodup := by
  have hmap : (d.file.registerAll.map fun r => d.addr r.driverFn) = d.registered.map d.addr := by
    rw [Driver.registered, List.map_map]
    rfl
  rw [hmap]
  exact d.registered_nodup.map_on fun f hf g hg h => d.addr_inj_registered hf hg h

/-- What a step that leaves the bodies alone owes to the invariant of the second phase. -/
def AfterWith (d : Driver) (activations : List Activation) (s : DriverRun) : Prop :=
  After d s ∧ s.activations = activations

/-- The first entry registers every function of the driver. -/
lemma registerFirstTime_before (hfirst : s.firstTimeInDriver = 1) (htable : s.tracker.Registered ∅)
    (hcalls : s.calls = []) (inputs : Inputs) :
    Outcome (fun s' _ => AfterWith d s.activations s') Fault.NotAboutRegistration ()
      (registerFirstTime d s inputs) := by
  unfold registerFirstTime
  rw [if_pos hfirst]
  have hall := genRegisterAll_outcome inputs.mem d.file.registerAll htable d.addrs_nodup
    fun _ _ => Set.notMem_empty _
  refine Outcome.bind hall fun t ht => ⟨⟨rfl, ?_, [], ?_⟩, rfl⟩
  · have hks : ∅ ∪ {k | k ∈ d.file.registerAll.map fun r => d.addr r.driverFn} =
        d.registeredAddrs := by
      rw [Set.empty_union, Driver.registeredAddrs, Driver.registered, List.map_map]
      rfl
    rwa [hks] at ht
  · rw [hcalls]
    rfl

/-- Once the functions are registered, every statement that looks up a registered function only
keeps them so. -/
lemma execInstr_after (hs : After d s) (inputs : Inputs) {instr : GenInstr}
    (hlook : ∀ fn, instr.lookup? = some fn → fn ∈ d.registered) :
    Outcome (fun s' _ => AfterWith d s.activations s') Fault.NotAboutRegistration ()
      (execInstr d s inputs instr) := by
  cases instr with
  | genEnterDriver =>
      unfold execInstr registerFirstTime
      rw [if_neg (by rw [hs.first]; decide)]
      exact ⟨hs, rfl⟩
  | genExitDriver => exact ⟨hs, rfl⟩
  | genConvertFn str1 str2 =>
      exact Outcome.bind (genConvertFn_outcome hs.table _ _ str1 str2) fun t ht =>
        ⟨⟨hs.first, ht, hs.calls⟩, rfl⟩
  | genLookupMJRcheck prepostfn fn =>
      unfold execInstr
      dsimp only
      split_ifs with hzero
      · have hmem : d.addr fn ∈ d.registeredAddrs := List.mem_map_of_mem (hlook fn rfl)
        refine Outcome.bind (genLookupMJRcheck_outcome hs.table _ _ prepostfn hmem) fun r hr => ?_
        obtain ⟨fns, hfns⟩ := hs.calls
        refine ⟨⟨hs.first, hr, fns ++ [fn], ?_⟩, rfl⟩
        dsimp only
        rw [hfns, List.map_append, List.cons_append]
        rfl
      · exact ⟨hs, rfl⟩
  | callMJRcheck fn condition =>
      exact Outcome.ensure_bind ⟨by simp, by simp⟩ fun _ => ⟨hs, rfl⟩
  | runKernelFn kernelFunction => exact ⟨hs, rfl⟩

/-! ### Events -/

/-- Before the first entry no `prefn` has returned. -/
lemma Before.not_entered (hs : Before s) : s.entered = false := by
  rw [DriverRun.entered, List.any_eq_false]
  intro act hact
  obtain ⟨rest, htodo⟩ := hs.waiting act hact
  simp [htodo]

lemma After.setTodo (hs : After d s) (i : ℕ) (act : Activation) : After d (s.setTodo i act) :=
  ⟨hs.first, hs.table, hs.calls⟩

/-- A body that goes on still looks up registered functions only. -/
lemma lookups_setTodo (hs : RunInv d s) {i : ℕ} {act : Activation}
    (hact : ∀ fn ∈ lookups act.todo, fn ∈ d.registered) :
    ∀ act' ∈ (s.setTodo i act).activations, ∀ fn ∈ lookups act'.todo, fn ∈ d.registered := by
  intro act' hact'
  rcases List.mem_or_eq_of_mem_set hact' with h | rfl
  · exact hs.known act' h
  · exact hact

/-- A body that is called looks up registered functions only, and before the first entry it is a
`prefn`. -/
lemma RunInv.call (hs : RunInv d s) {kind : BodyKind} {b : GenFun} (hb : b ∈ d.bodies kind)
    (hkind : kind = .prefn ∨ s.entered = true) :
    RunInv d { s with activations := s.activations ++ [⟨kind, b.body⟩] } := by
  refine ⟨?_, ?_⟩
  · intro act hact
    rcases List.mem_append.mp hact with hact | hact
    · exact hs.known act hact
    · cases List.mem_singleton.mp hact
      exact fun fn hfn => Driver.lookup_registered hb hfn
  · rcases hs.phase with hbefore | hafter
    · refine Or.inl ⟨hbefore.first, hbefore.table, hbefore.calls, ?_⟩
      intro act hact
      rcases List.mem_append.mp hact with hact | hact
      · exact hbefore.waiting act hact
      · cases List.mem_singleton.mp hact
        rcases hkind with rfl | hentered
        · obtain ⟨fns, hw⟩ := d.wraps
          obtain ⟨fn, _, hbody⟩ := hw.prefn b hb
          obtain ⟨rest, hrest, _⟩ := genPrefnBody_eq (a := d.args) (f := fn)
          exact ⟨rest, hbody.trans hrest⟩
        · rw [hbefore.not_entered] at hentered
          exact absurd hentered (by decide)
    · exact Or.inr ⟨hafter.first, hafter.table, hafter.calls⟩

/-- A statement of a body is done: the first `gen_enter_driver` ends the first phase. -/
lemma RunInv.instr (hs : RunInv d s) {i : ℕ} {kind : BodyKind} {instr : GenInstr}
    {todo : List GenStmt} (hact : s.activations[i]? = some ⟨kind, .instr instr :: todo⟩)
    (inputs : Inputs) :
    Outcome (fun s' _ => RunInv d s') Fault.NotAboutRegistration ()
      (execInstr d (s.setTodo i ⟨kind, todo⟩) inputs instr) := by
  have hlook := hs.known _ (List.mem_of_getElem? hact)
  have hrest : ∀ fn ∈ lookups todo, fn ∈ d.registered := fun fn hfn =>
    hlook fn (by rw [lookups_cons]; exact List.mem_append_right _ hfn)
  have hexec : Outcome (fun s' _ => AfterWith d (s.setTodo i ⟨kind, todo⟩).activations s')
      Fault.NotAboutRegistration () (execInstr d (s.setTodo i ⟨kind, todo⟩) inputs instr) := by
    rcases hs.phase with hbefore | hafter
    · obtain ⟨rest, htodo⟩ := hbefore.waiting _ (List.mem_of_getElem? hact)
      cases htodo
      exact registerFirstTime_before (s := s.setTodo i ⟨kind, todo⟩) hbefore.first hbefore.table
        hbefore.calls inputs
    · refine execInstr_after (hafter.setTodo i _) inputs fun fn hfn => ?_
      refine hlook fn ?_
      rw [lookups_cons, GenStmt.lookups, hfn]
      exact List.mem_append_left _ (by simp)
  refine hexec.imp fun s' hs' => ⟨?_, Or.inr hs'.1⟩
  rw [hs'.2]
  exact lookups_setTodo hs hrest

/-- A branch is reached in the second phase only: a waiting body does not start with one. -/
lemma RunInv.ifCallKernelFn (hs : RunInv d s) {i : ℕ} {kind : BodyKind} {body : List GenInstr}
    {todo : List GenStmt} (hact : s.activations[i]? = some ⟨kind, .ifCallKernelFn body :: todo⟩)
    (inputs : Inputs) :
    Outcome (fun s' _ => RunInv d s') Fault.NotAboutRegistration ()
      (if inputs.callKernelFn then .ok (s.setTodo i ⟨kind, body.map .instr ++ todo⟩)
        else .ok (s.setTodo i ⟨kind, todo⟩)) := by
  have hlook := hs.known _ (List.mem_of_getElem? hact)
  rw [lookups_cons, GenStmt.lookups] at hlook
  have hafter : After d s := by
    refine hs.phase.resolve_left fun hbefore => ?_
    obtain ⟨rest, htodo⟩ := hbefore.waiting _ (List.mem_of_getElem? hact)
    cases htodo
  split_ifs with hcall
  · refine ⟨lookups_setTodo hs ?_, Or.inr (hafter.setTodo i _)⟩
    rw [lookups_append, lookups_map_instr]
    exact hlook
  · refine ⟨lookups_setTodo hs ?_, Or.inr (hafter.setTodo i _)⟩
    exact fun fn hfn => hlook fn (List.mem_append_right _ hfn)

/-- **Steps.**  Every event keeps the invariant, and fails neither assertion about the table. -/
lemma RunInv.step (hs : RunInv d s) (e : RunEvent) :
    Outcome (fun s' _ => RunInv d s') Fault.NotAboutRegistration () (s.step d e) := by
  cases e with
  | call kind i =>
      unfold DriverRun.step
      dsimp only
      cases hb : (d.bodies kind)[i]? with
      | none => exact hs
      | some b =>
          dsimp only
          split_ifs with hkind
          · exact hs.call (List.mem_of_getElem? hb) hkind
          · exact hs
  | step i inputs =>
      unfold DriverRun.step
      dsimp only
      cases hact : s.activations[i]? with
      | none => exact hs
      | some act =>
          obtain ⟨kind, todo⟩ := act
          cases todo with
          | nil => exact hs
          | cons stmt todo =>
              cases stmt with
              | instr instr => exact hs.instr hact inputs
              | ifCallKernelFn body => exact hs.ifCallKernelFn hact inputs

end

/-! ## The result -/

/-- The next statement of a body that was called is a lookup. -/
def Activation.LooksUp (act : Activation) (fn : String) : Prop :=
  ∃ prepostfn todo, act.todo = .instr (.genLookupMJRcheck prepostfn fn) :: todo

lemma runInv_initial (d : Driver) : RunInv d DriverRun.initial where
  known := fun _ hact => absurd hact List.not_mem_nil
  phase := Or.inl ⟨rfl, registered_initialize, rfl, fun _ hact => absurd hact List.not_mem_nil⟩

/-- **Runs.**  The invariant holds after every sequence of events. -/
lemma run_outcome (d : Driver) (events : List RunEvent) :
    Outcome (fun s _ => RunInv d s) Fault.NotAboutRegistration () (d.run events) :=
  Along.outcome (t := ()) (fun _ _ e hs _ => hs.step e) events (runInv_initial d)
    (Along.of_forall fun _ _ => trivial)

/-- **Registration is complete and comes first.**  Every function that a generated body looks up is
registered by exactly one call in `gen_register_all`.  In every run, `gen_register_all` has run once
before the first lookup, and a body that is about to look up a function finds it done.  No run fails
the assertion about a missing record, or the one about a record that is there already. -/
theorem functions_registered_before_lookup (d : Driver) :
    (∀ kind, ∀ b ∈ d.bodies kind, ∀ fn ∈ lookups b.body,
      d.file.registerAll.countP (fun r => d.addr r.driverFn = d.addr fn) = 1) ∧
    ∀ events : List RunEvent,
      (∀ s, d.run events = .ok s →
        (s.calls = [] ∨ ∃ fns : List String,
          s.calls = .genRegisterAll :: fns.map .genLookupMJRcheck) ∧
        ∀ act ∈ s.activations, ∀ fn, act.LooksUp fn →
          s.calls.count .genRegisterAll = 1) ∧
      ∀ e, d.run events = .error e →
        e ≠ .assertion .trackerObjsInsert "Object already present in table!" ∧
          e ≠ .assertion .genLookupMJRcheck "gen_lookup_MJRcheck failed to lookup\n" := by
  refine ⟨fun kind b hb fn hfn => d.countP_registered (Driver.lookup_registered hb hfn), ?_⟩
  intro events
  have hrun := run_outcome d events
  constructor
  · intro s hs
    rw [hs] at hrun
    rcases hrun.phase with hbefore | hafter
    · refine ⟨Or.inl hbefore.calls, ?_⟩
      rintro act hact fn ⟨prepostfn, todo, htodo⟩
      obtain ⟨rest, hrest⟩ := hbefore.waiting act hact
      rw [htodo] at hrest
      cases hrest
    · obtain ⟨fns, hfns⟩ := hafter.calls
      refine ⟨Or.inr ⟨fns, hfns⟩, fun act _ fn _ => ?_⟩
      have hnone : RegistrationCall.genRegisterAll ∉
          fns.map RegistrationCall.genLookupMJRcheck := by
        simp
      rw [hfns, List.count_cons_self, List.count_eq_zero_of_not_mem hnone]
  · intro e he
    rw [he] at hrun
    exact hrun

/-- A driver with one function, which calls one function of the kernel. -/
def probeSource : List Global :=
  [.gVarDecl { vid := .source 1, vname := "kmalloc", vtype := .tFun (some []) false },
    .gFun { vid := .source 2, vname := "probe", vtype := .tFun (some []) false } ["kmalloc"]]

def probeArgs : SplitArgs where
  annots := fun _ => none
  gTestFramework := true

def probeNames : List String :=
  ["probe", "prefn_probe", "postfn_probe", "stubwrapper_kmalloc", "gen_register_all"]

def probeFile : SplitFile where
  globals :=
    [.gVarDecl { vid := .made "kmalloc", vname := "kmalloc", vtype := .tFun (some []) false },
      .gVarDecl { vid := .source 1, vname := "stubwrapper_kmalloc",
                  vtype := .tFun (some []) false },
      prototype "prefn_probe", prototype "postfn_probe",
      .gFun { vid := .source 2, vname := "probe", vtype := .tFun (some []) false } ["kmalloc"]]
  prefns := [⟨"prefn_probe", [.instr .genEnterDriver, .instr (.genLookupMJRcheck "1" "probe"),
    .instr (.callMJRcheck "probe" 0)]⟩]
  postfns := [⟨"postfn_probe", [.instr (.callMJRcheck "probe" 1), .instr .genExitDriver]⟩]
  stubs := [⟨"stubwrapper_kmalloc", [.instr (.genLookupMJRcheck "0" "stubwrapper_kmalloc"),
    .instr (.callMJRcheck "stubwrapper_kmalloc" 0),
    .ifCallKernelFn [.genExitDriver, .runKernelFn "kmalloc",
      .callMJRcheck "stubwrapper_kmalloc" 1, .genEnterDriver]]⟩]
  registerAll := [⟨"prefn_probe", "probe", "prefn_probe", "probe"⟩,
    ⟨"kmalloc", "stubwrapper_kmalloc", "kmalloc", "kmalloc"⟩]

def probeDriver : Driver where
  args := probeArgs
  nonstubFns := []
  source := probeSource
  file := probeFile
  generated := rfl
  definedOnce := by decide
  addr := fun fn => 0xc0001000 + 16 * UInt32.ofNat (probeNames.idxOf fn)
  addr_inj := by decide
  defaultMJRcheck := 0xc0000100

/-- Everything an event may find, with no allocation failing and no check routine in the kernel. -/
def plainInputs : Inputs where
  mem := fun _ => Alloc.succeeds
  origFnPtr := 0
  origFn := 0
  symbolLookup := fun _ => 0
  callKernelFn := true

example : (probeDriver.run [.call .prefn 0, .step 0 plainInputs, .step 0 plainInputs]).map
    DriverRun.calls = .ok [.genRegisterAll, .genLookupMJRcheck "probe"] := by
  rfl

theorem functions_registered_before_lookup_probe :
    probeDriver.file.registerAll.countP
      (fun r => probeDriver.addr r.driverFn = probeDriver.addr "probe") = 1 :=
  (functions_registered_before_lookup probeDriver).1 .prefn _ List.mem_cons_self "probe" (by decide)

end SymDrive
