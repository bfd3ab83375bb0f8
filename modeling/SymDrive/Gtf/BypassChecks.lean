import SymDrive.Gtf.Framework
import SymDrive.Cil.StubRuns

/-!
# Checks that bypass the kernel

The check routines of `misc_checks` for functions with a value to return that do not return zero, so
that a stub does not call the kernel function.  Such a routine runs with the condition 0 only, and
the value that the stub returns is the one that it stores through `retval` there.

* `BypassApi.check` — the routines of `gpio.c` and `pci_config_space.c`, and some of `main.c` and
  `freebsd.c`.
* `bypassed_stub_returns_stored_iff` — `pci_read_config_MJRcheck` stores its value in the
  postcondition, which never runs.
-/

namespace SymDrive

open Cil.Splitter

/-! ## The routines -/

/-- What a check routine returns, and what it has stored through `retval`. -/
structure CheckOutcome where
  returned : ℤ
  stored : Option ℤ

/-- A routine that stores a value in the precondition and has no postcondition. -/
def bypassRoutine (api : BypassApi) (l : GlobalLock) (prepost value : ℤ) :
    Except Fault (GlobalLock × CheckOutcome) :=
  lockedRoutine l do
    if prepost = 0 then .ok ⟨1, some value⟩
    else do
      tfassert (.check (.bypass api)) False
      .ok ⟨1, none⟩

/-- A routine with a postcondition. -/
def prepostRoutine (api : BypassApi) (l : GlobalLock) (prepost : ℤ) (pre post : Option ℤ) :
    Except Fault (GlobalLock × CheckOutcome) :=
  lockedRoutine l do
    if prepost = 0 then .ok ⟨1, pre⟩
    else if prepost = 1 then .ok ⟨1, post⟩
    else do
      tfassert (.check (.bypass api)) False
      .ok ⟨1, none⟩

/-- `ENXIO` of the kernel headers. -/
def enxio : ℤ := 6

/-- `ENODEV` of the kernel headers. -/
def enodev : ℤ := 19

/-- `EINVAL` of the kernel headers. -/
def einval : ℤ := 22

/-- A symbolic error number that is neither of the two, or zero. -/
def gpioResult (symbolic : ℤ) : ℤ :=
  if isErr (UInt32.ofInt symbolic) ∧ symbolic ≠ -enxio ∧ symbolic ≠ -enodev then symbolic else 0

section

variable (l : GlobalLock) (prepost symbolic : ℤ)

/-- Whether a pin is valid is any symbolic value. -/
def gpioIsValidMJRcheck := bypassRoutine .gpioIsValid l prepost symbolic

/-- A request fails with an error number, or succeeds. -/
def gpioRequestMJRcheck := bypassRoutine .gpioRequest l prepost (gpioResult symbolic)

def gpioRequestOneMJRcheck := bypassRoutine .gpioRequestOne l prepost (gpioResult symbolic)

def gpioRequestArrayMJRcheck := bypassRoutine .gpioRequestArray l prepost (gpioResult symbolic)

def gpioDirectionInputMJRcheck := bypassRoutine .gpioDirectionInput l prepost (gpioResult symbolic)

def gpioDirectionOutputMJRcheck :=
  bypassRoutine .gpioDirectionOutput l prepost (gpioResult symbolic)

def gpioSetDebounceMJRcheck := bypassRoutine .gpioSetDebounce l prepost (gpioResult symbolic)

/-- The two functions that read a pin share this routine; the value is symbolic. -/
def gpioGetValueWrapper (api : BypassApi) := bypassRoutine api l prepost symbolic

def gpioGetValueMJRcheck := gpioGetValueWrapper l prepost symbolic .gpioGetValue

def underscoreGpioGetValueMJRcheck := gpioGetValueWrapper l prepost symbolic .underscoreGpioGetValue

/-- A symbolic truth value, turned into 0 or 1. -/
def gpioCansleepMJRcheck := bypassRoutine .gpioCansleep l prepost (if symbolic = 0 then 0 else 1)

def gpioGetValueCansleepMJRcheck := bypassRoutine .gpioGetValueCansleep l prepost symbolic

def gpioExportMJRcheck := bypassRoutine .gpioExport l prepost symbolic

def gpioExportLinkMJRcheck := bypassRoutine .gpioExportLink l prepost symbolic

def gpioSysfsSetActiveLowMJRcheck := bypassRoutine .gpioSysfsSetActiveLow l prepost symbolic

/-- No pin has an interrupt. -/
def gpioToIrqMJRcheck := bypassRoutine .gpioToIrq l prepost (-enxio)

/-- No interrupt has a pin. -/
def irqToGpioMJRcheck := bypassRoutine .irqToGpio l prepost (-einval)

/-- Writing the configuration space succeeds; the postcondition stores nothing. -/
def pciBusWriteConfigByteMJRcheck := prepostRoutine .pciBusWriteConfigByte l prepost (some 0) none

def pciBusWriteConfigWordMJRcheck := prepostRoutine .pciBusWriteConfigWord l prepost (some 0) none

def pciBusWriteConfigDwordMJRcheck :=
  prepostRoutine .pciBusWriteConfigDword l prepost (some 0) none

/-- Everything is copied: no byte is left. -/
def copyToUserMJRcheck := bypassRoutine .copyToUser l prepost 0

/-- No interrupt is found. -/
def probeIrqMaskMJRcheck := prepostRoutine .probeIrqMask l prepost (some 0) none

/-- `probe_irq_off_MJRcheck` asserts in every branch. -/
def probeIrqOffMJRcheck : Except Fault (GlobalLock × CheckOutcome) :=
  lockedRoutine l do
    if prepost = 0 then
      tfassertDetail (.check (.bypass .probeIrqOff)) False "You probably should look at this"
    else
      tfassert (.check (.bypass .probeIrqOff)) False
    .ok ⟨1, none⟩

/-- The only routine that makes its value symbolic in the postcondition. -/
def pciReadConfigMJRcheck := prepostRoutine .pciReadConfig l prepost none (some symbolic)

/-- The check of a function; `symbolic` is what `s2e_make_symbolic` stores. -/
def BypassApi.check : BypassApi → Except Fault (GlobalLock × CheckOutcome)
  | .gpioIsValid => gpioIsValidMJRcheck l prepost symbolic
  | .gpioRequest => gpioRequestMJRcheck l prepost symbolic
  | .gpioRequestOne => gpioRequestOneMJRcheck l prepost symbolic
  | .gpioRequestArray => gpioRequestArrayMJRcheck l prepost symbolic
  | .gpioDirectionInput => gpioDirectionInputMJRcheck l prepost symbolic
  | .gpioDirectionOutput => gpioDirectionOutputMJRcheck l prepost symbolic
  | .gpioSetDebounce => gpioSetDebounceMJRcheck l prepost symbolic
  | .gpioGetValue => gpioGetValueMJRcheck l prepost symbolic
  | .underscoreGpioGetValue => underscoreGpioGetValueMJRcheck l prepost symbolic
  | .gpioCansleep => gpioCansleepMJRcheck l prepost symbolic
  | .gpioGetValueCansleep => gpioGetValueCansleepMJRcheck l prepost symbolic
  | .gpioExport => gpioExportMJRcheck l prepost symbolic
  | .gpioExportLink => gpioExportLinkMJRcheck l prepost symbolic
  | .gpioSysfsSetActiveLow => gpioSysfsSetActiveLowMJRcheck l prepost symbolic
  | .gpioToIrq => gpioToIrqMJRcheck l prepost
  | .irqToGpio => irqToGpioMJRcheck l prepost
  | .pciBusWriteConfigByte => pciBusWriteConfigByteMJRcheck l prepost
  | .pciBusWriteConfigWord => pciBusWriteConfigWordMJRcheck l prepost
  | .pciBusWriteConfigDword => pciBusWriteConfigDwordMJRcheck l prepost
  | .copyToUser => copyToUserMJRcheck l prepost
  | .probeIrqMask => probeIrqMaskMJRcheck l prepost
  | .probeIrqOff => probeIrqOffMJRcheck l prepost
  | .pciReadConfig => pciReadConfigMJRcheck l prepost symbolic

end

/-! ## Runs -/

/-- The call `e` ran a check routine with the given condition and outcome. -/
def CheckOutcome.RanAs (c : CheckOutcome) (prepost : ℤ) (e : CallEvent) : Prop :=
  ∃ name retval args, e.values = .str name :: .int prepost :: .ptr retval :: args ∧
    e.result = .int c.returned ∧ e.after retval = (c.stored.map Val.int).getD (e.before retval)

/-- A run of the stub of a function with a value to return, in which the check did not return zero
in the precondition.  The check is the routine of `api`. -/
structure BypassedRun (g : DataChunk) (api : BypassApi) where
  vi : Proto
  made₀ : List Temp
  made : List Temp
  F : GenFunction
  stub : genStub g vi.vname vi.vtype made₀ = .ok (F, made)
  nonvoid : vi.vtype.ret.isVoid = false
  machine : Machine
  start : Mem
  result : RunResult
  run : runBlock machine F.body start = some result
  e : CallEvent
  called : e ∈ result.calls
  precondition : e.IsPrecondition F.fundec
  lock : GlobalLock
  lock' : GlobalLock
  symbolic : ℤ
  outcome : CheckOutcome
  checked : api.check lock 0 symbolic = .ok (lock', outcome)
  ran : outcome.RanAs 0 e
  bypassed : outcome.returned ≠ 0

section

variable {g : DataChunk} {api : BypassApi}

/-- **The specification of a bypass**: the check has stored a value, and the stub returns that. -/
def BypassedRun.ReturnsStored (r : BypassedRun g api) : Prop :=
  ∃ x, r.outcome.stored = some x ∧ r.result.flow = .ret (some (.int x))

/-- The keys of the stub's two variables have found different variables. -/
def BypassedRun.OwnRetval (r : BypassedRun g api) : Prop :=
  (stubRetval g r.made r.F.fundec).vname ≠ (stubCallKernelFn g r.made r.F.fundec).vname

/-! ## What the routines store -/

/-- In the precondition the first kind of routine stores its value and asks for the bypass. -/
lemma bypassRoutine_pre {l l' : GlobalLock} {value : ℤ} {c : CheckOutcome}
    (h : bypassRoutine api l 0 value = .ok (l', c)) : c = ⟨1, some value⟩ := by
  have hbody := lockedRoutine_inv h
  rw [if_pos rfl] at hbody
  exact (Except.ok.inj hbody).symm

/-- In the precondition the second kind of routine stores what it stores there, if anything. -/
lemma prepostRoutine_pre {l l' : GlobalLock} {pre post : Option ℤ} {c : CheckOutcome}
    (h : prepostRoutine api l 0 pre post = .ok (l', c)) : c = ⟨1, pre⟩ := by
  have hbody := lockedRoutine_inv h
  rw [if_pos rfl] at hbody
  exact (Except.ok.inj hbody).symm

/-- No path comes out of the check of `probe_irq_off`. -/
lemma probeIrqOff_pre {l l' : GlobalLock} {c : CheckOutcome} :
    probeIrqOffMJRcheck l 0 ≠ .ok (l', c) := by
  intro h
  cases lockedRoutine_inv h

/-- Every routine but one stores a value in the precondition. -/
lemma check_stored_iff {l l' : GlobalLock} {symbolic : ℤ} {c : CheckOutcome}
    (h : api.check l 0 symbolic = .ok (l', c)) :
    (∃ x, c.stored = some x) ↔ api ≠ .pciReadConfig := by
  have hstores : ∀ x, c = ⟨1, some x⟩ → ∃ x, c.stored = some x :=
    fun x hc => ⟨x, by rw [hc]⟩
  cases api with
  | pciReadConfig =>
      rw [prepostRoutine_pre h]
      constructor
      · rintro ⟨x, hx⟩
        cases hx
      · exact fun hne => absurd rfl hne
  | probeIrqOff => exact absurd h probeIrqOff_pre
  | pciBusWriteConfigByte | pciBusWriteConfigWord | pciBusWriteConfigDword | probeIrqMask =>
      exact ⟨fun _ => BypassApi.noConfusion, fun _ => hstores _ (prepostRoutine_pre h)⟩
  | _ => exact ⟨fun _ => BypassApi.noConfusion, fun _ => hstores _ (bypassRoutine_pre h)⟩

/-! ## The result -/

/-- What a stub returns after a bypass, for any check routine. -/
lemma BypassedRun.flow_eq (r : BypassedRun g api) : r.result.flow =
    .ret (some (if (stubRetval g r.made r.F.fundec).vname =
        (stubCallKernelFn g r.made r.F.fundec).vname then .int r.outcome.returned
      else (r.outcome.stored.map Val.int).getD
        (r.e.before (stubRetval g r.made r.F.fundec).loc))) := by
  obtain ⟨name, retval, args, hvalues, hresult, hafter⟩ := r.ran
  have hnonzero : r.e.result.isZero = false := by
    rw [hresult]
    exact decide_eq_false r.bypassed
  obtain ⟨⟨rest, hvalues'⟩, hflow⟩ :=
    bypassed_stub_value r.stub r.nonvoid r.run r.called r.precondition hnonzero
  -- the check got the address of the variable that the stub returns
  have hretval : retval = (stubRetval g r.made r.F.fundec).loc := by
    rw [hvalues] at hvalues'
    simp only [List.cons.injEq, Val.ptr.injEq] at hvalues'
    exact hvalues'.2.2.1
  rw [hflow, hresult, ← hretval, hafter]

/-- A stub that bypasses the kernel returns what its check has stored iff the check does store a
value in the precondition and the stub's two variables are not one, unless the check returns the
value that it stores. -/
theorem bypassed_stub_returns_stored_iff (g : DataChunk) (api : BypassApi)
    (r : BypassedRun g api) :
    r.ReturnsStored ↔ api ≠ .pciReadConfig ∧
      (r.OwnRetval ∨ r.outcome.stored = some r.outcome.returned) := by
  rw [← check_stored_iff r.checked, BypassedRun.ReturnsStored, BypassedRun.OwnRetval, r.flow_eq]
  by_cases hname : (stubRetval g r.made r.F.fundec).vname =
      (stubCallKernelFn g r.made r.F.fundec).vname
  · rw [if_pos hname]
    constructor
    · rintro ⟨x, hx, hflow⟩
      obtain rfl : r.outcome.returned = x := by simpa using hflow
      exact ⟨⟨_, hx⟩, Or.inr hx⟩
    · rintro ⟨-, hne | hx⟩
      · exact absurd hname hne
      · exact ⟨_, hx, rfl⟩
  · rw [if_neg hname]
    constructor
    · rintro ⟨x, hx, -⟩
      exact ⟨⟨x, hx⟩, Or.inl hname⟩
    · rintro ⟨⟨x, hx⟩, -⟩
      exact ⟨x, hx, by rw [hx]; rfl⟩

end

/-! ### Two stubs -/

/-- A machine that runs one check routine, with the given outcome, for every function. -/
def checkMachine (c : CheckOutcome) : Machine where
  call callee args m :=
    if callee = .ptr (.global "gen_lookup_MJRcheck") then some (.ptr (.cell 0), m)
    else if callee = .ptr (.cell 0) then
      match c.stored, args with
      | some x, _ :: _ :: .ptr l :: _ => some (.int c.returned, m.store l (.int x))
      | _, _ => some (.int c.returned, m)
    else some (.int 0, m)
  cast _ v := v
  sizeOf _ := 4
  trackperf_frame args m r m' h := by
    rw [if_neg (by decide), if_neg (by decide)] at h
    exact (Prod.mk.inj (Option.some.inj h)).2.symm

/-- The body of a stub with given conversions, and a given block that goes to the kernel. -/
def plainBody (vi : Proto) (conversions block : List Stmt) : List Stmt :=
  let retval := makeLocal "_retval_" vi.vtype.ret
  let callKernelFn := makeLocal "_call_kernel_fn_" intType
  [genDisableTrackperf 21] ++ [.set (.var retval) (.int 0)] ++ conversions ++
    [Cil.Splitter.genLookupMJRcheck vi.stub "0" (checkFnPtr vi.stub),
      mkCallStmt (some (.var callKernelFn)) (expifyVarinfo (checkFnPtr vi.stub))
        ([.str vi.stub.vname, .int 0, mkAddrOrStartOf (.var retval)] ++
          (vi.stub.sformals.map lvalifyVarinfo).map mkAddrOrStartOf)] ++
    [mkIfStmt (.eqZero (expifyVarinfo callKernelFn)) block []] ++ [genEnableTrackperf 22] ++
    [.ret (some (expifyVarinfo retval))]

/-- Scalars, and pointers to them, are not converted. -/
lemma conversions_eq_nil {comps : ℕ → Compinfo} {fname : String} {sformals : List Varinfo}
    (h : ∀ v ∈ sformals, v.vtype.isScalar ∨ ∃ t : Typ, v.vtype = .tPtr t ∧ t.isScalar) :
    stubFnPtrConversion true comps fname sformals = [] := by
  rw [stubFnPtrConversion, if_pos rfl, List.flatMap_eq_nil_iff]
  intro v hv
  rcases h v hv with hscalar | ⟨t, htype, hscalar⟩
  · exact stubConvertArg_scalar hscalar
  · rw [htype]
    exact stubConvertArg_scalarPtr hscalar

/-- `int gpio_request(unsigned gpio, const char *label)` -/
def gpioRequest : Proto :=
  ⟨"gpio_request", ⟨intType,
    some [("gpio", .tInt (.other "unsigned int")), ("label", charPtrType)], false⟩⟩

/-- A number and a pointer to characters need no conversion. -/
lemma gpioRequest_conversions : stubFnPtrConversion true (plainChunk true).comps "gpio_request"
    gpioRequest.stub.sformals = [] := by
  refine conversions_eq_nil fun v hv => ?_
  have hformals : v = makeLocal "gpio" (.tInt (.other "unsigned int")) ∨
      v = makeLocal "label" charPtrType := by
    simpa [gpioRequest, Proto.stub, mkFundec, ensureFormalsHaveNames, nameFormal, makeLocal]
      using hv
  rcases hformals with rfl | rfl
  · exact Or.inl rfl
  · exact Or.inr ⟨_, rfl, rfl⟩

/-- The generated stub of `gpio_request`.  The block that goes to the kernel is left open. -/
lemma genStub_gpioRequest : ∃ block made,
    genStub (plainChunk true) gpioRequest.vname gpioRequest.vtype [] =
      .ok (⟨gpioRequest.stub, plainBody gpioRequest [] block⟩, made) ∧
    (stubRetval (plainChunk true) made gpioRequest.stub).vname ≠
      (stubCallKernelFn (plainChunk true) made gpioRequest.stub).vname := by
  have hstub : ∃ block made,
      genStub (plainChunk true) gpioRequest.vname gpioRequest.vtype [] =
        .ok (⟨gpioRequest.stub, plainBody gpioRequest (stubFnPtrConversion true
          (plainChunk true).comps "gpio_request" gpioRequest.stub.sformals) block⟩, made) ∧
      (stubRetval (plainChunk true) made gpioRequest.stub).vname ≠
        (stubCallKernelFn (plainChunk true) made gpioRequest.stub).vname :=
    ⟨_, _, rfl, by decide⟩
  rwa [gpioRequest_conversions] at hstub

/-- The stub runs, and the check that it calls stores `-EBUSY`. -/
lemma run_gpioRequest (block : List Stmt) : ∃ result,
    runBlock (checkMachine ⟨1, some (-16)⟩) (plainBody gpioRequest [] block) (fun _ => .int 0) =
      some result ∧ ∃ e ∈ result.calls,
        e.IsPrecondition gpioRequest.stub ∧ (⟨1, some (-16)⟩ : CheckOutcome).RanAs 0 e :=
  ⟨_, rfl, _, List.mem_of_getElem? (i := 2) rfl, ⟨rfl, _, rfl⟩, _, _, _, rfl, rfl, rfl⟩

/-- A pin that is busy: the check stores the error number, and the stub returns that. -/
theorem bypassed_stub_returns_stored_gpio_request :
    ∃ r : BypassedRun (plainChunk true) .gpioRequest,
      r.outcome.stored = some (-16) ∧ r.ReturnsStored := by
  obtain ⟨block, made, hstub, hown⟩ := genStub_gpioRequest
  obtain ⟨result, hrun, e, he, hpre, hran⟩ := run_gpioRequest block
  have hchecked : BypassApi.gpioRequest.check ⟨0⟩ 0 (-16) = .ok (⟨0⟩, ⟨1, some (-16)⟩) := rfl
  refine ⟨⟨gpioRequest, [], made, _, hstub, rfl, _, _, result, hrun, e, he, hpre, ⟨0⟩, ⟨0⟩, -16,
    ⟨1, some (-16)⟩, hchecked, hran, by decide⟩, rfl, ?_⟩
  exact (bypassed_stub_returns_stored_iff _ _ _).mpr ⟨by decide, Or.inl hown⟩

/-- `unsigned int pci_read_config(void *dev, int reg, int width)` -/
def pciReadConfig : Proto :=
  ⟨"pci_read_config", ⟨.tInt (.other "unsigned int"),
    some [("dev", voidPtrType), ("reg", intType), ("width", intType)], false⟩⟩

/-- An opaque pointer and two numbers need no conversion. -/
lemma pciReadConfig_conversions : stubFnPtrConversion true (plainChunk true).comps "pci_read_config"
    pciReadConfig.stub.sformals = [] := by
  refine conversions_eq_nil fun v hv => ?_
  have hformals : v = makeLocal "dev" voidPtrType ∨ v = makeLocal "reg" intType ∨
      v = makeLocal "width" intType := by
    simpa [pciReadConfig, Proto.stub, mkFundec, ensureFormalsHaveNames, nameFormal, makeLocal]
      using hv
  rcases hformals with rfl | rfl | rfl
  · exact Or.inr ⟨.tVoid, rfl, rfl⟩
  · exact Or.inl rfl
  · exact Or.inl rfl

/-- The generated stub of `pci_read_config`. -/
lemma genStub_pciReadConfig : ∃ block made,
    genStub (plainChunk true) pciReadConfig.vname pciReadConfig.vtype [] =
      .ok (⟨pciReadConfig.stub, plainBody pciReadConfig [] block⟩, made) := by
  have hstub : ∃ block made, genStub (plainChunk true) pciReadConfig.vname pciReadConfig.vtype [] =
      .ok (⟨pciReadConfig.stub, plainBody pciReadConfig (stubFnPtrConversion true
        (plainChunk true).comps "pci_read_config" pciReadConfig.stub.sformals) block⟩, made) :=
    ⟨_, _, rfl⟩
  rwa [pciReadConfig_conversions] at hstub

/-- The stub runs and returns 0; the check that it calls stores nothing. -/
lemma run_pciReadConfig (block : List Stmt) : ∃ result,
    runBlock (checkMachine ⟨1, none⟩) (plainBody pciReadConfig [] block) (fun _ => .int 0) =
      some result ∧ result.flow = .ret (some (.int 0)) ∧ ∃ e ∈ result.calls,
        e.IsPrecondition pciReadConfig.stub ∧ (⟨1, none⟩ : CheckOutcome).RanAs 0 e :=
  ⟨_, rfl, rfl, _, List.mem_of_getElem? (i := 2) rfl, ⟨rfl, _, rfl⟩, _, _, _, rfl, rfl, rfl⟩

/-- The check of `pci_read_config` stores nothing, and the stub returns the zero that it has started
with. -/
theorem pci_read_config_returns_zero :
    ∃ r : BypassedRun (plainChunk true) .pciReadConfig,
      ¬ r.ReturnsStored ∧ r.result.flow = .ret (some (.int 0)) := by
  obtain ⟨block, made, hstub⟩ := genStub_pciReadConfig
  obtain ⟨result, hrun, hflow, e, he, hpre, hran⟩ := run_pciReadConfig block
  have hchecked : BypassApi.pciReadConfig.check ⟨0⟩ 0 0 = .ok (⟨0⟩, ⟨1, none⟩) := rfl
  refine ⟨⟨pciReadConfig, [], made, _, hstub, rfl, _, _, result, hrun, e, he, hpre, ⟨0⟩, ⟨0⟩, 0,
    ⟨1, none⟩, hchecked, hran, by decide⟩, ?_, hflow⟩
  rintro ⟨x, hx, -⟩
  cases hx

end SymDrive
