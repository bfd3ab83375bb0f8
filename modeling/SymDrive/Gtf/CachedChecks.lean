import SymDrive.Gtf.Registration

/-!
# The check routine that is called

A generated body looks its check routine up where the static pointer `check_fn_…` is 0, and calls
through the pointer from then on.  What a lookup returns depends on the role that `gen_convert_fn`
has noted for the function, and a role can be noted after the pointer was filled: then the body goes
on calling the routine that was found before.

* `cached_check_is_lookup` — the routine called is the one that the lookup found when the pointer
  was filled, and it is the one that a lookup would find now as long as the role is the same.
* `cached_check_outdated` — otherwise it need not be.
-/

namespace SymDrive

open Checked Cil

/-! ## Lookups -/

/-- What `gen_lookup_MJRcheck` would return. -/
def DriverRun.lookup (d : Driver) (s : DriverRun) (symbolLookup : String → ULong)
    (prepostfn fn : String) : Except Fault ULong :=
  (genLookupMJRcheck s.tracker symbolLookup d.defaultMJRcheck prepostfn (d.addr fn)).map Prod.fst

/-- The purpose that is noted for the function at an address. -/
def FunctionTracker.role (t : FunctionTracker) (driverFn : ULong) : Option (String × String) :=
  (hashtableSearch t.objs driverFn).map fun value => (value.str1, value.str2)

/-- The name that the function at an address was registered with. -/
def FunctionTracker.name (t : FunctionTracker) (driverFn : ULong) : Option String :=
  (hashtableSearch t.objs driverFn).map FnValue.strDriverFn

section

variable {t t' : FunctionTracker} {ks ks' : Set ULong}

/-- A lookup reads the name and the role of a function. -/
lemma lookupByWrapperType_congr {value value' : FnValue}
    (hname : value.strDriverFn = value'.strDriverFn) (hstr1 : value.str1 = value'.str1)
    (hstr2 : value.str2 = value'.str2) (symbolLookup : String → ULong) (wrapperType : String) :
    lookupByWrapperType symbolLookup wrapperType value =
      lookupByWrapperType symbolLookup wrapperType value' := by
  unfold lookupByWrapperType complexLookupMJRcheck simpleLookupMJRcheck
  rw [hname, hstr1, hstr2]

/-- A lookup that succeeds reads a record and does not write it. -/
lemma genLookupMJRcheck_eq_ok {symbolLookup : String → ULong} {defaultMJRcheck driverFn : ULong}
    {wrapperType : String} {r : ULong × FunctionTracker}
    (h : genLookupMJRcheck t symbolLookup defaultMJRcheck wrapperType driverFn = .ok r) :
    r.2.objs = t.objs ∧ ∃ value retval, hashtableSearch t.objs driverFn = some value ∧
      lookupByWrapperType symbolLookup wrapperType value = .ok retval ∧
        r.1 = if retval = 0 then defaultMJRcheck else retval := by
  unfold genLookupMJRcheck at h
  obtain ⟨lock, _, h⟩ := bind_eq_ok.mp h
  obtain ⟨_, _, h⟩ := bind_eq_ok.mp h
  cases hvalue : hashtableSearch t.objs driverFn with
  | none =>
      rw [hvalue] at h
      obtain ⟨_, _, h⟩ := bind_eq_ok.mp h
      cases h
  | some value =>
      rw [hvalue] at h
      obtain ⟨retval, hretval, h⟩ := bind_eq_ok.mp h
      obtain ⟨lock', _, h⟩ := bind_eq_ok.mp h
      cases h
      exact ⟨rfl, value, retval, rfl, hretval, rfl⟩

lemma genLookupMJRcheck_of_value (ht : t.Registered ks) {symbolLookup : String → ULong}
    {defaultMJRcheck driverFn retval : ULong} {wrapperType : String} {value : FnValue}
    (hvalue : hashtableSearch t.objs driverFn = some value)
    (hretval : lookupByWrapperType symbolLookup wrapperType value = .ok retval) :
    (genLookupMJRcheck t symbolLookup defaultMJRcheck wrapperType driverFn).map Prod.fst =
      .ok (if retval = 0 then defaultMJRcheck else retval) := by
  unfold genLookupMJRcheck
  rw [acquireGlobalLock_eq_ok.mpr ⟨ht.1, rfl⟩, ok_bind, hvalue]
  dsimp only
  rw [tfassertDetail_of_true (by simp), ok_bind, hretval, ok_bind,
    releaseGlobalLock_eq_ok.mpr ⟨rfl, rfl⟩]
  rfl

/-- Where the name and the role are the same, so is the routine that is found. -/
lemma lookup_congr (ht' : t'.Registered ks') {symbolLookup : String → ULong}
    {defaultMJRcheck driverFn : ULong} {wrapperType : String} {r : ULong × FunctionTracker}
    (h : genLookupMJRcheck t symbolLookup defaultMJRcheck wrapperType driverFn = .ok r)
    (hname : t'.name driverFn = t.name driverFn) (hrole : t'.role driverFn = t.role driverFn) :
    (genLookupMJRcheck t' symbolLookup defaultMJRcheck wrapperType driverFn).map Prod.fst =
      .ok r.1 := by
  obtain ⟨_, value, retval, hvalue, hretval, hr⟩ := genLookupMJRcheck_eq_ok h
  rw [FunctionTracker.name, FunctionTracker.name, hvalue, Option.map_some,
    Option.map_eq_some_iff] at hname
  obtain ⟨value', hvalue', hname⟩ := hname
  rw [FunctionTracker.role, FunctionTracker.role, hvalue, hvalue', Option.map_some,
    Option.map_some, Option.some.injEq, Prod.mk.injEq] at hrole
  rw [← lookupByWrapperType_congr hname hrole.1 hrole.2] at hretval
  rw [genLookupMJRcheck_of_value ht' hvalue' hretval, hr]

/-- `gen_convert_fn` notes roles only. -/
lemma name_genConvertFn (ht : t.Registered ks) {origFnPtr origFn : ULong} {str1 str2 : String}
    (h : genConvertFn t origFnPtr origFn str1 str2 = .ok t') (driverFn : ULong) :
    t'.name driverFn = t.name driverFn := by
  obtain ⟨hlock, m, hm, _⟩ := ht
  unfold genConvertFn at h
  split_ifs at h
  · cases h
    rfl
  · rw [acquireGlobalLock_eq_ok.mpr ⟨hlock, rfl⟩, ok_bind, releaseGlobalLock_eq_ok.mpr ⟨rfl, rfl⟩,
      ok_bind] at h
    cases h
    rw [FunctionTracker.name, FunctionTracker.name, Hashtable.hashtableSearch_eq hm]
    dsimp only
    cases hlook : m.lookup origFn with
    | none => rw [Hashtable.hashtableSearch_eq hm]
    | some value =>
        have hmod := Hashtable.refines_modify hm hlook fun value =>
          { value with str1 := str1, str2 := str2 }
        dsimp only
        rw [Hashtable.hashtableSearch_eq hmod, Hashtable.hashtableSearch_eq hm]
        by_cases hkey : driverFn = origFn
        · rw [hkey, Finmap.lookup_insert, hlook]
          rfl
        · rw [Finmap.lookup_insert_of_ne _ hkey]

end

/-! ## Runs -/

section

variable {d : Driver} {s s' : DriverRun} {fn : String}

/-- The lookup for `fn` that an event makes, and what it finds. -/
def FillsWith (d : Driver) (s : DriverRun) (fn : String) (e : RunEvent)
    (r : ULong × FunctionTracker) : Prop :=
  ∃ i inputs kind prepostfn todo, e = .step i inputs ∧
    s.activations[i]? = some ⟨kind, .instr (.genLookupMJRcheck prepostfn fn) :: todo⟩ ∧
    genLookupMJRcheck s.tracker inputs.symbolLookup d.defaultMJRcheck prepostfn (d.addr fn) = .ok r

lemma execInstr_checkFn {inputs : Inputs} {instr : GenInstr}
    (h : execInstr d s inputs instr = .ok s') :
    s'.checkFn fn = s.checkFn fn ∨ ∃ prepostfn r, instr = .genLookupMJRcheck prepostfn fn ∧
      s.checkFn fn = 0 ∧ genLookupMJRcheck s.tracker inputs.symbolLookup d.defaultMJRcheck prepostfn
        (d.addr fn) = .ok r ∧ s'.tracker = r.2 ∧ s'.checkFn fn = r.1 := by
  cases instr with
  | genEnterDriver =>
      unfold execInstr registerFirstTime at h
      split_ifs at h
      · obtain ⟨tracker, _, h⟩ := bind_eq_ok.mp h
        cases h
        exact Or.inl rfl
      · cases h
        exact Or.inl rfl
  | genConvertFn str1 str2 =>
      obtain ⟨tracker, _, h⟩ := bind_eq_ok.mp h
      cases h
      exact Or.inl rfl
  | genLookupMJRcheck prepostfn fn' =>
      unfold execInstr at h
      dsimp only at h
      split_ifs at h with hzero
      · obtain ⟨r, hr, h⟩ := bind_eq_ok.mp h
        cases h
        by_cases hfn : fn = fn'
        · subst hfn
          exact Or.inr ⟨prepostfn, r, rfl, hzero, hr, rfl, Function.update_self ..⟩
        · exact Or.inl (Function.update_of_ne hfn ..)
      · cases h
        exact Or.inl rfl
  | callMJRcheck fn' condition =>
      obtain ⟨_, _, h⟩ := bind_eq_ok.mp h
      cases h
      exact Or.inl rfl
  | genExitDriver | runKernelFn kernelFunction =>
      cases h
      exact Or.inl rfl

/-- A static pointer changes by the lookup of its function only, and only from 0. -/
lemma step_checkFn {e : RunEvent} (h : s.step d e = .ok s') :
    s'.checkFn fn = s.checkFn fn ∨ (s.checkFn fn = 0 ∧ ∃ r, FillsWith d s fn e r ∧
      s'.tracker = r.2 ∧ s'.checkFn fn = r.1) := by
  cases e with
  | call kind i =>
      unfold DriverRun.step at h
      dsimp only at h
      split at h
      · split_ifs at h <;> (cases h; exact Or.inl rfl)
      · cases h
        exact Or.inl rfl
  | step i inputs =>
      unfold DriverRun.step at h
      dsimp only at h
      split at h
      · next kind instr todo hact =>
          refine (execInstr_checkFn h).imp_right ?_
          rintro ⟨prepostfn, r, rfl, hzero, hr, htracker, hcheck⟩
          exact ⟨hzero, r, ⟨i, inputs, kind, prepostfn, todo, rfl, hact, hr⟩, htracker, hcheck⟩
      · split_ifs at h <;> (cases h; exact Or.inl rfl)
      · cases h
        exact Or.inl rfl
      · cases h
        exact Or.inl rfl

/-- Once the functions are registered, they keep their names. -/
lemma execInstr_name (hs : After d s) {inputs : Inputs} {instr : GenInstr}
    (h : execInstr d s inputs instr = .ok s') (driverFn : ULong) :
    s'.tracker.name driverFn = s.tracker.name driverFn := by
  cases instr with
  | genEnterDriver =>
      unfold execInstr registerFirstTime at h
      rw [if_neg (by rw [hs.first]; decide)] at h
      cases h
      rfl
  | genConvertFn str1 str2 =>
      obtain ⟨tracker, htracker, h⟩ := bind_eq_ok.mp h
      cases h
      exact name_genConvertFn hs.table htracker driverFn
  | genLookupMJRcheck prepostfn fn' =>
      unfold execInstr at h
      dsimp only at h
      split_ifs at h
      · obtain ⟨r, hr, h⟩ := bind_eq_ok.mp h
        cases h
        rw [FunctionTracker.name, (genLookupMJRcheck_eq_ok hr).1]
        rfl
      · cases h
        rfl
  | callMJRcheck fn' condition =>
      obtain ⟨_, _, h⟩ := bind_eq_ok.mp h
      cases h
      rfl
  | genExitDriver | runKernelFn kernelFunction =>
      cases h
      rfl

lemma step_name (hs : After d s) {e : RunEvent} (h : s.step d e = .ok s') (driverFn : ULong) :
    s'.tracker.name driverFn = s.tracker.name driverFn := by
  cases e with
  | call kind i =>
      unfold DriverRun.step at h
      dsimp only at h
      split at h
      · split_ifs at h <;> (cases h; rfl)
      · cases h
        rfl
  | step i inputs =>
      unfold DriverRun.step at h
      dsimp only at h
      split at h
      · next kind instr todo hact => exact execInstr_name (hs.setTodo i _) h driverFn
      · split_ifs at h <;> (cases h; rfl)
      · cases h
        rfl
      · cases h
        rfl

/-- What is in the table was registered. -/
lemma RunInv.after (hs : RunInv d s) {driverFn : ULong} {name : String}
    (hname : s.tracker.name driverFn = some name) : After d s := by
  refine hs.phase.resolve_left fun hbefore => ?_
  obtain ⟨_, m, hm, hkeys⟩ := hbefore.table
  rw [FunctionTracker.name, Hashtable.hashtableSearch_eq hm, Option.map_eq_some_iff] at hname
  obtain ⟨value, hvalue, _⟩ := hname
  exact (hkeys driverFn).mp (Finmap.mem_of_lookup_eq_some hvalue)

/-- The pointer of `fn` is `checkRoutine`, and the function is registered as `name`. -/
structure Filled (d : Driver) (fn : String) (checkRoutine : ULong) (name : String)
    (s : DriverRun) : Prop where
  inv : RunInv d s
  checkFn : s.checkFn fn = checkRoutine
  name : s.tracker.name (d.addr fn) = some name

/-- A pointer that is not 0 is not written again. -/
lemma Filled.step {checkRoutine : ULong} {name : String} (hs : Filled d fn checkRoutine name s)
    (hzero : checkRoutine ≠ 0) {e : RunEvent} (h : s.step d e = .ok s') :
    Filled d fn checkRoutine name s' := by
  have hinv := hs.inv.step e
  rw [h] at hinv
  refine ⟨hinv, ?_, ?_⟩
  · have hsteps : s'.checkFn fn = s.checkFn fn ∨ _ := step_checkFn h
    rcases hsteps with hcheck | ⟨hcheck, _⟩
    · rw [hcheck, hs.checkFn]
    · exact absurd (hs.checkFn.symm.trans hcheck) hzero
  · rw [step_name (hs.inv.after hs.name) h, hs.name]

/-- The lookup in `events` that filled the pointer of `fn`, by the event `.step i inputs` after
`earlier`, and what it has to do with a lookup at the end. -/
structure CachedLookup (d : Driver) (events : List RunEvent) (s : DriverRun) (fn : String)
    (earlier later : List RunEvent) (i : ℕ) (inputs : Inputs) (prepostfn : String)
    (s₁ : DriverRun) : Prop where
  run : events = earlier ++ .step i inputs :: later ∧ d.run earlier = .ok s₁
  looksUp : ∃ kind todo,
    s₁.activations[i]? = some ⟨kind, .instr (.genLookupMJRcheck prepostfn fn) :: todo⟩
  empty : s₁.checkFn fn = 0
  found : s₁.lookup d inputs.symbolLookup prepostfn fn = .ok (s.checkFn fn)
  agrees : s.tracker.role (d.addr fn) = s₁.tracker.role (d.addr fn) →
    s.lookup d inputs.symbolLookup prepostfn fn = .ok (s.checkFn fn)

lemma exists_cachedLookup {events : List RunEvent} (hrun : d.run events = .ok s)
    (hcheck : s.checkFn fn ≠ 0) : ∃ earlier later i inputs prepostfn s₁,
      CachedLookup d events s fn earlier later i inputs prepostfn s₁ := by
  obtain ⟨earlier, e, later, s₁, s₂, rfl, hearlier, hempty, hstep, hfilled, hlater⟩ :=
    run_becomes (Q := fun s : DriverRun => s.checkFn fn ≠ 0) events (by simp [DriverRun.initial])
      hrun hcheck
  rw [not_not] at hempty
  have hsteps : s₂.checkFn fn = s₁.checkFn fn ∨ _ := step_checkFn hstep
  rcases hsteps with hcheck₂ | ⟨_, r, hfills, htracker, hcheck₂⟩
  · exact absurd (hcheck₂.trans hempty) hfilled
  obtain ⟨i, inputs, kind, prepostfn, todo, rfl, hact, hr⟩ := hfills
  obtain ⟨hobjs, value, _, hvalue, _⟩ := genLookupMJRcheck_eq_ok hr
  have hname : s₁.tracker.name (d.addr fn) = some value.strDriverFn := by
    rw [FunctionTracker.name, hvalue, Option.map_some]
  have hinv₁ := run_outcome d earlier
  rw [Driver.run, hearlier] at hinv₁
  have hinv₂ := hinv₁.step (.step i inputs)
  rw [hstep] at hinv₂
  have hs₂ : Filled d fn r.1 value.strDriverFn s₂ := by
    refine ⟨hinv₂, hcheck₂, ?_⟩
    rw [FunctionTracker.name, htracker, hobjs]
    exact hname
  -- the pointer and the name stay as they are until the call
  have hs : Filled d fn r.1 value.strDriverFn s :=
    run_invariant (fun _ _ _ hs h => hs.step (hcheck₂ ▸ hfilled) h) later hs₂ hlater
  refine ⟨earlier, later, i, inputs, prepostfn, s₁, ⟨rfl, hearlier⟩, ⟨kind, todo, hact⟩, hempty,
    ?_, fun hrole => ?_⟩
  · rw [DriverRun.lookup, hr, hs.checkFn]
    rfl
  · rw [DriverRun.lookup, hs.checkFn]
    exact lookup_congr (hs.inv.after hs.name).table hr (hs.name.trans hname.symm) hrole

/-- **The routine that is called** was found by a lookup that was made where the pointer was 0, and
a lookup would find it now if the function has the role that it had then. -/
theorem cached_check_is_lookup (d : Driver) (events : List RunEvent) (s s' : DriverRun) (j : ℕ)
    (inputs : Inputs) (kind : BodyKind) (fn : String) (condition : ℕ) (todo : List GenStmt)
    (hrun : d.run events = .ok s)
    (hact : s.activations[j]? = some ⟨kind, .instr (.callMJRcheck fn condition) :: todo⟩)
    (hcall : s.step d (.step j inputs) = .ok s') :
    ∃ earlier later i found prepostfn s₁,
      CachedLookup d events s fn earlier later i found prepostfn s₁ := by
  refine exists_cachedLookup hrun fun hzero => ?_
  unfold DriverRun.step at hcall
  dsimp only at hcall
  rw [hact] at hcall
  obtain ⟨hne, _⟩ := ensure_bind_eq_ok.mp hcall
  exact hne hzero

end

/-! ## A role that is noted late -/

/-- A driver that registers `probe` with the kernel in a structure. -/
def pciSource : List Global :=
  [.gVarDecl { vid := .source 1, vname := "register_driver",
               vtype := .tFun (some [("pci_driver", "probe")]) false },
    .gFun { vid := .source 2, vname := "probe", vtype := .tFun (some []) false }
      ["register_driver"]]

def pciNames : List String :=
  ["probe", "prefn_probe", "postfn_probe", "stubwrapper_register_driver", "gen_register_all"]

def pciFile : SplitFile where
  globals :=
    [.gVarDecl { vid := .made "register_driver", vname := "register_driver",
                 vtype := .tFun (some [("pci_driver", "probe")]) false },
      .gVarDecl { vid := .source 1, vname := "stubwrapper_register_driver",
                  vtype := .tFun (some [("pci_driver", "probe")]) false },
      prototype "prefn_probe", prototype "postfn_probe",
      .gFun { vid := .source 2, vname := "probe", vtype := .tFun (some []) false }
        ["register_driver"]]
  prefns := [⟨"prefn_probe", [.instr .genEnterDriver, .instr (.genLookupMJRcheck "1" "probe"),
    .instr (.callMJRcheck "probe" 0)]⟩]
  postfns := [⟨"postfn_probe", [.instr (.callMJRcheck "probe" 1), .instr .genExitDriver]⟩]
  stubs := [⟨"stubwrapper_register_driver", [.instr (.genConvertFn "pci_driver" "probe"),
    .instr (.genLookupMJRcheck "0" "stubwrapper_register_driver"),
    .instr (.callMJRcheck "stubwrapper_register_driver" 0),
    .ifCallKernelFn [.genExitDriver, .runKernelFn "register_driver",
      .callMJRcheck "stubwrapper_register_driver" 1, .genEnterDriver]]⟩]
  registerAll := [⟨"prefn_probe", "probe", "prefn_probe", "probe"⟩,
    ⟨"register_driver", "stubwrapper_register_driver", "register_driver", "register_driver"⟩]

def pciDriver : Driver where
  args := probeArgs
  nonstubFns := []
  source := pciSource
  file := pciFile
  generated := rfl
  definedOnce := by decide
  addr := fun fn => 0xc0001000 + 16 * UInt32.ofNat (pciNames.idxOf fn)
  addr_inj := by decide
  defaultMJRcheck := 0xc0000100

/-- The kernel has a check for the probe function of a PCI driver. -/
def pciSymbols (name : String) : ULong :=
  if name = "pci_driver_probe_MJRcheck" then 0xc0000200 else 0

def pciInputs : Inputs where
  mem := fun _ => Alloc.succeeds
  origFnPtr := 0xc8000000
  origFn := pciDriver.addr "probe"
  symbolLookup := pciSymbols
  callKernelFn := true

/-- `probe` is entered, then registered with the kernel, then entered again. -/
def pciEvents : List RunEvent :=
  [.call .prefn 0, .step 0 pciInputs, .step 0 pciInputs, .step 0 pciInputs, .call .stub 0,
    .step 1 pciInputs, .call .prefn 0, .step 2 pciInputs, .step 2 pciInputs]

/-- The routine that `prefn_probe` calls at its second entry. -/
theorem cached_check_is_lookup_pci : ∃ s, pciDriver.run pciEvents = .ok s ∧
    ∃ earlier later i found prepostfn s₁,
      CachedLookup pciDriver pciEvents s "probe" earlier later i found prepostfn s₁ :=
  ⟨_, rfl, cached_check_is_lookup pciDriver pciEvents _ _ 2 pciInputs .prefn "probe" 0 [] rfl rfl
    rfl⟩

/-- The second entry calls the default routine, which was found before the function had a role,
where a lookup would find the check of the role. -/
theorem cached_check_outdated : ¬ ∀ (d : Driver) (symbolLookup : String → ULong)
    (events : List RunEvent) (s s' : DriverRun) (j : ℕ) (inputs : Inputs) (kind : BodyKind)
    (fn prepostfn : String) (condition : ℕ) (todo : List GenStmt),
    (∀ i inputs, .step i inputs ∈ events → inputs.symbolLookup = symbolLookup) →
    d.run events = .ok s →
    s.activations[j]? = some ⟨kind, .instr (.callMJRcheck fn condition) :: todo⟩ →
    s.step d (.step j inputs) = .ok s' →
    (∃ kind, ∃ b ∈ d.bodies kind, .instr (.genLookupMJRcheck prepostfn fn) ∈ b.body) →
      s.lookup d symbolLookup prepostfn fn = .ok (s.checkFn fn) := by
  intro h
  have hsymbols : ∀ i inputs, .step i inputs ∈ pciEvents → inputs.symbolLookup = pciSymbols := by
    intro i inputs hmem
    have hinputs : inputs = pciInputs := by
      simp only [pciEvents, List.mem_cons, reduceCtorEq, RunEvent.step.injEq, List.not_mem_nil,
        or_false, false_or] at hmem
      tauto
    rw [hinputs]
    rfl
  have hlookup := h pciDriver pciSymbols pciEvents _ _ 2 pciInputs .prefn "probe" "1" 0 [] hsymbols
    rfl rfl rfl ⟨.prefn, _, List.mem_cons_self, List.mem_of_getElem? (i := 1) rfl⟩
  exact absurd (Except.ok.inj hlookup) (by decide)

end SymDrive
