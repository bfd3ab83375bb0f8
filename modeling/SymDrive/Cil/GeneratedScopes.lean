import SymDrive.Cil.GeneratedBodies

/-!
# The names in the generated functions

Which variables a generated body mentions, and which of them the function declares.

* `asks_genPrefnBody`, `asks_genPostfnBody`, `asks_genNamedStubBody` — the variables that a body
  asks `get_local_variable` for are all that it mentions beside the formals of its function.
-/

namespace SymDrive.Cil.Splitter

open Interning

/-! ## The variables that a body asks for -/

/-- The flag of a function that says whether the function itself is called. -/
def callKernelTemp (fname : String) : Temp := ⟨fname, "_call_kernel_fn_", intType⟩

/-- The result of `gen_exit_driver`, which only a `postfn` stores. -/
def exitRetvalTemp (fname : String) : Temp := ⟨fname, "exit_retval", intType⟩

/-- The variable of a stub for the value that it returns, unless there is no value. -/
def retvalTemp (f : Fundec) : List Temp :=
  if f.rettyp.isVoid then [] else [⟨f.vname, "_retval_", f.rettyp⟩]

/-- The local variables of `ss` are formals of `f` or among the variables `ts`. -/
def UsesOnly (env : Temp → Temp) (f : Fundec) (ts : List Temp) (vs : List Varinfo) : Prop :=
  ∀ v ∈ vs, v.vglob = false → v.vname ≠ "__LINE__" →
    v.vname ∈ f.formalNames ∨ ∃ t ∈ ts, v = (env t).varinfo

section

variable {g : DataChunk} {env : Temp → Temp} {f wrapper : Fundec} {ts ts' : List Temp}
  {vs vs' : List Varinfo}

lemma usesOnly_nil : UsesOnly env f ts [] := nofun

lemma usesOnly_append :
    UsesOnly env f ts (vs ++ vs') ↔ UsesOnly env f ts vs ∧ UsesOnly env f ts vs' := by
  simp only [UsesOnly, List.mem_append, or_imp, forall_and]

lemma usesOnly_cons {v : Varinfo} :
    UsesOnly env f ts (v :: vs) ↔ UsesOnly env f ts [v] ∧ UsesOnly env f ts vs := by
  rw [← usesOnly_append, List.singleton_append]

/-- What is allowed may grow. -/
lemma UsesOnly.mono (h : UsesOnly env f ts vs) (hts : ts ⊆ ts') : UsesOnly env f ts' vs := by
  intro v hv hglob hline
  exact (h v hv hglob hline).imp_right fun ⟨t, ht, heq⟩ => ⟨t, hts ht, heq⟩

lemma UsesOnly.of_subset (h : UsesOnly env f ts vs) (hvs : vs' ⊆ vs) : UsesOnly env f ts vs' :=
  fun v hv => h v (hvs hv)

/-- A global variable needs no declaration in the function. -/
lemma usesOnly_glob {v : Varinfo} (h : v.vglob = true) : UsesOnly env f ts [v] := by
  intro v' hv' hglob
  rw [List.mem_singleton.mp hv', h] at hglob
  cases hglob

/-- `__LINE__` is a macro and not a variable. -/
lemma usesOnly_line : UsesOnly env f ts [lineVi] := by
  intro v hv _ hline
  rw [List.mem_singleton.mp hv] at hline
  exact absurd rfl hline

lemma usesOnly_temp {t : Temp} (ht : t ∈ ts) : UsesOnly env f ts [(env t).varinfo] := by
  intro v hv _ _
  exact Or.inr ⟨t, ht, List.mem_singleton.mp hv⟩

lemma usesOnly_formals (h : vs ⊆ f.sformals) : UsesOnly env f ts vs :=
  fun _ hv _ _ => Or.inl (List.mem_map_of_mem (h hv))

/-! ### Statements -/

/-- A call of a function whose prototype is known: a check, a `prefn` or a `postfn`. -/
structure ProtoCall where
  params : List Typ
  args : List Exp

/-- The types of the parameters, as the type of the function or of the pointer to it has them. -/
def calleeParams : Exp → Option (List Typ)
  | .lval (.var v) =>
      match v.vtype with
      | .tFun _ (some params) _ => some (params.map Prod.snd)
      | .tPtr (.tFun _ (some params) _) => some (params.map Prod.snd)
      | _ => none
  | _ => none

mutual

/-- The calls in a statement of functions with a known prototype, in order. -/
def Stmt.calls : Stmt → List ProtoCall
  | .set _ _ => []
  | .call _ f args => ((calleeParams f).map fun params => ⟨params, args⟩).toList
  | .ifStmt _ trueBlock falseBlock => blockCalls trueBlock ++ blockCalls falseBlock
  | .ret _ => []

/-- The calls in a block of functions with a known prototype. -/
def blockCalls : List Stmt → List ProtoCall
  | [] => []
  | s :: ss => s.calls ++ blockCalls ss

end

lemma blockCalls_append (ss ss' : List Stmt) :
    blockCalls (ss ++ ss') = blockCalls ss ++ blockCalls ss' := by
  induction ss with
  | nil => rfl
  | cons s ss ih => rw [List.cons_append, blockCalls, ih, blockCalls, List.append_assoc]

/-- What a generated block `ss` mentions and calls: of the local variables only formals of `f` and
the variables `ts`, of these certainly `needs`, and `calls` of functions with a prototype. -/
structure Generated (env : Temp → Temp) (f : Fundec) (ts needs : List Temp)
    (calls : List ProtoCall) (ss : List Stmt) : Prop where
  names : UsesOnly env f ts (blockNames ss)
  needed : ∀ t ∈ needs, (env t).varinfo ∈ blockNames ss
  checks : blockCalls ss = calls

variable {needs needs' : List Temp} {calls calls' : List ProtoCall} {ss ss' : List Stmt}

lemma generated_nil : Generated env f ts [] [] [] := ⟨usesOnly_nil, nofun, rfl⟩

/-- The parts of a body are put together in the order in which they are generated. -/
lemma Generated.append (h : Generated env f ts needs calls ss)
    (h' : Generated env f ts needs' calls' ss') :
    Generated env f ts (needs ++ needs') (calls ++ calls') (ss ++ ss') where
  names := by
    rw [blockNames_append]
    exact usesOnly_append.mpr ⟨h.names, h'.names⟩
  needed t ht := by
    rw [blockNames_append]
    rcases List.mem_append.mp ht with ht | ht
    · exact List.mem_append_left _ (h.needed t ht)
    · exact List.mem_append_right _ (h'.needed t ht)
  checks := by rw [blockCalls_append, h.checks, h'.checks]

lemma Generated.mono (h : Generated env f ts needs calls ss) (hts : ts ⊆ ts') :
    Generated env f ts' needs calls ss := ⟨h.names.mono hts, h.needed, h.checks⟩

/-- Of what certainly is mentioned, part may be forgotten. -/
lemma Generated.of_needs (h : Generated env f ts needs calls ss) (hneeds : needs' ⊆ needs) :
    Generated env f ts needs' calls ss :=
  ⟨h.names, fun t ht => h.needed t (hneeds ht), h.checks⟩

/-- A statement that calls no function with a known prototype. -/
lemma generated_singleton {s : Stmt} (hchecks : s.calls = [])
    (hnames : UsesOnly env f ts s.names) (hneeded : ∀ t ∈ needs, (env t).varinfo ∈ s.names) :
    Generated env f ts needs [] [s] where
  names := by
    rw [blockNames, blockNames, List.append_nil]
    exact hnames
  needed := by
    rw [blockNames, blockNames, List.append_nil]
    exact hneeded
  checks := by rw [blockCalls, blockCalls, hchecks, List.append_nil]

lemma names_mkCallStmt (retval : Option Lval) (e : Exp) (args : List Exp) :
    (mkCallStmt retval e args).names =
      retval.toList.flatMap Lval.names ++ e.names ++ args.flatMap Exp.names := by
  rw [mkCallStmt, Stmt.names]

/-- The calls that turn the measurements on and off mention global functions only. -/
lemma generated_trackperf (mode : ℤ) :
    Generated env f ts [] [] [genEnableTrackperf mode] ∧
      Generated env f ts [] [] [genDisableTrackperf mode] := by
  have hnames : UsesOnly env f ts [globalFn "s2e_enable_trackperf", lineVi] :=
    usesOnly_cons.mpr ⟨usesOnly_glob rfl, usesOnly_line⟩
  have hnames' : UsesOnly env f ts [globalFn "s2e_disable_trackperf", lineVi] :=
    usesOnly_cons.mpr ⟨usesOnly_glob rfl, usesOnly_line⟩
  exact ⟨generated_singleton rfl hnames nofun, generated_singleton rfl hnames' nofun⟩

/-! ### Return values -/

/-- A function is given the variable that the search for it finds. -/
lemma asks_getLocalVariable (t : Typ) (name : String) :
    Asks (Temp.hashkey g) env (getLocalVariable g f t name) [⟨f.vname, name, t⟩]
      (· = (env ⟨f.vname, name, t⟩).varinfo) :=
  (asks_ask _ _).bind fun _ => asks_pure _ fun h => by rw [h]

/-- Whether a return type is supported is decided without a variable. -/
lemma asks_supportedRetType : ∀ t : Typ,
    Asks (Temp.hashkey g) env (supportedRetType t) [] fun _ => True
  | .tNamed _ ttype => by
      rw [supportedRetType]
      exact asks_supportedRetType ttype
  | .tFun _ _ _ | .tBuiltinVaList => by
      rw [supportedRetType]
      exact asks_error _
  | .tVoid | .tInt _ | .tFloat _ | .tEnum _ | .tPtr _ | .tArray _ _ | .tComp _ => by
      rw [supportedRetType]
      exact asks_pure _ trivial

/-- The variable that holds the value a stub returns. -/
def retvalVar (env : Temp → Temp) (f : Fundec) : Option Varinfo :=
  if f.rettyp.isVoid then none else some (env ⟨f.vname, "_retval_", f.rettyp⟩).varinfo

lemma usesOnly_retvalVar : UsesOnly env f (retvalTemp wrapper) (retvalVar env wrapper).toList := by
  unfold retvalTemp retvalVar
  split_ifs with hvoid
  · exact usesOnly_nil
  · exact usesOnly_temp List.mem_cons_self

/-- A stub asks for the variable of its value, or for nothing if there is no value. -/
lemma asks_stubGetRetval :
    Asks (Temp.hashkey g) env (stubGetRetval g f) (retvalTemp f) (· = retvalVar env f) := by
  unfold stubGetRetval retvalTemp retvalVar
  split_ifs with hvoid
  · exact asks_pure _ rfl
  · exact (asks_getLocalVariable f.rettyp "_retval_").bind fun _ => asks_pure _ fun h => by rw [h]

/-- A `postfn` takes one of its formals, and asks for no variable. -/
lemma asks_postfnGetFormal (i : ℕ) (name : String) :
    Asks (Temp.hashkey g) env (postfnGetFormal i name f wrapper) [] (· ∈ wrapper.sformals) := by
  unfold postfnGetFormal
  split
  · exact asks_error _
  · next formal hformal =>
      split_ifs with hname
      · exact asks_error _
      · exact asks_pure _ (List.mem_of_getElem? hformal)

/-- The argument for a value mentions at most the variable that holds it. -/
lemma asks_genRetvalArg (deref : Bool) (vi : Option Varinfo) :
    Asks (Temp.hashkey g) env (genRetvalArg deref vi) [] (·.names ⊆ vi.toList) := by
  cases vi with
  | none => exact asks_pure _ (List.nil_subset _)
  | some vi =>
      unfold genRetvalArg
      refine (asks_supportedRetType _).bind fun supported => ?_
      cases supported with
      | false => exact asks_pure _ fun _ => List.nil_subset _
      | true =>
          refine asks_pure _ fun _ => ?_
          cases deref <;> exact List.Subset.refl [vi]

/-! ### Entering and leaving the driver -/

/-- What the arguments for the value ask for: the pairs have it among their formals. -/
def retvalArgsTemps (g : DataChunk) (f wrapper : Fundec) (kind : Wrapper) : List Temp :=
  if isNonstandardRetval g f.vname then []
  else
    match kind with
    | .stub => retvalTemp wrapper
    | _ => []

/-- The two arguments for the value mention formals of a `postfn`, or what a stub asked for. -/
lemma asks_retvalArgs (kind : Wrapper) :
    Asks (Temp.hashkey g) env (retvalArgs g f wrapper kind) (retvalArgsTemps g f wrapper kind)
      fun r => UsesOnly env wrapper (retvalArgsTemps g f wrapper kind)
        (r.1.names ++ r.2.names) := by
  unfold retvalArgs retvalArgsTemps
  split_ifs with hnonstandard
  · exact asks_pure _ usesOnly_nil
  cases kind with
  | prefn => exact asks_pure _ usesOnly_nil
  | postfn =>
      refine (asks_postfnGetFormal 1 "retval").bind fun retvalVi => ?_
      refine Asks.bind (asks_genRetvalArg true (some retvalVi)) fun retval => ?_
      refine Asks.bind (asks_postfnGetFormal 0 "retval_valid") fun retvalValid => asks_pure _ ?_
      intro hvalid hretval hvi
      have hvalid' := List.cons_subset.mpr ⟨hvalid, List.nil_subset _⟩
      refine usesOnly_append.mpr ⟨?_, usesOnly_formals hvalid'⟩
      exact UsesOnly.of_subset (usesOnly_formals (by simpa using hvi)) hretval
  | stub =>
      dsimp only
      rw [← List.append_nil (retvalTemp wrapper)]
      refine asks_stubGetRetval.bind fun retvalViOpt => ?_
      refine Asks.bind (asks_genRetvalArg false retvalViOpt) fun retval => asks_pure _ ?_
      rintro hretval rfl
      refine usesOnly_append.mpr ⟨?_, usesOnly_nil⟩
      rw [List.append_nil]
      exact usesOnly_retvalVar.of_subset hretval

/-- Only a `postfn` stores the result of the call. -/
def callRetvalTemps (wrapper : Fundec) : Wrapper → List Temp
  | .postfn => [exitRetvalTemp wrapper.vname]
  | _ => []

/-- The lvalue that the call stores its result in. -/
lemma asks_callRetval (kind : Wrapper) :
    Asks (Temp.hashkey g) env (callRetval g wrapper kind) (callRetvalTemps wrapper kind)
      (· = ((callRetvalTemps wrapper kind).head?.map fun t => .var (env t).varinfo)) := by
  cases kind with
  | postfn =>
      exact (asks_getLocalVariable intType "exit_retval").bind fun _ => asks_pure _ fun h => by
        rw [h]
        rfl
  | prefn | stub => exact asks_pure _ rfl

/-- What `gen_call_enter_exit_driver` asks for. -/
def enterExitTemps (g : DataChunk) (f wrapper : Fundec) (kind : Wrapper) : List Temp :=
  retvalArgsTemps g f wrapper kind ++ callRetvalTemps wrapper kind

/-- The call of `gen_enter_driver` or `gen_exit_driver` mentions what it asked for and, apart from
global functions and `__LINE__`, nothing else.  It is no check. -/
lemma asks_genCallEnterExitDriver (name : String) (wrapperType : ℤ) (kind : Wrapper) :
    Asks (Temp.hashkey g) env
      (genCallEnterExitDriver g f wrapper (globalFn name) wrapperType kind)
      (enterExitTemps g f wrapper kind)
      (Generated env wrapper (enterExitTemps g f wrapper kind) (callRetvalTemps wrapper kind)
        []) := by
  unfold genCallEnterExitDriver
  rw [enterExitTemps]
  refine (asks_retvalArgs kind).bind fun r => ?_
  rw [← List.append_nil (callRetvalTemps wrapper kind)]
  refine (asks_callRetval kind).bind fun retvalLv => asks_pure _ ?_
  rintro rfl hargs
  have hretval : UsesOnly env wrapper (enterExitTemps g f wrapper kind)
      (((callRetvalTemps wrapper kind).head?.map fun t => Lval.var (env t).varinfo).toList.flatMap
        Lval.names) := by
    cases kind with
    | postfn => exact usesOnly_temp (List.mem_append_right _ List.mem_cons_self)
    | prefn | stub => exact usesOnly_nil
  have hnames : UsesOnly env wrapper (enterExitTemps g f wrapper kind)
      (r.1.names ++ r.2.names) := hargs.mono (List.subset_append_left _ _)
  rw [List.append_nil]
  refine generated_singleton rfl ?_ ?_
  · rw [names_mkCallStmt]
    refine usesOnly_append.mpr ⟨usesOnly_append.mpr ⟨hretval, usesOnly_glob rfl⟩, ?_⟩
    have hglob : UsesOnly env wrapper (enterExitTemps g f wrapper kind)
        [lineVi, globalFn "register_all"] := usesOnly_cons.mpr ⟨usesOnly_line, usesOnly_glob rfl⟩
    refine UsesOnly.of_subset (usesOnly_append.mpr ⟨hglob, hnames⟩) fun v hv => ?_
    simpa [Exp.names, Lval.names, expifyVarinfo, expifyLval, lvalifyVarinfo, mkAddrOf, or_assoc,
      or_comm, or_left_comm] using hv
  · intro t ht
    rw [names_mkCallStmt]
    cases kind with
    | postfn =>
        rw [List.mem_singleton.mp ht]
        exact List.mem_append_left _ (List.mem_append_left _ List.mem_cons_self)
    | prefn | stub => cases ht

/-! ### Checks -/

/-- The lookup of a check mentions the global pointer to it and two functions. -/
lemma generated_lookup (prepostfn : String) :
    Generated env wrapper ts [] [] [genLookupMJRcheck f prepostfn (checkFnPtr f)] := by
  refine generated_singleton rfl ?_ nofun
  intro v hv hglob
  have hmem : v = checkFnPtr f ∨ v = globalFn "gen_lookup_MJRcheck" ∨ v = globalFn f.vname := by
    simpa [genLookupMJRcheck, mkIfStmt, mkCallStmt, Stmt.names, blockNames, Exp.names, Lval.names,
      expifyVarinfo, expifyLval, lvalifyVarinfo, mkAddrOrStartOf, unrollType, typeOfLval, globalFn,
      mkAddrOf] using hv
  rcases hmem with rfl | rfl | rfl <;> cases hglob

/-- A check is called through a pointer of the type that `get_tf_fn_typ` gives. -/
lemma calleeParams_checkFnPtr :
    calleeParams (expifyVarinfo (checkFnPtr f)) = some (tfArgs f.rettyp f.args) := by
  simp [calleeParams, expifyVarinfo, expifyLval, lvalifyVarinfo, checkFnPtr, getTfFnTyp,
    Function.comp_def]

/-- The call of a check stores its result in the flag, and mentions beside the flag what its
arguments do.  On the precondition branch the check is looked up before. -/
lemma asks_runMJRcheckFn (ts : List Temp) (prepostfn : String) (args : List Exp) (condition : ℤ) :
    Asks (Temp.hashkey g) env (runMJRcheckFn g f wrapper prepostfn args condition)
      [callKernelTemp wrapper.vname]
      fun ss => UsesOnly env wrapper ts (args.flatMap Exp.names) →
        Generated env wrapper (ts ++ [callKernelTemp wrapper.vname])
          [callKernelTemp wrapper.vname] [⟨tfArgs f.rettyp f.args, args⟩] ss := by
  unfold runMJRcheckFn
  refine (asks_getLocalVariable intType "_call_kernel_fn_").bind fun vi => asks_pure _ ?_
  rintro rfl hargs
  have hif : Generated env wrapper (ts ++ [callKernelTemp wrapper.vname]) [] []
      (if condition = 0 then [genLookupMJRcheck f prepostfn (checkFnPtr f)] else []) := by
    split_ifs
    · exact generated_lookup prepostfn
    · exact generated_nil
  refine hif.append ⟨?_, ?_, ?_⟩
  · rw [blockNames, blockNames, List.append_nil, names_mkCallStmt]
    refine usesOnly_append.mpr ⟨usesOnly_append.mpr ⟨?_, usesOnly_glob rfl⟩, ?_⟩
    · exact usesOnly_temp (List.mem_append_right _ List.mem_cons_self)
    · exact hargs.mono (List.subset_append_left _ _)
  · intro t ht
    rw [List.mem_singleton.mp ht, blockNames, blockNames, List.append_nil, names_mkCallStmt]
    exact List.mem_append_left _ (List.mem_append_left _ List.mem_cons_self)
  · rw [blockCalls, blockCalls, List.append_nil, mkCallStmt, Stmt.calls, calleeParams_checkFnPtr]
    rfl

/-- The names in a list of parameters. -/
lemma names_expifyLvals (vs : List Varinfo) :
    ((vs.map lvalifyVarinfo).map expifyLval).flatMap Exp.names = vs := by
  induction vs with
  | nil => rfl
  | cons v vs ih => rw [List.map_cons, List.map_cons, List.flatMap_cons, ih]; rfl

/-- Taking an address mentions no further variable. -/
lemma names_mkAddrOrStartOf (lv : Lval) : (mkAddrOrStartOf lv).names = lv.names := by
  have hmkAddrOf : (mkAddrOf lv).names = lv.names := by cases lv <;> rfl
  rw [mkAddrOrStartOf]
  split
  · rfl
  · exact hmkAddrOf

/-- The names in the addresses of a list of parameters. -/
lemma names_mkAddrs (vs : List Varinfo) :
    ((vs.map lvalifyVarinfo).map mkAddrOrStartOf).flatMap Exp.names = vs := by
  induction vs with
  | nil => rfl
  | cons v vs ih =>
      rw [List.map_cons, List.map_cons, List.flatMap_cons, ih, names_mkAddrOrStartOf]
      rfl

/-- A stub passes the addresses of its variable and of its formals, both before and after. -/
def stubCheckArgs (env : Temp → Temp) (f : Fundec) (condition : ℤ) : List Exp :=
  [.str f.vname, .int condition] ++
    ((retvalVar env f).toList.map lvalifyVarinfo).map mkAddrOrStartOf ++
    (f.sformals.map lvalifyVarinfo).map mkAddrOrStartOf

/-- The third argument of a check in a stub is the address of the stub's variable. -/
lemma asks_epArg3_stub (condition : ℤ) : Asks (Temp.hashkey g) env
    (epArg3 g f f .stub condition) (retvalTemp f)
    (· = ((retvalVar env f).toList.map lvalifyVarinfo).map mkAddrOrStartOf) := by
  unfold epArg3 retvalTemp retvalVar
  by_cases hvoid : f.rettyp.isVoid
  · rw [if_pos hvoid, if_pos hvoid, if_pos hvoid]
    exact asks_pure _ rfl
  · rw [if_neg hvoid, if_neg hvoid, if_neg hvoid]
    refine (asks_getLocalVariable f.rettyp "_retval_").bind fun vi => asks_pure _ ?_
    rintro rfl
    rfl

lemma asks_epArgs_stub (condition : ℤ) : Asks (Temp.hashkey g) env
    (epArgs g f f .stub condition (f.sformals.map lvalifyVarinfo)) (retvalTemp f)
    (· = stubCheckArgs env f condition) := by
  rw [← List.append_nil (retvalTemp f)]
  refine (asks_epArg3_stub condition).bind fun args => asks_pure _ ?_
  rintro rfl
  rfl

/-- What `gen_preconditions` and `gen_postconditions` ask for: first what the arguments need. -/
def conditionTemps (g : DataChunk) (wrapper : Fundec) (ts : List Temp) : List Temp :=
  if g.gTestFramework then ts ++ [callKernelTemp wrapper.vname] else []

/-- The call of the check in a condition. -/
def conditionCalls (g : DataChunk) (f : Fundec) (args : List Exp) : List ProtoCall :=
  if g.gTestFramework then [⟨tfArgs f.rettyp f.args, args⟩] else []

/-- What the arguments of a check ask for and mention, the condition does; it adds the flag.
Without the test framework there is no condition. -/
lemma asks_genConditions {kind : Wrapper} {prepostfn : String} {condition : ℤ} {lvs : List Lval}
    {args : List Exp}
    (hargs : Asks (Temp.hashkey g) env (epArgs g f wrapper kind condition lvs) ts (· = args))
    (hnames : UsesOnly env wrapper ts (args.flatMap Exp.names)) :
    Asks (Temp.hashkey g) env (genConditions g f wrapper kind prepostfn condition lvs)
      (conditionTemps g wrapper ts)
      (Generated env wrapper (conditionTemps g wrapper ts) (conditionTemps g wrapper [])
        (conditionCalls g f args)) := by
  unfold genConditions conditionTemps conditionCalls
  by_cases htest : g.gTestFramework
  · rw [if_pos htest, if_pos htest, if_pos htest, if_pos htest]
    refine hargs.bind fun args' => (asks_runMJRcheckFn ts _ args' condition).mono ?_
    rintro ss hss rfl
    exact hss hnames
  · rw [if_neg htest, if_neg htest, if_neg htest, if_neg htest]
    exact asks_pure _ generated_nil

/-! ### Pairs -/

/-- What the body of a `prefn` asks for. -/
def prefnTemps (g : DataChunk) (f : Fundec) : List Temp :=
  conditionTemps g (createPrepostfnFunction f true) [] ++ [callKernelTemp f.vname]

/-- What the body of a `postfn` asks for. -/
def postfnTemps (g : DataChunk) (f : Fundec) : List Temp :=
  conditionTemps g (createPrepostfnFunction f false) [] ++
    ([exitRetvalTemp (createPrepostfnFunction f false).vname] ++ [callKernelTemp f.vname])

/-- Only a value of a supported type is set to zero. -/
lemma asks_genInitZero : Asks (Temp.hashkey g) env (genInitZero g f) (retvalTemp f)
    (Generated env f (retvalTemp f) [] []) := by
  unfold genInitZero
  rw [← List.append_nil (retvalTemp f)]
  refine asks_stubGetRetval.bind fun retvalViOption => ?_
  cases retvalViOption with
  | none => exact asks_pure _ fun _ => generated_nil
  | some retvalVi =>
      refine Asks.bind (asks_supportedRetType f.rettyp) fun supported => ?_
      cases supported with
      | false => exact asks_pure _ fun _ _ => generated_nil
      | true =>
          refine asks_pure _ fun _ hvi => generated_singleton rfl ?_ nofun
          have hnames : UsesOnly env f (retvalTemp f) (some retvalVi).toList := by
            rw [hvi]
            exact usesOnly_retvalVar
          rw [List.append_nil]
          exact hnames

/-- A stub returns its variable, so a stub with a value mentions it. -/
lemma asks_genStubRetstmt : Asks (Temp.hashkey g) env (genStubRetstmt g f) (retvalTemp f)
    fun s => Generated env f (retvalTemp f) (retvalTemp f) [] [s] := by
  unfold genStubRetstmt
  rw [← List.append_nil (retvalTemp f)]
  refine asks_stubGetRetval.bind fun retvalViOption => asks_pure _ ?_
  rintro rfl
  rw [List.append_nil]
  have hnames : (Stmt.ret ((retvalVar env f).map expifyVarinfo)).names =
      (retvalVar env f).toList := by
    rw [Stmt.names]
    cases retvalVar env f <;> rfl
  refine generated_singleton rfl ?_ fun t ht => ?_
  · rw [hnames]
    exact usesOnly_retvalVar
  · rw [hnames]
    unfold retvalTemp at ht
    unfold retvalVar
    split_ifs at ht ⊢ with hvoid
    · cases ht
    · rw [List.mem_singleton.mp ht]
      exact List.mem_cons_self

/-- The kernel function is called with the formals of the stub. -/
lemma asks_genFnPtrCall (name : String) :
    Asks (Temp.hashkey g) env (genFnPtrCall g f (globalFn name)) (retvalTemp f)
      fun s => Generated env f (retvalTemp f) [] [] [s] := by
  unfold genFnPtrCall
  rw [← List.append_nil (retvalTemp f)]
  refine asks_stubGetRetval.bind fun retvalViOption => asks_pure _ ?_
  rintro rfl
  rw [List.append_nil]
  refine generated_singleton rfl ?_ nofun
  have hretval : ((retvalVar env f).map lvalifyVarinfo).toList.flatMap Lval.names =
      (retvalVar env f).toList := by
    cases retvalVar env f <;> rfl
  have hargs : (f.sformals.map expifyVarinfo).flatMap Exp.names = f.sformals := by
    have hmap := names_expifyLvals f.sformals
    rwa [List.map_map] at hmap
  rw [names_mkCallStmt, hretval, hargs]
  exact usesOnly_append.mpr ⟨usesOnly_append.mpr ⟨usesOnly_retvalVar, usesOnly_glob rfl⟩,
    usesOnly_formals (List.Subset.refl _)⟩

/-- Making a value symbolic mentions the variable that holds it, if the type allows it. -/
lemma generated_mkMakeSymbolic {origName : String} {t : Typ} {v : Varinfo}
    (hv : UsesOnly env f ts [v]) : Generated env f ts [] [] (mkMakeSymbolic origName t v) := by
  have hnames : ∀ name, UsesOnly env f ts [globalFn name, lineVi, v] := fun name =>
    usesOnly_cons.mpr ⟨usesOnly_glob rfl, usesOnly_cons.mpr ⟨usesOnly_line, hv⟩⟩
  unfold mkMakeSymbolic
  split
  · refine generated_singleton rfl ?_ nofun
    rw [names_mkCallStmt]
    refine (hnames "gen_make_symbolic_int").of_subset ?_
    simp [Exp.names, names_mkAddrOrStartOf, Lval.names, expifyVarinfo, expifyLval, lvalifyVarinfo]
  · refine generated_singleton rfl ?_ nofun
    rw [names_mkCallStmt]
    refine (hnames "gen_make_symbolic_ptr").of_subset ?_
    simp [Exp.names, names_mkAddrOrStartOf, Lval.names, expifyVarinfo, expifyLval, lvalifyVarinfo]
  · exact generated_nil

/-- A function with a nonstandard value keeps it, and nothing is asked for. -/
def retvalModificationTemps (g : DataChunk) (f : Fundec) : List Temp :=
  if g.nonstandardRetvalFns.contains (stripPrefixTry f.vname stubwrapperPrefix) then []
  else retvalTemp f

/-- The value that the kernel returned is made symbolic in the stub's variable. -/
lemma asks_genStubRetvalModification :
    Asks (Temp.hashkey g) env (genStubRetvalModification g f) (retvalModificationTemps g f)
      (Generated env f (retvalTemp f) [] []) := by
  unfold genStubRetvalModification retvalModificationTemps
  dsimp only
  split_ifs with hnonstandard
  · exact asks_pure _ generated_nil
  · rw [← List.append_nil (retvalTemp f)]
    refine asks_stubGetRetval.bind fun retvalViOption => ?_
    rw [List.append_nil]
    cases retvalViOption with
    | none => exact asks_pure _ fun _ => generated_nil
    | some retVar =>
        refine asks_pure _ fun hvar => generated_mkMakeSymbolic ?_
        have hnames : UsesOnly env f (retvalTemp f) (some retVar).toList := by
          rw [hvar]
          exact usesOnly_retvalVar
        exact hnames

/-- The kernel call and what follows it mention the stub's variable and its formals. -/
lemma asks_genRunKernelFn : Asks (Temp.hashkey g) env (genRunKernelFn g f)
    (retvalTemp f ++ retvalModificationTemps g f) (Generated env f (retvalTemp f) [] []) := by
  unfold genRunKernelFn
  split
  · exact asks_error _
  · next kernelFunction _ =>
      refine (asks_genFnPtrCall kernelFunction).bind fun stmtFnPtrCall => ?_
      rw [← List.append_nil (retvalModificationTemps g f)]
      refine asks_genStubRetvalModification.bind fun stmts => asks_pure _ ?_
      exact fun hstmts hcall => hcall.append hstmts

/-! ### Conversions -/

/-- The code for an argument has what is common to conversions, tests and their combinations. -/
theorem stubConvertArg_rule {comps : ℕ → Compinfo} {fname paramName : String}
    {P : Lval → List Stmt → Prop} (nil : ∀ lv, P lv [])
    (convert : ∀ lv str1 str2, P lv [stubMkConvertFn fname lv str1 str2])
    (through : ∀ lv ss, P (.mem (.lval lv)) ss → P lv ss)
    (test : ∀ lv ss, P (.mem (.lval lv)) ss → P lv [.ifStmt (.neZero (.lval lv)) ss []])
    (fields : ∀ lv (fis : List Fieldinfo) (ss : Fieldinfo → List Stmt),
      (∀ fi ∈ fis, P (.field lv fi) (ss fi)) → P lv (fis.flatMap ss))
    (lv : Lval) (t : Typ) (ci : Option Compinfo) (fi : Option Fieldinfo) (depth : ℕ) :
    P lv (stubConvertArg comps fname paramName lv t ci fi depth) := by
  by_cases hdepth : depth < 7
  swap
  · rw [stubConvertArg_deep hdepth]
    exact nil lv
  match t with
  | .tFun ret args vargs =>
      rw [stubConvertArg_fun hdepth]
      split_ifs
      · exact nil lv
      · exact convert lv _ _
  | .tNamed tname t =>
      rw [stubConvertArg_named]
      exact stubConvertArg_rule nil convert through test fields lv t ci fi depth
  | .tComp ckey =>
      rw [stubConvertArg_comp hdepth]
      exact fields lv _ _ fun fi _ => stubConvertArg_rule nil convert through test fields _ _ _ _ _
  | .tPtr (.tComp ckey) =>
      rw [stubConvertArg_compPtr hdepth]
      dsimp only
      split_ifs
      · exact test lv _ (stubConvertArg_rule nil convert through test fields _ _ _ _ _)
      · exact nil lv
  | .tPtr (.tFun ret args vargs) =>
      rw [stubConvertArg_fnPtr rfl hdepth]
      exact stubConvertArg_rule nil convert through test fields _ _ _ _ _
  | .tPtr (.tNamed tname t) =>
      by_cases ht : t.isFun
      · rw [stubConvertArg_fnNamedPtr ht hdepth]
        exact stubConvertArg_rule nil convert through test fields _ _ _ _ _
      · rw [stubConvertArg_namedPtr ht hdepth]
        exact through lv _ (stubConvertArg_rule nil convert through test fields _ _ _ _ _)
  | .tPtr (.tPtr t) =>
      rw [stubConvertArg_ptrPtr]
      exact nil lv
  | .tPtr .tVoid | .tPtr (.tInt _) | .tPtr (.tFloat _) | .tPtr (.tArray _ _) | .tPtr (.tEnum _)
  | .tPtr .tBuiltinVaList =>
      rw [stubConvertArg_scalarPtr rfl]
      exact nil lv
  | .tVoid | .tInt _ | .tFloat _ | .tArray _ _ | .tEnum _ | .tBuiltinVaList =>
      rw [stubConvertArg_scalar rfl]
      exact nil lv
termination_by (7 - depth, sizeOf t)

/-- The conversions mention the argument only, and call no checks. -/
def ConvertsOnly (lv : Lval) (ss : List Stmt) : Prop :=
  (∀ v ∈ blockNames ss, v = convertFn ∨ v ∈ lv.names) ∧ blockCalls ss = []

/-- The walk over the type of an argument adds nothing but conversions of parts of it. -/
lemma convertsOnly_stubConvertArg {comps : ℕ → Compinfo} {fname paramName : String} (lv : Lval)
    (t : Typ) (ci : Option Compinfo) (fi : Option Fieldinfo) (depth : ℕ) :
    ConvertsOnly lv (stubConvertArg comps fname paramName lv t ci fi depth) := by
  refine stubConvertArg_rule (P := ConvertsOnly) ?_ ?_ ?_ ?_ ?_ lv t ci fi depth
  · intro lv
    exact ⟨List.forall_mem_nil _, rfl⟩
  · intro lv str1 str2
    refine ⟨fun v hv => ?_, rfl⟩
    simpa [blockNames, stubMkConvertFn, names_mkCallStmt, Exp.names, names_mkAddrOrStartOf,
      expifyVarinfo, expifyLval, lvalifyVarinfo, Lval.names] using hv
  · intro lv ss h
    exact h
  · rintro lv ss ⟨hnames, hchecks⟩
    refine ⟨fun v hv => ?_, ?_⟩
    · have hmem : v ∈ lv.names ∨ v ∈ blockNames ss := by
        simpa [blockNames, Stmt.names, Exp.names] using hv
      rcases hmem with hmem | hmem
      · exact Or.inr hmem
      · exact hnames v hmem
    · rw [blockCalls, Stmt.calls, hchecks]
      rfl
  · intro lv fis ss h
    induction fis with
    | nil => exact ⟨List.forall_mem_nil _, rfl⟩
    | cons fi fis ih =>
        obtain ⟨hnames, hchecks⟩ := h fi List.mem_cons_self
        obtain ⟨hnames', hchecks'⟩ := ih fun fi hfi => h fi (List.mem_cons_of_mem _ hfi)
        refine ⟨fun v hv => ?_, ?_⟩
        · rw [List.flatMap_cons, blockNames_append] at hv
          rcases List.mem_append.mp hv with hv | hv
          · exact hnames v hv
          · exact hnames' v hv
        · rw [List.flatMap_cons, blockCalls_append, hchecks, hchecks']
          rfl

/-- The conversions of all arguments mention the formals, and ask for nothing. -/
lemma generated_stubFnPtrConversion {gTestFramework : Bool} {comps : ℕ → Compinfo}
    {fname : String} :
    Generated env f ts [] [] (stubFnPtrConversion gTestFramework comps fname f.sformals) := by
  have hall : ∀ vs ⊆ f.sformals, Generated env f ts [] []
      (vs.flatMap fun vi =>
        stubConvertArg comps fname vi.vname (lvalifyVarinfo vi) vi.vtype none none 0) := by
    intro vs hvs
    induction vs with
    | nil => exact generated_nil
    | cons vi vs ih =>
        obtain ⟨hvi, hvs⟩ := List.cons_subset.mp hvs
        have hconverts : ConvertsOnly (lvalifyVarinfo vi) (stubConvertArg comps fname vi.vname
            (lvalifyVarinfo vi) vi.vtype none none 0) := convertsOnly_stubConvertArg _ _ _ _ _
        have hallowed : UsesOnly env f ts [convertFn, vi] := usesOnly_cons.mpr
          ⟨usesOnly_glob rfl, usesOnly_formals (List.cons_subset.mpr ⟨hvi, List.nil_subset _⟩)⟩
        have hvi : Generated env f ts [] [] (stubConvertArg comps fname vi.vname
            (lvalifyVarinfo vi) vi.vtype none none 0) := by
          refine ⟨hallowed.of_subset fun v hv => ?_, nofun, hconverts.2⟩
          simpa [lvalifyVarinfo, Lval.names] using hconverts.1 v hv
        exact hvi.append (ih hvs)
  unfold stubFnPtrConversion
  split_ifs
  · exact hall _ (List.Subset.refl _)
  · exact generated_nil

/-! ### The body of a stub -/

/-- With the test framework, what stands around the kernel call is put under a test of the flag. -/
lemma asks_genIfStmts (ts needs : List Temp) (calls : List ProtoCall) (block : List Stmt) :
    Asks (Temp.hashkey g) env (genIfStmts g f block) (conditionTemps g f [])
      fun ss => Generated env f ts needs calls block →
        Generated env f (ts ++ conditionTemps g f []) (needs ++ conditionTemps g f []) calls
          ss := by
  unfold genIfStmts conditionTemps
  split_ifs with htest
  · refine (asks_getLocalVariable intType "_call_kernel_fn_").bind fun ifLhs => asks_pure _ ?_
    rintro rfl hblock
    have hnames : blockNames
        [mkIfStmt (.eqZero (expifyVarinfo (env (callKernelTemp f.vname)).varinfo))
        block []] = (env (callKernelTemp f.vname)).varinfo :: blockNames block := by
      simp [blockNames, mkIfStmt, Stmt.names, Exp.names, expifyVarinfo, expifyLval, lvalifyVarinfo,
        Lval.names]
    refine ⟨?_, fun t ht => ?_, ?_⟩
    · rw [callKernelTemp] at hnames
      rw [hnames]
      refine usesOnly_cons.mpr ⟨usesOnly_temp (List.mem_append_right _ List.mem_cons_self), ?_⟩
      exact hblock.names.mono (List.subset_append_left _ _)
    · rw [callKernelTemp] at hnames
      rw [hnames]
      rcases List.mem_append.mp ht with ht | ht
      · exact List.mem_cons_of_mem _ (hblock.needed t ht)
      · rw [List.mem_singleton.mp ht]
        exact List.mem_cons_self
    · rw [blockCalls, blockCalls, mkIfStmt, Stmt.calls, hblock.checks,
        blockCalls, List.append_nil, List.append_nil]
  · refine asks_pure _ fun hblock => ?_
    rw [List.append_nil, List.append_nil]
    exact hblock

/-- What the body of a stub asks for, in the order in which it does. -/
def stubAsks (g : DataChunk) (f : Fundec) : List Temp :=
  retvalTemp f ++ (conditionTemps g f (retvalTemp f) ++ (enterExitTemps g f f .stub ++
    ((retvalTemp f ++ retvalModificationTemps g f) ++ (conditionTemps g f (retvalTemp f) ++
      (enterExitTemps g f f .stub ++ (retvalTemp f ++ conditionTemps g f []))))))

/-- The variables of the body of a stub. -/
def stubTemps (g : DataChunk) (f : Fundec) : List Temp :=
  retvalTemp f ++ conditionTemps g f []

lemma conditionTemps_subset : conditionTemps g f (retvalTemp f) ⊆ stubTemps g f := by
  unfold stubTemps conditionTemps
  split_ifs
  · exact List.Subset.refl _
  · exact List.nil_subset _

/-- A stub hands its value to the framework in the variable it has anyway. -/
lemma enterExitTemps_subset : enterExitTemps g f f .stub ⊆ retvalTemp f := by
  unfold enterExitTemps retvalArgsTemps callRetvalTemps
  split_ifs
  · exact List.nil_subset _
  · rw [List.append_nil]
    exact List.Subset.refl _

lemma usesOnly_stubCheckArgs {condition : ℤ} :
    UsesOnly env f (retvalTemp f) ((stubCheckArgs env f condition).flatMap Exp.names) := by
  rw [stubCheckArgs, List.flatMap_append, List.flatMap_append, names_mkAddrs, names_mkAddrs]
  exact usesOnly_append.mpr ⟨usesOnly_append.mpr ⟨usesOnly_nil, usesOnly_retvalVar⟩,
    usesOnly_formals (List.Subset.refl _)⟩

/-- **A stub** mentions its variable, the flag and its formals.  With the test framework it calls
the check before and after the kernel function. -/
theorem asks_genNamedStubBody :
    Asks (Temp.hashkey g) env (genNamedStubBody g f) (stubAsks g f)
      (Generated env f (stubTemps g f) (stubTemps g f)
        (conditionCalls g f (stubCheckArgs env f 0) ++
          conditionCalls g f (stubCheckArgs env f 1))) := by
  have hleft : retvalTemp f ⊆ stubTemps g f := List.subset_append_left _ _
  have henterExit : enterExitTemps g f f .stub ⊆ retvalTemp f := enterExitTemps_subset
  unfold genNamedStubBody stubAsks
  refine asks_genInitZero.bind fun stmtsInit => ?_
  refine (asks_genConditions (asks_epArgs_stub 0) usesOnly_stubCheckArgs).bind
    fun stmtsPreconditions => ?_
  refine (asks_genCallEnterExitDriver "gen_exit_driver" 0 .stub).bind fun stmtsExitDriver => ?_
  refine asks_genRunKernelFn.bind fun stmtsMainStmts => ?_
  refine (asks_genConditions (asks_epArgs_stub 1) usesOnly_stubCheckArgs).bind
    fun stmtsPostconditions => ?_
  refine (asks_genCallEnterExitDriver "gen_enter_driver" 0 .stub).bind fun stmtsEnterDriver => ?_
  refine asks_genStubRetstmt.bind fun stmtRet => ?_
  rw [← List.append_nil (conditionTemps g f [])]
  refine (asks_genIfStmts (stubTemps g f) [] (conditionCalls g f (stubCheckArgs env f 1)) _).bind
    fun ifStmts => asks_pure _ ?_
  intro hif hret henter hpost hmain hexit hpre hinit
  have hexit' := (hexit.mono henterExit).mono hleft
  have henter' := (henter.mono henterExit).mono hleft
  have hpost' := (hpost.mono conditionTemps_subset).of_needs (List.nil_subset _)
  have hblock : Generated env f (stubTemps g f) [] (conditionCalls g f (stubCheckArgs env f 1))
      (stmtsExitDriver ++ stmtsMainStmts ++ stmtsPostconditions ++ stmtsEnterDriver) := by
    simpa [callRetvalTemps] using
      ((hexit'.append (hmain.mono hleft)).append hpost').append henter'
  have hif' : Generated env f (stubTemps g f) (conditionTemps g f [])
      (conditionCalls g f (stubCheckArgs env f 1)) ifStmts :=
    (hif hblock).mono (List.append_subset.mpr
      ⟨List.Subset.refl _, List.subset_append_right _ _⟩)
  have hpre' := (hpre.mono conditionTemps_subset).of_needs (List.nil_subset _)
  have hconvert : Generated env f (stubTemps g f) [] [] (stubFnPtrConversion g.gTestFramework
      g.comps (stripPrefixTry f.vname stubwrapperPrefix) f.sformals) :=
    generated_stubFnPtrConversion
  have hbody := ((((((generated_trackperf 21).2.append (hinit.mono hleft)).append
    hconvert).append hpre').append hif').append (generated_trackperf 22).1).append (hret.mono hleft)
  have hneeds : stubTemps g f ⊆ conditionTemps g f [] ++ retvalTemp f :=
    List.append_subset.mpr ⟨List.subset_append_right _ _, List.subset_append_left _ _⟩
  exact Generated.of_needs (by simpa using hbody) hneeds

end

end SymDrive.Cil.Splitter
