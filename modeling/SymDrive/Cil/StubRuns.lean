import Mathlib.Logic.Function.Basic
import SymDrive.Cil.SplitDriver

/-!
# Runs of the generated stubs

What the code of a stub does, for any behaviour of the functions that it calls: of the check, of the
kernel function, of the framework.  A run keeps the calls that it made, each with the statement that
made it.

* `runBlock` — the meaning of generated code.
* `mem_blockCalls_of_run` — a call of a function with a known prototype is one that stands in the
  code.
* `asks_stubShape` — what stands before and after the call of the check in the body of a stub.
* `bypassed_stub_value` — after a check that does not return zero, the stub returns what is then in
  its variable for the return value.
-/

namespace SymDrive.Cil.Splitter

open Interning

/-! ## Memory -/

/-- A place in memory.  The local variables of the function that runs have their names. -/
inductive Loc where
  | local (vname : String)
  | global (vname : String)
  | cell (n : ℕ)
  | field (base : Loc) (fname : String)
  deriving DecidableEq, Repr

/-- The null pointer is the number zero. -/
inductive Val where
  | int (n : ℤ)
  | str (s : String)
  | ptr (l : Loc)
  deriving DecidableEq, Repr

def Val.isZero : Val → Bool
  | .int n => n = 0
  | .str _ => false
  | .ptr _ => false

/-- What a comparison gives. -/
def Val.ofBool (b : Bool) : Val := .int (if b then 1 else 0)

lemma Val.isZero_ofBool (b : Bool) : (Val.ofBool b).isZero = !b := by cases b <;> rfl

/-- The values of all locations. -/
abbrev Mem := Loc → Val

def Mem.store (m : Mem) (l : Loc) (v : Val) : Mem := Function.update m l v

/-- What runs beside the stub: the functions that it calls, by their addresses, and the conversions
of the compiler.  A function may not return.  `s2e_enable_trackperf` is one instruction, which
writes no memory. -/
structure Machine where
  call : Val → List Val → Mem → Option (Val × Mem)
  cast : Typ → Val → Val
  sizeOf : Typ → ℕ
  trackperf_frame : ∀ args m r m',
    call (.ptr (.global "s2e_enable_trackperf")) args m = some (r, m') → m' = m

/-! ## Expressions -/

/-- Global variables and locals of one name are different locations. -/
def Varinfo.loc (v : Varinfo) : Loc := if v.vglob then .global v.vname else .local v.vname

/-- A function that is named is its address. -/
def Lval.function? : Lval → Option String
  | .var ⟨vname, .tFun _ _ _, true⟩ => some vname
  | _ => none

section

variable (M : Machine)

mutual

/-- The location of an lvalue; `none` where an address is none. -/
def evalLval (m : Mem) : Lval → Option Loc
  | .var v => some v.loc
  | .mem addr =>
      match evalExp m addr with
      | some (.ptr l) => some l
      | _ => none
  | .field lv fi => (evalLval m lv).map fun l => .field l fi.fname

/-- The value of an expression.  A function is its own address. -/
def evalExp (m : Mem) : Exp → Option Val
  | .int n => some (.int n)
  | .str s => some (.str s)
  | .sizeOf t => some (.int (M.sizeOf t))
  | .lval lv =>
      match lv.function? with
      | some vname => some (.ptr (.global vname))
      | none => (evalLval m lv).map m
  | .addrOf lv => (evalLval m lv).map .ptr
  | .startOf lv => (evalLval m lv).map .ptr
  | .castE t e => (evalExp m e).map (M.cast t)
  | .eqZero e => (evalExp m e).map fun v => .ofBool v.isZero
  | .neZero e => (evalExp m e).map fun v => .ofBool !v.isZero

end

def evalExps (m : Mem) (es : List Exp) : Option (List Val) := es.mapM (evalExp M m)

/-! ## Statements -/

/-- A call: the statement, the function and the arguments that it was made with, and the memory
before and after it. -/
structure CallEvent where
  fn : Exp
  args : List Exp
  callee : Val
  values : List Val
  before : Mem
  result : Val
  after : Mem

/-- Whether control goes on behind a statement or has left the function. -/
inductive Flow where
  | next
  | ret (v : Option Val)

/-- How a run ends, and the calls it made. -/
structure RunResult where
  flow : Flow
  mem : Mem
  calls : List CallEvent

/-- `o`, and then `k` unless `o` has returned. -/
def RunResult.thenRun (o : RunResult) (k : Mem → Option RunResult) : Option RunResult :=
  match o.flow with
  | .ret _ => some o
  | .next => (k o.mem).map fun o' => { o' with calls := o.calls ++ o'.calls }

/-- A call: first the function and the arguments, then the call, then the assignment. -/
def runCall (retval : Option Lval) (f : Exp) (args : List Exp) (m : Mem) : Option RunResult := do
  let callee ← evalExp M m f
  let values ← evalExps M m args
  let (result, after) ← M.call callee values m
  let event : CallEvent := ⟨f, args, callee, values, m, result, after⟩
  match retval with
  | none => return ⟨.next, after, [event]⟩
  | some lv => do
      let l ← evalLval M after lv
      return ⟨.next, after.store l result, [event]⟩

mutual

def runStmt : Stmt → Mem → Option RunResult
  | .set lv e, m => do
      let l ← evalLval M m lv
      let v ← evalExp M m e
      return ⟨.next, m.store l v, []⟩
  | .call retval f args, m => runCall M retval f args m
  | .ifStmt ifguard trueBlock falseBlock, m => do
      let v ← evalExp M m ifguard
      if v.isZero then runBlock falseBlock m else runBlock trueBlock m
  | .ret none, m => some ⟨.ret none, m, []⟩
  | .ret (some e), m => do
      let v ← evalExp M m e
      return ⟨.ret (some v), m, []⟩

def runBlock : List Stmt → Mem → Option RunResult
  | [], m => some ⟨.next, m, []⟩
  | s :: ss, m => (runStmt s m).bind fun o => o.thenRun (runBlock ss)

end

end

/-- The call of the check of `f` with the condition 0, which `gen_preconditions` generates. -/
def CallEvent.IsPrecondition (e : CallEvent) (f : Fundec) : Prop :=
  e.fn = expifyVarinfo (checkFnPtr f) ∧ [.str f.vname, .int 0] <+: e.args

/-- The variable that a stub keeps the value to return in: what the table holds under its key. -/
def stubRetval (g : DataChunk) (made : List Temp) (f : Fundec) : Varinfo :=
  (first (Temp.hashkey g) made ⟨f.vname, "_retval_", f.rettyp⟩).varinfo

/-- The variable that a stub keeps the result of its check in. -/
def stubCallKernelFn (g : DataChunk) (made : List Temp) (f : Fundec) : Varinfo :=
  (first (Temp.hashkey g) made (callKernelTemp f.vname)).varinfo

/-! ## Calls in runs -/

section

variable {M : Machine} {m : Mem}

/-- A run goes on unless it has returned. -/
lemma RunResult.thenRun_eq_some {o r : RunResult} {k : Mem → Option RunResult}
    (h : o.thenRun k = some r) :
    (∃ v, o.flow = .ret v ∧ r = o) ∨
      o.flow = .next ∧ ∃ o', k o.mem = some o' ∧ r = { o' with calls := o.calls ++ o'.calls } := by
  unfold RunResult.thenRun at h
  split at h
  · next v hflow => exact Or.inl ⟨v, hflow, (Option.some.inj h).symm⟩
  · next hflow =>
      obtain ⟨o', hk, rfl⟩ := Option.map_eq_some_iff.mp h
      exact Or.inr ⟨hflow, o', hk, rfl⟩

/-- After a statement that does not return. -/
lemma RunResult.thenRun_of_next {o r : RunResult} {k : Mem → Option RunResult}
    (hflow : o.flow = .next) (h : o.thenRun k = some r) :
    ∃ o', k o.mem = some o' ∧ r = { o' with calls := o.calls ++ o'.calls } := by
  rcases thenRun_eq_some h with ⟨v, hret, -⟩ | ⟨-, hnext⟩
  · rw [hflow] at hret
    cases hret
  · exact hnext

/-- A call in a run is made by the first part or by the second. -/
lemma RunResult.mem_thenRun {o r : RunResult} {k : Mem → Option RunResult} {e : CallEvent}
    (h : o.thenRun k = some r) (he : e ∈ r.calls) :
    e ∈ o.calls ∨ o.flow = .next ∧ ∃ o', k o.mem = some o' ∧ e ∈ o'.calls ∧ o'.flow = r.flow := by
  rcases thenRun_eq_some h with ⟨v, hflow, rfl⟩ | ⟨hflow, o', hk, rfl⟩
  · exact Or.inl he
  · rcases List.mem_append.mp he with he | he
    · exact Or.inl he
    · exact Or.inr ⟨hflow, o', hk, he, rfl⟩

lemma runBlock_cons (s : Stmt) (ss : List Stmt) :
    runBlock M (s :: ss) m = (runStmt M s m).bind fun o => o.thenRun (runBlock M ss) := by
  rw [runBlock]

lemma RunResult.thenRun_assoc (o : RunResult) (k k' : Mem → Option RunResult) :
    (o.thenRun k).bind (fun o' => o'.thenRun k') =
      o.thenRun fun m => (k m).bind fun o' => o'.thenRun k' := by
  cases hflow : o.flow with
  | ret v => simp only [thenRun, hflow, Option.bind_some]
  | next =>
      simp only [thenRun, hflow]
      cases k o.mem with
      | none => rfl
      | some o' =>
          cases hflow' : o'.flow with
          | ret v => simp [hflow']
          | next =>
              simp only [Option.map_some, Option.bind_some, hflow', Option.map_map]
              cases k' o'.mem <;> simp

/-- Two blocks run one after the other. -/
lemma runBlock_append (ss ss' : List Stmt) (m : Mem) :
    runBlock M (ss ++ ss') m = (runBlock M ss m).bind fun o => o.thenRun (runBlock M ss') := by
  induction ss generalizing m with
  | nil =>
      rw [List.nil_append, runBlock, Option.bind_some, RunResult.thenRun]
      cases runBlock M ss' m <;> rfl
  | cons s ss ih =>
      rw [List.cons_append, runBlock_cons, runBlock_cons, Option.bind_assoc]
      refine congrArg _ (funext fun o => ?_)
      rw [RunResult.thenRun_assoc]
      exact congrArg _ (funext ih)

/-- What a call that comes back has done. -/
lemma runCall_eq_some {retval : Option Lval} {f : Exp} {args : List Exp} {o : RunResult}
    (h : runCall M retval f args m = some o) :
    ∃ callee values result after, evalExp M m f = some callee ∧
      evalExps M m args = some values ∧ M.call callee values m = some (result, after) ∧
      o.flow = .next ∧ o.calls = [⟨f, args, callee, values, m, result, after⟩] ∧
      (retval = none ∧ o.mem = after ∨
        ∃ lv l, retval = some lv ∧ evalLval M after lv = some l ∧
          o.mem = after.store l result) := by
  unfold runCall at h
  obtain ⟨callee, hcallee, h⟩ := Option.bind_eq_some_iff.mp h
  obtain ⟨values, hvalues, h⟩ := Option.bind_eq_some_iff.mp h
  obtain ⟨⟨result, after⟩, hcall, h⟩ := Option.bind_eq_some_iff.mp h
  refine ⟨callee, values, result, after, hcallee, hvalues, hcall, ?_⟩
  cases retval with
  | none =>
      obtain rfl := Option.some.inj h
      exact ⟨rfl, rfl, Or.inl ⟨rfl, rfl⟩⟩
  | some lv =>
      obtain ⟨l, hl, h⟩ := Option.bind_eq_some_iff.mp h
      obtain rfl := Option.some.inj h
      exact ⟨rfl, rfl, Or.inr ⟨lv, l, rfl, hl, rfl⟩⟩

mutual

/-- A call that a run makes stands in the code. -/
lemma mem_calls_of_run {e : CallEvent} {params : List Typ}
    (hproto : calleeParams e.fn = some params) :
    ∀ (s : Stmt) (m : Mem) (o : RunResult), runStmt M s m = some o → e ∈ o.calls →
      ⟨params, e.args⟩ ∈ s.calls
  | .set lv e', m, o, h, he => by
      rw [runStmt] at h
      obtain ⟨l, -, h⟩ := Option.bind_eq_some_iff.mp h
      obtain ⟨v, -, h⟩ := Option.bind_eq_some_iff.mp h
      obtain rfl := Option.some.inj h
      cases he
  | .call retval f args, m, o, h, he => by
      rw [runStmt] at h
      obtain ⟨callee, values, result, after, -, -, -, -, hcalls, -⟩ := runCall_eq_some h
      rw [hcalls, List.mem_singleton] at he
      subst he
      rw [Stmt.calls, hproto]
      exact List.mem_cons_self
  | .ifStmt ifguard trueBlock falseBlock, m, o, h, he => by
      rw [runStmt] at h
      obtain ⟨v, -, h⟩ := Option.bind_eq_some_iff.mp h
      rw [Stmt.calls]
      split at h
      · exact List.mem_append_right _ (mem_blockCalls_of_run hproto falseBlock m o h he)
      · exact List.mem_append_left _ (mem_blockCalls_of_run hproto trueBlock m o h he)
  | .ret none, m, o, h, he => by
      rw [runStmt] at h
      obtain rfl := Option.some.inj h
      cases he
  | .ret (some e'), m, o, h, he => by
      rw [runStmt] at h
      obtain ⟨v, -, h⟩ := Option.bind_eq_some_iff.mp h
      obtain rfl := Option.some.inj h
      cases he

/-- A call of a function with a known prototype stands in the code. -/
lemma mem_blockCalls_of_run {e : CallEvent} {params : List Typ}
    (hproto : calleeParams e.fn = some params) :
    ∀ (ss : List Stmt) (m : Mem) (o : RunResult), runBlock M ss m = some o → e ∈ o.calls →
      ⟨params, e.args⟩ ∈ blockCalls ss
  | [], m, o, h, he => by
      rw [runBlock] at h
      obtain rfl := Option.some.inj h
      cases he
  | s :: ss, m, o, h, he => by
      rw [runBlock_cons] at h
      obtain ⟨o₁, hs, h⟩ := Option.bind_eq_some_iff.mp h
      rw [blockCalls]
      rcases RunResult.mem_thenRun h he with he | ⟨-, o₂, hss, he, -⟩
      · exact List.mem_append_left _ (mem_calls_of_run hproto s m o₁ hs he)
      · exact List.mem_append_right _ (mem_blockCalls_of_run hproto ss o₁.mem o₂ hss he)

end

end

/-! ## The parts of a stub -/

/-- With the test framework, the body of a stub calls the check, goes to the kernel where the check
returns zero, and returns its variable. -/
def StubShape (env : Temp → Temp) (f : Fundec) (body : List Stmt) : Prop :=
  ∃ before block, blockCalls before = [] ∧
    blockCalls block = [⟨tfArgs f.rettyp f.args, stubCheckArgs env f 1⟩] ∧
    body = before ++
      (mkCallStmt (some (lvalifyVarinfo (env (callKernelTemp f.vname)).varinfo))
        (expifyVarinfo (checkFnPtr f)) (stubCheckArgs env f 0) ::
      mkIfStmt (.eqZero (expifyVarinfo (env (callKernelTemp f.vname)).varinfo)) block [] ::
      genEnableTrackperf 22 :: [.ret ((retvalVar env f).map expifyVarinfo)])

section

variable {g : DataChunk} {env : Temp → Temp} {f : Fundec}

/-- The precondition of a stub is the lookup and one call, whose result is the flag. -/
lemma asks_precondition (htest : g.gTestFramework = true) (prepostfn : String) :
    Asks (Temp.hashkey g) env
      (genConditions g f f .stub prepostfn 0 (f.sformals.map lvalifyVarinfo))
      (conditionTemps g f (retvalTemp f))
      fun ss => ∃ lookup, blockCalls [lookup] = [] ∧ ss = [lookup,
        mkCallStmt (some (lvalifyVarinfo (env (callKernelTemp f.vname)).varinfo))
          (expifyVarinfo (checkFnPtr f)) (stubCheckArgs env f 0)] := by
  unfold genConditions conditionTemps
  rw [if_pos htest, if_pos htest]
  refine (asks_epArgs_stub 0).bind fun args => ?_
  rw [← List.append_nil [callKernelTemp f.vname]]
  refine (asks_getLocalVariable intType "_call_kernel_fn_").bind fun vi => asks_pure _ ?_
  rintro rfl rfl
  have hlookup : ∀ name, Generated env f [] [] [] [genLookupMJRcheck f name (checkFnPtr f)] :=
    generated_lookup
  exact ⟨_, (hlookup _).checks, rfl⟩

/-- The flag decides whether the kernel is called. -/
lemma asks_ifStmts (htest : g.gTestFramework = true) (block : List Stmt) :
    Asks (Temp.hashkey g) env (genIfStmts g f block) (conditionTemps g f [])
      (· = [mkIfStmt (.eqZero (expifyVarinfo (env (callKernelTemp f.vname)).varinfo))
        block []]) := by
  unfold genIfStmts conditionTemps
  rw [if_pos htest, if_pos htest]
  refine (asks_getLocalVariable intType "_call_kernel_fn_").bind fun vi => asks_pure _ ?_
  rintro rfl
  rfl

/-- The value returned is that of the stub's variable. -/
lemma asks_retstmt : Asks (Temp.hashkey g) env (genStubRetstmt g f) (retvalTemp f)
    (· = .ret ((retvalVar env f).map expifyVarinfo)) := by
  unfold genStubRetstmt
  rw [← List.append_nil (retvalTemp f)]
  refine asks_stubGetRetval.bind fun retvalViOption => asks_pure _ ?_
  rintro rfl
  rfl

/-- **The shape of a stub**, in what its body asks for. -/
lemma asks_stubShape (htest : g.gTestFramework = true) :
    Asks (Temp.hashkey g) env (genNamedStubBody g f) (stubAsks g f) (StubShape env f) := by
  unfold genNamedStubBody stubAsks
  refine asks_genInitZero.bind fun stmtsInit => ?_
  refine (asks_precondition htest "0").bind fun stmtsPreconditions => ?_
  refine (asks_genCallEnterExitDriver "gen_exit_driver" 0 .stub).bind fun stmtsExitDriver => ?_
  refine asks_genRunKernelFn.bind fun stmtsMainStmts => ?_
  refine (asks_genConditions (asks_epArgs_stub 1) usesOnly_stubCheckArgs).bind
    fun stmtsPostconditions => ?_
  refine (asks_genCallEnterExitDriver "gen_enter_driver" 0 .stub).bind fun stmtsEnterDriver => ?_
  refine asks_retstmt.bind fun stmtRet => ?_
  rw [← List.append_nil (conditionTemps g f [])]
  refine (asks_ifStmts htest _).bind fun ifStmts => asks_pure _ ?_
  rintro rfl rfl henter hpost hmain hexit ⟨lookup, hlookup, rfl⟩ hinit
  refine ⟨[genDisableTrackperf 21] ++ stmtsInit ++ stubFnPtrConversion g.gTestFramework g.comps
    (stripPrefixTry f.vname stubwrapperPrefix) f.sformals ++ [lookup],
    stmtsExitDriver ++ stmtsMainStmts ++ stmtsPostconditions ++ stmtsEnterDriver, ?_, ?_, ?_⟩
  · have hconvert : Generated env f [] [] [] (stubFnPtrConversion g.gTestFramework g.comps
        (stripPrefixTry f.vname stubwrapperPrefix) f.sformals) := generated_stubFnPtrConversion
    rw [blockCalls_append, blockCalls_append, blockCalls_append, hinit.checks, hconvert.checks,
      hlookup]
    rfl
  · rw [blockCalls_append, blockCalls_append, blockCalls_append, hexit.checks, hmain.checks,
      hpost.checks, henter.checks, conditionCalls, if_pos htest]
    rfl
  · simp only [List.append_assoc, List.cons_append, List.nil_append]

/-! ## Bypassed stubs -/

variable {M : Machine} {m : Mem}

/-- A local variable has the value at its location. -/
lemma evalExp_local {v : Varinfo} (h : v.vglob = false) :
    evalExp M m (expifyVarinfo v) = some (m v.loc) := by
  obtain ⟨vname, vtype, vglob⟩ := v
  obtain rfl := h
  simp only [expifyVarinfo, expifyLval, lvalifyVarinfo, evalExp, Lval.function?, evalLval,
    Option.map_some]

lemma evalExp_addrOf (v : Varinfo) :
    evalExp M m (mkAddrOrStartOf (lvalifyVarinfo v)) = some (.ptr v.loc) := by
  unfold mkAddrOrStartOf
  split <;> simp only [mkAddrOf, lvalifyVarinfo, evalExp, evalLval, Option.map_some]

lemma evalExps_cons {e : Exp} {es : List Exp} {values : List Val}
    (h : evalExps M m (e :: es) = some values) :
    ∃ v vs, evalExp M m e = some v ∧ evalExps M m es = some vs ∧ values = v :: vs := by
  rw [evalExps, List.mapM_cons] at h
  obtain ⟨v, hv, h⟩ := Option.bind_eq_some_iff.mp h
  obtain ⟨vs, hvs, h⟩ := Option.bind_eq_some_iff.mp h
  exact ⟨v, vs, hv, hvs, (Option.some.inj h).symm⟩

/-- The check is called with its name, the condition and the address of the return value. -/
lemma evalExps_stubCheckArgs (hret : f.rettyp.isVoid = false) {condition : ℤ} {values : List Val}
    (h : evalExps M m (stubCheckArgs env f condition) = some values) :
    ∃ rest, values = .str f.vname :: .int condition ::
      .ptr (env ⟨f.vname, "_retval_", f.rettyp⟩).varinfo.loc :: rest := by
  have hargs : stubCheckArgs env f condition = .str f.vname :: .int condition ::
      mkAddrOrStartOf (lvalifyVarinfo (env ⟨f.vname, "_retval_", f.rettyp⟩).varinfo) ::
        (f.sformals.map lvalifyVarinfo).map mkAddrOrStartOf := by
    rw [stubCheckArgs, retvalVar, hret]
    rfl
  rw [hargs] at h
  obtain ⟨v, vs, hname, hvs, rfl⟩ := evalExps_cons h
  obtain ⟨v', vs', hcondition, hvs', rfl⟩ := evalExps_cons hvs
  obtain ⟨v'', rest, hretval, -, rfl⟩ := evalExps_cons hvs'
  rw [evalExp_addrOf] at hretval
  simp only [evalExp, Option.some.injEq] at hname hcondition hretval
  subst hname hcondition hretval
  exact ⟨rest, rfl⟩

/-- A condition that compares a variable with zero, where the variable is not zero. -/
lemma run_mkIfStmt {k : Varinfo} (hk : k.vglob = false) {block : List Stmt} {o : RunResult}
    (hnonzero : (m k.loc).isZero = false)
    (h : runStmt M (mkIfStmt (.eqZero (expifyVarinfo k)) block []) m = some o) :
    o.flow = .next ∧ o.mem = m := by
  rw [mkIfStmt, runStmt, evalExp, evalExp_local hk, Option.map_some, Option.bind_eq_bind,
    Option.bind_some, Val.isZero_ofBool, hnonzero, Bool.not_false, if_pos rfl, runBlock] at h
  obtain rfl := Option.some.inj h
  exact ⟨rfl, rfl⟩

/-- Turning the measurements on changes no variable. -/
lemma run_enableTrackperf {mode : ℤ} {o : RunResult}
    (h : runStmt M (genEnableTrackperf mode) m = some o) : o.flow = .next ∧ o.mem = m := by
  rw [genEnableTrackperf, mkCallStmt, runStmt] at h
  obtain ⟨callee, values, result, after, hcallee, -, hexec, hflow, -, hmem⟩ := runCall_eq_some h
  rw [expifyVarinfo, expifyLval, lvalifyVarinfo, globalFn, evalExp] at hcallee
  obtain rfl := Option.some.inj hcallee
  refine ⟨hflow, ?_⟩
  rcases hmem with ⟨-, hmem⟩ | ⟨lv, l, hnone, -⟩
  · rw [hmem, M.trackperf_frame _ _ _ _ hexec]
  · cases hnone

/-- What is left of a stub after a check that did not return zero. -/
lemma run_bypassed {k v : Varinfo} (hk : k.vglob = false) (hv : v.vglob = false)
    {block : List Stmt} {o : RunResult} (hnonzero : (m k.loc).isZero = false)
    (h : runBlock M (mkIfStmt (.eqZero (expifyVarinfo k)) block [] :: genEnableTrackperf 22 ::
      [.ret (some (expifyVarinfo v))]) m = some o) :
    o.flow = .ret (some (m v.loc)) := by
  rw [runBlock_cons] at h
  obtain ⟨o₁, hif, hthen⟩ := Option.bind_eq_some_iff.mp h
  obtain ⟨hflow₁, hmem₁⟩ := run_mkIfStmt hk hnonzero hif
  obtain ⟨r₁, hrest, rfl⟩ := RunResult.thenRun_of_next hflow₁ hthen
  rw [runBlock_cons, hmem₁] at hrest
  obtain ⟨o₂, htrack, hthen⟩ := Option.bind_eq_some_iff.mp hrest
  obtain ⟨hflow₂, hmem₂⟩ := run_enableTrackperf htrack
  obtain ⟨r₂, hlast, rfl⟩ := RunResult.thenRun_of_next hflow₂ hthen
  rw [runBlock_cons, runStmt, evalExp_local hv, hmem₂] at hlast
  obtain ⟨o₃, hret, hlast⟩ := Option.bind_eq_some_iff.mp hlast
  obtain rfl := Option.some.inj hret
  obtain rfl := Option.some.inj hlast
  rfl

/-- The statement that calls the check: its only call, and the memory after it. -/
lemma run_check {k : Varinfo} {args : List Exp} {o : RunResult}
    (h : runStmt M (mkCallStmt (some (lvalifyVarinfo k)) (expifyVarinfo (checkFnPtr f)) args) m =
      some o) :
    ∃ e, o.flow = .next ∧ o.calls = [e] ∧ evalExps M m args = some e.values ∧
      o.mem = e.after.store k.loc e.result := by
  rw [mkCallStmt, runStmt] at h
  obtain ⟨callee, values, result, after, -, hvalues, -, hflow, hcalls, hmem⟩ := runCall_eq_some h
  refine ⟨_, hflow, hcalls, hvalues, ?_⟩
  rcases hmem with ⟨hnone, -⟩ | ⟨lv, l, hlv, hl, hmem⟩
  · cases hnone
  · obtain rfl := Option.some.inj hlv
    rw [lvalifyVarinfo, evalLval] at hl
    obtain rfl := Option.some.inj hl
    exact hmem

/-- The calls of the check after the one of the precondition have the condition 1. -/
lemma not_precondition_of_later {k : Varinfo} {v : Option Varinfo} {block : List Stmt}
    (hblock : blockCalls block = [⟨tfArgs f.rettyp f.args, stubCheckArgs env f 1⟩])
    {o : RunResult} (h : runBlock M (mkIfStmt (.eqZero (expifyVarinfo k)) block [] ::
      genEnableTrackperf 22 :: [.ret (v.map expifyVarinfo)]) m = some o)
    {e : CallEvent} (he : e ∈ o.calls) : ¬ e.IsPrecondition f := by
  rintro ⟨hfn, hargs⟩
  have hproto : calleeParams e.fn = some (tfArgs f.rettyp f.args) := by
    rw [hfn, calleeParams_checkFnPtr]
  have hmem := mem_blockCalls_of_run hproto _ m o h he
  have hpost : (⟨tfArgs f.rettyp f.args, e.args⟩ : ProtoCall) ∈
      [⟨tfArgs f.rettyp f.args, stubCheckArgs env f 1⟩] := by
    rw [← hblock]
    simpa [blockCalls, mkIfStmt, Stmt.calls, genEnableTrackperf, mkCallStmt, calleeParams,
      expifyVarinfo, expifyLval, lvalifyVarinfo, globalFn] using hmem
  have heq : e.args = stubCheckArgs env f 1 :=
    congrArg ProtoCall.args (List.mem_singleton.mp hpost)
  rw [heq, stubCheckArgs] at hargs
  simp at hargs

/-- Where the check did not return zero, the stub returns what is in its variable for the return
value once the result of the check is stored. -/
lemma bypassed_run {body : List Stmt} (hshape : StubShape env f body)
    (hret : f.rettyp.isVoid = false) {o : RunResult} (hrun : runBlock M body m = some o)
    {e : CallEvent} (he : e ∈ o.calls) (hpre : e.IsPrecondition f)
    (hnonzero : e.result.isZero = false) :
    (∃ rest, e.values = .str f.vname :: .int 0 ::
        .ptr (env ⟨f.vname, "_retval_", f.rettyp⟩).varinfo.loc :: rest) ∧
      o.flow = .ret (some ((e.after.store (env (callKernelTemp f.vname)).varinfo.loc e.result)
        (env ⟨f.vname, "_retval_", f.rettyp⟩).varinfo.loc)) := by
  obtain ⟨before, block, hbefore, hblock, rfl⟩ := hshape
  have hproto : calleeParams e.fn = some (tfArgs f.rettyp f.args) := by
    rw [hpre.1, calleeParams_checkFnPtr]
  rw [runBlock_append] at hrun
  obtain ⟨o₁, hrunBefore, hrun⟩ := Option.bind_eq_some_iff.mp hrun
  -- no check is called before the precondition
  have hnotBefore : e ∉ o₁.calls := by
    intro he
    have hmem := mem_blockCalls_of_run hproto before m o₁ hrunBefore he
    rw [hbefore] at hmem
    cases hmem
  rcases RunResult.mem_thenRun hrun he with he | ⟨-, o₂, hrest, he, hflow⟩
  · exact absurd he hnotBefore
  rw [← hflow]
  rw [runBlock_cons] at hrest
  obtain ⟨o₃, hcheck, hrest⟩ := Option.bind_eq_some_iff.mp hrest
  obtain ⟨e', hnext, hcalls, hvalues, hmem⟩ := run_check hcheck
  obtain ⟨o₄, hafter, rfl⟩ := RunResult.thenRun_of_next hnext hrest
  rw [hcalls] at he
  rcases List.mem_cons.mp he with rfl | he
  · have hretval : retvalVar env f = some (env ⟨f.vname, "_retval_", f.rettyp⟩).varinfo := by
      rw [retvalVar, hret]
      rfl
    have hset : (o₃.mem (env (callKernelTemp f.vname)).varinfo.loc).isZero = false := by
      rw [hmem, Mem.store, Function.update_self]
      exact hnonzero
    rw [hretval, Option.map_some] at hafter
    rw [← hmem]
    exact ⟨evalExps_stubCheckArgs hret hvalues, run_bypassed (o := o₄) rfl rfl hset hafter⟩
  · exact absurd hpre (not_precondition_of_later hblock hafter he)

/-- **A bypassed stub**, from the table of local variables that it was generated with. -/
theorem bypassed_stub_value {vi : Proto} {made₀ made : List Temp} {F : GenFunction}
    (hstub : genStub g vi.vname vi.vtype made₀ = .ok (F, made))
    (hret : vi.vtype.ret.isVoid = false) {o : RunResult} (hrun : runBlock M F.body m = some o)
    {e : CallEvent} (he : e ∈ o.calls) (hpre : e.IsPrecondition F.fundec)
    (hnonzero : e.result.isZero = false) :
    (∃ rest, e.values = .str F.fundec.vname :: .int 0 ::
        .ptr (stubRetval g made F.fundec).loc :: rest) ∧
      o.flow = .ret (some
        (if (stubRetval g made F.fundec).vname = (stubCallKernelFn g made F.fundec).vname then
          e.result
        else e.after (stubRetval g made F.fundec).loc)) := by
  by_cases htest : g.gTestFramework = true
  · have hasks : Asks (Temp.hashkey g) (first (Temp.hashkey g) made)
        (genStub g vi.vname vi.vtype) (stubAsks g vi.stub) _ :=
      asks_genStub_of (asks_stubShape htest)
    obtain ⟨hfundec, hshape⟩ := (hasks made₀ F made hstub).2 (agrees_first_made _ made)
    rw [hfundec] at hpre ⊢
    obtain ⟨hvalues, hflow⟩ := bypassed_run hshape hret hrun he hpre hnonzero
    refine ⟨hvalues, ?_⟩
    rw [hflow, Mem.store, Function.update_apply]
    refine congrArg (fun v => Flow.ret (some v)) (if_congr ?_ rfl rfl)
    exact ⟨Loc.local.inj, congrArg Loc.local⟩
  · -- no check is called
    have hasks : Asks (Temp.hashkey g) (first (Temp.hashkey g) made)
        (genStub g vi.vname vi.vtype) (stubAsks g vi.stub) _ := asks_genStub vi
    obtain ⟨hfundec, hbody⟩ := (hasks made₀ F made hstub).2 (agrees_first_made _ made)
    have hproto : calleeParams e.fn = some (tfArgs F.fundec.rettyp F.fundec.args) := by
      rw [hpre.1, calleeParams_checkFnPtr]
    have hmem := mem_blockCalls_of_run hproto F.body m o hrun he
    rw [hbody.checks, conditionCalls, conditionCalls, if_neg htest, if_neg htest] at hmem
    cases hmem

end

end SymDrive.Cil.Splitter
