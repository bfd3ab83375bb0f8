import SymDrive.Cil.GeneratedFunctions

/-!
# The bodies of the generated functions

`pass_main` of `splitter_dri.ml`, which fills in the bodies of the pairs and of the stubs, and the
calls of the pairs that `pass_add_prioritization` puts into the driver.

A kernel function has a prototype in the file, which `pass_add_orig_kernfn_protos` adds.  The
`Return` of a driver function is the only one in its body, and if it returns a value, it returns a
variable: `oneret` rewrites the body so.
-/

namespace SymDrive.Cil.Splitter

/-- Which of the three bodies is generated: `prefn_postfn_stub`. -/
inductive Wrapper where
  | prefn
  | postfn
  | stub
  deriving DecidableEq, Repr

/-- A driver function with its local variables and the lvalue that it returns. -/
structure DriverFn extends Fundec where
  slocals : List Varinfo
  returned : Option Lval

/-- A generated function. -/
structure GenFunction where
  fundec : Fundec
  body : List Stmt

/-- A function whose prototype is left out. -/
def globalFn (name : String) : Varinfo := ⟨name, .tFun .tVoid none false, true⟩

/-- The pseudo-variable `__LINE__`, a macro of the preprocessor. -/
def lineVi : Varinfo := makeLocal "__LINE__" intType

section

variable (g : DataChunk)

/-! ## Calls in all bodies -/

def genEnableTrackperf (mode : ℤ) : Stmt :=
  mkCallStmt none (expifyVarinfo (globalFn "s2e_enable_trackperf"))
    [expifyVarinfo lineVi, .int mode]

def genDisableTrackperf (mode : ℤ) : Stmt :=
  mkCallStmt none (expifyVarinfo (globalFn "s2e_disable_trackperf"))
    [expifyVarinfo lineVi, .int mode]

def DataChunk.annot (fnName : String) : String := (g.annots.lookup fnName).getD "default"

def genRetvalArg (deref : Bool) : Option Varinfo → SplitM Exp
  | some retvalVi => do
      let retvalViDeref :=
        if deref then expifyLval (mkMem (expifyVarinfo retvalVi)) else expifyVarinfo retvalVi
      let supported ← supportedRetType (typeOf retvalViDeref)
      if supported then return .castE ulongType retvalViDeref else return .int 0
  | none => return .int 0

def isInterestingFn (f : Fundec) : String × String :=
  (g.interestingDriverFns.find? fun st =>
    f.vname = st.1 ∨ stripPrefixTry f.vname stubwrapperPrefix = st.1).getD ("", "")

def isNonstandardRetval (fnName : String) : Bool :=
  g.nonstandardRetvalFns.contains fnName || g.annot fnName == "interrupt_handler"

/-- The last two arguments of `gen_enter_driver` and `gen_exit_driver` that depend on the value
returned: the value, and whether it is valid. -/
def retvalArgs (origFundec wrapperFundec : Fundec) (kind : Wrapper) : SplitM (Exp × Exp) :=
  if isNonstandardRetval g origFundec.vname then return (.int 0, .int 0)
  else
    match kind with
    | .postfn => do
        let retvalVi ← postfnGetRetval origFundec wrapperFundec
        let retval ← genRetvalArg true (some retvalVi)
        let retvalValid ← postfnGetRetvalValid origFundec wrapperFundec
        return (retval, expifyVarinfo retvalValid)
    | .stub => do
        let retvalViOpt ← stubGetRetval g wrapperFundec
        let retval ← genRetvalArg false retvalViOpt
        return (retval, .int 1)
    | .prefn => return (.int 0, .int 0)

def callRetval (wrapperFundec : Fundec) (kind : Wrapper) : SplitM (Option Lval) :=
  match kind with
  | .postfn => do
      let vi ← getLocalVariable g wrapperFundec intType "exit_retval"
      return some (lvalifyVarinfo vi)
  | _ => return none

/-- `gen_enter_driver` or `gen_exit_driver`. -/
def genCallEnterExitDriver (origFundec wrapperFundec : Fundec) (callFdec : Varinfo)
    (wrapperType : ℤ) (kind : Wrapper) : SplitM (List Stmt) := do
  let (retval, retvalValid) ← retvalArgs g origFundec wrapperFundec kind
  let interestingReq := (isInterestingFn g origFundec).2
  let args := [.str (stripPrefixTry origFundec.vname stubwrapperPrefix), expifyVarinfo lineVi,
    .int wrapperType, retvalValid, retval, .str interestingReq,
    mkAddrOf (lvalifyVarinfo (globalFn "register_all"))]
  let retvalLv ← callRetval g wrapperFundec kind
  return [mkCallStmt retvalLv (expifyVarinfo callFdec) args]

def enterDriver : Varinfo := globalFn "gen_enter_driver"

def exitDriver : Varinfo := globalFn "gen_exit_driver"

/-! ## Calls of the checks -/

/-- `check_fn_setup_ptr`: the static pointer to the check of a function. -/
def checkFnPtr (curFn : Fundec) : Varinfo :=
  ⟨"check_fn_" ++ curFn.vname, .tPtr (getTfFnTyp curFn.rettyp curFn.args), true⟩

def genLookupMJRcheck (curFn : Fundec) (prepostfn : String) (retvalVi : Varinfo) : Stmt :=
  let lookup := mkCallStmt (some (lvalifyVarinfo retvalVi))
    (expifyVarinfo (globalFn "gen_lookup_MJRcheck"))
    [.str prepostfn, mkAddrOrStartOf (lvalifyVarinfo (globalFn curFn.vname))]
  mkIfStmt (.eqZero (expifyVarinfo retvalVi)) [lookup] []

def runMJRcheckFn (curFn prepostfnStub : Fundec) (prepostfn : String) (callFnArgs : List Exp)
    (condition : ℤ) : SplitM (List Stmt) := do
  let retvalVi := checkFnPtr curFn
  let ifStmtList := if condition = 0 then [genLookupMJRcheck curFn prepostfn retvalVi] else []
  let callKernelFnVi ← getLocalVariable g prepostfnStub intType "_call_kernel_fn_"
  return ifStmtList ++
    [mkCallStmt (some (lvalifyVarinfo callKernelFnVi)) (expifyVarinfo retvalVi) callFnArgs]

/-- `ep_arg3`: the argument for the value returned, unless the function returns none. -/
def epArg3 (f prepostfnStub : Fundec) (kind : Wrapper) (condition : ℤ) : SplitM (List Exp) :=
  if f.rettyp.isVoid then return []
  else
    match kind with
    | .stub => do
        let epArg3Vi ← getLocalVariable g prepostfnStub f.rettyp "_retval_"
        return [mkAddrOrStartOf (lvalifyVarinfo epArg3Vi)]
    | _ =>
        if condition = 1 then do
          let retvalVi ← postfnGetRetval f prepostfnStub
          return [expifyVarinfo retvalVi]
        else if condition = 0 then return [.int 0]
        else throw "Expected integer of 0 or 1"

/-- `ep_args`. -/
def epArgs (f prepostfnStub : Fundec) (kind : Wrapper) (condition : ℤ)
    (lvalArgslist : List Lval) : SplitM (List Exp) := do
  let epRemainingArgs :=
    if kind = .stub then lvalArgslist.map mkAddrOrStartOf else lvalArgslist.map expifyLval
  let epArg3 ← epArg3 g f prepostfnStub kind condition
  return [.str f.vname, .int condition] ++ epArg3 ++ epRemainingArgs

def genTfCall (f prepostfnStub : Fundec) (kind : Wrapper) (prepostfnOrig : String)
    (condition : ℤ) (lvalArgslist : List Lval) : SplitM (List Stmt) := do
  let contextString := g.annot f.vname
  let prepostfn := if contextString ≠ "default" then contextString else prepostfnOrig
  let args ← epArgs g f prepostfnStub kind condition lvalArgslist
  runMJRcheckFn g f prepostfnStub prepostfn args condition

/-- `gen_preconditions` (condition 0) and `gen_postconditions` (condition 1). -/
def genConditions (f prepostfnStub : Fundec) (kind : Wrapper) (prepostfn : String)
    (condition : ℤ) (argslist : List Lval) : SplitM (List Stmt) :=
  if g.gTestFramework then genTfCall g f prepostfnStub kind prepostfn condition argslist
  else return []

/-! ## Pairs -/

/-- The value that a `prefn` or `postfn` returns.  The variable is a local of `f`. -/
def genPrepostRetstmt (f : Fundec) : SplitM (List Stmt) := do
  let callKernelFnVi ← getLocalVariable g f intType "_call_kernel_fn_"
  return [.ret (some (expifyVarinfo callKernelFnVi))]

def genPrefnBody (f prepostfnFunc : Fundec) : SplitM (List Stmt) := do
  let lvalArgslist := f.sformals.map lvalifyVarinfo
  let stmtsEnterDriver ← genCallEnterExitDriver g f prepostfnFunc enterDriver 1 .prefn
  let stmtsPreconditions ← genConditions g f prepostfnFunc .prefn "1" 0 lvalArgslist
  let stmtReturn ← genPrepostRetstmt g f
  return [genDisableTrackperf 11] ++ stmtsEnterDriver ++ stmtsPreconditions ++
    [genEnableTrackperf 12] ++ stmtReturn

def genPostfnBody (f prepostfnFunc : Fundec) : SplitM (List Stmt) := do
  let lvalArgslist := f.sformals.map lvalifyVarinfo
  let stmtsPostconditions ← genConditions g f prepostfnFunc .postfn "1" 1 lvalArgslist
  let stmtsExitDriver ← genCallEnterExitDriver g f prepostfnFunc exitDriver 1 .postfn
  let stmtReturn ← genPrepostRetstmt g f
  return [genDisableTrackperf 11] ++ stmtsPostconditions ++ stmtsExitDriver ++
    [genEnableTrackperf 12] ++ stmtReturn

def genInitZero (f : Fundec) : SplitM (List Stmt) := do
  let retvalViOption ← stubGetRetval g f
  match retvalViOption with
  | none => return []
  | some retvalVi =>
      let supported ← supportedRetType f.rettyp
      if supported then return [.set (lvalifyVarinfo retvalVi) (.int 0)] else return []

def genStubRetstmt (f : Fundec) : SplitM Stmt := do
  let retvalViOption ← stubGetRetval g f
  return .ret (retvalViOption.map expifyVarinfo)

def genFnPtrCall (curFn : Fundec) (retvalVi : Varinfo) : SplitM Stmt := do
  let retvalViOption ← stubGetRetval g curFn
  return mkCallStmt (retvalViOption.map lvalifyVarinfo) (expifyVarinfo retvalVi)
    (curFn.sformals.map expifyVarinfo)

def mkMakeSymbolic (origName : String) (retTyp : Typ) (retVar : Varinfo) : List Stmt :=
  match retTyp with
  | .tInt _ =>
      [mkCallStmt none (expifyVarinfo (globalFn "gen_make_symbolic_int"))
        [.str origName, expifyVarinfo lineVi, mkAddrOrStartOf (lvalifyVarinfo retVar),
          .sizeOf retTyp]]
  | .tPtr _ =>
      [mkCallStmt none (expifyVarinfo (globalFn "gen_make_symbolic_ptr"))
        [.str origName, expifyVarinfo lineVi,
          .castE (.tPtr voidPtrType) (mkAddrOrStartOf (lvalifyVarinfo retVar))]]
  | _ => []

def genStubRetvalModification (curFn : Fundec) : SplitM (List Stmt) :=
  let origName := stripPrefixTry curFn.vname stubwrapperPrefix
  if g.nonstandardRetvalFns.contains origName then return []
  else do
    let retvalViOption ← stubGetRetval g curFn
    match retvalViOption with
    | none => return []
    | some retVar => return mkMakeSymbolic origName curFn.rettyp retVar

def genRunKernelFn (curFn : Fundec) : SplitM (List Stmt) := do
  match stripPrefix curFn.vname stubwrapperPrefix with
  | .error e => throw e
  | .ok kernelFunction =>
      let stmtFnPtrCall ← genFnPtrCall g curFn (globalFn kernelFunction)
      let stmtsRetvalModification ← genStubRetvalModification g curFn
      return [stmtFnPtrCall] ++ stmtsRetvalModification

/-- The check of `_call_kernel_fn_` around the call of the kernel. -/
def genIfStmts (f : Fundec) (ifTrueBlock : List Stmt) : SplitM (List Stmt) :=
  if g.gTestFramework then do
    let ifLhs ← getLocalVariable g f intType "_call_kernel_fn_"
    return [mkIfStmt (.eqZero (expifyVarinfo ifLhs)) ifTrueBlock []]
  else return ifTrueBlock

/-- `gen_stub_body` after `ensure_formals_have_names`. -/
def genNamedStubBody (f : Fundec) : SplitM (List Stmt) := do
  let lvalArgslist := f.sformals.map lvalifyVarinfo
  let stmtsInit ← genInitZero g f
  let stmtsFnPtrConversion := stubFnPtrConversion g.gTestFramework g.comps
    (stripPrefixTry f.vname stubwrapperPrefix) f.sformals
  let stmtsPreconditions ← genConditions g f f .stub "0" 0 lvalArgslist
  let stmtsExitDriver ← genCallEnterExitDriver g f f exitDriver 0 .stub
  let stmtsMainStmts ← genRunKernelFn g f
  let stmtsPostconditions ← genConditions g f f .stub "0" 1 lvalArgslist
  let stmtsEnterDriver ← genCallEnterExitDriver g f f enterDriver 0 .stub
  let stmtRet ← genStubRetstmt g f
  let ifStmts ← genIfStmts g f
    (stmtsExitDriver ++ stmtsMainStmts ++ stmtsPostconditions ++ stmtsEnterDriver)
  return [genDisableTrackperf 21] ++ stmtsInit ++ stmtsFnPtrConversion ++ stmtsPreconditions ++
    ifStmts ++ [genEnableTrackperf 22] ++ [stmtRet]

/-- `gen_stub` of both passes: the stub of a kernel function. -/
def genStub (name : String) (funType : FunType) : SplitM GenFunction :=
  match genEmptyStub (stubwrapperPrefix ++ name) funType with
  | .error e => throw e
  | .ok stubFunc => do
      let f := ensureFormalsHaveNames stubFunc
      let body ← genNamedStubBody g f
      return ⟨f, body⟩

/-! ## The calls of the pairs -/

end

/-! ## The whole driver -/

/-- A kernel function that the driver declares and calls: its name and type. -/
structure Proto where
  vname : String
  vtype : FunType

/-- The names of the parameters, empty where the declaration gives none. -/
def Proto.paramNames (vi : Proto) : List String := (vi.vtype.args.getD []).map Prod.fst

/-- An identifier has no white space, which the keys of local variables leave out. -/
def IsIdentifier (name : String) : Prop := stripWhitespace name = name

instance (name : String) : Decidable (IsIdentifier name) :=
  inferInstanceAs (Decidable (stripWhitespace name = name))

/-- What a function returns is a variable of its return type, which its name denotes in it. -/
def DriverFn.Returns (f : DriverFn) (lv : Lval) : Prop :=
  ∃ v, lv = .var v ∧ typeSig v.vtype = typeSig f.rettyp ∧
    if v.vglob then v.vname ∉ (f.sformals ++ f.slocals).map Varinfo.vname
    else v ∈ f.sformals ++ f.slocals

/-- The driver as the passes find it.  C and CIL see to it that the names in a function are
different, that no function is defined twice, which holds for the generated functions too, and that
none returns an array. -/
structure DriverProgram where
  fundecs : List DriverFn
  funcsWithNoFundecs : List Proto
  nonstubFnNames : List String
  names_nodup : ∀ f ∈ fundecs, ((f.sformals ++ f.slocals).map Varinfo.vname).Nodup
  formals_local : ∀ f ∈ fundecs, ∀ v ∈ f.sformals, v.vglob = false
  returned : ∀ f ∈ fundecs, ∀ lv, f.returned = some lv → f.Returns lv
  params_nodup : ∀ vi ∈ funcsWithNoFundecs, (vi.paramNames.filter (· ≠ "")).Nodup
  fundecs_ret : ∀ f ∈ fundecs, f.rettyp.isArray = false
  protos_ret : ∀ vi ∈ funcsWithNoFundecs, vi.vtype.ret.isArray = false
  identifiers : ∀ f ∈ fundecs, IsIdentifier f.vname
  fundecs_nodup : (fundecs.map fun f => f.vname).Nodup
  protos_nodup : (funcsWithNoFundecs.map Proto.vname).Nodup
  pairs_new : ∀ f ∈ fundecs, ∀ h ∈ fundecs, h.vname ∉ nonstubFnNames →
    f.vname ≠ prefnPrefix ++ h.vname ∧ f.vname ≠ postfnPrefix ++ h.vname
  stubs_new : ∀ f ∈ fundecs, ∀ vi ∈ funcsWithNoFundecs, f.vname ≠ stubwrapperPrefix ++ vi.vname

/-- `non_prepostfn_funcs`: both lists of `pass_add_prepostfn` grow at their heads. -/
def DriverProgram.nonPrepostfnFuncs (p : DriverProgram) : List DriverFn :=
  (p.fundecs.filter fun f => f.vname ∉ p.nonstubFnNames).reverse

def DriverProgram.prepostfnFuncs (p : DriverProgram) : List (Fundec × Fundec) :=
  p.nonPrepostfnFuncs.map fun f =>
    (createPrepostfnFunction f.toFundec true, createPrepostfnFunction f.toFundec false)

/-- The kernel functions that `pass_add_stubs` makes stubs for. -/
def DriverProgram.stubFuncs (p : DriverProgram) : List Proto :=
  p.funcsWithNoFundecs.filter fun vi => !vi.vtype.isvararg && vi.vname ∉ p.nonstubFnNames

/-- Whether the `Return` has a value that `can_instrument_fn` accepts. -/
def retvalExpOption (g : DataChunk) (fdec : DriverFn) : SplitM Bool :=
  match fdec.returned with
  | none => return false
  | some lv => do
      let supported ← supportedRetType (typeOfLval lv)
      return supported && !g.nonstandardRetvalFns.contains fdec.vname

end SymDrive.Cil.Splitter
