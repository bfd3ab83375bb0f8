import Mathlib.Data.List.Sort
import SymDrive.Cil.Prioritization

/-!
# The instrumented driver

The passes of `root_annot_dri.ml` that decide which functions are wrapped, stubbed and registered,
and the bodies that `splitter_dri.ml` fills in, as far as the function tracker is concerned.  The
input is the file after `pass_remove_calls` and `pass_remove_fn_bodies`.

A `varinfo` is one mutable record that every declaration of the function holds: a pass that renames
it renames all of them.  Here `vid` says which records are the same, and a pass that renames returns
the new names.

Of a type only what the passes branch on is kept: whether it is a `TFun` (the name of a function
type is none, and the passes look no further), whether it lists its arguments, whether it takes a
variable number of them, and, for each function pointer that `stub_convert_arg` finds behind the
arguments, the two strings it is converted with.  Arguments of the generated calls that are only
printed, the calls of `s2e_*` and what the bodies do to return values are left out.
`nonstub_fns` and `annots` are tables that other passes build: they are arguments.
-/

namespace SymDrive.Cil

open Checked

/-! ## The file -/

inductive Typ where
  /-- `TFun`; of the arguments, where it lists them, the pairs of strings for `gen_convert_fn`. -/
  | tFun (argsopt : Option (List (String × String))) (isvararg : Bool)
  | other
  deriving DecidableEq, Repr

/-- Which record a `varinfo` is: one of the source file, or the one a pass made under this name. -/
inductive Vid where
  | source (n : ℕ)
  | made (name : String)
  deriving DecidableEq, Repr

structure Varinfo where
  vid : Vid
  vname : String
  vtype : Typ
  deriving DecidableEq, Repr

inductive Global where
  | gVarDecl (vi : Varinfo)
  /-- A function definition, with the functions its body calls by name. -/
  | gFun (svar : Varinfo) (calls : List String)
  | other
  deriving DecidableEq, Repr

/-- The prototype of a function. -/
def Global.declaration? : Global → Option Varinfo
  | .gVarDecl vi =>
      match vi.vtype with
      | .tFun _ _ => some vi
      | .other => none
  | .gFun _ _ => none
  | .other => none

def Global.definition? : Global → Option Varinfo
  | .gVarDecl _ => none
  | .gFun svar _ => some svar
  | .other => none

def Global.calls : Global → List String
  | .gVarDecl _ => []
  | .gFun _ calls => calls
  | .other => []

/-- The functions that a list of globals defines. -/
def definitions (globals : List Global) : List Varinfo := globals.filterMap Global.definition?

/-! ## Names -/

def prefnPrefix : String := "prefn_"

def postfnPrefix : String := "postfn_"

def stubwrapperPrefix : String := "stubwrapper_"

/-- None of the prefixes has a character that is special in a regular expression. -/
def containsPrefix (s pre : String) : Bool := pre.toList.isPrefixOf s.toList

def stripPrefix (s pre : String) : Except Fatal String :=
  if containsPrefix s pre then .ok (String.ofList (s.toList.drop pre.toList.length))
  else .error ("Cannot strip prefix in " ++ s)

def stripPrefixTry (s pre : String) : String :=
  if containsPrefix s pre then String.ofList (s.toList.drop pre.toList.length) else s

/-! ## Functions of the kernel -/

/-- `pass_find_funcs_with_no_fundecs`: declared, called, and not defined. -/
def findFuncsWithNoFundecs (globals : List Global) : List Varinfo :=
  let allDefinitions := (definitions globals).map Varinfo.vname
  let allCalled := globals.flatMap Global.calls
  let funcs := (globals.filterMap Global.declaration?).filter fun decl =>
    decl.vname ∉ allDefinitions ∧ decl.vname ∈ allCalled
  funcs.insertionSort fun s1 s2 => s1.vname ≤ s2.vname

/-! ## Pairs of `prefn` and `postfn` -/

structure Prepostfn where
  prefn : String
  postfn : String
  deriving DecidableEq, Repr

/-- `create_prepostfn_function`, both times, for the function `vi`. -/
def createPrepostfn (vi : Varinfo) : Prepostfn where
  prefn := prefnPrefix ++ vi.vname
  postfn := postfnPrefix ++ vi.vname

def prototype (name : String) : Global :=
  .gVarDecl { vid := .made name, vname := name, vtype := .tFun (some []) false }

/-- `setup_prepostfn` puts the two prototypes in front of the global that was found. -/
def setupPrepostfn (vi : Varinfo) (tail : List Global) : List Global × List Prepostfn :=
  let pair := createPrepostfn vi
  (prototype pair.prefn :: prototype pair.postfn :: tail, [pair])

/-- `search` of `insert_prepostfn_proto`: the first declaration or definition of `name`. -/
def insertPrepostfnProto (name : String) :
    List Global → Except Fatal (List Global × List Prepostfn)
  | [] => .ok ([], [])
  | .gVarDecl vi :: remainder =>
      if vi.vname = name then
        match vi.vtype with
        | .tFun _ _ => .ok (setupPrepostfn vi (.gVarDecl vi :: remainder))
        | .other => .error ("Specified " ++ name ++ " but did not get a function.")
      else (insertPrepostfnProto name remainder).map fun r => (.gVarDecl vi :: r.1, r.2)
  | .gFun svar calls :: remainder =>
      if svar.vname = name then .ok (setupPrepostfn svar (.gFun svar calls :: remainder))
      else (insertPrepostfnProto name remainder).map fun r => (.gFun svar calls :: r.1, r.2)
  | .other :: remainder =>
      (insertPrepostfnProto name remainder).map fun r => (.other :: r.1, r.2)

/-- The fields of `pass_add_prepostfn`. -/
structure PrepostfnState where
  globals : List Global
  prepostfnFuncs : List Prepostfn
  nonPrepostfnFuncs : List Varinfo

/-- `vfunc` of `pass_add_prepostfn`.  Both lists grow at the head. -/
def vfunc (nonstubFns : List String) (st : PrepostfnState) (svar : Varinfo) :
    Except Fatal PrepostfnState :=
  if svar.vname ∈ nonstubFns then .ok st
  else do
    let r ← insertPrepostfnProto svar.vname st.globals
    .ok { globals := r.1, prepostfnFuncs := r.2 ++ st.prepostfnFuncs,
          nonPrepostfnFuncs := svar :: st.nonPrepostfnFuncs }

/-- `pass_add_prepostfn` visits the definitions of the file as it was before. -/
def addPrepostfn (nonstubFns : List String) (globals : List Global) :
    Except Fatal PrepostfnState :=
  (definitions globals).foldlM (vfunc nonstubFns)
    { globals := globals, prepostfnFuncs := [], nonPrepostfnFuncs := [] }

/-! ## Stubs -/

/-- A stub: its name and the function pointers behind its arguments. -/
structure Stub where
  vname : String
  fnPtrs : List (String × String)
  deriving DecidableEq, Repr

/-- The current name of every `varinfo`, and the field `stub_funcs`. -/
structure StubState where
  vname : Varinfo → String
  stubFuncs : List Stub

/-- `rename_stub`. -/
def renameStub (vname : Varinfo → String) (vi : Varinfo) : Varinfo → String := fun w =>
  if w.vid = vi.vid then stubwrapperPrefix ++ vname vi else vname w

/-- `gen_empty_stub`, which makes a stub of its name and its arguments.  `setFunctionType` wants a
list of arguments. -/
def genEmptyStub {α β : Type} (make : String → α → β) (stubName : String) (argsopt : Option α) :
    Except Fatal β :=
  match argsopt with
  | some al => .ok (make stubName al)
  | none => .error ("Function that's a problem 2: " ++ stubName)

/-- `gen_stub`: the original kernel function is renamed, the stub is a new function of that name. -/
def genStub (nonstubFns : List String) (st : StubState) (vi : Varinfo) :
    Except Fatal StubState :=
  match vi.vtype with
  | .tFun argsopt isvararg =>
      if isvararg = false ∧ st.vname vi ∉ nonstubFns then do
        let vname := renameStub st.vname vi
        let newStub ← genEmptyStub Stub.mk (vname vi) argsopt
        .ok { vname := vname, stubFuncs := st.stubFuncs ++ [newStub] }
      else .ok st
  | .other => .error "splitFunctionType invoked on a non function type"

/-- `pass_add_stubs`. -/
def addStubs (nonstubFns : List String) (funcsWithNoFundecs : List Varinfo) :
    Except Fatal StubState :=
  funcsWithNoFundecs.foldlM (genStub nonstubFns) { vname := Varinfo.vname, stubFuncs := [] }

/-- The record under its current name. -/
def Varinfo.renamed (vname : Varinfo → String) (vi : Varinfo) : Varinfo :=
  { vi with vname := vname vi }

def Global.renamed (vname : Varinfo → String) : Global → Global
  | .gVarDecl vi => .gVarDecl (vi.renamed vname)
  | .gFun svar calls => .gFun (svar.renamed vname) calls
  | .other => .other

/-- The prototype that `add_kern` makes for the function a stub declaration stands for. -/
def Global.origKernfnProto? : Global → Option Varinfo
  | .gVarDecl vi =>
      if containsPrefix vi.vname stubwrapperPrefix then
        let kernelFnName := stripPrefixTry vi.vname stubwrapperPrefix
        some { vid := .made kernelFnName, vname := kernelFnName, vtype := vi.vtype }
      else none
  | .gFun _ _ => none
  | .other => none

/-- `pass_add_orig_kernfn_protos`: each prototype stands in front of the stub declaration. -/
def addOrigKernfnProtos (globals : List Global) : List Global :=
  globals.flatMap fun g =>
    match g.origKernfnProto? with
    | some vi => [.gVarDecl vi, g]
    | none => [g]

/-! ## `gen_register_all` -/

/-- A call of `gen_register_one`.  The first two arguments are the addresses of functions. -/
structure RegisterOne where
  wrapperFn : String
  driverFn : String
  wrapperFnStr : String
  driverFnStr : String
  deriving DecidableEq, Repr

/-- `List.map2`. -/
def map2 {α β γ : Type} (f : α → β → γ) : List α → List β → Except Fatal (List γ)
  | [], [] => .ok []
  | a :: as, b :: bs => (map2 f as bs).map (f a b :: ·)
  | [], _ :: _ => .error "List.map2"
  | _ :: _, [] => .error "List.map2"

def mkRegisterAllPrepostfnStmts (prepostfnFuncs : List Prepostfn)
    (nonPrepostfnFuncs : List Varinfo) : Except Fatal (List RegisterOne) :=
  map2 (fun marshFn (origFn : Varinfo) =>
      { wrapperFn := marshFn, driverFn := origFn.vname, wrapperFnStr := marshFn,
        driverFnStr := origFn.vname })
    (prepostfnFuncs.map Prepostfn.prefn) nonPrepostfnFuncs

/-- `create_register_one` of `mk_register_all_stub_stmts`. -/
def registerOneStub (origKernfnProtos : List Varinfo) (origFn : Stub) :
    Except Fatal RegisterOne :=
  let stripped := stripPrefixTry origFn.vname stubwrapperPrefix
  match origKernfnProtos.find? fun vi => vi.vname = stripped with
  | some kernFnVi =>
      .ok { wrapperFn := kernFnVi.vname, driverFn := origFn.vname,
            wrapperFnStr := kernFnVi.vname, driverFnStr := stripped }
  | none => .error ("Failed to find kernel prototype: \n" ++ origFn.vname)

/-- `mk_register_all_fundec`, as far as it registers functions. -/
def mkRegisterAll (prepostfnFuncs : List Prepostfn) (nonPrepostfnFuncs : List Varinfo)
    (stubFuncs : List Stub) (origKernfnProtos : List Varinfo) :
    Except Fatal (List RegisterOne) := do
  let registerOnePrepostfnStmts ← mkRegisterAllPrepostfnStmts prepostfnFuncs nonPrepostfnFuncs
  let registerOneStubStmts ← stubFuncs.mapM (registerOneStub origKernfnProtos)
  .ok (registerOnePrepostfnStmts ++ registerOneStubStmts)

/-! ## Generated bodies -/

/-- The statements of a generated body; `fn` is the function whose check routine is called. -/
inductive GenInstr where
  | genEnterDriver
  | genExitDriver
  | genConvertFn (str1 str2 : String)
  /-- `if (check_fn_fn == 0) check_fn_fn = gen_lookup_MJRcheck(prepostfn, &fn)` -/
  | genLookupMJRcheck (prepostfn fn : String)
  /-- `_call_kernel_fn_ = check_fn_fn(...)` -/
  | callMJRcheck (fn : String) (condition : ℕ)
  | runKernelFn (kernelFunction : String)
  deriving DecidableEq, Repr

inductive GenStmt where
  | instr (i : GenInstr)
  /-- `if (_call_kernel_fn_ == 0)` -/
  | ifCallKernelFn (body : List GenInstr)
  deriving DecidableEq, Repr

/-- What the code generator reads: the annotated functions and the flag `g_test_framework`. -/
structure SplitArgs where
  annots : String → Option String
  gTestFramework : Bool

/-- `run_MJRcheck_fn`. -/
def runMJRcheckFn (curFn prepostfn : String) (condition : ℕ) : List GenInstr :=
  let ifStmtList := if condition = 0 then [.genLookupMJRcheck prepostfn curFn] else []
  ifStmtList ++ [.callMJRcheck curFn condition]

section

variable (a : SplitArgs)

/-- `gen_preconditions` and `gen_postconditions`: `gen_tf_call`. -/
def genTfCall (f prepostfnOrig : String) (condition : ℕ) : List GenInstr :=
  if a.gTestFramework then
    let contextString := (a.annots f).getD "default"
    let prepostfn := if contextString ≠ "default" then contextString else prepostfnOrig
    runMJRcheckFn f prepostfn condition
  else []

def genPrefnBody (f : String) : List GenStmt :=
  (GenInstr.genEnterDriver :: genTfCall a f "1" 0).map .instr

def genPostfnBody (f : String) : List GenStmt :=
  (genTfCall a f "1" 1 ++ [GenInstr.genExitDriver]).map .instr

def stubFnPtrConversion (f : Stub) : List GenInstr :=
  if a.gTestFramework then f.fnPtrs.map fun strs => .genConvertFn strs.1 strs.2 else []

/-- `get_kallsym_given_name`. -/
def getKallsymGivenName (globals : List Global) (symbolName : String) : Except Fatal String :=
  if globals.any fun
      | .gVarDecl vi => vi.vname = symbolName
      | .gFun _ _ => false
      | .other => false
  then .ok symbolName
  else .error "Not_found"

def genStubBody (globals : List Global) (f : Stub) : Except Fatal (List GenStmt) := do
  let symbolName ← stripPrefix f.vname stubwrapperPrefix
  let kernelFunction ← getKallsymGivenName globals symbolName
  let mainStmts := [GenInstr.genExitDriver, GenInstr.runKernelFn kernelFunction]
    ++ genTfCall a f.vname "0" 1 ++ [GenInstr.genEnterDriver]
  let ifStmts : List GenStmt :=
    if a.gTestFramework then [.ifCallKernelFn mainStmts] else mainStmts.map .instr
  .ok ((stubFnPtrConversion a f ++ genTfCall a f.vname "0" 0).map .instr ++ ifStmts)

end

/-! ### The functions a body looks up -/

def GenInstr.lookup? : GenInstr → Option String
  | .genLookupMJRcheck _ fn => some fn
  | .genEnterDriver => none
  | .genExitDriver => none
  | .genConvertFn _ _ => none
  | .callMJRcheck _ _ => none
  | .runKernelFn _ => none

def GenStmt.lookups : GenStmt → List String
  | .instr i => i.lookup?.toList
  | .ifCallKernelFn body => body.filterMap GenInstr.lookup?

def lookups (body : List GenStmt) : List String := body.flatMap GenStmt.lookups

@[simp] lemma lookups_cons (s : GenStmt) (body : List GenStmt) :
    lookups (s :: body) = s.lookups ++ lookups body := rfl

@[simp] lemma lookups_append (b₁ b₂ : List GenStmt) :
    lookups (b₁ ++ b₂) = lookups b₁ ++ lookups b₂ := List.flatMap_append

@[simp] lemma lookups_map_instr (is : List GenInstr) :
    lookups (is.map .instr) = is.filterMap GenInstr.lookup? := by
  induction is with
  | nil => rfl
  | cons i is ih =>
      rw [List.map_cons, lookups_cons, ih, GenStmt.lookups, List.filterMap_cons]
      cases i.lookup? with
      | none => rfl
      | some fn => rfl

section

variable {a : SplitArgs} {f : String}

/-- A check routine is looked up for the function it belongs to. -/
lemma lookup_genTfCall {fn prepostfnOrig : String} {condition : ℕ}
    (h : fn ∈ (genTfCall a f prepostfnOrig condition).filterMap GenInstr.lookup?) : fn = f := by
  unfold genTfCall runMJRcheckFn at h
  split_ifs at h with hflag hcond
  all_goals simp_all [GenInstr.lookup?]

/-- A postcondition uses what the precondition has looked up. -/
lemma lookups_genPostfnBody : lookups (genPostfnBody a f) = [] := by
  unfold genPostfnBody genTfCall runMJRcheckFn
  rw [lookups_map_instr]
  split_ifs with hflag hcond
  all_goals simp_all [GenInstr.lookup?]

/-- A `prefn` enters the driver before it looks anything up. -/
lemma genPrefnBody_eq : ∃ rest, genPrefnBody a f = .instr .genEnterDriver :: rest ∧
    ∀ fn ∈ lookups rest, fn = f := by
  refine ⟨_, rfl, fun fn hfn => ?_⟩
  rw [lookups_map_instr] at hfn
  exact lookup_genTfCall hfn

lemma lookup_genStubBody {globals : List Global} {stub : Stub} {body : List GenStmt}
    (h : genStubBody a globals stub = .ok body) {fn : String} (hfn : fn ∈ lookups body) :
    fn = stub.vname := by
  obtain ⟨symbolName, _, h⟩ := bind_eq_ok.mp h
  obtain ⟨kernelFunction, _, h⟩ := bind_eq_ok.mp h
  have hconvert : (stubFnPtrConversion a stub).filterMap GenInstr.lookup? = [] := by
    unfold stubFnPtrConversion
    split_ifs with hflag
    · simp [GenInstr.lookup?]
    · rfl
  have hmain : ∀ fn ∈ ([GenInstr.genExitDriver, GenInstr.runKernelFn kernelFunction]
      ++ genTfCall a stub.vname "0" 1 ++ [GenInstr.genEnterDriver]).filterMap GenInstr.lookup?,
      fn = stub.vname := by
    intro fn hfn
    rw [List.filterMap_append, List.filterMap_append, List.mem_append, List.mem_append] at hfn
    rcases hfn with (hfn | hfn) | hfn
    · simp [GenInstr.lookup?] at hfn
    · exact lookup_genTfCall hfn
    · simp [GenInstr.lookup?] at hfn
  cases h
  rw [lookups_append, lookups_map_instr, List.filterMap_append, hconvert, List.nil_append,
    List.mem_append] at hfn
  rcases hfn with hfn | hfn
  · exact lookup_genTfCall hfn
  · split_ifs at hfn with hflag
    · rw [lookups_cons] at hfn
      exact hmain fn (by simpa [GenStmt.lookups, lookups] using hfn)
    · rw [lookups_map_instr] at hfn
      exact hmain fn hfn

end

/-! ## The whole generator -/

/-- A generated function. -/
structure GenFun where
  vname : String
  body : List GenStmt
  deriving DecidableEq, Repr

/-- The file that comes out, its generated functions apart. -/
structure SplitFile where
  globals : List Global
  prefns : List GenFun
  postfns : List GenFun
  stubs : List GenFun
  registerAll : List RegisterOne

/-- The functions the file defines, each as often as it does. -/
def SplitFile.definedNames (g : SplitFile) : List String :=
  (definitions g.globals).map Varinfo.vname ++ (g.prefns ++ g.postfns ++ g.stubs).map GenFun.vname
    ++ ["gen_register_all"]

/-- `gen_prepostfn_funcs`. -/
def genPrepostfnFuncs (a : SplitArgs) (nonPrepostfnFuncs : List Varinfo)
    (prepostfnFuncs : List Prepostfn) : Except Fatal (List (GenFun × GenFun)) :=
  map2 (fun (f : Varinfo) (p : Prepostfn) =>
      (⟨p.prefn, genPrefnBody a f.vname⟩, ⟨p.postfn, genPostfnBody a f.vname⟩))
    nonPrepostfnFuncs prepostfnFuncs

/-- `gen_stubs`. -/
def genStubs (a : SplitArgs) (globals : List Global) (stubFuncs : List Stub) :
    Except Fatal (List GenFun) :=
  stubFuncs.mapM fun f => (genStubBody a globals f).map (GenFun.mk f.vname)

/-- `do_extract_rootannot`, then `do_splitting`. -/
def doSplitting (a : SplitArgs) (nonstubFns : List String) (globals : List Global) :
    Except Fatal SplitFile := do
  let funcsWithNoFundecs := findFuncsWithNoFundecs globals
  let prepost ← addPrepostfn nonstubFns globals
  let stubs ← addStubs nonstubFns funcsWithNoFundecs
  let globals := prepost.globals.map (Global.renamed stubs.vname)
  let nonPrepostfnFuncs := prepost.nonPrepostfnFuncs.map (Varinfo.renamed stubs.vname)
  let origKernfnProtos := globals.filterMap Global.origKernfnProto?
  let globals := addOrigKernfnProtos globals
  let registerAll ←
    mkRegisterAll prepost.prepostfnFuncs nonPrepostfnFuncs stubs.stubFuncs origKernfnProtos
  let newPrepostfns ← genPrepostfnFuncs a nonPrepostfnFuncs prepost.prepostfnFuncs
  let newStubs ← genStubs a globals stubs.stubFuncs
  .ok { globals := globals, prefns := newPrepostfns.map Prod.fst,
        postfns := newPrepostfns.map Prod.snd, stubs := newStubs, registerAll := registerAll }

/-! ## What is registered -/

lemma map2_map {α β γ δ : Type} {f : α → β → γ} {p : γ → δ} {q : β → δ}
    (hf : ∀ x y, p (f x y) = q y) :
    ∀ {as : List α} {bs : List β} {cs : List γ}, map2 f as bs = .ok cs → cs.map p = bs.map q
  | [], [], _, h => by
      cases h
      rfl
  | x :: as, y :: bs, _, h => by
      obtain ⟨cs, hcs, rfl⟩ := map_eq_ok.mp h
      rw [List.map_cons, List.map_cons, hf, map2_map hf hcs]

lemma mem_map2 {α β γ : Type} {f : α → β → γ} {c : γ} :
    ∀ {as : List α} {bs : List β} {cs : List γ}, map2 f as bs = .ok cs → c ∈ cs →
      ∃ x ∈ as, ∃ y ∈ bs, c = f x y
  | [], [], _, h, hc => by
      cases h
      exact absurd hc List.not_mem_nil
  | x :: as, y :: bs, _, h, hc => by
      obtain ⟨cs, hcs, rfl⟩ := map_eq_ok.mp h
      rcases List.mem_cons.mp hc with rfl | hc
      · exact ⟨x, by simp, y, by simp, rfl⟩
      · obtain ⟨x', hx', y', hy', rfl⟩ := mem_map2 hcs hc
        exact ⟨x', List.mem_cons_of_mem _ hx', y', List.mem_cons_of_mem _ hy', rfl⟩

/-- The prototypes of a pair define nothing. -/
lemma definitions_setupPrepostfn (vi : Varinfo) (tail : List Global) :
    definitions (setupPrepostfn vi tail).1 = definitions tail := rfl

lemma definitions_insertPrepostfnProto {name : String} :
    ∀ {globals : List Global} {r : List Global × List Prepostfn},
      insertPrepostfnProto name globals = .ok r → definitions r.1 = definitions globals
  | [], _, h => by
      cases h
      rfl
  | .gVarDecl vi :: remainder, r, h => by
      unfold insertPrepostfnProto at h
      split_ifs at h with hname
      · split at h
        · cases h
          exact definitions_setupPrepostfn vi _
        · cases h
      · obtain ⟨r', hr', rfl⟩ := map_eq_ok.mp h
        have ih := definitions_insertPrepostfnProto hr'
        exact ih
  | .gFun svar calls :: remainder, r, h => by
      unfold insertPrepostfnProto at h
      split_ifs at h with hname
      · cases h
        exact definitions_setupPrepostfn svar _
      · obtain ⟨r', hr', rfl⟩ := map_eq_ok.mp h
        exact congrArg (svar :: ·) (definitions_insertPrepostfnProto hr')
  | .other :: remainder, r, h => by
      obtain ⟨r', hr', rfl⟩ := map_eq_ok.mp h
      have ih := definitions_insertPrepostfnProto hr'
      exact ih

/-- The functions with a pair are the defined ones that are not on the list, the last one first. -/
lemma foldlM_vfunc {nonstubFns : List String} :
    ∀ {svars : List Varinfo} {st st' : PrepostfnState},
      svars.foldlM (vfunc nonstubFns) st = .ok st' →
        definitions st'.globals = definitions st.globals ∧
          st'.nonPrepostfnFuncs =
            (svars.filter fun svar => svar.vname ∉ nonstubFns).reverse ++ st.nonPrepostfnFuncs
  | [], _, _, h => by
      rw [List.foldlM_nil] at h
      cases h
      exact ⟨rfl, rfl⟩
  | svar :: svars, st, st', h => by
      rw [List.foldlM_cons] at h
      obtain ⟨st₁, hst₁, h⟩ := bind_eq_ok.mp h
      obtain ⟨hdefs, hfuncs⟩ := foldlM_vfunc h
      unfold vfunc at hst₁
      split_ifs at hst₁ with hname
      · cases hst₁
        exact ⟨hdefs, by simpa [hname] using hfuncs⟩
      · obtain ⟨r, hr, hst₁⟩ := bind_eq_ok.mp hst₁
        cases hst₁
        exact ⟨hdefs.trans (definitions_insertPrepostfnProto hr), by simpa [hname] using hfuncs⟩

lemma definitions_renamed (vname : Varinfo → String) (globals : List Global) :
    definitions (globals.map (Global.renamed vname)) =
      (definitions globals).map (Varinfo.renamed vname) := by
  unfold definitions
  rw [List.filterMap_map, List.map_filterMap]
  refine List.filterMap_congr fun g _ => ?_
  cases g with
  | gVarDecl vi => rfl
  | gFun svar calls => rfl
  | other => rfl

lemma definitions_addOrigKernfnProtos (globals : List Global) :
    definitions (addOrigKernfnProtos globals) = definitions globals := by
  unfold definitions addOrigKernfnProtos
  induction globals with
  | nil => rfl
  | cons g globals ih =>
      rw [List.flatMap_cons, List.filterMap_append, ih, List.filterMap_cons]
      cases g.origKernfnProto? with
      | none => cases g <;> rfl
      | some vi => cases g <;> rfl

lemma driverFn_registerOneStub {origKernfnProtos : List Varinfo} {origFn : Stub} {r : RegisterOne}
    (h : registerOneStub origKernfnProtos origFn = .ok r) : r.driverFn = origFn.vname := by
  unfold registerOneStub at h
  dsimp only at h
  split at h
  · cases h
    rfl
  · cases h

/-- The functions that `gen_register_all` registers. -/
lemma driverFn_mkRegisterAll {prepostfnFuncs : List Prepostfn} {nonPrepostfnFuncs : List Varinfo}
    {stubFuncs : List Stub} {origKernfnProtos : List Varinfo} {rs : List RegisterOne}
    (h : mkRegisterAll prepostfnFuncs nonPrepostfnFuncs stubFuncs origKernfnProtos = .ok rs) :
    rs.map RegisterOne.driverFn =
      nonPrepostfnFuncs.map Varinfo.vname ++ stubFuncs.map Stub.vname := by
  obtain ⟨rs₁, h₁, h⟩ := bind_eq_ok.mp h
  obtain ⟨rs₂, h₂, h⟩ := bind_eq_ok.mp h
  cases h
  unfold mkRegisterAllPrepostfnStmts at h₁
  have hpair := @map2_map _ _ _ _ _ RegisterOne.driverFn Varinfo.vname (fun _ _ => rfl) _ _ _ h₁
  rw [List.map_append, hpair, mapM_map (fun _ _ => driverFn_registerOneStub) h₂]

lemma genStubs_inv {a : SplitArgs} {globals : List Global} {stubFuncs : List Stub}
    {gs : List GenFun} (h : genStubs a globals stubFuncs = .ok gs) :
    gs.map GenFun.vname = stubFuncs.map Stub.vname ∧
      ∀ b ∈ gs, ∃ stub, genStubBody a globals stub = .ok b.body ∧ stub.vname = b.vname := by
  have hone : ∀ (f : Stub) (b : GenFun), (genStubBody a globals f).map (GenFun.mk f.vname) = .ok b →
      genStubBody a globals f = .ok b.body ∧ b.vname = f.vname := by
    intro f b hb
    obtain ⟨body, hbody, rfl⟩ := map_eq_ok.mp hb
    exact ⟨hbody, rfl⟩
  refine ⟨mapM_map (fun f b hb => (hone f b hb).2) h, fun b hb => ?_⟩
  obtain ⟨f, hf, hfb⟩ := mem_mapM h hb
  exact ⟨f, (hone f b hfb).1, (hone f b hfb).2.symm⟩

/-- What the passes agree on: `fns` are the functions of the driver that have a pair of `prefn` and
`postfn`, the last one first. -/
structure SplitFile.Wraps (a : SplitArgs) (g : SplitFile) (fns : List String) : Prop where
  registered : g.registerAll.map RegisterOne.driverFn = fns ++ g.stubs.map GenFun.vname
  defined : ∃ defs, fns.Perm defs ∧ defs.Sublist ((definitions g.globals).map Varinfo.vname)
  prefn : ∀ b ∈ g.prefns, ∃ fn ∈ fns, b.body = genPrefnBody a fn
  postfn : ∀ b ∈ g.postfns, ∃ fn ∈ fns, b.body = genPostfnBody a fn
  stub : ∀ b ∈ g.stubs, ∃ globals stub, genStubBody a globals stub = .ok b.body ∧
    stub.vname = b.vname

/-- The three lists that the code generator goes through are the ones that are registered. -/
theorem doSplitting_wraps {a : SplitArgs} {nonstubFns : List String} {globals : List Global}
    {g : SplitFile} (h : doSplitting a nonstubFns globals = .ok g) : ∃ fns, g.Wraps a fns := by
  unfold doSplitting at h
  dsimp only at h
  obtain ⟨prepost, hprepost, h⟩ := bind_eq_ok.mp h
  obtain ⟨stubs, -, h⟩ := bind_eq_ok.mp h
  obtain ⟨registerAll, hregister, h⟩ := bind_eq_ok.mp h
  obtain ⟨newPrepostfns, hprepostfns, h⟩ := bind_eq_ok.mp h
  obtain ⟨newStubs, hstubs, h⟩ := bind_eq_ok.mp h
  cases h
  obtain ⟨hdefs, hfuncs⟩ := foldlM_vfunc hprepost
  obtain ⟨hnames, hbodies⟩ := genStubs_inv hstubs
  refine ⟨(prepost.nonPrepostfnFuncs.map (Varinfo.renamed stubs.vname)).map Varinfo.vname,
    ?_, ?_, ?_, ?_, ?_⟩
  · rw [driverFn_mkRegisterAll hregister, hnames]
  · rw [definitions_addOrigKernfnProtos, definitions_renamed, hdefs, hfuncs, List.append_nil]
    exact ⟨_, ((List.reverse_perm _).map _).map _, (List.filter_sublist.map _).map _⟩
  · intro b hb
    obtain ⟨pair, hpair, rfl⟩ := List.mem_map.mp hb
    obtain ⟨f, hf, p, _, rfl⟩ := mem_map2 hprepostfns hpair
    exact ⟨f.vname, List.mem_map_of_mem hf, rfl⟩
  · intro b hb
    obtain ⟨pair, hpair, rfl⟩ := List.mem_map.mp hb
    obtain ⟨f, hf, p, _, rfl⟩ := mem_map2 hprepostfns hpair
    exact ⟨f.vname, List.mem_map_of_mem hf, rfl⟩
  · intro b hb
    obtain ⟨stub, hstub, hname⟩ := hbodies b hb
    exact ⟨_, stub, hstub, hname⟩

namespace SplitFile.Wraps

variable {a : SplitArgs} {g : SplitFile} {fns : List String}

/-- No function is registered twice. -/
lemma registered_nodup (hw : g.Wraps a fns) (hdefined : g.definedNames.Nodup) :
    (g.registerAll.map RegisterOne.driverFn).Nodup := by
  have hstubs : (g.stubs.map GenFun.vname).Sublist
      ((g.prefns ++ g.postfns ++ g.stubs).map GenFun.vname) :=
    (List.sublist_append_right _ _).map _
  obtain ⟨defs, hperm, hdefs⟩ := hw.defined
  have hsub : (defs ++ g.stubs.map GenFun.vname).Sublist g.definedNames :=
    (hdefs.append hstubs).trans (List.sublist_append_left _ _)
  rw [hw.registered, (hperm.append_right _).nodup_iff]
  exact hsub.nodup hdefined

/-- What is registered is defined. -/
lemma registered_defined (hw : g.Wraps a fns) {fn : String}
    (hfn : fn ∈ g.registerAll.map RegisterOne.driverFn) : fn ∈ g.definedNames := by
  rw [hw.registered, List.mem_append] at hfn
  unfold SplitFile.definedNames
  rw [List.mem_append, List.mem_append, List.map_append, List.mem_append]
  rcases hfn with hfn | hfn
  · obtain ⟨defs, hperm, hdefs⟩ := hw.defined
    exact Or.inl (Or.inl (hdefs.subset (hperm.subset hfn)))
  · exact Or.inl (Or.inr (Or.inr hfn))

/-- What a generated body looks up is registered. -/
lemma lookup_registered (hw : g.Wraps a fns) {b : GenFun}
    (hb : b ∈ g.prefns ++ g.postfns ++ g.stubs) {fn : String} (hfn : fn ∈ lookups b.body) :
    fn ∈ g.registerAll.map RegisterOne.driverFn := by
  rw [hw.registered, List.mem_append]
  rw [List.mem_append, List.mem_append] at hb
  rcases hb with (hb | hb) | hb
  · obtain ⟨f, hf, hbody⟩ := hw.prefn b hb
    obtain ⟨rest, hrest, hlook⟩ := genPrefnBody_eq (a := a) (f := f)
    rw [hbody, hrest, lookups_cons] at hfn
    rw [hlook fn hfn]
    exact Or.inl hf
  · obtain ⟨f, hf, hbody⟩ := hw.postfn b hb
    rw [hbody, lookups_genPostfnBody] at hfn
    exact absurd hfn List.not_mem_nil
  · obtain ⟨globals, stub, hbody, hname⟩ := hw.stub b hb
    rw [lookup_genStubBody hbody hfn, hname]
    exact Or.inr (List.mem_map_of_mem hb)

end SplitFile.Wraps

end SymDrive.Cil
