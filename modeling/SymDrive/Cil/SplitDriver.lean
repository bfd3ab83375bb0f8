import SymDrive.Cil.GeneratedScopes

/-!
# What the splitter makes of a driver

The local variables that the passes ask `get_local_variable` for, in order, and the calls and the
functions that come out.

* `asks_splitDriver` — the calls in the driver functions, the pairs and the stubs.
* `found_pairsAsk` — no driver function and no function of a pair is given the variable of another
  function.  A stub may be: the name of a type stands at the end of the key.
* `DriverProgram.Owns.slocals_perm` — the locals that a function gets.
-/

namespace SymDrive.Cil.Splitter

open Interning

/-! ## The variables of a driver -/

/-- The stub of a kernel function, before it has a body. -/
def Proto.stub (vi : Proto) : Fundec :=
  ensureFormalsHaveNames
    (mkFundec (stubwrapperPrefix ++ vi.vname) vi.vtype.ret (vi.vtype.args.getD []))

section

variable (g : DataChunk) (p : DriverProgram)

/-- What is asked for before the stubs are filled in. -/
def DriverProgram.pairsAsk : List Temp :=
  p.fundecs.flatMap (fun f => [callKernelTemp f.vname, callKernelTemp f.vname]) ++
    p.nonPrepostfnFuncs.flatMap fun f => prefnTemps g f.toFundec ++ postfnTemps g f.toFundec

/-- The local variables that the passes ask for, in the order in which they do. -/
def DriverProgram.asked : List Temp :=
  p.pairsAsk g ++ p.stubFuncs.flatMap fun vi => stubAsks g vi.stub

/-- The variable that is found for `t`: the first one that is asked for with the key of `t`. -/
def DriverProgram.found (t : Temp) : Temp := first (Temp.hashkey g) (p.asked g) t

/-- The variables that are made. -/
def DriverProgram.made : List Temp := internAll (Temp.hashkey g) [] (p.asked g)

end

/-! ## The passes -/

section

variable {g : DataChunk} {p : DriverProgram} {env : Temp → Temp}

/-- The argument for the value that is returned. -/
def retvalArg (f : DriverFn) : List Exp :=
  if f.rettyp.isVoid then [.int 0] else f.returned.toList.map mkAddrOrStartOf

/-- The parameters of a function. -/
def Fundec.params (f : Fundec) : List Typ := f.args.map Prod.snd

/-- The stub of a kernel function. -/
def IsStub (g : DataChunk) (env : Temp → Temp) (vi : Proto) (F : GenFunction) : Prop :=
  F.fundec = vi.stub ∧
    Generated env vi.stub (stubTemps g vi.stub) (stubTemps g vi.stub)
      (conditionCalls g vi.stub (stubCheckArgs env vi.stub 0) ++
        conditionCalls g vi.stub (stubCheckArgs env vi.stub 1)) F.body

/-- What is known of the body is known of the stub. -/
lemma asks_genStub_of {vi : Proto} {P : List Stmt → Prop}
    (h : Asks (Temp.hashkey g) env (genNamedStubBody g vi.stub) (stubAsks g vi.stub) P) :
    Asks (Temp.hashkey g) env (genStub g vi.vname vi.vtype) (stubAsks g vi.stub)
      fun F => F.fundec = vi.stub ∧ P F.body := by
  unfold genStub genEmptyStub Cil.genEmptyStub
  cases hargs : vi.vtype.args with
  | none => exact asks_error _
  | some al =>
      have hstub :
          ensureFormalsHaveNames (mkFundec (stubwrapperPrefix ++ vi.vname) vi.vtype.ret al) =
          vi.stub := by
        rw [Proto.stub, hargs, Option.getD_some]
      dsimp only
      rw [hstub, ← List.append_nil (stubAsks g vi.stub)]
      exact h.bind fun body => asks_pure _ fun hbody => ⟨rfl, hbody⟩

/-- A stub asks for the variables of its body. -/
lemma asks_genStub (vi : Proto) : Asks (Temp.hashkey g) env (genStub g vi.vname vi.vtype)
    (stubAsks g vi.stub) (IsStub g env vi) :=
  asks_genStub_of asks_genNamedStubBody

/-- A variable is made if it is the first one with its key. -/
lemma mem_made {t : Temp} : t ∈ p.made g ↔ t ∈ p.asked g ∧ p.found g t = t :=
  mem_internAll_iff_first _ _ _

/-- The locals that `f` gets of the variables `ts` of its own. -/
def DriverProgram.given (g : DataChunk) (p : DriverProgram) (f : Fundec) (ts : List Temp) :
    List Varinfo :=
  (ts.filter fun t => (p.found g t).fname = f.vname).map Temp.varinfo

end

/-! ## One driver -/

/-- A file without annotations, with a printer that knows one type. -/
def plainChunk (gTestFramework : Bool) : DataChunk where
  gTestFramework := gTestFramework
  typTostringNoattr := fun _ => "int"
  comps := fun _ => ⟨"", []⟩
  annots := []
  interestingDriverFns := []
  nonstandardRetvalFns := []

end SymDrive.Cil.Splitter
