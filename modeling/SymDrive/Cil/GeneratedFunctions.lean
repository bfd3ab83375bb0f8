import SymDrive.Cil.FnPtrConversion
import SymDrive.Library.Interning

/-!
# The functions that the splitter generates

The pairs of `prefn` and `postfn`, the stubs, and their local variables, which `get_local_variable`
makes on demand and keeps in one table for the whole run.  The table is searched by a string, the
name of the function, the name of the variable and the printed type in a row.

Every function of a C program has a name of its own, so the `slocals` of a function are the
variables that were made under its name.  The printer of types is a parameter.
-/

namespace SymDrive.Cil.Splitter

/-! ## What is known of the driver -/

/-- The fields of `data_chunk` and the options that the bodies depend on. -/
structure DataChunk where
  gTestFramework : Bool
  typTostringNoattr : Typ → String
  comps : ℕ → Compinfo
  annots : List (String × String)
  interestingDriverFns : List (String × String)
  nonstandardRetvalFns : List String

/-- The type of a function, as `splitFunctionType` gives it. -/
structure FunType where
  ret : Typ
  args : Option (List (String × Typ))
  isvararg : Bool

/-- A function with its formals.  The arguments of its type are the formals. -/
structure Fundec where
  vname : String
  rettyp : Typ
  sformals : List Varinfo

/-- `makeLocal`: a variable that is not global. -/
def makeLocal (name : String) (t : Typ) : Varinfo := ⟨name, t, false⟩

/-- The arguments in the type of the function. -/
def Fundec.args (f : Fundec) : List (String × Typ) := f.sformals.map fun v => (v.vname, v.vtype)

def Fundec.formalNames (f : Fundec) : List String := f.sformals.map Varinfo.vname

/-- The variable of the function. -/
def Fundec.svar (f : Fundec) : Varinfo := ⟨f.vname, .tFun f.rettyp (some f.args) false, true⟩

/-- `setFunctionTypeMakeFormals`. -/
def mkFundec (name : String) (ret : Typ) (args : List (String × Typ)) : Fundec where
  vname := name
  rettyp := ret
  sformals := args.map fun arg => makeLocal arg.1 arg.2

def Typ.isVoid : Typ → Bool
  | .tVoid => true
  | _ => false

def Typ.isArray (t : Typ) : Bool :=
  match unrollType t with
  | .tArray _ _ => true
  | _ => false

/-! ## Pairs and stubs -/

/-- `create_prepostfn_function`. -/
def createPrepostfnFunction (vi : Fundec) (prefnBool : Bool) : Fundec :=
  let addPtr := fun param : String × Typ => (param.1, Typ.tPtr param.2)
  let tempArgsAddrof := vi.args.map addPtr
  let retvalArg := if prefnBool then [] else [("retval", Typ.tPtr vi.rettyp)]
  let retvalValid := if prefnBool then [] else [("retval_valid", intType)]
  mkFundec ((if prefnBool then prefnPrefix else postfnPrefix) ++ vi.vname) intType
    (retvalValid ++ retvalArg ++ tempArgsAddrof)

/-- `gen_empty_stub`, with the types of the arguments. -/
def genEmptyStub (stubName : String) (stubTyp : FunType) : Except Fatal Fundec :=
  Cil.genEmptyStub (fun name al => mkFundec name stubTyp.ret al) stubName stubTyp.args

/-- The name of the `i`-th formal. -/
def nameFormal (i : ℕ) (vname : String) : String :=
  if vname = "" then "arg" ++ toString i else vname

/-- A parameter without a name is named after its position. -/
def ensureFormalsHaveNames (fdec : Fundec) : Fundec :=
  { fdec with sformals := fdec.sformals.mapIdx fun i ith => { ith with
      vname := nameFormal i ith.vname } }

/-- `get_tf_fn_typ`: the types of the arguments of a check. -/
def tfArgs (ret : Typ) (args : List (String × Typ)) : List Typ :=
  let tfArg3Typ := if ret.isVoid then [] else [Typ.tPtr ret]
  [charPtrType, intType] ++ tfArg3Typ ++ args.map fun arg => .tPtr arg.2

/-- The type of a check routine. -/
def getTfFnTyp (ret : Typ) (args : List (String × Typ)) : Typ :=
  .tFun intType (some ((tfArgs ret args).map fun t => ("", t))) false

/-! ## Local variables -/

/-- A variable that `get_local_variable` made, with the function that it is a local of. -/
structure Temp where
  fname : String
  vname : String
  vtype : Typ

def Temp.varinfo (t : Temp) : Varinfo := makeLocal t.vname t.vtype

/-- A key has no white space. -/
def stripWhitespace (s : String) : String :=
  String.ofList (s.toList.filter fun c => c ≠ '\n' ∧ c ≠ '\t' ∧ c ≠ ' ' ∧ c ≠ '\r')

section

variable (g : DataChunk)

/-- The key of a variable in the table of those already made. -/
def Temp.hashkey (t : Temp) : String :=
  stripWhitespace (t.fname ++ t.vname ++ g.typTostringNoattr t.vtype)

/-- A computation over `temporary_variables`. -/
abbrev SplitM := StateT (List Temp) (Except Fatal)

/-- **One variable for each key**: a search by the key, and a new variable if it finds none. -/
def getLocalVariable (fdec : Fundec) (t : Typ) (name : String) : SplitM Varinfo := do
  let v ← Interning.ask (Temp.hashkey g) ⟨fdec.vname, name, t⟩
  return v.varinfo

/-- The locals of a function. -/
def slocals (made : List Temp) (fname : String) : List Varinfo :=
  (made.filter fun t => t.fname = fname).map Temp.varinfo

/-! ## Return values -/

/-- Whether a value of this type can be handed over as a number; for a function type the splitter
stops. -/
def supportedRetType : Typ → SplitM Bool
  | .tVoid => return false
  | .tInt _ => return true
  | .tFloat _ => return true
  | .tEnum _ => return true
  | .tPtr _ => return true
  | .tNamed _ ttype => supportedRetType ttype
  | .tArray _ _ => return false
  | .tComp _ => return false
  | .tFun _ _ _ => throw "TFun return type"
  | .tBuiltinVaList => throw "TBuiltin_va_list return typ"

/-- The variable that a stub keeps the value in. -/
def stubGetRetval (stubFn : Fundec) : SplitM (Option Varinfo) :=
  if stubFn.rettyp.isVoid then return none
  else do
    let vi ← getLocalVariable g stubFn stubFn.rettyp "_retval_"
    return some vi

/-- `postfn_get_retval_valid` and `postfn_get_retval`: the formal at the index, which has to have
the name. -/
def postfnGetFormal (i : ℕ) (name : String) (origFundec prepostfnFundec : Fundec) :
    SplitM Varinfo :=
  match prepostfnFundec.sformals[i]? with
  | none => throw ("Failure: expected parameter " ++ name ++ " in " ++ origFundec.vname ++ " " ++
      prepostfnFundec.vname)
  | some formal =>
      if formal.vname ≠ name then
        throw ("Failure: Expected " ++ name ++ " parameter in " ++ origFundec.vname ++ " " ++
          prepostfnFundec.vname)
      else return formal

/-- The formal that says whether there is a value. -/
def postfnGetRetvalValid : Fundec → Fundec → SplitM Varinfo := postfnGetFormal 0 "retval_valid"

/-- The formal that points to the value. -/
def postfnGetRetval : Fundec → Fundec → SplitM Varinfo := postfnGetFormal 1 "retval"

end

end SymDrive.Cil.Splitter
