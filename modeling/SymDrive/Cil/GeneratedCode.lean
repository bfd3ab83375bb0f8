import Mathlib.Data.List.Basic
import SymDrive.Cil.DriverFile
import SymDrive.Library.GuardedLoads

/-!
# The code that the splitter generates

The part of CIL's types, lvalues, expressions and statements that `splitter_dri.ml` builds, with the
functions of `cil.ml` and `utils_dri.ml` that it builds them with.  Attributes are left out: no
function here looks at them.  A structure is its key, because structures may be recursive; what it
consists of is looked up in a table.

`mkCast` leaves a cast out that changes nothing and computes casts of constants.  Here it always
casts: no cast has a name or a load in it.

* `Stmt.names` — the variables that a statement mentions.
* `Stmt.code` — the pointers that a statement tests and loads through.
-/

namespace SymDrive.Cil.Splitter

/-! ## Types -/

/-- The kinds of integers that the splitter names, and the others by their names. -/
inductive Ikind where
  | iBool
  | iChar
  | iInt
  | iULong
  | other (name : String)
  deriving DecidableEq, Repr

/-- `typ` without its attributes. -/
inductive Typ where
  | tVoid
  | tInt (kind : Ikind)
  | tFloat (fkind : String)
  | tPtr (t : Typ)
  | tArray (t : Typ) (len : Option ℕ)
  | tFun (ret : Typ) (args : Option (List (String × Typ))) (isvararg : Bool)
  /-- `TNamed`: the name of the typedef and its `ttype`. -/
  | tNamed (tname : String) (ttype : Typ)
  | tComp (ckey : ℕ)
  | tEnum (ename : String)
  | tBuiltinVaList

/-- A field, under the type of the structure it belongs to. -/
structure Fieldinfo where
  fname : String
  ftype : Typ

/-- A structure or a union, with its fields in order. -/
structure Compinfo where
  cname : String
  cfields : List Fieldinfo

/-- The type of every flag and every count that the splitter adds. -/
def intType : Typ := .tInt .iInt

def ulongType : Typ := .tInt .iULong

/-- The type that symbolic pointers are handed over as. -/
def voidPtrType : Typ := .tPtr .tVoid

/-- The type of a string constant. -/
def charPtrType : Typ := .tPtr (.tInt .iChar)

/-- A type behind all typedefs in front of it; those further inside stay. -/
def unrollType : Typ → Typ
  | .tNamed _ ttype => unrollType ttype
  | t => t

/-- What a type is without the names of typedefs and of parameters. -/
inductive Typsig where
  | tsBase (t : Typ)
  | tsEnum (ename : String)
  | tsPtr (t : Typsig)
  | tsArray (t : Typsig) (len : Option ℕ)
  | tsComp (ckey : ℕ)
  | tsFun (ret : Typsig) (args : List Typsig) (isvararg : Bool)

mutual

def typeSig : Typ → Typsig
  | .tPtr t => .tsPtr (typeSig t)
  | .tArray t len => .tsArray (typeSig t) len
  | .tFun ret none isvararg => .tsFun (typeSig ret) [] isvararg
  | .tFun ret (some args) isvararg => .tsFun (typeSig ret) (typeSigs args) isvararg
  | .tNamed _ ttype => typeSig ttype
  | .tComp ckey => .tsComp ckey
  | .tEnum ename => .tsEnum ename
  | t => .tsBase t

def typeSigs : List (String × Typ) → List Typsig
  | [] => []
  | (_, t) :: args => typeSig t :: typeSigs args

end

/-! ## Expressions -/

/-- `varinfo`: `vglob` tells a global variable or a function from a formal or a local. -/
structure Varinfo where
  vname : String
  vtype : Typ
  vglob : Bool

mutual

/-- A host with its offset.  `field` adds one more `Field` at the end of the offset. -/
inductive Lval where
  | var (v : Varinfo)
  | mem (addr : Exp)
  | field (lv : Lval) (fi : Fieldinfo)

inductive Exp where
  | int (n : ℤ)
  | str (s : String)
  | sizeOf (t : Typ)
  | lval (lv : Lval)
  | addrOf (lv : Lval)
  | startOf (lv : Lval)
  | castE (t : Typ) (e : Exp)
  /-- The comparisons of `mkIfStmt`: `BinOp(Eq, e, zero, _)` and `BinOp(Ne, e, zero, _)`. -/
  | eqZero (e : Exp)
  | neZero (e : Exp)

end

mutual

/-- CIL stops where a pointer is not of a pointer type; here the result is `tVoid`. -/
def typeOfLval : Lval → Typ
  | .var v => v.vtype
  | .mem addr =>
      match unrollType (typeOf addr) with
      | .tPtr t => t
      | _ => .tVoid
  | .field _ fi => fi.ftype

def typeOf : Exp → Typ
  | .int _ => intType
  | .str _ => charPtrType
  | .sizeOf _ => ulongType
  | .lval lv => typeOfLval lv
  | .addrOf lv => .tPtr (typeOfLval lv)
  | .startOf lv =>
      match unrollType (typeOfLval lv) with
      | .tArray t _ => .tPtr t
      | _ => .tVoid
  | .castE t _ => t
  | .eqZero _ => .tInt .iBool
  | .neZero _ => .tInt .iBool

end

def lvalifyVarinfo (v : Varinfo) : Lval := .var v

def expifyLval (lv : Lval) : Exp := .lval lv

def expifyVarinfo (v : Varinfo) : Exp := expifyLval (lvalifyVarinfo v)

def addFieldToLval (lv : Lval) (fi : Fieldinfo) : Lval := .field lv fi

/-- `mkMem` with no offset: `*&lv` is `lv`. -/
def mkMem : Exp → Lval
  | .addrOf lv => lv
  | e => .mem e

/-- `mkAddrOf`: `&*e` is `e`. -/
def mkAddrOf : Lval → Exp
  | .mem e => e
  | lv => .addrOf lv

/-- The address of an lvalue; that of an array is the address of its first element. -/
def mkAddrOrStartOf (lv : Lval) : Exp :=
  match unrollType (typeOfLval lv) with
  | .tArray _ _ => .startOf lv
  | _ => mkAddrOf lv

/-! ## Statements -/

/-- The statements that generated code consists of; a block is the list of its statements. -/
inductive Stmt where
  | set (lv : Lval) (e : Exp)
  | call (retval : Option Lval) (f : Exp) (args : List Exp)
  | ifStmt (ifguard : Exp) (trueBlock falseBlock : List Stmt)
  | ret (e : Option Exp)

def mkCallStmt (retval : Option Lval) (f : Exp) (args : List Exp) : Stmt := .call retval f args

def mkIfStmt (ifguard : Exp) (trueBlock falseBlock : List Stmt) : Stmt :=
  .ifStmt ifguard trueBlock falseBlock

/-! ### Names -/

mutual

/-- The variables that an lvalue mentions, those in its addresses included. -/
def Lval.names : Lval → List Varinfo
  | .var v => [v]
  | .mem addr => addr.names
  | .field lv _ => lv.names

/-- The variables that an expression mentions. -/
def Exp.names : Exp → List Varinfo
  | .int _ => []
  | .str _ => []
  | .sizeOf _ => []
  | .lval lv => lv.names
  | .addrOf lv => lv.names
  | .startOf lv => lv.names
  | .castE _ e => e.names
  | .eqZero e => e.names
  | .neZero e => e.names

end

mutual

/-- The variables that a statement mentions, with those of the blocks of a test. -/
def Stmt.names : Stmt → List Varinfo
  | .set lv e => lv.names ++ e.names
  | .call retval f args => retval.toList.flatMap Lval.names ++ f.names ++ args.flatMap Exp.names
  | .ifStmt ifguard trueBlock falseBlock =>
      ifguard.names ++ (blockNames trueBlock ++ blockNames falseBlock)
  | .ret e => e.toList.flatMap Exp.names

/-- The variables that the statements of a block mention. -/
def blockNames : List Stmt → List Varinfo
  | [] => []
  | s :: ss => s.names ++ blockNames ss

end

lemma blockNames_append (ss ss' : List Stmt) :
    blockNames (ss ++ ss') = blockNames ss ++ blockNames ss' := by
  induction ss with
  | nil => rfl
  | cons s ss ih => rw [List.cons_append, blockNames, ih, blockNames, List.append_assoc]

/-! ### Loads -/

/-- The pointer that an lvalue is found behind. -/
def Lval.pointer? : Lval → Option Exp
  | .var _ => none
  | .mem addr => some addr
  | .field lv _ => lv.pointer?

mutual

/-- The pointers that are loaded through in order to find the address of an lvalue. -/
def Lval.loads : Lval → List Exp
  | .var _ => []
  | .mem addr => addr.loads
  | .field lv _ => lv.loads

/-- The pointers that an expression loads through: reading an lvalue loads through its pointer,
taking its address does not. -/
def Exp.loads : Exp → List Exp
  | .int _ => []
  | .str _ => []
  | .sizeOf _ => []
  | .lval lv => lv.loads ++ lv.pointer?.toList
  | .addrOf lv => lv.loads
  | .startOf lv => lv.loads
  | .castE _ e => e.loads
  | .eqZero e => e.loads
  | .neZero e => e.loads

end

/-- What a condition has tested when it is true. -/
def Exp.tested? : Exp → Option Exp
  | .neZero e => some e
  | _ => none

mutual

/-- An assignment stores through a pointer and does not load through it.  A `Return` is the last
statement of a generated body. -/
def Stmt.code : Stmt → Guarded.Code Exp
  | .set lv e => .use (e.loads ++ lv.loads)
  | .call retval f args =>
      .use (f.loads ++ args.flatMap Exp.loads ++ retval.toList.flatMap Lval.loads)
  | .ifStmt ifguard trueBlock falseBlock =>
      .cond ifguard.loads ifguard.tested? (blockCode trueBlock) (blockCode falseBlock)
  | .ret e => .use (e.toList.flatMap Exp.loads)

/-- What the statements of a block test and load through. -/
def blockCode : List Stmt → List (Guarded.Code Exp)
  | [] => []
  | s :: ss => s.code :: blockCode ss

end

lemma blockCode_append (ss ss' : List Stmt) :
    blockCode (ss ++ ss') = blockCode ss ++ blockCode ss' := by
  induction ss with
  | nil => rfl
  | cons s ss ih => rw [List.cons_append, blockCode, ih, blockCode, List.cons_append]

/-- **Null safety** of generated code. -/
def NullSafe (ss : List Stmt) : Prop := Guarded.NullSafe (blockCode ss)

end SymDrive.Cil.Splitter
