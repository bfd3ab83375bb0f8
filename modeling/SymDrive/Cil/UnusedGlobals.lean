import SymDrive.Cil.UnusedLabels
import SymDrive.Library.Marking

/-!
# Unused globals

`rmtmps.ml`.  Behind the parser every file is reduced to what its roots need: from the globals that
the linker sees, and from those that pragmas name, everything reachable is marked, and the globals
and the locals without a mark are removed.

The shared records of CIL, each under its name or key, are tables of the file.  A `case` label is
known by a number, under which its function has the expression: `case sizeof(T)` stays one.

* `marked_uses` — a global that stays uses only what is marked.  Four kinds of mentions are left
  out, because the visitor may not meet them: those in the values of an enumeration, in its own
  attributes, in the attributes of a field, and in the attributes at one occurrence of a named type.
* `removeUnusedTemps_sweeps` — so the pass goes through and leaves the file swept by such marks, and
  nothing stays that no root leads to.
-/

namespace SymDrive.Cil.Unused

open Checked Marking

/-! ## Syntax -/

/-- A variable: global ones have one record for a name. -/
inductive Var where
  | global (vname : String)
  | local (vid : ℕ)
  deriving DecidableEq, Repr

mutual

/-- The types, with the attributes that may name other types. -/
inductive Typ where
  | tVoid (attrs : List Attr)
  | tInt (attrs : List Attr)
  | tFloat (attrs : List Attr)
  | tPtr (t : Typ) (attrs : List Attr)
  | tArray (t : Typ) (len : Option Exp) (attrs : List Attr)
  | tFun (ret : Typ) (args : List Formal) (attrs : List Attr)
  | tNamed (tname : String) (attrs : List Attr)
  | tComp (ckey : ℕ) (attrs : List Attr)
  | tEnum (ename : String) (attrs : List Attr)
  | tBuiltinVaList (attrs : List Attr)

/-- An argument of a function type. -/
inductive Formal where
  | formal (name : String) (t : Typ) (attrs : List Attr)

/-- An attribute with its arguments. -/
inductive Attr where
  | attr (name : String) (args : List Attrparam)

inductive Attrparam where
  | aInt (n : ℤ)
  | aStr (s : String)
  | aCons (name : String) (args : List Attrparam)
  | aSizeOf (t : Typ)
  | aSizeOfE (a : Attrparam)
  | aAlignOf (t : Typ)
  | aAlignOfE (a : Attrparam)
  | aUnOp (a : Attrparam)
  | aBinOp (a1 a2 : Attrparam)
  | aDot (a : Attrparam) (s : String)
  | aStar (a : Attrparam)
  | aAddrOf (a : Attrparam)
  | aIndex (a1 a2 : Attrparam)
  | aQuestion (a1 a2 a3 : Attrparam)

/-- Expressions, as far as they name variables and types. -/
inductive Exp where
  /-- An integer, a character, a string or a real. -/
  | const
  | cEnum (v : Exp) (ename : String)
  | sizeOf (t : Typ)
  | sizeOfE (e : Exp)
  | sizeOfStr (s : String)
  | alignOf (t : Typ)
  | alignOfE (e : Exp)
  | lval (lv : Lval)
  | unOp (e : Exp) (t : Typ)
  | binOp (e1 e2 : Exp) (t : Typ)
  | castE (t : Typ) (e : Exp)
  | addrOf (lv : Lval)
  | startOf (lv : Lval)

inductive Lval where
  | var (v : Var) (o : Offset)
  | mem (e : Exp) (o : Offset)

inductive Offset where
  | noOffset
  | field (fname : String) (o : Offset)
  | index (e : Exp) (o : Offset)

end

inductive Init where
  | single (e : Exp)
  | compound (t : Typ) (inits : List (Offset × Init))

inductive Instr where
  | set (lv : Lval) (e : Exp)
  | call (lv : Option Lval) (fn : Exp) (args : List Exp)
  | asm (outs : List Lval) (ins : List Exp)

/-- `stmt` with its `stmtkind`. -/
inductive Stmt where
  | instr (id : Sid) (is : List Instr)
  | ret (id : Sid) (e : Option Exp)
  | goto (id target : Sid)
  | brk (id : Sid)
  | cont (id : Sid)
  | cond (id : Sid) (e : Exp) (b1 b2 : List Stmt)
  | switch (id : Sid) (e : Exp) (b : List Stmt)
  | loop (id : Sid) (b : List Stmt)
  | block (id : Sid) (b : List Stmt)

/-- The record of a local variable or a formal. -/
structure Local where
  vid : ℕ
  vtype : Typ
  vattr : List Attr

/-- A function definition.  `labels` gives the labels of a statement by its identity, as in
`Body`. -/
structure Fundec where
  vname : String
  slocals : List Local
  sformals : List Local
  sbody : List Stmt
  labels : Sid → List Label
  /-- The expression of a `case`. -/
  caseExp : ℤ → Exp

/-- The globals of a file, each by the key of what it is about. -/
inductive Global where
  | gType (tname : String)
  | gCompTag (ckey : ℕ)
  | gCompTagDecl (ckey : ℕ)
  | gEnumTag (ename : String)
  | gEnumTagDecl (ename : String)
  | gVarDecl (vname : String)
  | gVar (vname : String) (init : Option Init)
  | gFun (f : Fundec)
  | gAsm (s : String)
  | gPragma (a : Attr)
  | gText (s : String)

inductive Storage where
  | noStorage
  | static
  | register
  | externStorage
  deriving DecidableEq, Repr

structure Typeinfo where
  tname : String
  ttype : Typ

structure Fieldinfo where
  ftype : Typ
  fattr : List Attr

structure Compinfo where
  ckey : ℕ
  cname : String
  cstruct : Bool
  cfields : List Fieldinfo
  cattr : List Attr

/-- An enumeration with the values of its constants. -/
structure Enuminfo where
  ename : String
  eitems : List Exp
  eattr : List Attr

/-- The record of a global variable or a function. -/
structure Varinfo where
  vname : String
  vtype : Typ
  vattr : List Attr
  vstorage : Storage
  vinline : Bool

/-- A file with the tables of what its globals are about. -/
structure File where
  globals : List Global
  typeinfos : List Typeinfo
  compinfos : List Compinfo
  enuminfos : List Enuminfo
  varinfos : List Varinfo

/-! ## What the visitor meets -/

/-- What can carry a mark. -/
inductive Ref where
  | typeinfo (tname : String)
  | comp (ckey : ℕ)
  | enum (ename : String)
  | global (vname : String)
  | local (vid : ℕ)
  deriving DecidableEq, Repr

/-- A constant of an enumeration marks it without a look at its attributes. -/
def Ref.IsEnum (r : Ref) : Prop := ∃ ename, r = .enum ename

abbrev Visit := Marking.Visit Ref Ref.IsEnum

section

variable (declared : String → Bool)

/-- `vvrbl`: a global that nothing declares is passed over. -/
def Var.visits : Var → List Visit
  | .global vname => if declared vname then [.visit (.global vname) []] else []
  | .local vid => [.visit (.local vid) []]

mutual

/-- What the visitor comes by in a type. -/
def Typ.visits : Typ → List Visit
  | .tVoid a | .tInt a | .tFloat a | .tBuiltinVaList a => attrsVisits a
  | .tPtr t a => t.visits ++ attrsVisits a
  | .tArray t none a => t.visits ++ attrsVisits a
  | .tArray t (some e) a => t.visits ++ e.visits ++ attrsVisits a
  | .tFun ret args a => ret.visits ++ formalsVisits args ++ attrsVisits a
  | .tNamed tname a => [.visit (.typeinfo tname) (attrsVisits a)]
  | .tComp ckey a => [.visit (.comp ckey) (attrsVisits a)]
  | .tEnum ename a => [.visit (.enum ename) (attrsVisits a)]

def formalsVisits : List Formal → List Visit
  | [] => []
  | .formal _ t a :: args => t.visits ++ attrsVisits a ++ formalsVisits args

def attrsVisits : List Attr → List Visit
  | [] => []
  | .attr _ args :: a => attrparamsVisits args ++ attrsVisits a

def attrparamsVisits : List Attrparam → List Visit
  | [] => []
  | a :: as => a.visits ++ attrparamsVisits as

/-- What the visitor comes by in the argument of an attribute. -/
def Attrparam.visits : Attrparam → List Visit
  | .aInt _ | .aStr _ => []
  | .aCons _ args => attrparamsVisits args
  | .aSizeOf t | .aAlignOf t => t.visits
  | .aSizeOfE a | .aAlignOfE a | .aUnOp a | .aDot a _ | .aStar a | .aAddrOf a => a.visits
  | .aBinOp a1 a2 | .aIndex a1 a2 => a1.visits ++ a2.visits
  | .aQuestion a1 a2 a3 => a1.visits ++ a2.visits ++ a3.visits

/-- A constant of an enumeration marks it without a look at its items. -/
def Exp.visits : Exp → List Visit
  | .const | .sizeOfStr _ => []
  | .cEnum v ename => .touch (.enum ename) ⟨ename, rfl⟩ :: v.visits
  | .sizeOf t | .alignOf t => t.visits
  | .sizeOfE e | .alignOfE e => e.visits
  | .lval lv | .addrOf lv | .startOf lv => lv.visits
  | .unOp e t => e.visits ++ t.visits
  | .binOp e1 e2 t => e1.visits ++ e2.visits ++ t.visits
  | .castE t e => t.visits ++ e.visits

def Lval.visits : Lval → List Visit
  | .var v o => v.visits declared ++ o.visits
  | .mem e o => e.visits ++ o.visits

def Offset.visits : Offset → List Visit
  | .noOffset => []
  | .field _ o => o.visits
  | .index e o => e.visits ++ o.visits

end

mutual

def Init.visits : Init → List Visit
  | .single e => e.visits declared
  | .compound t inits => t.visits declared ++ initsVisits inits

def initsVisits : List (Offset × Init) → List Visit
  | [] => []
  | (o, i) :: inits => o.visits declared ++ i.visits ++ initsVisits inits

end

/-- What the visitor comes by in an instruction. -/
def Instr.visits : Instr → List Visit
  | .set lv e => lv.visits declared ++ e.visits declared
  | .call lv fn args => lv.toList.flatMap (Lval.visits declared) ++ fn.visits declared ++
      args.flatMap (Exp.visits declared)
  | .asm outs ins => outs.flatMap (Lval.visits declared) ++ ins.flatMap (Exp.visits declared)

/-- What the labels of a statement hold. -/
def Fundec.labelVisits (f : Fundec) (id : Sid) : List Visit :=
  (f.labels id).flatMap fun
    | .case n => (f.caseExp n).visits declared
    | .label _ _ | .default => []

section

variable (labelVisits : Sid → List Visit)

mutual

/-- The labels come behind the rest of the statement. -/
def Stmt.visits : Stmt → List Visit
  | .instr id is => is.flatMap (Instr.visits declared) ++ labelVisits id
  | .ret id e => e.toList.flatMap (Exp.visits declared) ++ labelVisits id
  | .goto id _ | .brk id | .cont id => labelVisits id
  | .cond id e b1 b2 =>
      e.visits declared ++ blockVisits b1 ++ blockVisits b2 ++ labelVisits id
  | .switch id e b => e.visits declared ++ blockVisits b ++ labelVisits id
  | .loop id b | .block id b => blockVisits b ++ labelVisits id

def blockVisits : List Stmt → List Visit
  | [] => []
  | s :: ss => s.visits ++ blockVisits ss

end

end

/-- The declaration of a local variable or a formal. -/
def Local.visits (v : Local) : List Visit :=
  v.vtype.visits declared ++ attrsVisits declared v.vattr

end

/-! ## Globals -/

namespace Global

/-- The record that the global shares with its uses. -/
def ref : Global → Option Ref
  | gType tname => some (.typeinfo tname)
  | gCompTag ckey | gCompTagDecl ckey => some (.comp ckey)
  | gEnumTag ename | gEnumTagDecl ename => some (.enum ename)
  | gVarDecl vname | gVar vname _ => some (.global vname)
  | gFun f => some (.global f.vname)
  | gAsm _ | gPragma _ | gText _ => none

/-- A definition of a variable or a function. -/
def defines (vname : String) : Global → Bool
  | gVar v _ => v = vname
  | gFun f => f.vname = vname
  | _ => false

end Global

namespace File

variable (F : File)

/-- `globalMap`: the declarations and definitions of a variable, the last one first. -/
def findAll (vname : String) : List Global :=
  (F.globals.filter fun g => g.ref = some (.global vname)).reverse

/-- Whether the file says anything about a variable. -/
def declared (vname : String) : Bool := !(F.findAll vname).isEmpty

def typeinfo (tname : String) : Option Typeinfo := F.typeinfos.find? fun ti => ti.tname = tname

def compinfo (ckey : ℕ) : Option Compinfo := F.compinfos.find? fun ci => ci.ckey = ckey

def enuminfo (ename : String) : Option Enuminfo := F.enuminfos.find? fun ei => ei.ename = ename

def varinfo (vname : String) : Option Varinfo := F.varinfos.find? fun vi => vi.vname = vname

/-- `visitCilVarDecl` of a global variable. -/
def vdecVisits (vname : String) : List Visit :=
  (F.varinfo vname).toList.flatMap fun vi =>
    vi.vtype.visits F.declared ++ attrsVisits F.declared vi.vattr

/-- What a typedef stands for. -/
def ttypeVisits (tname : String) : List Visit :=
  (F.typeinfo tname).toList.flatMap fun ti => ti.ttype.visits F.declared

/-- The types of the fields of a structure. -/
def ftypeVisits (ckey : ℕ) : List Visit :=
  (F.compinfo ckey).toList.flatMap fun ci => ci.cfields.flatMap fun f => f.ftype.visits F.declared

/-- The attributes of a structure. -/
def cattrVisits (ckey : ℕ) : List Visit :=
  (F.compinfo ckey).toList.flatMap fun ci => attrsVisits F.declared ci.cattr

/-- The attributes of an enumeration. -/
def eattrVisits (ename : String) : List Visit :=
  (F.enuminfo ename).toList.flatMap fun ei => attrsVisits F.declared ei.eattr

end File

/-- What `visitCilGlobal` meets in a global. -/
def Global.children (F : File) : Global → List Visit
  | gType tname => F.ttypeVisits tname
  | gCompTag ckey => (F.compinfo ckey).toList.flatMap (fun ci => ci.cfields.flatMap fun f =>
      f.ftype.visits F.declared ++ attrsVisits F.declared f.fattr) ++ F.cattrVisits ckey
  | gEnumTag ename => (F.enuminfo ename).toList.flatMap
      (fun ei => ei.eitems.flatMap (Exp.visits F.declared)) ++ F.eattrVisits ename
  | gCompTagDecl _ | gEnumTagDecl _ | gAsm _ | gPragma _ | gText _ => []
  | gVarDecl vname => F.vdecVisits vname
  | gVar vname init => F.vdecVisits vname ++ init.toList.flatMap (Init.visits F.declared)
  | gFun f => F.vdecVisits f.vname ++ f.slocals.flatMap (Local.visits F.declared) ++
      f.sformals.flatMap (Local.visits F.declared) ++
      blockVisits F.declared (f.labelVisits F.declared) f.sbody

/-- `markReachableVisitor`: what it meets where it descends into a record. -/
def File.graph (F : File) : Graph Ref Ref.IsEnum where
  before
    | .typeinfo tname => F.ttypeVisits tname
    | .comp ckey => F.ftypeVisits ckey
    | .global vname => (F.findAll vname).flatMap (Global.children F)
    | .enum _ | .local _ => []
  after
    | .comp ckey => F.cattrVisits ckey
    | .enum ename => F.eattrVisits ename
    | .typeinfo _ | .global _ | .local _ => []

/-- All records that are met anywhere in the file. -/
def File.refs (F : File) : List Ref :=
  Visit.nodesOf (F.globals.flatMap (Global.children F)) ++
    Visit.nodesOf (F.typeinfos.flatMap fun ti => F.ttypeVisits ti.tname) ++
    Visit.nodesOf (F.compinfos.flatMap fun ci => F.ftypeVisits ci.ckey ++ F.cattrVisits ci.ckey) ++
    Visit.nodesOf (F.enuminfos.flatMap fun ei => F.eattrVisits ei.ename)

/-- `markReachable`. -/
def markReachable (F : File) (isRoot : Global → Bool) : Finset Ref :=
  F.graph.markRoots F.refs.length ∅ <| (F.globals.filter isRoot).filterMap fun g =>
    g.ref.map fun r => (r, g.children F)

/-! ## Roots -/

def filterAttributes (name : String) (attrs : List Attr) : List Attr :=
  attrs.filter fun a => match a with | .attr n _ => n = name

def hasAttribute (name : String) (attrs : List Attr) : Bool :=
  !(filterAttributes name attrs).isEmpty

/-- The attributes of a global variable or a function. -/
def File.vattr (F : File) (vname : String) : List Attr :=
  (F.varinfo vname).toList.flatMap Varinfo.vattr

/-- The names that pragmas keep. -/
structure Keepers where
  typedefs : List String
  enums : List String
  structs : List String
  unions : List String
  defines : List String

def Keepers.empty : Keepers := ⟨[], [], [], [], []⟩

/-- The words of a specifier, between blanks and tabulators. -/
def words (specifier : String) : List String :=
  ((specifier.toList.splitOnP fun c => c = ' ' ∨ c = '\t').filter fun w => w ≠ []).map String.ofList

/-- `processArg`; a bad argument is passed over with a warning. -/
def processArg (k : Keepers) : Attrparam → Keepers
  | .aStr specifier =>
      match words specifier with
      | ["type", name] => { k with typedefs := name :: k.typedefs }
      | ["enum", name] => { k with enums := name :: k.enums }
      | ["struct", name] => { k with structs := name :: k.structs }
      | ["union", name] => { k with unions := name :: k.unions }
      | [name] => { k with defines := name :: k.defines }
      | _ => k
  | _ => k

/-- The pragmas of CCured keep a function that they name. -/
def keepNamed (k : Keepers) : Attrparam → Keepers
  | .aStr name => { k with defines := name :: k.defines }
  | _ => k

/-- The pragma `ccuredvararg` keeps the type of its second argument. -/
def keepType (F : File) (k : Keepers) : Typ → Keepers
  | .tComp ckey _ =>
      match F.compinfo ckey with
      | some c => if c.cstruct then { k with structs := c.cname :: k.structs }
          else { k with unions := c.cname :: k.unions }
      | none => k
  | .tNamed tname _ => { k with typedefs := tname :: k.typedefs }
  | .tEnum ename _ => { k with enums := ename :: k.enums }
  | _ => k

/-- The cases of `considerPragma` for a pragma. -/
def considerDirective (F : File) (k : Keepers) (directive : String) (args : List Attrparam) :
    Keepers :=
  match directive, args with
  | "cilnoremove", args => args.foldl processArg k
  | "ccuredwrapper", a :: _ => keepNamed k a
  | "ccuredvararg", _ :: .aSizeOf t :: _ => keepType F k t
  | directive, _ :: _ :: a :: _ =>
      if "ccureddeepcopy".length < directive.length ∧
          "ccureddeepcopy".toList.isPrefixOf directive.toList then keepNamed k a
      else k
  | _, _ => k

/-- What one global tells about what is to be kept. -/
def considerPragma (F : File) (k : Keepers) : Global → Except Fatal Keepers
  | .gPragma (.attr directive args) => .ok (considerDirective F k directive args)
  | .gVarDecl vname =>
      match filterAttributes "alias" (F.vattr vname) with
      | [] => .ok k
      | [.attr _ [.aStr othername]] => .ok { k with defines := othername :: k.defines }
      | _ => .error "Bad alias attribute"
  | _ => .ok k

/-- All that the pragmas and the attributes ask to keep. -/
def categorizePragmas (F : File) : Except Fatal Keepers :=
  F.globals.foldlM (considerPragma F) .empty

/-- A global that a pragma or an attribute keeps. -/
def isPragmaRoot (F : File) (keepers : Keepers) : Global → Bool
  | .gType tname => keepers.typedefs.contains tname
  | .gEnumTag ename | .gEnumTagDecl ename => keepers.enums.contains ename
  | .gCompTag ckey | .gCompTagDecl ckey => (F.compinfo ckey).any fun c =>
      (if c.cstruct then keepers.structs else keepers.unions).contains c.cname
  | .gVar vname _ | .gVarDecl vname =>
      keepers.defines.contains vname || hasAttribute "used" (F.vattr vname)
  | .gFun f => keepers.defines.contains f.vname || hasAttribute "used" (F.vattr f.vname)
  | .gAsm _ | .gPragma _ | .gText _ => false

/-- Constructors and destructors run without being called. -/
def hasExportingAttribute (attrs : List Attr) : Bool :=
  attrs.any fun a => match a with
    | .attr "constructor" [] | .attr "destructor" [] => true
    | _ => false

/-- What the linker sees, by the rules of gcc. -/
def isExportedRoot (F : File) (rmUnusedInlines : Bool) : Global → Bool
  | .gVar vname _ => (F.varinfo vname).any fun v => v.vstorage ≠ .static
  | .gFun f => (F.varinfo f.vname).any fun v =>
      if hasExportingAttribute v.vattr then true
      else if v.vstorage = .static then false
      else if v.vinline ∧ v.vstorage ≠ .externStorage ∧ rmUnusedInlines then false
      else true
  | .gVarDecl vname => hasAttribute "alias" (F.vattr vname)
  | _ => false

/-! ## The pass -/

mutual

/-- A statement as far as labels go. -/
def Stmt.erase : Stmt → Cil.Stmt
  | .instr id _ => .instr id (.code true)
  | .ret id e => .ret id (e.map fun _ => ⟨false, false⟩)
  | .goto id target => .goto id target
  | .brk id => .brk id
  | .cont id => .cont id
  | .cond id _ b1 b2 => .cond id (eraseBlock b1) (eraseBlock b2)
  | .switch id _ b => .switch id (eraseBlock b)
  | .loop id b => .loop id (eraseBlock b)
  | .block id b => .block id (eraseBlock b)

def eraseBlock : List Stmt → List Cil.Stmt
  | [] => []
  | s :: ss => s.erase :: eraseBlock ss

end

def Fundec.body (f : Fundec) : Body where
  stmts := eraseBlock f.sbody
  labels := f.labels

/-- What `filterGlobal` does to a global that stays. -/
def filterLocals (marked : Finset Ref) : Global → Except Fatal Global
  | .gFun f => do
      let b ← Labels.cleanLabels f.body
      .ok (.gFun { f with
        slocals := f.slocals.filter fun v => .local v.vid ∈ marked
        labels := b.labels })
  | g => .ok g

/-- Globals without a record always stay. -/
def stays (marked : Finset Ref) (g : Global) : Bool := g.ref.all fun r => r ∈ marked

/-- The unmarked globals go, and so do the unmarked locals of those that stay. -/
def removeUnmarked (marked : Finset Ref) (F : File) : Except Fatal File := do
  let globals ← (F.globals.filter (stays marked)).mapM (filterLocals marked)
  .ok { F with globals }

/-- The options `keepUnused` and `rmUnusedInlines`. -/
structure Options where
  keepUnused : Bool
  rmUnusedInlines : Bool

/-- What is kept in any case. -/
def isRoot (opts : Options) (F : File) (keepers : Keepers) (g : Global) : Bool :=
  isPragmaRoot F keepers g || isExportedRoot F opts.rmUnusedInlines g

/-- **The pass**: find the roots, mark what they use, and remove the rest. -/
def removeUnusedTemps (opts : Options) (F : File) : Except Fatal File :=
  if opts.keepUnused then .ok F
  else do
    let keepers ← categorizePragmas F
    removeUnmarked (markReachable F (isRoot opts F keepers)) F

/-! ## What it is for -/

/-- What a global uses: all that it names, with four exceptions.  The values and the attributes of
an enumeration are left out, since a constant marks it without a look at them.  So are the
attributes of a field, which is visited for its type, and those at one occurrence of a named type,
which is passed over where it has its mark. -/
def Global.uses (F : File) : Global → List Ref
  | gCompTag ckey => (F.ftypeVisits ckey ++ F.cattrVisits ckey).map Visit.node
  | gEnumTag _ => []
  | g => (g.children F).map Visit.node

/-- What holds of every file that CIL builds from source code: a name has one definition, an alias
has none and is one of a name, and the bodies of functions are well formed. -/
structure File.WellFormed (F : File) : Prop where
  oneDefinition : ∀ vname, (F.globals.filter (Global.defines vname)).length ≤ 1
  noAlias : ∀ vname, hasAttribute "alias" (F.vattr vname) = true →
    F.globals.filter (Global.defines vname) = []
  aliasArgs : ∀ vname, filterAttributes "alias" (F.vattr vname) = [] ∨
    ∃ n s, filterAttributes "alias" (F.vattr vname) = [.attr n [.aStr s]]
  bodies : ∀ f, .gFun f ∈ F.globals → f.body.WellFormed ∧ Labels.Distinct f.body

/-- All that can be reached from the roots, by whatever a global mentions anywhere. -/
inductive Mentioned (F : File) (isRoot : Global → Bool) : Ref → Prop where
  | root {g : Global} {r : Ref} : g ∈ F.globals → isRoot g = true → g.ref = some r →
      Mentioned F isRoot r
  | inRoot {g : Global} {r : Ref} : g ∈ F.globals → isRoot g = true →
      r ∈ Visit.nodesOf (g.children F) → Mentioned F isRoot r
  | behind {m r : Ref} : Mentioned F isRoot m →
      r ∈ Visit.nodesOf (F.graph.before m ++ F.graph.after m) → Mentioned F isRoot r

/-- A global and what is left of it: a function loses the unmarked locals, and labels without
use. -/
inductive Trimmed (marked : Finset Ref) : Global → Global → Prop where
  | gFun {f f' : Fundec} : f' = { f with
        slocals := f.slocals.filter fun v => .local v.vid ∈ marked
        labels := f'.labels } →
      Labels.Cleaned f.body f'.body → Trimmed marked (.gFun f) (.gFun f')
  | other {g : Global} : (∀ f, g ≠ .gFun f) → Trimmed marked g g

/-- **What the pass is for**: the file is swept by marks that all roots carry and, with a global
that stays, everything that it uses; and no mark stands where no root leads. -/
structure Sweeps (F : File) (isRoot : Global → Bool) (marked : Finset Ref) (F' : File) : Prop where
  tables : F' = { F with globals := F'.globals }
  globals : List.Forall₂ (Trimmed marked) (F.globals.filter (stays marked)) F'.globals
  roots : ∀ g ∈ F.globals, isRoot g = true → stays marked g = true
  closed : ∀ g ∈ F.globals, stays marked g = true → ∀ u ∈ g.uses F, u ∈ marked
  needed : ∀ r ∈ marked, Mentioned F isRoot r

/-! ## Everything is met -/

section

variable {F : File}

lemma mem_of_find {α : Type} {p : α → Bool} {as : List α} {a : α}
    (h : a ∈ (as.find? p).toList) : a ∈ as ∧ p a = true := by
  rw [Option.mem_toList] at h
  exact ⟨List.mem_of_find?_eq_some h, List.find?_some h⟩

/-- No traversal leaves the records of the file. -/
lemma closed_refs (F : File) : F.graph.Closed F.refs.toFinset := by
  intro n _ m hm
  simp only [List.mem_toFinset, File.refs, List.mem_append, Visit.mem_nodesOf_flatMap,
    Visit.mem_nodesOf_append]
  cases n with
  | typeinfo tname =>
      have hm : m ∈ Visit.nodesOf (F.ttypeVisits tname) := by
        simpa [File.graph, Visit.nodesOf] using hm
      obtain ⟨ti, hti, -⟩ := Visit.mem_nodesOf_flatMap.mp hm
      obtain ⟨hmem, hname⟩ := mem_of_find hti
      obtain rfl := of_decide_eq_true hname
      exact Or.inl (Or.inl (Or.inr ⟨ti, hmem, hm⟩))
  | comp ckey =>
      have hkey : ∃ ci ∈ F.compinfos, ci.ckey = ckey := by
        rcases hm with hm | hm
        · obtain ⟨ci, hci, -⟩ := Visit.mem_nodesOf_flatMap.mp hm
          obtain ⟨hmem, hkey⟩ := mem_of_find hci
          exact ⟨ci, hmem, of_decide_eq_true hkey⟩
        · obtain ⟨ci, hci, -⟩ := Visit.mem_nodesOf_flatMap.mp hm
          obtain ⟨hmem, hkey⟩ := mem_of_find hci
          exact ⟨ci, hmem, of_decide_eq_true hkey⟩
      obtain ⟨ci, hmem, rfl⟩ := hkey
      exact Or.inl (Or.inr ⟨ci, hmem, hm⟩)
  | enum ename =>
      have hm : m ∈ Visit.nodesOf (F.eattrVisits ename) := by
        simpa [File.graph, Visit.nodesOf] using hm
      obtain ⟨ei, hei, -⟩ := Visit.mem_nodesOf_flatMap.mp hm
      obtain ⟨hmem, hname⟩ := mem_of_find hei
      obtain rfl := of_decide_eq_true hname
      exact Or.inr ⟨ei, hmem, hm⟩
  | global vname =>
      have hm : m ∈ Visit.nodesOf ((F.findAll vname).flatMap (Global.children F)) := by
        simpa [File.graph, Visit.nodesOf] using hm
      obtain ⟨g, hg, hm⟩ := Visit.mem_nodesOf_flatMap.mp hm
      exact Or.inl (Or.inl (Or.inl ⟨g, (List.mem_filter.mp (List.mem_reverse.mp hg)).1, hm⟩))
  | «local» vid => exact absurd hm (by simp [File.graph, Visit.nodesOf])

/-! ## Nothing dangles -/

/-- What a global uses, the traversal meets behind its record. -/
lemma uses_subset_behind {g : Global} (hg : g ∈ F.globals) {r : Ref} (hr : g.ref = some r)
    {u : Ref} (hu : u ∈ g.uses F) :
    ∃ v ∈ F.graph.before r ++ F.graph.after r, v.node = u := by
  have hglobal : ∀ vname, g.ref = some (.global vname) → u ∈ (g.children F).map Visit.node →
      r = .global vname → ∃ v ∈ F.graph.before r ++ F.graph.after r, v.node = u := by
    intro vname href hu heq
    obtain ⟨v, hv, rfl⟩ := List.mem_map.mp hu
    subst heq
    refine ⟨v, List.mem_append_left _ (List.mem_flatMap.mpr ⟨g, ?_, hv⟩), rfl⟩
    exact List.mem_reverse.mpr (List.mem_filter.mpr ⟨hg, decide_eq_true href⟩)
  cases g with
  | gType tname =>
      obtain rfl : Ref.typeinfo tname = r := Option.some.inj hr
      obtain ⟨v, hv, rfl⟩ := List.mem_map.mp hu
      exact ⟨v, List.mem_append_left _ hv, rfl⟩
  | gCompTag ckey =>
      obtain rfl : Ref.comp ckey = r := Option.some.inj hr
      obtain ⟨v, hv, rfl⟩ := List.mem_map.mp hu
      exact ⟨v, hv, rfl⟩
  | gVarDecl vname => exact hglobal vname rfl hu (Option.some.inj hr).symm
  | gVar vname init => exact hglobal vname rfl hu (Option.some.inj hr).symm
  | gFun f => exact hglobal f.vname rfl hu (Option.some.inj hr).symm
  | gCompTagDecl _ | gEnumTag _ | gEnumTagDecl _ | gAsm _ | gPragma _ | gText _ =>
      exact absurd hu List.not_mem_nil

/-- And it meets it in the global itself. -/
lemma uses_subset_children {g : Global} {u : Ref} (hu : u ∈ g.uses F) :
    ∃ v ∈ g.children F, v.node = u := by
  cases g with
  | gCompTag ckey =>
      obtain ⟨v, hv, rfl⟩ := List.mem_map.mp hu
      refine ⟨v, ?_, rfl⟩
      rcases List.mem_append.mp hv with hv | hv
      · refine List.mem_append_left _ ?_
        obtain ⟨ci, hci, hv⟩ := List.mem_flatMap.mp hv
        obtain ⟨f, hf, hv⟩ := List.mem_flatMap.mp hv
        exact List.mem_flatMap.mpr
          ⟨ci, hci, List.mem_flatMap.mpr ⟨f, hf, List.mem_append_left _ hv⟩⟩
      · exact List.mem_append_right _ hv
  | gEnumTag ename => exact absurd hu List.not_mem_nil
  | gType _ | gVarDecl _ | gVar _ _ | gFun _ | gCompTagDecl _ | gEnumTagDecl _ | gAsm _
  | gPragma _ | gText _ => exact List.mem_map.mp hu

/-- Whether pragmas or the attribute `used` keep a record. -/
def Keepers.keep (F : File) (k : Keepers) : Ref → Bool
  | .typeinfo tname => k.typedefs.contains tname
  | .enum ename => k.enums.contains ename
  | .comp ckey => (F.compinfo ckey).any fun c =>
      (if c.cstruct then k.structs else k.unions).contains c.cname
  | .global vname => k.defines.contains vname || hasAttribute "used" (F.vattr vname)
  | .local _ => false

/-- Whether a pragma keeps a global depends on what the global is about. -/
lemma isPragmaRoot_eq {k : Keepers} {g : Global} {r : Ref} (hr : g.ref = some r) :
    isPragmaRoot F k g = k.keep F r := by
  cases g with
  | gAsm _ | gPragma _ | gText _ => exact absurd hr (by simp [Global.ref])
  | _ =>
      obtain rfl := Option.some.inj hr
      rfl

/-- A variable is defined once. -/
lemma eq_of_defines (hF : F.WellFormed) {vname : String} {g g' : Global} (hg : g ∈ F.globals)
    (hg' : g' ∈ F.globals) (hdef : g.defines vname = true) (hdef' : g'.defines vname = true) :
    g = g' := by
  have hone := hF.oneDefinition vname
  have hmem := List.mem_filter.mpr ⟨hg, hdef⟩
  have hmem' := List.mem_filter.mpr ⟨hg', hdef'⟩
  match hfilter : F.globals.filter (Global.defines vname) with
  | [] => exact absurd (hfilter ▸ hmem) List.not_mem_nil
  | [x] =>
      rw [hfilter] at hmem hmem'
      rw [List.mem_singleton.mp hmem, List.mem_singleton.mp hmem']
  | x :: y :: zs =>
      rw [hfilter] at hone
      simp at hone

/-- A record has other globals than the root: what they use is met in a root all the same. -/
lemma uses_subset_roots (hF : F.WellFormed) {opts : Options} {k : Keepers} {g₀ g : Global}
    (hg₀ : g₀ ∈ F.globals) (hroot : isRoot opts F k g₀ = true) (hg : g ∈ F.globals) {r : Ref}
    (hr₀ : g₀.ref = some r) (hr : g.ref = some r) {u : Ref} (hu : u ∈ g.uses F) :
    ∃ g₁ ∈ F.globals, isRoot opts F k g₁ = true ∧ g₁.ref = some r ∧
      ∃ v ∈ g₁.children F, v.node = u := by
  have hself : isRoot opts F k g = true →
      ∃ g₁ ∈ F.globals, isRoot opts F k g₁ = true ∧ g₁.ref = some r ∧
        ∃ v ∈ g₁.children F, v.node = u :=
    fun h => ⟨g, hg, h, hr, uses_subset_children hu⟩
  -- a definition beside a root: the root is itself, or keeps it by its name
  have hdefined : ∀ vname, r = .global vname → g.defines vname = true →
      ∃ g₁ ∈ F.globals, isRoot opts F k g₁ = true ∧ g₁.ref = some r ∧
        ∃ v ∈ g₁.children F, v.node = u := by
    rintro vname rfl hdef
    by_cases hpragma : k.keep F (.global vname) = true
    · refine hself ?_
      rw [isRoot, isPragmaRoot_eq hr, hpragma, Bool.true_or]
    · rw [isRoot, isPragmaRoot_eq hr₀, Bool.eq_false_of_not_eq_true hpragma,
        Bool.false_or] at hroot
      cases g₀ with
      | gVarDecl v =>
          obtain rfl : v = vname := by simpa [Global.ref] using hr₀
          have hmem := List.mem_filter.mpr ⟨hg, hdef⟩
          rw [hF.noAlias v hroot] at hmem
          exact absurd hmem List.not_mem_nil
      | gVar v init =>
          obtain rfl : v = vname := by simpa [Global.ref] using hr₀
          obtain rfl := eq_of_defines hF hg hg₀ hdef (decide_eq_true rfl)
          exact hself (by rw [isRoot, hroot, Bool.or_true])
      | gFun f =>
          obtain rfl : f.vname = vname := by simpa [Global.ref] using hr₀
          obtain rfl := eq_of_defines hF hg hg₀ hdef (decide_eq_true rfl)
          exact hself (by rw [isRoot, hroot, Bool.or_true])
      | _ => exact absurd hr₀ (by simp [Global.ref])
  cases g with
  | gType tname =>
      obtain rfl := Option.some.inj hr
      refine hself ?_
      cases g₀ with
      | gType _ =>
          obtain rfl : _ = tname := by simpa [Global.ref] using hr₀
          exact hroot
      | _ => exact absurd hr₀ (by simp [Global.ref])
  | gCompTag ckey =>
      obtain rfl := Option.some.inj hr
      refine hself ?_
      have hpragma : k.keep F (.comp ckey) = true := by
        rw [isRoot, isPragmaRoot_eq hr₀, Bool.or_eq_true] at hroot
        refine hroot.resolve_right ?_
        cases g₀ with
        | gCompTag _ | gCompTagDecl _ => exact Bool.false_ne_true
        | _ => exact absurd hr₀ (by simp [Global.ref])
      rw [isRoot, isPragmaRoot_eq hr, hpragma, Bool.true_or]
  | gVarDecl vname =>
      obtain rfl := Option.some.inj hr
      refine ⟨g₀, hg₀, hroot, hr₀, ?_⟩
      obtain ⟨v, hv, rfl⟩ := List.mem_map.mp hu
      refine ⟨v, ?_, rfl⟩
      have hv : v ∈ F.vdecVisits vname := hv
      cases g₀ with
      | gVarDecl _ =>
          obtain rfl : _ = vname := by simpa [Global.ref] using hr₀
          exact hv
      | gVar _ init =>
          obtain rfl : _ = vname := by simpa [Global.ref] using hr₀
          exact List.mem_append_left _ hv
      | gFun f =>
          obtain rfl : _ = vname := by simpa [Global.ref] using hr₀
          simp only [Global.children, List.mem_append]
          exact Or.inl (Or.inl (Or.inl hv))
      | _ => exact absurd hr₀ (by simp [Global.ref])
  | gVar vname init =>
      obtain rfl := Option.some.inj hr
      exact hdefined vname rfl (decide_eq_true rfl)
  | gFun f =>
      obtain rfl := Option.some.inj hr
      exact hdefined f.vname rfl (decide_eq_true rfl)
  | gCompTagDecl _ | gEnumTag _ | gEnumTagDecl _ | gAsm _ | gPragma _ | gText _ =>
      exact absurd hu List.not_mem_nil

/-! ## The marks -/

/-- The roots of the traversal. -/
lemma mem_roots {isRoot : Global → Bool} {root : Ref × List Visit} :
    root ∈ ((F.globals.filter isRoot).filterMap fun g => g.ref.map fun r => (r, g.children F)) ↔
      ∃ g ∈ F.globals, isRoot g = true ∧ g.ref = some root.1 ∧ g.children F = root.2 := by
  simp only [List.mem_filterMap, List.mem_filter, Option.map_eq_some_iff]
  constructor
  · rintro ⟨g, ⟨hg, hroot⟩, r, hr, rfl⟩
    exact ⟨g, hg, hroot, hr, rfl⟩
  · rintro ⟨g, hg, hroot, hr, hchildren⟩
    exact ⟨g, ⟨hg, hroot⟩, root.1, hr, by rw [hchildren]⟩

/-- What the traversal from the roots gives. -/
lemma markReachable_closed (isRoot : Global → Bool) :
    (∀ g ∈ F.globals, isRoot g = true → ∀ r, g.ref = some r → r ∈ markReachable F isRoot ∧
      ∀ v ∈ g.children F, v.node ∈ markReachable F isRoot) ∧
    ∀ r ∈ markReachable F isRoot, r.IsEnum ∨
      (∃ g ∈ F.globals, isRoot g = true ∧ g.ref = some r) ∨
      F.graph.Covered (markReachable F isRoot) r := by
  have hrefs : ∀ root ∈ ((F.globals.filter isRoot).filterMap fun g =>
      g.ref.map fun r => (r, g.children F)), ∀ n ∈ Visit.nodesOf root.2, n ∈ F.refs.toFinset := by
    intro root hroot n hn
    obtain ⟨g, hg, -, -, hchildren⟩ := mem_roots.mp hroot
    rw [← hchildren] at hn
    refine List.mem_toFinset.mpr ?_
    simp only [File.refs, List.mem_append, Visit.mem_nodesOf_flatMap]
    exact Or.inl (Or.inl (Or.inl ⟨g, hg, hn⟩))
  have hmarks := Graph.markRoots_closed ∅ (closed_refs F) hrefs (List.toFinset_card_le F.refs)
  constructor
  · intro g hg hroot r hr
    exact hmarks.1 (r, g.children F) (mem_roots.mpr ⟨g, hg, hroot, hr, rfl⟩)
  · intro r hr
    rcases hmarks.2 r hr (Finset.notMem_empty r) with h | ⟨root, hroot, rfl⟩ | h
    · exact Or.inl h
    · obtain ⟨g, hg, hisRoot, hr, -⟩ := mem_roots.mp hroot
      exact Or.inr (Or.inl ⟨g, hg, hisRoot, hr⟩)
    · exact Or.inr (Or.inr h)

/-- **A global that stays uses only what is marked.** -/
theorem marked_uses (hF : F.WellFormed) (opts : Options) (k : Keepers) {g : Global}
    (hg : g ∈ F.globals) (hstays : stays (markReachable F (isRoot opts F k)) g = true) {u : Ref}
    (hu : u ∈ g.uses F) : u ∈ markReachable F (isRoot opts F k) := by
  obtain ⟨hroots, hcovers⟩ := markReachable_closed (F := F) (isRoot opts F k)
  cases hr : g.ref with
  | none =>
      cases g with
      | gAsm _ | gPragma _ | gText _ => exact absurd hu List.not_mem_nil
      | _ => exact absurd hr (by simp [Global.ref])
  | some r =>
      have hmarked : r ∈ markReachable F (isRoot opts F k) := by
        simpa [stays, hr] using hstays
      rcases hcovers r hmarked with ⟨ename, rfl⟩ | ⟨g₀, hg₀, hroot, hr₀⟩ | hcovered
      · cases g with
        | gEnumTag _ | gEnumTagDecl _ => exact absurd hu List.not_mem_nil
        | _ => exact absurd hr (by simp [Global.ref])
      · obtain ⟨g₁, hg₁, hroot₁, hr₁, v, hv, rfl⟩ := uses_subset_roots hF hg₀ hroot hg hr₀ hr hu
        exact (hroots g₁ hg₁ hroot₁ r hr₁).2 v hv
      · obtain ⟨v, hv, rfl⟩ := uses_subset_behind hg hr hu
        exact hcovered v hv

end

/-! ## The file that is left -/

section

variable {F : File}

/-- The alias attributes of the file are all read. -/
lemma categorizePragmas_ok (hF : F.WellFormed) : ∃ k, categorizePragmas F = .ok k := by
  refine exists_foldlM (fun k g => ?_) F.globals Keepers.empty
  cases g with
  | gVarDecl vname =>
      rw [considerPragma]
      rcases hF.aliasArgs vname with h | ⟨n, s, h⟩
      · exact ⟨k, by rw [h]⟩
      · exact ⟨_, by rw [h]⟩
  | gPragma a =>
      cases a with
      | attr directive args => exact ⟨_, rfl⟩
  | _ => exact ⟨k, rfl⟩

/-- No mark stands where no root leads. -/
lemma markReachable_sound {isRoot : Global → Bool} {r : Ref} (hr : r ∈ markReachable F isRoot) :
    Mentioned F isRoot r := by
  rcases Graph.markRoots_sound hr with h | ⟨root, hroot, h⟩
  · exact absurd h (Finset.notMem_empty r)
  · obtain ⟨g, hg, hisRoot, href, hchildren⟩ := mem_roots.mp hroot
    rcases h with rfl | h
    · exact .root hg hisRoot href
    · clear hr
      induction h with
      | met hm => exact .inRoot hg hisRoot (hchildren ▸ hm)
      | before _ hm ih => exact ih.behind (Visit.mem_nodesOf_append.mpr (Or.inl hm))
      | after _ hm ih => exact ih.behind (Visit.mem_nodesOf_append.mpr (Or.inr hm))

/-- A well-formed function loses unmarked locals and labels only. -/
lemma filterLocals_ok (marked : Finset Ref) {g : Global}
    (hg : ∀ f, g = .gFun f → f.body.WellFormed ∧ Labels.Distinct f.body) :
    ∃ g', filterLocals marked g = .ok g' ∧ Trimmed marked g g' := by
  cases g with
  | gFun f =>
      obtain ⟨hwf, hdistinct⟩ := hg f rfl
      refine ⟨_, by rw [filterLocals, Labels.cleanLabels_eq hwf hdistinct, ok_bind], .gFun rfl ?_⟩
      exact Labels.withoutUnused_cleaned hwf hdistinct
  | _ => exact ⟨_, rfl, .other fun f hf => by cases hf⟩

/-- **Unused globals are removed**: the pass goes through, and nothing that stays lacks anything. -/
theorem removeUnusedTemps_sweeps (opts : Options) (F : File) (hF : F.WellFormed)
    (hkeep : opts.keepUnused = false) :
    ∃ k marked F', categorizePragmas F = .ok k ∧ removeUnusedTemps opts F = .ok F' ∧
      Sweeps F (isRoot opts F k) marked F' := by
  obtain ⟨k, hk⟩ := categorizePragmas_ok hF
  set marked := markReachable F (isRoot opts F k) with hmarked
  have hlist : ∀ gs : List Global, (∀ g ∈ gs, g ∈ F.globals) →
      ∃ gs', gs.mapM (filterLocals marked) = .ok gs' ∧ List.Forall₂ (Trimmed marked) gs gs' := by
    intro gs hgs
    induction gs with
    | nil => exact ⟨[], rfl, .nil⟩
    | cons g gs ih =>
        obtain ⟨g', hg', htrim⟩ := filterLocals_ok marked (g := g) fun f hf =>
          hF.bodies f (hf ▸ hgs g List.mem_cons_self)
        obtain ⟨gs', hgs', hall⟩ := ih fun x hx => hgs x (List.mem_cons_of_mem _ hx)
        refine ⟨g' :: gs', ?_, .cons htrim hall⟩
        rw [List.mapM_cons, hg', ok_bind, hgs']
        rfl
  obtain ⟨gs', hgs', hall⟩ := hlist (F.globals.filter (stays marked)) fun g hg =>
    (List.mem_filter.mp hg).1
  refine ⟨k, marked, { F with globals := gs' }, hk, ?_, ?_⟩
  · rw [removeUnusedTemps, hkeep, if_neg Bool.false_ne_true, hk, ok_bind, removeUnmarked, hgs',
      ok_bind]
  · constructor
    case tables => rfl
    case globals => exact hall
    case roots =>
      intro g hg hroot
      cases hr : g.ref with
      | none => rw [stays, hr, Option.all_none]
      | some r =>
          rw [stays, hr, Option.all_some]
          exact decide_eq_true ((markReachable_closed (isRoot opts F k)).1 g hg hroot r hr).1
    case closed => exact fun g hg hstays u hu => marked_uses hF opts k hg hstays hu
    case needed => exact fun r hr => markReachable_sound hr

end

/-! ## A driver file -/

/-- `static void release(void) { struct old o; kfree(); }`, which nothing calls. -/
def release : Fundec where
  vname := "release"
  slocals := [⟨1, .tComp 3 [], []⟩]
  sformals := []
  sbody := [.instr (.source 0) [.call none (.lval (.var (.global "kfree") .noOffset)) []],
    .ret (.source 1) none]
  labels := fun _ => []
  caseExp := fun _ => .const

/-- `int probe(dev_t *d) { int err, tmp; err = printk(); return err; }` -/
def probe : Fundec where
  vname := "probe"
  slocals := [⟨2, .tInt [], []⟩, ⟨3, .tInt [], []⟩]
  sformals := [⟨4, .tPtr (.tNamed "dev_t" []) [], []⟩]
  sbody := [.instr (.source 0) [.call (some (.var (.local 2) .noOffset))
      (.lval (.var (.global "printk") .noOffset)) []],
    .ret (.source 1) (some (.lval (.var (.local 2) .noOffset)))]
  labels := fun _ => []
  caseExp := fun _ => .const

/-- A driver file: `dev_t` is `struct dev`, which points to `struct ops`. -/
def driverFile : File where
  globals := [.gCompTag 2, .gCompTag 1, .gType "dev_t", .gCompTag 3, .gVarDecl "printk",
    .gVarDecl "kfree", .gFun release, .gFun probe]
  typeinfos := [⟨"dev_t", .tComp 1 []⟩]
  compinfos := [⟨1, "dev", true, [⟨.tInt [], []⟩, ⟨.tPtr (.tComp 2 []) [], []⟩], []⟩,
    ⟨2, "ops", true, [⟨.tPtr (.tVoid []) [], []⟩], []⟩, ⟨3, "old", true, [⟨.tInt [], []⟩], []⟩]
  enuminfos := []
  varinfos := [⟨"printk", .tFun (.tInt []) [] [], [], .externStorage, false⟩,
    ⟨"kfree", .tFun (.tVoid []) [] [], [], .externStorage, false⟩,
    ⟨"release", .tFun (.tVoid []) [] [], [], .static, false⟩,
    ⟨"probe", .tFun (.tInt []) [.formal "d" (.tPtr (.tNamed "dev_t" []) []) []] [], [],
      .noStorage, false⟩]

lemma driverFile_wellFormed : driverFile.WellFormed := by
  have hvattr : ∀ vname, driverFile.vattr vname = [] := by
    intro vname
    have hall : ∀ vi ∈ driverFile.varinfos, vi.vattr = [] := by simp [driverFile]
    refine List.flatMap_eq_nil_iff.mpr fun vi hvi => hall vi ?_
    exact (mem_of_find hvi).1
  constructor
  case oneDefinition =>
    intro vname
    simp only [driverFile, List.filter_cons, Global.defines, release, probe, List.filter_nil,
      decide_eq_true_eq, Bool.false_eq_true, if_false]
    by_cases h : "release" = vname
    · subst h
      decide
    · rw [if_neg h]
      split_ifs <;> decide
  case noAlias =>
    intro vname halias
    rw [hvattr] at halias
    exact absurd halias Bool.false_ne_true
  case aliasArgs =>
    intro vname
    rw [hvattr]
    exact Or.inl rfl
  case bodies =>
    intro f hf
    obtain rfl | rfl : f = release ∨ f = probe := by simpa [driverFile] using hf
    · constructor
      · constructor <;> simp [Fundec.body, release, eraseBlock, Stmt.erase, idsOf, Cil.Stmt.ids,
          recordsOf, Cil.Stmt.records, gotosOf, Cil.Stmt.gotos]
      · constructor <;> simp [Fundec.body, release, eraseBlock, Stmt.erase, recordsOf,
          Cil.Stmt.records]
    · constructor
      · constructor <;> simp [Fundec.body, probe, eraseBlock, Stmt.erase, idsOf, Cil.Stmt.ids,
          recordsOf, Cil.Stmt.records, gotosOf, Cil.Stmt.gotos]
      · constructor <;> simp [Fundec.body, probe, eraseBlock, Stmt.erase, recordsOf,
          Cil.Stmt.records]

/-- A driver with one type and one function that nothing uses. -/
theorem driverFile_sweeps :
    ∃ k marked F', categorizePragmas driverFile = .ok k ∧
      removeUnusedTemps ⟨false, false⟩ driverFile = .ok F' ∧
      Sweeps driverFile (isRoot ⟨false, false⟩ driverFile k) marked F' :=
  removeUnusedTemps_sweeps ⟨false, false⟩ driverFile driverFile_wellFormed rfl

/-- `release` goes, and with it `kfree` and `struct old`. -/
example : ((removeUnusedTemps ⟨false, false⟩ driverFile).toOption.map fun F =>
      F.globals.filterMap Global.ref) =
    some [.comp 2, .comp 1, .typeinfo "dev_t", .global "printk", .global "probe"] := by
  decide

end SymDrive.Cil.Unused
