import Mathlib.Data.List.Basic
import SymDrive.Library.Checked
import SymDrive.Cil.Syntax

/-!
# The prioritization pass

`pass_add_prioritization` of `root_annot_dri.ml`.  It puts calls of `s2e_loop_before`,
`s2e_loop_body` and `s2e_loop_after` around and into every loop, a call of the function's `postfn`
and of its driver macro in front of every return, and a call of its `prefn`, which can bypass the
whole body, at its entry.

The first phase inserts the calls.  The second one redirects every `Goto` to the return statement
or to a labelled loop, so that it goes to the calls in front of them.

The pass changes records in place.  Here a phase returns the new block, and `labels`, the field
that is written at a distance, is part of the state.  A key of `loop_label_tbl` changes after it is
added, so whether `Hashtbl.find` hits it depends on the runtime: `hits g` says whether the lookup
made for the `Goto` `g` does.
-/

namespace SymDrive.Cil

open Checked

/-- `fatal` prints its message and stops the compiler. -/
abbrev Fatal := String

/-- A function definition: what the pass reads of it. -/
structure Fundec where
  vname : String
  sbody : Body
  returnsVoid : Bool

/-- The arguments of the pass: the functions that have a pair of `prefn` and `postfn`, those whose
negative return values are successes, and those with a driver macro. -/
structure PassArgs where
  prepostfnFuncs : List String
  nonstandardRetvalFns : List String
  drivermacroFns : List String

/-- The mutable fields of the pass, and the `labels` field of every record. -/
structure PassState where
  returnStmtOpt : Option Sid
  preReturnStmts : List Sid
  loopLabelTbl : List (Sid × Sid)
  currentId : ℤ
  loopDepth : ℤ
  labels : Sid → List Label

/-- The fields of the object when it is made. -/
def PassState.initial : PassState where
  returnStmtOpt := none
  preReturnStmts := []
  loopLabelTbl := []
  currentId := 0
  loopDepth := 0
  labels := fun _ => []

inductive Phase where
  | one
  | two

/-! ## The calls around the body -/

section

variable (a : PassArgs) (f : Fundec)

/-- `gen_drivermacro`, in front of the return `s`. -/
def genDrivermacroCall (s : Sid) : List Stmt :=
  if f.vname ∈ a.drivermacroFns then [.instr (.drivermacroCall s) (.call .drivermacroCall)] else []

def canInstrumentFn (e : RetExp) : Bool :=
  e.supportedRetType && decide (f.vname ∉ a.nonstandardRetvalFns)

mutual

/-- `block_analyze` does not look into loops, switches and blocks. -/
def Stmt.analyze : Stmt → List (Option RetExp)
  | .ret _ e => [e]
  | .cond _ b1 b2 => stmtsAnalyze b1 ++ stmtsAnalyze b2
  | .instr _ _ | .goto _ _ | .brk _ | .cont _ | .switch _ _ | .loop _ _ | .block _ _ => []

def stmtsAnalyze : List Stmt → List (Option RetExp)
  | [] => []
  | s :: ss => s.analyze ++ stmtsAnalyze ss

end

/-- The pass inserts no return before it is done with a function, so it finds the same returns
whenever it asks. -/
def returnStmtFind : Except Fatal (Option RetExp) :=
  match stmtsAnalyze f.sbody.stmts with
  | [e] => .ok e
  | _ => .error ("Expected one return statement in: " ++ f.vname)

/-- The lvalue that is returned, if anything is. -/
def retvalLval : Except Fatal (Option RetExp) :=
  if f.returnsVoid then .ok none
  else do
    let e ← returnStmtFind f
    match e with
    | some e =>
        if e.lval then .ok (some e) else .error ("Unexpected return statement in " ++ f.vname)
    | none => .error ("Unexpected return statement in " ++ f.vname)

def genPrefn : Except Fatal (List Stmt) := do
  let retvalLvalOpt ← retvalLval f
  if f.vname ∈ a.prepostfnFuncs then
    .ok [.instr .prefn (.call .prefn),
      .cond .bypassIf [.instr .bypassPostfn (.call (.postfn false)),
        .ret .bypassReturn retvalLvalOpt] []]
  else .ok []

/-- `gen_postfn`, in front of the return `s`. -/
def genPostfn (s : Sid) (retvalExpOption : Option RetExp) : Except Fatal (List Stmt) := do
  let _ ← retvalLval f
  if f.vname ∈ a.prepostfnFuncs then
    .ok [.instr (.postfn s) (.call (.postfn retvalExpOption.isSome))]
  else .ok []

end

/-! ## Labels, gotos and loops -/

/-- `move_label`. -/
def moveLabel (labels : Sid → List Label) (dest src : Sid) : Sid → List Label :=
  Function.update (Function.update labels dest (labels src ++ labels dest)) src []

/-- `process_goto` for the statement `g`. -/
def processGoto (p : PassState) (g src : Sid) (dest : List Sid) :
    Except Fatal (List Stmt × PassState) :=
  let afterStmts :=
    if p.loopDepth > 0 then
      (List.range p.loopDepth.toNat).map fun i =>
        Stmt.instr (.gotoAfter g i) (.call (.s2eLoopAfter p.currentId))
    else []
  match dest with
  | [first] | [first, _] =>
      .ok (afterStmts ++ [.goto (.newGoto g) first],
        { p with labels := moveLabel p.labels first src })
  | _ => .error "Unexpected list length in process_goto"

def Stmt.isJumpOut : Stmt → Bool
  | .brk _ | .cont _ => true
  | _ => false

/-- The call in the loop body stands before a `Break` or `Continue` that ends the body. -/
def addLoopBody (call : Stmt) (body : List Stmt) : List Stmt :=
  match body.getLast? with
  | some last => if last.isJumpOut then body.dropLast ++ [call] ++ [last] else body ++ [call]
  | none => body ++ [call]

/-- `process_loop`: the labels of the loop move to the call before it. -/
def processLoop (p : PassState) (l : Sid) (body : List Stmt) : List Stmt × PassState :=
  let newStmts := addLoopBody (.instr (.loopBody l) (.call (.s2eLoopBody p.currentId))) body
  let p' :=
    if (p.labels l).length > 0 then
      { p with loopLabelTbl := (l, .loopBefore l) :: p.loopLabelTbl,
               labels := moveLabel p.labels (.loopBefore l) l }
    else p
  ([.instr (.loopBefore l) (.call (.s2eLoopBefore p.currentId)), .loop l newStmts,
    .instr (.loopAfter l) (.call (.s2eLoopAfter p.currentId))], p')

/-- `Hashtbl.find`, where `hit` says whether the key is found if it was added. -/
def hashtblFind (hit : Bool) (tbl : List (Sid × Sid)) (key : Sid) : Option Sid :=
  if hit then tbl.lookup key else none

/-! ## The two phases -/

section

variable (a : PassArgs) (f : Fundec) (hits : Sid → Bool)

mutual

def processStmt (phase : Phase) (p : PassState) : Stmt → Except Fatal (List Stmt × PassState)
  | .goto g target =>
      match p.returnStmtOpt, p.preReturnStmts with
      | some returnStmt, pre :: pres =>
          match phase with
          | .one => .ok ([.goto g target], p)
          | .two =>
              if target = returnStmt then processGoto p g returnStmt (pre :: pres)
              else
                match hashtblFind (hits g) p.loopLabelTbl target with
                | some loopBefore => processGoto p g target [loopBefore]
                | none => .ok ([.goto g target], p)
      | _, _ => .ok ([.goto g target], p)
  | .ret s e =>
      match phase with
      | .one => do
          let retvalExpOption := e.filter (canInstrumentFn a f)
          let newEndingStmts ← genPostfn a f s retvalExpOption
          let pre := newEndingStmts ++ genDrivermacroCall a f s
          .ok (pre ++ [.ret s e],
            { p with preReturnStmts := pre.map Stmt.id, returnStmtOpt := some s })
      | .two => .ok ([.ret s e], p)
  | .loop l b => do
      let (b, p) ← processBlock phase p b
      match phase with
      | .one =>
          let p := { p with loopDepth := p.loopDepth + 1, currentId := p.currentId + 1 }
          let (newStmts, p) := processLoop p l b
          .ok (newStmts, { p with loopDepth := p.loopDepth - 1 })
      | .two => .ok ([.loop l b], { p with loopDepth := p.loopDepth - 1 })
  | .cond id b1 b2 => do
      let (b1, p) ← processBlock phase p b1
      let (b2, p) ← processBlock phase p b2
      .ok ([.cond id b1 b2], p)
  | .switch id b => do
      let (b, p) ← processBlock phase p b
      .ok ([.switch id b], p)
  | .block id b => do
      let (b, p) ← processBlock phase p b
      .ok ([.block id b], p)
  | .instr id i => .ok ([.instr id i], p)
  | .brk id => .ok ([.brk id], p)
  | .cont id => .ok ([.cont id], p)

def processBlock (phase : Phase) (p : PassState) :
    List Stmt → Except Fatal (List Stmt × PassState)
  | [] => .ok ([], p)
  | s :: ss => do
      let (s, p) ← processStmt phase p s
      let (ss, p) ← processBlock phase p ss
      .ok (s ++ ss, p)

end

end

section

variable (a : PassArgs) (hits : Sid → Bool)

/-- `vglob` on a function definition.  `current_id` and `loop_depth` are not reset. -/
def vglob (p : PassState) (f : Fundec) : Except Fatal (Body × PassState) := do
  let p := { p with returnStmtOpt := none, preReturnStmts := [], loopLabelTbl := [],
                    labels := f.sbody.labels }
  let (newStmts1, p) ← processBlock a f hits .one p f.sbody.stmts
  let (newStmts2, p) ← processBlock a f hits .two p newStmts1
  let newPrefnStmts ← genPrefn a f
  .ok ({ stmts := newPrefnStmts ++ newStmts2, labels := p.labels }, p)

def processFrom (p : PassState) : List Fundec → Except Fatal (List Body)
  | [] => .ok []
  | f :: fs => do
      let (b, p) ← vglob a hits p f
      let bs ← processFrom p fs
      .ok (b :: bs)

/-- The pass over the functions of a file. -/
def process (file : List Fundec) : Except Fatal (List Body) :=
  processFrom a hits PassState.initial file

end

end SymDrive.Cil
