import Mathlib.Data.List.Chain
import SymDrive.Cil.Syntax

/-!
# The control-flow graph of a body

`cfg.ml`.  `cfgStmt` gives every statement record its successors, from its kind and from where
control goes next, on a `Break` and on a `Continue`.  Here `cfgStmt` lists the records with that
context, and `succs` is the field computed from it.

`Ctx.loops` is no part of `cfg.ml`: it is the list of loops around a statement, innermost first,
that later results speak about.
-/

namespace SymDrive.Cil

/-- The arguments `next`, `break` and `cont` of `cfgStmt`, and the loops around the statement. -/
structure Ctx where
  next : Option Sid
  brk : Option Sid
  cont : Option Sid
  loops : List Sid

/-- The context of the body of a function. -/
def Ctx.top : Ctx := ⟨none, none, none, []⟩

/-- Where control goes that enters a block: its first statement, or past it. -/
def entry (ss : List Stmt) (next : Option Sid) : Option Sid :=
  match ss with
  | [] => next
  | s :: _ => some s.id

/-- A record with its context. -/
abbrev Node := Stmt × Ctx

/-- The context of the body of `loop`. -/
def Ctx.inLoop (c : Ctx) (loop : Sid) : Ctx :=
  { next := some loop, brk := c.next, cont := some loop, loops := loop :: c.loops }

mutual

/-- `cfgStmt`: the nodes of a statement in a given context. -/
def cfgStmt (c : Ctx) : Stmt → List Node
  | .instr id i => [(.instr id i, c)]
  | .ret id e => [(.ret id e, c)]
  | .goto id t => [(.goto id t, c)]
  | .brk id => [(.brk id, c)]
  | .cont id => [(.cont id, c)]
  | .cond id b1 b2 => (.cond id b1 b2, c) :: (cfgBlock c b1 ++ cfgBlock c b2)
  | .switch id b => (.switch id b, c) :: cfgBlock { c with brk := c.next } b
  | .loop id b => (.loop id b, c) :: cfgBlock (c.inLoop id) b
  | .block id b => (.block id b, c) :: cfgBlock c b

/-- `cfgStmts`: the statements of a block, each going on at the next one. -/
def cfgBlock (c : Ctx) : List Stmt → List Node
  | [] => []
  | s :: ss => cfgStmt { c with next := entry ss c.next } s ++ cfgBlock c ss

end

/-- Whether a `Switch` can go to the label. -/
def Label.isCase : Label → Bool
  | .label _ _ => false
  | .case _ | .default => true

mutual

/-- The visitor does not look into a nested `Switch`. -/
def Stmt.caseLabeled (labels : Sid → List Label) : Stmt → List Sid
  | .instr id _ | .ret id _ | .goto id _ | .brk id | .cont id | .switch id _ =>
      if (labels id).any Label.isCase then [id] else []
  | .cond id b1 b2 => (if (labels id).any Label.isCase then [id] else []) ++
      (findCaseLabeledStmts labels b1 ++ findCaseLabeledStmts labels b2)
  | .loop id b | .block id b => (if (labels id).any Label.isCase then [id] else []) ++
      findCaseLabeledStmts labels b

/-- `findCaseLabeledStmts`: the statements of a block that a `Switch` can go to. -/
def findCaseLabeledStmts (labels : Sid → List Label) : List Stmt → List Sid
  | [] => []
  | s :: ss => s.caseLabeled labels ++ findCaseLabeledStmts labels ss

end

/-- The successors of a record. -/
def Node.succs (labels : Sid → List Label) : Node → List Sid
  | (.instr _ (.code fallsThrough), c) => if fallsThrough then c.next.toList else []
  | (.instr _ (.call _), c) => c.next.toList
  | (.ret _ _, _) => []
  | (.goto _ target, _) => [target]
  | (.brk _, c) => c.brk.toList
  | (.cont _, c) => c.cont.toList
  | (.cond _ b1 b2, c) => (entry b2 c.next).toList ++ (entry b1 c.next).toList
  | (.block _ b, c) => (entry b c.next).toList
  | (.switch _ b, c) =>
      let cases := findCaseLabeledStmts labels b
      cases ++ if cases.any fun x => (labels x).contains .default then [] else c.next.toList
  | (.loop id b, _) => (entry b (some id)).toList

namespace Body

def nodes (b : Body) : List Node := cfgBlock Ctx.top b.stmts

/-- The node of an identity. -/
def nodeAt (b : Body) (x : Sid) : Option Node := b.nodes.find? fun n => n.1.id = x

/-- The edges of the graph. -/
def Edge (b : Body) (x y : Sid) : Prop := ∃ n ∈ b.nodes, n.1.id = x ∧ y ∈ n.succs b.labels

instance (b : Body) (x y : Sid) : Decidable (b.Edge x y) :=
  inferInstanceAs (Decidable (∃ n ∈ b.nodes, n.1.id = x ∧ y ∈ n.succs b.labels))

/-- An execution path from the entry of the function on.  It ends where a `Goto` leads to a record
that stands nowhere in the body. -/
structure IsPath (b : Body) (path : List Sid) : Prop where
  starts : path.head? = entry b.stmts none
  follows : path.IsChain b.Edge
  inside : ∀ x ∈ path, x ∈ idsOf b.stmts

end Body

/-- Behind an instruction comes what its context says. -/
lemma next_of_mem_succs {labels : Sid → List Label} {id : Sid} {i : Instr} {c : Ctx} {y : Sid}
    (h : y ∈ Node.succs labels (.instr id i, c)) : c.next = some y := by
  cases i with
  | code fallsThrough =>
      cases fallsThrough
      · simp [Node.succs] at h
      · simpa [Node.succs] using h
  | call k => simpa [Node.succs] using h

/-! ## Blocks one after the other -/

lemma entry_append (ss ss' : List Stmt) (next : Option Sid) :
    entry (ss ++ ss') next = entry ss (entry ss' next) := by
  cases ss <;> rfl

/-- The nodes of two blocks, the first of which goes on at the second. -/
lemma cfgBlock_append (ss ss' : List Stmt) (c : Ctx) :
    cfgBlock c (ss ++ ss') =
      cfgBlock { c with next := entry ss' c.next } ss ++ cfgBlock c ss' := by
  induction ss with
  | nil => rfl
  | cons s ss ih =>
      simp only [List.cons_append, cfgBlock, ih, entry_append, List.append_assoc]

lemma mem_cfgBlock_left {n : Node} {ss ss' : List Stmt} {c : Ctx}
    (h : n ∈ cfgBlock { c with next := entry ss' c.next } ss) : n ∈ cfgBlock c (ss ++ ss') := by
  rw [cfgBlock_append]
  exact List.mem_append_left _ h

lemma mem_cfgBlock_right {n : Node} {ss' : List Stmt} {c : Ctx} (ss : List Stmt)
    (h : n ∈ cfgBlock c ss') : n ∈ cfgBlock c (ss ++ ss') := by
  rw [cfgBlock_append]
  exact List.mem_append_right _ h

/-- The first statement of a block goes on at the entry of the rest. -/
lemma head_mem_cfgBlock (c : Ctx) (s : Stmt) (ss : List Stmt) :
    (s, { c with next := entry ss c.next }) ∈ cfgBlock c (s :: ss) := by
  rw [cfgBlock]
  refine List.mem_append_left _ ?_
  cases s <;> simp [cfgStmt]

lemma cfgBlock_singleton (s : Stmt) (c : Ctx) : cfgBlock c [s] = cfgStmt c s := by
  simp only [cfgBlock, entry, List.append_nil]

lemma cfgBlock_cons (c : Ctx) (s : Stmt) (ss : List Stmt) :
    cfgBlock c (s :: ss) =
      cfgBlock { c with next := entry ss c.next } [s] ++ cfgBlock c ss := by
  rw [cfgBlock, cfgBlock_singleton]

end SymDrive.Cil
