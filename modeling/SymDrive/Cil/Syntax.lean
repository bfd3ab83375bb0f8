import Mathlib.Data.Int.Notation
import Mathlib.Data.List.Basic
import Mathlib.Data.List.Nodup
import Mathlib.Tactic.Basic

/-!
# Statements of CIL

The part of CIL's abstract syntax (`cil.ml`) that the prioritization pass looks at: statements,
their labels, and what decides where control goes.  Expressions, types and locations are left out.

A statement of CIL is a mutable record, and a `Goto` holds a reference to the record of its target.
`Sid` is the identity of such a record.  The tree holds the identities; the one field that is
written at a distance, `labels`, is a store indexed by them (`Body.labels`).

* `Stmt.induct` — induction over statements, with a hypothesis for every statement of a block.
* `blockInduct` — induction over blocks.
* `Stmt.ids`, `Stmt.gotos`, `Stmt.returns` — what occurs in a tree.
-/

namespace SymDrive.Cil

/-- The identity of a statement record: one of the source, or one that the pass allocates, named
after the statement it is made for. -/
inductive Sid where
  | source (n : ℕ)
  | loopBefore (loop : Sid)
  | loopBody (loop : Sid)
  | loopAfter (loop : Sid)
  | postfn (ret : Sid)
  | drivermacroCall (ret : Sid)
  | gotoAfter (goto : Sid) (i : ℕ)
  | newGoto (goto : Sid)
  | prefn
  | bypassIf
  | bypassPostfn
  | bypassReturn
  deriving DecidableEq, Repr

/-- A label of the source or of CIL, or one of a `Switch`. -/
inductive Label where
  | label (name : String) (source : Bool)
  | case (value : ℤ)
  | default
  deriving DecidableEq, Repr

/-- The calls the pass inserts, with the arguments it chooses. -/
inductive Call where
  | s2eLoopBefore (id : ℤ)
  | s2eLoopBody (id : ℤ)
  | s2eLoopAfter (id : ℤ)
  | prefn
  | postfn (retvalValid : Bool)
  | drivermacroCall
  deriving DecidableEq, Repr

/-- An instruction list: source code, of which only matters whether control falls through (it has no
call of a `noreturn` function), or one inserted call. -/
inductive Instr where
  | code (fallsThrough : Bool)
  | call (c : Call)
  deriving DecidableEq, Repr

/-- The expression of a `Return`: whether it is an lvalue, and whether its type is one of
`supported_ret_type`. -/
structure RetExp where
  lval : Bool
  supportedRetType : Bool
  deriving DecidableEq, Repr

/-- `stmt` with its `stmtkind`. -/
inductive Stmt where
  | instr (id : Sid) (i : Instr)
  | ret (id : Sid) (exp : Option RetExp)
  | goto (id target : Sid)
  | brk (id : Sid)
  | cont (id : Sid)
  | cond (id : Sid) (b1 b2 : List Stmt)
  | switch (id : Sid) (b : List Stmt)
  | loop (id : Sid) (b : List Stmt)
  | block (id : Sid) (b : List Stmt)

namespace Stmt

@[simp] def id : Stmt → Sid
  | instr id _ | ret id _ | goto id _ | brk id | cont id | cond id _ _ | switch id _ | loop id _
  | block id _ => id

/-- Induction over statements. -/
@[elab_as_elim, induction_eliminator]
theorem induct {P : Stmt → Prop} (instr : ∀ id i, P (.instr id i)) (ret : ∀ id e, P (.ret id e))
    (goto : ∀ id t, P (.goto id t)) (brk : ∀ id, P (.brk id)) (cont : ∀ id, P (.cont id))
    (cond : ∀ id b1 b2, (∀ s ∈ b1, P s) → (∀ s ∈ b2, P s) → P (.cond id b1 b2))
    (switch : ∀ id b, (∀ s ∈ b, P s) → P (.switch id b))
    (loop : ∀ id b, (∀ s ∈ b, P s) → P (.loop id b))
    (block : ∀ id b, (∀ s ∈ b, P s) → P (.block id b)) (s : Stmt) : P s :=
  @Stmt.rec P (fun ss => ∀ s ∈ ss, P s) instr ret goto brk cont cond switch loop block (by simp)
    (fun s ss hs hss => by simpa using ⟨hs, hss⟩) s

end Stmt

/-- Induction over blocks: a statement is a block of one statement. -/
@[elab_as_elim]
theorem blockInduct {P : List Stmt → Prop} (nil : P []) (cons : ∀ s ss, P [s] → P ss → P (s :: ss))
    (instr : ∀ id i, P [.instr id i]) (ret : ∀ id e, P [.ret id e])
    (goto : ∀ id t, P [.goto id t]) (brk : ∀ id, P [.brk id]) (cont : ∀ id, P [.cont id])
    (cond : ∀ id b1 b2, P b1 → P b2 → P [.cond id b1 b2])
    (switch : ∀ id b, P b → P [.switch id b]) (loop : ∀ id b, P b → P [.loop id b])
    (block : ∀ id b, P b → P [.block id b]) (ss : List Stmt) : P ss :=
  @Stmt.rec_1 (fun s => P [s]) P instr ret goto brk cont cond switch loop block nil cons ss

/-! ## What occurs in a tree -/

mutual

/-- The identities of all records of a statement. -/
def Stmt.ids : Stmt → List Sid
  | .instr id _ | .ret id _ | .goto id _ | .brk id | .cont id => [id]
  | .cond id b1 b2 => id :: (idsOf b1 ++ idsOf b2)
  | .switch id b | .loop id b | .block id b => id :: idsOf b

/-- The identities in a block. -/
def idsOf : List Stmt → List Sid
  | [] => []
  | s :: ss => s.ids ++ idsOf ss

end

mutual

/-- The `Goto`s of a statement, with their targets. -/
def Stmt.gotos : Stmt → List (Sid × Sid)
  | .goto id target => [(id, target)]
  | .instr _ _ | .ret _ _ | .brk _ | .cont _ => []
  | .cond _ b1 b2 => gotosOf b1 ++ gotosOf b2
  | .switch _ b | .loop _ b | .block _ b => gotosOf b

/-- The `Goto`s in a block, with their targets. -/
def gotosOf : List Stmt → List (Sid × Sid)
  | [] => []
  | s :: ss => s.gotos ++ gotosOf ss

end

mutual

/-- The `Loop`s of a statement, inner ones first. -/
def Stmt.loops : Stmt → List Sid
  | .instr _ _ | .ret _ _ | .goto _ _ | .brk _ | .cont _ => []
  | .cond _ b1 b2 => loopsOf b1 ++ loopsOf b2
  | .switch _ b | .block _ b => loopsOf b
  | .loop id b => loopsOf b ++ [id]

def loopsOf : List Stmt → List Sid
  | [] => []
  | s :: ss => s.loops ++ loopsOf ss

end

mutual

/-- The `Return`s of a statement. -/
def Stmt.returns : Stmt → List Sid
  | .ret id _ => [id]
  | .instr _ _ | .goto _ _ | .brk _ | .cont _ => []
  | .cond _ b1 b2 => returnsOf b1 ++ returnsOf b2
  | .switch _ b | .loop _ b | .block _ b => returnsOf b

/-- The `Return`s in a block. -/
def returnsOf : List Stmt → List Sid
  | [] => []
  | s :: ss => s.returns ++ returnsOf ss

end

mutual

/-- The statements in a statement. -/
def Stmt.records : Stmt → List Stmt
  | .instr id i => [.instr id i]
  | .ret id e => [.ret id e]
  | .goto id t => [.goto id t]
  | .brk id => [.brk id]
  | .cont id => [.cont id]
  | .cond id b1 b2 => .cond id b1 b2 :: (recordsOf b1 ++ recordsOf b2)
  | .switch id b => .switch id b :: recordsOf b
  | .loop id b => .loop id b :: recordsOf b
  | .block id b => .block id b :: recordsOf b

/-- All statements in a block, those inside others included. -/
def recordsOf : List Stmt → List Stmt
  | [] => []
  | s :: ss => s.records ++ recordsOf ss

end

@[simp] lemma idsOf_append (ss ss' : List Stmt) : idsOf (ss ++ ss') = idsOf ss ++ idsOf ss' := by
  induction ss with
  | nil => rfl
  | cons s ss ih => simp only [List.cons_append, idsOf, ih, List.append_assoc]

@[simp] lemma gotosOf_append (ss ss' : List Stmt) :
    gotosOf (ss ++ ss') = gotosOf ss ++ gotosOf ss' := by
  induction ss with
  | nil => rfl
  | cons s ss ih => simp only [List.cons_append, gotosOf, ih, List.append_assoc]

@[simp] lemma loopsOf_append (ss ss' : List Stmt) :
    loopsOf (ss ++ ss') = loopsOf ss ++ loopsOf ss' := by
  induction ss with
  | nil => rfl
  | cons s ss ih => simp only [List.cons_append, loopsOf, ih, List.append_assoc]

@[simp] lemma returnsOf_append (ss ss' : List Stmt) :
    returnsOf (ss ++ ss') = returnsOf ss ++ returnsOf ss' := by
  induction ss with
  | nil => rfl
  | cons s ss ih => simp only [List.cons_append, returnsOf, ih, List.append_assoc]

lemma Stmt.id_mem_ids (s : Stmt) : s.id ∈ s.ids := by
  cases s <;> simp [Stmt.ids]

lemma recordsOf_cons (s : Stmt) (ss : List Stmt) :
    recordsOf (s :: ss) = recordsOf [s] ++ recordsOf ss := by
  simp only [recordsOf, List.append_nil]

@[simp] lemma recordsOf_append (ss ss' : List Stmt) :
    recordsOf (ss ++ ss') = recordsOf ss ++ recordsOf ss' := by
  induction ss with
  | nil => rfl
  | cons s ss ih => simp only [List.cons_append, recordsOf, ih, List.append_assoc]

lemma idsOf_cons (s : Stmt) (ss : List Stmt) : idsOf (s :: ss) = idsOf [s] ++ idsOf ss := by
  simp only [idsOf, List.append_nil]

lemma gotosOf_cons (s : Stmt) (ss : List Stmt) : gotosOf (s :: ss) = gotosOf [s] ++ gotosOf ss := by
  simp only [gotosOf, List.append_nil]

/-- The identities are those of the records. -/
lemma map_id_recordsOf (ss : List Stmt) : (recordsOf ss).map Stmt.id = idsOf ss := by
  induction ss using blockInduct with
  | nil => rfl
  | cons s ss hs hss => rw [recordsOf_cons, List.map_append, hs, hss, ← idsOf_cons]
  | cond id b1 b2 ih1 ih2 => simp [recordsOf, Stmt.records, idsOf, Stmt.ids, ih1, ih2]
  | switch id b ih => simp [recordsOf, Stmt.records, idsOf, Stmt.ids, ih]
  | loop id b ih => simp [recordsOf, Stmt.records, idsOf, Stmt.ids, ih]
  | block id b ih => simp [recordsOf, Stmt.records, idsOf, Stmt.ids, ih]
  | _ => rfl

/-- A `Goto` of a block is one of its records. -/
lemma mem_gotosOf {ss : List Stmt} {g t : Sid} :
    (g, t) ∈ gotosOf ss ↔ .goto g t ∈ recordsOf ss := by
  induction ss using blockInduct with
  | cons s ss hs hss =>
      rw [recordsOf_cons, List.mem_append, ← hs, ← hss]
      simp [gotosOf]
  | cond id b1 b2 ih1 ih2 => simp [gotosOf, Stmt.gotos, recordsOf, Stmt.records, ih1, ih2]
  | switch id b ih => simp [gotosOf, Stmt.gotos, recordsOf, Stmt.records, ih]
  | loop id b ih => simp [gotosOf, Stmt.gotos, recordsOf, Stmt.records, ih]
  | block id b ih => simp [gotosOf, Stmt.gotos, recordsOf, Stmt.records, ih]
  | _ => simp [gotosOf, Stmt.gotos, recordsOf, Stmt.records]

/-- A loop of a block is one of its records. -/
lemma mem_loopsOf {ss : List Stmt} {l : Sid} :
    l ∈ loopsOf ss ↔ ∃ b, .loop l b ∈ recordsOf ss := by
  induction ss using blockInduct with
  | cons s ss hs hss =>
      rw [recordsOf_cons]
      simp only [List.mem_append, exists_or, ← hs, ← hss]
      simp [loopsOf]
  | cond id b1 b2 ih1 ih2 =>
      simp [loopsOf, Stmt.loops, recordsOf, Stmt.records, ih1, ih2, exists_or]
  | switch id b ih => simp [loopsOf, Stmt.loops, recordsOf, Stmt.records, ih]
  | loop id b ih => simp [loopsOf, Stmt.loops, recordsOf, Stmt.records, ih, exists_or, or_comm]
  | block id b ih => simp [loopsOf, Stmt.loops, recordsOf, Stmt.records, ih]
  | _ => simp [loopsOf, Stmt.loops, recordsOf, Stmt.records]

lemma id_mem_idsOf {ss : List Stmt} {s : Stmt} (h : s ∈ recordsOf ss) : s.id ∈ idsOf ss := by
  rw [← map_id_recordsOf]
  exact List.mem_map_of_mem h

/-! ## Function bodies -/

/-- The body of a function: the tree, and the `labels` field of every record. -/
structure Body where
  stmts : List Stmt
  labels : Sid → List Label

/-- What holds of every body that CIL builds from source code: no record is one that the pass
allocates, and a record stands in the tree once; only records of the tree carry labels; a `Goto`
goes to a record of the tree that carries a `Label`. -/
structure Body.WellFormed (b : Body) : Prop where
  source : ∀ x ∈ idsOf b.stmts, ∃ n, x = .source n
  code : ∀ id c, .instr id (.call c) ∉ recordsOf b.stmts
  nodup : (idsOf b.stmts).Nodup
  labels : ∀ x, x ∉ idsOf b.stmts → b.labels x = []
  targets : ∀ p ∈ gotosOf b.stmts, p.2 ∈ idsOf b.stmts ∧
    ∃ name source, Label.label name source ∈ b.labels p.2

/-- One-return form: the only `Return` is the last statement of the body. -/
def Body.OneReturn (b : Body) : Prop :=
  ∃ init r e, b.stmts = init ++ [.ret r e] ∧ returnsOf init = []

end SymDrive.Cil
