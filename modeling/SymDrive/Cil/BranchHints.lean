import Mathlib.Data.List.Basic
import Mathlib.Tactic.Basic
import SymDrive.Cil.Prioritization

/-!
# Branch hints

`pass_builtin_expect` of `root_annot_dri.ml`.  A call of `__builtin_expect` tells which value is
likely; behind it the pass puts a conditional that prioritizes the path on which the hint is right.

The pass means to split the instructions of a statement at the hints.  `split_instrs` never splits:
it appends every instruction to its last list, and the list has the hint of its first instruction.

`branch_hints_iff` — the pass does what it is for exactly if a hint always is the one instruction of
its statement and has no label.  A hint behind another instruction is not seen, a hint in front of
one has its conditional too late, and with a hint the labels of its statement are lost.  The pass
receives no such block: `calls_end_basic_blocks` has run before it (`SymDrive.Cil.CallBlocks`).
-/

namespace SymDrive.Cil.Hints

open Checked

/-! ## Syntax -/

section

/-! The pass copies the expressions `ε` and lvalues `ℓ` of the source, and reads nothing of them but
the text of a called function. -/

inductive Lval (ℓ : Type) where
  | source (lv : ℓ)
  /-- A variable with this name, that the pass makes. -/
  | var (vname : String)
  deriving DecidableEq, Repr

inductive Exp (ε ℓ : Type) where
  | source (e : ε)
  | lval (lv : Lval ℓ)
  /-- `UnOp (Neg, _, intType)` -/
  | neg (e : Exp ε ℓ)
  /-- `BinOp (Eq, _, _, TInt (IBool, []))` -/
  | eq (e₁ e₂ : Exp ε ℓ)
  deriving DecidableEq, Repr

inductive Instr (ε ℓ : Type) where
  | set (lv : Lval ℓ) (e : Exp ε ℓ)
  | call (retval : Option (Lval ℓ)) (f : Exp ε ℓ) (args : List (Exp ε ℓ))
  | asm (template : String)
  deriving DecidableEq, Repr

/-- A statement is its labels with a `stmtkind`. -/
inductive Stmt (ε ℓ : Type) where
  | instr (labels : List Label) (instrs : List (Instr ε ℓ))
  | ret (labels : List Label) (e : Option (Exp ε ℓ))
  | goto (labels : List Label) (target : String)
  | brk (labels : List Label)
  | cont (labels : List Label)
  | cond (labels : List Label) (guard : Exp ε ℓ) (b1 b2 : List (Stmt ε ℓ))
  | switch (labels : List Label) (e : Exp ε ℓ) (b : List (Stmt ε ℓ))
  | loop (labels : List Label) (b : List (Stmt ε ℓ))
  | block (labels : List Label) (b : List (Stmt ε ℓ))

end

section

variable {ε ℓ : Type}

/-- Induction over blocks: a statement is a block of one statement. -/
@[elab_as_elim]
theorem blockInduct {P : List (Stmt ε ℓ) → Prop} (nil : P [])
    (cons : ∀ s ss, P [s] → P ss → P (s :: ss)) (instr : ∀ ls is, P [.instr ls is])
    (ret : ∀ ls e, P [.ret ls e]) (goto : ∀ ls t, P [.goto ls t]) (brk : ∀ ls, P [.brk ls])
    (cont : ∀ ls, P [.cont ls])
    (cond : ∀ ls guard b1 b2, P b1 → P b2 → P [.cond ls guard b1 b2])
    (switch : ∀ ls e b, P b → P [.switch ls e b]) (loop : ∀ ls b, P b → P [.loop ls b])
    (block : ∀ ls b, P b → P [.block ls b]) (ss : List (Stmt ε ℓ)) : P ss :=
  @Stmt.rec_1 ε ℓ (fun s => P [s]) P instr ret goto brk cont cond switch loop block nil cons ss

end

/-! ## The pass -/

section

variable {ε ℓ : Type} (expTostring : Exp ε ℓ → String)

/-- Instructions with the condition of the hint that they end in. -/
abbrev Lists (ε ℓ : Type) := List (List (Instr ε ℓ) × Option (Exp ε ℓ))

/-- `basic_operation` -/
def basicOperation (acc : Lists ε ℓ) (curInstr : Instr ε ℓ) (eOpt : Option (Exp ε ℓ)) :
    Except Fatal (Lists ε ℓ) := do
  match acc.getLast? with
  | none => .ok [([curInstr], eOpt)]
  | some (iList, eOpt2) =>
    let newHead := acc.dropLast
    let newTail := [(iList ++ [curInstr], eOpt2)]
    ensure (acc.length = newHead.length + 1) "Bug mismatch in builtin_expect"
    .ok (newHead ++ newTail)

/-- `split`: the condition of a hint is that its result is the second argument. -/
def split (acc : Lists ε ℓ) (curInstr : Instr ε ℓ) : Except Fatal (Lists ε ℓ) :=
  match curInstr with
  | .call (some lv) callExp [_, secondE] =>
    if expTostring callExp = "__builtin_expect" then
      basicOperation acc curInstr (some (.eq (.lval lv) secondE))
    else basicOperation acc curInstr none
  | _ => basicOperation acc curInstr none

def splitInstrs (instrList : List (Instr ε ℓ)) : Except Fatal (Lists ε ℓ) :=
  instrList.foldlM (split expTostring) []

def countInstrs (lists : Lists ε ℓ) : ℕ := lists.foldl (fun acc pair => acc + pair.1.length) 0

def mkCallStmt (f : String) (args : List (Exp ε ℓ)) : Stmt ε ℓ :=
  .instr [] [.call none (.lval (.var f)) args]

/-- The conditional for a hint. -/
def ifStmt (expression : Exp ε ℓ) : Stmt ε ℓ :=
  .cond [] expression [mkCallStmt "s2e_prioritize" [.lval (.var "__LINE__")]]
    [mkCallStmt "s2e_deprioritize" [.neg (.lval (.var "__LINE__"))]]

/-- `combine_complex`, for a statement with these labels. -/
def combineComplex (labels : List Label) (curList : List (Instr ε ℓ) × Option (Exp ε ℓ)) :
    List (Stmt ε ℓ) :=
  match curList with
  | (iList, none) => [.instr labels iList]
  | (iList, some e) => [.instr [] iList, ifStmt e]

/-- `process_stmt`, in the function `curFundec`. -/
def processStmt (curFundec : String) (curStmt : Stmt ε ℓ) : Except Fatal (List (Stmt ε ℓ)) :=
  match curStmt with
  | .instr labels iList => do
    let lists ← splitInstrs expTostring iList
    ensure (countInstrs lists = iList.length) "Lost some instrs"
    match lists with
    | [] => .ok [curStmt]
    | [curList] => .ok (combineComplex labels curList)
    | _ => .error ("Make sure this case is supported. " ++ curFundec)
  | _ => .ok [curStmt]

/-- `process_stmt` for the statements of a block. -/
def processStmts (curFundec : String) : List (Stmt ε ℓ) → Except Fatal (List (Stmt ε ℓ))
  | [] => .ok []
  | s :: ss => do
    let new ← processStmt expTostring curFundec s
    let rest ← processStmts curFundec ss
    return new ++ rest

/-- The visit of a statement that `process_stmt` made: the two blocks of a conditional, in which are
only instructions. -/
def visitMade (curFundec : String) : Stmt ε ℓ → Except Fatal (Stmt ε ℓ)
  | .cond labels guard b1 b2 => do
    let b1 ← processStmts expTostring curFundec b1
    let b2 ← processStmts expTostring curFundec b2
    return .cond labels guard b1 b2
  | s => .ok s

mutual

/-- What a statement is replaced by: the visitor goes on with the blocks of the new statements. -/
def Stmt.visit (curFundec : String) : Stmt ε ℓ → Except Fatal (List (Stmt ε ℓ))
  | .instr labels iList => do
    let new ← processStmt expTostring curFundec (.instr labels iList)
    new.mapM (visitMade expTostring curFundec)
  | .cond labels guard b1 b2 => do
    let b1 ← vblock curFundec b1
    let b2 ← vblock curFundec b2
    return [.cond labels guard b1 b2]
  | .switch labels e b => do
    let b ← vblock curFundec b
    return [.switch labels e b]
  | .loop labels b => do
    let b ← vblock curFundec b
    return [.loop labels b]
  | .block labels b => do
    let b ← vblock curFundec b
    return [.block labels b]
  | s => .ok [s]

/-- `vblock`: the statements of the block, with what `process_stmt` makes of them. -/
def vblock (curFundec : String) : List (Stmt ε ℓ) → Except Fatal (List (Stmt ε ℓ))
  | [] => .ok []
  | s :: ss => do
    let new ← s.visit curFundec
    let rest ← vblock curFundec ss
    return new ++ rest

end

end

/-! ## What the pass is for -/

section

variable {ε ℓ : Type} (expTostring : Exp ε ℓ → String)

/-- A block without the boundaries between its statements. -/
inductive Item (ε ℓ : Type) where
  | label (l : Label)
  | instr (i : Instr ε ℓ)
  | ret (e : Option (Exp ε ℓ))
  | goto (target : String)
  | brk
  | cont
  | cond (guard : Exp ε ℓ) (b1 b2 : List (Item ε ℓ))
  | switch (e : Exp ε ℓ) (b : List (Item ε ℓ))
  | loop (b : List (Item ε ℓ))
  | block (b : List (Item ε ℓ))

/-- The condition that a hint says is likely. -/
def hint? : Instr ε ℓ → Option (Exp ε ℓ)
  | .call (some lv) f [_, c] =>
    if expTostring f = "__builtin_expect" then some (.eq (.lval lv) c) else none
  | _ => none

/-- The conditional behind a hint: prioritize on the likely path. -/
def prioritizeIf (e : Exp ε ℓ) : Item ε ℓ :=
  .cond e [.instr (.call none (.lval (.var "s2e_prioritize")) [.lval (.var "__LINE__")])]
    [.instr (.call none (.lval (.var "s2e_deprioritize")) [.neg (.lval (.var "__LINE__"))])]

/-- An instruction, and directly after it its conditional if it is a hint. -/
def expectedInstr (i : Instr ε ℓ) : List (Item ε ℓ) :=
  .instr i :: ((hint? expTostring i).map prioritizeIf).toList

mutual

def Stmt.items : Stmt ε ℓ → List (Item ε ℓ)
  | .instr ls is => ls.map .label ++ is.map .instr
  | .ret ls e => ls.map .label ++ [.ret e]
  | .goto ls t => ls.map .label ++ [.goto t]
  | .brk ls => ls.map .label ++ [.brk]
  | .cont ls => ls.map .label ++ [.cont]
  | .cond ls guard b1 b2 => ls.map .label ++ [.cond guard (items b1) (items b2)]
  | .switch ls e b => ls.map .label ++ [.switch e (items b)]
  | .loop ls b => ls.map .label ++ [.loop (items b)]
  | .block ls b => ls.map .label ++ [.block (items b)]

def items : List (Stmt ε ℓ) → List (Item ε ℓ)
  | [] => []
  | s :: ss => s.items ++ items ss

end

mutual

/-- A statement with the conditionals that belong into it, and otherwise as it is. -/
def Stmt.expected : Stmt ε ℓ → List (Item ε ℓ)
  | .instr ls is => ls.map .label ++ is.flatMap (expectedInstr expTostring)
  | .ret ls e => ls.map .label ++ [.ret e]
  | .goto ls t => ls.map .label ++ [.goto t]
  | .brk ls => ls.map .label ++ [.brk]
  | .cont ls => ls.map .label ++ [.cont]
  | .cond ls guard b1 b2 => ls.map .label ++ [.cond guard (expected b1) (expected b2)]
  | .switch ls e b => ls.map .label ++ [.switch e (expected b)]
  | .loop ls b => ls.map .label ++ [.loop (expected b)]
  | .block ls b => ls.map .label ++ [.block (expected b)]

def expected : List (Stmt ε ℓ) → List (Item ε ℓ)
  | [] => []
  | s :: ss => s.expected ++ expected ss

end

/-- The one instruction of a hint stands alone, without a label. -/
def AloneWithHint (ls : List Label) (is : List (Instr ε ℓ)) : Prop :=
  (∃ i ∈ is, (hint? expTostring i).isSome) → ls = [] ∧ is.length = 1

mutual

/-- The hints of a statement are alone, in its blocks too. -/
def Stmt.HintsAlone : Stmt ε ℓ → Prop
  | .instr ls is => AloneWithHint expTostring ls is
  | .cond _ _ b1 b2 => HintsAlone b1 ∧ HintsAlone b2
  | .switch _ _ b | .loop _ b | .block _ b => HintsAlone b
  | .ret _ _ | .goto _ _ | .brk _ | .cont _ => True

def HintsAlone : List (Stmt ε ℓ) → Prop
  | [] => True
  | s :: ss => s.HintsAlone ∧ HintsAlone ss

end

end

/-! ## Splitting -/

section

variable {ε ℓ : Type} {expTostring : Exp ε ℓ → String} {curFundec : String}

lemma split_eq (acc : Lists ε ℓ) (i : Instr ε ℓ) :
    split expTostring acc i = basicOperation acc i (hint? expTostring i) := by
  unfold split hint?
  split
  · split_ifs <;> rfl
  · rfl

/-- One list stays one list, and keeps its condition. -/
lemma basicOperation_singleton (l : List (Instr ε ℓ)) (e e' : Option (Exp ε ℓ)) (i : Instr ε ℓ) :
    basicOperation [(l, e)] i e' = .ok [(l ++ [i], e)] := rfl

lemma foldlM_split (l is : List (Instr ε ℓ)) (e : Option (Exp ε ℓ)) :
    is.foldlM (split expTostring) [(l, e)] = .ok [(l ++ is, e)] := by
  induction is generalizing l with
  | nil => rw [List.append_nil]; rfl
  | cons i is ih =>
      rw [List.foldlM_cons, split_eq, basicOperation_singleton]
      exact (ih (l ++ [i])).trans (by rw [List.append_assoc, List.singleton_append])

/-- **Nothing is split**: the condition is that of the first instruction. -/
lemma splitInstrs_cons (i : Instr ε ℓ) (is : List (Instr ε ℓ)) :
    splitInstrs expTostring (i :: is) = .ok [(i :: is, hint? expTostring i)] := by
  rw [splitInstrs, List.foldlM_cons, split_eq]
  exact foldlM_split [i] is _

/-- What becomes of a statement of instructions. -/
def rewritten (expTostring : Exp ε ℓ → String) (ls : List Label) :
    List (Instr ε ℓ) → List (Stmt ε ℓ)
  | [] => [.instr ls []]
  | i :: is => combineComplex ls (i :: is, hint? expTostring i)

lemma processStmt_instr (ls : List Label) (is : List (Instr ε ℓ)) :
    processStmt expTostring curFundec (.instr ls is) = .ok (rewritten expTostring ls is) := by
  cases is with
  | nil => rfl
  | cons i is =>
      rw [processStmt, splitInstrs_cons]
      show (ensure (countInstrs [(i :: is, hint? expTostring i)] = (i :: is).length)
        "Lost some instrs" >>= fun _ => _) = _
      rw [ensure, if_pos (by simp [countInstrs])]
      rfl

/-- A call that the pass inserts is no hint. -/
lemma processStmts_mkCallStmt (f : String) (args : List (Exp ε ℓ)) :
    processStmts expTostring curFundec [mkCallStmt f args] = .ok [mkCallStmt f args] := by
  rw [processStmts, mkCallStmt, processStmt_instr]
  rfl

/-- The blocks of an inserted conditional are visited and stay as they are. -/
lemma visitMade_ifStmt (e : Exp ε ℓ) :
    visitMade expTostring curFundec (ifStmt e) = .ok (ifStmt e) := by
  rw [ifStmt, visitMade, processStmts_mkCallStmt, processStmts_mkCallStmt]
  rfl

lemma visit_instr (ls : List Label) (is : List (Instr ε ℓ)) :
    (Stmt.instr ls is).visit expTostring curFundec = .ok (rewritten expTostring ls is) := by
  rw [Stmt.visit, processStmt_instr]
  cases is with
  | nil => rfl
  | cons i is =>
      rw [rewritten]
      cases hint? expTostring i with
      | none => rfl
      | some e =>
          show [Stmt.instr [] (i :: is), ifStmt e].mapM (visitMade expTostring curFundec) = _
          rw [List.mapM_cons, List.mapM_cons, visitMade_ifStmt]
          rfl

/-! ## The items of a rewritten statement -/

lemma items_append (b b' : List (Stmt ε ℓ)) : items (b ++ b') = items b ++ items b' := by
  induction b with
  | nil => rfl
  | cons s b ih => rw [List.cons_append, items, ih, items, List.append_assoc]

lemma expectedInstr_of_none {i : Instr ε ℓ} (h : hint? expTostring i = none) :
    expectedInstr expTostring i = [.instr i] := by
  rw [expectedInstr, h]
  rfl

/-- Instructions without hints stay as they are. -/
lemma flatMap_expectedInstr {is : List (Instr ε ℓ)}
    (h : ∀ i ∈ is, hint? expTostring i = none) :
    is.flatMap (expectedInstr expTostring) = is.map .instr := by
  induction is with
  | nil => rfl
  | cons i is ih =>
      rw [List.flatMap_cons, expectedInstr_of_none (h i List.mem_cons_self),
        ih fun j hj => h j (List.mem_cons_of_mem _ hj)]
      rfl

/-- A hint takes two items. -/
lemma length_flatMap_expectedInstr (is : List (Instr ε ℓ)) :
    (is.flatMap (expectedInstr expTostring)).length =
      is.length + is.countP fun i => (hint? expTostring i).isSome := by
  induction is with
  | nil => rfl
  | cons i is ih =>
      rw [List.flatMap_cons, List.length_append, ih, List.countP_cons, List.length_cons]
      cases h : hint? expTostring i with
      | none => simp [expectedInstr, h]; omega
      | some e => simp [expectedInstr, h]; omega

lemma aloneWithHint_of_none {ls : List Label} {is : List (Instr ε ℓ)}
    (h : ∀ i ∈ is, hint? expTostring i = none) : AloneWithHint expTostring ls is := by
  rintro ⟨i, hi, hhint⟩
  rw [h i hi] at hhint
  cases hhint

/-- A statement that starts without a hint keeps its items. -/
lemma items_combineComplex_none (ls : List Label) (is : List (Instr ε ℓ)) :
    items (combineComplex ls (is, none)) = ls.map .label ++ is.map .instr := by
  rw [combineComplex, items, items, List.append_nil, Stmt.items]

/-- One that starts with a hint loses its labels, and the conditional comes at its end. -/
lemma items_combineComplex_some (ls : List Label) (i : Instr ε ℓ) (is : List (Instr ε ℓ))
    (e : Exp ε ℓ) : items (combineComplex ls (i :: is, some e)) =
      .instr i :: (is.map .instr ++ [prioritizeIf e]) := by
  simp [combineComplex, items, Stmt.items, ifStmt, mkCallStmt, prioritizeIf]

/-- A rewritten statement has at most the items that it should have. -/
lemma length_items_rewritten (ls : List Label) (is : List (Instr ε ℓ)) :
    (items (rewritten expTostring ls is)).length ≤
      (ls.map Item.label ++ is.flatMap (expectedInstr expTostring)).length := by
  cases is with
  | nil => simp [rewritten, items, Stmt.items]
  | cons i is =>
      rw [rewritten]
      cases h : hint? expTostring i with
      | none =>
          rw [items_combineComplex_none]
          simp only [List.length_append, length_flatMap_expectedInstr, List.length_map]
          omega
      | some e =>
          rw [items_combineComplex_some]
          simp only [List.length_append, length_flatMap_expectedInstr, List.length_map,
            List.length_cons, List.length_nil, List.countP_cons, h, Option.isSome_some, if_true]
          omega

/-- Behind an instruction that is no hint, no hint is seen. -/
lemma items_rewritten_iff_of_none {i : Instr ε ℓ} (h : hint? expTostring i = none)
    (ls : List Label) (is : List (Instr ε ℓ)) :
    items (rewritten expTostring ls (i :: is)) =
        ls.map .label ++ (i :: is).flatMap (expectedInstr expTostring) ↔
      AloneWithHint expTostring ls (i :: is) := by
  rw [rewritten, h, items_combineComplex_none, List.append_cancel_left_eq]
  constructor
  · -- there is no room for a conditional
    intro heq
    refine aloneWithHint_of_none fun j hj => ?_
    have hlength := congrArg List.length heq
    rw [length_flatMap_expectedInstr, List.length_map, Nat.left_eq_add,
      List.countP_eq_zero] at hlength
    exact Option.not_isSome_iff_eq_none.mp (hlength j hj)
  · intro halone
    refine (flatMap_expectedInstr fun j hj => ?_).symm
    by_contra hj'
    obtain ⟨_, hlen⟩ := halone ⟨j, hj, Option.isSome_iff_ne_none.mpr hj'⟩
    obtain rfl : is = [] := List.length_eq_zero_iff.mp (Nat.succ.inj hlen)
    exact hj' (List.mem_singleton.mp hj ▸ h)

/-- A hint at the start is to be alone. -/
lemma items_rewritten_iff_of_some {i : Instr ε ℓ} {e : Exp ε ℓ}
    (h : hint? expTostring i = some e) (ls : List Label) (is : List (Instr ε ℓ)) :
    items (rewritten expTostring ls (i :: is)) =
        ls.map .label ++ (i :: is).flatMap (expectedInstr expTostring) ↔
      AloneWithHint expTostring ls (i :: is) := by
  have hfirst : expectedInstr expTostring i = [.instr i, prioritizeIf e] := by
    rw [expectedInstr, h]
    rfl
  rw [rewritten, h, items_combineComplex_some, List.flatMap_cons, hfirst]
  constructor
  · intro heq _
    cases ls with
    | nil =>
        refine ⟨rfl, ?_⟩
        cases is with
        | nil => rfl
        | cons j is =>
            rw [List.map_nil, List.nil_append] at heq
            have htail := (List.cons.inj heq).2
            cases (List.cons.inj htail).1
    | cons l ls => cases (List.cons.inj heq).1
  · intro halone
    obtain ⟨rfl, hlen⟩ := halone ⟨i, List.mem_cons_self, by rw [h]; rfl⟩
    obtain rfl : is = [] := List.length_eq_zero_iff.mp (Nat.succ.inj hlen)
    rfl

/-- A rewritten statement has the items that it should have exactly if its hint is alone. -/
lemma items_rewritten_iff (ls : List Label) (is : List (Instr ε ℓ)) :
    items (rewritten expTostring ls is) =
        ls.map .label ++ is.flatMap (expectedInstr expTostring) ↔
      AloneWithHint expTostring ls is := by
  cases is with
  | nil =>
      exact iff_of_true (by simp [rewritten, items, Stmt.items]) (aloneWithHint_of_none (by simp))
  | cons i is =>
      cases h : hint? expTostring i with
      | none => exact items_rewritten_iff_of_none h ls is
      | some e => exact items_rewritten_iff_of_some h ls is

/-! ## The whole block -/

/-- What one block becomes: at most the items that it should have, and these exactly if its hints
are alone. -/
structure Rewrites (expTostring : Exp ε ℓ → String) (b b' : List (Stmt ε ℓ)) : Prop where
  length : (items b').length ≤ (expected expTostring b).length
  items_iff : items b' = expected expTostring b ↔ HintsAlone expTostring b

/-- Blocks after one another.  None of the two has more items than it should have, so what is
missing in one cannot be made up for in the other. -/
lemma Rewrites.append {s : Stmt ε ℓ} {ss new rest : List (Stmt ε ℓ)}
    (hs : Rewrites expTostring [s] new) (hss : Rewrites expTostring ss rest) :
    Rewrites expTostring (s :: ss) (new ++ rest) := by
  have hexpected : expected expTostring (s :: ss) =
      expected expTostring [s] ++ expected expTostring ss := by
    simp only [expected, List.append_nil]
  have halone : HintsAlone expTostring (s :: ss) ↔
      HintsAlone expTostring [s] ∧ HintsAlone expTostring ss := by
    simp only [HintsAlone, and_true]
  refine ⟨?_, ?_⟩
  · rw [items_append, hexpected, List.length_append, List.length_append]
    exact Nat.add_le_add hs.length hss.length
  · rw [items_append, hexpected, halone, ← hs.items_iff, ← hss.items_iff]
    constructor
    · intro heq
      have hlength := congrArg List.length heq
      rw [List.length_append, List.length_append] at hlength
      have hle := hs.length
      have hle' := hss.length
      exact List.append_inj heq (by omega)
    · rintro ⟨heq, heq'⟩
      rw [heq, heq']

/-- A statement that is copied, with the blocks in it. -/
lemma Rewrites.copied {s s' : Stmt ε ℓ} {ls : List Label} {x y : Item ε ℓ} {P : Prop}
    (hitems : s'.items = ls.map .label ++ [x])
    (hexpected : s.expected expTostring = ls.map .label ++ [y])
    (halone : s.HintsAlone expTostring ↔ P) (h : x = y ↔ P) :
    Rewrites expTostring [s] [s'] := by
  have hlength : (items [s']).length = (expected expTostring [s]).length := by
    simp [items, expected, hitems, hexpected]
  refine ⟨Nat.le_of_eq hlength, ?_⟩
  simp [items, expected, HintsAlone, hitems, hexpected, halone, h]

lemma vblock_singleton {s : Stmt ε ℓ} {b : List (Stmt ε ℓ)} :
    vblock expTostring curFundec [s] = .ok b ↔ s.visit expTostring curFundec = .ok b := by
  rw [vblock]
  constructor
  · intro h
    obtain ⟨new, hnew, h⟩ := bind_eq_ok.mp h
    cases h
    rw [hnew, List.append_nil]
  · intro h
    rw [h]
    show Except.ok (b ++ []) = _
    rw [List.append_nil]

end

/-- The pass puts the conditionals where they belong, and leaves everything else as it is, exactly
if the hints of the block are alone. -/
theorem branch_hints_iff {ε ℓ : Type} (expTostring : Exp ε ℓ → String) (curFundec : String)
    (b : List (Stmt ε ℓ)) :
    ∃ b', vblock expTostring curFundec b = .ok b' ∧
      (items b' = expected expTostring b ↔ HintsAlone expTostring b) := by
  have hall : ∃ b', vblock expTostring curFundec b = .ok b' ∧ Rewrites expTostring b b' := by
    induction b using blockInduct with
    | nil => exact ⟨[], rfl, Nat.le_refl _, iff_of_true rfl trivial⟩
    | cons s ss hs hss =>
        obtain ⟨new, hnew, hs⟩ := hs
        obtain ⟨rest, hrest, hss⟩ := hss
        refine ⟨new ++ rest, ?_, hs.append hss⟩
        rw [vblock, vblock_singleton.mp hnew, hrest]
        rfl
    | instr ls is =>
        refine ⟨_, vblock_singleton.mpr (visit_instr ls is), ?_⟩
        refine ⟨?_, ?_⟩
        · rw [expected, expected, List.append_nil, Stmt.expected]
          exact length_items_rewritten ls is
        · rw [expected, expected, List.append_nil, Stmt.expected, items_rewritten_iff, HintsAlone,
            HintsAlone, and_true, Stmt.HintsAlone]
    | cond ls guard b1 b2 ih1 ih2 =>
        obtain ⟨b1', hb1, h1⟩ := ih1
        obtain ⟨b2', hb2, h2⟩ := ih2
        refine ⟨[.cond ls guard b1' b2'], vblock_singleton.mpr ?_, ?_⟩
        · rw [Stmt.visit, hb1, hb2]
          rfl
        · exact Rewrites.copied rfl rfl Iff.rfl
            (by simp [Stmt.HintsAlone, h1.items_iff, h2.items_iff])
    | switch ls e b ih =>
        obtain ⟨b', hb, h⟩ := ih
        refine ⟨[.switch ls e b'], vblock_singleton.mpr ?_, ?_⟩
        · rw [Stmt.visit, hb]
          rfl
        · exact Rewrites.copied rfl rfl Iff.rfl (by simp [Stmt.HintsAlone, h.items_iff])
    | loop ls b ih =>
        obtain ⟨b', hb, h⟩ := ih
        refine ⟨[.loop ls b'], vblock_singleton.mpr ?_, ?_⟩
        · rw [Stmt.visit, hb]
          rfl
        · exact Rewrites.copied rfl rfl Iff.rfl (by simp [Stmt.HintsAlone, h.items_iff])
    | block ls b ih =>
        obtain ⟨b', hb, h⟩ := ih
        refine ⟨[.block ls b'], vblock_singleton.mpr ?_, ?_⟩
        · rw [Stmt.visit, hb]
          rfl
        · exact Rewrites.copied rfl rfl Iff.rfl (by simp [Stmt.HintsAlone, h.items_iff])
    | ret ls e =>
        exact ⟨[.ret ls e], rfl, Rewrites.copied rfl rfl Iff.rfl (iff_of_true rfl trivial)⟩
    | goto ls t =>
        exact ⟨[.goto ls t], rfl, Rewrites.copied rfl rfl Iff.rfl (iff_of_true rfl trivial)⟩
    | brk ls => exact ⟨[.brk ls], rfl, Rewrites.copied rfl rfl Iff.rfl (iff_of_true rfl trivial)⟩
    | cont ls => exact ⟨[.cont ls], rfl, Rewrites.copied rfl rfl Iff.rfl (iff_of_true rfl trivial)⟩
  obtain ⟨b', hb', h⟩ := hall
  exact ⟨b', hb', h.items_iff⟩

/-- The text of an expression whose parts are given by their texts. -/
def text : Exp String String → String
  | .source e => e
  | .lval (.source lv) => lv
  | .lval (.var vname) => vname
  | .neg e => "-" ++ text e
  | .eq e₁ e₂ => text e₁ ++ " == " ++ text e₂

/-- `tmp = __builtin_expect(x, 0);` -/
def expectCall : Instr String String :=
  .call (some (.source "tmp")) (.source "__builtin_expect") [.source "x", .source "0"]

/-- The pass is not right on every block: `x = status; tmp = __builtin_expect(x, 0);` as one
statement gets no conditional, and the label of a hint is lost.  It receives neither of the two. -/
theorem late_and_labelled_hints_fail :
    (∃ b', vblock text "probe" [.instr [] [.set (.source "x") (.source "status"), expectCall]] =
        .ok b' ∧
      items b' ≠ expected text [.instr [] [.set (.source "x") (.source "status"), expectCall]]) ∧
    ∃ b', vblock text "probe" [.instr [.label "out" true] [expectCall]] = .ok b' ∧
      items b' ≠ expected text [.instr [.label "out" true] [expectCall]] := by
  have hlate : vblock text "probe"
      [.instr [] [.set (.source "x") (.source "status"), expectCall]] =
      .ok (rewritten text [] [.set (.source "x") (.source "status"), expectCall]) :=
    vblock_singleton.mpr (visit_instr _ _)
  have hlabelled : vblock text "probe" [.instr [.label "out" true] [expectCall]] =
      .ok (rewritten text [.label "out" true] [expectCall]) :=
    vblock_singleton.mpr (visit_instr _ _)
  refine ⟨⟨_, hlate, fun h => ?_⟩, ⟨_, hlabelled, fun h => ?_⟩⟩
  · exact absurd (congrArg List.length h) (by decide)
  · exact absurd (congrArg List.length h) (by decide)

end SymDrive.Cil.Hints
