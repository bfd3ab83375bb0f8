import SymDrive.Cil.EntryExitCalls

/-!
# One return

`oneret.ml`.  The pass `oneRet` gives a function one `Return`, the last statement of its body: every
other one becomes an assignment to the variable `__retres`, and a `Goto` to the last one.

Here statements keep their instructions and expressions, which the prioritization pass does not look
at; `erase` forgets them.

* `oneret_form` — what the pass makes is well formed and in one-return form.
* `oneret_ok_iff` — when the pass goes through.
* `oneret_then_pairs` — so the prioritization pass goes through on every file behind it, and `prefn`
  and `postfn` are called on every path of its functions.
-/

namespace SymDrive.Cil.OneRet

open Checked

/-! ## Syntax -/

/-- An expression of the source, or the variable `__retres`. -/
inductive Exp (ε : Type) where
  | source (e : ε)
  | retres
  deriving DecidableEq, Repr

inductive Instr (ι ε : Type) where
  | source (i : ι)
  /-- `__retres = e` -/
  | setRetres (e : Exp ε)
  deriving DecidableEq, Repr

/-- `stmt` with its `stmtkind`. -/
inductive Stmt (ι ε : Type) where
  | instr (id : Sid) (is : List (Instr ι ε))
  | ret (id : Sid) (e : Option (Exp ε))
  | goto (id target : Sid)
  | brk (id : Sid)
  | cont (id : Sid)
  | cond (id : Sid) (guard : ε) (b1 b2 : List (Stmt ι ε))
  | switch (id : Sid) (e : ε) (b : List (Stmt ι ε))
  | loop (id : Sid) (b : List (Stmt ι ε))
  | block (id : Sid) (b : List (Stmt ι ε))

/-- What the passes read of instructions and expressions: whether an instruction comes back, whether
an expression is a variable or an lvalue, and whether its type is one of `supported_ret_type`. -/
structure Lang (ι ε : Type) where
  fallsThrough : ι → Bool
  isVar : ε → Bool
  isLval : ε → Bool
  supportedRetType : ε → Bool
  isLval_of_isVar : ∀ e, isVar e = true → isLval e = true

/-- A function definition.  `returnsVoid` says that the return type is `void`, `hasRet` that it is
not `void` under its typedefs, and `retTypSupported` that it is one of `supported_ret_type`. -/
structure Fundec (ι ε : Type) where
  vname : String
  returnsVoid : Bool
  hasRet : Bool
  hasRet_of_void : returnsVoid = true → hasRet = false
  retTypSupported : Bool
  stmts : List (Stmt ι ε)
  labels : Sid → List Label

section

variable {ι ε : Type}

/-- Induction over statements and blocks. -/
theorem induct {P : Stmt ι ε → Prop} {Q : List (Stmt ι ε) → Prop}
    (instr : ∀ id is, P (.instr id is)) (ret : ∀ id e, P (.ret id e))
    (goto : ∀ id t, P (.goto id t)) (brk : ∀ id, P (.brk id)) (cont : ∀ id, P (.cont id))
    (cond : ∀ id g b1 b2, Q b1 → Q b2 → P (.cond id g b1 b2))
    (switch : ∀ id e b, Q b → P (.switch id e b)) (loop : ∀ id b, Q b → P (.loop id b))
    (block : ∀ id b, Q b → P (.block id b)) (nil : Q [])
    (cons : ∀ s ss, P s → Q ss → Q (s :: ss)) : (∀ s, P s) ∧ ∀ ss, Q ss :=
  ⟨fun s => @Stmt.rec ι ε P Q instr ret goto brk cont cond switch loop block nil cons s,
    fun ss => @Stmt.rec_1 ι ε P Q instr ret goto brk cont cond switch loop block nil cons ss⟩

/-! ## Forgetting instructions and expressions -/

variable (L : Lang ι ε) (retTypSupported : Bool)

def Instr.fallsThrough : Instr ι ε → Bool
  | .source i => L.fallsThrough i
  | .setRetres _ => true

def Exp.erase : Exp ε → RetExp
  | .source e => ⟨L.isLval e, L.supportedRetType e⟩
  | .retres => ⟨true, retTypSupported⟩

mutual

def Stmt.erase : Stmt ι ε → Cil.Stmt
  | .instr id is => .instr id (.code (is.all (Instr.fallsThrough L)))
  | .ret id e => .ret id (e.map (Exp.erase L retTypSupported))
  | .goto id t => .goto id t
  | .brk id => .brk id
  | .cont id => .cont id
  | .cond id _ b1 b2 => .cond id (erase b1) (erase b2)
  | .switch id _ b => .switch id (erase b)
  | .loop id b => .loop id (erase b)
  | .block id b => .block id (erase b)

def erase : List (Stmt ι ε) → List Cil.Stmt
  | [] => []
  | s :: ss => s.erase :: erase ss

end

mutual

/-- The values of the `Return`s of a statement. -/
def Stmt.retvals : Stmt ι ε → List (Option (Exp ε))
  | .ret _ e => [e]
  | .instr _ _ | .goto _ _ | .brk _ | .cont _ => []
  | .cond _ _ b1 b2 => retvalsOf b1 ++ retvalsOf b2
  | .switch _ _ b | .loop _ b | .block _ b => retvalsOf b

def retvalsOf : List (Stmt ι ε) → List (Option (Exp ε))
  | [] => []
  | s :: ss => s.retvals ++ retvalsOf ss

end

/-- The function as the prioritization pass sees it. -/
def Fundec.erase (f : Fundec ι ε) : Cil.Fundec where
  vname := f.vname
  sbody := { stmts := OneRet.erase L f.retTypSupported f.stmts, labels := f.labels }
  returnsVoid := f.returnsVoid

end

/-! ## The pass -/

/-- What the references of `oneret` hold: whether `getRetVar` has made the variable, whether there
is a `Goto`, and the number of the next record. -/
structure State where
  retVar : Bool
  haveGoto : Bool
  next : ℕ

section

variable {ι ε : Type} (L : Lang ι ε) (f : Fundec ι ε)

/-- A `Return` of a variable. -/
def Stmt.returnsVar : Stmt ι ε → Bool
  | .ret _ (some (.source e)) => L.isVar e
  | .ret _ (some .retres) => true
  | _ => false

/-- The record of `getRetStmt`, which makes it once. -/
def retStmt (sr : Sid) : Stmt ι ε := .ret sr (if f.hasRet then some .retres else none)

/-- What the record of a `Return` is changed to. -/
def setRetres : Option (Exp ε) → List (Instr ι ε)
  | some rval => [.setRetres rval]
  | none => []

/-- The two checks of a `Return`. -/
def checkReturn (retval : Option (Exp ε)) : Except Fatal Unit := do
  ensure (¬ (f.hasRet = true ∧ retval = none))
    ("Found return without value in function " ++ f.vname)
  ensure (¬ (f.hasRet = false ∧ retval ≠ none)) ("Found return in subroutine " ++ f.vname)

/-- A `Return` that does not stay: `last` if it is the last statement of the function. -/
def scanReturn (sr : Sid) (last : Bool) (p : State) (id : Sid) (retval : Option (Exp ε)) :
    Except Fatal (List (Stmt ι ε) × State) := do
  checkReturn f retval
  let p := { p with retVar := p.retVar || retval.isSome }
  if last then .ok ([.instr id (setRetres retval)], p)
  else .ok ([.instr id (setRetres retval), .goto (.source p.next) sr],
    { p with haveGoto := true, retVar := p.retVar || f.hasRet, next := p.next + 1 })

mutual

/-- The cases of `scan_stmts` for one statement, with `last` if the rest is empty. -/
def Stmt.scan (sr : Sid) (mainbody last : Bool) (p : State) :
    Stmt ι ε → Except Fatal (List (Stmt ι ε) × State)
  | .ret id retval => scanReturn f sr (mainbody && last) p id retval
  | .cond id guard b1 b2 => do
      let (b1, p) ← scanStmts sr false p b1
      let (b2, p) ← scanStmts sr false p b2
      .ok ([.cond id guard b1 b2], p)
  | .loop id b => do
      let (b, p) ← scanStmts sr false p b
      .ok ([.loop id b], p)
  | .switch id e b => do
      let (b, p) ← scanStmts sr false p b
      .ok ([.switch id e b], p)
  | .block id b => do
      let (b, p) ← scanStmts sr false p b
      .ok ([.block id b], p)
  | .instr id is => .ok ([.instr id is], p)
  | .goto id t => .ok ([.goto id t], p)
  | .brk id => .ok ([.brk id], p)
  | .cont id => .ok ([.cont id], p)

/-- `scan_stmts`: the last `Return` of the body stays if it returns a variable and nothing goes to
the end. -/
def scanStmts (sr : Sid) (mainbody : Bool) (p : State) :
    List (Stmt ι ε) → Except Fatal (List (Stmt ι ε) × State)
  | [] =>
      if mainbody then .ok ([retStmt f sr], { p with retVar := p.retVar || f.hasRet })
      else .ok ([], p)
  | s :: rests =>
      if mainbody && rests.isEmpty && s.returnsVar L && !p.haveGoto then .ok ([s], p)
      else do
        let (new, p) ← s.scan sr mainbody rests.isEmpty p
        let (rests, p) ← scanStmts sr mainbody p rests
        .ok (new ++ rests, p)

end

/-- `oneret`, where `next` is a number that no record has yet. -/
def oneret (next : ℕ) : Except Fatal (Fundec ι ε) := do
  let sr := .source next
  let (stmts, p) ← scanStmts L f sr true ⟨false, false, next + 1⟩ f.stmts
  let labels :=
    if p.haveGoto then Function.update f.labels sr (.label "return_label" false :: f.labels sr)
    else f.labels
  .ok { f with stmts := stmts, labels := labels }

end

/-! ## The form of what is made -/

section

variable {ι ε : Type} {L : Lang ι ε} {f : Fundec ι ε} {sr : Sid}

/-- A block of the body and what the pass makes of it.  The new `Goto`s are numbered from `k` on. -/
inductive Scans (sr : Sid) (k : ℕ) : List (Stmt ι ε) → List (Stmt ι ε) → Prop
  | nil : Scans sr k [] []
  | ret {id e n ss ss'} : k ≤ n → Scans sr k ss ss' →
      Scans sr k (.ret id e :: ss) (.instr id (setRetres e) :: .goto (.source n) sr :: ss')
  | instr {id is ss ss'} : Scans sr k ss ss' → Scans sr k (.instr id is :: ss) (.instr id is :: ss')
  | goto {id t ss ss'} : Scans sr k ss ss' → Scans sr k (.goto id t :: ss) (.goto id t :: ss')
  | brk {id ss ss'} : Scans sr k ss ss' → Scans sr k (.brk id :: ss) (.brk id :: ss')
  | cont {id ss ss'} : Scans sr k ss ss' → Scans sr k (.cont id :: ss) (.cont id :: ss')
  | cond {id g b1 b2 b1' b2' ss ss'} : Scans sr k b1 b1' → Scans sr k b2 b2' → Scans sr k ss ss' →
      Scans sr k (.cond id g b1 b2 :: ss) (.cond id g b1' b2' :: ss')
  | switch {id e b b' ss ss'} : Scans sr k b b' → Scans sr k ss ss' →
      Scans sr k (.switch id e b :: ss) (.switch id e b' :: ss')
  | loop {id b b' ss ss'} : Scans sr k b b' → Scans sr k ss ss' →
      Scans sr k (.loop id b :: ss) (.loop id b' :: ss')
  | block {id b b' ss ss'} : Scans sr k b b' → Scans sr k ss ss' →
      Scans sr k (.block id b :: ss) (.block id b' :: ss')

/-- The end of the body: a last `Return` that stays, or the record of `getRetStmt`, perhaps behind
what was a `Return`. -/
inductive Ending (L : Lang ι ε) (f : Fundec ι ε) (sr : Sid) :
    (haveGoto : Bool) → List (Stmt ι ε) → List (Stmt ι ε) → Prop
  | kept {id e} : Stmt.returnsVar L (.ret id e) = true →
      Ending L f sr false [.ret id e] [.ret id e]
  | made {haveGoto} : Ending L f sr haveGoto [] [retStmt f sr]
  | last {haveGoto id e} : e.isSome = f.hasRet →
      Ending L f sr haveGoto [.ret id e] [.instr id (setRetres e), retStmt f sr]

lemma Scans.append {k : ℕ} {ss₁ ss₂ ss₁' ss₂' : List (Stmt ι ε)} (h₁ : Scans sr k ss₁ ss₁')
    (h₂ : Scans sr k ss₂ ss₂') : Scans sr k (ss₁ ++ ss₂) (ss₁' ++ ss₂') := by
  induction h₁ with
  | nil => exact h₂
  | ret hn _ ih => exact .ret hn ih
  | instr _ ih => exact .instr ih
  | goto _ ih => exact .goto ih
  | brk _ ih => exact .brk ih
  | cont _ ih => exact .cont ih
  | cond hb1 hb2 _ _ _ ih => exact .cond hb1 hb2 ih
  | switch hb _ _ ih => exact .switch hb ih
  | loop hb _ _ ih => exact .loop hb ih
  | block hb _ _ ih => exact .block hb ih

@[simp] lemma retvalsOf_append (ss₁ ss₂ : List (Stmt ι ε)) :
    retvalsOf (ss₁ ++ ss₂) = retvalsOf ss₁ ++ retvalsOf ss₂ := by
  induction ss₁ with
  | nil => rfl
  | cons s ss₁ ih => rw [List.cons_append, retvalsOf, ih, retvalsOf, List.append_assoc]

variable (L) in
@[simp] lemma erase_append (sup : Bool) (ss₁ ss₂ : List (Stmt ι ε)) :
    erase L sup (ss₁ ++ ss₂) = erase L sup ss₁ ++ erase L sup ss₂ := by
  induction ss₁ with
  | nil => rfl
  | cons s ss₁ ih => rw [List.cons_append, erase, ih, erase, List.cons_append]

/-- The numbers of the records made from state `p` to state `p'`. -/
def made (p p' : State) : List Sid := (List.range' p.next (p'.next - p.next)).map .source

/-- A block, scanned from state `p` to state `p'`: the records are those of the source and the
`Goto`s that were made, one for each `Return`, which go to the record of `getRetStmt`. -/
structure Scanned (L : Lang ι ε) (sup : Bool) (sr : Sid) (k : ℕ) (p p' : State)
    (ss ss' : List (Stmt ι ε)) : Prop where
  scans : Scans sr k ss ss'
  next : p'.next = p.next + (retvalsOf ss).length
  haveGoto : p'.haveGoto = (p.haveGoto || decide (p.next < p'.next))
  ids : (idsOf (erase L sup ss')).Perm (idsOf (erase L sup ss) ++ made p p')
  gotos : ∀ q ∈ gotosOf (erase L sup ss'),
    q ∈ gotosOf (erase L sup ss) ∨ q.2 = sr ∧ p.next < p'.next

section

variable {sup : Bool} {k : ℕ} {p p₁ p' : State} {ss ss' ss₁ ss₁' ss₂ ss₂' : List (Stmt ι ε)}

lemma made_self (p : State) : made p p = [] := by
  rw [made, Nat.sub_self]
  rfl

lemma made_succ (h : p'.next = p.next + 1) : made p p' = [.source p.next] := by
  rw [made, h, Nat.add_sub_cancel_left]
  rfl

lemma made_append (h : p.next ≤ p₁.next) (h' : p₁.next ≤ p'.next) :
    made p p₁ ++ made p₁ p' = made p p' := by
  have hsplit := List.range'_append_1 (s := p.next) (m := p₁.next - p.next) (n := p'.next - p₁.next)
  rw [show p.next + (p₁.next - p.next) = p₁.next by omega,
    show p₁.next - p.next + (p'.next - p₁.next) = p'.next - p.next by omega] at hsplit
  rw [made, made, made, ← List.map_append, hsplit]

lemma Scanned.next_le (h : Scanned L sup sr k p p' ss ss') : p.next ≤ p'.next :=
  h.next ▸ Nat.le_add_right _ _

lemma Scanned.refl (h : Scans sr k ss ss) (hret : retvalsOf ss = []) :
    Scanned L sup sr k p p ss ss where
  scans := h
  next := by rw [hret]; rfl
  haveGoto := by simp
  ids := by rw [made_self, List.append_nil]
  gotos := fun _ hq => Or.inl hq

lemma Scanned.refl_of (hnext : p'.next = p.next) (hgoto : p'.haveGoto = p.haveGoto) :
    Scanned L sup sr k p p' [] [] where
  scans := .nil
  next := hnext
  haveGoto := by simp [hnext, hgoto]
  ids := by simp [made, hnext, erase, idsOf]
  gotos := by simp [erase, gotosOf]

lemma Scanned.append (h₁ : Scanned L sup sr k p p₁ ss₁ ss₁')
    (h₂ : Scanned L sup sr k p₁ p' ss₂ ss₂') :
    Scanned L sup sr k p p' (ss₁ ++ ss₂) (ss₁' ++ ss₂') where
  scans := h₁.scans.append h₂.scans
  next := by rw [h₂.next, h₁.next, retvalsOf_append, List.length_append, Nat.add_assoc]
  haveGoto := by
    have hle := h₁.next_le
    have hle' := h₂.next_le
    rw [h₂.haveGoto, h₁.haveGoto, Bool.or_assoc, ← Bool.decide_or]
    exact congrArg _ (decide_eq_decide.mpr (by omega))
  ids := by
    rw [erase_append, erase_append, idsOf_append, idsOf_append, ← made_append h₁.next_le h₂.next_le]
    -- the records made in the first block move behind those of the second one
    refine (h₁.ids.append h₂.ids).trans ?_
    rw [List.append_assoc, List.append_assoc]
    refine List.Perm.append_left _ ?_
    rw [← List.append_assoc, ← List.append_assoc]
    exact List.perm_append_comm.append_right _
  gotos := by
    intro q hq
    have hle := h₁.next_le
    have hle' := h₂.next_le
    rw [erase_append, gotosOf_append, List.mem_append] at hq
    rw [erase_append, gotosOf_append, List.mem_append]
    rcases hq with hq | hq
    · exact (h₁.gotos q hq).imp Or.inl fun h => ⟨h.1, by omega⟩
    · exact (h₂.gotos q hq).imp Or.inr fun h => ⟨h.1, by omega⟩

/-- A statement around a block. -/
lemma Scanned.nested {s s' : Stmt ι ε} (h : Scanned L sup sr k p p' ss ss')
    (hscans : Scans sr k [s] [s']) (hret : retvalsOf [s] = retvalsOf ss) (id : Sid)
    (hids : idsOf (erase L sup [s]) = id :: idsOf (erase L sup ss))
    (hids' : idsOf (erase L sup [s']) = id :: idsOf (erase L sup ss'))
    (hgotos : gotosOf (erase L sup [s]) = gotosOf (erase L sup ss))
    (hgotos' : gotosOf (erase L sup [s']) = gotosOf (erase L sup ss')) :
    Scanned L sup sr k p p' [s] [s'] where
  scans := hscans
  next := by rw [hret, h.next]
  haveGoto := h.haveGoto
  ids := by
    rw [hids, hids', List.cons_append]
    exact h.ids.cons id
  gotos := by
    rw [hgotos, hgotos']
    exact h.gotos

lemma scanReturn_false {id : Sid} {e : Option (Exp ε)} (hk : k ≤ p.next)
    (h : scanReturn f sr false p id e = .ok (ss', p')) :
    Scanned L sup sr k p p' [.ret id e] ss' := by
  obtain ⟨-, -, h⟩ := bind_eq_ok.mp h
  rw [if_neg Bool.false_ne_true] at h
  cases h
  refine ⟨.ret hk .nil, rfl, by simp, ?_, ?_⟩
  · rw [made_succ rfl]
    exact .refl _
  · intro q hq
    rw [List.mem_singleton.mp hq]
    exact Or.inr ⟨rfl, Nat.lt_succ_self _⟩

variable (L f sr) in
/-- Below the body nothing is left of a `Return`. -/
lemma scan_spec (sup : Bool) :
    (∀ s : Stmt ι ε, ∀ mainbody last p p' new, k ≤ p.next →
      s.scan L f sr mainbody last p = .ok (new, p') →
      ((mainbody && last) = true → ∀ id e, s ≠ .ret id e) → Scanned L sup sr k p p' [s] new) ∧
    ∀ ss : List (Stmt ι ε), ∀ p p' ss', k ≤ p.next →
      scanStmts L f sr false p ss = .ok (ss', p') → Scanned L sup sr k p p' ss ss' := by
  apply induct
  case ret =>
    intro id e mainbody last p p' new hk h hlast
    cases hmain : mainbody && last with
    | true => exact absurd rfl (hlast hmain id e)
    | false =>
        rw [Stmt.scan, hmain] at h
        exact scanReturn_false hk h
  case instr =>
    intro id is mainbody last p p' new _ h _
    cases h
    exact .refl (.instr .nil) rfl
  case goto =>
    intro id t mainbody last p p' new _ h _
    cases h
    exact .refl (.goto .nil) rfl
  case brk =>
    intro id mainbody last p p' new _ h _
    cases h
    exact .refl (.brk .nil) rfl
  case cont =>
    intro id mainbody last p p' new _ h _
    cases h
    exact .refl (.cont .nil) rfl
  case cond =>
    intro id g b1 b2 ih1 ih2 mainbody last p p' new hk h _
    obtain ⟨⟨b1', p₁⟩, h1, h⟩ := bind_eq_ok.mp h
    obtain ⟨⟨b2', p₂⟩, h2, h⟩ := bind_eq_ok.mp h
    cases h
    have hb1 := ih1 _ _ _ hk h1
    have hb2 := ih2 _ _ _ (hk.trans hb1.next_le) h2
    refine (hb1.append hb2).nested (.cond hb1.scans hb2.scans .nil) ?_ id ?_ ?_ ?_ ?_ <;>
    · simp [erase, Stmt.erase, idsOf, Stmt.ids, gotosOf, Stmt.gotos, retvalsOf, Stmt.retvals]
  case switch =>
    intro id e b ih mainbody last p p' new hk h _
    obtain ⟨⟨b', p₁⟩, hb, h⟩ := bind_eq_ok.mp h
    cases h
    refine (ih _ _ _ hk hb).nested (.switch (ih _ _ _ hk hb).scans .nil) ?_ id ?_ ?_ ?_ ?_ <;>
    · simp [erase, Stmt.erase, idsOf, Stmt.ids, gotosOf, Stmt.gotos, retvalsOf, Stmt.retvals]
  case loop =>
    intro id b ih mainbody last p p' new hk h _
    obtain ⟨⟨b', p₁⟩, hb, h⟩ := bind_eq_ok.mp h
    cases h
    refine (ih _ _ _ hk hb).nested (.loop (ih _ _ _ hk hb).scans .nil) ?_ id ?_ ?_ ?_ ?_ <;>
    · simp [erase, Stmt.erase, idsOf, Stmt.ids, gotosOf, Stmt.gotos, retvalsOf, Stmt.retvals]
  case block =>
    intro id b ih mainbody last p p' new hk h _
    obtain ⟨⟨b', p₁⟩, hb, h⟩ := bind_eq_ok.mp h
    cases h
    refine (ih _ _ _ hk hb).nested (.block (ih _ _ _ hk hb).scans .nil) ?_ id ?_ ?_ ?_ ?_ <;>
    · simp [erase, Stmt.erase, idsOf, Stmt.ids, gotosOf, Stmt.gotos, retvalsOf, Stmt.retvals]
  case nil =>
    intro p p' ss' _ h
    cases h
    exact .refl .nil rfl
  case cons =>
    intro s ss ihs ihss p p' ss' hk h
    rw [scanStmts, if_neg (by simp)] at h
    obtain ⟨⟨new, p₁⟩, hs, h⟩ := bind_eq_ok.mp h
    obtain ⟨⟨rests, p₂⟩, hss, h⟩ := bind_eq_ok.mp h
    cases h
    have hone := ihs _ _ _ _ _ hk hs (by simp)
    exact hone.append (ihss _ _ _ (hk.trans hone.next_le) hss)

end

/-! ## When the pass goes through -/

/-- The `Return`s of a block have a value if and only if the function returns anything. -/
def Fits (f : Fundec ι ε) (ss : List (Stmt ι ε)) : Prop :=
  ∀ e ∈ retvalsOf ss, e.isSome = f.hasRet

/-- The body ends in a `Return` of a variable, and has no other one. -/
def ReturnsVarOnly (L : Lang ι ε) (ss : List (Stmt ι ε)) : Prop :=
  ∃ init s, ss = init ++ [s] ∧ s.returnsVar L = true ∧ retvalsOf init = []

lemma fits_append {ss₁ ss₂ : List (Stmt ι ε)} :
    Fits f (ss₁ ++ ss₂) ↔ Fits f ss₁ ∧ Fits f ss₂ := by
  rw [Fits, retvalsOf_append]
  exact List.forall_mem_append

lemma fits_of_retvalsOf_eq_nil {ss : List (Stmt ι ε)} (h : retvalsOf ss = []) : Fits f ss := by
  intro e he
  rw [h] at he
  exact absurd he List.not_mem_nil

lemma checkReturn_ok_iff {e : Option (Exp ε)} :
    checkReturn f e = .ok () ↔ e.isSome = f.hasRet := by
  rw [checkReturn, ensure_bind_eq_ok, ensure_eq_ok]
  cases e <;> cases f.hasRet <;> simp

lemma scanReturn_ok_iff {last : Bool} {p : State} {id : Sid} {e : Option (Exp ε)} :
    (∃ r, scanReturn f sr last p id e = .ok r) ↔ e.isSome = f.hasRet := by
  rw [← checkReturn_ok_iff]
  constructor
  · rintro ⟨r, h⟩
    obtain ⟨u, hcheck, -⟩ := bind_eq_ok.mp h
    exact hcheck
  · intro hcheck
    rw [scanReturn, hcheck, ok_bind]
    cases last
    · exact ⟨_, rfl⟩
    · exact ⟨_, rfl⟩

variable (L f sr) in
lemma scan_ok_iff :
    (∀ s : Stmt ι ε, ∀ mainbody last p,
      (∃ r, s.scan L f sr mainbody last p = .ok r) ↔ Fits f [s]) ∧
    ∀ ss : List (Stmt ι ε), ∀ p, (∃ r, scanStmts L f sr false p ss = .ok r) ↔ Fits f ss := by
  apply induct
  case ret =>
    intro id e mainbody last p
    rw [Stmt.scan, scanReturn_ok_iff, Fits]
    simp [retvalsOf, Stmt.retvals]
  case cond =>
    intro id g b1 b2 ih1 ih2 mainbody last p
    have hretvals : retvalsOf [.cond id g b1 b2] = retvalsOf (b1 ++ b2) := by
      simp [retvalsOf, Stmt.retvals]
    rw [Stmt.scan, bind_ok_iff (c := Fits f b2), ih1 p, ← fits_append, Fits, Fits, hretvals]
    rintro ⟨b1', p₁⟩ _
    rw [bind_ok_iff (c := True), and_true, ih2 p₁]
    exact fun r _ => ⟨fun _ => trivial, fun _ => ⟨_, rfl⟩⟩
  case switch =>
    intro id e b ih mainbody last p
    rw [Stmt.scan, bind_ok_iff (c := True), and_true, ih p, Fits, Fits]
    · simp [retvalsOf, Stmt.retvals]
    · exact fun r _ => ⟨fun _ => trivial, fun _ => ⟨_, rfl⟩⟩
  case loop =>
    intro id b ih mainbody last p
    rw [Stmt.scan, bind_ok_iff (c := True), and_true, ih p, Fits, Fits]
    · simp [retvalsOf, Stmt.retvals]
    · exact fun r _ => ⟨fun _ => trivial, fun _ => ⟨_, rfl⟩⟩
  case block =>
    intro id b ih mainbody last p
    rw [Stmt.scan, bind_ok_iff (c := True), and_true, ih p, Fits, Fits]
    · simp [retvalsOf, Stmt.retvals]
    · exact fun r _ => ⟨fun _ => trivial, fun _ => ⟨_, rfl⟩⟩
  case instr | goto =>
    intro id x mainbody last p
    exact ⟨fun _ => fits_of_retvalsOf_eq_nil rfl, fun _ => ⟨_, rfl⟩⟩
  case brk | cont =>
    intro id mainbody last p
    exact ⟨fun _ => fits_of_retvalsOf_eq_nil rfl, fun _ => ⟨_, rfl⟩⟩
  case nil =>
    intro p
    exact ⟨fun _ => fits_of_retvalsOf_eq_nil rfl, fun _ => ⟨_, rfl⟩⟩
  case cons =>
    intro s ss ihs ihss p
    rw [scanStmts, if_neg (by simp), bind_ok_iff (c := Fits f ss), ihs, ← fits_append]
    · rfl
    · rintro ⟨new, p₁⟩ _
      rw [bind_ok_iff (c := True), and_true, ihss p₁]
      exact fun r _ => ⟨fun _ => trivial, fun _ => ⟨_, rfl⟩⟩

/-- What the scan makes of the body. -/
lemma scan_main (sup : Bool) {ss ss' : List (Stmt ι ε)} {k : ℕ} {p p' : State} (hk : k ≤ p.next)
    (h : scanStmts L f sr true p ss = .ok (ss', p')) :
    ∃ init init' e e', ss = init ++ e ∧ ss' = init' ++ e' ∧ Scanned L sup sr k p p' init init' ∧
      Fits f init ∧ Ending L f sr p'.haveGoto e e' := by
  induction ss generalizing p ss' with
  | nil =>
      cases h
      exact ⟨[], [], [], _, rfl, rfl, .refl_of rfl rfl, fits_of_retvalsOf_eq_nil rfl, .made⟩
  | cons s rests ih =>
      rw [scanStmts] at h
      split at h
      case isTrue hkept =>
        cases h
        simp only [Bool.and_eq_true, Bool.not_eq_true', List.isEmpty_iff, true_and] at hkept
        obtain ⟨⟨rfl, hvar⟩, hno⟩ := hkept
        refine ⟨[], [], [s], [s], rfl, rfl, .refl_of rfl rfl, fits_of_retvalsOf_eq_nil rfl,
          ?_⟩
        rw [hno]
        cases s with
        | ret id e => exact .kept hvar
        | _ => cases hvar
      case isFalse =>
        obtain ⟨⟨new, p₁⟩, hs, h⟩ := bind_eq_ok.mp h
        obtain ⟨⟨rests', p₂⟩, hrests, h⟩ := bind_eq_ok.mp h
        cases h
        by_cases hlast : (true && rests.isEmpty) = true ∧ ∃ id e, s = .ret id e
        · obtain ⟨hempty, id, e, rfl⟩ := hlast
          rw [Bool.true_and, List.isEmpty_iff] at hempty
          subst hempty
          obtain ⟨u, hcheck, hs⟩ := bind_eq_ok.mp hs
          cases hs
          cases hrests
          exact ⟨[], [], _, _, rfl, rfl, .refl_of rfl rfl, fits_of_retvalsOf_eq_nil rfl,
            .last (checkReturn_ok_iff.mp hcheck)⟩
        · have hone := (scan_spec L f sr sup).1 s _ _ _ _ _ hk hs
            fun hb id e hret => hlast ⟨hb, id, e, hret⟩
          have hfits := ((scan_ok_iff L f sr).1 s _ _ _).mp ⟨_, hs⟩
          obtain ⟨init, init', e, e', rfl, rfl, hinit, hfits', hend⟩ :=
            ih (hk.trans hone.next_le) hrests
          exact ⟨s :: init, new ++ init', e, e', rfl, (List.append_assoc ..).symm,
            hone.append hinit, fits_append.mpr ⟨hfits, hfits'⟩, hend⟩

lemma returnsVarOnly_cons {s : Stmt ι ε} {ss : List (Stmt ι ε)} :
    ReturnsVarOnly L (s :: ss) ↔
      ss = [] ∧ s.returnsVar L = true ∨ retvalsOf [s] = [] ∧ ReturnsVarOnly L ss := by
  constructor
  · rintro ⟨init, s', heq, hvar, hinit⟩
    cases init with
    | nil =>
        cases heq
        exact Or.inl ⟨rfl, hvar⟩
    | cons s₁ init =>
        cases heq
        rw [← List.singleton_append, retvalsOf_append, List.append_eq_nil_iff] at hinit
        exact Or.inr ⟨hinit.1, init, s', rfl, hvar, hinit.2⟩
  · rintro (⟨rfl, hvar⟩ | ⟨hs, init, s', rfl, hvar, hinit⟩)
    · exact ⟨[], s, rfl, hvar, rfl⟩
    · refine ⟨s :: init, s', rfl, hvar, ?_⟩
      rw [← List.singleton_append, retvalsOf_append, hs, hinit, List.append_nil]

lemma not_returnsVarOnly_nil : ¬ ReturnsVarOnly L ([] : List (Stmt ι ε)) := by
  rintro ⟨init, s, heq, -⟩
  exact absurd heq.symm (List.append_ne_nil_of_right_ne_nil _ (List.cons_ne_nil _ _))

lemma Scanned.haveGoto_eq_false {sup : Bool} {k : ℕ} {p p' : State} {ss ss' : List (Stmt ι ε)}
    (h : Scanned L sup sr k p p' ss ss') :
    p'.haveGoto = false ↔ p.haveGoto = false ∧ retvalsOf ss = [] := by
  rw [h.haveGoto, Bool.or_eq_false_iff, decide_eq_false_iff_not, h.next, ← List.length_eq_zero_iff]
  exact and_congr_right fun _ => by omega

/-- On the body the last `Return` may stay as it is, without the checks. -/
lemma scan_main_ok_iff {ss : List (Stmt ι ε)} {p : State} :
    (∃ r, scanStmts L f sr true p ss = .ok r) ↔
      Fits f ss ∨ p.haveGoto = false ∧ ReturnsVarOnly L ss := by
  induction ss generalizing p with
  | nil =>
      exact ⟨fun _ => Or.inl (fits_of_retvalsOf_eq_nil rfl), fun _ => ⟨_, rfl⟩⟩
  | cons s rests ih =>
      rw [scanStmts]
      split
      case isTrue hkept =>
        simp only [Bool.and_eq_true, Bool.not_eq_true', List.isEmpty_iff, true_and] at hkept
        obtain ⟨⟨rfl, hvar⟩, hno⟩ := hkept
        exact ⟨fun _ => Or.inr ⟨hno, [], s, rfl, hvar, rfl⟩, fun _ => ⟨_, rfl⟩⟩
      case isFalse hkept =>
        have hcons : p.haveGoto = false ∧ ReturnsVarOnly L (s :: rests) ↔
            p.haveGoto = false ∧ retvalsOf [s] = [] ∧ ReturnsVarOnly L rests := by
          rw [returnsVarOnly_cons]
          refine and_congr_right fun hno => or_iff_right ?_
          rintro ⟨rfl, hvar⟩
          exact hkept (by simp [hvar, hno])
        rw [hcons, bind_ok_iff
          (c := Fits f rests ∨ p.haveGoto = false ∧ retvalsOf [s] = [] ∧ ReturnsVarOnly L rests),
          (scan_ok_iff L f sr).1 s, ← List.singleton_append (l := rests), fits_append]
        · constructor
          · rintro ⟨hs, hrests | hrests⟩
            · exact Or.inl ⟨hs, hrests⟩
            · exact Or.inr hrests
          · rintro (⟨hs, hrests⟩ | hrests)
            · exact ⟨hs, Or.inl hrests⟩
            · exact ⟨fits_of_retvalsOf_eq_nil hrests.2.1, Or.inr hrests⟩
        rintro ⟨new, p₁⟩ hs
        rw [bind_ok_iff (c := True) fun r _ => ⟨fun _ => trivial, fun _ => ⟨_, rfl⟩⟩, and_true,
          @ih p₁, ← and_assoc]
        refine or_congr_right (and_congr_left fun hvar => ?_)
        -- something follows, so `s` is not the last statement
        have hrests : rests ≠ [] := by
          rintro rfl
          exact not_returnsVarOnly_nil hvar
        have hscanned := (scan_spec L f sr true).1 s _ _ _ _ _ (Nat.le_refl _) hs fun hlast => by
          rw [Bool.true_and, List.isEmpty_iff] at hlast
          exact absurd hlast hrests
        exact hscanned.haveGoto_eq_false

end

/-! ## The function that is made -/

section

variable {ι ε : Type} {L : Lang ι ε} {f g : Fundec ι ε} {sr : Sid} {next : ℕ}

/-- The records of the source are numbered below `next`. -/
def Fundec.NumberedBelow (L : Lang ι ε) (f : Fundec ι ε) (next : ℕ) : Prop :=
  ∀ x ∈ idsOf (f.erase L).sbody.stmts, ∃ n < next, x = .source n

lemma Scans.returnsOf {sup : Bool} {k : ℕ} {ss ss' : List (Stmt ι ε)} (h : Scans sr k ss ss') :
    returnsOf (erase L sup ss') = [] := by
  induction h with
  | nil => rfl
  | ret _ _ ih | instr _ ih | goto _ ih | brk _ ih | cont _ ih =>
      simpa [erase, Stmt.erase, Cil.returnsOf, Stmt.returns] using ih
  | cond _ _ _ ih1 ih2 ih =>
      simp [erase, Stmt.erase, Cil.returnsOf, Stmt.returns, ih1, ih2, ih]
  | switch _ _ ihb ih | loop _ _ ihb ih | block _ _ ihb ih =>
      simp [erase, Stmt.erase, Cil.returnsOf, Stmt.returns, ihb, ih]

variable (L) in
/-- The source has no inserted calls. -/
lemma erase_code (sup : Bool) : (∀ s : Stmt ι ε, ∀ id c, .instr id (.call c) ∉
      recordsOf [s.erase L sup]) ∧
    ∀ ss : List (Stmt ι ε), ∀ id c, .instr id (.call c) ∉ recordsOf (erase L sup ss) := by
  apply induct
  case cons =>
    intro s ss hs hss id c hmem
    rw [erase, recordsOf_cons, List.mem_append] at hmem
    exact hmem.elim (hs id c) (hss id c)
  case cond =>
    intro id g b1 b2 ih1 ih2 x c hmem
    simp only [Stmt.erase, recordsOf, Stmt.records, List.append_nil, List.mem_cons,
      List.mem_append, reduceCtorEq, false_or] at hmem
    exact hmem.elim (ih1 x c) (ih2 x c)
  case switch =>
    intro id e b ih
    simpa [Stmt.erase, recordsOf, Stmt.records] using ih
  case loop | block =>
    intro id b ih
    simpa [Stmt.erase, recordsOf, Stmt.records] using ih
  all_goals
    intros
    simp [Stmt.erase, erase, recordsOf, Stmt.records]

/-- The labels of the function that is made. -/
def labelsWith (f : Fundec ι ε) (sr : Sid) (haveGoto : Bool) : Sid → List Label :=
  if haveGoto then Function.update f.labels sr (.label "return_label" false :: f.labels sr)
  else f.labels

lemma oneret_eq_ok (h : oneret L f next = .ok g) :
    ∃ init init' e e' p, f.stmts = init ++ e ∧
      Scanned L f.retTypSupported (.source next) (next + 1) ⟨false, false, next + 1⟩ p init init' ∧
      Fits f init ∧ Ending L f (.source next) p.haveGoto e e' ∧
      g = { f with stmts := init' ++ e', labels := labelsWith f (.source next) p.haveGoto } := by
  obtain ⟨⟨stmts, p⟩, hscan, h⟩ := bind_eq_ok.mp h
  cases h
  obtain ⟨init, init', e, e', hinit, rfl, hscanned, hfits, hend⟩ :=
    scan_main f.retTypSupported (Nat.le_refl (next + 1)) hscan
  exact ⟨init, init', e, e', p, hinit, hscanned, hfits, hend, rfl⟩

/-- **When the pass goes through**: each `Return` has a value if and only if the function returns
anything, or there is only a last one that returns a variable. -/
theorem oneret_ok_iff :
    (∃ g, oneret L f next = .ok g) ↔ Fits f f.stmts ∨ ReturnsVarOnly L f.stmts := by
  rw [oneret, bind_ok_iff (c := True), and_true, scan_main_ok_iff]
  · simp
  · exact fun r _ => ⟨fun _ => trivial, fun _ => ⟨_, rfl⟩⟩

/-! ### The records and the labels -/

/-- The record of `getRetStmt` stands in the body if something goes to it. -/
lemma Ending.idsOf (sup : Bool) {haveGoto : Bool} {e e' : List (Stmt ι ε)}
    (h : Ending L f sr haveGoto e e') :
    ∃ tail, idsOf (erase L sup e') = idsOf (erase L sup e) ++ tail ∧
      (tail = [] ∧ haveGoto = false ∨ tail = [sr]) := by
  cases h with
  | kept _ => exact ⟨[], rfl, Or.inl ⟨rfl, rfl⟩⟩
  | made => exact ⟨[sr], rfl, Or.inr rfl⟩
  | last _ => exact ⟨[sr], rfl, Or.inr rfl⟩

lemma Ending.gotosOf {sup haveGoto : Bool} {e e' : List (Stmt ι ε)}
    (h : Ending L f sr haveGoto e e') : gotosOf (erase L sup e') = [] := by
  cases h <;> rfl

/-- The last statement of what is made, and what stands in front of it. -/
lemma Ending.split (sup : Bool) {haveGoto : Bool} {e e' : List (Stmt ι ε)}
    (h : Ending L f sr haveGoto e e') :
    ∃ pre r x, e' = pre ++ [.ret r x] ∧ returnsOf (erase L sup pre) = [] ∧
      (x = (if f.hasRet then some .retres else none) ∨
        e = [.ret r x] ∧ Stmt.returnsVar L (.ret r x) = true) := by
  cases h with
  | kept hvar => exact ⟨[], _, _, rfl, rfl, Or.inr ⟨rfl, hvar⟩⟩
  | made => exact ⟨[], _, _, rfl, rfl, Or.inl rfl⟩
  | last _ => exact ⟨[_], _, _, rfl, rfl, Or.inl rfl⟩

lemma mem_labelsWith {haveGoto : Bool} {x : Sid} {l : Label} (hl : l ∈ f.labels x) :
    l ∈ labelsWith f sr haveGoto x := by
  rw [labelsWith]
  split_ifs
  · by_cases hx : x = sr
    · subst hx
      rw [Function.update_self]
      exact List.mem_cons_of_mem _ hl
    · rwa [Function.update_of_ne hx]
  · exact hl

lemma mem_made {p p' : State} {x : Sid} (hx : x ∈ made p p') : ∃ n, p.next ≤ n ∧ x = .source n := by
  obtain ⟨n, hn, rfl⟩ := List.mem_map.mp hx
  exact ⟨n, (List.mem_range'_1.mp hn).1, rfl⟩

lemma made_nodup (p p' : State) : (made p p').Nodup :=
  List.Nodup.map (fun _ _ h => Sid.source.inj h) List.nodup_range'

/-- The records of the function that is made. -/
lemma idsOf_oneret (h : oneret L f next = .ok g) :
    ∃ new : List Sid, (idsOf (g.erase L).sbody.stmts).Perm
        (idsOf (f.erase L).sbody.stmts ++ new) ∧
      new.Nodup ∧ (∀ x ∈ new, ∃ n ≥ next, x = .source n) ∧
      (∀ q ∈ gotosOf (g.erase L).sbody.stmts, q ∈ gotosOf (f.erase L).sbody.stmts ∨
        q.2 = .source next ∧ .source next ∈ new ∧
          .label "return_label" false ∈ g.labels (.source next)) ∧
      (∀ x l, l ∈ f.labels x → l ∈ g.labels x) ∧
      ∀ x, x ∉ new → g.labels x = f.labels x := by
  obtain ⟨init, init', e, e', p, hinit, hscanned, -, hend, rfl⟩ := oneret_eq_ok h
  obtain ⟨tail, htail, hcases⟩ := hend.idsOf f.retTypSupported
  have hsr : p.haveGoto = true → tail = [.source next] := by
    intro hgoto
    rcases hcases with ⟨-, hno⟩ | htail
    · rw [hgoto] at hno
      cases hno
    · exact htail
  refine ⟨made ⟨false, false, next + 1⟩ p ++ tail, ?_, ?_, ?_, ?_, fun x l => mem_labelsWith, ?_⟩
  · simp only [Fundec.erase, hinit, erase_append, idsOf_append, htail]
    rw [List.append_assoc]
    refine (hscanned.ids.append_right _).trans ?_
    rw [List.append_assoc]
    refine List.Perm.append_left _ ?_
    rw [← List.append_assoc, ← List.append_assoc]
    exact List.perm_append_comm.append_right _
  · rcases hcases with ⟨rfl, -⟩ | rfl
    · rw [List.append_nil]
      exact made_nodup _ _
    · refine (made_nodup _ _).append (List.nodup_singleton _) ?_
      rw [List.disjoint_singleton]
      intro hmem
      obtain ⟨n, hn, heq⟩ := mem_made hmem
      cases heq
      exact absurd hn (Nat.not_succ_le_self next)
  · intro x hx
    rcases List.mem_append.mp hx with hx | hx
    · obtain ⟨n, hn, rfl⟩ := mem_made hx
      exact ⟨n, (Nat.le_succ next).trans hn, rfl⟩
    · rcases hcases with ⟨rfl, -⟩ | rfl
      · exact absurd hx List.not_mem_nil
      · exact ⟨next, Nat.le_refl next, List.mem_singleton.mp hx⟩
  · intro q hq
    simp only [Fundec.erase, erase_append, gotosOf_append, hend.gotosOf, List.append_nil] at hq
    rcases hscanned.gotos q hq with hq | ⟨hq, hlt⟩
    · left
      simp only [Fundec.erase, hinit, erase_append, gotosOf_append]
      exact List.mem_append_left _ hq
    · have hgoto : p.haveGoto = true := by simpa [hscanned.haveGoto] using hlt
      refine Or.inr ⟨hq, ?_, ?_⟩
      · rw [hsr hgoto]
        exact List.mem_append_right _ (List.mem_singleton_self _)
      · simp [labelsWith, hgoto]
  · intro x hx
    dsimp only [labelsWith]
    split_ifs with hgoto
    · rw [hsr hgoto] at hx
      refine Function.update_of_ne ?_ _ _
      rintro rfl
      exact hx (List.mem_append_right _ (List.mem_singleton_self _))
    · rfl

/-- **The form of what is made**: a well-formed body whose only `Return` is its last statement. -/
theorem oneret_form (hnext : f.NumberedBelow L next) (hwf : (f.erase L).sbody.WellFormed)
    (h : oneret L f next = .ok g) :
    (g.erase L).sbody.WellFormed ∧ (g.erase L).sbody.OneReturn := by
  obtain ⟨new, hperm, hnodup, hnew, hgotos, hold, hlabels⟩ := idsOf_oneret h
  have hmem : ∀ {x}, x ∈ idsOf (g.erase L).sbody.stmts ↔
      x ∈ idsOf (f.erase L).sbody.stmts ∨ x ∈ new := by
    intro x
    rw [hperm.mem_iff, List.mem_append]
  refine ⟨⟨?_, fun id c => (erase_code L g.retTypSupported).2 g.stmts id c, ?_, ?_, ?_⟩, ?_⟩
  · intro x hx
    rcases hmem.mp hx with hx | hx
    · exact hwf.source x hx
    · obtain ⟨n, -, rfl⟩ := hnew x hx
      exact ⟨n, rfl⟩
  · refine hperm.nodup_iff.mpr (hwf.nodup.append hnodup ?_)
    intro x hx hx'
    obtain ⟨n, hn, rfl⟩ := hnext x hx
    obtain ⟨k, hk, heq⟩ := hnew _ hx'
    cases heq
    exact absurd hn (Nat.not_lt.mpr hk)
  · intro x hx
    rw [hmem, not_or] at hx
    exact (hlabels x hx.2).trans (hwf.labels x hx.1)
  · intro q hq
    rcases hgotos q hq with hq | ⟨heq, hsr, hlabel⟩
    · obtain ⟨hin, name, source, hl⟩ := hwf.targets q hq
      exact ⟨hmem.mpr (Or.inl hin), name, source, hold _ _ hl⟩
    · rw [heq]
      exact ⟨hmem.mpr (Or.inr hsr), "return_label", false, hlabel⟩
  · obtain ⟨init, init', e, e', p, hinit, hscanned, -, hend, rfl⟩ := oneret_eq_ok h
    obtain ⟨pre, r, x, rfl, hpre, -⟩ := hend.split f.retTypSupported
    refine ⟨erase L f.retTypSupported (init' ++ pre), r,
      x.map (Exp.erase L f.retTypSupported), ?_, ?_⟩
    · simp only [Fundec.erase, erase_append, List.append_assoc]
      rfl
    · rw [erase_append, returnsOf_append, hscanned.scans.returnsOf, hpre]
      rfl

/-! ## The prioritization pass behind it -/

/-- The prioritization pass goes through if it finds what each function returns. -/
lemma processFrom_ok_iff {a : PassArgs} {hits : Sid → Bool} {file : List Cil.Fundec}
    {p : PassState} (hdepth : p.loopDepth ≤ 0) :
    (∃ bs, processFrom a hits p file = .ok bs) ↔ ∀ f ∈ file, ∃ e, retvalLval f = .ok e := by
  induction file generalizing p with
  | nil => exact ⟨fun _ => by simp, fun _ => ⟨[], rfl⟩⟩
  | cons f fs ih =>
      have hvglob : (∃ r, vglob a hits p f = .ok r) ↔ ∃ e, retvalLval f = .ok e := by
        constructor
        · rintro ⟨r, hr⟩
          obtain ⟨e, he, -⟩ := (vglob_eq_ok hdepth).mp hr
          exact ⟨e, he⟩
        · rintro ⟨e, he⟩
          exact ⟨_, (vglob_eq_ok hdepth).mpr ⟨e, he, rfl⟩⟩
      rw [processFrom, bind_ok_iff (c := ∀ f ∈ fs, ∃ e, retvalLval f = .ok e), hvglob,
        List.forall_mem_cons]
      rintro ⟨b, p'⟩ hr
      obtain ⟨e, -, heq⟩ := (vglob_eq_ok hdepth).mp hr
      cases heq
      rw [bind_ok_iff (c := True) fun _ _ => ⟨fun _ => trivial, fun _ => ⟨_, rfl⟩⟩, and_true]
      exact ih ((@afterPhaseOne_settled a f hits p hdepth).redirected _ _).depth

lemma stmtsAnalyze_append (ss₁ ss₂ : List Cil.Stmt) :
    stmtsAnalyze (ss₁ ++ ss₂) = stmtsAnalyze ss₁ ++ stmtsAnalyze ss₂ := by
  induction ss₁ with
  | nil => rfl
  | cons s ss₁ ih => rw [List.cons_append, stmtsAnalyze, ih, stmtsAnalyze, List.append_assoc]

lemma stmtsAnalyze_eq_nil {ss : List Cil.Stmt} (h : returnsOf ss = []) : stmtsAnalyze ss = [] := by
  induction ss using blockInduct with
  | cons s ss hs hss =>
      rw [← List.singleton_append, returnsOf_append, List.append_eq_nil_iff] at h
      rw [← List.singleton_append, stmtsAnalyze_append, hs h.1, hss h.2, List.append_nil]
  | ret id e => cases h
  | cond id b1 b2 ih1 ih2 =>
      simp only [returnsOf, Stmt.returns, List.append_nil, List.append_eq_nil_iff] at h
      simp [stmtsAnalyze, Stmt.analyze, ih1 h.1, ih2 h.2]
  | _ => rfl

/-- In one-return form the pass finds what is returned if it is an lvalue. -/
lemma retvalLval_ok_iff {f : Cil.Fundec} {init : List Cil.Stmt} {r : Sid} {exp : Option RetExp}
    (hstmts : f.sbody.stmts = init ++ [.ret r exp]) (hret : returnsOf init = []) :
    (∃ e, retvalLval f = .ok e) ↔ f.returnsVoid = true ∨ ∃ x, exp = some x ∧ x.lval = true := by
  have hfind : returnStmtFind f = .ok exp := by
    rw [returnStmtFind, hstmts, stmtsAnalyze_append, stmtsAnalyze_eq_nil hret]
    rfl
  rw [retvalLval, hfind, ok_bind]
  split_ifs with hvoid
  · exact ⟨fun _ => Or.inl hvoid, fun _ => ⟨none, rfl⟩⟩
  · cases exp with
    | none => simp [hvoid]
    | some x => cases hx : x.lval <;> simp [hvoid, hx]

/-- A function without a result has no `Return` with a value. -/
def Fundec.ReturnsTyped (f : Fundec ι ε) : Prop :=
  f.hasRet = false → ∀ e ∈ retvalsOf f.stmts, e = none

/-- What the prioritization pass finds to be returned. -/
lemma retvalLval_oneret (htyped : f.ReturnsTyped) (h : oneret L f next = .ok g) :
    (∃ e, retvalLval (g.erase L) = .ok e) ↔ (f.hasRet = false → f.returnsVoid = true) := by
  obtain ⟨init, init', e, e', p, hinit, hscanned, -, hend, hg⟩ := oneret_eq_ok h
  obtain ⟨pre, r, x, rfl, hpre, hx⟩ := hend.split f.retTypSupported
  have hstmts : (g.erase L).sbody.stmts = erase L f.retTypSupported (init' ++ pre) ++
      [.ret r (x.map (Exp.erase L f.retTypSupported))] := by
    rw [hg, Fundec.erase]
    dsimp only
    rw [← List.append_assoc, erase_append]
    rfl
  have hret : returnsOf (erase L f.retTypSupported (init' ++ pre)) = [] := by
    rw [erase_append, returnsOf_append, hscanned.scans.returnsOf, hpre]
    rfl
  have hvoid : (g.erase L).returnsVoid = f.returnsVoid := by rw [hg]; rfl
  rw [retvalLval_ok_iff hstmts hret, hvoid]
  -- the expression is there if the function returns anything, and then it is an lvalue
  have hlval : (∃ y, x.map (Exp.erase L f.retTypSupported) = some y ∧ y.lval = true) ↔
      f.hasRet = true := by
    rcases hx with rfl | ⟨rfl, hvar⟩
    · cases hasRet : f.hasRet <;> simp [Exp.erase]
    · have hmem : x ∈ retvalsOf f.stmts := by
        rw [hinit, retvalsOf_append]
        exact List.mem_append_right _ List.mem_cons_self
      cases x with
      | none => cases hvar
      | some y =>
          have hhas : f.hasRet = true := by
            by_contra hno
            cases htyped (Bool.not_eq_true _ ▸ hno) _ hmem
          cases y with
          | source v => simp [Exp.erase, hhas, L.isLval_of_isVar v hvar]
          | retres => simp [Exp.erase, hhas]
  rw [hlval]
  cases f.hasRet <;> simp

/-- **The prioritization pass behind it** goes through on a file if no function returns a typedef of
`void`, and brackets every path of the functions with a pair. -/
theorem oneret_then_pairs {a : PassArgs} {hits : Sid → Bool} {fs gs : List (Fundec ι ε)}
    (h : List.Forall₂ (fun f g => ∃ next, f.NumberedBelow L next ∧ (f.erase L).sbody.WellFormed ∧
      f.ReturnsTyped ∧ oneret L f next = .ok g) fs gs) :
    ((∃ bs, process a hits (gs.map (Fundec.erase L)) = .ok bs) ↔
      ∀ f ∈ fs, f.hasRet = false → f.returnsVoid = true) ∧
    ∀ bs, process a hits (gs.map (Fundec.erase L)) = .ok bs →
      List.Forall₂ (fun g b => g.vname ∈ a.prepostfnFuncs → ∀ path z, b.IsPath path →
        path.getLast? = some z → z ∈ returnsOf b.stmts → b.Bracketed path) gs bs := by
  constructor
  · rw [process, processFrom_ok_iff (Int.le_refl 0), List.forall_mem_map]
    induction h with
    | nil => simp
    | cons hfg _ ih =>
        obtain ⟨next, -, -, htyped, hg⟩ := hfg
        rw [List.forall_mem_cons, List.forall_mem_cons, ih, retvalLval_oneret htyped hg]
  · have hforms : ∀ g ∈ gs, (g.erase L).sbody.WellFormed ∧ (g.erase L).sbody.OneReturn := by
      induction h with
      | nil => simp
      | cons hfg _ ih =>
          obtain ⟨next, hnext, hwf, -, hg⟩ := hfg
          exact List.forall_mem_cons.mpr ⟨oneret_form hnext hwf hg, ih⟩
    intro bs hprocess
    have hall : List.Forall₂ (fun g b => g.sbody.WellFormed → g.sbody.OneReturn →
        g.vname ∈ a.prepostfnFuncs → ∀ path z, b.IsPath path → path.getLast? = some z →
          z ∈ returnsOf b.stmts → b.Bracketed path) (gs.map (Fundec.erase L)) bs := by
      refine process_forall (fun f p e _ _ hwf hone hpair path z hpath hlast hz => ?_) hprocess
      obtain ⟨init, r, exp, hstmts, hret⟩ := hone
      obtain ⟨k, rfl⟩ := hwf.source r (by rw [hstmts]; simp [idsOf, Stmt.ids])
      refine (rewritten_inParts hwf hpair hstmts hret).bracketed hpath fun y hy => ?_
      rw [hlast] at hy
      cases hy
      exact hz
    rw [List.forall₂_map_left_iff] at hall
    refine List.Forall₂.imp ?_ (List.forall₂_and_left _ _ |>.mpr ⟨hforms, hall⟩)
    exact fun g b hg => hg.2 hg.1.1 hg.1.2

end

/-- Expressions are numbers, of which `0` is a variable. -/
def numbered : Lang ℕ ℕ where
  fallsThrough _ := true
  isVar e := e == 0
  isLval e := e == 0
  supportedRetType _ := true
  isLval_of_isVar _ h := h

/-- `if (1) return 2; return 3;` -/
def twoReturns : Fundec ℕ ℕ where
  vname := "tx"
  returnsVoid := false
  hasRet := true
  hasRet_of_void h := absurd h Bool.false_ne_true
  retTypSupported := true
  stmts := [.cond (.source 0) 1 [.ret (.source 1) (some (.source 2))] [],
    .ret (.source 2) (some (.source 3))]
  labels _ := []

/-- `if (1) { __retres = 2; goto return_label; } __retres = 3; return_label: return __retres;` -/
def twoReturnsResult : Fundec ℕ ℕ :=
  { twoReturns with
    stmts := [.cond (.source 0) 1 [.instr (.source 1) [.setRetres (.source 2)],
          .goto (.source 4) (.source 3)] [],
      .instr (.source 2) [.setRetres (.source 3)], .ret (.source 3) (some .retres)]
    labels := Function.update twoReturns.labels (.source 3) [.label "return_label" false] }

lemma twoReturns_wellFormed : (twoReturns.erase numbered).sbody.WellFormed := by
  constructor
  · simp [Fundec.erase, twoReturns, erase, Stmt.erase, idsOf, Stmt.ids]
  · simp [Fundec.erase, twoReturns, erase, Stmt.erase, recordsOf, Stmt.records]
  · simp [Fundec.erase, twoReturns, erase, Stmt.erase, idsOf, Stmt.ids]
  · simp [Fundec.erase, twoReturns]
  · simp [Fundec.erase, twoReturns, erase, Stmt.erase, gotosOf, Stmt.gotos]

lemma twoReturns_numbered : twoReturns.NumberedBelow numbered 3 := by
  simp [Fundec.NumberedBelow, Fundec.erase, twoReturns, erase, Stmt.erase, idsOf, Stmt.ids]

theorem twoReturns_then_pairs :
    oneret numbered twoReturns 3 = .ok twoReturnsResult ∧
    ((∃ bs, process txPair (fun _ => true) [twoReturnsResult.erase numbered] = .ok bs) ↔
      ∀ f ∈ [twoReturns], f.hasRet = false → f.returnsVoid = true) := by
  have hpass : oneret numbered twoReturns 3 = .ok twoReturnsResult := rfl
  have htyped : twoReturns.ReturnsTyped := fun h => by cases h
  exact ⟨hpass, (oneret_then_pairs
    (.cons ⟨3, twoReturns_numbered, twoReturns_wellFormed, htyped, hpass⟩ .nil)).1⟩

end SymDrive.Cil.OneRet
