import Mathlib.Data.List.Forall2
import SymDrive.Cil.Prioritization

/-!
# What the pass makes of a body

The two phases of `process_stmt_phases` come to one function of the source tree.  `instrument`
says where the calls stand and which `Goto`s are redirected; the state of the pass enters only
through `redirect`.

* `processBlock_one` — the first phase is `instrument` without redirections, and its effects on the
  state are those of the loops and returns in the order they are met.
* `processBlock_two` — the second phase turns that into `instrument` with the redirections, as long
  as `loop_depth` is not positive.  It never is (`vglob_eq_ok`): the first phase leaves it as it
  was, the second one decreases it.
* `process_forall` — what holds of the rewritten body of every function holds along a file.
-/

namespace SymDrive.Cil

open Checked

/-! ## The instrumented tree -/

/-- The calls in front of the return `s`. -/
def preReturn (a : PassArgs) (f : Fundec) (s : Sid) (e : Option RetExp) : List Stmt :=
  (if f.vname ∈ a.prepostfnFuncs then
    [.instr (.postfn s) (.call (.postfn (e.filter (canInstrumentFn a f)).isSome))] else []) ++
  genDrivermacroCall a f s

section

variable (pre : Sid → Option RetExp → List Stmt) (redirect : Sid → Sid → Option Sid)

mutual

/-- `n` is the number of the last loop before the statement. -/
def Stmt.instrument (n : ℤ) : Stmt → List Stmt
  | .goto g target =>
      match redirect g target with
      | some first => [.goto (.newGoto g) first]
      | none => [.goto g target]
  | .ret s e => pre s e ++ [.ret s e]
  | .loop l b =>
      let k := n + (loopsOf b).length + 1
      [.instr (.loopBefore l) (.call (.s2eLoopBefore k)),
        .loop l (addLoopBody (.instr (.loopBody l) (.call (.s2eLoopBody k))) (instrumentBlock n b)),
        .instr (.loopAfter l) (.call (.s2eLoopAfter k))]
  | .cond id b1 b2 =>
      [.cond id (instrumentBlock n b1) (instrumentBlock (n + (loopsOf b1).length) b2)]
  | .switch id b => [.switch id (instrumentBlock n b)]
  | .block id b => [.block id (instrumentBlock n b)]
  | .instr id i => [.instr id i]
  | .brk id => [.brk id]
  | .cont id => [.cont id]

/-- The instrumented statements of a block, with the loops numbered through. -/
def instrumentBlock (n : ℤ) : List Stmt → List Stmt
  | [] => []
  | s :: ss => s.instrument n ++ instrumentBlock (n + s.loops.length) ss

end

lemma instrumentBlock_append (ss ss' : List Stmt) (n : ℤ) :
    instrumentBlock pre redirect n (ss ++ ss') =
      instrumentBlock pre redirect n ss ++
        instrumentBlock pre redirect (n + (loopsOf ss).length) ss' := by
  induction ss generalizing n with
  | nil => simp [instrumentBlock, loopsOf]
  | cons s ss ih =>
      simp only [List.cons_append, instrumentBlock, ih, loopsOf, List.length_append,
        Int.natCast_add, List.append_assoc, Int.add_assoc]

@[simp] lemma instrument_jumpOut {s : Stmt} (h : s.isJumpOut = true) (n : ℤ) :
    s.instrument pre redirect n = [s] := by
  cases s with
  | brk id => rfl
  | cont id => rfl
  | _ => simp [Stmt.isJumpOut] at h

/-- A statement that is no jump out of the loop is not made into one. -/
lemma instrument_getLast? {s : Stmt} (h : s.isJumpOut = false) (n : ℤ) :
    ∃ last, (s.instrument pre redirect n).getLast? = some last ∧ last.isJumpOut = false := by
  cases s with
  | brk id => simp [Stmt.isJumpOut] at h
  | cont id => simp [Stmt.isJumpOut] at h
  | goto g target =>
      rw [Stmt.instrument]
      split
      · exact ⟨_, rfl, rfl⟩
      · exact ⟨_, rfl, rfl⟩
  | ret s e => exact ⟨.ret s e, by simp [Stmt.instrument], rfl⟩
  | _ => exact ⟨_, rfl, rfl⟩

/-- The call goes to the end of the loop body, before a `Break` or `Continue` that ends it. -/
lemma addLoopBody_instrument (call : Stmt) (b : List Stmt) :
    ∃ front back, b = front ++ back ∧ (∀ s ∈ back, s.isJumpOut = true) ∧
      ∀ redirect n, addLoopBody call (instrumentBlock pre redirect n b) =
        instrumentBlock pre redirect n front ++ call :: back := by
  rcases List.eq_nil_or_concat b with rfl | ⟨front, last, rfl⟩
  · exact ⟨[], [], rfl, by simp, fun _ _ => rfl⟩
  · rw [List.concat_eq_append]
    cases hlast : last.isJumpOut with
    | true =>
        refine ⟨front, [last], rfl, by simpa using hlast, fun redirect n => ?_⟩
        rw [instrumentBlock_append, instrumentBlock, instrument_jumpOut pre redirect hlast,
          instrumentBlock, List.append_nil, addLoopBody, List.getLast?_concat]
        simp [hlast]
    | false =>
        refine ⟨front ++ [last], [], by simp, by simp, fun redirect n => ?_⟩
        obtain ⟨last', hlast', hjump⟩ :=
          instrument_getLast? pre redirect hlast (n + (loopsOf front).length)
        have hget : (instrumentBlock pre redirect n (front ++ [last])).getLast? = some last' := by
          rw [instrumentBlock_append, instrumentBlock, instrumentBlock, List.append_nil,
            List.getLast?_append, hlast', Option.some_or]
        rw [addLoopBody, hget]
        simp [hjump]

end

lemma gotosOf_jumpOut {ss : List Stmt} (h : ∀ s ∈ ss, s.isJumpOut = true) : gotosOf ss = [] := by
  induction ss with
  | nil => rfl
  | cons s ss ih =>
      have hs := h s (by simp)
      rw [gotosOf, ih fun s' hs' => h s' (by simp [hs'])]
      cases s <;> simp_all [Stmt.isJumpOut, Stmt.gotos]

lemma loopsOf_jumpOut {ss : List Stmt} (h : ∀ s ∈ ss, s.isJumpOut = true) : loopsOf ss = [] := by
  induction ss with
  | nil => rfl
  | cons s ss ih =>
      have hs := h s (by simp)
      rw [loopsOf, ih fun s' hs' => h s' (by simp [hs'])]
      cases s <;> simp_all [Stmt.isJumpOut, Stmt.loops]

/-! ## The effects on the state -/

/-- What the first phase meets that changes the state. -/
inductive Effect where
  | loop (l : Sid)
  | ret (s : Sid) (e : Option RetExp)

mutual

/-- What a statement does to the state of the pass, in order. -/
def Stmt.effects : Stmt → List Effect
  | .loop l b => effectsOf b ++ [.loop l]
  | .ret s e => [.ret s e]
  | .goto _ _ | .instr _ _ | .brk _ | .cont _ => []
  | .cond _ b1 b2 => effectsOf b1 ++ effectsOf b2
  | .switch _ b | .block _ b => effectsOf b

/-- What a block does to the state of the pass. -/
def effectsOf : List Stmt → List Effect
  | [] => []
  | s :: ss => s.effects ++ effectsOf ss

end

/-- The labels of a loop move to the call before it. -/
def PassState.apply (pre : Sid → Option RetExp → List Stmt) (p : PassState) :
    Effect → PassState
  | .loop l =>
      let p := { p with currentId := p.currentId + 1 }
      if (p.labels l).length > 0 then
        { p with loopLabelTbl := (l, .loopBefore l) :: p.loopLabelTbl,
                 labels := moveLabel p.labels (.loopBefore l) l }
      else p
  | .ret s e => { p with preReturnStmts := (pre s e).map Stmt.id, returnStmtOpt := some s }

section

variable (pre : Sid → Option RetExp → List Stmt) (p : PassState)

@[simp] lemma apply_loopDepth (e : Effect) : (p.apply pre e).loopDepth = p.loopDepth := by
  cases e with
  | loop l =>
      rw [PassState.apply]
      split_ifs <;> rfl
  | ret s e => rfl

@[simp] lemma applyAll_loopDepth (es : List Effect) :
    (es.foldl (PassState.apply pre) p).loopDepth = p.loopDepth := by
  induction es generalizing p with
  | nil => rfl
  | cons e es ih => rw [List.foldl_cons, ih, apply_loopDepth]

@[simp] lemma apply_loop_currentId (l : Sid) :
    (p.apply pre (.loop l)).currentId = p.currentId + 1 := by
  rw [PassState.apply]
  split_ifs <;> rfl

end

section

variable (pre : Sid → Option RetExp → List Stmt)

lemma effectsOf_currentId {ss : List Stmt}
    (h : ∀ s ∈ ss, ∀ p : PassState,
      (s.effects.foldl (PassState.apply pre) p).currentId = p.currentId + s.loops.length)
    (p : PassState) :
    ((effectsOf ss).foldl (PassState.apply pre) p).currentId =
      p.currentId + (loopsOf ss).length := by
  induction ss generalizing p with
  | nil => simp [effectsOf, loopsOf]
  | cons s ss ih =>
      rw [effectsOf, List.foldl_append, ih (fun s' hs' => h s' (by simp [hs'])), h s (by simp),
        loopsOf, List.length_append, Int.natCast_add, Int.add_assoc]

/-- Every loop gets one number. -/
@[simp] lemma effects_currentId (s : Stmt) (p : PassState) :
    (s.effects.foldl (PassState.apply pre) p).currentId = p.currentId + s.loops.length := by
  induction s generalizing p with
  | loop l b ih =>
      rw [Stmt.effects, List.foldl_append, List.foldl_cons, List.foldl_nil, apply_loop_currentId,
        effectsOf_currentId pre ih, Stmt.loops, List.length_append, Int.natCast_add, Int.add_assoc]
      rfl
  | cond id b1 b2 ih1 ih2 =>
      rw [Stmt.effects, List.foldl_append, effectsOf_currentId pre ih2, effectsOf_currentId pre ih1,
        Stmt.loops, List.length_append, Int.natCast_add, Int.add_assoc]
  | switch id b ih => exact effectsOf_currentId pre ih p
  | block id b ih => exact effectsOf_currentId pre ih p
  | instr id i => simp [Stmt.effects, Stmt.loops]
  | ret id e => simp [Stmt.effects, Stmt.loops, PassState.apply]
  | goto id t => simp [Stmt.effects, Stmt.loops]
  | brk id => simp [Stmt.effects, Stmt.loops]
  | cont id => simp [Stmt.effects, Stmt.loops]

end

/-! ## The first phase -/

section

variable (a : PassArgs) (f : Fundec) (hits : Sid → Bool)

/-- The pass goes through a block in parts. -/
lemma processBlock_append (phase : Phase) (p : PassState) (ss ss' : List Stmt) :
    processBlock a f hits phase p (ss ++ ss') =
      (processBlock a f hits phase p ss >>= fun r =>
        processBlock a f hits phase r.2 ss' >>= fun r' => .ok (r.1 ++ r'.1, r'.2)) := by
  induction ss generalizing p with
  | nil =>
      rw [List.nil_append, processBlock, ok_bind]
      cases processBlock a f hits phase p ss' with
      | error e => rfl
      | ok r => rfl
  | cons s ss ih =>
      rw [List.cons_append, processBlock, processBlock]
      cases processStmt a f hits phase p s with
      | error e => rfl
      | ok r =>
          simp only [ok_bind, ih]
          cases processBlock a f hits phase r.2 ss with
          | error e => rfl
          | ok r' =>
              simp only [ok_bind]
              cases processBlock a f hits phase r'.2 ss' with
              | error e => rfl
              | ok r'' => simp only [ok_bind, List.append_assoc]

/-- No `Goto` is redirected. -/
def noRedirect : Sid → Sid → Option Sid := fun _ _ => none

variable {a f}

/-- The `postfn` call in front of a `Return` of a function with a pair. -/
lemma genPostfn_eq {e : Option RetExp} (hret : retvalLval f = .ok e) (s : Sid)
    (exp : Option RetExp) : genPostfn a f s exp = .ok (if f.vname ∈ a.prepostfnFuncs then
      [.instr (.postfn s) (.call (.postfn exp.isSome))] else []) := by
  rw [genPostfn, hret, ok_bind]
  split_ifs <;> rfl

/-- A block is instrumented in phase 1 if each of its statements is. -/
lemma processBlock_one_of {ss : List Stmt}
    (h : ∀ s ∈ ss, ∀ p, processStmt a f hits .one p s =
      .ok (s.instrument (preReturn a f) noRedirect p.currentId,
        s.effects.foldl (PassState.apply (preReturn a f)) p)) (p : PassState) :
    processBlock a f hits .one p ss =
      .ok (instrumentBlock (preReturn a f) noRedirect p.currentId ss,
        (effectsOf ss).foldl (PassState.apply (preReturn a f)) p) := by
  induction ss generalizing p with
  | nil => rfl
  | cons s ss ih =>
      rw [processBlock, h s (by simp), ok_bind]
      dsimp only
      rw [ih (fun s' hs' => h s' (by simp [hs'])), ok_bind, effectsOf, List.foldl_append,
        instrumentBlock, effects_currentId]

/-- The depth is counted up and down again. -/
lemma processLoop_state (pre : Sid → Option RetExp → List Stmt) (p : PassState) (l : Sid)
    (body : List Stmt) {q : PassState}
    (hq : q = (processLoop
      { p with loopDepth := p.loopDepth + 1, currentId := p.currentId + 1 } l body).2) :
    { q with loopDepth := q.loopDepth - 1 } = p.apply pre (.loop l) := by
  subst hq
  rw [processLoop, PassState.apply]
  dsimp only
  split_ifs
  · simp only [Int.add_sub_cancel]
  · simp only [Int.add_sub_cancel]

/-- What the first phase does to a statement. -/
lemma processStmt_one {e : Option RetExp} (hret : retvalLval f = .ok e) (s : Stmt)
    (p : PassState) : processStmt a f hits .one p s =
      .ok (s.instrument (preReturn a f) noRedirect p.currentId,
        s.effects.foldl (PassState.apply (preReturn a f)) p) := by
  induction s generalizing p with
  | instr id i => rfl
  | brk id => rfl
  | cont id => rfl
  | goto g target =>
      rw [processStmt]
      split <;> rfl
  | ret s e =>
      simp only [processStmt, genPostfn_eq hret, ok_bind]
      rfl
  | loop l b ih =>
      rw [processStmt, processBlock_one_of hits ih, ok_bind, Stmt.effects, List.foldl_append,
        List.foldl_cons, List.foldl_nil, ← processLoop_state _ _ l
          (instrumentBlock (preReturn a f) noRedirect p.currentId b) rfl, Stmt.instrument]
      simp only [processLoop, effectsOf_currentId _ (fun s _ => effects_currentId _ s)]
  | cond id b1 b2 ih1 ih2 =>
      rw [processStmt, processBlock_one_of hits ih1, ok_bind]
      dsimp only
      rw [processBlock_one_of hits ih2, ok_bind,
        effectsOf_currentId _ (fun s _ => effects_currentId _ s), Stmt.effects, List.foldl_append,
        Stmt.instrument]
  | switch id b ih =>
      rw [processStmt, processBlock_one_of hits ih, ok_bind]
      rfl
  | block id b ih =>
      rw [processStmt, processBlock_one_of hits ih, ok_bind]
      rfl

/-- The first phase is `instrument` without redirections. -/
theorem processBlock_one {e : Option RetExp} (hret : retvalLval f = .ok e) (p : PassState)
    (ss : List Stmt) : processBlock a f hits .one p ss =
      .ok (instrumentBlock (preReturn a f) noRedirect p.currentId ss,
        (effectsOf ss).foldl (PassState.apply (preReturn a f)) p) :=
  processBlock_one_of hits (fun s _ p => processStmt_one hits hret s p) p

end

/-! ## The second phase -/

/-- Where the second phase redirects the `Goto` `g`, if it does. -/
def redirectOf (hits : Sid → Bool) (p : PassState) : Sid → Sid → Option Sid := fun g target =>
  match p.returnStmtOpt, p.preReturnStmts with
  | some returnStmt, pre :: _ =>
      if target = returnStmt then some pre else hashtblFind (hits g) p.loopLabelTbl target
  | _, _ => none

/-- A `Goto` that is redirected takes the labels of its target along. -/
def moveGoto (redirect : Sid → Sid → Option Sid) (labels : Sid → List Label) (p : Sid × Sid) :
    Sid → List Label :=
  match redirect p.1 p.2 with
  | some first => moveLabel labels first p.2
  | none => labels

/-- The state after the second phase has gone over `gotos` and `loops` loops. -/
def PassState.redirected (redirect : Sid → Sid → Option Sid) (p : PassState)
    (gotos : List (Sid × Sid)) (loops : ℕ) : PassState :=
  { p with labels := gotos.foldl (moveGoto redirect) p.labels, loopDepth := p.loopDepth - loops }

/-- The `Goto`s of two parts are redirected one part after the other. -/
lemma redirected_redirected (redirect : Sid → Sid → Option Sid) (p : PassState)
    (gs gs' : List (Sid × Sid)) (k k' : ℕ) :
    (p.redirected redirect gs k).redirected redirect gs' k' =
      p.redirected redirect (gs ++ gs') (k + k') := by
  simp only [PassState.redirected, List.foldl_append, Int.natCast_add, Int.sub_sub]

lemma redirected_nil (redirect : Sid → Sid → Option Sid) (p : PassState) :
    p.redirected redirect [] 0 = p := by
  simp [PassState.redirected]

/-- What the second phase relies on, and keeps. -/
structure PassState.Settled (hits : Sid → Bool) (redirect : Sid → Sid → Option Sid)
    (p : PassState) : Prop where
  redirect : redirectOf hits p = redirect
  depth : p.loopDepth ≤ 0
  pre : p.preReturnStmts.length ≤ 2

section

variable {a : PassArgs} {f : Fundec} {hits : Sid → Bool} {redirect : Sid → Sid → Option Sid}
  {p : PassState}

lemma PassState.Settled.redirected (hp : p.Settled hits redirect) (gs : List (Sid × Sid)) (k : ℕ) :
    (p.redirected redirect gs k).Settled hits redirect where
  redirect := hp.redirect
  depth := by
    have hdepth := hp.depth
    simp only [PassState.redirected]
    omega
  pre := hp.pre

lemma preReturn_instr (s : Sid) (e : Option RetExp) :
    ∀ x ∈ preReturn a f s e, ∃ id c, x = .instr id (.call c) := by
  intro x hx
  rw [preReturn, genDrivermacroCall, List.mem_append] at hx
  rcases hx with hx | hx
  · split_ifs at hx
    · exact ⟨_, _, List.mem_singleton.mp hx⟩
    · simp at hx
  · split_ifs at hx
    · exact ⟨_, _, List.mem_singleton.mp hx⟩
    · simp at hx

/-- Statements that stay as they are. -/
lemma processBlock_fixed {ss : List Stmt}
    (h : ∀ x ∈ ss, ∀ p, processStmt a f hits .two p x = .ok ([x], p)) :
    processBlock a f hits .two p ss = .ok (ss, p) := by
  induction ss with
  | nil => rfl
  | cons s ss ih =>
      rw [processBlock, h s (by simp), ok_bind]
      dsimp only
      rw [ih fun x hx => h x (by simp [hx])]
      rfl

/-- The second phase leaves the calls of the first alone. -/
lemma processBlock_preReturn (s : Sid) (e : Option RetExp) :
    processBlock a f hits .two p (preReturn a f s e) = .ok (preReturn a f s e, p) := by
  refine processBlock_fixed fun x hx p => ?_
  obtain ⟨id, c, rfl⟩ := preReturn_instr s e x hx
  rw [processStmt]

lemma processBlock_jumpOut {ss : List Stmt} (h : ∀ s ∈ ss, s.isJumpOut = true) (id : Sid)
    (c : Call) : processBlock a f hits .two p (.instr id (.call c) :: ss) =
      .ok (.instr id (.call c) :: ss, p) := by
  refine processBlock_fixed fun x hx p => ?_
  rcases List.mem_cons.mp hx with rfl | hx
  · rw [processStmt]
  · have hjump := h x hx
    cases x with
    | brk id => rw [processStmt]
    | cont id => rw [processStmt]
    | _ => simp [Stmt.isJumpOut] at hjump

lemma processBlock_singleton (phase : Phase) (s : Stmt) :
    processBlock a f hits phase p [s] =
      (processStmt a f hits phase p s >>= fun r => .ok (r.1, r.2)) := by
  rw [processBlock]
  cases processStmt a f hits phase p s with
  | error e => rfl
  | ok r => simp only [ok_bind, processBlock, List.append_nil]

/-- With a depth that is not positive no call of `s2e_loop_after` is made for a `Goto`. -/
lemma processGoto_eq (hp : p.Settled hits redirect) (g src : Sid) {first : Sid} {rest : List Sid}
    (hrest : (first :: rest).length ≤ 2) :
    processGoto p g src (first :: rest) =
      .ok ([.goto (.newGoto g) first], { p with labels := moveLabel p.labels first src }) := by
  have hdepth : ¬ p.loopDepth > 0 := Int.not_lt.mpr hp.depth
  rcases rest with _ | ⟨x, _ | ⟨y, rest⟩⟩
  · rw [processGoto, if_neg hdepth]
    rfl
  · rw [processGoto, if_neg hdepth]
    rfl
  · simp at hrest

/-- A `Goto` is redirected in phase 2 if its target is one of the recorded statements. -/
lemma processStmt_goto (hp : p.Settled hits redirect) (pre : Sid → Option RetExp → List Stmt)
    (n : ℤ) (g target : Sid) : processStmt a f hits .two p (.goto g target) =
      .ok ((Stmt.goto g target).instrument pre redirect n,
        p.redirected redirect [(g, target)] 0) := by
  have hredirect := congrFun (congrFun hp.redirect g) target
  rw [redirectOf] at hredirect
  -- A `Goto` that stays leaves the state alone.
  have hstays : redirect g target = none →
      (.ok ([.goto g target], p) : Except Fatal (List Stmt × PassState)) =
        .ok ((Stmt.goto g target).instrument pre redirect n,
          p.redirected redirect [(g, target)] 0) := by
    intro hnone
    simp [Stmt.instrument, PassState.redirected, moveGoto, hnone]
  have hmoves : ∀ first rest, (first :: rest).length ≤ 2 → redirect g target = some first →
      processGoto p g target (first :: rest) =
        .ok ((Stmt.goto g target).instrument pre redirect n,
          p.redirected redirect [(g, target)] 0) := by
    intro first rest hrest hsome
    rw [processGoto_eq hp g target hrest]
    simp [Stmt.instrument, PassState.redirected, moveGoto, hsome]
  have hlength := hp.pre
  rw [processStmt]
  cases hret : p.returnStmtOpt with
  | none =>
      rw [hret] at hredirect
      exact hstays hredirect.symm
  | some returnStmt =>
      cases hpre : p.preReturnStmts with
      | nil =>
          rw [hret, hpre] at hredirect
          exact hstays hredirect.symm
      | cons first rest =>
          rw [hret, hpre] at hredirect
          rw [hpre] at hlength
          dsimp only at hredirect ⊢
          by_cases htarget : target = returnStmt
          · rw [if_pos htarget] at hredirect ⊢
            rw [← htarget]
            exact hmoves first rest hlength hredirect.symm
          · rw [if_neg htarget] at hredirect ⊢
            cases hfind : hashtblFind (hits g) p.loopLabelTbl target with
            | none =>
                rw [hfind] at hredirect
                exact hstays hredirect.symm
            | some loopBefore =>
                rw [hfind] at hredirect
                exact hmoves loopBefore [] (by simp) hredirect.symm

end

section

variable {a : PassArgs} {f : Fundec} {hits : Sid → Bool} {redirect : Sid → Sid → Option Sid}

/-- A block is redirected in phase 2 if each of its statements is. -/
lemma processBlock_two_of {ss : List Stmt}
    (h : ∀ s ∈ ss, ∀ (p : PassState) (n : ℤ), p.Settled hits redirect →
      processBlock a f hits .two p (s.instrument (preReturn a f) noRedirect n) =
        .ok (s.instrument (preReturn a f) redirect n,
          p.redirected redirect s.gotos s.loops.length))
    {p : PassState} (hp : p.Settled hits redirect) (n : ℤ) :
    processBlock a f hits .two p (instrumentBlock (preReturn a f) noRedirect n ss) =
      .ok (instrumentBlock (preReturn a f) redirect n ss,
        p.redirected redirect (gotosOf ss) (loopsOf ss).length) := by
  induction ss generalizing p n with
  | nil => simp [instrumentBlock, processBlock, gotosOf, loopsOf, redirected_nil]
  | cons s ss ih =>
      rw [instrumentBlock, processBlock_append, h s (by simp) p n hp, ok_bind,
        ih (fun s' hs' => h s' (by simp [hs'])) (hp.redirected _ _), ok_bind]
      simp only [redirected_redirected, instrumentBlock, gotosOf, loopsOf, List.length_append]

/-- What the second phase does to an instrumented statement. -/
lemma processBlock_two_instrument (s : Stmt) (p : PassState) (n : ℤ)
    (hp : p.Settled hits redirect) :
    processBlock a f hits .two p (s.instrument (preReturn a f) noRedirect n) =
      .ok (s.instrument (preReturn a f) redirect n,
        p.redirected redirect s.gotos s.loops.length) := by
  induction s generalizing p n with
  | instr id i =>
      rw [Stmt.instrument, processBlock_singleton, processStmt, ok_bind]
      simp [Stmt.instrument, Stmt.gotos, Stmt.loops, redirected_nil]
  | brk id =>
      rw [Stmt.instrument, processBlock_singleton, processStmt, ok_bind]
      simp [Stmt.instrument, Stmt.gotos, Stmt.loops, redirected_nil]
  | cont id =>
      rw [Stmt.instrument, processBlock_singleton, processStmt, ok_bind]
      simp [Stmt.instrument, Stmt.gotos, Stmt.loops, redirected_nil]
  | goto g target =>
      have hnone : (Stmt.goto g target).instrument (preReturn a f) noRedirect n =
          [.goto g target] := rfl
      rw [hnone, processBlock_singleton, processStmt_goto hp (preReturn a f) n, ok_bind]
      rfl
  | ret s e =>
      rw [Stmt.instrument, processBlock_append, processBlock_preReturn, ok_bind]
      dsimp only
      rw [processBlock_singleton, processStmt]
      simp [Stmt.instrument, Stmt.gotos, Stmt.loops, redirected_nil]
  | loop l b ih =>
      obtain ⟨front, back, rfl, hjump, hbody⟩ := addLoopBody_instrument (preReturn a f)
        (.instr (.loopBody l) (.call (.s2eLoopBody (n + (loopsOf b).length + 1)))) b
      have hfront := processBlock_two_of (fun s hs => ih s (List.mem_append_left _ hs)) hp n
      have hb : processBlock a f hits .two p (addLoopBody
          (.instr (.loopBody l) (.call (.s2eLoopBody (n + (loopsOf (front ++ back)).length + 1))))
          (instrumentBlock (preReturn a f) noRedirect n (front ++ back))) =
          .ok (addLoopBody
            (.instr (.loopBody l)
              (.call (.s2eLoopBody (n + (loopsOf (front ++ back)).length + 1))))
            (instrumentBlock (preReturn a f) redirect n (front ++ back)),
            p.redirected redirect (gotosOf (front ++ back)) (loopsOf (front ++ back)).length) := by
        rw [hbody, hbody, processBlock_append, hfront, ok_bind, processBlock_jumpOut hjump, ok_bind,
          gotosOf_append, loopsOf_append, gotosOf_jumpOut hjump, loopsOf_jumpOut hjump,
          List.append_nil, List.append_nil]
      rw [Stmt.instrument, processBlock, processStmt, ok_bind]
      dsimp only
      rw [processBlock, processStmt, hb, ok_bind, ok_bind]
      dsimp only
      rw [processBlock_singleton, processStmt, ok_bind, ok_bind, ok_bind, Stmt.gotos, Stmt.loops,
        List.length_append, Stmt.instrument]
      simp only [PassState.redirected, List.length_singleton, Int.natCast_add, Int.sub_sub,
        List.cons_append, List.nil_append]
      rfl
  | cond id b1 b2 ih1 ih2 =>
      rw [Stmt.instrument, processBlock_singleton, processStmt, processBlock_two_of ih1 hp, ok_bind]
      dsimp only
      rw [processBlock_two_of ih2 (hp.redirected _ _), ok_bind, ok_bind]
      simp only [redirected_redirected, Stmt.instrument, Stmt.gotos, Stmt.loops, List.length_append]
  | switch id b ih =>
      rw [Stmt.instrument, processBlock_singleton, processStmt, processBlock_two_of ih hp, ok_bind]
      rfl
  | block id b ih =>
      rw [Stmt.instrument, processBlock_singleton, processStmt, processBlock_two_of ih hp, ok_bind]
      rfl

/-- The second phase adds the redirections. -/
theorem processBlock_two {p : PassState} (hp : p.Settled hits redirect) (n : ℤ)
    (ss : List Stmt) :
    processBlock a f hits .two p (instrumentBlock (preReturn a f) noRedirect n ss) =
      .ok (instrumentBlock (preReturn a f) redirect n ss,
        p.redirected redirect (gotosOf ss) (loopsOf ss).length) :=
  processBlock_two_of (fun s _ p n hp => processBlock_two_instrument s p n hp) hp n

end

/-! ## A whole function -/

/-- The statements in front of the body. -/
def prefnStmts (a : PassArgs) (f : Fundec) (retvalLvalOpt : Option RetExp) : List Stmt :=
  if f.vname ∈ a.prepostfnFuncs then
    [.instr .prefn (.call .prefn),
      .cond .bypassIf [.instr .bypassPostfn (.call (.postfn false)),
        .ret .bypassReturn retvalLvalOpt] []]
  else []

/-- The state between the two phases. -/
def afterPhaseOne (a : PassArgs) (f : Fundec) (p : PassState) : PassState :=
  (effectsOf f.sbody.stmts).foldl (PassState.apply (preReturn a f))
    { p with returnStmtOpt := none, preReturnStmts := [], loopLabelTbl := [],
             labels := f.sbody.labels }

/-- The body that the pass makes, in the state `p`, of a function that returns `e`. -/
def rewritten (a : PassArgs) (f : Fundec) (hits : Sid → Bool) (p : PassState)
    (e : Option RetExp) : Body :=
  let redirect := redirectOf hits (afterPhaseOne a f p)
  { stmts := prefnStmts a f e ++
      instrumentBlock (preReturn a f) redirect p.currentId f.sbody.stmts
    labels := (gotosOf f.sbody.stmts).foldl (moveGoto redirect) (afterPhaseOne a f p).labels }

section

variable {a : PassArgs} {f : Fundec} {hits : Sid → Bool}

lemma preReturn_length (s : Sid) (e : Option RetExp) : (preReturn a f s e).length ≤ 2 := by
  rw [preReturn, genDrivermacroCall]
  split_ifs <;> simp

lemma applyAll_pre (es : List Effect) {p : PassState} (hp : p.preReturnStmts.length ≤ 2) :
    (es.foldl (PassState.apply (preReturn a f)) p).preReturnStmts.length ≤ 2 := by
  induction es generalizing p with
  | nil => exact hp
  | cons e es ih =>
      rw [List.foldl_cons]
      refine ih ?_
      cases e with
      | loop l =>
          rw [PassState.apply]
          split_ifs
          · exact hp
          · exact hp
      | ret s e =>
          rw [PassState.apply, List.length_map]
          exact preReturn_length s e

/-- After phase 1 the recorded statements do not change any more. -/
lemma afterPhaseOne_settled {p : PassState} (hdepth : p.loopDepth ≤ 0) :
    (afterPhaseOne a f p).Settled hits (redirectOf hits (afterPhaseOne a f p)) where
  redirect := rfl
  depth := by
    rw [afterPhaseOne, applyAll_loopDepth]
    exact hdepth
  pre := applyAll_pre _ (Nat.zero_le 2)

/-- **The pass on one function**, in a state whose depth is not positive. -/
theorem vglob_eq_ok {p : PassState} (hdepth : p.loopDepth ≤ 0) {r : Body × PassState} :
    vglob a hits p f = .ok r ↔ ∃ e, retvalLval f = .ok e ∧ r = (rewritten a f hits p e,
      (afterPhaseOne a f p).redirected (redirectOf hits (afterPhaseOne a f p))
        (gotosOf f.sbody.stmts) (loopsOf f.sbody.stmts).length) := by
  cases hret : retvalLval f with
  | error e =>
      -- The function is refused by `gen_prefn`, if not before.
      simp only [reduceCtorEq, false_and, exists_false, iff_false]
      intro h
      rw [vglob] at h
      obtain ⟨r₁, _, h⟩ := bind_eq_ok.mp h
      obtain ⟨r₂, _, h⟩ := bind_eq_ok.mp h
      obtain ⟨r₃, hprefn, _⟩ := bind_eq_ok.mp h
      rw [genPrefn, hret] at hprefn
      cases hprefn
  | ok e =>
      have hsettled := @afterPhaseOne_settled a f hits p hdepth
      have htwo := processBlock_two (a := a) (f := f) hsettled p.currentId f.sbody.stmts
      have hprefn : genPrefn a f = .ok (prefnStmts a f e) := by
        rw [genPrefn, hret, ok_bind, prefnStmts]
        split_ifs <;> rfl
      have hvglob : vglob a hits p f = .ok (rewritten a f hits p e,
          (afterPhaseOne a f p).redirected (redirectOf hits (afterPhaseOne a f p))
            (gotosOf f.sbody.stmts) (loopsOf f.sbody.stmts).length) := by
        rw [vglob]
        simp only [processBlock_one hits hret, ok_bind]
        show (processBlock a f hits .two (afterPhaseOne a f p) _ >>= _) = _
        rw [htwo, ok_bind]
        dsimp only
        rw [hprefn, ok_bind]
        rfl
      rw [hvglob]
      constructor
      · intro h
        cases h
        exact ⟨e, rfl, rfl⟩
      · rintro ⟨e', he, rfl⟩
        cases he
        rfl

/-- What the pass makes of the functions, in the order of the file. -/
theorem processFrom_forall {P : Fundec → Body → Prop}
    (h : ∀ f p e, p.loopDepth ≤ 0 → retvalLval f = .ok e → P f (rewritten a f hits p e))
    {file : List Fundec} {bs : List Body} {p : PassState} (hdepth : p.loopDepth ≤ 0)
    (hfile : processFrom a hits p file = .ok bs) : List.Forall₂ P file bs := by
  induction file generalizing p bs with
  | nil =>
      cases hfile
      exact List.Forall₂.nil
  | cons f fs ih =>
      rw [processFrom] at hfile
      obtain ⟨⟨b, p'⟩, hvglob, hfile⟩ := bind_eq_ok.mp hfile
      obtain ⟨bs', hfs, hfile⟩ := bind_eq_ok.mp hfile
      cases hfile
      obtain ⟨e, hret, hr⟩ := (vglob_eq_ok hdepth).mp hvglob
      cases hr
      have hsettled := @afterPhaseOne_settled a f hits p hdepth
      exact List.Forall₂.cons (h f p e hdepth hret) (ih (hsettled.redirected _ _).depth hfs)

/-- **The bodies that the pass makes**: what holds of every rewritten body holds of the file. -/
theorem process_forall {P : Fundec → Body → Prop}
    (h : ∀ f p e, p.loopDepth ≤ 0 → retvalLval f = .ok e → P f (rewritten a f hits p e))
    {file : List Fundec} {bs : List Body} (hfile : process a hits file = .ok bs) :
    List.Forall₂ P file bs :=
  processFrom_forall h (Int.le_refl 0) hfile

/-- A file of one function. -/
lemma process_singleton {e : Option RetExp} (hret : retvalLval f = .ok e) :
    process a hits [f] = .ok [rewritten a f hits PassState.initial e] := by
  have hvglob : vglob a hits PassState.initial f = .ok (_, _) :=
    (vglob_eq_ok (Int.le_refl 0)).mpr ⟨e, hret, rfl⟩
  rw [process, processFrom, hvglob]
  rfl

end

/-! ## Arguments for examples -/

/-- The function `tx` has a `prefn` and a `postfn`. -/
def txPair : PassArgs where
  prepostfnFuncs := ["tx"]
  nonstandardRetvalFns := []
  drivermacroFns := []

end SymDrive.Cil
