import Mathlib.Data.List.Perm.Subperm
import SymDrive.Cil.Records

/-!
# Labels and redirections

What the pass knows after its first phase, for a body in one-return form: where the labels of the
loops went, and where the second phase redirects a `Goto`.

* `afterPhaseOne_labels` — the labels of a loop stand at the call before it.
* `redirectOf_eq` — a `Goto` to the return goes to the first call in front of it, a `Goto` to a loop
  to the call before the loop if the lookup hits; in a function without such calls none is
  redirected.
-/

namespace SymDrive.Cil

/-! ## The first phase -/

/-- The loops that effects are about. -/
def effectLoops (es : List Effect) : List Sid :=
  es.filterMap fun
    | .loop l => some l
    | .ret _ _ => none

lemma effectsOf_append (ss ss' : List Stmt) :
    effectsOf (ss ++ ss') = effectsOf ss ++ effectsOf ss' := by
  induction ss with
  | nil => rfl
  | cons s ss ih => simp only [List.cons_append, effectsOf, ih, List.append_assoc]

lemma effectLoops_effectsOf (ss : List Stmt) : effectLoops (effectsOf ss) = loopsOf ss := by
  induction ss using blockInduct with
  | nil => rfl
  | cons s ss hs hss =>
      simp only [effectsOf, loopsOf, List.append_nil, effectLoops, List.filterMap_append]
        at hs hss ⊢
      rw [hs, hss]
  | cond id b1 b2 ih1 ih2 =>
      simp only [effectsOf, Stmt.effects, loopsOf, Stmt.loops, List.append_nil, effectLoops,
        List.filterMap_append] at ih1 ih2 ⊢
      rw [ih1, ih2]
  | loop l b ih =>
      simp only [effectsOf, Stmt.effects, loopsOf, Stmt.loops, List.append_nil, effectLoops,
        List.filterMap_append] at ih ⊢
      rw [ih]
      rfl
  | switch id b ih => simpa [effectsOf, Stmt.effects, loopsOf, Stmt.loops] using ih
  | block id b ih => simpa [effectsOf, Stmt.effects, loopsOf, Stmt.loops] using ih
  | _ => rfl

/-- The labels of the loops stand at the calls before them. -/
def hoisted (loops : List Sid) (labels : Sid → List Label) (x : Sid) : List Label :=
  if x ∈ loops then [] else
  match x with
  | .loopBefore l => if l ∈ loops then labels l else labels (.loopBefore l)
  | x => labels x

section

variable (pre : Sid → Option RetExp → List Stmt)

/-- One loop. -/
lemma apply_loop_labels {p : PassState} {l : Sid} (hl : p.labels (.loopBefore l) = []) :
    (p.apply pre (.loop l)).labels =
      Function.update (Function.update p.labels (.loopBefore l) (p.labels l)) l [] := by
  rw [PassState.apply]
  dsimp only
  by_cases hlabels : (p.labels l).length > 0
  · rw [if_pos hlabels, moveLabel, hl, List.append_nil]
  · have hnil : p.labels l = [] :=
      List.length_eq_zero_iff.mp (Nat.le_zero.mp (Nat.not_lt.mp hlabels))
    rw [if_neg hlabels, hnil]
    funext x
    by_cases hx : x = l
    · rw [hx, Function.update_self, hnil]
    · rw [Function.update_of_ne hx]
      by_cases hx' : x = .loopBefore l
      · rw [hx', Function.update_self, hl]
      · rw [Function.update_of_ne hx']

lemma applyAll_labels (es : List Effect) {p : PassState} (hnodup : (effectLoops es).Nodup)
    (hsource : ∀ l ∈ effectLoops es, ∃ k, l = .source k)
    (hbefore : ∀ l ∈ effectLoops es, p.labels (.loopBefore l) = []) :
    (es.foldl (PassState.apply pre) p).labels = hoisted (effectLoops es) p.labels := by
  induction es generalizing p with
  | nil =>
      funext x
      cases x <;> simp [hoisted, effectLoops]
  | cons e es ih =>
      rw [List.foldl_cons]
      cases e with
      | ret s e => exact ih hnodup hsource hbefore
      | loop l =>
          have hloops : effectLoops (.loop l :: es) = l :: effectLoops es := rfl
          rw [hloops] at hnodup hsource hbefore ⊢
          obtain ⟨hl, hnodup'⟩ := List.nodup_cons.mp hnodup
          obtain ⟨k, rfl⟩ := hsource l (by simp)
          have hlabels := apply_loop_labels pre (hbefore (.source k) (by simp))
          rw [ih hnodup' (fun l' hl' => hsource l' (by simp [hl'])), hlabels]
          · funext x
            by_cases hx : x ∈ effectLoops es
            · simp [hoisted, hx]
            · by_cases hxl : x = .source k
              · simp [hoisted, hxl]
              · cases x with
                | loopBefore l' =>
                    by_cases hl' : l' = .source k
                    · simp [hoisted, hl', hl]
                    · by_cases hmem : l' ∈ effectLoops es
                      · obtain ⟨k', rfl⟩ := hsource l' (by simp [hmem])
                        simp [hoisted, hx, hmem, hl']
                      · simp [hoisted, hx, hmem, hl']
                | _ => simp_all [hoisted]
          · intro l' hl'
            have hne : l' ≠ .source k := fun h => hl (h ▸ hl')
            rw [hlabels]
            simpa [Function.update_apply, hne] using hbefore l' (by simp [hl'])

/-- The table holds the loops that had labels. -/
lemma applyAll_lookup (es : List Effect) {p : PassState} (hnodup : (effectLoops es).Nodup)
    (hsource : ∀ l ∈ effectLoops es, ∃ k, l = .source k) {t : Sid} :
    (es.foldl (PassState.apply pre) p).loopLabelTbl.lookup t =
      if t ∈ effectLoops es ∧ p.labels t ≠ [] then some (.loopBefore t)
      else p.loopLabelTbl.lookup t := by
  induction es generalizing p with
  | nil => simp [effectLoops]
  | cons e es ih =>
      rw [List.foldl_cons]
      cases e with
      | ret s e => exact ih hnodup hsource
      | loop l =>
          have hloops : effectLoops (.loop l :: es) = l :: effectLoops es := rfl
          rw [hloops] at hnodup hsource ⊢
          obtain ⟨hl, hnodup'⟩ := List.nodup_cons.mp hnodup
          obtain ⟨k, rfl⟩ := hsource l (by simp)
          rw [ih hnodup' (fun l' hl' => hsource l' (by simp [hl']))]
          by_cases ht : t = .source k
          · -- The loop itself is met once.
            subst ht
            rw [PassState.apply]
            dsimp only
            by_cases hlabels : (p.labels (.source k)).length > 0
            · have hne : p.labels (.source k) ≠ [] := List.length_pos_iff.mp hlabels
              simp [hl, hne, hlabels]
            · have hnil : p.labels (.source k) = [] :=
                List.length_eq_zero_iff.mp (Nat.le_zero.mp (Nat.not_lt.mp hlabels))
              simp [hl, hnil]
          · have hlookup : (p.apply pre (.loop (.source k))).loopLabelTbl.lookup t =
                p.loopLabelTbl.lookup t := by
              rw [PassState.apply]
              dsimp only
              split_ifs
              · rw [List.lookup_cons, beq_eq_false_iff_ne.mpr ht]
              · rfl
            by_cases hmem : t ∈ effectLoops es
            · have hlabels : (p.apply pre (.loop (.source k))).labels t = p.labels t := by
                obtain ⟨k', rfl⟩ := hsource t (by simp [hmem])
                rw [PassState.apply]
                split_ifs
                · dsimp only
                  rw [moveLabel, Function.update_of_ne ht, Function.update_of_ne (by simp)]
                · rfl
              simp [hmem, hlookup, hlabels]
            · simp [hmem, ht, hlookup]

end

/-! ## A body in one-return form -/

section

variable {a : PassArgs} {f : Fundec} {hits : Sid → Bool} {p : PassState}

lemma loops_source (hwf : f.sbody.WellFormed) {l : Sid} (hl : l ∈ loopsOf f.sbody.stmts) :
    ∃ k, l = .source k := by
  obtain ⟨b, hb⟩ := mem_loopsOf.mp hl
  exact hwf.source l (id_mem_idsOf hb)

lemma loopsOf_subperm (ss : List Stmt) : (loopsOf ss).Subperm (idsOf ss) := by
  induction ss using blockInduct with
  | nil => exact List.nil_subperm
  | cons s ss hs hss =>
      rw [idsOf_cons]
      simp only [loopsOf, List.append_nil] at hs ⊢
      exact List.Subperm.append hs hss
  | cond id b1 b2 ih1 ih2 =>
      simp only [loopsOf, Stmt.loops, idsOf, Stmt.ids, List.append_nil]
      exact List.Subperm.cons_right _ (List.Subperm.append ih1 ih2)
  | switch id b ih =>
      simp only [loopsOf, Stmt.loops, idsOf, Stmt.ids, List.append_nil]
      exact List.Subperm.cons_right _ ih
  | block id b ih =>
      simp only [loopsOf, Stmt.loops, idsOf, Stmt.ids, List.append_nil]
      exact List.Subperm.cons_right _ ih
  | loop id b ih =>
      simp only [loopsOf, Stmt.loops, idsOf, Stmt.ids, List.append_nil]
      exact List.perm_append_comm.subperm.trans (List.subperm.cons id ih)
  | _ => exact List.nil_subperm

lemma loops_nodup (hwf : f.sbody.WellFormed) : (loopsOf f.sbody.stmts).Nodup := by
  obtain ⟨l, hperm, hsub⟩ := loopsOf_subperm f.sbody.stmts
  exact hperm.nodup_iff.mp (hsub.nodup hwf.nodup)

/-- **Labels after the first phase.** -/
theorem afterPhaseOne_labels (hwf : f.sbody.WellFormed) :
    (afterPhaseOne a f p).labels = hoisted (loopsOf f.sbody.stmts) f.sbody.labels := by
  have hloops := effectLoops_effectsOf f.sbody.stmts
  rw [afterPhaseOne, applyAll_labels, hloops]
  · rw [hloops]
    exact loops_nodup hwf
  · rw [hloops]
    exact fun l hl => loops_source hwf hl
  · intro l _
    refine hwf.labels _ fun hmem => ?_
    obtain ⟨k, hk⟩ := hwf.source _ hmem
    cases hk

lemma afterPhaseOne_lookup (hwf : f.sbody.WellFormed) (t : Sid) :
    (afterPhaseOne a f p).loopLabelTbl.lookup t =
      if t ∈ loopsOf f.sbody.stmts ∧ f.sbody.labels t ≠ [] then some (.loopBefore t) else none := by
  have hloops := effectLoops_effectsOf f.sbody.stmts
  rw [afterPhaseOne, applyAll_lookup, hloops]
  · rfl
  · rw [hloops]
    exact loops_nodup hwf
  · rw [hloops]
    exact fun l hl => loops_source hwf hl

/-- The return that ends the body is met last. -/
lemma afterPhaseOne_return {init : List Stmt} {r : Sid} {e : Option RetExp}
    (hstmts : f.sbody.stmts = init ++ [.ret r e]) :
    (afterPhaseOne a f p).returnStmtOpt = some r ∧
      (afterPhaseOne a f p).preReturnStmts = idsOf (preReturn a f r e) := by
  have heffects : effectsOf f.sbody.stmts = effectsOf init ++ [.ret r e] := by
    rw [hstmts, effectsOf_append]
    rfl
  rw [afterPhaseOne, heffects, List.foldl_append, List.foldl_cons, List.foldl_nil,
    PassState.apply, preReturn, genDrivermacroCall]
  refine ⟨rfl, ?_⟩
  split_ifs <;> rfl

/-- **Where a `Goto` is redirected.** -/
theorem redirectOf_eq (hwf : f.sbody.WellFormed) {init : List Stmt} {r : Sid} {e : Option RetExp}
    (hstmts : f.sbody.stmts = init ++ [.ret r e]) (g t : Sid) :
    redirectOf hits (afterPhaseOne a f p) g t =
      match idsOf (preReturn a f r e) with
      | [] => none
      | pre :: _ =>
          if t = r then some pre
          else if hits g = true ∧ t ∈ loopsOf f.sbody.stmts ∧ f.sbody.labels t ≠ [] then
            some (.loopBefore t)
          else none := by
  obtain ⟨hret, hpre⟩ := afterPhaseOne_return (a := a) (p := p) hstmts
  rw [redirectOf, hret, hpre]
  cases idsOf (preReturn a f r e) with
  | nil => rfl
  | cons pre pres =>
      dsimp only
      rw [hashtblFind, afterPhaseOne_lookup hwf]
      by_cases ht : t = r
      · rw [if_pos ht, if_pos ht]
      · rw [if_neg ht, if_neg ht]
        cases hits g with
        | true => simp
        | false => simp

end

end SymDrive.Cil
