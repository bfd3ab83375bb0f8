import SymDrive.Cil.Redirect

/-!
# The control flow that the pass preserves

`Body.erase` takes the inserted calls and the bypass branch out of a body again.  What stood at an
erased record, labels and incoming `Goto`s, then stands at the statement behind it (`Sid.erased`).

* `eraseBlock_instrumentBlock` — the statements of the source come back, whatever the body is.
* `mem_labels_iff` — of the labels one kind is lost: those of a `Goto` that `process_goto` replaces
  by a new record.
* `preservesControlFlow_iff` — and one kind of `Goto` loses its label: one to a loop, when the label
  moved to the call before the loop and the `Goto` was not redirected there.
-/

namespace SymDrive.Cil

/-! ## Erasing the inserted statements -/

/-- The statement that stands for a record when the calls are erased. -/
def Sid.erased : Sid → Sid
  | .loopBefore s | .postfn s | .drivermacroCall s | .newGoto s => s
  | s => s

mutual

def Stmt.erase : Stmt → List Stmt
  | .instr _ (.call _) => []
  | .instr id (.code fallsThrough) => [.instr id (.code fallsThrough)]
  | .ret id e => [.ret id e]
  | .goto id target => [.goto id.erased target.erased]
  | .brk id => [.brk id]
  | .cont id => [.cont id]
  | .cond id b1 b2 => if id = .bypassIf then [] else [.cond id (eraseBlock b1) (eraseBlock b2)]
  | .switch id b => [.switch id (eraseBlock b)]
  | .loop id b => [.loop id (eraseBlock b)]
  | .block id b => [.block id (eraseBlock b)]

def eraseBlock : List Stmt → List Stmt
  | [] => []
  | s :: ss => s.erase ++ eraseBlock ss

end

/-- A body without the inserted statements. -/
def Body.erase (b : Body) : Body where
  stmts := eraseBlock b.stmts
  labels := fun x => ((idsOf b.stmts).filter fun y => y.erased = x).flatMap b.labels

/-- **Control-flow preservation**: without the inserted statements, `b'` has the statements and the
graph of `b`; its `Goto`s go to labelled statements of it, and no label of `b` is lost. -/
structure PreservesControlFlow (b b' : Body) : Prop where
  statements : b'.erase.stmts = b.stmts
  edges : ∀ x y, b'.erase.Edge x y ↔ b.Edge x y
  targets : ∀ q ∈ gotosOf b'.stmts, q.2 ∈ idsOf b'.stmts ∧
    ∃ name source, Label.label name source ∈ b'.labels q.2
  labels : ∀ x ∈ idsOf b.stmts, ∀ l ∈ b.labels x, l ∈ b'.erase.labels x

@[simp] lemma eraseBlock_append (ss ss' : List Stmt) :
    eraseBlock (ss ++ ss') = eraseBlock ss ++ eraseBlock ss' := by
  induction ss with
  | nil => rfl
  | cons s ss ih => simp only [List.cons_append, eraseBlock, ih, List.append_assoc]

lemma eraseBlock_addLoopBody (id : Sid) (c : Call) (body : List Stmt) :
    eraseBlock (addLoopBody (.instr id (.call c)) body) = eraseBlock body := by
  rcases List.eq_nil_or_concat body with rfl | ⟨front, last, rfl⟩
  · rfl
  · rw [List.concat_eq_append, addLoopBody, List.getLast?_concat]
    dsimp only
    split <;> simp [eraseBlock, Stmt.erase]

lemma eraseBlock_preReturn (a : PassArgs) (f : Fundec) (s : Sid) (e : Option RetExp) :
    eraseBlock (preReturn a f s e) = [] := by
  rw [preReturn, genDrivermacroCall]
  split_ifs <;> rfl

lemma eraseBlock_prefnStmts (a : PassArgs) (f : Fundec) (e : Option RetExp) :
    eraseBlock (prefnStmts a f e) = [] := by
  rw [prefnStmts]
  split_ifs
  · simp [eraseBlock, Stmt.erase]
  · rfl

section

variable {a : PassArgs} {f : Fundec} {redirect : Sid → Sid → Option Sid}

/-- **The source comes back**, if redirected `Goto`s go to records in front of their targets. -/
theorem eraseBlock_instrumentBlock {ss : List Stmt} (hsource : ∀ x ∈ idsOf ss, ∃ k, x = .source k)
    (hcode : ∀ id c, .instr id (.call c) ∉ recordsOf ss)
    (htargets : ∀ g t, (g, t) ∈ gotosOf ss →
      t.erased = t ∧ ∀ first, redirect g t = some first → first.erased = t) (n : ℤ) :
    eraseBlock (instrumentBlock (preReturn a f) redirect n ss) = ss := by
  induction ss using blockInduct generalizing n with
  | nil => rfl
  | cons s ss hs hss =>
      rw [← List.singleton_append, instrumentBlock_append, eraseBlock_append,
        hs (fun x hx => hsource x (by rw [idsOf_cons]; exact List.mem_append_left _ hx))
          (fun id c h => hcode id c (by rw [recordsOf_cons]; exact List.mem_append_left _ h))
          (fun g t h => htargets g t (by
            rw [← List.singleton_append, gotosOf_append]
            exact List.mem_append_left _ h)),
        hss (fun x hx => hsource x (by rw [idsOf_cons]; exact List.mem_append_right _ hx))
          (fun id c h => hcode id c (by rw [recordsOf_cons]; exact List.mem_append_right _ h))
          (fun g t h => htargets g t (by
            rw [← List.singleton_append, gotosOf_append]
            exact List.mem_append_right _ h))]
  | instr id i =>
      cases i with
      | code fallsThrough => rfl
      | call c => exact absurd (by simp [recordsOf, Stmt.records]) (hcode id c)
  | ret id e =>
      simp [instrumentBlock, Stmt.instrument, eraseBlock, Stmt.erase, eraseBlock_preReturn]
  | goto g t =>
      obtain ⟨k, rfl⟩ := hsource g (by simp [idsOf, Stmt.ids])
      obtain ⟨ht, hfirst⟩ := htargets (.source k) t (by simp [gotosOf, Stmt.gotos])
      rw [instrumentBlock, Stmt.instrument, instrumentBlock, List.append_nil]
      cases hredirect : redirect (.source k) t with
      | some first =>
          simp only [eraseBlock, Stmt.erase, List.append_nil]
          rw [hfirst first hredirect]
          rfl
      | none =>
          simp only [eraseBlock, Stmt.erase, List.append_nil]
          rw [ht]
          rfl
  | brk id => rfl
  | cont id => rfl
  | cond id b1 b2 ih1 ih2 =>
      simp only [idsOf, Stmt.ids, List.append_nil, List.mem_cons, List.mem_append, recordsOf,
        Stmt.records, gotosOf, Stmt.gotos, not_or] at hsource hcode htargets
      have hid : id ≠ .bypassIf := by
        obtain ⟨k, rfl⟩ := hsource id (by simp)
        simp
      simp only [instrumentBlock, Stmt.instrument, List.append_nil, eraseBlock, Stmt.erase,
        if_neg hid]
      rw [ih1 (fun x hx => hsource x (by simp [hx])) (fun id c => (hcode id c).2.1)
          (fun g t h => htargets g t (Or.inl h)),
        ih2 (fun x hx => hsource x (by simp [hx])) (fun id c => (hcode id c).2.2)
          (fun g t h => htargets g t (Or.inr h))]
  | switch id b ih =>
      simp only [idsOf, Stmt.ids, List.append_nil, List.mem_cons, recordsOf,
        Stmt.records, gotosOf, Stmt.gotos, not_or] at hsource hcode htargets
      simp only [instrumentBlock, Stmt.instrument, List.append_nil, eraseBlock, Stmt.erase]
      rw [ih (fun x hx => hsource x (by simp [hx])) (fun id c => (hcode id c).2) htargets]
  | loop id b ih =>
      simp only [idsOf, Stmt.ids, List.append_nil, List.mem_cons, recordsOf,
        Stmt.records, gotosOf, Stmt.gotos, not_or] at hsource hcode htargets
      simp only [instrumentBlock, Stmt.instrument, List.append_nil, eraseBlock, Stmt.erase,
        eraseBlock_addLoopBody, List.nil_append]
      rw [ih (fun x hx => hsource x (by simp [hx])) (fun id c => (hcode id c).2) htargets]
  | block id b ih =>
      simp only [idsOf, Stmt.ids, List.append_nil, List.mem_cons, recordsOf,
        Stmt.records, gotosOf, Stmt.gotos, not_or] at hsource hcode htargets
      simp only [instrumentBlock, Stmt.instrument, List.append_nil, eraseBlock, Stmt.erase]
      rw [ih (fun x hx => hsource x (by simp [hx])) (fun id c => (hcode id c).2) htargets]

end

/-! ## The graph depends on which labels stand where -/

section

variable {L L' : Sid → List Label}

lemma findCaseLabeledStmts_congr {ss : List Stmt} (h : ∀ x ∈ idsOf ss, ∀ l, l ∈ L x ↔ l ∈ L' x) :
    findCaseLabeledStmts L ss = findCaseLabeledStmts L' ss := by
  have hany : ∀ x, (∀ l, l ∈ L x ↔ l ∈ L' x) → (L x).any Label.isCase = (L' x).any Label.isCase :=
    fun x hx => by
      rw [Bool.eq_iff_iff, List.any_eq_true, List.any_eq_true]
      simp only [hx]
  induction ss using blockInduct with
  | nil => rfl
  | cons s ss hs hss =>
      have hs' := hs fun x hx => h x (by rw [idsOf_cons]; exact List.mem_append_left _ hx)
      have hss' := hss fun x hx => h x (by rw [idsOf_cons]; exact List.mem_append_right _ hx)
      simp only [findCaseLabeledStmts, List.append_nil] at hs' ⊢
      rw [hs', hss']
  | cond id b1 b2 ih1 ih2 =>
      simp only [idsOf, Stmt.ids, List.append_nil, List.mem_cons, List.mem_append] at h
      simp only [findCaseLabeledStmts, Stmt.caseLabeled]
      rw [hany id (h id (Or.inl rfl)), ih1 fun x hx => h x (Or.inr (Or.inl hx)),
        ih2 fun x hx => h x (Or.inr (Or.inr hx))]
  | loop id b ih =>
      simp only [idsOf, Stmt.ids, List.append_nil, List.mem_cons] at h
      simp only [findCaseLabeledStmts, Stmt.caseLabeled]
      rw [hany id (h id (Or.inl rfl)), ih fun x hx => h x (Or.inr hx)]
  | block id b ih =>
      simp only [idsOf, Stmt.ids, List.append_nil, List.mem_cons] at h
      simp only [findCaseLabeledStmts, Stmt.caseLabeled]
      rw [hany id (h id (Or.inl rfl)), ih fun x hx => h x (Or.inr hx)]
  | _ =>
      simp only [findCaseLabeledStmts, Stmt.caseLabeled]
      rw [hany _ (h _ (by simp [idsOf, Stmt.ids]))]

/-- The records inside a statement of a block are records of the block. -/
lemma ids_subset_of_mem_records {ss : List Stmt} {s : Stmt} (hs : s ∈ recordsOf ss) :
    s.ids ⊆ idsOf ss := by
  induction ss using blockInduct with
  | nil => simp [recordsOf] at hs
  | cons s' ss hs' hss =>
      rw [recordsOf_cons, List.mem_append] at hs
      rw [idsOf_cons]
      rcases hs with hs | hs
      · exact List.Subset.trans (hs' hs) (List.subset_append_left _ _)
      · exact List.Subset.trans (hss hs) (List.subset_append_right _ _)
  | cond id b1 b2 ih1 ih2 =>
      simp only [recordsOf, Stmt.records, List.append_nil, List.mem_cons, List.mem_append] at hs
      simp only [idsOf, Stmt.ids, List.append_nil]
      rcases hs with rfl | hs | hs
      · exact List.Subset.refl _
      · exact List.Subset.trans (ih1 hs) (by simp)
      · exact List.Subset.trans (ih2 hs) (by simp)
  | switch id b ih =>
      simp only [recordsOf, Stmt.records, List.append_nil, List.mem_cons] at hs
      simp only [idsOf, Stmt.ids, List.append_nil]
      rcases hs with rfl | hs
      · exact List.Subset.refl _
      · exact List.Subset.trans (ih hs) (List.subset_cons_self _ _)
  | loop id b ih =>
      simp only [recordsOf, Stmt.records, List.append_nil, List.mem_cons] at hs
      simp only [idsOf, Stmt.ids, List.append_nil]
      rcases hs with rfl | hs
      · exact List.Subset.refl _
      · exact List.Subset.trans (ih hs) (List.subset_cons_self _ _)
  | block id b ih =>
      simp only [recordsOf, Stmt.records, List.append_nil, List.mem_cons] at hs
      simp only [idsOf, Stmt.ids, List.append_nil]
      rcases hs with rfl | hs
      · exact List.Subset.refl _
      · exact List.Subset.trans (ih hs) (List.subset_cons_self _ _)
  | _ =>
      simp only [recordsOf, Stmt.records, List.append_nil, List.mem_singleton] at hs
      rw [hs]
      simp [idsOf]

lemma succs_congr {ss : List Stmt} (h : ∀ x ∈ idsOf ss, ∀ l, l ∈ L x ↔ l ∈ L' x) {c : Ctx}
    {n : Node} (hn : n ∈ cfgBlock c ss) : n.succs L = n.succs L' := by
  obtain ⟨s, c'⟩ := n
  have hs : s ∈ recordsOf ss := by
    rw [← map_fst_cfgBlock ss c]
    exact List.mem_map_of_mem hn
  cases s with
  | switch id b =>
      have hb : ∀ x ∈ idsOf b, ∀ l, l ∈ L x ↔ l ∈ L' x :=
        fun x hx => h x (ids_subset_of_mem_records hs (List.mem_cons_of_mem _ hx))
      have hdefault : ∀ x ∈ findCaseLabeledStmts L' b,
          (L x).contains .default = (L' x).contains .default := by
        intro x hx
        rw [Bool.eq_iff_iff, List.contains_iff_mem, List.contains_iff_mem]
        exact hb x (findCaseLabeledStmts_subset L' b hx) .default
      rw [Node.succs, Node.succs, findCaseLabeledStmts_congr hb]
      have hany : (findCaseLabeledStmts L' b).any (fun x => (L x).contains .default) =
          (findCaseLabeledStmts L' b).any fun x => (L' x).contains .default := by
        rw [Bool.eq_iff_iff, List.any_eq_true, List.any_eq_true]
        exact exists_congr fun x => and_congr_right fun hx => by rw [hdefault x hx]
      simp only [hany]
  | instr id i => cases i <;> rfl
  | _ => rfl

end

/-! ## The labels of a rewritten body -/

section

variable {a : PassArgs} {f : Fundec} {hits : Sid → Bool} {p : PassState} {e exp : Option RetExp}
  {init : List Stmt} {r : Sid}

/-- The `Goto` `g` to `t` is redirected: to the calls in front of the return, if there are any, or
to the call before a loop. -/
def Redirected (a : PassArgs) (f : Fundec) (hits : Sid → Bool) (g t : Sid) : Prop :=
  (f.vname ∈ a.prepostfnFuncs ∨ f.vname ∈ a.drivermacroFns) ∧
    (t ∈ returnsOf f.sbody.stmts ∨ t ∈ loopsOf f.sbody.stmts ∧ hits g = true)

/-- The condition: a `Goto` that is redirected carries no label, and one to a loop is redirected. -/
def GotosPlain (a : PassArgs) (f : Fundec) (hits : Sid → Bool) : Prop :=
  ∀ g t, (g, t) ∈ gotosOf f.sbody.stmts →
    (Redirected a f hits g t → f.sbody.labels g = []) ∧
    (t ∈ loopsOf f.sbody.stmts → Redirected a f hits g t)

/-- The calls in front of the return `r` get its labels. -/
def LabelsMoved (a : PassArgs) (f : Fundec) (r : Sid) : Prop :=
  (f.vname ∈ a.prepostfnFuncs ∨ f.vname ∈ a.drivermacroFns) ∧ ∃ g, (g, r) ∈ gotosOf f.sbody.stmts

lemma moveLabel_of_nil {L : Sid → List Label} {dest src : Sid} (h : L src = []) :
    moveLabel L dest src = L := by
  rw [moveLabel, h, List.nil_append, Function.update_eq_self, ← h, Function.update_eq_self]

lemma mem_moveLabel {L : Sid → List Label} {dest src y : Sid} {l : Label} (hne : dest ≠ src) :
    l ∈ moveLabel L dest src y ↔ y ≠ src ∧ (l ∈ L y ∨ y = dest ∧ l ∈ L src) := by
  rw [moveLabel]
  by_cases hsrc : y = src
  · rw [hsrc, Function.update_self]
    exact iff_of_false List.not_mem_nil fun h => h.1 rfl
  · rw [Function.update_of_ne hsrc]
    by_cases hdest : y = dest
    · rw [hdest, Function.update_self, List.mem_append]
      constructor
      · exact fun hl => ⟨hne, hl.symm.imp_right fun hl => ⟨rfl, hl⟩⟩
      · exact fun hl => hl.2.symm.imp_left And.right
    · rw [Function.update_of_ne hdest]
      constructor
      · exact fun hl => ⟨hsrc, Or.inl hl⟩
      · exact fun hl => hl.2.resolve_right fun h => hdest h.1

section

variable {redirect : Sid → Sid → Option Sid} {L : Sid → List Label}

lemma moveGoto_eq_self {q : Sid × Sid} (hq : redirect q.1 q.2 = none ∨ L q.2 = []) :
    moveGoto redirect L q = L := by
  rw [moveGoto]
  rcases hq with hq | hq
  · rw [hq]
  · split
    · exact moveLabel_of_nil hq
    · rfl

/-- Where there is nothing to move, the second phase leaves the labels as they are. -/
lemma foldl_moveGoto_of_nil (gs : List (Sid × Sid))
    (h : ∀ q ∈ gs, redirect q.1 q.2 = none ∨ L q.2 = []) : gs.foldl (moveGoto redirect) L = L := by
  induction gs with
  | nil => rfl
  | cons q gs ih =>
      rw [List.foldl_cons, moveGoto_eq_self (h q List.mem_cons_self)]
      exact ih fun q' hq' => h q' (List.mem_cons_of_mem _ hq')

/-- The second phase moves the labels of one record, once. -/
lemma foldl_moveGoto {r dest : Sid} (gs : List (Sid × Sid))
    (hret : ∀ q ∈ gs, q.2 = r → redirect q.1 q.2 = some dest)
    (hother : ∀ q ∈ gs, q.2 ≠ r → redirect q.1 q.2 = none ∨ q.2 ≠ dest ∧ L q.2 = [])
    (hmem : ∃ q ∈ gs, q.2 = r) : gs.foldl (moveGoto redirect) L = moveLabel L dest r := by
  induction gs with
  | nil =>
      obtain ⟨q, hq, _⟩ := hmem
      exact absurd hq List.not_mem_nil
  | cons q gs ih =>
      rw [List.foldl_cons]
      by_cases hq : q.2 = r
      · have hmove : moveGoto redirect L q = moveLabel L dest r := by
          rw [moveGoto, hret q List.mem_cons_self hq, hq]
        rw [hmove]
        -- Once the labels are moved, the rest changes nothing.
        refine foldl_moveGoto_of_nil gs fun q' hq' => ?_
        by_cases hqr : q'.2 = r
        · right
          rw [hqr, moveLabel, Function.update_self]
        · refine (hother q' (List.mem_cons_of_mem _ hq') hqr).imp_right fun hboth => ?_
          rw [moveLabel, Function.update_of_ne hqr, Function.update_of_ne hboth.1, hboth.2]
      · rw [moveGoto_eq_self ((hother q List.mem_cons_self hq).imp_right And.right)]
        refine ih (fun q' hq' => hret q' (List.mem_cons_of_mem _ hq'))
          (fun q' hq' => hother q' (List.mem_cons_of_mem _ hq')) ?_
        obtain ⟨q', hq', hr⟩ := hmem
        rcases List.mem_cons.mp hq' with rfl | hq'
        · exact absurd hr hq
        · exact ⟨q', hq', hr⟩

end

lemma mem_hoisted {loops : List Sid} {L : Sid → List Label}
    (hsource : ∀ l ∈ loops, ∃ k, l = .source k) (hbefore : ∀ l, L (.loopBefore l) = []) {x : Sid}
    {l : Label} : l ∈ hoisted loops L x ↔
      (∃ t ∈ loops, x = .loopBefore t ∧ l ∈ L t) ∨ x ∉ loops ∧ l ∈ L x := by
  by_cases hx : x ∈ loops
  · obtain ⟨k, rfl⟩ := hsource x hx
    simp [hoisted, hx]
  · have hother : (∀ t, x ≠ .loopBefore t) → hoisted loops L x = L x := by
      intro hne
      cases x with
      | loopBefore t => exact absurd rfl (hne t)
      | _ => exact if_neg hx
    by_cases hbef : ∃ t, x = .loopBefore t
    · obtain ⟨t, rfl⟩ := hbef
      have hhoist : hoisted loops L (.loopBefore t) =
          if t ∈ loops then L t else L (.loopBefore t) := if_neg hx
      rw [hhoist, hbefore]
      by_cases ht : t ∈ loops
      · simp [ht]
      · simp [ht]
    · rw [hother fun t ht => hbef ⟨t, ht⟩]
      constructor
      · exact fun hl => Or.inr ⟨hx, hl⟩
      · rintro (⟨t, _, ht, _⟩ | ⟨_, hl⟩)
        · exact absurd ⟨t, ht⟩ hbef
        · exact hl

/-- The body in one-return form, and the first call in front of its return, if there is any. -/
structure OneReturnForm (a : PassArgs) (f : Fundec) (r : Sid) (exp : Option RetExp) : Prop where
  wf : f.sbody.WellFormed
  ends : ∃ init, f.sbody.stmts = init ++ [.ret r exp]
  returns : returnsOf f.sbody.stmts = [r]

namespace OneReturnForm

variable (h : OneReturnForm a f r exp)

include h

lemma ret_mem : .ret r exp ∈ recordsOf f.sbody.stmts := by
  obtain ⟨init, hstmts⟩ := h.ends
  rw [hstmts, recordsOf_append]
  simp [recordsOf, Stmt.records]

lemma ret_source : ∃ k, r = .source k := h.wf.source r (id_mem_idsOf h.ret_mem)

/-- The return is no loop, and no `Goto`. -/
lemma ret_not_loop : r ∉ loopsOf f.sbody.stmts := by
  intro hloop
  obtain ⟨b, hb⟩ := mem_loopsOf.mp hloop
  cases record_unique h.wf.nodup hb h.ret_mem rfl

lemma before_labels (l : Sid) : f.sbody.labels (.loopBefore l) = [] := by
  refine h.wf.labels _ fun hmem => ?_
  obtain ⟨k, hk⟩ := h.wf.source _ hmem
  cases hk

omit h in
lemma pre_eq_nil_iff : idsOf (preReturn a f r exp) = [] ↔
    ¬ (f.vname ∈ a.prepostfnFuncs ∨ f.vname ∈ a.drivermacroFns) := by
  rw [idsOf_preReturn]
  split_ifs <;> simp_all

lemma pre_mem (hits : Sid → Bool) (p : PassState) (e : Option RetExp) {x : Sid}
    (hx : x ∈ idsOf (preReturn a f r exp)) : x.erased = r ∧
    x ∈ idsOf (rewritten a f hits p e).stmts ∧
      ∀ k, x ≠ .source k ∧ x ≠ .loopBefore (.source k) := by
  refine ⟨?_, ?_, ?_⟩
  · rw [idsOf_preReturn] at hx
    split_ifs at hx <;> simp at hx
    · rcases hx with rfl | rfl <;> rfl
    · rw [hx]
      rfl
    · rw [hx]
      rfl
  · rw [rewritten]
    dsimp only
    rw [idsOf_append, List.mem_append, mem_instrumentBlock]
    exact Or.inr ⟨_, h.ret_mem, List.mem_append_left _ hx⟩
  · rw [idsOf_preReturn] at hx
    split_ifs at hx <;> simp at hx
    · rcases hx with rfl | rfl <;> simp
    · simp [hx]
    · simp [hx]

/-- **Redirections** in terms of the source. -/
lemma redirect_eq_some {g t first : Sid} (hgoto : (g, t) ∈ gotosOf f.sbody.stmts) :
    redirectOf hits (afterPhaseOne a f p) g t = some first ↔ Redirected a f hits g t ∧
      (t = r ∧ (idsOf (preReturn a f r exp)).head? = some first ∨
        t ≠ r ∧ first = .loopBefore t) := by
  obtain ⟨init, hstmts⟩ := h.ends
  have hlabels : f.sbody.labels t ≠ [] := by
    obtain ⟨name, source, hlabel⟩ := (h.wf.targets _ hgoto).2
    exact List.ne_nil_of_mem hlabel
  have hpre := @pre_eq_nil_iff a f exp r
  rw [redirectOf_eq h.wf hstmts, Redirected, h.returns, List.mem_singleton]
  cases hids : idsOf (preReturn a f r exp) with
  | nil =>
      rw [hids] at hpre
      simp [hpre.mp rfl]
  | cons pre pres =>
      rw [hids] at hpre
      have hname : f.vname ∈ a.prepostfnFuncs ∨ f.vname ∈ a.drivermacroFns := by
        by_contra hname
        cases hpre.mpr hname
      by_cases ht : t = r
      · simp [ht, hname]
      · dsimp only
        rw [if_neg ht]
        by_cases hloop : t ∈ loopsOf f.sbody.stmts ∧ hits g = true
        · rw [if_pos ⟨hloop.2, hloop.1, hlabels⟩]
          simp [hloop, hname, ht, eq_comm]
        · rw [if_neg fun hboth => hloop ⟨hboth.2.1, hboth.1⟩]
          simp [hloop, ht]

lemma redirect_isSome {g t : Sid} (hgoto : (g, t) ∈ gotosOf f.sbody.stmts) :
    (redirectOf hits (afterPhaseOne a f p) g t).isSome = true ↔ Redirected a f hits g t := by
  rw [Option.isSome_iff_exists]
  constructor
  · rintro ⟨first, hfirst⟩
    exact ((h.redirect_eq_some hgoto).mp hfirst).1
  · intro hredirected
    by_cases htr : t = r
    · have hne : idsOf (preReturn a f r exp) ≠ [] :=
        fun hnil => pre_eq_nil_iff.mp hnil hredirected.1
      exact ⟨_, (h.redirect_eq_some hgoto).mpr
        ⟨hredirected, Or.inl ⟨htr, List.head?_eq_some_head hne⟩⟩⟩
    · exact ⟨_, (h.redirect_eq_some hgoto).mpr ⟨hredirected, Or.inr ⟨htr, rfl⟩⟩⟩

/-- What is redirected is a `Goto` to the return or to a loop. -/
lemma redirect_none_or_loop {g t : Sid} (hgoto : (g, t) ∈ gotosOf f.sbody.stmts) (htr : t ≠ r) :
    redirectOf hits (afterPhaseOne a f p) g t = none ∨ t ∈ loopsOf f.sbody.stmts := by
  cases hredirect : redirectOf hits (afterPhaseOne a f p) g t with
  | none => exact Or.inl rfl
  | some first =>
      obtain ⟨⟨_, hto⟩, _⟩ := (h.redirect_eq_some hgoto).mp hredirect
      rw [h.returns, List.mem_singleton] at hto
      exact Or.inr (hto.resolve_left htr).1

lemma mem_hoisted_source {x : Sid} {l : Label} :
    l ∈ hoisted (loopsOf f.sbody.stmts) f.sbody.labels x ↔
      (∃ t ∈ loopsOf f.sbody.stmts, x = .loopBefore t ∧ l ∈ f.sbody.labels t) ∨
        x ∉ loopsOf f.sbody.stmts ∧ l ∈ f.sbody.labels x :=
  mem_hoisted (fun _ hl => loops_source h.wf hl) h.before_labels

/-- The first phase hoists the labels of the loops, and the second one goes over the `Goto`s. -/
lemma rewritten_labels : (rewritten a f hits p e).labels =
    (gotosOf f.sbody.stmts).foldl (moveGoto (redirectOf hits (afterPhaseOne a f p)))
      (hoisted (loopsOf f.sbody.stmts) f.sbody.labels) := by
  rw [rewritten]
  dsimp only
  rw [afterPhaseOne_labels h.wf]

lemma rewritten_labels_of_not_moved (hm : ¬ LabelsMoved a f r) :
    (rewritten a f hits p e).labels = hoisted (loopsOf f.sbody.stmts) f.sbody.labels := by
  rw [h.rewritten_labels]
  refine foldl_moveGoto_of_nil _ fun q hq => ?_
  by_cases hqr : q.2 = r
  · left
    refine Option.eq_none_iff_forall_ne_some.mpr fun first hfirst => hm ?_
    exact ⟨((h.redirect_eq_some hq).mp hfirst).1.1, q.1, by rw [← hqr]; exact hq⟩
  · -- the labels of the loops are hoisted already
    exact (h.redirect_none_or_loop hq hqr).imp_right fun hloop => if_pos hloop

lemma rewritten_labels_of_moved (hm : LabelsMoved a f r) {pre : Sid}
    (hpre : (idsOf (preReturn a f r exp)).head? = some pre) : (rewritten a f hits p e).labels =
      moveLabel (hoisted (loopsOf f.sbody.stmts) f.sbody.labels) pre r := by
  obtain ⟨hname, g, hg⟩ := hm
  obtain ⟨_, _, hprene⟩ := h.pre_mem hits p e (List.mem_of_mem_head? hpre)
  rw [h.rewritten_labels]
  refine foldl_moveGoto _ (fun q hq hqr => ?_) (fun q hq hqr => ?_) ⟨(g, r), hg, rfl⟩
  · refine (h.redirect_eq_some hq).mpr ⟨⟨hname, Or.inl ?_⟩, Or.inl ⟨hqr, hpre⟩⟩
    rw [h.returns, hqr]
    exact List.mem_singleton_self _
  · refine (h.redirect_none_or_loop hq hqr).imp_right fun hloop => ⟨?_, if_pos hloop⟩
    obtain ⟨k, hk⟩ := loops_source h.wf hloop
    exact fun heq => (hprene k).1 (heq.symm.trans hk)

/-- The labels of the loops stand in front of them, and those of the return in front of the calls,
if a `Goto` was redirected there. -/
lemma mem_rewritten_labels {y : Sid} {l : Label} :
    l ∈ (rewritten a f hits p e).labels y ↔
      (∃ t ∈ loopsOf f.sbody.stmts, y = .loopBefore t ∧ l ∈ f.sbody.labels t) ∨
      (LabelsMoved a f r ∧ (idsOf (preReturn a f r exp)).head? = some y ∧ l ∈ f.sbody.labels r) ∨
      (y ∉ loopsOf f.sbody.stmts ∧ ¬ (LabelsMoved a f r ∧ y = r) ∧ l ∈ f.sbody.labels y) := by
  obtain ⟨k, hk⟩ := h.ret_source
  by_cases hm : LabelsMoved a f r
  · have hne : idsOf (preReturn a f r exp) ≠ [] := fun hnil => pre_eq_nil_iff.mp hnil hm.1
    have hpre := List.head?_eq_some_head hne
    obtain ⟨_, _, hprene⟩ := h.pre_mem hits p e (List.mem_of_mem_head? hpre)
    have hner : (idsOf (preReturn a f r exp)).head hne ≠ r :=
      fun hpr => (hprene k).1 (hpr.trans hk)
    have hret : ∀ {l}, l ∈ hoisted (loopsOf f.sbody.stmts) f.sbody.labels r ↔
        l ∈ f.sbody.labels r := by
      intro l
      rw [h.mem_hoisted_source]
      subst hk
      simp [h.ret_not_loop]
    rw [h.rewritten_labels_of_moved hm hpre, mem_moveLabel hner, h.mem_hoisted_source, hret, hpre,
      Option.some_inj]
    constructor
    · rintro ⟨hyr, (hloop | ⟨hnot, hl⟩) | ⟨hy, hl⟩⟩
      · exact Or.inl hloop
      · exact Or.inr (Or.inr ⟨hnot, fun hmoved => hyr hmoved.2, hl⟩)
      · exact Or.inr (Or.inl ⟨hm, hy.symm, hl⟩)
    · rintro (⟨t, ht, rfl, hl⟩ | ⟨_, rfl, hl⟩ | ⟨hnot, hyr, hl⟩)
      · refine ⟨fun heq => ?_, Or.inl (Or.inl ⟨t, ht, rfl, hl⟩)⟩
        cases heq.trans hk
      · exact ⟨hner, Or.inr ⟨rfl, hl⟩⟩
      · exact ⟨fun heq => hyr ⟨hm, heq⟩, Or.inl (Or.inr ⟨hnot, hl⟩)⟩
  · rw [h.rewritten_labels_of_not_moved hm, h.mem_hoisted_source]
    simp [hm]

omit h in
lemma mem_rewritten_of_madeFor {s : Stmt} {x : Sid} (hs : s ∈ recordsOf f.sbody.stmts)
    (hx : x ∈ s.madeFor a f (redirectOf hits (afterPhaseOne a f p))) :
    x ∈ idsOf (rewritten a f hits p e).stmts := by
  rw [rewritten]
  dsimp only
  rw [idsOf_append, List.mem_append, mem_instrumentBlock]
  exact Or.inr ⟨s, hs, hx⟩

/-- A `Goto` that is redirected is replaced by another record; all others stay. -/
lemma source_mem_iff {x : Sid} (hx : x ∈ idsOf f.sbody.stmts) :
    x ∈ idsOf (rewritten a f hits p e).stmts ↔
      ∀ t, (x, t) ∈ gotosOf f.sbody.stmts → ¬ Redirected a f hits x t := by
  obtain ⟨k, hk⟩ := h.wf.source x hx
  constructor
  · intro hmem t ht hredirected
    -- The record would have to be made for the `Goto` itself.
    rw [rewritten] at hmem
    dsimp only at hmem
    rw [idsOf_append, List.mem_append] at hmem
    rcases hmem with hmem | hmem
    · exact (idsOf_prefnStmts hmem).2 k hk
    · obtain ⟨s, hs, hxs⟩ := mem_instrumentBlock.mp hmem
      obtain ⟨k', hk'⟩ := h.wf.source s.id (id_mem_idsOf hs)
      have horigin := madeFor_origin hk' hxs
      rw [hk] at horigin
      have hid : (Stmt.goto x t).id = s.id := hk.trans (horigin.trans hk'.symm)
      have hgoto := record_unique h.wf.nodup (mem_gotosOf.mp ht) hs hid
      rw [← hgoto, Stmt.madeFor, if_pos ((h.redirect_isSome ht).mpr hredirected), hk] at hxs
      simp at hxs
  · intro hnot
    rw [← map_id_recordsOf] at hx
    obtain ⟨s, hs, rfl⟩ := List.mem_map.mp hx
    refine mem_rewritten_of_madeFor hs ?_
    cases s with
    | goto g t =>
        have ht := mem_gotosOf.mpr hs
        rw [Stmt.madeFor, if_neg fun hsome => hnot t ht ((h.redirect_isSome ht).mp hsome)]
        exact List.mem_singleton_self _
    | ret s e => exact List.mem_append_right _ (List.mem_singleton_self _)
    | loop l b => simp [Stmt.madeFor]
    | _ => exact List.mem_singleton_self _

/-- **Which labels are lost**: those of the `Goto`s that are redirected. -/
theorem mem_labels_iff {x : Sid} (hx : x ∈ idsOf f.sbody.stmts) {l : Label} :
    l ∈ (rewritten a f hits p e).erase.labels x ↔ l ∈ f.sbody.labels x ∧
      ∀ t, (x, t) ∈ gotosOf f.sbody.stmts → ¬ Redirected a f hits x t := by
  have herase : l ∈ (rewritten a f hits p e).erase.labels x ↔
      ∃ y ∈ idsOf (rewritten a f hits p e).stmts, y.erased = x ∧
        l ∈ (rewritten a f hits p e).labels y := by
    rw [Body.erase, List.mem_flatMap]
    simp only [List.mem_filter, decide_eq_true_eq, and_assoc]
  have hnotGoto : ∀ {s}, s ∈ recordsOf f.sbody.stmts → s.id = x → (∀ t, s ≠ .goto x t) →
      ∀ t, (x, t) ∉ gotosOf f.sbody.stmts := by
    intro s hs hid hne t ht
    exact hne t (record_unique h.wf.nodup hs (mem_gotosOf.mp ht) hid)
  have hsource : ∀ {y}, y ∈ idsOf f.sbody.stmts → y.erased = y := by
    intro y hy
    obtain ⟨k, rfl⟩ := h.wf.source y hy
    rfl
  rw [herase]
  constructor
  · rintro ⟨y, hy, rfl, hl⟩
    rcases h.mem_rewritten_labels.mp hl with ⟨t, ht, rfl, hl'⟩ | ⟨_, hpre, hl'⟩ |
      ⟨_, _, hl'⟩
    · obtain ⟨b, hb⟩ := mem_loopsOf.mp ht
      exact ⟨hl', fun t' ht' => absurd ht' (hnotGoto hb rfl (by simp) t')⟩
    · obtain ⟨herased, _⟩ := h.pre_mem hits p e (List.mem_of_mem_head? hpre)
      rw [herased] at hnotGoto ⊢
      exact ⟨hl', fun t ht => absurd ht (hnotGoto h.ret_mem rfl (by simp) t)⟩
    · have hmem : y ∈ idsOf f.sbody.stmts := by
        by_contra hmem
        rw [h.wf.labels y hmem] at hl'
        cases hl'
      rw [hsource hmem]
      exact ⟨hl', (h.source_mem_iff hmem).mp hy⟩
  · rintro ⟨hl, hnot⟩
    by_cases hloop : x ∈ loopsOf f.sbody.stmts
    · obtain ⟨b, hb⟩ := mem_loopsOf.mp hloop
      exact ⟨.loopBefore x, mem_rewritten_of_madeFor hb (by simp [Stmt.madeFor]), rfl,
        h.mem_rewritten_labels.mpr (Or.inl ⟨x, hloop, rfl, hl⟩)⟩
    · by_cases hmoved : LabelsMoved a f r ∧ x = r
      · obtain ⟨hm, rfl⟩ := hmoved
        have hne : idsOf (preReturn a f x exp) ≠ [] := fun hnil => pre_eq_nil_iff.mp hnil hm.1
        obtain ⟨herased, hmem, _⟩ := h.pre_mem hits p e (List.head_mem hne)
        exact ⟨_, hmem, herased, h.mem_rewritten_labels.mpr
          (Or.inr (Or.inl ⟨hm, List.head?_eq_some_head hne, hl⟩))⟩
      · exact ⟨x, (h.source_mem_iff hx).mpr hnot, hsource hx,
          h.mem_rewritten_labels.mpr (Or.inr (Or.inr ⟨hloop, hmoved, hl⟩))⟩

omit h in
lemma gotosOf_rewritten : gotosOf (rewritten a f hits p e).stmts =
    (gotosOf f.sbody.stmts).map (redirectGoto (redirectOf hits (afterPhaseOne a f p))) := by
  have hprefn : gotosOf (prefnStmts a f e) = [] := by
    rw [prefnStmts]
    split_ifs <;> rfl
  rw [rewritten]
  dsimp only
  rw [gotosOf_append, hprefn, gotosOf_instrumentBlock, List.nil_append]

lemma erase_rewritten : (rewritten a f hits p e).erase.stmts = f.sbody.stmts := by
  rw [rewritten, Body.erase]
  dsimp only
  rw [eraseBlock_append, eraseBlock_prefnStmts, List.nil_append]
  refine eraseBlock_instrumentBlock h.wf.source h.wf.code (fun g t hgoto => ⟨?_, ?_⟩) _
  · obtain ⟨k, rfl⟩ := h.wf.source t (h.wf.targets _ hgoto).1
    rfl
  · intro first hfirst
    rcases ((h.redirect_eq_some hgoto).mp hfirst).2 with ⟨rfl, hpre⟩ | ⟨_, rfl⟩
    · exact (h.pre_mem hits p e (List.mem_of_mem_head? hpre)).1
    · rfl

/-- **When control flow is preserved.** -/
theorem preservesControlFlow_iff :
    PreservesControlFlow f.sbody (rewritten a f hits p e) ↔ GotosPlain a f hits := by
  constructor
  · intro hpreserves g t hgoto
    have hg : g ∈ idsOf f.sbody.stmts := id_mem_idsOf (mem_gotosOf.mp hgoto)
    refine ⟨fun hredirected => ?_, fun hloop => ?_⟩
    · -- A label of the `Goto` would be lost.
      refine List.eq_nil_iff_forall_not_mem.mpr fun l hl => ?_
      exact (h.mem_labels_iff hg).mp (hpreserves.labels g hg l hl) |>.2 t hgoto hredirected
    · -- The loop itself has no label any more.
      by_contra hredirected
      have hnone : redirectOf hits (afterPhaseOne a f p) g t = none :=
        Option.not_isSome_iff_eq_none.mp
          fun hsome => hredirected ((h.redirect_isSome hgoto).mp hsome)
      have hmem : (g, t) ∈ gotosOf (rewritten a f hits p e).stmts := by
        rw [gotosOf_rewritten, List.mem_map]
        exact ⟨(g, t), hgoto, by rw [redirectGoto, hnone]⟩
      obtain ⟨_, name, source, hlabel⟩ := hpreserves.targets _ hmem
      obtain ⟨k, rfl⟩ := loops_source h.wf hloop
      rcases h.mem_rewritten_labels.mp hlabel with ⟨_, _, hbefore, _⟩ | ⟨_, hpre, _⟩ | ⟨hnot, _⟩
      · cases hbefore
      · exact ((h.pre_mem hits p e
          (List.mem_of_mem_head? hpre)).2.2 k).1 rfl
      · exact hnot hloop
  · intro hplain
    -- A record with a label is not replaced.
    have hkept : ∀ {x l}, l ∈ f.sbody.labels x → ∀ t, (x, t) ∈ gotosOf f.sbody.stmts →
        ¬ Redirected a f hits x t := by
      intro x l hl t ht hredirected
      rw [(hplain x t ht).1 hredirected] at hl
      cases hl
    have hlabels : ∀ x ∈ idsOf f.sbody.stmts, ∀ l,
        l ∈ (rewritten a f hits p e).erase.labels x ↔ l ∈ f.sbody.labels x :=
      fun x hx l => (h.mem_labels_iff hx).trans (and_iff_left_of_imp hkept)
    refine ⟨h.erase_rewritten, fun x y => ?_, ?_, fun x hx l hl => (hlabels x hx l).mpr hl⟩
    · have hnodes : (rewritten a f hits p e).erase.nodes = f.sbody.nodes := by
        rw [Body.nodes, Body.nodes, h.erase_rewritten]
      rw [Body.Edge, Body.Edge, hnodes]
      refine exists_congr fun n => and_congr_right fun hn => ?_
      rw [succs_congr hlabels hn]
    · rintro q hq
      rw [gotosOf_rewritten, List.mem_map] at hq
      obtain ⟨⟨g, t⟩, hgoto, rfl⟩ := hq
      obtain ⟨ht, name, source, hlabel⟩ := h.wf.targets _ hgoto
      rw [redirectGoto]
      dsimp only at ht hlabel ⊢
      cases hredirect : redirectOf hits (afterPhaseOne a f p) g t with
      | some first =>
          obtain ⟨hredirected, hfirst⟩ := (h.redirect_eq_some hgoto).mp hredirect
          rcases hfirst with ⟨rfl, hpre⟩ | ⟨htr, rfl⟩
          · exact ⟨(h.pre_mem hits p e (List.mem_of_mem_head? hpre)).2.1, name, source,
              h.mem_rewritten_labels.mpr
                (Or.inr (Or.inl ⟨⟨hredirected.1, g, hgoto⟩, hpre, hlabel⟩))⟩
          · have hto := hredirected.2
            rw [h.returns, List.mem_singleton] at hto
            have hloop := (hto.resolve_left htr).1
            obtain ⟨b, hb⟩ := mem_loopsOf.mp hloop
            exact ⟨mem_rewritten_of_madeFor hb (by simp [Stmt.madeFor]), name, source,
              h.mem_rewritten_labels.mpr (Or.inl ⟨t, hloop, rfl, hlabel⟩)⟩
      | none =>
          have hredirected : ¬ Redirected a f hits g t := by
            rw [← h.redirect_isSome (p := p) hgoto, hredirect]
            simp
          refine ⟨(h.source_mem_iff ht).mpr (hkept hlabel), name, source,
            h.mem_rewritten_labels.mpr (Or.inr (Or.inr ⟨?_, ?_, hlabel⟩))⟩
          · exact fun hloop => hredirected ((hplain g t hgoto).2 hloop)
          · rintro ⟨hmoved, rfl⟩
            exact hredirected ⟨hmoved.1, Or.inl (by rw [h.returns]; simp)⟩

end OneReturnForm

end

/-- **Control flow** of a one-return function survives the pass exactly if no `Goto` that is
redirected carries a label and every `Goto` to a loop is redirected. -/
theorem control_flow_preserved_iff {a : PassArgs} {hits : Sid → Bool} {file : List Fundec}
    {bs : List Body} (h : process a hits file = .ok bs) :
    List.Forall₂ (fun f b => f.sbody.WellFormed → f.sbody.OneReturn →
      (PreservesControlFlow f.sbody b ↔ GotosPlain a f hits)) file bs := by
  refine process_forall (fun f p e _ _ hwf hone => ?_) h
  obtain ⟨init, r, exp, hstmts, hret⟩ := hone
  have hform : OneReturnForm a f r exp := by
    refine ⟨hwf, ⟨init, hstmts⟩, ?_⟩
    rw [hstmts, returnsOf_append, hret]
    rfl
  exact hform.preservesControlFlow_iff

/-- `while (1) { if (ready) goto out; } out: return;` -/
def pollLoop : Fundec where
  vname := "tx"
  returnsVoid := true
  sbody :=
    { stmts := [.loop (.source 0) [.cond (.source 1) [.goto (.source 2) (.source 3)] []],
        .ret (.source 3) none]
      labels := fun x => if x = .source 3 then [.label "out" true] else [] }

/-- Here it makes no difference that the lookups of loops miss. -/
theorem control_flow_preserved_poll :
    ∃ b, process txPair (fun _ => false) [pollLoop] = .ok [b] ∧
      PreservesControlFlow pollLoop.sbody b := by
  have hprocess : process txPair (fun _ => false) [pollLoop] = .ok [_] :=
    process_singleton (e := none) rfl
  have hwf : pollLoop.sbody.WellFormed := by
    constructor
    · simp [pollLoop, idsOf, Stmt.ids]
    · simp [pollLoop, recordsOf, Stmt.records]
    · simp [pollLoop, idsOf, Stmt.ids]
    · intro x hx
      simp only [pollLoop, idsOf, Stmt.ids, List.append_nil, List.cons_append, List.nil_append,
        List.mem_cons, not_or] at hx
      simp [pollLoop, hx]
    · simp [pollLoop, gotosOf, Stmt.gotos, idsOf, Stmt.ids]
  refine ⟨_, hprocess, ?_⟩
  rcases control_flow_preserved_iff hprocess with _ | ⟨hpreserves, _⟩
  refine (hpreserves hwf ⟨[_], .source 3, none, rfl, rfl⟩).mpr fun g t hgoto => ?_
  obtain ⟨rfl, rfl⟩ : g = .source 2 ∧ t = .source 3 := by
    simpa [pollLoop, gotosOf, Stmt.gotos] using hgoto
  exact ⟨fun _ => rfl, fun hloop => absurd hloop (by decide)⟩

/-- `switch (x) { case 1: f(); default: goto out; } out: return;` -/
def defaultOut : Fundec where
  vname := "tx"
  returnsVoid := true
  sbody :=
    { stmts := [.switch (.source 0) [.instr (.source 1) (.code true),
          .goto (.source 2) (.source 3)], .ret (.source 3) none]
      labels := fun x =>
        if x = .source 1 then [.case 1] else if x = .source 2 then [.default]
        else if x = .source 3 then [.label "out" true] else [] }

/-- The new `Goto` does not take over the `Default` of the old one. -/
theorem default_label_lost :
    defaultOut.sbody.WellFormed ∧ defaultOut.sbody.OneReturn ∧
      ∃ b, process txPair (fun _ => true) [defaultOut] = .ok [b] ∧
        ¬ PreservesControlFlow defaultOut.sbody b := by
  refine ⟨?_, ⟨[_], .source 3, none, rfl, rfl⟩, _, process_singleton (e := none) rfl, fun h => ?_⟩
  · constructor
    · simp [defaultOut, idsOf, Stmt.ids]
    · simp [defaultOut, recordsOf, Stmt.records]
    · simp [defaultOut, idsOf, Stmt.ids]
    · intro x hx
      simp only [defaultOut, idsOf, Stmt.ids, List.append_nil, List.cons_append, List.nil_append,
        List.mem_cons, not_or] at hx
      simp [defaultOut, hx]
    · simp [defaultOut, gotosOf, Stmt.gotos, idsOf, Stmt.ids]
  · have hdefault := h.labels (.source 2) (by decide) .default (by decide)
    exact absurd hdefault (by decide)

end SymDrive.Cil
