import Mathlib.Data.List.Dedup
import Mathlib.Data.List.Perm.Basic
import SymDrive.Cil.Cfg
import SymDrive.Cil.Instrument

/-!
# The records of an instrumented body

Which records stand in the body that the pass makes, and which of them belong together.

* `idsOf_instrumentBlock` — every record of the source is replaced by the records made for it.
* `idsOf_instrumentBlock_nodup` — a record stands in the instrumented body once, so an identity
  determines its node (`node_unique`).
* `mem_succs` — control leaves a block through `next`, `brk` and `cont` or through a `Goto`.
-/

namespace SymDrive.Cil

/-- The source statement that a record is made for, or the record itself. -/
def Sid.origin : Sid → Sid
  | .loopBefore s | .loopBody s | .loopAfter s | .postfn s | .drivermacroCall s | .gotoAfter s _
  | .newGoto s => s
  | .source n => .source n
  | .prefn => .prefn
  | .bypassIf => .bypassIf
  | .bypassPostfn => .bypassPostfn
  | .bypassReturn => .bypassReturn

/-! ## Identities and nodes -/

/-- The nodes of the graph are the records of the block, each with its context. -/
lemma map_fst_cfgBlock (ss : List Stmt) (c : Ctx) :
    (cfgBlock c ss).map Prod.fst = recordsOf ss := by
  induction ss using blockInduct generalizing c with
  | nil => rfl
  | cons s ss hs hss => rw [cfgBlock_cons, List.map_append, hs, hss, ← recordsOf_cons]
  | cond id b1 b2 ih1 ih2 =>
      simp [cfgBlock, cfgStmt, entry, recordsOf, Stmt.records, ih1, ih2]
  | switch id b ih => simp [cfgBlock, cfgStmt, entry, recordsOf, Stmt.records, ih]
  | loop id b ih => simp [cfgBlock, cfgStmt, entry, recordsOf, Stmt.records, ih]
  | block id b ih => simp [cfgBlock, cfgStmt, entry, recordsOf, Stmt.records, ih]
  | _ => rfl

/-- An identity determines the statement. -/
lemma record_unique {ss : List Stmt} (hnodup : (idsOf ss).Nodup) {s s' : Stmt}
    (hs : s ∈ recordsOf ss) (hs' : s' ∈ recordsOf ss) (h : s.id = s'.id) : s = s' := by
  rw [← map_id_recordsOf] at hnodup
  exact List.inj_on_of_nodup_map hnodup hs hs' h

/-- An identity determines the node. -/
lemma node_unique {ss : List Stmt} {c : Ctx} (hnodup : (idsOf ss).Nodup) {n n' : Node}
    (hn : n ∈ cfgBlock c ss) (hn' : n' ∈ cfgBlock c ss) (h : n.1.id = n'.1.id) : n = n' := by
  rw [← map_id_recordsOf, ← map_fst_cfgBlock ss c, List.map_map] at hnodup
  exact List.inj_on_of_nodup_map hnodup hn hn' h

/-- A node is found by its identity. -/
lemma nodeAt_eq_some {b : Body} (hnodup : (idsOf b.stmts).Nodup) {n : Node} (hn : n ∈ b.nodes) :
    b.nodeAt n.1.id = some n := by
  rw [Body.nodeAt, List.find?_eq_some_iff_append]
  obtain ⟨front, back, hnodes⟩ := List.append_of_mem hn
  refine ⟨by simp, front, back, hnodes, fun n' hn' => ?_⟩
  have hne : n' ≠ n := by
    rintro rfl
    rw [← map_id_recordsOf, ← map_fst_cfgBlock b.stmts Ctx.top, List.map_map] at hnodup
    have hnodes' := (List.Nodup.of_map _ hnodup : b.nodes.Nodup)
    rw [hnodes, List.nodup_append'] at hnodes'
    exact hnodes'.2.2 hn' List.mem_cons_self
  have hmem : n' ∈ b.nodes := by
    rw [hnodes]
    exact List.mem_append_left _ hn'
  rw [decide_eq_false fun h => hne (node_unique hnodup hmem hn h)]
  rfl

/-- The edges from a node are its successors. -/
lemma edge_iff {b : Body} (hnodup : (idsOf b.stmts).Nodup) {n : Node} (hn : n ∈ b.nodes) (y : Sid) :
    b.Edge n.1.id y ↔ y ∈ n.succs b.labels := by
  constructor
  · rintro ⟨n', hn', hid, hy⟩
    rwa [node_unique hnodup hn' hn hid] at hy
  · exact fun hy => ⟨n, hn, rfl, hy⟩

/-! ## The records made for a statement -/

section

variable (a : PassArgs) (f : Fundec) (redirect : Sid → Sid → Option Sid)

/-- The records that stand in the instrumented body for one of the source. -/
def Stmt.madeFor : Stmt → List Sid
  | .goto g t => if (redirect g t).isSome then [.newGoto g] else [g]
  | .ret s e => idsOf (preReturn a f s e) ++ [s]
  | .loop l _ => [.loopBefore l, l, .loopBody l, .loopAfter l]
  | s => [s.id]

/-- The call at the end of a loop body adds its record, and keeps the others. -/
lemma idsOf_addLoopBody (call : Stmt) (body : List Stmt) :
    (idsOf (addLoopBody call body)).Perm (idsOf body ++ call.ids) := by
  rcases List.eq_nil_or_concat body with rfl | ⟨front, last, rfl⟩
  · simp [addLoopBody, idsOf]
  · rw [List.concat_eq_append, addLoopBody, List.getLast?_concat]
    dsimp only
    split
    · simp only [List.dropLast_concat, idsOf_append, List.append_assoc, idsOf, List.append_nil]
      exact List.Perm.append_left _ List.perm_append_comm
    · simp only [idsOf_append, idsOf, List.append_nil]
      exact List.Perm.refl _

/-- **The records of the instrumented body** are those made for the records of the source. -/
theorem idsOf_instrumentBlock (ss : List Stmt) (n : ℤ) :
    (idsOf (instrumentBlock (preReturn a f) redirect n ss)).Perm
      ((recordsOf ss).flatMap (Stmt.madeFor a f redirect)) := by
  induction ss using blockInduct generalizing n with
  | nil => exact List.Perm.refl _
  | cons s ss hs hss =>
      rw [recordsOf_cons, List.flatMap_append, ← List.singleton_append, instrumentBlock_append,
        idsOf_append]
      exact (hs n).append (hss _)
  | goto g t =>
      cases hg : redirect g t <;>
        simp [instrumentBlock, Stmt.instrument, idsOf, Stmt.ids, recordsOf, Stmt.records,
          Stmt.madeFor, hg]
  | ret s e =>
      simp [instrumentBlock, Stmt.instrument, idsOf, Stmt.ids, recordsOf, Stmt.records,
        Stmt.madeFor]
  | cond id b1 b2 ih1 ih2 =>
      simp only [instrumentBlock, Stmt.instrument, idsOf, Stmt.ids, recordsOf, Stmt.records,
        Stmt.madeFor, List.append_nil, List.flatMap_cons, List.flatMap_append]
      exact ((ih1 _).append (ih2 _)).cons _
  | switch id b ih =>
      simp only [instrumentBlock, Stmt.instrument, idsOf, Stmt.ids, recordsOf, Stmt.records,
        Stmt.madeFor, List.append_nil, List.flatMap_cons]
      exact (ih _).cons _
  | loop l b ih =>
      simp only [instrumentBlock, Stmt.instrument, idsOf, Stmt.ids, recordsOf, Stmt.records,
        Stmt.madeFor, List.append_nil, List.flatMap_cons, List.cons_append, List.nil_append]
      refine ((List.Perm.append_right _ (idsOf_addLoopBody _ _)).trans ?_).cons _ |>.cons _
      rw [List.append_assoc, ← List.singleton_append]
      exact (List.perm_append_comm.trans (List.Perm.append_left _ (ih n)))
  | block id b ih =>
      simp only [instrumentBlock, Stmt.instrument, idsOf, Stmt.ids, recordsOf, Stmt.records,
        Stmt.madeFor, List.append_nil, List.flatMap_cons]
      exact (ih _).cons _
  | _ => exact List.Perm.refl _

variable {a f redirect}

/-- In front of a `Return` come the `postfn` call and the driver macro, as far as there are any. -/
lemma idsOf_preReturn (s : Sid) (e : Option RetExp) : idsOf (preReturn a f s e) =
    (if f.vname ∈ a.prepostfnFuncs then [Sid.postfn s] else []) ++
      if f.vname ∈ a.drivermacroFns then [Sid.drivermacroCall s] else [] := by
  rw [preReturn, genDrivermacroCall, idsOf_append]
  split_ifs <;> rfl

/-- The records made for a statement remember it. -/
lemma madeFor_origin {s : Stmt} {x : Sid} {k : ℕ} (hs : s.id = .source k)
    (hx : x ∈ s.madeFor a f redirect) : x.origin = .source k := by
  cases s with
  | goto g t =>
      obtain rfl : g = .source k := hs
      rw [Stmt.madeFor] at hx
      split_ifs at hx
      · rw [List.mem_singleton.mp hx]
        rfl
      · rw [List.mem_singleton.mp hx]
        rfl
  | ret s e =>
      obtain rfl : s = .source k := hs
      rw [Stmt.madeFor, idsOf_preReturn] at hx
      simp only [List.mem_append, List.mem_ite_nil_right, List.mem_singleton] at hx
      rcases hx with (⟨-, rfl⟩ | ⟨-, rfl⟩) | rfl
      · rfl
      · rfl
      · rfl
  | loop l b =>
      obtain rfl : l = .source k := hs
      simp only [Stmt.madeFor, List.mem_cons, List.not_mem_nil, or_false] at hx
      rcases hx with rfl | rfl | rfl | rfl
      · rfl
      · rfl
      · rfl
      · rfl
  | _ =>
      rw [List.mem_singleton.mp hx, hs]
      rfl

/-- One statement gets no record twice. -/
lemma madeFor_nodup {s : Stmt} {k : ℕ} (hs : s.id = .source k) :
    (s.madeFor a f redirect).Nodup := by
  cases s with
  | goto g t =>
      rw [Stmt.madeFor]
      split_ifs <;> exact List.nodup_singleton _
  | ret s e =>
      obtain rfl : s = .source k := hs
      rw [Stmt.madeFor, idsOf_preReturn]
      split_ifs <;> simp
  | loop l b =>
      obtain rfl : l = .source k := hs
      simp [Stmt.madeFor]
  | _ => exact List.nodup_singleton _

end

section

variable {a : PassArgs} {f : Fundec} {redirect : Sid → Sid → Option Sid} {ss : List Stmt}

/-- A record of the instrumented body was made for one of the source. -/
lemma mem_instrumentBlock {n : ℤ} {x : Sid} :
    x ∈ idsOf (instrumentBlock (preReturn a f) redirect n ss) ↔
      ∃ s ∈ recordsOf ss, x ∈ s.madeFor a f redirect := by
  rw [(idsOf_instrumentBlock a f redirect ss n).mem_iff, List.mem_flatMap]

/-- The statement that a record was made for stands in the source. -/
lemma origin_mem {n : ℤ} (hsource : ∀ x ∈ idsOf ss, ∃ k, x = .source k) {x : Sid}
    (hx : x ∈ idsOf (instrumentBlock (preReturn a f) redirect n ss)) :
    (∃ k, x.origin = .source k) ∧ x.origin ∈ idsOf ss := by
  obtain ⟨s, hs, hx⟩ := mem_instrumentBlock.mp hx
  obtain ⟨k, hk⟩ := hsource s.id (id_mem_idsOf hs)
  have horigin := madeFor_origin hk hx
  exact ⟨⟨k, horigin⟩, by rw [horigin, ← hk]; exact id_mem_idsOf hs⟩

/-- No call is ever made for a `Goto`. -/
lemma ne_gotoAfter {n : ℤ} (hsource : ∀ x ∈ idsOf ss, ∃ k, x = .source k) {x : Sid}
    (hx : x ∈ idsOf (instrumentBlock (preReturn a f) redirect n ss)) (g : Sid) (i : ℕ) :
    x ≠ .gotoAfter g i := by
  rintro rfl
  obtain ⟨s, hs, hx⟩ := mem_instrumentBlock.mp hx
  obtain ⟨k, hk⟩ := hsource s.id (id_mem_idsOf hs)
  cases s with
  | goto g' t =>
      obtain rfl : g' = .source k := hk
      rw [Stmt.madeFor] at hx
      split_ifs at hx <;> simp at hx
  | ret s e =>
      obtain rfl : s = .source k := hk
      simp [Stmt.madeFor, idsOf_preReturn] at hx
  | loop l b =>
      obtain rfl : l = .source k := hk
      simp [Stmt.madeFor] at hx
  | _ =>
      have hid := List.mem_singleton.mp hx
      rw [hk] at hid
      cases hid

/-- **A record stands in the instrumented body once.** -/
theorem idsOf_instrumentBlock_nodup (hsource : ∀ x ∈ idsOf ss, ∃ k, x = .source k)
    (hnodup : (idsOf ss).Nodup) (n : ℤ) :
    (idsOf (instrumentBlock (preReturn a f) redirect n ss)).Nodup := by
  rw [(idsOf_instrumentBlock a f redirect ss n).nodup_iff, List.nodup_flatMap]
  refine ⟨fun s hs => ?_, ?_⟩
  · obtain ⟨k, hk⟩ := hsource s.id (id_mem_idsOf hs)
    exact madeFor_nodup hk
  · -- Records made for different statements have different origins.
    rw [← map_id_recordsOf] at hnodup
    refine (List.pairwise_map.mp hnodup).imp_of_mem fun {s s'} hs hs' hne => ?_
    obtain ⟨k, hk⟩ := hsource s.id (id_mem_idsOf hs)
    obtain ⟨k', hk'⟩ := hsource s'.id (id_mem_idsOf hs')
    intro x hx hx'
    exact hne (by rw [hk, hk', ← madeFor_origin hk hx, ← madeFor_origin hk' hx'])

/-- The records of the `prefn` call and its branch belong to no statement of the source. -/
lemma idsOf_prefnStmts {e : Option RetExp} {x : Sid} (hx : x ∈ idsOf (prefnStmts a f e)) :
    x.origin = x ∧ ∀ k, x ≠ .source k := by
  rw [prefnStmts] at hx
  split_ifs at hx
  · simp only [idsOf, Stmt.ids, List.append_nil, List.cons_append, List.nil_append, List.mem_cons,
      List.not_mem_nil, or_false] at hx
    rcases hx with rfl | rfl | rfl | rfl <;> simp [Sid.origin]
  · simp [idsOf] at hx

/-- The records of a whole rewritten body are distinct. -/
lemma rewritten_nodup (hsource : ∀ x ∈ idsOf ss, ∃ k, x = .source k) (hnodup : (idsOf ss).Nodup)
    (e : Option RetExp) (n : ℤ) :
    (idsOf (prefnStmts a f e ++ instrumentBlock (preReturn a f) redirect n ss)).Nodup := by
  rw [idsOf_append, List.nodup_append']
  refine ⟨?_, idsOf_instrumentBlock_nodup hsource hnodup n, fun x hx hx' => ?_⟩
  · rw [prefnStmts]
    split_ifs <;> simp [idsOf, Stmt.ids]
  · obtain ⟨⟨k, hk⟩, _⟩ := origin_mem hsource hx'
    obtain ⟨horigin, hne⟩ := idsOf_prefnStmts hx
    exact hne k (horigin ▸ hk)

end

/-! ## Gotos, returns and calls -/

/-- The statements of a loop body with the call at its end. -/
lemma mem_recordsOf_addLoopBody {call s : Stmt} {body : List Stmt} :
    s ∈ recordsOf (addLoopBody call body) ↔ s ∈ recordsOf body ∨ s ∈ call.records := by
  rcases List.eq_nil_or_concat body with rfl | ⟨front, last, rfl⟩
  · simp [addLoopBody, recordsOf]
  · rw [List.concat_eq_append, addLoopBody, List.getLast?_concat]
    dsimp only
    split
    · simp only [List.dropLast_concat, recordsOf_append, List.mem_append, recordsOf,
        List.append_nil, or_assoc]
      rw [or_comm (a := s ∈ call.records)]
    · simp [recordsOf, or_assoc]

/-- The call at the end of a loop body is no `Goto`. -/
lemma gotosOf_addLoopBody (id : Sid) (i : Instr) (body : List Stmt) :
    gotosOf (addLoopBody (.instr id i) body) = gotosOf body := by
  rcases List.eq_nil_or_concat body with rfl | ⟨front, last, rfl⟩
  · rfl
  · rw [List.concat_eq_append, addLoopBody, List.getLast?_concat]
    dsimp only
    split <;> simp [gotosOf, Stmt.gotos]

lemma returnsOf_addLoopBody (id : Sid) (i : Instr) (body : List Stmt) :
    returnsOf (addLoopBody (.instr id i) body) = returnsOf body := by
  rcases List.eq_nil_or_concat body with rfl | ⟨front, last, rfl⟩
  · rfl
  · rw [List.concat_eq_append, addLoopBody, List.getLast?_concat]
    dsimp only
    split <;> simp [returnsOf, Stmt.returns]

/-- What becomes of a `Goto`. -/
def redirectGoto (redirect : Sid → Sid → Option Sid) (p : Sid × Sid) : Sid × Sid :=
  match redirect p.1 p.2 with
  | some first => (.newGoto p.1, first)
  | none => p

/-- In front of a `Return` there are only calls. -/
lemma gotosOf_preReturn (a : PassArgs) (f : Fundec) (s : Sid) (e : Option RetExp) :
    gotosOf (preReturn a f s e) = [] := by
  rw [preReturn, genDrivermacroCall]
  split_ifs <;> rfl

/-- The calls in front of a `Return` do not return. -/
lemma returnsOf_preReturn (a : PassArgs) (f : Fundec) (s : Sid) (e : Option RetExp) :
    returnsOf (preReturn a f s e) = [] := by
  rw [preReturn, genDrivermacroCall]
  split_ifs <;> rfl

section

variable {a : PassArgs} {f : Fundec} {redirect : Sid → Sid → Option Sid}

/-- **The `Goto`s of the instrumented body** are those of the source, redirected. -/
theorem gotosOf_instrumentBlock (ss : List Stmt) (n : ℤ) :
    gotosOf (instrumentBlock (preReturn a f) redirect n ss) =
      (gotosOf ss).map (redirectGoto redirect) := by
  induction ss using blockInduct generalizing n with
  | nil => rfl
  | cons s ss hs hss =>
      rw [← List.singleton_append, instrumentBlock_append, gotosOf_append, gotosOf_append,
        List.map_append, hs, hss]
  | goto g t =>
      cases hg : redirect g t <;>
        simp [instrumentBlock, Stmt.instrument, gotosOf, Stmt.gotos, redirectGoto, hg]
  | ret s e => simp [instrumentBlock, Stmt.instrument, gotosOf, Stmt.gotos, gotosOf_preReturn]
  | cond id b1 b2 ih1 ih2 =>
      simp [instrumentBlock, Stmt.instrument, gotosOf, Stmt.gotos, ih1, ih2]
  | switch id b ih => simp [instrumentBlock, Stmt.instrument, gotosOf, Stmt.gotos, ih]
  | loop l b ih =>
      simp [instrumentBlock, Stmt.instrument, gotosOf, Stmt.gotos, gotosOf_addLoopBody, ih]
  | block id b ih => simp [instrumentBlock, Stmt.instrument, gotosOf, Stmt.gotos, ih]
  | _ => rfl

/-- **The returns of the instrumented body** are those of the source. -/
lemma returnsOf_instrumentBlock (ss : List Stmt) (n : ℤ) :
    returnsOf (instrumentBlock (preReturn a f) redirect n ss) = returnsOf ss := by
  induction ss using blockInduct generalizing n with
  | nil => rfl
  | cons s ss hs hss =>
      rw [← List.singleton_append, instrumentBlock_append, returnsOf_append, returnsOf_append,
        hs, hss]
  | goto g t =>
      cases hg : redirect g t <;>
        simp [instrumentBlock, Stmt.instrument, returnsOf, Stmt.returns, hg]
  | ret s e => simp [instrumentBlock, Stmt.instrument, returnsOf, Stmt.returns, returnsOf_preReturn]
  | cond id b1 b2 ih1 ih2 =>
      simp [instrumentBlock, Stmt.instrument, returnsOf, Stmt.returns, ih1, ih2]
  | switch id b ih => simp [instrumentBlock, Stmt.instrument, returnsOf, Stmt.returns, ih]
  | loop l b ih =>
      simp [instrumentBlock, Stmt.instrument, returnsOf, Stmt.returns, returnsOf_addLoopBody, ih]
  | block id b ih => simp [instrumentBlock, Stmt.instrument, returnsOf, Stmt.returns, ih]
  | _ => rfl

end

/-! ## Successors -/

/-- Control enters a block at one of its records, or goes past an empty one. -/
lemma entry_eq_some {ss : List Stmt} {next : Option Sid} {y : Sid} (h : entry ss next = some y) :
    y ∈ idsOf ss ∨ next = some y := by
  cases ss with
  | nil => exact Or.inr h
  | cons s ss =>
      cases h
      exact Or.inl (by rw [idsOf, List.mem_append]; exact Or.inl s.id_mem_ids)

/-- The case labels of a `Switch` stand in its block. -/
lemma findCaseLabeledStmts_subset (labels : Sid → List Label) (ss : List Stmt) :
    findCaseLabeledStmts labels ss ⊆ idsOf ss := by
  induction ss using blockInduct with
  | nil => simp [findCaseLabeledStmts]
  | cons s ss hs hss =>
      rw [idsOf_cons]
      simp only [findCaseLabeledStmts, List.append_nil] at hs ⊢
      exact List.append_subset.mpr ⟨List.Subset.trans hs (List.subset_append_left _ _),
        List.Subset.trans hss (List.subset_append_right _ _)⟩
  | cond id b1 b2 ih1 ih2 =>
      simp only [findCaseLabeledStmts, Stmt.caseLabeled, idsOf, Stmt.ids]
      split_ifs <;> grind
  | loop id b ih =>
      simp only [findCaseLabeledStmts, Stmt.caseLabeled, idsOf, Stmt.ids]
      split_ifs <;> grind
  | block id b ih =>
      simp only [findCaseLabeledStmts, Stmt.caseLabeled, idsOf, Stmt.ids]
      split_ifs <;> grind
  | _ =>
      simp only [findCaseLabeledStmts, Stmt.caseLabeled, idsOf, Stmt.ids]
      split_ifs <;> simp

/-- Control goes to one of these records, along one of these `Goto`s, or where the context says. -/
def LeadsTo (ids : List Sid) (gotos : List (Sid × Sid)) (c : Ctx) (y : Sid) : Prop :=
  y ∈ ids ∨ (∃ g, (g, y) ∈ gotos) ∨ c.next = some y ∨ c.brk = some y ∨ c.cont = some y

section

variable {ids ids' : List Sid} {gotos gotos' : List (Sid × Sid)} {c c' : Ctx} {y : Sid}

lemma leadsTo_of_next (h : c.next = some y) : LeadsTo ids gotos c y := Or.inr (Or.inr (Or.inl h))

lemma leadsTo_of_brk (h : c.brk = some y) : LeadsTo ids gotos c y :=
  Or.inr (Or.inr (Or.inr (Or.inl h)))

lemma leadsTo_of_cont (h : c.cont = some y) : LeadsTo ids gotos c y :=
  Or.inr (Or.inr (Or.inr (Or.inr h)))

/-- Control that enters a block inside stays in the outer one. -/
lemma leadsTo_of_entry {ss : List Stmt} (h : entry ss c.next = some y) (hids : idsOf ss ⊆ ids) :
    LeadsTo ids gotos c y := by
  rcases entry_eq_some h with h | h
  · exact Or.inl (hids h)
  · exact leadsTo_of_next h

/-- From a block inside another one control goes on in the context of the outer one. -/
lemma LeadsTo.nested (h : LeadsTo ids gotos c y) (hids : ids ⊆ ids') (hgotos : gotos ⊆ gotos')
    (hnext : c.next = some y → LeadsTo ids' gotos' c' y)
    (hbrk : c.brk = some y → LeadsTo ids' gotos' c' y)
    (hcont : c.cont = some y → LeadsTo ids' gotos' c' y) : LeadsTo ids' gotos' c' y := by
  rcases h with h | ⟨g, h⟩ | h | h | h
  · exact Or.inl (hids h)
  · exact Or.inr (Or.inl ⟨g, hgotos h⟩)
  · exact hnext h
  · exact hbrk h
  · exact hcont h

end

/-- **Where control goes** from a record of a block. -/
theorem mem_succs {labels : Sid → List Label} {ss : List Stmt} {c : Ctx} {n : Node} {y : Sid}
    (hn : n ∈ cfgBlock c ss) (hy : y ∈ n.succs labels) :
    LeadsTo (idsOf ss) (gotosOf ss) c y := by
  induction ss using blockInduct generalizing c with
  | nil => exact absurd hn List.not_mem_nil
  | cons s ss hs hss =>
      rw [idsOf_cons, gotosOf_cons]
      rw [cfgBlock_cons, List.mem_append] at hn
      rcases hn with hn | hn
      · exact (hs hn).nested (List.subset_append_left _ _) (List.subset_append_left _ _)
          (leadsTo_of_entry · (List.subset_append_right _ _)) (leadsTo_of_brk ·) (leadsTo_of_cont ·)
      · exact (hss hn).nested (List.subset_append_right _ _) (List.subset_append_right _ _)
          leadsTo_of_next leadsTo_of_brk leadsTo_of_cont
  | instr id i =>
      obtain rfl := List.mem_singleton.mp hn
      exact leadsTo_of_next (next_of_mem_succs hy)
  | ret id e =>
      obtain rfl := List.mem_singleton.mp hn
      exact absurd hy List.not_mem_nil
  | goto id t =>
      obtain rfl := List.mem_singleton.mp hn
      obtain rfl := List.mem_singleton.mp hy
      exact Or.inr (Or.inl ⟨id, List.mem_singleton_self _⟩)
  | brk id =>
      obtain rfl := List.mem_singleton.mp hn
      exact leadsTo_of_brk (Option.mem_toList.mp hy)
  | cont id =>
      obtain rfl := List.mem_singleton.mp hn
      exact leadsTo_of_cont (Option.mem_toList.mp hy)
  | cond id b1 b2 ih1 ih2 =>
      have hids1 : idsOf b1 ⊆ idsOf [.cond id b1 b2] := by simp [idsOf, Stmt.ids]
      have hids2 : idsOf b2 ⊆ idsOf [.cond id b1 b2] := by
        intro x hx
        simp [idsOf, Stmt.ids, hx]
      rw [cfgBlock_singleton, cfgStmt, List.mem_cons, List.mem_append] at hn
      rcases hn with rfl | hn | hn
      · rcases List.mem_append.mp hy with hy | hy
        · exact leadsTo_of_entry (Option.mem_toList.mp hy) hids2
        · exact leadsTo_of_entry (Option.mem_toList.mp hy) hids1
      · exact (ih1 hn).nested hids1 (by simp [gotosOf, Stmt.gotos]) leadsTo_of_next leadsTo_of_brk
          leadsTo_of_cont
      · exact (ih2 hn).nested hids2 (by simp [gotosOf, Stmt.gotos]) leadsTo_of_next leadsTo_of_brk
          leadsTo_of_cont
  | switch id b ih =>
      have hids : idsOf b ⊆ idsOf [.switch id b] := by simp [idsOf, Stmt.ids]
      rw [cfgBlock_singleton, cfgStmt, List.mem_cons] at hn
      rcases hn with rfl | hn
      · rcases List.mem_append.mp hy with hy | hy
        · exact Or.inl (hids (findCaseLabeledStmts_subset labels b hy))
        · split_ifs at hy
          · exact absurd hy List.not_mem_nil
          · exact leadsTo_of_next (Option.mem_toList.mp hy)
      · -- a `Break` goes where the `Switch` goes
        exact (ih hn).nested hids (by simp [gotosOf, Stmt.gotos]) (leadsTo_of_next ·)
          (leadsTo_of_next ·) (leadsTo_of_cont ·)
  | loop id b ih =>
      have hids : idsOf b ⊆ idsOf [.loop id b] := by simp [idsOf, Stmt.ids]
      have hid : LeadsTo (idsOf [.loop id b]) (gotosOf [.loop id b]) c id :=
        Or.inl (by simp [idsOf, Stmt.ids])
      rw [cfgBlock_singleton, cfgStmt, List.mem_cons] at hn
      rcases hn with rfl | hn
      · rcases entry_eq_some (Option.mem_toList.mp hy) with hy | hy
        · exact Or.inl (hids hy)
        · rwa [← Option.some.inj hy]
      · -- the end of the body and a `Continue` go to the loop itself
        exact (ih hn).nested hids (by simp [gotosOf, Stmt.gotos])
          (fun h => by rwa [← Option.some.inj h]) leadsTo_of_next
          (fun h => by rwa [← Option.some.inj h])
  | block id b ih =>
      have hids : idsOf b ⊆ idsOf [.block id b] := by simp [idsOf, Stmt.ids]
      rw [cfgBlock_singleton, cfgStmt, List.mem_cons] at hn
      rcases hn with rfl | hn
      · exact leadsTo_of_entry (Option.mem_toList.mp hy) hids
      · exact (ih hn).nested hids (by simp [gotosOf, Stmt.gotos]) leadsTo_of_next leadsTo_of_brk
          leadsTo_of_cont

end SymDrive.Cil
