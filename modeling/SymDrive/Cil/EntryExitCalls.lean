import SymDrive.Cil.Redirect

/-!
# The prefn and postfn calls on every path

A function in one-return form with a pair of `prefn` and `postfn`.  Its rewritten body is the
`prefn` call with the bypass branch, the instrumented statements in front of the return (`region`
below), the calls in front of the return, and the return.

Control enters the region through the branch only and leaves it only to the `postfn` call
(`edge_region`): `next` is that call, and a `Goto` to the return has been redirected to it.  So a
path to a return passes one `prefn` call, at its start, and one `postfn` call, at its end.
-/

namespace SymDrive.Cil

/-- The call at a record. -/
def Stmt.call : Stmt → Option Call
  | .instr _ (.call c) => some c
  | _ => none

/-- Whether a call is one of the two that open and close a path. -/
def Call.isPrepostfn : Call → Bool
  | .prefn | .postfn _ => true
  | _ => false

namespace Body

/-- The call at a record of the body, if there is one. -/
def callAt (b : Body) (x : Sid) : Option Call := (b.nodeAt x).bind fun n => n.1.call

/-- On the path `prefn` is called once, before everything else, and `postfn` once, with at most the
driver macro between it and the return. -/
def Bracketed (b : Body) (path : List Sid) : Prop :=
  ∃ x mid y macros z, path = x :: mid ++ y :: macros ++ [z] ∧
    b.callAt x = some .prefn ∧
    (∀ x ∈ mid, ∀ c, b.callAt x = some c → c.isPrepostfn = false) ∧
    (∃ retvalValid, b.callAt y = some (.postfn retvalValid)) ∧
    macros.length ≤ 1 ∧ (∀ x ∈ macros, b.callAt x = some .drivermacroCall) ∧
    z ∈ returnsOf b.stmts

end Body

/-! ## The calls in the region -/

section

variable {a : PassArgs} {f : Fundec} {redirect : Sid → Sid → Option Sid}

/-- In the instrumented statements the pass calls neither `prefn` nor `postfn` unless a `Return` is
among them. -/
lemma call_of_mem_records {ss : List Stmt} (hcode : ∀ id c, .instr id (.call c) ∉ recordsOf ss)
    (hret : returnsOf ss = []) {n : ℤ} {s : Stmt} {c : Call}
    (hs : s ∈ recordsOf (instrumentBlock (preReturn a f) redirect n ss)) (hc : s.call = some c) :
    c.isPrepostfn = false := by
  induction ss using blockInduct generalizing n with
  | nil => simp [instrumentBlock, recordsOf] at hs
  | cons s' ss hs' hss =>
      rw [← List.singleton_append, instrumentBlock_append, recordsOf_append, List.mem_append] at hs
      rw [← List.singleton_append, returnsOf_append, List.append_eq_nil_iff] at hret
      rcases hs with hs | hs
      · exact hs'
          (fun id c h => hcode id c (by rw [recordsOf_cons]; exact List.mem_append_left _ h))
          hret.1 hs
      · exact hss
          (fun id c h => hcode id c (by rw [recordsOf_cons]; exact List.mem_append_right _ h))
          hret.2 hs
  | instr id i =>
      cases i with
      | code fallsThrough =>
          simp only [instrumentBlock, Stmt.instrument, List.append_nil, recordsOf, Stmt.records,
            List.mem_singleton] at hs
          rw [hs] at hc
          cases hc
      | call c' => exact absurd (by simp [recordsOf, Stmt.records]) (hcode id c')
  | ret id e => simp [returnsOf, Stmt.returns] at hret
  | goto g t =>
      simp only [instrumentBlock, Stmt.instrument] at hs
      split at hs <;>
      · simp only [List.append_nil, recordsOf, Stmt.records, List.mem_singleton] at hs
        rw [hs] at hc
        cases hc
  | brk id =>
      rw [show s = .brk id by simpa [instrumentBlock, Stmt.instrument, recordsOf, Stmt.records]
        using hs] at hc
      cases hc
  | cont id =>
      rw [show s = .cont id by simpa [instrumentBlock, Stmt.instrument, recordsOf, Stmt.records]
        using hs] at hc
      cases hc
  | cond id b1 b2 ih1 ih2 =>
      simp only [instrumentBlock, Stmt.instrument, List.append_nil, recordsOf, Stmt.records,
        List.mem_cons, List.mem_append] at hs
      simp only [returnsOf, Stmt.returns, List.append_nil, List.append_eq_nil_iff] at hret
      simp only [recordsOf, Stmt.records, List.append_nil, List.mem_cons, List.mem_append,
        not_or] at hcode
      rcases hs with rfl | hs | hs
      · cases hc
      · exact ih1 (fun id c => (hcode id c).2.1) hret.1 hs
      · exact ih2 (fun id c => (hcode id c).2.2) hret.2 hs
  | switch id b ih =>
      simp only [instrumentBlock, Stmt.instrument, List.append_nil, recordsOf, Stmt.records,
        List.mem_cons] at hs
      simp only [returnsOf, Stmt.returns, List.append_nil] at hret
      simp only [recordsOf, Stmt.records, List.append_nil, List.mem_cons, not_or] at hcode
      rcases hs with rfl | hs
      · cases hc
      · exact ih (fun id c => (hcode id c).2) hret hs
  | loop l b ih =>
      simp only [instrumentBlock, Stmt.instrument, List.append_nil, recordsOf, Stmt.records,
        List.mem_cons, List.mem_append, mem_recordsOf_addLoopBody, List.not_mem_nil, or_false,
        List.cons_append, List.nil_append] at hs
      simp only [returnsOf, Stmt.returns, List.append_nil] at hret
      simp only [recordsOf, Stmt.records, List.append_nil, List.mem_cons, not_or] at hcode
      rcases hs with rfl | rfl | (hs | rfl) | rfl
      · cases hc
        rfl
      · cases hc
      · exact ih (fun id c => (hcode id c).2) hret hs
      · cases hc
        rfl
      · cases hc
        rfl
  | block id b ih =>
      simp only [instrumentBlock, Stmt.instrument, List.append_nil, recordsOf, Stmt.records,
        List.mem_cons] at hs
      simp only [returnsOf, Stmt.returns, List.append_nil] at hret
      simp only [recordsOf, Stmt.records, List.append_nil, List.mem_cons, not_or] at hcode
      rcases hs with rfl | hs
      · cases hc
      · exact ih (fun id c => (hcode id c).2) hret hs

end

/-! ## Paths through the four parts -/

/-- A body in four parts, with what holds of the region. -/
structure InParts (b : Body) (region macros : List Stmt) (k : ℕ) (e exp : Option RetExp)
    (v : Bool) : Prop where
  stmts : b.stmts = [.instr .prefn (.call .prefn),
      .cond .bypassIf [.instr .bypassPostfn (.call (.postfn false)), .ret .bypassReturn e] []] ++
    (region ++ (.instr (.postfn (.source k)) (.call (.postfn v)) ::
      (macros ++ [.ret (.source k) exp])))
  macros : macros = [] ∨ macros = [.instr (.drivermacroCall (.source k)) (.call .drivermacroCall)]
  nodup : (idsOf b.stmts).Nodup
  source : ∀ x ∈ idsOf region, ∃ j, x.origin = .source j
  calls : ∀ s ∈ recordsOf region, ∀ c, s.call = some c → c.isPrepostfn = false
  returns : returnsOf region = []
  edges : ∀ x ∈ idsOf region, ∀ y ∈ idsOf b.stmts, b.Edge x y →
    y ∈ idsOf region ∨ y = .postfn (.source k)

namespace InParts

variable {b : Body} {region macros : List Stmt} {k : ℕ} {e exp : Option RetExp} {v : Bool}
  (h : InParts b region macros k e exp v)

include h

/-- The `prefn` call comes first and goes on at the branch. -/
lemma prefn_mem : (.instr .prefn (.call .prefn), { Ctx.top with next := some .bypassIf }) ∈
    b.nodes := by
  rw [Body.nodes, h.stmts]
  exact head_mem_cfgBlock _ _ _

/-- The nodes of the bypass branch. -/
lemma branch_mem {n : Node} (hn : n ∈ cfgStmt
    { Ctx.top with next := entry region (some (.postfn (.source k))) }
    (.cond .bypassIf [.instr .bypassPostfn (.call (.postfn false)), .ret .bypassReturn e] [])) :
    n ∈ b.nodes := by
  rw [Body.nodes, h.stmts]
  refine mem_cfgBlock_left (mem_cfgBlock_right [_] ?_)
  rw [entry_append, cfgBlock_singleton]
  exact hn

/-- The `postfn` call stands between the region and what is in front of the return. -/
lemma postfn_mem : (.instr (.postfn (.source k)) (.call (.postfn v)),
    { Ctx.top with next := entry macros (some (.source k)) }) ∈ b.nodes := by
  rw [Body.nodes, h.stmts]
  have hn := head_mem_cfgBlock Ctx.top (.instr (.postfn (.source k)) (.call (.postfn v)))
    (macros ++ [.ret (.source k) exp])
  rw [entry_append] at hn
  exact mem_cfgBlock_right _ (mem_cfgBlock_right _ hn)

/-- The return comes last and goes nowhere. -/
lemma ret_mem : (.ret (.source k) exp, Ctx.top) ∈ b.nodes := by
  rw [Body.nodes, h.stmts, ← List.singleton_append (l := macros ++ _)]
  refine mem_cfgBlock_right _
    (mem_cfgBlock_right _ (mem_cfgBlock_right _ (mem_cfgBlock_right _ ?_)))
  exact head_mem_cfgBlock _ _ _

/-- The driver macro, if there is one, goes on at the return. -/
lemma macro_mem
    (hmacros : macros = [.instr (.drivermacroCall (.source k)) (.call .drivermacroCall)]) :
    (.instr (.drivermacroCall (.source k)) (.call .drivermacroCall),
      { Ctx.top with next := some (.source k) }) ∈ b.nodes := by
  rw [Body.nodes, h.stmts, hmacros, ← List.singleton_append (l := _ ++ _)]
  refine mem_cfgBlock_right _ (mem_cfgBlock_right _ (mem_cfgBlock_right _ ?_))
  exact head_mem_cfgBlock _ _ _

/-- The call at a node is that of its statement. -/
lemma callAt_of_mem {n : Node} (hn : n ∈ b.nodes) : b.callAt n.1.id = n.1.call := by
  rw [Body.callAt, nodeAt_eq_some h.nodup hn]
  rfl

/-- No record of the region opens or closes the path. -/
lemma callAt_region {x : Sid} (hx : x ∈ idsOf region) {c : Call} (hc : b.callAt x = some c) :
    c.isPrepostfn = false := by
  rw [← map_id_recordsOf] at hx
  obtain ⟨s, hs, rfl⟩ := List.mem_map.mp hx
  have hrecords : s ∈ recordsOf b.stmts := by
    rw [h.stmts, recordsOf_append, recordsOf_append]
    exact List.mem_append_right _ (List.mem_append_left _ hs)
  rw [← map_fst_cfgBlock b.stmts Ctx.top] at hrecords
  obtain ⟨n, hn, rfl⟩ := List.mem_map.mp hrecords
  rw [h.callAt_of_mem hn] at hc
  exact h.calls n.1 hs c hc

/-- The body returns in the bypass branch and at its end. -/
lemma mem_returns {x : Sid} : x ∈ returnsOf b.stmts ↔ x = .bypassReturn ∨ x = .source k := by
  rw [h.stmts, returnsOf_append, returnsOf_append, h.returns]
  rcases h.macros with hmacros | hmacros <;>
    simp [hmacros, returnsOf, Stmt.returns]

/-- The returns are outside the region. -/
lemma region_ne {x : Sid} (hx : x ∈ idsOf region) : x ≠ .bypassReturn ∧ x ≠ .source k := by
  constructor
  · rintro rfl
    obtain ⟨j, hj⟩ := h.source _ hx
    cases hj
  · rintro rfl
    have hnodup := h.nodup
    rw [h.stmts, idsOf_append, idsOf_append] at hnodup
    have hdisjoint := (List.nodup_append'.mp (List.nodup_append'.mp hnodup).2.1).2.2
    exact hdisjoint hx (by simp [idsOf, Stmt.ids])

/-- A path that has to end at a return goes on from every other statement. -/
lemma path_goes_on {x : Sid} {path : List Sid}
    (hlast : ∀ y, (x :: path).getLast? = some y → y ∈ returnsOf b.stmts)
    (hx : x ≠ .bypassReturn ∧ x ≠ .source k) :
    ∃ y rest, path = y :: rest := by
  cases path with
  | nil =>
      rcases h.mem_returns.mp (hlast x rfl) with hret | hret
      · exact absurd hret hx.1
      · exact absurd hret hx.2
  | cons y rest => exact ⟨y, rest, rfl⟩

/-- Nothing follows a statement without successors. -/
lemma path_ends {n : Node} (hn : n ∈ b.nodes) (hsuccs : n.succs b.labels = [])
    {path : List Sid} (hchain : (n.1.id :: path).IsChain b.Edge) : path = [] := by
  cases path with
  | nil => rfl
  | cons y rest =>
      have hy := (edge_iff h.nodup hn y).mp (List.isChain_cons_cons.mp hchain).1
      rw [hsuccs] at hy
      cases hy

/-- From the region on: a return is reached through the `postfn` call. -/
lemma shape_from_region {x : Sid} {path : List Sid}
    (hx : x ∈ idsOf region ∨ x = .postfn (.source k))
    (hchain : (x :: path).IsChain b.Edge) (hinside : ∀ y ∈ x :: path, y ∈ idsOf b.stmts)
    (hlast : ∀ y, (x :: path).getLast? = some y → y ∈ returnsOf b.stmts) :
    ∃ mid ms, x :: path = mid ++ .postfn (.source k) :: ms ++ [.source k] ∧
      (∀ y ∈ mid, y ∈ idsOf region) ∧ ms.length ≤ 1 ∧
      ∀ y ∈ ms, b.callAt y = some .drivermacroCall := by
  induction path generalizing x with
  | nil =>
      have hret := h.mem_returns.mp (hlast x rfl)
      rcases hx with hx | rfl
      · rcases hret with rfl | rfl
        · exact absurd rfl (h.region_ne hx).1
        · exact absurd rfl (h.region_ne hx).2
      · rcases hret with hret | hret <;> cases hret
  | cons y path ih =>
      obtain ⟨hedge, hchain'⟩ := List.isChain_cons_cons.mp hchain
      have hinside' : ∀ z ∈ y :: path, z ∈ idsOf b.stmts := fun z hz => hinside z (by simp [hz])
      have hlast' : ∀ z, (y :: path).getLast? = some z → z ∈ returnsOf b.stmts :=
        fun z hz => hlast z (by rw [List.getLast?_cons_cons]; exact hz)
      rcases hx with hx | rfl
      · obtain ⟨mid, ms, hpath, hmid, hms⟩ := ih (h.edges x hx y (hinside' y (by simp)) hedge)
          hchain' hinside' hlast'
        refine ⟨x :: mid, ms, by rw [hpath]; rfl, ?_, hms⟩
        simpa [hx] using hmid
      · have hy := next_of_mem_succs ((edge_iff h.nodup h.postfn_mem y).mp hedge)
        rcases h.macros with hmacros | hmacros
        · rw [hmacros] at hy
          cases hy
          rw [h.path_ends h.ret_mem rfl hchain']
          exact ⟨[], [], rfl, by simp, by simp, by simp⟩
        · rw [hmacros] at hy
          cases hy
          obtain ⟨z, path, rfl⟩ := h.path_goes_on hlast' ⟨Sid.noConfusion, Sid.noConfusion⟩
          obtain ⟨hedge', hchain''⟩ := List.isChain_cons_cons.mp hchain'
          have hz := next_of_mem_succs ((edge_iff h.nodup (h.macro_mem hmacros) z).mp hedge')
          cases hz
          rw [h.path_ends h.ret_mem rfl hchain'']
          refine ⟨[], [.drivermacroCall (.source k)], rfl, by simp, by simp, ?_⟩
          intro y hy
          rw [List.mem_singleton.mp hy]
          exact h.callAt_of_mem (h.macro_mem hmacros)

/-- **Every path to a return is bracketed.** -/
theorem bracketed {path : List Sid} (hpath : b.IsPath path)
    (hlast : ∀ y, path.getLast? = some y → y ∈ returnsOf b.stmts) : b.Bracketed path := by
  obtain ⟨hstarts, hchain, hinside⟩ := hpath
  have hprefn : b.callAt .prefn = some .prefn := h.callAt_of_mem h.prefn_mem
  have hpostfn : b.callAt (.postfn (.source k)) = some (.postfn v) := h.callAt_of_mem h.postfn_mem
  have hbypassIf := h.branch_mem List.mem_cons_self
  have hbypassPostfn := h.branch_mem (List.mem_cons_of_mem _ List.mem_cons_self)
  have hbypassReturn := h.branch_mem
    (List.mem_cons_of_mem _ (List.mem_cons_of_mem _ List.mem_cons_self))
  have hcond : b.callAt .bypassIf = none := h.callAt_of_mem hbypassIf
  have hmid : ∀ x ∈ [Sid.bypassIf], ∀ c, b.callAt x = some c → c.isPrepostfn = false := by
    intro x hx c hc
    rw [List.mem_singleton.mp hx, hcond] at hc
    cases hc
  rw [h.stmts] at hstarts
  cases path with
  | nil => cases hstarts
  | cons x path =>
      cases hstarts
      obtain ⟨y, path, rfl⟩ := h.path_goes_on hlast ⟨Sid.noConfusion, Sid.noConfusion⟩
      obtain ⟨hedge, hchain⟩ := List.isChain_cons_cons.mp hchain
      cases next_of_mem_succs ((edge_iff h.nodup h.prefn_mem y).mp hedge)
      have hlast : ∀ y, (Sid.bypassIf :: path).getLast? = some y → y ∈ returnsOf b.stmts :=
        fun y hy => hlast y (by rw [List.getLast?_cons_cons]; exact hy)
      obtain ⟨z, path, rfl⟩ := h.path_goes_on hlast ⟨Sid.noConfusion, Sid.noConfusion⟩
      obtain ⟨hedge, hchain⟩ := List.isChain_cons_cons.mp hchain
      have hlast : ∀ y, (z :: path).getLast? = some y → y ∈ returnsOf b.stmts :=
        fun y hy => hlast y (by rw [List.getLast?_cons_cons]; exact hy)
      have hz := (edge_iff h.nodup hbypassIf z).mp hedge
      simp only [Node.succs, List.mem_append, Option.mem_toList, entry, Option.some.injEq,
        Stmt.id] at hz
      rcases hz with hz | rfl
      · -- The body is run.
        obtain ⟨mid, ms, hshape, hregion, hms⟩ := h.shape_from_region
          ((entry_eq_some hz).imp_right fun h => (Option.some.inj h).symm) hchain
          (fun y hy => hinside y (by simp [List.mem_cons.mp hy])) hlast
        refine ⟨.prefn, .bypassIf :: mid, .postfn (.source k), ms, .source k,
          by rw [hshape]; simp, hprefn, ?_, ⟨v, hpostfn⟩, hms.1, hms.2,
          h.mem_returns.mpr (Or.inr rfl)⟩
        intro x hx c hc
        rcases List.mem_cons.mp hx with rfl | hx
        · exact hmid _ (by simp) c hc
        · exact h.callAt_region (hregion x hx) hc
      · -- The body is bypassed.
        obtain ⟨z, path, rfl⟩ := h.path_goes_on hlast ⟨Sid.noConfusion, Sid.noConfusion⟩
        obtain ⟨hedge, hchain⟩ := List.isChain_cons_cons.mp hchain
        cases next_of_mem_succs ((edge_iff h.nodup hbypassPostfn z).mp hedge)
        rw [h.path_ends hbypassReturn rfl hchain]
        exact ⟨.prefn, [.bypassIf], .bypassPostfn, [], .bypassReturn, rfl, hprefn, hmid,
          ⟨false, h.callAt_of_mem hbypassPostfn⟩, by simp, by simp,
          h.mem_returns.mpr (Or.inl rfl)⟩

end InParts

/-! ## The rewritten body -/

section

variable {a : PassArgs} {f : Fundec} {hits : Sid → Bool} {p : PassState} {e : Option RetExp}

/-- The statements in front of the return. -/
def regionOf (a : PassArgs) (f : Fundec) (hits : Sid → Bool) (p : PassState) (init : List Stmt) :
    List Stmt :=
  instrumentBlock (preReturn a f) (redirectOf hits (afterPhaseOne a f p)) p.currentId init

/-- The parts of a rewritten body, in order. -/
lemma rewritten_stmts (hpair : f.vname ∈ a.prepostfnFuncs) {init : List Stmt} {r : Sid}
    {exp : Option RetExp} (hstmts : f.sbody.stmts = init ++ [.ret r exp]) :
    (rewritten a f hits p e).stmts = [.instr .prefn (.call .prefn),
        .cond .bypassIf [.instr .bypassPostfn (.call (.postfn false)), .ret .bypassReturn e] []] ++
      (regionOf a f hits p init ++ (.instr (.postfn r)
        (.call (.postfn (exp.filter (canInstrumentFn a f)).isSome)) ::
          (genDrivermacroCall a f r ++ [.ret r exp]))) := by
  rw [rewritten]
  dsimp only
  rw [prefnStmts, if_pos hpair, hstmts, instrumentBlock_append, instrumentBlock, instrumentBlock,
    Stmt.instrument, preReturn, if_pos hpair, regionOf]
  simp

/-- Control leaves the region to the `postfn` call. -/
lemma edge_region (hwf : f.sbody.WellFormed) (hpair : f.vname ∈ a.prepostfnFuncs)
    {init : List Stmt} {r : Sid} {exp : Option RetExp}
    (hstmts : f.sbody.stmts = init ++ [.ret r exp])
    (hnodup : (idsOf (rewritten a f hits p e).stmts).Nodup) {x y : Sid}
    (hx : x ∈ idsOf (regionOf a f hits p init))
    (hy : y ∈ idsOf (rewritten a f hits p e).stmts) (hedge : (rewritten a f hits p e).Edge x y) :
    y ∈ idsOf (regionOf a f hits p init) ∨ y = .postfn r := by
  have hstmts' := @rewritten_stmts a f hits p e hpair _ _ _ hstmts
  obtain ⟨k, rfl⟩ := hwf.source r (by rw [hstmts]; simp [idsOf, Stmt.ids])
  -- The node is one of the region, whose `next` is the call.
  have hnode : ∃ n ∈ cfgBlock { Ctx.top with next := some (.postfn (.source k)) }
      (regionOf a f hits p init), n.1.id = x := by
    rw [← map_id_recordsOf, ← map_fst_cfgBlock, List.map_map] at hx
    exact List.mem_map.mp hx
  obtain ⟨n, hn, rfl⟩ := hnode
  have hn' : n ∈ (rewritten a f hits p e).nodes := by
    rw [Body.nodes, hstmts']
    exact mem_cfgBlock_right _ (mem_cfgBlock_left hn)
  rw [edge_iff hnodup hn'] at hedge
  -- A record of the body that is made for a source statement other than the return.
  have hregion : ∀ l, l ≠ .source k → (y = l ∨ y = .loopBefore l) → (∃ j, l = .source j) →
      y ∈ idsOf (regionOf a f hits p init) := by
    rintro l hl hyl ⟨j, rfl⟩
    rw [hstmts', idsOf_append, idsOf_append, List.mem_append, List.mem_append] at hy
    rcases hy with hy | hy | hy
    · rcases hyl with rfl | rfl <;> simp [idsOf, Stmt.ids] at hy
    · exact hy
    · rw [genDrivermacroCall] at hy
      rcases hyl with rfl | rfl <;> split_ifs at hy <;> simp [idsOf, Stmt.ids] at hy <;>
        exact absurd (congrArg Sid.source hy) hl
  rcases mem_succs hn hedge with hy | ⟨g, hgoto⟩ | hnext | hbrk | hcont
  · exact Or.inl hy
  · rw [regionOf, gotosOf_instrumentBlock, List.mem_map] at hgoto
    obtain ⟨⟨g', t⟩, hgoto', hredirect⟩ := hgoto
    have hpre : idsOf (preReturn a f (.source k) exp) =
        .postfn (.source k) :: idsOf (genDrivermacroCall a f (.source k)) := by
      rw [preReturn, if_pos hpair]
      rfl
    have hmem : (g', t) ∈ gotosOf f.sbody.stmts := by
      rw [hstmts, gotosOf_append]
      exact List.mem_append_left _ hgoto'
    have hsource := hwf.source t (hwf.targets _ hmem).1
    rw [redirectGoto, redirectOf_eq hwf hstmts, hpre] at hredirect
    dsimp only at hredirect
    by_cases ht : t = .source k
    · rw [if_pos ht] at hredirect
      cases hredirect
      exact Or.inr rfl
    · rw [if_neg ht] at hredirect
      left
      split_ifs at hredirect
      · cases hredirect
        exact hregion t ht (Or.inr rfl) hsource
      · cases hredirect
        exact hregion y ht (Or.inl rfl) hsource
  · exact Or.inr (Option.some.inj hnext).symm
  · cases hbrk
  · cases hcont

/-- **A rewritten body has these parts**, and its region has the edges that it should. -/
lemma rewritten_inParts (hwf : f.sbody.WellFormed) (hpair : f.vname ∈ a.prepostfnFuncs)
    {init : List Stmt} {k : ℕ} {exp : Option RetExp}
    (hstmts : f.sbody.stmts = init ++ [.ret (.source k) exp]) (hret : returnsOf init = []) :
    InParts (rewritten a f hits p e) (regionOf a f hits p init)
      (genDrivermacroCall a f (.source k)) k e exp (exp.filter (canInstrumentFn a f)).isSome := by
  have hnodup : (idsOf (rewritten a f hits p e).stmts).Nodup :=
    rewritten_nodup hwf.source hwf.nodup e p.currentId
  have hsource : ∀ x ∈ idsOf init, ∃ j, x = .source j :=
    fun x hx => hwf.source x (by rw [hstmts, idsOf_append]; exact List.mem_append_left _ hx)
  refine ⟨rewritten_stmts hpair hstmts, ?_, hnodup, fun x hx => (origin_mem hsource hx).1, ?_, ?_,
    fun x hx y hy hedge => edge_region hwf hpair hstmts hnodup hx hy hedge⟩
  · rw [genDrivermacroCall]
    split_ifs
    · exact Or.inr rfl
    · exact Or.inl rfl
  · intro s hs c hc
    refine call_of_mem_records (fun id c h => hwf.code id c ?_) hret hs hc
    rw [hstmts, recordsOf_append]
    exact List.mem_append_left _ h
  · rw [regionOf, returnsOf_instrumentBlock]
    exact hret

end

/-- **Entry and exit**: on every path of an instrumented one-return function from its entry to a
return, `prefn` is called once, first, and `postfn` once, last. -/
theorem prefn_and_postfn_on_every_path {a : PassArgs} {hits : Sid → Bool} {file : List Fundec}
    {bs : List Body} (h : process a hits file = .ok bs) :
    List.Forall₂ (fun f b => f.sbody.WellFormed → f.sbody.OneReturn →
      f.vname ∈ a.prepostfnFuncs → ∀ path z, b.IsPath path → path.getLast? = some z →
      z ∈ returnsOf b.stmts → b.Bracketed path) file bs := by
  refine process_forall (fun f p e _ _ hwf hone hpair path z hpath hlast hz => ?_) h
  obtain ⟨init, r, exp, hstmts, hret⟩ := hone
  obtain ⟨k, rfl⟩ := hwf.source r (by rw [hstmts]; simp [idsOf, Stmt.ids])
  refine (rewritten_inParts hwf hpair hstmts hret).bracketed hpath fun y hy => ?_
  rw [hlast] at hy
  cases hy
  exact hz

/-- The function `tx` has a `prefn`, a `postfn` and a driver macro. -/
def txPairMacro : PassArgs where
  prepostfnFuncs := ["tx"]
  nonstandardRetvalFns := []
  drivermacroFns := ["tx"]

/-- `while (1) { if (c) goto out; } out: return;` -/
def earlyOut : Fundec where
  vname := "tx"
  returnsVoid := true
  sbody :=
    { stmts := [.loop (.source 0) [.cond (.source 1) [.goto (.source 2) (.source 3)] []],
        .ret (.source 3) none]
      labels := fun x => if x = .source 3 then [.label "out" true] else [] }

/-- The path that leaves the loop by the `goto`. -/
def earlyOutPath : List Sid :=
  [.prefn, .bypassIf, .loopBefore (.source 0), .source 0, .source 1, .newGoto (.source 2),
    .postfn (.source 3), .drivermacroCall (.source 3), .source 3]

/-- The `goto` to the return has been redirected to the `postfn` call. -/
theorem prefn_and_postfn_on_early_goto :
    ∃ b, process txPairMacro (fun _ => true) [earlyOut] = .ok [b] ∧ b.IsPath earlyOutPath ∧
      b.Bracketed earlyOutPath := by
  have hprocess : process txPairMacro (fun _ => true) [earlyOut] = .ok [_] :=
    process_singleton (e := none) rfl
  have hpath : Body.IsPath (rewritten txPairMacro earlyOut (fun _ => true) PassState.initial none)
      earlyOutPath := ⟨rfl, by decide, by decide⟩
  have hwf : earlyOut.sbody.WellFormed := by
    constructor
    · simp [earlyOut, idsOf, Stmt.ids]
    · simp [earlyOut, recordsOf, Stmt.records]
    · simp [earlyOut, idsOf, Stmt.ids]
    · simp [earlyOut, idsOf, Stmt.ids]
    · simp [earlyOut, gotosOf, Stmt.gotos, idsOf, Stmt.ids]
  have hone : earlyOut.sbody.OneReturn := ⟨[_], .source 3, none, rfl, rfl⟩
  refine ⟨_, hprocess, hpath, ?_⟩
  rcases prefn_and_postfn_on_every_path hprocess with _ | ⟨hbracketed, _⟩
  exact hbracketed hwf hone (by decide) _ (.source 3) hpath rfl (by decide)

end SymDrive.Cil
