import SymDrive.Cil.EntryExitCalls
import SymDrive.Cil.GeneratedPasses
import SymDrive.Cil.SplitDriver

/-!
# Threads in the instrumented driver

What a thread does in a driver that the passes have instrumented: it goes from record to record of a
function, through the bodies of the pairs and of the stubs, into the kernel and back from it.  What
the code computes is left open, so that a thread may go either way at a test, and the kernel may
call any function of the driver at any time.

* `Step` — the steps of a thread.
* `Holds` — which functions a thread has open.
* `Step.keeps` — a thread closes what it opened last.
* `call_stack_safe` — so no assertion about the call stack fires, in whatever order the threads take
  their steps, as long as the open functions fit.
-/

namespace SymDrive.Cil

open Checked Stacks

/-! ## Bodies -/

/-- Whether the function of a body is open at a record: from the branch behind its `prefn` call to
its `postfn` call. -/
inductive OpenAt (b : Body) : Sid → Bool → Prop
  | opened {region macros k e exp v x} : InParts b region macros k e exp v →
      x ∈ Sid.bypassIf :: .bypassPostfn :: .postfn (.source k) :: idsOf region → OpenAt b x true
  | closed {region macros k e exp v x} : InParts b region macros k e exp v →
      x ∈ Sid.prefn :: .bypassReturn :: .source k :: idsOf macros → OpenAt b x false
  | plain {x} : (∀ y c, b.callAt y = some c → c.isPrepostfn = false) → OpenAt b x false

section

variable {b : Body}

/-- Nothing is open where control enters a body. -/
lemma openAt_entry (h : (∃ region macros k e exp v, InParts b region macros k e exp v) ∨
      ∀ y c, b.callAt y = some c → c.isPrepostfn = false) {x : Sid}
    (hx : entry b.stmts none = some x) : OpenAt b x false := by
  rcases h with ⟨region, macros, k, e, exp, v, h⟩ | h
  · rw [h.stmts] at hx
    cases hx
    exact .closed h List.mem_cons_self
  · exact .plain h

namespace InParts

variable {region macros : List Stmt} {k : ℕ} {e exp : Option RetExp} {v : Bool}
  (h : InParts b region macros k e exp v) {x y : Sid}

include h

/-- The branch goes on at the region, or into the bypass. -/
lemma bypassIf_mem : (.cond .bypassIf [.instr .bypassPostfn (.call (.postfn false)),
    .ret .bypassReturn e] [], { Ctx.top with next := entry region (some (.postfn (.source k))) }) ∈
    b.nodes := h.branch_mem List.mem_cons_self

lemma bypassPostfn_mem : (.instr .bypassPostfn (.call (.postfn false)),
    { Ctx.top with next := some .bypassReturn }) ∈ b.nodes :=
  h.branch_mem (List.mem_cons_of_mem _ List.mem_cons_self)

lemma bypassReturn_mem : (.ret .bypassReturn e,
    { Ctx.top with next := entry region (some (.postfn (.source k))) }) ∈ b.nodes :=
  h.branch_mem (List.mem_cons_of_mem _ (List.mem_cons_of_mem _ List.mem_cons_self))

lemma callAt_prefn : b.callAt .prefn = some .prefn := h.callAt_of_mem h.prefn_mem

lemma callAt_bypassIf : b.callAt .bypassIf = none := h.callAt_of_mem h.bypassIf_mem

lemma callAt_bypassPostfn : b.callAt .bypassPostfn = some (.postfn false) :=
  h.callAt_of_mem h.bypassPostfn_mem

lemma callAt_bypassReturn : b.callAt .bypassReturn = none := h.callAt_of_mem h.bypassReturn_mem

lemma callAt_postfn : b.callAt (.postfn (.source k)) = some (.postfn v) :=
  h.callAt_of_mem h.postfn_mem

lemma callAt_ret : b.callAt (.source k) = none := h.callAt_of_mem h.ret_mem

/-- The driver macro is no `prefn` and no `postfn`. -/
lemma callAt_macro (hx : x ∈ idsOf macros) : b.callAt x = some .drivermacroCall := by
  rcases h.macros with hmacros | hmacros
  · rw [hmacros] at hx
    cases hx
  · rw [hmacros] at hx
    rw [List.mem_singleton.mp hx]
    exact h.callAt_of_mem (h.macro_mem hmacros)

/-- What is called at the records where the function is open. -/
lemma callAt_opened (hx : x ∈ Sid.bypassIf :: .bypassPostfn :: .postfn (.source k) :: idsOf region)
    {c : Call} (hc : b.callAt x = some c) :
    x = .bypassPostfn ∨ x = .postfn (.source k) ∨ c.isPrepostfn = false := by
  simp only [List.mem_cons] at hx
  rcases hx with rfl | rfl | rfl | hx
  · rw [h.callAt_bypassIf] at hc
    cases hc
  · exact Or.inl rfl
  · exact Or.inr (Or.inl rfl)
  · exact Or.inr (Or.inr (h.callAt_region hx hc))

/-- What is called at the other records. -/
lemma callAt_closed (hx : x ∈ Sid.prefn :: .bypassReturn :: .source k :: idsOf macros) {c : Call}
    (hc : b.callAt x = some c) : x = .prefn ∨ c = .drivermacroCall := by
  simp only [List.mem_cons] at hx
  rcases hx with rfl | rfl | rfl | hx
  · exact Or.inl rfl
  · rw [h.callAt_bypassReturn] at hc
    cases hc
  · rw [h.callAt_ret] at hc
    cases hc
  · rw [h.callAt_macro hx] at hc
    cases hc
    exact Or.inr rfl

/-- The function stays open until control gets to a `postfn` call. -/
lemma goes_opened (hx : x ∈ Sid.bypassIf :: .bypassPostfn :: .postfn (.source k) :: idsOf region)
    (hcall : ∀ c, b.callAt x = some c → c.isPrepostfn = false) (hy : y ∈ idsOf b.stmts)
    (hedge : b.Edge x y) :
    y ∈ Sid.bypassIf :: .bypassPostfn :: .postfn (.source k) :: idsOf region := by
  simp only [List.mem_cons] at hx ⊢
  rcases hx with rfl | rfl | rfl | hx
  · have hsuccs := (edge_iff h.nodup h.bypassIf_mem y).mp hedge
    simp only [Node.succs, List.mem_append, Option.mem_toList, entry, Option.some.injEq,
      Stmt.id] at hsuccs
    rcases hsuccs with hy | rfl
    · rcases entry_eq_some hy with hy | hy
      · exact Or.inr (Or.inr (Or.inr hy))
      · exact Or.inr (Or.inr (Or.inl (Option.some.inj hy).symm))
    · exact Or.inr (Or.inl rfl)
  · cases hcall _ h.callAt_bypassPostfn
  · cases hcall _ h.callAt_postfn
  · rcases h.edges x hx y hy hedge with hy | hy
    · exact Or.inr (Or.inr (Or.inr hy))
    · exact Or.inr (Or.inr (Or.inl hy))

/-- Behind the `postfn` call the function stays closed. -/
lemma goes_closed (hx : x ∈ Sid.prefn :: .bypassReturn :: .source k :: idsOf macros)
    (hcall : ∀ c, b.callAt x = some c → c.isPrepostfn = false) (hedge : b.Edge x y) :
    y ∈ Sid.prefn :: .bypassReturn :: .source k :: idsOf macros := by
  simp only [List.mem_cons] at hx ⊢
  rcases hx with rfl | rfl | rfl | hx
  · cases hcall _ h.callAt_prefn
  · exact absurd ((edge_iff h.nodup h.bypassReturn_mem y).mp hedge) List.not_mem_nil
  · exact absurd ((edge_iff h.nodup h.ret_mem y).mp hedge) List.not_mem_nil
  · rcases h.macros with hmacros | hmacros
    · rw [hmacros] at hx
      cases hx
    · rw [hmacros] at hx
      rw [List.mem_singleton.mp hx] at hedge
      have hy := next_of_mem_succs ((edge_iff h.nodup (h.macro_mem hmacros) y).mp hedge)
      exact Or.inr (Or.inr (Or.inl (Option.some.inj hy).symm))

/-- After the `prefn` call comes the branch. -/
lemma goes_prefn (hedge : b.Edge .prefn y) : y = .bypassIf :=
  (Option.some.inj (next_of_mem_succs ((edge_iff h.nodup h.prefn_mem y).mp hedge))).symm

/-- After a `postfn` call come the driver macro and the return. -/
lemma goes_postfn (hx : x = .bypassPostfn ∨ x = .postfn (.source k)) (hedge : b.Edge x y) :
    y ∈ Sid.prefn :: .bypassReturn :: .source k :: idsOf macros := by
  simp only [List.mem_cons]
  rcases hx with rfl | rfl
  · have hy := next_of_mem_succs ((edge_iff h.nodup h.bypassPostfn_mem y).mp hedge)
    exact Or.inr (Or.inl (Option.some.inj hy).symm)
  · have hy := next_of_mem_succs ((edge_iff h.nodup h.postfn_mem y).mp hedge)
    rcases entry_eq_some hy with hy | hy
    · exact Or.inr (Or.inr (Or.inr hy))
    · exact Or.inr (Or.inr (Or.inl (Option.some.inj hy).symm))

end InParts

/-- Control goes on from a record without a call of a pair. -/
lemma OpenAt.goes {x y : Sid} {o : Bool} (h : OpenAt b x o)
    (hcall : ∀ c, b.callAt x = some c → c.isPrepostfn = false) (hy : y ∈ idsOf b.stmts)
    (hedge : b.Edge x y) : OpenAt b y o := by
  cases h with
  | opened hparts hx => exact .opened hparts (hparts.goes_opened hx hcall hy hedge)
  | closed hparts hx => exact .closed hparts (hparts.goes_closed hx hcall hedge)
  | plain hplain => exact .plain hplain

/-- A `prefn` call opens, where nothing is open. -/
lemma OpenAt.prefn {x y : Sid} {o : Bool} (h : OpenAt b x o) (hcall : b.callAt x = some .prefn)
    (hedge : b.Edge x y) : o = false ∧ OpenAt b y true := by
  cases h with
  | opened hparts hx =>
      rcases hparts.callAt_opened hx hcall with rfl | rfl | hno
      · cases hparts.callAt_bypassPostfn.symm.trans hcall
      · cases hparts.callAt_postfn.symm.trans hcall
      · cases hno
  | closed hparts hx =>
      rcases hparts.callAt_closed hx hcall with rfl | hmacro
      · rw [hparts.goes_prefn hedge]
        exact ⟨rfl, .opened hparts List.mem_cons_self⟩
      · cases hmacro
  | plain hplain => cases hplain x _ hcall

/-- A `postfn` call closes what is open. -/
lemma OpenAt.postfn {x y : Sid} {o v : Bool} (h : OpenAt b x o)
    (hcall : b.callAt x = some (.postfn v)) (hedge : b.Edge x y) :
    o = true ∧ OpenAt b y false := by
  cases h with
  | opened hparts hx =>
      rcases hparts.callAt_opened hx hcall with hx | hx | hno
      · exact ⟨rfl, .closed hparts (hparts.goes_postfn (Or.inl hx) hedge)⟩
      · exact ⟨rfl, .closed hparts (hparts.goes_postfn (Or.inr hx) hedge)⟩
      · cases hno
  | closed hparts hx =>
      rcases hparts.callAt_closed hx hcall with rfl | hmacro
      · cases hparts.callAt_prefn.symm.trans hcall
      · cases hmacro
  | plain hplain => cases hplain x _ hcall

/-- At a return nothing is open. -/
lemma OpenAt.returns {x : Sid} {o : Bool} (h : OpenAt b x o) (hx : x ∈ returnsOf b.stmts) :
    o = false := by
  cases h with
  | opened hparts hopen =>
      simp only [List.mem_cons] at hopen
      rcases hparts.mem_returns.mp hx with rfl | rfl
      · rcases hopen with hx | hx | hx | hx
        · cases hx
        · cases hx
        · cases hx
        · exact absurd rfl (hparts.region_ne hx).1
      · rcases hopen with hx | hx | hx | hx
        · cases hx
        · cases hx
        · cases hx
        · exact absurd rfl (hparts.region_ne hx).2
  | closed => rfl
  | plain => rfl

end

/-- A body that the pass makes has a pair around it, or no call of a pair in it. -/
lemma rewritten_parts {a : PassArgs} {f : Fundec} {hits : Sid → Bool} {p : PassState}
    {e : Option RetExp} (hwf : f.sbody.WellFormed) (hone : f.sbody.OneReturn) :
    (∃ region macros k e' exp v, InParts (rewritten a f hits p e) region macros k e' exp v) ∨
      ∀ y c, (rewritten a f hits p e).callAt y = some c → c.isPrepostfn = false := by
  obtain ⟨init, r, exp, hstmts, hret⟩ := hone
  by_cases hpair : f.vname ∈ a.prepostfnFuncs
  · obtain ⟨k, rfl⟩ := hwf.source r (by rw [hstmts]; simp [idsOf, Stmt.ids])
    exact Or.inl ⟨_, _, _, _, _, _, rewritten_inParts hwf hpair hstmts hret⟩
  · right
    intro y c hc
    obtain ⟨n, hn, hcall⟩ := Option.bind_eq_some_iff.mp hc
    have hmem : n.1 ∈ recordsOf (rewritten a f hits p e).stmts := by
      rw [← map_fst_cfgBlock _ Ctx.top]
      exact List.mem_map_of_mem (List.mem_of_find?_eq_some hn)
    rw [rewritten] at hmem
    dsimp only at hmem
    rw [prefnStmts, if_neg hpair, List.nil_append, hstmts, instrumentBlock_append,
      recordsOf_append, List.mem_append] at hmem
    rcases hmem with hmem | hmem
    · refine call_of_mem_records (fun id c h => hwf.code id c ?_) hret hmem hcall
      rw [hstmts, recordsOf_append]
      exact List.mem_append_left _ h
    · rw [instrumentBlock, instrumentBlock, Stmt.instrument, preReturn, if_neg hpair,
        List.nil_append, List.append_nil, recordsOf_append, List.mem_append] at hmem
      rcases hmem with hmem | hmem
      · rw [genDrivermacroCall] at hmem
        split_ifs at hmem
        · rw [List.mem_singleton.mp hmem] at hcall
          cases hcall
          rfl
        · cases hmem
      · rw [List.mem_singleton.mp hmem] at hcall
        cases hcall

end SymDrive.Cil

namespace SymDrive.Threads

open Checked Stacks Cil

/-! ## The driver -/

/-- A driver, and what the passes make of it.  Each function comes as the prioritization pass sees
it and as the splitter sees it.  The driver does not call the framework itself. -/
structure Driver where
  a : PassArgs
  hits : Sid → Bool
  g : Splitter.DataChunk
  functions : List (Fundec × Splitter.Fundec)
  stubFuncs : List Splitter.Proto
  bodies : List Body
  vnames : ∀ f ∈ functions, f.2.vname = f.1.vname
  wellFormed : ∀ f ∈ functions, f.1.sbody.WellFormed
  oneReturn : ∀ f ∈ functions, f.1.sbody.OneReturn
  processed : process a hits (functions.map Prod.fst) = .ok bodies
  ownFunctions : ∀ vi ∈ stubFuncs, vi.vname ≠ "gen_enter_driver" ∧ vi.vname ≠ "gen_exit_driver"

namespace Driver

variable (D : Driver)

/-- `b` is the instrumented body of `f`. -/
def Defines (f : Fundec × Splitter.Fundec) (b : Body) : Prop := (f, b) ∈ D.functions.zip D.bodies

def IsPrefn (f : Fundec × Splitter.Fundec) (c : List Splitter.Stmt) : Prop :=
  ∃ made made', Splitter.genPrefnBody D.g f.2 (Splitter.createPrepostfnFunction f.2 true) made =
    .ok (c, made')

def IsPostfn (f : Fundec × Splitter.Fundec) (c : List Splitter.Stmt) : Prop :=
  ∃ made made', Splitter.genPostfnBody D.g f.2 (Splitter.createPrepostfnFunction f.2 false) made =
    .ok (c, made')

/-- The body of the stub of a kernel function. -/
def IsStub (c : List Splitter.Stmt) : Prop :=
  ∃ vi ∈ D.stubFuncs, ∃ made F made',
    Splitter.genStub D.g vi.vname vi.vtype made = .ok (F, made') ∧ c = F.body

end Driver

/-! ## Threads -/

/-- A function that a thread is in: a function of the driver at a record, the rest of a generated
function, or the kernel. -/
inductive Frame where
  | body (f : Fundec × Splitter.Fundec) (b : Body) (x : Sid)
  | code (c : List Splitter.Stmt)
  | kernel

/-- The functions that a thread is in, innermost first.  Outside of them it is in the kernel. -/
abbrev Thread := List Frame

def InKernel : Thread → Prop
  | [] | .kernel :: _ => True
  | .body _ _ _ :: _ | .code _ :: _ => False

/-- A record of instructions: source code, or a call that the pass has inserted and that is not one
of a pair. -/
def AtCode (b : Body) (x : Sid) : Prop :=
  ∃ i c, b.nodeAt x = some (.instr x i, c) ∧ ∀ k, i = .call k → k.isPrepostfn = false

/-- The calls of `gen_enter_driver` and `gen_exit_driver`, with the other arguments of any value. -/
inductive Emits : Splitter.Pass → DriverEvent → Prop
  | enter {fn w retvalValid retval} :
      Emits ⟨fn, w, .entrance⟩ (.enter fn w retvalValid retval)
  | exit {fn w retvalValid retval symbolic} :
      Emits ⟨fn, w, .exit⟩ (.exit fn w retvalValid retval symbolic)

open DriverEvent in
/-- One step of a thread, and what it calls of the framework. -/
inductive Step (D : Driver) : Thread → Option DriverEvent → Thread → Prop
  /-- The kernel calls a function of the driver. -/
  | entry {t f b x} : InKernel t → D.Defines f b → entry b.stmts none = some x →
      Step D t none (.body f b x :: t)
  | kernelReturns {t} : Step D (.kernel :: t) none t
  /-- The source code calls a function of the driver. -/
  | callDriver {t f b x f' b' x'} : AtCode b x → D.Defines f' b' →
      entry b'.stmts none = some x' →
      Step D (.body f b x :: t) none (.body f' b' x' :: .body f b x :: t)
  /-- The source code calls a kernel function through its stub. -/
  | callKernel {t f b x c} : AtCode b x → D.IsStub c →
      Step D (.body f b x :: t) none (.code c :: .body f b x :: t)
  /-- The source code calls `symdrive_annotation`. -/
  | annotation {t f b x} {flags : ℤ} : AtCode b x →
      Step D (.body f b x :: t) (some <| annotation flags) (.body f b x :: t)
  | goes {t f b x y} : (∀ c, b.callAt x = some c → c.isPrepostfn = false) → y ∈ idsOf b.stmts →
      b.Edge x y → Step D (.body f b x :: t) none (.body f b y :: t)
  | prefn {t f b x y c} : b.callAt x = some .prefn → D.IsPrefn f c → b.Edge x y →
      Step D (.body f b x :: t) none (.code c :: .body f b y :: t)
  | postfn {t f b x y v c} : b.callAt x = some (.postfn v) → D.IsPostfn f c → b.Edge x y →
      Step D (.body f b x :: t) none (.code c :: .body f b y :: t)
  | returns {t f b x} : x ∈ returnsOf b.stmts → Step D (.body f b x :: t) none t
  | set {t lv e c} : Step D (.code (.set lv e :: c) :: t) none (.code c :: t)
  /-- A check, or the kernel function of the stub, which may call the driver. -/
  | call {t retval fn args c} : fn.direction? = none →
      Step D (.code (.call retval fn args :: c) :: t) none (.kernel :: .code c :: t)
  | makeSymbolicPtr {t retval fn args c} {origRetval value : ULong} :
      fn.function? = some "gen_make_symbolic_ptr" →
      Step D (.code (.call retval fn args :: c) :: t) (some (.makeSymbolicPtr origRetval value))
        (.code c :: t)
  | makeSymbolicInt {t retval fn args c} {size origRetval value : ℕ} :
      fn.function? = some "gen_make_symbolic_int" →
      Step D (.code (.call retval fn args :: c) :: t)
        (some (.makeSymbolicInt size origRetval value)) (.code c :: t)
  /-- `gen_enter_driver` calls the interrupt handlers before it takes the lock. -/
  | beforeEnter {t retval fn args c} : fn.direction? = some .entrance →
      Step D (.code (.call retval fn args :: c) :: t) none
        (.kernel :: .code (.call retval fn args :: c) :: t)
  | enter {t retval fn args c p e} : (Splitter.Stmt.call retval fn args).pass = some p →
      p.direction = .entrance → Emits p e →
      Step D (.code (.call retval fn args :: c) :: t) (some e) (.code c :: t)
  /-- `gen_exit_driver` calls them after it has released the lock. -/
  | exit {t retval fn args c p e} : (Splitter.Stmt.call retval fn args).pass = some p →
      p.direction = .exit → Emits p e →
      Step D (.code (.call retval fn args :: c) :: t) (some e) (.kernel :: .code c :: t)
  | ifTrue {t ifguard trueBlock falseBlock c} :
      Step D (.code (.ifStmt ifguard trueBlock falseBlock :: c) :: t) none
        (.code (trueBlock ++ c) :: t)
  | ifFalse {t ifguard trueBlock falseBlock c} :
      Step D (.code (.ifStmt ifguard trueBlock falseBlock :: c) :: t) none
        (.code (falseBlock ++ c) :: t)
  | codeReturns {t e c} : Step D (.code (.ret e :: c) :: t) none t
  | codeEnds {t} : Step D (.code [] :: t) none t

/-! ## What a thread has open -/

/-- The functions that a thread has open, innermost first. -/
inductive Holds : Thread → List String → Prop
  | nil : Holds [] []
  | kernel {t s} : Holds t s → Holds (.kernel :: t) s
  | code {c t s s'} : Splitter.Unwinds c s s' → Holds t s' → Holds (.code c :: t) s
  | opened {f b x t s} : OpenAt b x true → Holds t s →
      Holds (.body f b x :: t) (f.2.openName :: s)
  | closed {f b x t s} : OpenAt b x false → Holds t s → Holds (.body f b x :: t) s

end SymDrive.Threads

namespace SymDrive

open Checked Stacks

/-- What an event does to what is open. -/
def DriverEvent.move : DriverEvent → Move String
  | enter fn wrapperType _ _ => Cil.Splitter.Pass.move ⟨fn, wrapperType, .entrance⟩
  | exit fn wrapperType _ _ _ => Cil.Splitter.Pass.move ⟨fn, wrapperType, .exit⟩
  | makeSymbolicPtr _ _ | makeSymbolicInt _ _ _ | annotation _ => .quiet

namespace Threads

open Cil

section

variable {D : Driver} {f : Fundec × Splitter.Fundec} {b : Body}

/-- A body of the driver either has the parts of a pair or calls neither of the two. -/
lemma Driver.parts (h : D.Defines f b) :
    (∃ region macros k e exp v, InParts b region macros k e exp v) ∨
      ∀ y c, b.callAt y = some c → c.isPrepostfn = false := by
  have hall : List.Forall₂ (fun f b => f.sbody.WellFormed → f.sbody.OneReturn →
      (∃ region macros k e exp v, InParts b region macros k e exp v) ∨
        ∀ y c, b.callAt y = some c → c.isPrepostfn = false)
      (D.functions.map Prod.fst) D.bodies :=
    process_forall (fun _ _ _ _ _ hwf hone => rewritten_parts hwf hone) D.processed
  have hf := (List.of_mem_zip h).1
  exact List.forall₂_zip ((List.forall₂_map_left_iff).mp hall) h (D.wellFormed f hf)
    (D.oneReturn f hf)

lemma Driver.openAt_entry (h : D.Defines f b) {x : Sid} (hx : entry b.stmts none = some x) :
    OpenAt b x false := Cil.openAt_entry (Driver.parts h) hx

/-- The code of a `prefn` opens the name of its function. -/
lemma unwinds_prefn {c : List Splitter.Stmt} (h : D.IsPrefn f c) (s : List String) :
    Splitter.Unwinds c s (f.2.openName :: s) := by
  obtain ⟨made, made', h⟩ := h
  exact Splitter.gives_prefnBody made c made' h s

/-- The code of a `postfn` closes the name of its function. -/
lemma unwinds_postfn {c : List Splitter.Stmt} (h : D.IsPostfn f c) (s : List String) :
    Splitter.Unwinds c (f.2.openName :: s) s := by
  obtain ⟨made, made', h⟩ := h
  exact Splitter.gives_postfnBody made c made' h s

/-- The code of a stub leaves open what is open. -/
lemma unwinds_stub {c : List Splitter.Stmt} (h : D.IsStub c) (s : List String) :
    Splitter.Unwinds c s s := by
  obtain ⟨vi, hvi, made, F, made', h, rfl⟩ := h
  obtain ⟨henter, hexit⟩ := D.ownFunctions vi hvi
  exact Splitter.gives_stub henter hexit made F made' h s

/-- A call that passes control calls one of the two functions of the framework. -/
lemma pass_direction {retval : Option Splitter.Lval} {fn : Splitter.Exp}
    {args : List Splitter.Exp} {p : Splitter.Pass}
    (h : (Splitter.Stmt.call retval fn args).pass = some p) : fn.direction? = some p.direction := by
  rw [Splitter.Stmt.pass.eq_def] at h
  split at h
  case h_1 heq =>
    cases heq
    obtain ⟨w, -, h⟩ := Option.bind_eq_some_iff.mp h
    obtain ⟨d, hd, rfl⟩ := Option.map_eq_some_iff.mp h
    exact hd
  case h_2 => cases h

/-- The framework is told what the code does. -/
lemma Emits.move {p : Splitter.Pass} {e : DriverEvent} (h : Emits p e) : e.move = p.move := by
  cases h <;> rfl

/-- Code that calls something else than the two functions. -/
lemma unwinds_call {retval : Option Splitter.Lval} {fn : Splitter.Exp} {args : List Splitter.Exp}
    {c : List Splitter.Stmt} {s s' : List String} (hfn : fn.direction? = none)
    (h : Splitter.Unwinds (.call retval fn args :: c) s s') : Splitter.Unwinds c s s' := by
  cases h with
  | call _ h => exact h
  | pass hpass _ _ =>
      rw [pass_direction hpass] at hfn
      cases hfn

/-- Code that calls one of the two functions. -/
lemma unwinds_pass {retval : Option Splitter.Lval} {fn : Splitter.Exp} {args : List Splitter.Exp}
    {c : List Splitter.Stmt} {s s' : List String} {p : Splitter.Pass}
    (hp : (Splitter.Stmt.call retval fn args).pass = some p)
    (h : Splitter.Unwinds (.call retval fn args :: c) s s') :
    ∃ s₁, p.move.OnStack s s₁ ∧ Splitter.Unwinds c s₁ s' := by
  cases h with
  | call hfn _ =>
      rw [pass_direction hp] at hfn
      cases hfn
  | pass hpass hmove hc =>
      obtain rfl := Option.some.inj (hp.symm.trans hpass)
      exact ⟨_, hmove, hc⟩

lemma direction?_of_function? {fn : Splitter.Exp} {name : String}
    (h : fn.function? = some name) (henter : name ≠ "gen_enter_driver")
    (hexit : name ≠ "gen_exit_driver") : fn.direction? = none := by
  rw [Splitter.Exp.direction?, h, if_neg (by simpa using henter), if_neg (by simpa using hexit)]

/-- The thread goes on inside the body. -/
lemma Holds.goes {x y : Sid} {t : Thread} {s : List String} (h : Holds (.body f b x :: t) s)
    (hgoes : ∀ o, OpenAt b x o → OpenAt b y o) : Holds (.body f b y :: t) s := by
  cases h with
  | opened hopen ht => exact .opened (hgoes _ hopen) ht
  | closed hopen ht => exact .closed (hgoes _ hopen) ht

/-- **A step** opens something, closes what the thread opened last, or leaves open what is open. -/
theorem Step.keeps {t t' : Thread} {e : Option DriverEvent} {s : List String} (h : Holds t s)
    (hstep : Step D t e t') :
    ∃ s', (moveOf DriverEvent.move e).OnStack s s' ∧ Holds t' s' := by
  cases hstep with
  | entry _ hf hx => exact ⟨s, .quiet s, .closed (Driver.openAt_entry hf hx) h⟩
  | kernelReturns =>
      cases h with
      | kernel h => exact ⟨s, .quiet s, h⟩
  | callDriver _ hf hx => exact ⟨s, .quiet s, .closed (Driver.openAt_entry hf hx) h⟩
  | callKernel _ hc => exact ⟨s, .quiet s, .code (unwinds_stub hc s) h⟩
  | annotation _ => exact ⟨s, .quiet s, h⟩
  | goes hcall hy hedge =>
      exact ⟨s, .quiet s, h.goes fun o hopen => hopen.goes hcall hy hedge⟩
  | prefn hcall hc hedge =>
      cases h with
      | opened hopen _ => cases (hopen.prefn hcall hedge).1
      | closed hopen ht =>
          exact ⟨s, .quiet s, .code (unwinds_prefn hc s) (.opened (hopen.prefn hcall hedge).2 ht)⟩
  | postfn hcall hc hedge =>
      cases h with
      | opened hopen ht =>
          exact ⟨_, .quiet _, .code (unwinds_postfn hc _) (.closed (hopen.postfn hcall hedge).2 ht)⟩
      | closed hopen _ => cases (hopen.postfn hcall hedge).1
  | returns hx =>
      cases h with
      | opened hopen _ => cases hopen.returns hx
      | closed _ ht => exact ⟨s, .quiet s, ht⟩
  | set =>
      cases h with
      | code hc ht =>
          cases hc with
          | set hc => exact ⟨s, .quiet s, .code hc ht⟩
  | call hfn =>
      cases h with
      | code hc ht => exact ⟨s, .quiet s, .kernel (.code (unwinds_call hfn hc) ht)⟩
  | makeSymbolicPtr hfn =>
      cases h with
      | code hc ht =>
          have hnone := direction?_of_function? hfn (by decide) (by decide)
          exact ⟨s, .quiet s, .code (unwinds_call hnone hc) ht⟩
  | makeSymbolicInt hfn =>
      cases h with
      | code hc ht =>
          have hnone := direction?_of_function? hfn (by decide) (by decide)
          exact ⟨s, .quiet s, .code (unwinds_call hnone hc) ht⟩
  | beforeEnter _ => exact ⟨s, .quiet s, .kernel h⟩
  | enter hp _ he =>
      cases h with
      | code hc ht =>
          obtain ⟨s₁, hmove, hc⟩ := unwinds_pass hp hc
          rw [← he.move] at hmove
          exact ⟨s₁, hmove, .code hc ht⟩
  | exit hp _ he =>
      cases h with
      | code hc ht =>
          obtain ⟨s₁, hmove, hc⟩ := unwinds_pass hp hc
          rw [← he.move] at hmove
          exact ⟨s₁, hmove, .kernel (.code hc ht)⟩
  | ifTrue =>
      cases h with
      | code hc ht =>
          cases hc with
          | ifStmt htrue _ => exact ⟨s, .quiet s, .code htrue ht⟩
  | ifFalse =>
      cases h with
      | code hc ht =>
          cases hc with
          | ifStmt _ hfalse => exact ⟨s, .quiet s, .code hfalse ht⟩
  | codeReturns =>
      cases h with
      | code hc ht =>
          cases hc with
          | ret => exact ⟨s, .quiet s, ht⟩
  | codeEnds =>
      cases h with
      | code hc ht =>
          cases hc with
          | nil => exact ⟨s, .quiet s, ht⟩

/-! ## All threads -/

/-- The names without the last occurrence of one. -/
lemma eraseLast_perm {fn : String} {names : List String} (h : fn ∈ names) :
    names.Perm (fn :: eraseLast fn names) := by
  have herase := List.perm_cons_erase (List.mem_reverse.mpr h)
  refine (List.reverse_perm names).symm.trans (herase.trans ?_)
  exact (List.reverse_perm _).symm.cons fn

/-- Passing control moves the names of all threads by one name. -/
lemma passControl_onBag {names : List String} {p : Splitter.Pass} (h : p.move.Legal names) :
    p.move.OnBag names (passControl names p.fn p.wrapperType p.direction) := by
  rw [Splitter.Pass.move] at h ⊢
  rw [passControl]
  split_ifs with hopens
  · exact .opens (List.perm_append_singleton _ _)
  · rw [if_neg hopens] at h
    exact .closes (eraseLast_perm h)

/-- Opening and closing by name in the list of the open functions. -/
lemma openAfter_onBag (names : List String) (e : DriverEvent) (h : e.move.Legal names) :
    e.move.OnBag names (e.openAfter names) := by
  cases e with
  | enter fn wrapperType _ _ => exact passControl_onBag (p := ⟨fn, wrapperType, .entrance⟩) h
  | exit fn wrapperType _ _ _ => exact passControl_onBag (p := ⟨fn, wrapperType, .exit⟩) h
  | makeSymbolicPtr _ _ | makeSymbolicInt _ _ _ | annotation _ => exact .quiet (.refl _)

/-- A function that is opened fits on the call stack. -/
def Fits (names : List String) (e : DriverEvent) : Prop :=
  ∀ fn, e.move = .opens fn → (names.length : ℤ) + 1 < driverCallStackMax - 1

/-- A legal move that fits the array is legal for the framework. -/
lemma passLegal_of_fits {names : List String} {p : Splitter.Pass} (h : p.move.Legal names)
    (hfits : ∀ fn, p.move = .opens fn → (names.length : ℤ) + 1 < driverCallStackMax - 1) :
    PassLegal names p.fn p.wrapperType p.direction := by
  rw [Splitter.Pass.move] at h hfits
  rw [PassLegal]
  split_ifs with hopens
  · rw [if_pos hopens] at hfits
    exact hfits p.fn rfl
  · rw [if_neg hopens] at h
    exact h

/-- The same for an event of the driver. -/
lemma stackLegal_of_fits {names : List String} {e : DriverEvent} (h : e.move.Legal names)
    (hfits : Fits names e) : e.StackLegal names := by
  cases e with
  | enter fn wrapperType _ _ => exact passLegal_of_fits (p := ⟨fn, wrapperType, .entrance⟩) h hfits
  | exit fn wrapperType _ _ _ => exact passLegal_of_fits (p := ⟨fn, wrapperType, .exit⟩) h hfits
  | makeSymbolicPtr _ _ | makeSymbolicInt _ _ _ | annotation _ => trivial

/-- Where all threads have returned, no name is open. -/
lemma not_open_of_idle {ts : List Thread} {ss : List (List String)} (h : List.Forall₂ Holds ts ss)
    (hidle : ∀ t ∈ ts, t = []) : ss.flatten = [] := by
  induction h with
  | nil => rfl
  | @cons t s ts ss ht _ ih =>
      obtain rfl := hidle t List.mem_cons_self
      cases ht
      rw [List.flatten_cons, List.nil_append]
      exact ih fun t' ht' => hidle t' (List.mem_cons_of_mem _ ht')

/-- **The call stack of all threads**: in whatever order the threads take their steps, no assertion
about the call stack fires as long as the open functions fit, `driver_call_stack` is the number of
functions that the threads have open together, and it is back at zero when no thread is in the
driver. -/
theorem call_stack_safe {D : Driver} {ts : List Thread} {es : List DriverEvent}
    (hrun : Run (Step D) [] ts es) (hfits : Along DriverEvent.openAfter Fits [] es)
    (f : Framework) (hf : StackIs f.driver []) :
    (∀ fault, runDriver f es = .error fault → fault.OutsideCallStack) ∧
    ∀ f', runDriver f es = .ok f' →
      (∃ ss, List.Forall₂ Holds ts ss ∧ f'.driver.driverCallStack = ss.flatten.length) ∧
      StackIs f'.driver (es.foldl DriverEvent.openAfter []) ∧
      ((∀ t ∈ ts, t = []) → StackIs f'.driver []) := by
  obtain ⟨ss, hholds, hperm, hlegal⟩ := hrun.disciplined (R := Holds) .nil
    (fun _ _ _ _ => Step.keeps) openAfter_onBag
  have hstack : Along DriverEvent.openAfter DriverEvent.StackLegal [] es :=
    (hlegal.and hfits).imp fun _ _ h => stackLegal_of_fits h.1 h.2
  have houtcome := Along.outcome outcome_exec es (s := f) (t := []) ⟨hf, by decide⟩ hstack
  constructor
  · intro fault hfault
    rw [runDriver] at hfault
    rw [hfault] at houtcome
    exact houtcome
  · intro f' hok
    rw [runDriver] at hok
    rw [hok] at houtcome
    obtain ⟨hstackIs, -⟩ := houtcome
    refine ⟨⟨ss, hholds, ?_⟩, hstackIs, fun hidle => ?_⟩
    · rw [hstackIs.count, hperm.length_eq]
    · rw [not_open_of_idle hholds hidle] at hperm
      rwa [hperm.eq_nil] at hstackIs

end

/-- A driver with one function, which has a pair. -/
def txDriver : Driver where
  a := txPairMacro
  hits := fun _ => true
  g := Splitter.plainChunk false
  functions := [(earlyOut, ⟨"tx", .tVoid, []⟩)]
  stubFuncs := []
  bodies := [rewritten txPairMacro earlyOut (fun _ => true) PassState.initial none]
  vnames := by simp [earlyOut]
  wellFormed := by
    intro f hf
    obtain rfl := List.mem_singleton.mp hf
    constructor
    · simp [earlyOut, idsOf, Stmt.ids]
    · simp [earlyOut, recordsOf, Stmt.records]
    · simp [earlyOut, idsOf, Stmt.ids]
    · simp [earlyOut, idsOf, Stmt.ids]
    · simp [earlyOut, gotosOf, Stmt.gotos, idsOf, Stmt.ids]
  oneReturn := by
    intro f hf
    obtain rfl := List.mem_singleton.mp hf
    exact ⟨[_], .source 3, none, rfl, rfl⟩
  processed := process_singleton rfl
  ownFunctions := by simp

/-- Two threads are in the driver.  The first one has gone through its `prefn` as far as the entry,
the other one stands before its `prefn`. -/
lemma txDriver_run : ∃ t t' : Thread, Run (Step txDriver) [] [t, t']
    [.enter "tx" .prepostFn 0 0] := by
  have hdef : txDriver.Defines (earlyOut, ⟨"tx", .tVoid, []⟩)
      (rewritten txPairMacro earlyOut (fun _ => true) PassState.initial none) :=
    List.mem_singleton.mpr rfl
  have hprefn : txDriver.IsPrefn (earlyOut, ⟨"tx", .tVoid, []⟩) _ := ⟨[], _, rfl⟩
  have hentered := Step.entry (D := txDriver) (t := []) trivial hdef (x := .prefn) rfl
  have h₀ : Run (Step txDriver) [] [] [] := .nil
  have h₁ := Run.step [[]] [] h₀.spawn.spawn hentered
  have h₂ := Run.step [] _ h₁ hentered
  have h₃ := Run.step [] _ h₂ (.prefn rfl hprefn (y := .bypassIf) (by decide))
  have h₄ := Run.step [] _ h₃ (.call rfl)
  have h₅ := Run.step [] _ h₄ .kernelReturns
  have h₆ : Run (Step txDriver) [] _ [.enter "tx" .prepostFn 0 0] :=
    Run.step [] _ h₅ (.enter rfl rfl .enter)
  exact ⟨_, _, h₆⟩

/-- Two threads, one of which has entered the driver. -/
theorem txDriver_call_stack_safe : ∃ t t' : Thread, ∃ f', runDriver symbolicRetvals
    [.enter "tx" .prepostFn 0 0] = .ok f' ∧
    (∃ ss, List.Forall₂ Holds [t, t'] ss ∧ f'.driver.driverCallStack = ss.flatten.length) ∧
    StackIs f'.driver ["tx"] := by
  obtain ⟨t, t', hrun⟩ := txDriver_run
  have hfits : Along DriverEvent.openAfter Fits [] [.enter "tx" .prepostFn 0 0] := by
    refine ⟨fun _ _ => ?_, trivial⟩
    decide
  have hsafe := call_stack_safe hrun hfits symbolicRetvals ⟨rfl, fun _ _ => rfl⟩
  refine ⟨t, t', _, rfl, ?_⟩
  obtain ⟨hopen, hstack, -⟩ := hsafe.2 _ rfl
  exact ⟨hopen, hstack⟩

end Threads

end SymDrive
