import SymDrive.Cil.StubRuns
import SymDrive.Gtf.CallStack
import SymDrive.Library.Stacks

/-!
# Where control passes in generated code

The calls of `gen_enter_driver` and `gen_exit_driver` in the bodies of the pairs and of the stubs.
`Unwinds` says what they do to the functions that a thread has open, along every way through the
code, whatever its tests give.

* `gives_prefnBody` and `gives_postfnBody` — a `prefn` opens its function and a `postfn` closes it.
* `gives_stub` — a stub leaves open what was open.
-/

namespace SymDrive.Cil.Splitter

open Checked Stacks

/-! ## Calls that pass control -/

/-- Control passes into or out of `fn`. -/
structure Pass where
  fn : String
  wrapperType : WrapperType
  direction : Direction

/-- What a call does to the functions that are open. -/
def Pass.move (p : Pass) : Move String :=
  if opens p.wrapperType p.direction then .opens p.fn else .closes p.fn

/-- `enum symdrive_WRAPPER_TYPE`. -/
def wrapperTypeOf (n : ℤ) : Option WrapperType :=
  if n = 0 then some .stubWrapper else if n = 1 then some .prepostFn else none

/-- The function that an expression names. -/
def Exp.function? : Exp → Option String
  | .lval lv => lv.function?
  | _ => none

/-- Whether the function enters the driver or leaves it. -/
def Exp.direction? (f : Exp) : Option Direction :=
  if f.function? = some "gen_enter_driver" then some .entrance
  else if f.function? = some "gen_exit_driver" then some .exit
  else none

/-- What a statement passes control into or out of. -/
def Stmt.pass : Stmt → Option Pass
  | .call _ f (.str fn :: _ :: .int n :: _) =>
      (wrapperTypeOf n).bind fun w => f.direction?.map fun d => ⟨fn, w, d⟩
  | _ => none

mutual

/-- Control does not pass, and does not leave the code. -/
def Stmt.Quiet : Stmt → Prop
  | .set _ _ => True
  | .call _ f _ => f.direction? = none
  | .ifStmt _ trueBlock falseBlock => Quiet trueBlock ∧ Quiet falseBlock
  | .ret _ => False

/-- A block of statements that do not pass control. -/
def Quiet : List Stmt → Prop
  | [] => True
  | s :: ss => s.Quiet ∧ Quiet ss

end

/-- Every way through the code takes what is open from `s` to `s'`. -/
inductive Unwinds : List Stmt → List String → List String → Prop
  | nil (s : List String) : Unwinds [] s s
  | set {lv e ss s s'} : Unwinds ss s s' → Unwinds (.set lv e :: ss) s s'
  | call {retval f args ss s s'} : f.direction? = none → Unwinds ss s s' →
      Unwinds (.call retval f args :: ss) s s'
  | pass {retval f args p ss s s₁ s'} : (Stmt.call retval f args).pass = some p →
      p.move.OnStack s s₁ → Unwinds ss s₁ s' → Unwinds (.call retval f args :: ss) s s'
  | ifStmt {ifguard trueBlock falseBlock ss s s'} : Unwinds (trueBlock ++ ss) s s' →
      Unwinds (falseBlock ++ ss) s s' → Unwinds (.ifStmt ifguard trueBlock falseBlock :: ss) s s'
  | ret {e ss s} : Unwinds (.ret e :: ss) s s

lemma quiet_append {ss ss' : List Stmt} : Quiet (ss ++ ss') ↔ Quiet ss ∧ Quiet ss' := by
  induction ss with
  | nil => simp [Quiet]
  | cons s ss ih => rw [List.cons_append, Quiet, ih, Quiet, and_assoc]

lemma quiet_flatMap {α : Type} {l : List α} {f : α → List Stmt} (h : ∀ x ∈ l, Quiet (f x)) :
    Quiet (l.flatMap f) := by
  induction l with
  | nil => trivial
  | cons x l ih =>
      rw [List.flatMap_cons, quiet_append]
      exact ⟨h x List.mem_cons_self, ih fun y hy => h y (List.mem_cons_of_mem x hy)⟩

mutual

/-- A quiet statement leaves open what is open. -/
lemma Stmt.Quiet.unwinds {ss : List Stmt} {s s' : List String} (h : Unwinds ss s s') :
    ∀ st : Stmt, st.Quiet → Unwinds (st :: ss) s s'
  | .set _ _, _ => .set h
  | .call _ _ _, hq => .call hq h
  | .ifStmt _ trueBlock falseBlock, hq =>
      .ifStmt (Quiet.unwinds h trueBlock hq.1) (Quiet.unwinds h falseBlock hq.2)
  | .ret _, hq => hq.elim

lemma Quiet.unwinds {ss : List Stmt} {s s' : List String} (h : Unwinds ss s s') :
    ∀ sts : List Stmt, Quiet sts → Unwinds (sts ++ ss) s s'
  | [], _ => h
  | st :: sts, hq => Stmt.Quiet.unwinds (Quiet.unwinds h sts hq.2) st hq.1

end

/-! ## Quiet parts -/

section

variable {g : DataChunk} {f f' : Fundec}

/-- Of the functions that the splitter calls, two pass control. -/
lemma direction?_globalFn {name : String} (henter : name ≠ "gen_enter_driver")
    (hexit : name ≠ "gen_exit_driver") : (expifyVarinfo (globalFn name)).direction? = none := by
  simp [Exp.direction?, Exp.function?, expifyVarinfo, expifyLval, lvalifyVarinfo, globalFn,
    Lval.function?, henter, hexit]

lemma quiet_call {retval : Option Lval} {name : String} {args : List Exp}
    (henter : name ≠ "gen_enter_driver") (hexit : name ≠ "gen_exit_driver") :
    Quiet [mkCallStmt retval (expifyVarinfo (globalFn name)) args] :=
  ⟨direction?_globalFn henter hexit, trivial⟩

lemma quiet_enableTrackperf (mode : ℤ) : Quiet [genEnableTrackperf mode] :=
  quiet_call (by decide) (by decide)

lemma quiet_disableTrackperf (mode : ℤ) : Quiet [genDisableTrackperf mode] :=
  quiet_call (by decide) (by decide)

/-- Looking a check up does not pass control. -/
lemma quiet_lookup (prepostfn : String) (retvalVi : Varinfo) :
    Quiet [genLookupMJRcheck f prepostfn retvalVi] :=
  ⟨⟨quiet_call (by decide) (by decide), trivial⟩, trivial⟩

/-- A check is called through a pointer, and is not taken for the framework. -/
lemma gives_conditions {kind : Wrapper} {prepostfn : String} {condition : ℤ}
    {argslist : List Lval} :
    Gives (genConditions g f f' kind prepostfn condition argslist) Quiet := by
  rw [genConditions]
  split_ifs
  · refine gives_true.bind fun args _ => gives_true.bind fun vi _ => gives_pure ?_
    rw [quiet_append]
    refine ⟨?_, rfl, trivial⟩
    by_cases hzero : condition = 0
    · rw [if_pos hzero]
      exact quiet_lookup _ _
    · rw [if_neg hzero]
      trivial
  · exact gives_pure trivial

/-- Setting the value to zero does not pass control. -/
lemma gives_initZero : Gives (genInitZero g f) Quiet := by
  refine gives_true.bind fun retvalViOption _ => ?_
  cases retvalViOption with
  | none => exact gives_pure trivial
  | some retvalVi =>
      refine gives_true.bind fun supported _ => ?_
      split_ifs
      · exact gives_pure ⟨trivial, trivial⟩
      · exact gives_pure trivial

/-- Making the value symbolic does not pass control. -/
lemma quiet_mkMakeSymbolic (origName : String) (retTyp : Typ) (retVar : Varinfo) :
    Quiet (mkMakeSymbolic origName retTyp retVar) := by
  rw [mkMakeSymbolic.eq_def]
  split
  · exact quiet_call (by decide) (by decide)
  · exact quiet_call (by decide) (by decide)
  · exact trivial

/-- The call of the kernel function does not pass control by itself. -/
lemma gives_fnPtrCall {vi : Varinfo} (hvi : (expifyVarinfo vi).direction? = none) :
    Gives (genFnPtrCall g f vi) Stmt.Quiet :=
  gives_true.bind fun _ _ => gives_pure hvi

/-- What is done to the value of the kernel function does not pass control. -/
lemma gives_retvalModification : Gives (genStubRetvalModification g f) Quiet := by
  rw [genStubRetvalModification]
  split_ifs
  · exact gives_pure trivial
  · refine gives_true.bind fun retvalViOption _ => ?_
    cases retvalViOption with
    | none => exact gives_pure trivial
    | some retVar => exact gives_pure (quiet_mkMakeSymbolic _ _ _)

/-- The kernel function is not one of the framework. -/
lemma gives_runKernelFn {name : String} (hvname : f.vname = stubwrapperPrefix ++ name)
    (henter : name ≠ "gen_enter_driver") (hexit : name ≠ "gen_exit_driver") :
    Gives (genRunKernelFn g f) Quiet := by
  rw [genRunKernelFn, hvname, stripPrefix_stubwrapper]
  refine (gives_fnPtrCall (direction?_globalFn henter hexit)).bind fun st hst => ?_
  exact gives_retvalModification.bind fun ss hss => gives_pure ⟨hst, hss⟩

/-- No conversion of an argument passes control, however deep the walk goes into its type. -/
lemma quiet_stubConvertArg (comps : ℕ → Compinfo) (t : Typ) (depth : ℕ) :
    ∀ fname paramName lv ci fi,
      Quiet (stubConvertArg comps fname paramName lv t ci fi depth) := by
  induction t, depth using walkInduct comps with
  | nothing t depth hnil =>
      intro fname paramName lv ci fi
      rw [hnil]
      trivial
  | function t depth ht hdepth =>
      intro fname paramName lv ci fi
      rw [stubConvertArg_isFun ht hdepth]
      split_ifs
      · trivial
      · exact ⟨rfl, trivial⟩
  | typedef tname t depth ih =>
      intro fname paramName lv ci fi
      rw [stubConvertArg_named]
      exact ih fname paramName lv ci fi
  | comp ckey depth hdepth ih =>
      intro fname paramName lv ci fi
      rw [stubConvertArg_comp hdepth]
      exact quiet_flatMap fun fi' hfi' => ih fi' hfi' _ _ _ _ _
  | compPtr ckey depth hdepth ih =>
      intro fname paramName lv ci fi
      rw [stubConvertArg_compPtr hdepth]
      dsimp only
      split_ifs
      · exact ⟨⟨ih _ _ _ _ _, trivial⟩, trivial⟩
      · trivial
  | fnPtr t depth ht hdepth ih =>
      intro fname paramName lv ci fi
      rw [stubConvertArg_fnPtr ht hdepth]
      exact ih _ _ _ _ _
  | fnNamedPtr tname t depth ht hdepth ih =>
      intro fname paramName lv ci fi
      rw [stubConvertArg_fnNamedPtr ht hdepth]
      exact ih _ _ _ _ _
  | namedPtr tname t depth ht hdepth ih =>
      intro fname paramName lv ci fi
      rw [stubConvertArg_namedPtr ht hdepth]
      exact ih _ _ _ _ _

lemma quiet_stubFnPtrConversion (test : Bool) (comps : ℕ → Compinfo) (fname : String)
    (sformals : List Varinfo) : Quiet (stubFnPtrConversion test comps fname sformals) := by
  rw [stubFnPtrConversion]
  split_ifs
  · exact quiet_flatMap fun vi _ => quiet_stubConvertArg _ _ _ _ _ _ _ _
  · trivial

end

/-! ## Pairs and stubs -/

section

variable {g : DataChunk} {f f' : Fundec}

/-- The name that a function is opened and closed under. -/
def Fundec.openName (f : Fundec) : String := stripPrefixTry f.vname stubwrapperPrefix

/-- A call of `gen_enter_driver` or `gen_exit_driver`. -/
def IsPass (p : Pass) : List Stmt → Prop
  | [.call retval fn args] => (Stmt.call retval fn args).pass = some p
  | _ => False

/-- The call passes control under the name of the function and with the type of the wrapper. -/
lemma gives_callEnterExit {callFdec : Varinfo} {n : ℤ} {kind : Wrapper} {w : WrapperType}
    {d : Direction} (hw : wrapperTypeOf n = some w)
    (hd : (expifyVarinfo callFdec).direction? = some d) :
    Gives (genCallEnterExitDriver g f f' callFdec n kind) (IsPass ⟨f.openName, w, d⟩) := by
  refine gives_true.bind fun _ _ => gives_true.bind fun retvalLv _ => gives_pure ?_
  simp only [IsPass, mkCallStmt, Stmt.pass, hw, hd]
  rfl

/-- One call moves what is open by one step. -/
lemma IsPass.unwinds {p : Pass} {sts ss : List Stmt} {s s₁ s' : List String} (h : IsPass p sts)
    (hmove : p.move.OnStack s s₁) (hss : Unwinds ss s₁ s') : Unwinds (sts ++ ss) s s' := by
  match sts, h with
  | [.call _ _ _], h => exact .pass h hmove hss

/-- A pair ends in a `Return`. -/
lemma gives_prepostRetstmt : Gives (genPrepostRetstmt g f) fun c => ∃ e, c = [.ret e] :=
  gives_true.bind fun _ _ => gives_pure ⟨_, rfl⟩

/-- **A `prefn` opens** its function. -/
lemma gives_prefnBody :
    Gives (genPrefnBody g f f') fun c => ∀ s, Unwinds c s (f.openName :: s) := by
  refine (gives_callEnterExit (w := .prepostFn) (d := .entrance) rfl rfl).bind ?_
  intro enter henter
  refine gives_conditions.bind fun pre hpre => ?_
  refine gives_prepostRetstmt.bind ?_
  rintro _ ⟨e, rfl⟩
  refine gives_pure fun s => ?_
  simp only [List.append_assoc]
  refine Quiet.unwinds ?_ _ (quiet_disableTrackperf 11)
  refine henter.unwinds (.opens _ _) ?_
  refine Quiet.unwinds ?_ _ hpre
  exact Quiet.unwinds .ret _ (quiet_enableTrackperf 12)

/-- **A `postfn` closes** its function. -/
lemma gives_postfnBody :
    Gives (genPostfnBody g f f') fun c => ∀ s, Unwinds c (f.openName :: s) s := by
  refine gives_conditions.bind fun post hpost => ?_
  refine (gives_callEnterExit (w := .prepostFn) (d := .exit) rfl rfl).bind fun exit hexit => ?_
  refine gives_prepostRetstmt.bind ?_
  rintro _ ⟨e, rfl⟩
  refine gives_pure fun s => ?_
  simp only [List.append_assoc]
  refine Quiet.unwinds ?_ _ (quiet_disableTrackperf 11)
  refine Quiet.unwinds ?_ _ hpost
  refine hexit.unwinds (.closes _ _) ?_
  exact Quiet.unwinds .ret _ (quiet_enableTrackperf 12)

/-- Around the call of the kernel stands a test, or nothing. -/
lemma gives_ifStmts (block : List Stmt) : Gives (genIfStmts g f block) fun c =>
    c = block ∨ ∃ ifguard, c = [.ifStmt ifguard block []] := by
  rw [genIfStmts]
  split_ifs
  · exact gives_true.bind fun _ _ => gives_pure (Or.inr ⟨_, rfl⟩)
  · exact gives_pure (Or.inl rfl)

/-- A stub ends in a `Return`. -/
lemma gives_stubRetstmt : Gives (genStubRetstmt g f) fun st => ∃ e, st = .ret e :=
  gives_true.bind fun _ _ => gives_pure ⟨_, rfl⟩

/-- A stub opens the kernel function when it leaves the driver and closes it when it is back.  Where
the check keeps the function from being called, it does neither. -/
lemma gives_namedStubBody {name : String} (hvname : f.vname = stubwrapperPrefix ++ name)
    (henter : name ≠ "gen_enter_driver") (hexit : name ≠ "gen_exit_driver") :
    Gives (genNamedStubBody g f) fun c => ∀ s, Unwinds c s s := by
  refine gives_initZero.bind fun init hinit => ?_
  refine gives_conditions.bind fun pre hpre => ?_
  refine (gives_callEnterExit (w := .stubWrapper) (d := .exit) rfl rfl).bind fun exit hout => ?_
  refine (gives_runKernelFn hvname henter hexit).bind fun main hmain => ?_
  refine gives_conditions.bind fun post hpost => ?_
  refine (gives_callEnterExit (w := .stubWrapper) (d := .entrance) rfl rfl).bind fun enter hin => ?_
  refine gives_stubRetstmt.bind ?_
  rintro stmtRet ⟨e, rfl⟩
  refine (gives_ifStmts _).bind fun ifStmts hifStmts => gives_pure fun s => ?_
  have hrest : Unwinds ([genEnableTrackperf 22] ++ [.ret e]) s s :=
    Quiet.unwinds .ret _ (quiet_enableTrackperf 22)
  have hblock : Unwinds (exit ++ main ++ post ++ enter ++ ([genEnableTrackperf 22] ++ [.ret e]))
      s s := by
    simp only [List.append_assoc]
    refine hout.unwinds (.opens _ _) ?_
    refine Quiet.unwinds ?_ _ hmain
    refine Quiet.unwinds ?_ _ hpost
    exact hin.unwinds (.closes _ _) hrest
  rw [List.append_assoc (_ ++ ifStmts)]
  simp only [List.append_assoc] at hblock ⊢
  refine Quiet.unwinds ?_ _ (quiet_disableTrackperf 21)
  refine Quiet.unwinds ?_ _ hinit
  refine Quiet.unwinds ?_ _ (quiet_stubFnPtrConversion _ _ _ _)
  refine Quiet.unwinds ?_ _ hpre
  rcases hifStmts with rfl | ⟨ifguard, rfl⟩
  · simpa only [List.append_assoc] using hblock
  · refine .ifStmt ?_ hrest
    show Unwinds (exit ++ main ++ post ++ enter ++ ([genEnableTrackperf 22] ++ [.ret e])) s s
    simpa only [List.append_assoc] using hblock

/-- **A stub leaves open** what was open. -/
lemma gives_stub {name : String} {funType : FunType} (henter : name ≠ "gen_enter_driver")
    (hexit : name ≠ "gen_exit_driver") :
    Gives (genStub g name funType) fun F => ∀ s, Unwinds F.body s s := by
  rw [genStub]
  split
  · exact gives_throw
  · next stubFunc hstub =>
      have hvname : (ensureFormalsHaveNames stubFunc).vname = stubwrapperPrefix ++ name := by
        unfold genEmptyStub Cil.genEmptyStub at hstub
        split at hstub <;> cases hstub
        rfl
      exact (gives_namedStubBody hvname henter hexit).bind fun body hbody => gives_pure hbody

end

end SymDrive.Cil.Splitter
