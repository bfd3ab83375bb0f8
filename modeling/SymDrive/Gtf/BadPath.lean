import SymDrive.Gtf.EnterExit

/-!
# Containment of bad paths

A path on which a kernel return value was replaced by an error (`bad_path` is 1) contradicts what
the kernel did, so it has to end before control returns to the kernel for good: at an exit after
which no driver function is on the call stack.

`verify_retval` decides at such an exit.  With a valid return value it ends the path if the value
is an error, and otherwise asks `verify_symretval`, which looks at `bad_path`.  Without a valid
return value (a driver function returning `void`) it looks at nothing and the path goes on.

`Marked` is the invariant: `bad_path` is only ever set with `g_sym_retval` set, and
`g_sym_retval` is never reset, so `verify_retval` never takes its branch for `g_sym_retval == 0`
on a bad path.
-/

namespace SymDrive

open Checked

/-- What a generated wrapper calls at run time, and the annotation a driver may call by hand. -/
inductive DriverEvent where
  | enter (fn : String) (wrapperType : WrapperType) (retvalValid : ℤ) (retval : ULong)
  | exit (fn : String) (wrapperType : WrapperType) (retvalValid : ℤ) (retval : ULong)
      (symbolic : Bool)
  | makeSymbolicPtr (origRetval value : ULong)
  | makeSymbolicInt (size origRetval value : ℕ)
  | annotation (flags : ℤ)

namespace DriverEvent

def exec (f : Framework) : DriverEvent → Except Fault Framework
  | enter fn wrapperType retvalValid retval => genEnterDriver f fn wrapperType retvalValid retval
  | exit fn wrapperType retvalValid retval symbolic =>
      genExitDriver f fn wrapperType retvalValid retval symbolic
  | makeSymbolicPtr origRetval value => genMakeSymbolicPtr f origRetval value
  | makeSymbolicInt size origRetval value => genMakeSymbolicInt f size origRetval value
  | annotation flags => .ok <| symdriveAnnotation f flags

def IsExit : DriverEvent → Prop
  | exit _ _ _ _ _ => True
  | _ => False

/-- If this is an exit that leaves no driver function on the call stack and the path goes on, the
path is not a bad one. -/
def Contained (f : Framework) (e : DriverEvent) : Prop :=
  e.IsExit → ∀ f', e.exec f = .ok f' → f'.driver.driverCallStack = 0 → f'.driver.badPath = 0

/-- The last driver function on the call stack returns, without a valid return value, on a bad
path. -/
def VoidReturn (f : Framework) : DriverEvent → Prop
  | exit _ .prepostFn retvalValid _ _ =>
      retvalValid = 0 ∧ f.driver.driverCallStack = 1 ∧ f.driver.badPath ≠ 0
  | _ => False

instance (f : Framework) : ∀ e : DriverEvent, Decidable (e.VoidReturn f)
  | enter _ _ _ _ => inferInstanceAs (Decidable False)
  | exit _ .stubWrapper _ _ _ => inferInstanceAs (Decidable False)
  | exit _ .prepostFn retvalValid _ _ =>
      inferInstanceAs (Decidable
        (retvalValid = 0 ∧ f.driver.driverCallStack = 1 ∧ f.driver.badPath ≠ 0))
  | makeSymbolicPtr _ _ => inferInstanceAs (Decidable False)
  | makeSymbolicInt _ _ _ => inferInstanceAs (Decidable False)
  | annotation _ => inferInstanceAs (Decidable False)

end DriverEvent

/-- A run of generated entries and exits. -/
def runDriver (f : Framework) (events : List DriverEvent) : Except Fault Framework :=
  events.foldlM DriverEvent.exec f

/-! ## What each part of an exit keeps -/

/-- Which way `driver_call_stack` moves. -/
def WrapperType.signed : WrapperType → ℤ → ℤ
  | .stubWrapper, add => -add
  | .prepostFn, add => add

lemma popDriverCallStack_eq_ok {d d' : EnterExit} {fn : String}
    (h : popDriverCallStack d fn = .ok d') :
    ∃ str, d' = { d with driverCallStackStr := str } := by
  rw [popDriverCallStack] at h
  split at h
  · cases h
    exact ⟨_, rfl⟩
  · cases h

lemma manageCallStack_eq_ok {l : GlobalLock} {d d' : EnterExit} {fn : String} {add : ℤ}
    {wrapperType : WrapperType} (h : manageCallStack l d fn add wrapperType = .ok d') :
    0 ≤ d.driverCallStack ∧
      ∃ str, d' = { d with driverCallStack := d.driverCallStack + wrapperType.signed add,
                           driverCallStackStr := str } := by
  simp only [manageCallStack, tfassertDetail_bind_eq_ok] at h
  obtain ⟨hadd, ⟨hnonneg, _⟩, h⟩ := h
  refine ⟨hnonneg, ?_⟩
  obtain ⟨d₁, hd₁, h⟩ := bind_eq_ok.mp h
  obtain ⟨_, h⟩ := tfassertDetail_bind_eq_ok.mp h
  obtain ⟨_, _, h⟩ := bind_eq_ok.mp h
  cases h
  cases wrapperType with
  | stubWrapper =>
      rcases hadd with rfl | rfl
      · cases hd₁
        exact ⟨_, rfl⟩
      · obtain ⟨str, rfl⟩ := popDriverCallStack_eq_ok hd₁
        exact ⟨str, rfl⟩
  | prepostFn =>
      rcases hadd with rfl | rfl
      · obtain ⟨str, rfl⟩ := popDriverCallStack_eq_ok hd₁
        exact ⟨str, rfl⟩
      · cases hd₁
        exact ⟨_, rfl⟩

lemma verifyInvariants_eq_ok {l : GlobalLock} {d d' : EnterExit} {fn : String} {add : ℤ}
    {wrapperType : WrapperType} (h : verifyInvariants l d fn add wrapperType = .ok d') :
    0 ≤ d.driverCallStack ∧
      ∃ str, d' = { d with driverCallStack := d.driverCallStack + wrapperType.signed add,
                           driverCallStackStr := str } := by
  rw [verifyInvariants] at h
  obtain ⟨d₁, hmanage, h⟩ := bind_eq_ok.mp h
  rw [tfassertDetail_bind_eq_ok] at h
  obtain ⟨_, h⟩ := h
  rw [tfassertDetail_bind_eq_ok] at h
  obtain ⟨_, h⟩ := h
  cases h
  exact manageCallStack_eq_ok hmanage

lemma verifySymretval_eq_ok {d d' : EnterExit} (h : verifySymretval d = .ok d') :
    d' = d ∧ d.badPath = 0 := by
  rw [verifySymretval] at h
  split_ifs at h with hbad hmore h1 h2
  · cases h
    exact ⟨rfl, not_not.mp hbad⟩
  · cases h
    exact ⟨rfl, not_not.mp hbad⟩

/-- What `verify_retval` lets through changes nothing but the annotation, and is not a bad path if
the return value is valid and symbolic execution is on. -/
lemma verifyRetval_eq_ok {d d' : EnterExit} {wrapperType : WrapperType} {dir : Direction}
    {retvalValid : ℤ} {retval : ULong}
    (h : verifyRetval d wrapperType dir retvalValid retval = .ok d') :
    (∃ flags, d' = { d with gSymdriveAnnotations := flags }) ∧
      (wrapperType = .prepostFn → dir = .exit → retvalValid ≠ 0 → d.gSymRetval ≠ 0 →
        d.badPath = 0) := by
  rw [verifyRetval, tfassert_bind_eq_ok] at h
  obtain ⟨_, h⟩ := h
  by_cases hexit : wrapperType = .prepostFn ∧ dir = .exit
  · rw [if_pos hexit] at h
    by_cases hvalid : retvalValid ≠ 0
    · rw [if_pos hvalid] at h
      dsimp only at h
      generalize (if d.gSymdriveAnnotations = 0 then retval else 0) = retval at h
      split_ifs at h with herr hsym0 hsym12
      · cases h
        exact ⟨⟨_, rfl⟩, fun _ _ _ hne => absurd hsym0 hne⟩
      · obtain ⟨rfl, hbad⟩ := verifySymretval_eq_ok h
        exact ⟨⟨_, rfl⟩, fun _ _ _ _ => hbad⟩
    · rw [if_neg hvalid] at h
      cases h
      exact ⟨⟨_, rfl⟩, fun _ _ hne => absurd hne hvalid⟩
  · rw [if_neg hexit] at h
    cases h
    exact ⟨⟨_, rfl⟩, fun hw hd => absurd ⟨hw, hd⟩ hexit⟩

lemma handleMaxCoverage_entrance_eq_ok {d d' : EnterExit} {fn : String} {retvalValid : ℤ}
    {retval : ULong} (h : handleMaxCoverage d fn retvalValid retval .entrance = .ok d') :
    d' = d ∨ d' = { d with gSymRetval := 1 } := by
  rw [handleMaxCoverage] at h
  split_ifs at h with hfn
  · cases h
    exact .inl rfl
  · cases h
    exact .inr rfl

/-- The exit of the function under full coverage always ends the path. -/
lemma handleMaxCoverage_exit_eq_ok {d d' : EnterExit} {fn : String} {retvalValid : ℤ}
    {retval : ULong} (h : handleMaxCoverage d fn retvalValid retval .exit = .ok d') : d' = d := by
  rw [handleMaxCoverage] at h
  split_ifs at h with hfn herr
  cases h
  rfl

/-! ## One event -/

/-- A bad path is only entered with `g_sym_retval` set. -/
def Marked (f : Framework) : Prop := f.driver.badPath ≠ 0 → f.driver.gSymRetval ≠ 0

lemma marked_enter {f f' : Framework} {fn : String} {wrapperType : WrapperType} {retvalValid : ℤ}
    {retval : ULong} (hf : Marked f)
    (h : genEnterDriver f fn wrapperType retvalValid retval = .ok f') : Marked f' := by
  rw [genEnterDriver] at h
  obtain ⟨_, f₁, hbody, rfl⟩ := locked_inv h
  obtain ⟨d₁, hd₁, h⟩ := bind_eq_ok.mp hbody
  obtain ⟨d₂, hd₂, h⟩ := bind_eq_ok.mp h
  obtain ⟨d₃, hd₃, h⟩ := bind_eq_ok.mp h
  cases h
  have hsame : d₁.badPath = f.driver.badPath ∧ d₁.gSymRetval = f.driver.gSymRetval := by
    split_ifs at hd₁ with hstack
    · obtain ⟨⟨flags, rfl⟩, _⟩ := verifyRetval_eq_ok hd₁
      exact ⟨rfl, rfl⟩
    · cases hd₁
      exact ⟨rfl, rfl⟩
  obtain ⟨_, str, rfl⟩ := verifyInvariants_eq_ok hd₂
  rcases handleMaxCoverage_entrance_eq_ok hd₃ with rfl | rfl
  · simpa only [Marked, hsame] using hf
  · exact fun _ => one_ne_zero

/-- An exit that goes on keeps `bad_path` and `g_sym_retval`; if it empties the call stack, it is
the exit of the last driver function, and a valid return value has been checked. -/
lemma genExitDriver_inv {f f' : Framework} {fn : String} {wrapperType : WrapperType}
    {retvalValid : ℤ} {retval : ULong} {symbolic : Bool}
    (h : genExitDriver f fn wrapperType retvalValid retval symbolic = .ok f') :
    f'.driver.badPath = f.driver.badPath ∧ f'.driver.gSymRetval = f.driver.gSymRetval ∧
      0 ≤ f.driver.driverCallStack ∧
      f'.driver.driverCallStack = f.driver.driverCallStack + wrapperType.signed (-1) ∧
      (f'.driver.driverCallStack = 0 → wrapperType = .prepostFn → retvalValid ≠ 0 →
        f.driver.gSymRetval ≠ 0 → f.driver.badPath = 0) := by
  rw [genExitDriver] at h
  obtain ⟨_, f₁, hbody, rfl⟩ := locked_inv h
  obtain ⟨d₁, hd₁, h⟩ := bind_eq_ok.mp hbody
  rw [handleMaxCoverage_exit_eq_ok hd₁] at h
  -- The annotation may be used up here; nothing else of the state changes.
  obtain ⟨flags, hflags⟩ : ∃ flags,
      (if retvalValid ≠ 0 ∧ symbolic = false ∧ f.driver.gSymdriveAnnotations ≠ 0 then
        { f.driver with gSymdriveAnnotations := 0 } else f.driver) =
      { f.driver with gSymdriveAnnotations := flags } := by
    split_ifs
    · exact ⟨0, rfl⟩
    · exact ⟨f.driver.gSymdriveAnnotations, rfl⟩
  dsimp only at h
  rw [hflags] at h
  obtain ⟨d₂, hd₂, h⟩ := bind_eq_ok.mp h
  obtain ⟨hnonneg, str, rfl⟩ := verifyInvariants_eq_ok hd₂
  by_cases hzero : f.driver.driverCallStack + wrapperType.signed (-1) = 0
  · rw [if_pos hzero] at h
    obtain ⟨d₃, hd₃, h⟩ := bind_eq_ok.mp h
    cases h
    obtain ⟨⟨flags', rfl⟩, hbad⟩ := verifyRetval_eq_ok hd₃
    exact ⟨rfl, rfl, hnonneg, rfl, fun _ hw => hbad hw rfl⟩
  · rw [if_neg hzero] at h
    cases h
    exact ⟨rfl, rfl, hnonneg, rfl, fun h0 => absurd h0 hzero⟩

lemma marked_makeSymbolicPtr {f f' : Framework} {origRetval value : ULong} (hf : Marked f)
    (h : genMakeSymbolicPtr f origRetval value = .ok f') : Marked f' := by
  rw [genMakeSymbolicPtr] at h
  by_cases hsym : f.driver.gSymRetval = 0
  · rw [if_pos hsym] at h
    cases h
    exact hf
  · rw [if_neg hsym] at h
    obtain ⟨_, f₁, hbody, rfl⟩ := locked_inv h
    split_ifs at hbody with hsame hnull
    · cases hbody
      exact hf
    · cases hbody
      exact fun _ => hsym

lemma marked_makeSymbolicInt {f f' : Framework} {size origRetval value : ℕ} (hf : Marked f)
    (h : genMakeSymbolicInt f size origRetval value = .ok f') : Marked f' := by
  rw [genMakeSymbolicInt] at h
  by_cases hsym : f.driver.gSymRetval = 0
  · rw [if_pos hsym] at h
    cases h
    exact hf
  · rw [if_neg hsym] at h
    obtain ⟨_, f₁, hbody, rfl⟩ := locked_inv h
    obtain ⟨_, hbody⟩ := tfassertDetail_bind_eq_ok.mp hbody
    dsimp only at hbody
    split_ifs at hbody with hsame herr
    · cases hbody
      exact hf
    · cases hbody
      exact fun _ => hsym

namespace DriverEvent

lemma marked_exec {f f' : Framework} {e : DriverEvent} (hf : Marked f) (h : e.exec f = .ok f') :
    Marked f' := by
  cases e with
  | enter fn wrapperType retvalValid retval => exact marked_enter hf h
  | exit fn wrapperType retvalValid retval symbolic =>
      obtain ⟨hbad, hsym, _⟩ := genExitDriver_inv h
      rw [Marked, hbad, hsym]
      exact hf
  | makeSymbolicPtr origRetval value => exact marked_makeSymbolicPtr hf h
  | makeSymbolicInt size origRetval value => exact marked_makeSymbolicInt hf h
  | annotation flags =>
      cases h
      exact hf

/-- An exit that is no void return on a bad path is contained. -/
lemma contained_of_not_voidReturn {f : Framework} {e : DriverEvent} (hf : Marked f)
    (hvoid : ¬ e.VoidReturn f) : e.Contained f := by
  intro hexit f' h hzero
  cases e with
  | exit fn wrapperType retvalValid retval symbolic =>
      obtain ⟨hbad, _, hnonneg, hstack, hcheck⟩ := genExitDriver_inv h
      rw [hbad]
      by_contra hne
      cases wrapperType with
      | stubWrapper =>
          rw [WrapperType.signed] at hstack
          omega
      | prepostFn =>
          rw [WrapperType.signed] at hstack
          refine hne (hcheck hzero rfl (fun h0 => hvoid ⟨h0, by omega, hne⟩) (hf hne))
  | enter _ _ _ _ => exact hexit.elim
  | makeSymbolicPtr _ _ => exact hexit.elim
  | makeSymbolicInt _ _ _ => exact hexit.elim
  | annotation _ => exact hexit.elim

/-- A void return on a bad path that goes on is not contained. -/
lemma not_voidReturn_of_contained {f f' : Framework} {e : DriverEvent} (h : e.exec f = .ok f')
    (hcontained : e.Contained f) : ¬ e.VoidReturn f := by
  intro hvoid
  cases e with
  | exit fn wrapperType retvalValid retval symbolic =>
      obtain ⟨hbad, _, _, hstack, _⟩ := genExitDriver_inv h
      cases wrapperType with
      | stubWrapper => exact hvoid
      | prepostFn =>
          obtain ⟨_, hone, hne⟩ := hvoid
          rw [hone, WrapperType.signed] at hstack
          exact hne (hbad ▸ hcontained trivial f' h hstack)
  | enter _ _ _ _ => exact hvoid
  | makeSymbolicPtr _ _ => exact hvoid
  | makeSymbolicInt _ _ _ => exact hvoid
  | annotation _ => exact hvoid

end DriverEvent

/-! ## Runs -/

/-- **Bad paths are contained** along every run that starts on a good path and makes no void return
on a bad one.  The condition is exact: in a run that goes through, such a return is a path that
continues where it must not. -/
theorem bad_path_contained (events : List DriverEvent) (f : Framework)
    (hgood : f.driver.badPath = 0) :
    (Throughout DriverEvent.exec (fun f e => ¬ e.VoidReturn f) f events →
      Throughout DriverEvent.exec (fun f e => e.Contained f) f events) ∧
    ((runDriver f events).isOk = true →
      Throughout DriverEvent.exec (fun f e => e.Contained f) f events →
      Throughout DriverEvent.exec (fun f e => ¬ e.VoidReturn f) f events) := by
  have hmarked : Marked f := fun hne => absurd hgood hne
  have hstep : ∀ f (e : DriverEvent) f', Marked f → e.exec f = .ok f' → Marked f' :=
    fun f e f' hf h => e.marked_exec hf h
  refine ⟨Throughout.imp hstep (fun f e hf => e.contained_of_not_voidReturn hf) events hmarked, ?_⟩
  intro hok
  cases hrun : runDriver f events with
  | error e =>
      rw [hrun] at hok
      cases hok
  | ok f' =>
      exact Throughout.of_run_ok hstep (fun f e f' _ h => e.not_voidReturn_of_contained h)
        events hmarked hrun

/-- A kernel module with symbolic kernel return values, about to run. -/
def symbolicRetvals : Framework where
  lock := ⟨0⟩
  test := initializeDriverState
  driver := EnterExit.initial 1 ""

/-- A driver function calls the kernel, which returns a pointer; the path goes on with NULL. -/
def kernelFailure (fn : String) : List DriverEvent :=
  [.enter fn .prepostFn 0 0, .exit "kmalloc" .stubWrapper 0 0 false,
    .enter "kmalloc" .stubWrapper 1 0xc0001000, .makeSymbolicPtr 0xc0001000 0]

theorem bad_path_contained_kernelFailure :
    Throughout DriverEvent.exec (fun f e => e.Contained f) symbolicRetvals
      (kernelFailure "probe" ++ [.exit "probe" .prepostFn 1 0 false]) :=
  (bad_path_contained _ symbolicRetvals rfl).1 (by
    simp only [kernelFailure, List.cons_append, List.nil_append]
    exact ⟨by decide, by decide, by decide, by decide, by decide, trivial⟩)

/-- **A driver function that returns `void` on a bad path.**  The path goes on into the kernel. -/
theorem void_return_on_bad_path :
    ¬ Throughout DriverEvent.exec (fun f e => e.Contained f) symbolicRetvals
      (kernelFailure "tx_timeout" ++ [.exit "tx_timeout" .prepostFn 0 0 false]) := by
  intro h
  obtain ⟨_, _, _, _, hlast, _⟩ := h
  exact absurd (hlast trivial _ rfl rfl) (by decide)

end SymDrive
