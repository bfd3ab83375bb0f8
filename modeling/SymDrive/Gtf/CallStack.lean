import Mathlib.Data.List.Basic
import SymDrive.Gtf.BadPath

/-!
# The driver call stack

`driver_call_stack` counts the functions that are open: driver functions that were entered and
kernel functions that were called and have not returned.  `driver_call_stack_str` names them.
Threads interleave, so a function is closed by its name and not by its position: the name nearest to
the top is taken out and what stands above it moves down.

`StackIs` is the invariant: the array holds the names of the open functions in the order they were
opened, and `NULL` above them.  No assertion about the call stack fires as long as what is closed is
open and the functions fit (`call_stack_tracks`).
-/

namespace SymDrive

open Checked

/-! ## Open functions -/

/-- The list without the last occurrence of `fn`. -/
def eraseLast (fn : String) (names : List String) : List String := (names.reverse.erase fn).reverse

/-- A driver function opens on entry and a kernel function on exit to the kernel. -/
def opens : WrapperType → Direction → Bool
  | .prepostFn, .entrance => true
  | .prepostFn, .exit => false
  | .stubWrapper, .entrance => false
  | .stubWrapper, .exit => true

/-- The open functions after control has passed into or out of `fn`. -/
def passControl (names : List String) (fn : String) (wrapperType : WrapperType)
    (direction : Direction) : List String :=
  if opens wrapperType direction then names ++ [fn] else eraseLast fn names

/-- A function that is closed is open, and one that is opened still fits. -/
def PassLegal (names : List String) (fn : String) (wrapperType : WrapperType)
    (direction : Direction) : Prop :=
  if opens wrapperType direction then (names.length : ℤ) + 1 < driverCallStackMax - 1
  else fn ∈ names

instance (names : List String) (fn : String) (wrapperType : WrapperType) (direction : Direction) :
    Decidable (PassLegal names fn wrapperType direction) := by
  unfold PassLegal
  infer_instance

namespace DriverEvent

/-- The open functions after an event. -/
def openAfter (names : List String) : DriverEvent → List String
  | enter fn wrapperType _ _ => passControl names fn wrapperType .entrance
  | exit fn wrapperType _ _ _ => passControl names fn wrapperType .exit
  | _ => names

def StackLegal (names : List String) : DriverEvent → Prop
  | enter fn wrapperType _ _ => PassLegal names fn wrapperType .entrance
  | exit fn wrapperType _ _ _ => PassLegal names fn wrapperType .exit
  | _ => True

instance (names : List String) : ∀ e : DriverEvent, Decidable (e.StackLegal names)
  | enter fn wrapperType _ _ =>
      inferInstanceAs (Decidable (PassLegal names fn wrapperType .entrance))
  | exit fn wrapperType _ _ _ => inferInstanceAs (Decidable (PassLegal names fn wrapperType .exit))
  | makeSymbolicPtr _ _ => inferInstanceAs (Decidable True)
  | makeSymbolicInt _ _ _ => inferInstanceAs (Decidable True)
  | annotation _ => inferInstanceAs (Decidable True)

end DriverEvent

/-- The array holds the names of the open functions in its first `driver_call_stack` slots, and
`NULL` in the others. -/
structure StackIs (d : EnterExit) (names : List String) : Prop where
  count : d.driverCallStack = names.length
  slots : ∀ i : ℕ, (i : ℤ) < driverCallStackMax → d.driverCallStackStr i = names[i]?

/-- The path ends for another reason than an assertion about the call stack. -/
def Fault.OutsideCallStack (e : Fault) : Prop :=
  ¬ e.InFuncs [.manageCallStack, .popDriverCallStack, .verifyInvariants]

/-! ## Pushing and popping -/

lemma eraseLast_append {fn : String} {xs ys : List String} (h : fn ∉ ys) :
    eraseLast fn (xs ++ fn :: ys) = xs ++ ys := by
  have hrev : (xs ++ fn :: ys).reverse = ys.reverse ++ fn :: xs.reverse := by simp
  rw [eraseLast, hrev, List.erase_append_right _ (by simpa using h), List.erase_cons_head]
  simp

/-- A search from the top finds the highest position. -/
lemma find?_reverse_range {p : ℕ → Bool} {n i : ℕ}
    (h : (List.range n).reverse.find? p = some i) :
    i < n ∧ p i = true ∧ ∀ j, i < j → j < n → p j = false := by
  induction n with
  | zero => simp at h
  | succ n ih =>
      rw [List.range_succ, List.reverse_append, List.reverse_singleton, List.singleton_append,
        List.find?_cons] at h
      cases hn : p n with
      | true =>
          rw [hn] at h
          obtain rfl : n = i := Option.some.inj h
          exact ⟨Nat.lt_succ_self n, hn, fun j hlo hhi => by omega⟩
      | false =>
          rw [hn] at h
          obtain ⟨hlt, hp, htop⟩ := ih h
          refine ⟨Nat.lt_succ_of_lt hlt, hp, fun j hlo hhi => ?_⟩
          by_cases hj : j = n
          · rw [hj, hn]
          · exact htop j hlo (by omega)

/-- What a search from the top finds, is found at its last position. -/
lemma eraseLast_eq_eraseIdx {names : List String} {fn : String} {i : ℕ} (hi : names[i]? = some fn)
    (htop : ∀ j, i < j → names[j]? ≠ some fn) : eraseLast fn names = names.eraseIdx i := by
  obtain ⟨hlt, hget⟩ := List.getElem?_eq_some_iff.mp hi
  have hsplit : names = names.take i ++ fn :: names.drop (i + 1) := by
    rw [← hget, List.getElem_cons_drop, List.take_append_drop]
  have hnot : fn ∉ names.drop (i + 1) := by
    intro hmem
    obtain ⟨k, hk⟩ := List.mem_iff_getElem?.mp hmem
    rw [List.getElem?_drop] at hk
    exact htop (i + 1 + k) (by omega) hk
  calc eraseLast fn names = eraseLast fn (names.take i ++ fn :: names.drop (i + 1)) :=
        congrArg _ hsplit
    _ = names.take i ++ names.drop (i + 1) := eraseLast_append hnot
    _ = names.eraseIdx i := (List.eraseIdx_eq_take_drop_succ names i).symm

section

variable {d : EnterExit} {names : List String} {fn : String}

/-- The counter is the index of the slot above the open functions. -/
lemma StackIs.push (h : StackIs d names) :
    StackIs { pushDriverCallStack d fn with driverCallStack := d.driverCallStack + 1 }
      (names ++ [fn]) where
  count := by
    rw [List.length_append, List.length_singleton, h.count]
    push_cast
    rfl
  slots := by
    intro i hi
    show Function.update d.driverCallStackStr d.driverCallStack (some fn) (i : ℤ) = _
    rw [h.count]
    rcases lt_trichotomy i names.length with hlt | heq | hgt
    · rw [Function.update_of_ne (by omega), h.slots i hi, List.getElem?_append_left hlt]
    · subst heq
      rw [Function.update_self, List.getElem?_concat_length]
    · rw [Function.update_of_ne (by omega), h.slots i hi, List.getElem?_eq_none (by omega),
        List.getElem?_eq_none (by simp; omega)]

/-- The name is found at its last position, and taking it out there is taking out its last
occurrence. -/
lemma StackIs.pop (h : StackIs d names) (hfit : (names.length : ℤ) < driverCallStackMax)
    (hopen : fn ∈ names) :
    ∃ d', popDriverCallStack { d with driverCallStack := d.driverCallStack - 1 } fn = .ok d' ∧
      StackIs d' (eraseLast fn names) ∧
      ∃ str, d' =
        { d with driverCallStack := d.driverCallStack - 1, driverCallStackStr := str } := by
  have hfind : ∃ i, (List.range driverCallStackMax.toNat).reverse.find?
      (fun (i : ℕ) => d.driverCallStackStr i == some fn) = some i := by
    rw [← Option.ne_none_iff_exists']
    intro hnone
    obtain ⟨i, hi⟩ := List.mem_iff_getElem?.mp hopen
    obtain ⟨hlt, _⟩ := List.getElem?_eq_some_iff.mp hi
    have hfits : (i : ℤ) < driverCallStackMax := by omega
    have hmem : i ∈ (List.range driverCallStackMax.toNat).reverse :=
      List.mem_reverse.mpr (List.mem_range.mpr (by omega))
    exact List.find?_eq_none.mp hnone i hmem (by rw [h.slots i hfits, hi]; exact beq_self_eq_true _)
  obtain ⟨i, hfind⟩ := hfind
  obtain ⟨hlt, hp, htop⟩ := find?_reverse_range hfind
  have hi : names[i]? = some fn := by
    rw [← h.slots i (by omega)]
    exact beq_iff_eq.mp hp
  have htop' : ∀ j, i < j → names[j]? ≠ some fn := by
    intro j hj
    by_cases hjlt : j < driverCallStackMax.toNat
    · rw [← h.slots j (by omega)]
      exact beq_eq_false_iff_ne.mp (htop j hj hjlt)
    · rw [List.getElem?_eq_none (by omega)]
      exact fun hno => nomatch hno
  have hilt : i < names.length := (List.getElem?_eq_some_iff.mp hi).1
  refine ⟨{ d with driverCallStack := d.driverCallStack - 1,
                   driverCallStackStr := shiftBack d.driverCallStackStr i },
    ?_, ⟨?_, ?_⟩, _, rfl⟩
  · rw [popDriverCallStack]
    simp only [hfind]
  · rw [eraseLast_eq_eraseIdx hi htop', List.length_eraseIdx_of_lt hilt]
    show d.driverCallStack - 1 = _
    rw [h.count]
    omega
  · intro j hj
    rw [eraseLast_eq_eraseIdx hi htop', List.getElem?_eraseIdx]
    show shiftBack d.driverCallStackStr i j = _
    rw [shiftBack]
    simp only [Int.ofNat_lt]
    split_ifs with hlo hmid hlast
    · exact h.slots j hj
    · exact_mod_cast h.slots (j + 1) (by push_cast; omega)
    · rw [List.getElem?_eq_none (by omega)]
    · omega

/-- The direction in which `manage_call_stack` is told to count. -/
def Direction.add : Direction → ℤ
  | .entrance => 1
  | .exit => -1

/-- The assertions around the counting, with the counting itself in between. -/
lemma manageCallStack_of_counted {l : GlobalLock} {d' : EnterExit} {wrapperType : WrapperType}
    {direction : Direction}
    (hbefore : 0 ≤ d.driverCallStack ∧ d.driverCallStack < driverCallStackMax)
    (hafter : 0 ≤ d'.driverCallStack ∧ d'.driverCallStack < driverCallStackMax)
    (hopened : opens wrapperType direction = true →
      d' = { pushDriverCallStack d fn with driverCallStack := d.driverCallStack + 1 })
    (hclosed : opens wrapperType direction = false →
      popDriverCallStack { d with driverCallStack := d.driverCallStack - 1 } fn = .ok d') :
    manageCallStack l d fn direction.add wrapperType = (assertGlobalLock l).map fun _ => d' := by
  unfold manageCallStack
  rw [tfassertDetail_of_true (by cases direction <;> decide), ok_bind,
    tfassertDetail_of_true hbefore, ok_bind]
  cases hopens : opens wrapperType direction with
  | true =>
      have hd := hopened hopens
      subst hd
      cases wrapperType <;> cases direction <;> cases hopens
      all_goals
        show (tfassertDetail _ (d.driverCallStack + 1 ≥ 0 ∧
          d.driverCallStack + 1 < driverCallStackMax) _ >>= _) = _
        rw [tfassertDetail_of_true hafter]
        rfl
  | false =>
      have hd := hclosed hopens
      cases wrapperType <;> cases direction <;> cases hopens
      all_goals
        show (popDriverCallStack { d with driverCallStack := d.driverCallStack - 1 } fn >>= _) = _
        rw [hd, ok_bind, tfassertDetail_of_true hafter]
        rfl

/-- A legal pass of control keeps the call stack, and no assertion about it fires. -/
lemma StackIs.pass (h : StackIs d names) (hfit : (names.length : ℤ) < driverCallStackMax - 1)
    (l : GlobalLock) {wrapperType : WrapperType} {direction : Direction}
    (hlegal : PassLegal names fn wrapperType direction) :
    ∃ d', StackIs d' (passControl names fn wrapperType direction) ∧
      ((passControl names fn wrapperType direction).length : ℤ) < driverCallStackMax - 1 ∧
      manageCallStack l d fn direction.add wrapperType =
        (assertGlobalLock l).map fun _ => d' := by
  have hcount : d.driverCallStack = names.length := h.count
  have hbefore : 0 ≤ d.driverCallStack ∧ d.driverCallStack < driverCallStackMax := by omega
  cases hopens : opens wrapperType direction with
  | true =>
      rw [PassLegal, if_pos hopens] at hlegal
      rw [passControl, if_pos hopens]
      refine ⟨_, h.push, ?_, manageCallStack_of_counted hbefore ?_ (fun _ => rfl) ?_⟩
      · rw [List.length_append, List.length_singleton]
        push_cast
        exact hlegal
      · show 0 ≤ d.driverCallStack + 1 ∧ d.driverCallStack + 1 < driverCallStackMax
        omega
      · intro hclosed
        rw [hopens] at hclosed
        cases hclosed
  | false =>
      have hne : ¬ opens wrapperType direction = true := by rw [hopens]; decide
      rw [PassLegal, if_neg hne] at hlegal
      rw [passControl, if_neg hne]
      obtain ⟨d', hpop, hstack, _⟩ := h.pop (by omega) hlegal
      have hlength : (eraseLast fn names).length ≤ names.length := by
        rw [eraseLast, List.length_reverse]
        exact List.length_erase_le.trans_eq List.length_reverse
      have hcount' : d'.driverCallStack = (eraseLast fn names).length := hstack.count
      refine ⟨d', hstack, by omega, manageCallStack_of_counted hbefore (by omega) ?_ fun _ => hpop⟩
      intro hopened
      exact absurd hopened hne

/-- So `verify_invariants` goes through under the lock. -/
lemma StackIs.verify (h : StackIs d names) (hfit : (names.length : ℤ) < driverCallStackMax - 1)
    {wrapperType : WrapperType} {direction : Direction}
    (hlegal : PassLegal names fn wrapperType direction) :
    ∃ d', verifyInvariants ⟨1⟩ d fn direction.add wrapperType = .ok d' ∧
      StackIs d' (passControl names fn wrapperType direction) ∧
      ((passControl names fn wrapperType direction).length : ℤ) < driverCallStackMax - 1 := by
  obtain ⟨d', hstack, hfit', hmanage⟩ := h.pass hfit ⟨1⟩ hlegal
  have hcount : d'.driverCallStack = _ := hstack.count
  have hlow : ¬ d'.driverCallStack < 0 := by omega
  have hhigh : ¬ d'.driverCallStack ≥ driverCallStackMax - 1 := by omega
  refine ⟨d', ?_, hstack, hfit'⟩
  rw [verifyInvariants, hmanage]
  show (tfassertDetail _ (¬ d'.driverCallStack < 0) _ >>= _) = Except.ok d'
  rw [tfassertDetail_of_true hlow, ok_bind, tfassertDetail_of_true hhigh, ok_bind]

/-- Only the counter and the array matter. -/
lemma StackIs.congr {d' : EnterExit} (h : StackIs d names)
    (hcount : d'.driverCallStack = d.driverCallStack)
    (hslots : d'.driverCallStackStr = d.driverCallStackStr) : StackIs d' names where
  count := hcount.trans h.count
  slots := by
    rw [hslots]
    exact h.slots

end

/-! ## Other reasons to end a path -/

section

variable {d : EnterExit} {fn : String} {retvalValid : ℤ} {retval : ULong}

lemma outside_assertion {func : Func} {msg : String}
    (h : func ∉ [Func.manageCallStack, .popDriverCallStack, .verifyInvariants]) :
    (Fault.assertion func msg).OutsideCallStack :=
  h

lemma outside_killState (msg : String) : (Fault.killState msg).OutsideCallStack := fun h => h

lemma outside_verifySymretval : FaultsIn Fault.OutsideCallStack (verifySymretval d) := by
  rw [verifySymretval]
  split_ifs
  · exact faultsIn_error.mpr (outside_killState _)
  · exact faultsIn_ok d
  · exact faultsIn_error.mpr (outside_killState _)
  · exact faultsIn_ok d
  · exact faultsIn_error.mpr (outside_assertion (by decide))

lemma outside_verifyRetval {wrapperType : WrapperType} {dir : Direction} :
    FaultsIn Fault.OutsideCallStack (verifyRetval d wrapperType dir retvalValid retval) := by
  rw [verifyRetval]
  refine (faultsIn_tfassert (outside_assertion (by decide))).bind fun _ _ => ?_
  dsimp only
  split_ifs
  all_goals first
    | exact faultsIn_ok _
    | exact outside_verifySymretval
    | exact faultsIn_error.mpr (outside_killState _)
    | exact faultsIn_error.mpr (outside_assertion (by decide))

lemma outside_handleMaxCoverage {direction : Direction} :
    FaultsIn Fault.OutsideCallStack (handleMaxCoverage d fn retvalValid retval direction) := by
  cases direction with
  | entrance =>
      rw [handleMaxCoverage]
      split_ifs
      · exact faultsIn_ok _
      · exact faultsIn_ok _
  | exit =>
      rw [handleMaxCoverage]
      split_ifs
      · exact faultsIn_ok _
      · exact faultsIn_error.mpr (outside_killState _)
      · exact faultsIn_error.mpr (outside_killState _)

/-- Taking and releasing the lock faults for reasons of its own. -/
lemma outside_locked {f : Framework} {body : Framework → Except Fault Framework}
    (h : FaultsIn Fault.OutsideCallStack (body { f with lock := ⟨1⟩ })) :
    FaultsIn Fault.OutsideCallStack (f.locked body) := by
  rw [Framework.locked]
  have hacquire : FaultsIn Fault.OutsideCallStack (acquireGlobalLock f.lock) := by
    rw [acquireGlobalLock]
    split_ifs
    · exact faultsIn_error.mpr fun h => h
    · exact (faultsIn_tfassertDetail (outside_assertion (by decide))).bind fun _ _ => faultsIn_ok _
  refine hacquire.bind fun l hl => ?_
  obtain ⟨_, rfl⟩ := acquireGlobalLock_eq_ok.mp hl
  refine h.bind fun f' _ => ?_
  rw [releaseGlobalLock]
  exact ((faultsIn_tfassertDetail (outside_assertion (by decide))).bind
    fun _ _ => faultsIn_ok _).bind fun _ _ => faultsIn_ok _

end

/-! ## Runs -/

/-- The call stack is that of the open functions. -/
def Tracks (f : Framework) (names : List String) : Prop :=
  StackIs f.driver names ∧ (names.length : ℤ) < driverCallStackMax - 1

lemma outcome_enter {f : Framework} {names : List String} {fn : String} {wrapperType : WrapperType}
    {retvalValid : ℤ} {retval : ULong} (h : Tracks f names)
    (hlegal : PassLegal names fn wrapperType .entrance) :
    Outcome Tracks Fault.OutsideCallStack (passControl names fn wrapperType .entrance)
      (genEnterDriver f fn wrapperType retvalValid retval) := by
  obtain ⟨hstack, hfit⟩ := h
  -- What `verify_retval` lets through is the same call stack.
  have hstart : ∀ d₁, (if f.driver.driverCallStack = 0 then
      verifyRetval f.driver wrapperType .entrance retvalValid retval else .ok f.driver) = .ok d₁ →
      StackIs d₁ names := by
    intro d₁ hd₁
    split_ifs at hd₁ with hzero
    · obtain ⟨⟨flags, rfl⟩, _⟩ := verifyRetval_eq_ok hd₁
      exact hstack.congr rfl rfl
    · cases hd₁
      exact hstack
  refine Outcome.of_faultsIn (outside_locked (FaultsIn.bind ?_ fun d₁ hd₁ => ?_)) fun f' hf' => ?_
  · dsimp only
    split_ifs
    · exact outside_verifyRetval
    · exact faultsIn_ok _
  · obtain ⟨d₂, hverify, _⟩ := (hstart d₁ hd₁).verify hfit hlegal
    rw [Direction.add] at hverify
    show FaultsIn _ (verifyInvariants ⟨1⟩ d₁ fn 1 wrapperType >>= _)
    rw [hverify]
    exact outside_handleMaxCoverage.bind fun _ _ => faultsIn_ok _
  · rw [genEnterDriver] at hf'
    obtain ⟨_, f₁, hbody, rfl⟩ := locked_inv hf'
    obtain ⟨d₁, hd₁, hbody⟩ := bind_eq_ok.mp hbody
    obtain ⟨d₂, hverify, hstack', hfit'⟩ := (hstart d₁ hd₁).verify hfit hlegal
    rw [Direction.add] at hverify
    change (verifyInvariants ⟨1⟩ d₁ fn 1 wrapperType >>= _) = _ at hbody
    rw [hverify, ok_bind] at hbody
    obtain ⟨d₃, hd₃, hbody⟩ := bind_eq_ok.mp hbody
    cases hbody
    refine ⟨?_, hfit'⟩
    rcases handleMaxCoverage_entrance_eq_ok hd₃ with rfl | rfl
    · exact hstack'
    · exact hstack'.congr rfl rfl

lemma outcome_exit {f : Framework} {names : List String} {fn : String} {wrapperType : WrapperType}
    {retvalValid : ℤ} {retval : ULong} {symbolic : Bool} (h : Tracks f names)
    (hlegal : PassLegal names fn wrapperType .exit) :
    Outcome Tracks Fault.OutsideCallStack (passControl names fn wrapperType .exit)
      (genExitDriver f fn wrapperType retvalValid retval symbolic) := by
  obtain ⟨hstack, hfit⟩ := h
  -- Using up the annotation leaves the call stack alone.
  have hused : StackIs (if retvalValid ≠ 0 ∧ symbolic = false ∧ f.driver.gSymdriveAnnotations ≠ 0
      then { f.driver with gSymdriveAnnotations := 0 } else f.driver) names := by
    split_ifs
    · exact hstack.congr rfl rfl
    · exact hstack
  obtain ⟨d₂, hverify, hstack', hfit'⟩ := hused.verify hfit hlegal
  rw [Direction.add] at hverify
  refine Outcome.of_faultsIn
    (outside_locked (outside_handleMaxCoverage.bind fun d₁ hd₁ => ?_)) fun f' hf' => ?_
  · rw [handleMaxCoverage_exit_eq_ok hd₁]
    dsimp only
    rw [hverify, ok_bind]
    split_ifs
    all_goals first
      | exact faultsIn_ok _
      | exact outside_verifyRetval.bind fun _ _ => faultsIn_ok _
  · rw [genExitDriver] at hf'
    obtain ⟨_, f₁, hbody, rfl⟩ := locked_inv hf'
    obtain ⟨d₁, hd₁, hbody⟩ := bind_eq_ok.mp hbody
    rw [handleMaxCoverage_exit_eq_ok hd₁] at hbody
    dsimp only at hbody
    rw [hverify, ok_bind] at hbody
    refine ⟨?_, hfit'⟩
    split_ifs at hbody
    all_goals first
      | cases hbody
        exact hstack'
      | obtain ⟨d₃, hd₃, hbody⟩ := bind_eq_ok.mp hbody
        cases hbody
        obtain ⟨⟨flags, rfl⟩, _⟩ := verifyRetval_eq_ok hd₃
        exact hstack'.congr rfl rfl

lemma outcome_makeSymbolicPtr {f : Framework} {names : List String} {origRetval value : ULong}
    (h : Tracks f names) :
    Outcome Tracks Fault.OutsideCallStack names (genMakeSymbolicPtr f origRetval value) := by
  rw [genMakeSymbolicPtr]
  by_cases hsym : f.driver.gSymRetval = 0
  · rw [if_pos hsym]
    exact h
  · rw [if_neg hsym]
    refine Outcome.of_faultsIn (outside_locked ?_) fun f' hf' => ?_
    · split_ifs
      · exact faultsIn_ok _
      · exact faultsIn_ok _
      · exact faultsIn_error.mpr (outside_killState _)
    · obtain ⟨_, f₁, hbody, rfl⟩ := locked_inv hf'
      split_ifs at hbody <;> cases hbody
      · exact h
      · exact ⟨h.1.congr rfl rfl, h.2⟩

lemma outcome_makeSymbolicInt {f : Framework} {names : List String} {size origRetval value : ℕ}
    (h : Tracks f names) :
    Outcome Tracks Fault.OutsideCallStack names (genMakeSymbolicInt f size origRetval value) := by
  rw [genMakeSymbolicInt]
  by_cases hsym : f.driver.gSymRetval = 0
  · rw [if_pos hsym]
    exact h
  · rw [if_neg hsym]
    refine Outcome.of_faultsIn (outside_locked
      ((faultsIn_tfassertDetail (outside_assertion (by decide))).bind fun _ _ => ?_))
      fun f' hf' => ?_
    · dsimp only
      split_ifs
      · exact faultsIn_ok _
      · exact faultsIn_ok _
      · exact faultsIn_error.mpr (outside_killState _)
    · obtain ⟨_, f₁, hbody, rfl⟩ := locked_inv hf'
      obtain ⟨_, hbody⟩ := tfassertDetail_bind_eq_ok.mp hbody
      dsimp only at hbody
      split_ifs at hbody <;> cases hbody
      · exact h
      · exact ⟨h.1.congr rfl rfl, h.2⟩

/-- **Every event keeps the call stack**, or ends the path for another reason. -/
lemma outcome_exec (f : Framework) (names : List String) (e : DriverEvent) (h : Tracks f names)
    (hlegal : e.StackLegal names) :
    Outcome Tracks Fault.OutsideCallStack (e.openAfter names) (e.exec f) := by
  cases e with
  | enter fn wrapperType retvalValid retval => exact outcome_enter h hlegal
  | exit fn wrapperType retvalValid retval symbolic => exact outcome_exit h hlegal
  | makeSymbolicPtr origRetval value => exact outcome_makeSymbolicPtr h
  | makeSymbolicInt size origRetval value => exact outcome_makeSymbolicInt h
  | annotation flags => exact ⟨h.1.congr rfl rfl, h.2⟩

/-- **The driver call stack.**  Along every run in which a closing names an open function and the
functions fit, no assertion about the call stack fires, and the call stack is that of the open
functions. -/
theorem call_stack_tracks (f : Framework) (hf : StackIs f.driver []) (events : List DriverEvent)
    (hlegal : Along DriverEvent.openAfter DriverEvent.StackLegal [] events) :
    Outcome (fun f' names => StackIs f'.driver names) Fault.OutsideCallStack
      (events.foldl DriverEvent.openAfter []) (runDriver f events) := by
  have hrun := Along.outcome outcome_exec events (s := f) (t := []) ⟨hf, by decide⟩ hlegal
  rw [runDriver]
  cases hevents : events.foldlM DriverEvent.exec f with
  | error e =>
      rw [hevents] at hrun
      exact hrun
  | ok f' =>
      rw [hevents] at hrun
      exact hrun.1

/-- Two threads enter the driver and the first one leaves first. -/
theorem call_stack_tracks_interleaved :
    Outcome (fun f' names => StackIs f'.driver names) Fault.OutsideCallStack ["ioctl"]
      (runDriver symbolicRetvals
        [.enter "open" .prepostFn 0 0, .enter "ioctl" .prepostFn 0 0,
          .exit "open" .prepostFn 1 0 false]) :=
  call_stack_tracks symbolicRetvals ⟨rfl, fun _ _ => rfl⟩
    [.enter "open" .prepostFn 0 0, .enter "ioctl" .prepostFn 0 0, .exit "open" .prepostFn 1 0 false]
    ⟨by decide, by decide, by decide, trivial⟩

end SymDrive
