import SymDrive.Gtf.DriverState

/-!
# Enabling and disabling the PCI device

`misc_checks/pci.c`: the checks of `pci_enable_device` and `pci_disable_device` keep the recorded
device state.

A failed enable is recorded by the same `set_device_state` as a successful disable, which accepts it
only from `DEVICE_STATE_UNDEFINED`.  So the record follows the device for as long as no enable fails
after the first operation (`pci_enable_tracking_iff`).
-/

namespace SymDrive

open Checked

/-! ## The check routines -/

def pciEnableDeviceMJRcheck (s : CheckState) (prepost retval : ℤ) : Except Fault CheckState :=
  checkRoutine s <| prepostBody .pciEnableDevice prepost
    (fun r => do
      tfassert (.check .pciEnableDevice) (r.pciEnabled = .disabled ∨ r.pciEnabled = .undefined)
      .ok r)
    (fun r => do
      let state ← setDeviceState r.pciEnabled (if retval = 0 then .enabled else .disabled)
      .ok { r with pciEnabled := state })

/-- `pci_enable_device_mem_MJRcheck` leaves the lock to the routine it calls. -/
def pciEnableDeviceMemMJRcheck (s : CheckState) (prepost retval : ℤ) : Except Fault CheckState :=
  pciEnableDeviceMJRcheck s prepost retval

def pciDisableDeviceMJRcheck (s : CheckState) (prepost : ℤ) : Except Fault CheckState :=
  checkRoutine s <| prepostBody .pciDisableDevice prepost
    (fun r => do
      tfassert (.check .pciDisableDevice) (r.pciEnabled = .enabled)
      tfassert (.check .pciDisableDevice)
        (r.ndo.registerNetdev = .notCalled ∨ r.ndo.registerNetdev = .calledFailed)
      tfassert (.check .pciDisableDevice)
        (r.ndo.unregisterNetdev = .notCalled ∨ r.ndo.unregisterNetdev = .calledFailed)
      .ok r)
    (fun r => do
      let state ← setDeviceState r.pciEnabled .disabled
      .ok { r with pciEnabled := state })

/-! ## Operations -/

/-- A call of the driver, with the value the kernel returns. -/
inductive PciOp where
  | enable (retval : ℤ)
  | enableMem (retval : ℤ)
  | disable

namespace PciOp

/-- The check before the kernel function (`prepost` 0) or after it (`prepost` 1). -/
def check (s : CheckState) (prepost : ℤ) : PciOp → Except Fault CheckState
  | enable retval => pciEnableDeviceMJRcheck s prepost retval
  | enableMem retval => pciEnableDeviceMemMJRcheck s prepost retval
  | disable => pciDisableDeviceMJRcheck s prepost

def exec (s : CheckState) (op : PciOp) : Except Fault CheckState := do
  let s ← op.check s 0
  op.check s 1

/-- The preconditions of the hook hold. -/
def Legal (s : CheckState) (op : PciOp) : Prop := ∃ s', op.check s 0 = .ok s'

/-- An enable that the kernel refuses. -/
def Failed : PciOp → Prop
  | enable retval | enableMem retval => retval ≠ 0
  | disable => False

instance : DecidablePred Failed
  | enable retval => inferInstanceAs (Decidable (retval ≠ 0))
  | enableMem retval => inferInstanceAs (Decidable (retval ≠ 0))
  | disable => inferInstanceAs (Decidable False)

/-- Whether the last operation that took effect was a successful enable, given whether it was so
before this one.  A failed enable takes no effect. -/
def effect (enabled : Bool) : PciOp → Bool
  | enable retval | enableMem retval => if retval = 0 then true else enabled
  | disable => false

/-- The device state the postcondition of the hook sets. -/
def target : PciOp → DeviceState
  | enable retval | enableMem retval => if retval = 0 then .enabled else .disabled
  | disable => .disabled

end PciOp

/-- The recorded state says whether the last operation that took effect was a successful enable. -/
def RecordsEnabled (s : CheckState) (enabled : Bool) : Prop :=
  s.records.pciEnabled = .enabled ↔ enabled = true

/-- **The specification of a sequence of operations**: no check asserts, and after each pair of
checks the record is right. -/
def EnableTracked (s : CheckState) (ops : List PciOp) : Prop :=
  Simulates PciOp.exec PciOp.effect RecordsEnabled s false ops

/-! ## What one operation does -/

namespace PciOp

/-- The state the record is in before a legal operation. -/
def LegalFrom (state : DeviceState) : PciOp → Prop
  | enable _ | enableMem _ => state ≠ .enabled
  | disable => state = .enabled

/-- A legal operation records its target, if `set_device_state` lets it. -/
lemma exec_of_legal {r : Records} {op : PciOp} (h : Legal (.free r) op) :
    LegalFrom r.pciEnabled op ∧
      exec (.free r) op = (setDeviceState r.pciEnabled op.target).map fun state =>
        CheckState.free { r with pciEnabled := state } := by
  obtain ⟨s', hpre⟩ := h
  cases op with
  | enable retval | enableMem retval =>
      simp only [check, pciEnableDeviceMemMJRcheck, pciEnableDeviceMJRcheck, checkRoutine_free,
        prepostBody_zero] at hpre
      obtain ⟨_, hpre, _⟩ := map_eq_ok.mp hpre
      obtain ⟨hstate, _⟩ := tfassert_bind_eq_ok.mp hpre
      refine ⟨?_, ?_⟩
      · rintro hen
        rw [hen] at hstate
        simp at hstate
      · simp only [exec, check, pciEnableDeviceMemMJRcheck, pciEnableDeviceMJRcheck,
          checkRoutine_pair, prepostBody_zero, prepostBody_one, tfassert_of_true hstate, ok_bind,
          target]
        cases setDeviceState r.pciEnabled (if retval = 0 then .enabled else .disabled) <;> rfl
  | disable =>
      simp only [check, pciDisableDeviceMJRcheck, checkRoutine_free, prepostBody_zero] at hpre
      obtain ⟨_, hpre, _⟩ := map_eq_ok.mp hpre
      obtain ⟨hstate, hpre⟩ := tfassert_bind_eq_ok.mp hpre
      obtain ⟨hregister, hpre⟩ := tfassert_bind_eq_ok.mp hpre
      obtain ⟨hunregister, _⟩ := tfassert_bind_eq_ok.mp hpre
      refine ⟨hstate, ?_⟩
      simp only [exec, check, pciDisableDeviceMJRcheck, checkRoutine_pair, prepostBody_zero,
        prepostBody_one, tfassert_of_true hstate, tfassert_of_true hregister,
        tfassert_of_true hunregister, ok_bind, target]
      cases setDeviceState r.pciEnabled .disabled <;> rfl

/-- After a first operation `set_device_state` refuses exactly the failed enables. -/
lemma setDeviceState_target {state : DeviceState} {op : PciOp} (hdef : state ≠ .undefined)
    (hlegal : LegalFrom state op) :
    (∃ state', setDeviceState state op.target = .ok state') ↔ ¬ op.Failed := by
  cases op with
  | enable retval | enableMem retval =>
      by_cases h : retval = 0
      · cases state <;> simp_all [LegalFrom, target, Failed, setDeviceState]
      · cases state <;> simp_all [LegalFrom, target, Failed, setDeviceState]
  | disable =>
      rw [LegalFrom] at hlegal
      subst hlegal
      simp [target, Failed, setDeviceState]

lemma setDeviceState_undefined (newState : DeviceState) :
    setDeviceState .undefined newState = .ok newState :=
  rfl

lemma setDeviceState_ok {state newState state' : DeviceState}
    (h : setDeviceState state newState = .ok state') : state' = newState := by
  cases state <;> cases newState <;> cases state' <;> first | rfl | cases h

/-- The target is `ENABLED` iff the operation is a successful enable. -/
lemma target_eq_enabled_iff (op : PciOp) : op.target = .enabled ↔ op.effect false = true := by
  cases op with
  | enable retval | enableMem retval =>
      by_cases h : retval = 0 <;> simp [target, effect, h]
  | disable => simp [target, effect]

lemma target_ne_undefined (op : PciOp) : op.target ≠ .undefined := by
  cases op with
  | enable retval | enableMem retval =>
      by_cases h : retval = 0 <;> simp [target, h]
  | disable => simp [target]

/-- An operation that takes effect decides the record by itself. -/
lemma effect_of_not_failed {op : PciOp} (h : ¬ op.Failed) (b : Bool) :
    op.effect b = op.effect false := by
  cases op with
  | enable retval | enableMem retval =>
      have h0 : retval = 0 := not_not.mp h
      simp [effect, h0]
  | disable => rfl

end PciOp

/-! ## Sequences of operations -/

/-- Once the record is defined, it follows a legal sequence iff no enable of it fails. -/
lemma enableTracked_defined (ops : List PciOp) :
    ∀ {r : Records} {b : Bool}, r.pciEnabled ≠ .undefined → (r.pciEnabled = .enabled ↔ b = true) →
      Throughout PciOp.exec PciOp.Legal (.free r) ops →
      (Simulates PciOp.exec PciOp.effect RecordsEnabled (.free r) b ops ↔
        ∀ op ∈ ops, ¬ op.Failed) := by
  induction ops with
  | nil => exact fun _ hb _ => ⟨fun _ op hop => absurd hop (List.not_mem_nil), fun _ => hb⟩
  | cons op ops ih =>
      rintro r b hdef hb ⟨hlegal, hrest⟩
      obtain ⟨hfrom, hexec⟩ := PciOp.exec_of_legal hlegal
      have htarget := PciOp.setDeviceState_target hdef hfrom
      rw [List.forall_mem_cons, Simulates]
      cases hset : setDeviceState r.pciEnabled op.target with
      | error e =>
          rw [hset] at htarget
          have hfailed : op.Failed := not_not.mp fun h => by simpa using htarget.mpr h
          refine iff_of_false ?_ fun h => h.1 hfailed
          rintro ⟨_, s', h, _⟩
          rw [hexec, hset] at h
          cases h
      | ok state =>
          have hok : ¬ op.Failed := htarget.mp ⟨state, hset⟩
          have hrun : PciOp.exec (.free r) op = .ok (.free { r with pciEnabled := op.target }) := by
            rw [hexec, hset, PciOp.setDeviceState_ok hset]
            rfl
          rw [hrun] at hrest
          have hnext := ih (b := op.effect b) (PciOp.target_ne_undefined op)
            (by rw [PciOp.effect_of_not_failed hok]; exact PciOp.target_eq_enabled_iff op) hrest
          rw [← hnext]
          constructor
          · rintro ⟨_, s', h, hsim⟩
            rw [hrun] at h
            cases h
            exact ⟨hok, hsim⟩
          · rintro ⟨_, hsim⟩
            exact ⟨hb, _, hrun, hsim⟩

/-- **Enabling and disabling is tracked** along a legal sequence of operations iff no enable fails
after the first operation. -/
theorem pci_enable_tracking_iff (r : Records) (hr : r.pciEnabled = .undefined) (ops : List PciOp)
    (hlegal : Throughout PciOp.exec PciOp.Legal (.free r) ops) :
    EnableTracked (.free r) ops ↔ ∀ op ∈ ops.tail, ¬ op.Failed := by
  cases ops with
  | nil =>
      refine iff_of_true ?_ fun op hop => absurd hop (List.not_mem_nil)
      show r.pciEnabled = .enabled ↔ false = true
      rw [hr]
      decide
  | cons op ops =>
      obtain ⟨hop, hrest⟩ := hlegal
      have hrun : PciOp.exec (.free r) op = .ok (.free { r with pciEnabled := op.target }) := by
        rw [(PciOp.exec_of_legal hop).2, hr, PciOp.setDeviceState_undefined]
        rfl
      rw [hrun] at hrest
      have hnext := enableTracked_defined ops (b := op.effect false)
        (PciOp.target_ne_undefined op) (PciOp.target_eq_enabled_iff op) hrest
      rw [List.tail_cons, ← hnext]
      constructor
      · rintro ⟨_, s', h, hsim⟩
        rw [hrun] at h
        cases h
        exact hsim
      · intro hsim
        refine ⟨?_, _, hrun, hsim⟩
        show r.pciEnabled = .enabled ↔ false = true
        rw [hr]
        decide

/-- The first enable fails, the second succeeds, and the device is disabled again. -/
theorem pci_enable_tracking_retry :
    EnableTracked (.free .initial) [.enable (-19), .enable 0, .disable] :=
  (pci_enable_tracking_iff .initial rfl [.enable (-19), .enable 0, .disable]
    (.cons ⟨_, rfl⟩ rfl (.cons ⟨_, rfl⟩ rfl (.singleton ⟨_, rfl⟩)))).mpr (by decide)

/-- **A failed enable after a disable.**  The driver does nothing wrong: the device was enabled and
disabled, and this time the kernel cannot enable it. -/
theorem failed_enable_asserts :
    Throughout PciOp.exec PciOp.Legal (.free .initial) [.enable 0, .disable, .enable (-19)] ∧
      ¬ EnableTracked (.free .initial) [.enable 0, .disable, .enable (-19)] := by
  refine ⟨.cons ⟨_, rfl⟩ rfl (.cons ⟨_, rfl⟩ rfl (.singleton ⟨_, rfl⟩)), ?_⟩
  rintro ⟨_, s₁, h₁, _, s₂, h₂, _, s₃, h₃, _⟩
  cases h₁
  cases h₂
  cases h₃

end SymDrive
