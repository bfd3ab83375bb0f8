import Mathlib.Data.List.Perm.Basic
import SymDrive.Gtf.DriverState

/-!
# The table of interrupts

`misc_checks/irq.c`: the checks of `request_threaded_irq` and `free_irq` keep a table of the
registered handlers and their number.

A registration is known by its interrupt number and the `dev_id` it was made with, since several
drivers can share a line.  The table is searched by the number alone, and the first slot found must
carry the `dev_id`.  So the table follows the registrations as long as each `free_irq` hits the
first slot of its line and each name fits into its field (`irq_table_live_iff`).  Which slot that is
can be read off the trace, since registrations are placed by first fit.
-/

namespace SymDrive

open Checked

/-! ## The check routines -/

/-- The arguments of `request_threaded_irq` that the check records. -/
structure Registration where
  irq : ULong
  handler : ULong
  devId : ULong
  flags : ULong
  devName : Option String
  deriving DecidableEq

/-- The first slot that satisfies `p`. -/
def IrqState.find (irq : IrqState) (p : IrqStruct → Bool) : Option ℕ :=
  (List.range maxIrqs).find? fun i => p (irq.symIrq i)

/-- `sym_irq[i] = slot`. -/
def IrqState.setSlot (irq : IrqState) (i : ℕ) (slot : IrqStruct) : IrqState :=
  { irq with symIrq := Function.update irq.symIrq i slot }

/-- `reset_one`. -/
def IrqState.resetOne (irq : IrqState) (i : ℕ) : IrqState := irq.setSlot i .initial

/-- The size of the field `name`. -/
def irqNameSize : ℕ := 128

/-- `strcpy (sym_irq[i].name, *dev_name)`. -/
def strcpyName (devName : Option String) : Except Fault String :=
  match devName with
  | none => .error (.nullDeref (.check .requestThreadedIrq))
  | some name =>
      if name.utf8ByteSize < irqNameSize then .ok name
      else .error (.outOfBounds (.check .requestThreadedIrq))

/-- Filling the first slot that is not allocated. -/
def IrqState.request (irq : IrqState) (reg : Registration) : Except Fault IrqState := do
  let irq := { irq with symNumRequests := irq.symNumRequests + 1 }
  match irq.find fun slot => decide (slot.allocated ≠ 1) with
  | none => .error (.assertion (.check .requestThreadedIrq) "Driver requesting many many IRQs?")
  | some i => do
      tfassertDetail (.check .requestThreadedIrq) ((irq.symIrq i).allocated = 0)
        "Allocated = 0 in request_irq_MJRcheck"
      let name ← strcpyName reg.devName
      .ok (irq.setSlot i
        { allocated := 1, number := reg.irq, handler := reg.handler, parameter := reg.devId,
          flags := reg.flags, name := name, enabled := 1 })

/-- Emptying the first allocated slot with the given number. -/
def IrqState.free (state : IrqState) (prepost : ℤ) (irq devId : ULong) : Except Fault IrqState := do
  tfassertDetail (.check .freeIrq) (state.symNumRequests ≥ 1)
    s!"Freeing IRQ incorrectly: {prepost} {irq}"
  let state := { state with symNumRequests := state.symNumRequests - 1 }
  match state.find fun slot => decide (slot.allocated = 1 ∧ slot.number = irq) with
  | none =>
      .error (.assertion (.check .freeIrq)
        "Well, the driver freed and IRQ without first requesting it.\n")
  | some i => do
      tfassertDetail (.check .freeIrq) (state.symIrqOngoing = 0)
        ("Weird: call stack suggest an IRQ is in progress but they're freeing it? " ++
          s!"{state.symIrqOngoing}\n")
      tfassertDetail (.check .freeIrq) (devId = (state.symIrq i).parameter)
        ("Ensure free_irq parameter matches request_irq parameter: " ++
          s!"{pointerText devId} != {pointerText (state.symIrq i).parameter}\n")
      .ok (state.resetOne i)

/-- An operation on the variables of `irq.c`. -/
def Records.onIrq (r : Records) (f : IrqState → Except Fault IrqState) : Except Fault Records :=
  (f r.irq).map fun irq => { r with irq := irq }

/-- Before the call only the addresses of arguments are tested; a failed request is not recorded. -/
def requestThreadedIrqMJRcheck (s : CheckState) (prepost retval : ℤ) (reg : Registration) :
    Except Fault CheckState :=
  checkRoutine s fun r =>
    if prepost = 1 ∧ retval = 0 then r.onIrq fun irq => irq.request reg else .ok r

def freeIrqMJRcheck (s : CheckState) (prepost : ℤ) (irq devId : ULong) : Except Fault CheckState :=
  checkRoutine s fun r =>
    if prepost = 0 then r.onIrq fun state => state.free prepost irq devId else .ok r

/-- Turning `enabled` of the first allocated slot with the given number from `was` into `now`. -/
def IrqState.setEnabled (state : IrqState) (check : Check) (irq : ULong) (was now : ℤ)
    (wrong missing : String) : Except Fault IrqState :=
  match state.find fun slot => decide (slot.allocated = 1 ∧ slot.number = irq) with
  | none => .error (.assertion (.check check) s!"{missing} {irq}")
  | some i => do
      tfassertDetail (.check check) ((state.symIrq i).enabled = was) s!"{wrong} {irq}"
      .ok (state.setSlot i { state.symIrq i with enabled := now })

def enableIrqMJRcheck (s : CheckState) (prepost : ℤ) (irq : ULong) : Except Fault CheckState :=
  checkRoutine s fun r =>
    if prepost = 1 then
      r.onIrq fun state => state.setEnabled .enableIrq irq 0 1
        "Why enable an enabled interrupt? IRQ" "Enabling interrupt that doesn't exist"
    else .ok r

/-- The check of `disable_irq` and of `disable_irq_nosync`. -/
def disableInterrupt (s : CheckState) (prepost : ℤ) (irq : ULong) : Except Fault CheckState :=
  checkRoutine s fun r =>
    if prepost = 1 then
      r.onIrq fun state => state.setEnabled .disableIrq irq 1 0
        "Why disable an enabled interrupt? IRQ" "Disabling interrupt that doesn't exist"
    else .ok r

/-! ## Traces -/

/-- A successful call of the driver. -/
inductive IrqEvent where
  | request (reg : Registration)
  | free (irq devId : ULong)

/-- What a registration is freed by. -/
def Registration.key (reg : Registration) : ULong × ULong := (reg.irq, reg.devId)

namespace IrqEvent

def exec (s : CheckState) : IrqEvent → Except Fault CheckState
  | request reg => do
      let s ← requestThreadedIrqMJRcheck s 0 0 reg
      requestThreadedIrqMJRcheck s 1 0 reg
  | free irq devId => do
      let s ← freeIrqMJRcheck s 0 irq devId
      freeIrqMJRcheck s 1 irq devId

/-- The live registrations after an event. -/
def after (live : List Registration) : IrqEvent → List Registration
  | request reg => reg :: live
  | free irq devId => live.filter fun reg => decide (reg.key ≠ (irq, devId))

/-- The driver has room for one registration more and does not make the same one twice; it frees
what it has registered. -/
def Legal (live : List Registration) : IrqEvent → Prop
  | request reg => live.length < maxIrqs ∧ reg.key ∉ live.map Registration.key
  | free irq devId => (irq, devId) ∈ live.map Registration.key

instance (live : List Registration) : ∀ e : IrqEvent, Decidable (e.Legal live)
  | request reg =>
      inferInstanceAs (Decidable (live.length < maxIrqs ∧ reg.key ∉ live.map Registration.key))
  | free irq devId => inferInstanceAs (Decidable ((irq, devId) ∈ live.map Registration.key))

/-- The name is given and fits; the first slot of the line to be freed carries the `dev_id`. -/
def Supported (s : CheckState) : IrqEvent → Prop
  | request reg => ∃ name, reg.devName = some name ∧ name.utf8ByteSize < irqNameSize
  | free irq devId => ∀ i,
      s.records.irq.find (fun slot => decide (slot.allocated = 1 ∧ slot.number = irq)) = some i →
        (s.records.irq.symIrq i).parameter = devId

end IrqEvent

/-- The registration a slot records. -/
def IrqStruct.registration (slot : IrqStruct) : Registration where
  irq := slot.number
  handler := slot.handler
  devId := slot.parameter
  flags := slot.flags
  devName := some slot.name

def IrqState.slots (irq : IrqState) : List IrqStruct := (List.range maxIrqs).map irq.symIrq

def IrqState.allocatedSlots (irq : IrqState) : List IrqStruct :=
  irq.slots.filter fun slot => decide (slot.allocated = 1)

/-- The allocated slots are exactly the live registrations, and `sym_num_requests` is their
number. -/
def TableLive (s : CheckState) (live : List Registration) : Prop :=
  (s.records.irq.allocatedSlots.map IrqStruct.registration).Perm live ∧
    s.records.irq.symNumRequests = live.length

/-- The registration in a slot, if it is allocated. -/
def IrqStruct.place (slot : IrqStruct) : Option Registration :=
  if slot.allocated = 1 then some slot.registration else none

/-- The places of the table, in the order in which they are searched. -/
def IrqState.places (irq : IrqState) : List (Option Registration) :=
  irq.slots.map IrqStruct.place

/-- **First fit**: a registration takes the first empty place, and leaves it when it is freed. -/
def IrqEvent.placed (places : List (Option Registration)) : IrqEvent → List (Option Registration)
  | request reg => places.set (places.findIdx Option.isNone) (some reg)
  | free irq devId => places.map (Option.filter fun reg => decide (reg.key ≠ (irq, devId)))

/-- The name is given and fits; the registration to be freed stands first among those of its
line. -/
def IrqEvent.StandsFirst (places : List (Option Registration)) : IrqEvent → Prop
  | request reg => ∃ name, reg.devName = some name ∧ name.utf8ByteSize < irqNameSize
  | free irq devId => ∀ reg,
      places.reduceOption.find? (fun reg => decide (reg.irq = irq)) = some reg → reg.devId = devId

/-- **The specification of a trace**: no check asserts, and after every step the table is right. -/
def IrqTracked (s : CheckState) (events : List IrqEvent) : Prop :=
  Simulates IrqEvent.exec IrqEvent.after TableLive s [] events

/-! ## The allocated slots -/

/-- Replacing an element that is filtered out by one that is not adds the new one. -/
lemma perm_filter_set {α : Type} {p : α → Bool} {l : List α} {i : ℕ} {x v : α}
    (hi : l[i]? = some x) (hx : p x = false) (hv : p v = true) :
    ((l.set i v).filter p).Perm (v :: l.filter p) := by
  obtain ⟨hlt, rfl⟩ := List.getElem?_eq_some_iff.mp hi
  have hl : l = l.take i ++ l[i] :: l.drop (i + 1) := by
    rw [List.getElem_cons_drop, List.take_append_drop]
  have hset : l.set i v = l.take i ++ v :: l.drop (i + 1) := by
    rw [List.set_eq_take_append_cons_drop, if_pos hlt]
  have hfilter : l.filter p = (l.take i).filter p ++ (l.drop (i + 1)).filter p :=
    calc l.filter p = (l.take i ++ l[i] :: l.drop (i + 1)).filter p := congrArg _ hl
      _ = (l.take i).filter p ++ (l.drop (i + 1)).filter p := by
          rw [List.filter_append, List.filter_cons_of_neg (by simp [hx])]
  rw [hset, hfilter, List.filter_append, List.filter_cons_of_pos hv]
  exact List.perm_middle

namespace IrqState

variable {state : IrqState} {i : ℕ} {slot : IrqStruct}

lemma length_slots (state : IrqState) : state.slots.length = maxIrqs := by
  rw [slots, List.length_map, List.length_range]

lemma slots_getElem? (hi : i < maxIrqs) : state.slots[i]? = some (state.symIrq i) := by
  simp [slots, hi]

@[simp] lemma symIrq_setSlot_self : (state.setSlot i slot).symIrq i = slot :=
  Function.update_self ..

lemma symIrq_setSlot_of_ne {j : ℕ} (h : j ≠ i) : (state.setSlot i slot).symIrq j = state.symIrq j :=
  Function.update_of_ne h ..

lemma slots_setSlot : (state.setSlot i slot).slots = state.slots.set i slot := by
  refine List.ext_getElem (by simp [slots]) fun j hj _ => ?_
  by_cases hij : i = j
  · subst hij
    simp [slots, setSlot]
  · simp [slots, setSlot, List.getElem_set_ne hij, Function.update_of_ne (Ne.symm hij)]

/-- Filling a free slot. -/
lemma allocatedSlots_fill (hi : i < maxIrqs) (hfree : (state.symIrq i).allocated ≠ 1)
    (hslot : slot.allocated = 1) :
    (state.setSlot i slot).allocatedSlots.Perm (slot :: state.allocatedSlots) := by
  rw [allocatedSlots, slots_setSlot]
  exact perm_filter_set (slots_getElem? hi) (decide_eq_false hfree) (decide_eq_true hslot)

/-- Emptying an allocated slot. -/
lemma allocatedSlots_resetOne (hi : i < maxIrqs) (halloc : (state.symIrq i).allocated = 1) :
    state.allocatedSlots.Perm (state.symIrq i :: (state.resetOne i).allocatedSlots) := by
  have hback : (state.resetOne i).slots.set i (state.symIrq i) = state.slots := by
    rw [resetOne, slots_setSlot, List.set_set, ← slots_setSlot, setSlot, Function.update_eq_self]
  have hempty : (state.resetOne i).slots[i]? = some .initial := by
    rw [slots_getElem? hi, resetOne, symIrq_setSlot_self]
  rw [allocatedSlots, ← hback]
  exact perm_filter_set hempty rfl (decide_eq_true halloc)

/-- A search that finds nothing has looked at every slot. -/
lemma find_eq_none {p : IrqStruct → Bool} (h : state.find p = none) :
    ∀ slot ∈ state.slots, p slot = false := by
  intro slot hslot
  obtain ⟨i, hi, rfl⟩ := List.mem_map.mp hslot
  have hnot := List.find?_eq_none.mp h i hi
  simpa using hnot

lemma find_eq_some {p : IrqStruct → Bool} (h : state.find p = some i) :
    i < maxIrqs ∧ p (state.symIrq i) = true :=
  ⟨List.mem_range.mp (List.mem_of_find?_eq_some h),
    List.find?_some (p := fun i => p (state.symIrq i)) h⟩

/-- While not all slots are allocated there is a free one. -/
lemma find_free (h : state.allocatedSlots.length < maxIrqs) :
    ∃ i, state.find (fun slot => decide (slot.allocated ≠ 1)) = some i := by
  rw [← Option.ne_none_iff_exists']
  intro hnone
  have hall : state.allocatedSlots = state.slots := by
    refine List.filter_eq_self.mpr fun slot hslot => ?_
    have hfalse := find_eq_none hnone slot hslot
    simpa using hfalse
  rw [hall, length_slots] at h
  exact lt_irrefl _ h

end IrqState

/-! ## What one event does -/

/-- A request that goes through has filled the first slot that is not allocated. -/
lemma IrqState.request_eq_ok {state state' : IrqState} {reg : Registration}
    (h : state.request reg = .ok state') :
    ∃ i name, state.find (fun slot => decide (slot.allocated ≠ 1)) = some i ∧
      reg.devName = some name ∧ name.utf8ByteSize < irqNameSize ∧
      state' = { state with symNumRequests := state.symNumRequests + 1 }.setSlot i
        { allocated := 1, number := reg.irq, handler := reg.handler, parameter := reg.devId,
          flags := reg.flags, name := name, enabled := 1 } := by
  unfold IrqState.request at h
  dsimp only at h
  split at h
  · cases h
  · rename_i i hfind
    obtain ⟨_, h⟩ := tfassertDetail_bind_eq_ok.mp h
    obtain ⟨name, hcopy, h⟩ := bind_eq_ok.mp h
    unfold strcpyName at hcopy
    split at hcopy
    · cases hcopy
    · rename_i hgiven
      split_ifs at hcopy with hfits
      cases hcopy
      exact ⟨i, name, hfind, hgiven, hfits, (Except.ok.inj h).symm⟩

/-- A free that goes through has emptied the first slot of the line. -/
lemma IrqState.free_eq_ok {state state' : IrqState} {prepost : ℤ} {irq devId : ULong}
    (h : state.free prepost irq devId = .ok state') :
    ∃ i, state.find (fun slot => decide (slot.allocated = 1 ∧ slot.number = irq)) = some i ∧
      devId = (state.symIrq i).parameter ∧
      state' = { state with symNumRequests := state.symNumRequests - 1 }.resetOne i := by
  unfold IrqState.free at h
  obtain ⟨_, h⟩ := tfassertDetail_bind_eq_ok.mp h
  dsimp only at h
  split at h
  · cases h
  · rename_i i hfind
    obtain ⟨_, h⟩ := tfassertDetail_bind_eq_ok.mp h
    obtain ⟨hparameter, h⟩ := tfassertDetail_bind_eq_ok.mp h
    exact ⟨i, hfind, hparameter, (Except.ok.inj h).symm⟩

/-- Between two checks the table is that of the live registrations, each slot is free or allocated,
and no interrupt is being handled. -/
structure IrqInv (s : CheckState) (live : List Registration) : Prop where
  free : s.lock = ⟨0⟩
  table : TableLive s live
  slots : ∀ i, (s.records.irq.symIrq i).allocated = 0 ∨ (s.records.irq.symIrq i).allocated = 1
  ongoing : s.records.irq.symIrqOngoing = 0
  keys : (live.map Registration.key).Nodup

section

variable {r : Records} {live : List Registration}

lemma IrqInv.length_allocatedSlots (h : IrqInv (.free r) live) :
    r.irq.allocatedSlots.length = live.length := by
  rw [← h.table.1.length_eq, List.length_map]
  rfl

lemma exec_requestIrq (reg : Registration) :
    IrqEvent.exec (.free r) (.request reg) =
      ((r.onIrq fun irq => irq.request reg).map CheckState.free) := by
  rw [IrqEvent.exec]
  simp only [requestThreadedIrqMJRcheck, checkRoutine_pair]
  rfl

lemma exec_freeIrq (irq devId : ULong) :
    IrqEvent.exec (.free r) (.free irq devId) =
      ((r.onIrq fun state => state.free 0 irq devId).map CheckState.free) := by
  rw [IrqEvent.exec]
  simp only [freeIrqMJRcheck, checkRoutine_pair, if_true]
  cases r.onIrq fun state => state.free 0 irq devId <;> rfl

lemma exec_requestIrq_eq_ok {reg : Registration} {s' : CheckState}
    (h : IrqEvent.exec (.free r) (.request reg) = .ok s') :
    ∃ irq, r.irq.request reg = .ok irq ∧ s' = .free { r with irq := irq } := by
  rw [exec_requestIrq] at h
  obtain ⟨_, hrun, rfl⟩ := map_eq_ok.mp h
  obtain ⟨irq, hirq, rfl⟩ := map_eq_ok.mp hrun
  exact ⟨irq, hirq, rfl⟩

lemma exec_freeIrq_eq_ok {irq devId : ULong} {s' : CheckState}
    (h : IrqEvent.exec (.free r) (.free irq devId) = .ok s') :
    ∃ state, r.irq.free 0 irq devId = .ok state ∧ s' = .free { r with irq := state } := by
  rw [exec_freeIrq] at h
  obtain ⟨_, hrun, rfl⟩ := map_eq_ok.mp h
  obtain ⟨state, hstate, rfl⟩ := map_eq_ok.mp hrun
  exact ⟨state, hstate, rfl⟩

/-- The slots of the table stay free or allocated. -/
lemma setSlot_allocated {state : IrqState} {i : ℕ} {slot : IrqStruct}
    (h : ∀ j, (state.symIrq j).allocated = 0 ∨ (state.symIrq j).allocated = 1)
    (hslot : slot.allocated = 0 ∨ slot.allocated = 1) (j : ℕ) :
    ((state.setSlot i slot).symIrq j).allocated = 0 ∨
      ((state.setSlot i slot).symIrq j).allocated = 1 := by
  by_cases hij : j = i
  · rw [hij, IrqState.symIrq_setSlot_self]
    exact hslot
  · rw [IrqState.symIrq_setSlot_of_ne hij]
    exact h j

/-- A registration whose name fits is entered. -/
lemma request_ok (h : IrqInv (.free r) live) {reg : Registration}
    (hlegal : IrqEvent.Legal live (.request reg))
    (hname : IrqEvent.Supported (.free r) (.request reg)) :
    ∃ s', IrqEvent.exec (.free r) (.request reg) = .ok s' ∧
      IrqInv s' (IrqEvent.after live (.request reg)) := by
  obtain ⟨hroom, hnew⟩ := hlegal
  obtain ⟨name, hname, hfits⟩ := hname
  have hlength := h.length_allocatedSlots
  obtain ⟨i, hfind⟩ := @IrqState.find_free r.irq (by rwa [hlength])
  obtain ⟨hi, hfree⟩ := IrqState.find_eq_some hfind
  have hne : (r.irq.symIrq i).allocated ≠ 1 := of_decide_eq_true hfree
  have hzero : (r.irq.symIrq i).allocated = 0 := (h.slots i).resolve_right hne
  set slot : IrqStruct :=
    { allocated := 1, number := reg.irq, handler := reg.handler, parameter := reg.devId,
      flags := reg.flags, name := name, enabled := 1 } with hslot
  set state : IrqState := { r.irq with symNumRequests := r.irq.symNumRequests + 1 } with hstate
  have hrun : r.irq.request reg = .ok (state.setSlot i slot) := by
    rw [IrqState.request]
    have hfind' : state.find (fun slot => decide (slot.allocated ≠ 1)) = some i := hfind
    simp only [← hstate, hfind']
    rw [tfassertDetail_of_true hzero, ok_bind, hname, strcpyName, if_pos hfits]
    rfl
  refine ⟨.free { r with irq := state.setSlot i slot }, ?_, rfl, ⟨?_, ?_⟩, ?_, h.ongoing, ?_⟩
  · rw [exec_requestIrq, Records.onIrq, hrun]
    rfl
  · have hfill : (state.setSlot i slot).allocatedSlots.Perm (slot :: state.allocatedSlots) :=
      IrqState.allocatedSlots_fill hi hne rfl
    have hperm := hfill.map IrqStruct.registration
    have hreg : slot.registration = reg := by
      rw [hslot, IrqStruct.registration]
      cases reg
      rw [Registration.mk.injEq]
      exact ⟨rfl, rfl, rfl, rfl, hname.symm⟩
    rw [List.map_cons, hreg] at hperm
    exact hperm.trans (h.table.1.cons reg)
  · have hcount : r.irq.symNumRequests = live.length := h.table.2
    show r.irq.symNumRequests + 1 = ((reg :: live).length : ℤ)
    rw [hcount, List.length_cons]
    push_cast
    rfl
  · exact setSlot_allocated h.slots (.inr rfl)
  · rw [IrqEvent.after, List.map_cons, List.nodup_cons]
    exact ⟨hnew, h.keys⟩

/-- A registration whose name does not fit ends the path. -/
lemma request_unsupported {s' : CheckState} {reg : Registration}
    (hname : ¬ IrqEvent.Supported (.free r) (.request reg)) :
    IrqEvent.exec (.free r) (.request reg) ≠ .ok s' := by
  intro hok
  obtain ⟨_, hrun, -⟩ := exec_requestIrq_eq_ok hok
  obtain ⟨_, name, -, hgiven, hfits, -⟩ := IrqState.request_eq_ok hrun
  exact hname ⟨name, hgiven, hfits⟩

/-- The registration that a slot records is the live one with its key. -/
lemma filter_key_perm {live rest : List Registration} {reg : Registration}
    (hperm : live.Perm (reg :: rest)) (hkeys : (live.map Registration.key).Nodup) :
    rest.Perm (live.filter fun reg' => decide (reg'.key ≠ reg.key)) := by
  have hkeys' : ((reg :: rest).map Registration.key).Nodup :=
    (hperm.map Registration.key).nodup_iff.mp hkeys
  rw [List.map_cons, List.nodup_cons] at hkeys'
  have hrest : rest.filter (fun reg' => decide (reg'.key ≠ reg.key)) = rest := by
    refine List.filter_eq_self.mpr fun reg' hreg' => decide_eq_true fun heq => hkeys'.1 ?_
    exact List.mem_map.mpr ⟨reg', hreg', heq⟩
  have hfilter := hperm.filter fun reg' => decide (reg'.key ≠ reg.key)
  rw [List.filter_cons_of_neg (by simp), hrest] at hfilter
  exact hfilter.symm

/-- The check of a free finds a slot of the line, since some slot records the registration. -/
lemma find_registered (h : IrqInv (.free r) live) {irq devId : ULong}
    (hlegal : IrqEvent.Legal live (.free irq devId)) :
    ∃ i, r.irq.find (fun slot => decide (slot.allocated = 1 ∧ slot.number = irq)) = some i := by
  rw [← Option.ne_none_iff_exists']
  intro hnone
  obtain ⟨reg, hreg, hkey⟩ := List.mem_map.mp hlegal
  obtain ⟨slot, hslot, rfl⟩ := List.mem_map.mp (h.table.1.mem_iff.mpr hreg)
  obtain ⟨hmem, halloc⟩ := List.mem_filter.mp hslot
  have hfalse := IrqState.find_eq_none hnone slot hmem
  have hnumber : slot.number = irq := congrArg Prod.fst hkey
  exact of_decide_eq_false hfalse ⟨of_decide_eq_true halloc, hnumber⟩

lemma requests_pos (h : IrqInv (.free r) live) {irq devId : ULong}
    (hlegal : IrqEvent.Legal live (.free irq devId)) : r.irq.symNumRequests ≥ 1 := by
  have hcount : r.irq.symNumRequests = live.length := h.table.2
  have hpos : 0 < live.length := by
    rw [← List.length_map (f := Registration.key)]
    exact List.length_pos_of_mem hlegal
  rw [hcount]
  exact_mod_cast hpos

/-- A registration in the first slot of its line is taken out. -/
lemma free_ok (h : IrqInv (.free r) live) {irq devId : ULong}
    (hlegal : IrqEvent.Legal live (.free irq devId))
    (hfirst : IrqEvent.Supported (.free r) (.free irq devId)) :
    ∃ s', IrqEvent.exec (.free r) (.free irq devId) = .ok s' ∧
      IrqInv s' (IrqEvent.after live (.free irq devId)) := by
  obtain ⟨i, hfind⟩ := find_registered h hlegal
  have hparameter : (r.irq.symIrq i).parameter = devId := hfirst i hfind
  obtain ⟨hi, hslot⟩ := IrqState.find_eq_some hfind
  obtain ⟨halloc, hnumber⟩ := of_decide_eq_true hslot
  have hongoing : r.irq.symIrqOngoing = 0 := h.ongoing
  set state : IrqState := { r.irq with symNumRequests := r.irq.symNumRequests - 1 } with hstate
  have hrun : r.irq.free 0 irq devId = .ok (state.resetOne i) := by
    rw [IrqState.free, tfassertDetail_of_true (requests_pos h hlegal), ok_bind]
    have hfind' : state.find (fun slot => decide (slot.allocated = 1 ∧ slot.number = irq)) =
        some i := hfind
    simp only [← hstate, hfind']
    rw [tfassertDetail_of_true hongoing, ok_bind, tfassertDetail_of_true hparameter.symm, ok_bind]
  have hperm : (r.irq.allocatedSlots.map IrqStruct.registration).Perm
      ((r.irq.symIrq i).registration ::
        ((state.resetOne i).allocatedSlots.map IrqStruct.registration)) :=
    (@IrqState.allocatedSlots_resetOne state i hi halloc).map IrqStruct.registration
  have hkey : (r.irq.symIrq i).registration.key = (irq, devId) :=
    Prod.ext hnumber hparameter
  have hrest := filter_key_perm (h.table.1.symm.trans hperm) h.keys
  rw [hkey] at hrest
  have hlength : live.length =
      (live.filter fun reg => decide (reg.key ≠ (irq, devId))).length + 1 := by
    rw [← hrest.length_eq, (h.table.1.symm.trans hperm).length_eq, List.length_cons]
  refine ⟨.free { r with irq := state.resetOne i }, ?_, rfl, ⟨hrest, ?_⟩, ?_, h.ongoing, ?_⟩
  · rw [exec_freeIrq, Records.onIrq, hrun]
    rfl
  · have hcount : r.irq.symNumRequests = live.length := h.table.2
    show r.irq.symNumRequests - 1 = _
    rw [hcount, hlength]
    push_cast
    exact add_sub_cancel_right _ _
  · exact setSlot_allocated h.slots (.inl rfl)
  · exact h.keys.sublist (List.filter_sublist.map _)

/-- Where another registration stands in the first slot of the line, the check asserts. -/
lemma free_unsupported {irq devId : ULong} {s' : CheckState}
    (hfirst : ¬ IrqEvent.Supported (.free r) (.free irq devId)) :
    IrqEvent.exec (.free r) (.free irq devId) ≠ .ok s' := by
  intro hok
  obtain ⟨_, hrun, -⟩ := exec_freeIrq_eq_ok hok
  obtain ⟨i, hfind, hparameter, -⟩ := IrqState.free_eq_ok hrun
  refine hfirst fun j hj => ?_
  cases hfind.symm.trans hj
  exact hparameter.symm

end

/-! ## Traces -/

/-- Before the first registration the table is empty. -/
lemma irqInv_initial {r : Records} (hr : r.irq = .initial) : IrqInv (.free r) [] := by
  refine ⟨rfl, ⟨?_, ?_⟩, ?_, ?_, ?_⟩
  · rw [CheckState.free_records, hr]
    exact .refl _
  · rw [CheckState.free_records, hr]
    rfl
  · intro i
    rw [CheckState.free_records, hr]
    exact .inl rfl
  · rw [CheckState.free_records, hr]
    rfl
  · exact List.nodup_nil

/-- The table follows the registrations along a legal trace iff every step is supported. -/
lemma irqTracked_iff_supported (r : Records) (hr : r.irq = .initial) (events : List IrqEvent)
    (hlegal : Along IrqEvent.after IrqEvent.Legal [] events) :
    IrqTracked (.free r) events ↔ Throughout IrqEvent.exec IrqEvent.Supported (.free r) events := by
  refine Simulates.iff_throughout (fun s live (h : IrqInv s live) => h.table) ?_ ?_ events ?_ hlegal
  · intro s live e h hL hC
    obtain ⟨r, rfl⟩ := CheckState.exists_free h.free
    cases e with
    | request reg => exact request_ok h hL hC
    | free irq devId => exact free_ok h hL hC
  · intro s live e h hL hC s' hok
    obtain ⟨r, rfl⟩ := CheckState.exists_free h.free
    cases e with
    | request reg => exact absurd hok (request_unsupported hC)
    | free irq devId => exact absurd hok (free_unsupported hC)
  · exact irqInv_initial hr

/-! ### The condition on the trace -/

section

variable {r : Records} {live : List Registration} {state : IrqState}

/-- A slot that is written is a place that changes. -/
lemma IrqState.places_setSlot {i : ℕ} {slot : IrqStruct} :
    (state.setSlot i slot).places = state.places.set i slot.place := by
  rw [places, slots_setSlot, List.map_set, places]

lemma IrqState.places_getElem? {i : ℕ} (hi : i < maxIrqs) :
    state.places[i]? = some (state.symIrq i).place := by
  rw [places, List.getElem?_map, slots_getElem? hi, Option.map_some]

lemma IrqState.length_places : state.places.length = maxIrqs := by
  rw [places, List.length_map, length_slots]

/-- The first slot that is not allocated is the first empty place. -/
lemma IrqState.findIdx_places {i : ℕ}
    (h : state.find (fun slot => decide (slot.allocated ≠ 1)) = some i) :
    state.places.findIdx Option.isNone = i := by
  obtain ⟨hfree, hi, hbefore⟩ := List.find?_range_eq_some.mp h
  have hi' : i < state.places.length := by
    rw [length_places]
    exact List.mem_range.mp hi
  have hplace : ∀ j (hj : j < state.places.length),
      (state.places[j]).isNone = decide ((state.symIrq j).allocated ≠ 1) := by
    intro j hj
    have hget := state.places_getElem? (i := j) (by rwa [length_places] at hj)
    rw [List.getElem?_eq_getElem hj, Option.some.injEq] at hget
    rw [hget, IrqStruct.place]
    split_ifs with halloc <;> simp [halloc]
  refine (List.findIdx_eq hi').mpr ⟨?_, fun j hji => ?_⟩
  · rw [hplace]
    exact hfree
  · rw [hplace]
    simpa using hbefore j hji

/-- The first slot of a line holds the first registration of the line. -/
lemma IrqState.find_places (irq : ULong) :
    state.places.reduceOption.find? (fun reg => decide (reg.irq = irq)) =
      (state.find fun slot => decide (slot.allocated = 1 ∧ slot.number = irq)).map
        fun i => (state.symIrq i).registration := by
  have hreduce : state.places.reduceOption =
      (List.range maxIrqs).filterMap fun i => (state.symIrq i).place := by
    show state.places.filterMap id = _
    rw [places, slots, List.map_map, List.filterMap_map]
    rfl
  have hslot : ∀ i, ((state.symIrq i).place.any fun reg => decide (reg.irq = irq)) =
      decide ((state.symIrq i).allocated = 1 ∧ (state.symIrq i).number = irq) := by
    intro i
    rw [IrqStruct.place]
    split_ifs with halloc <;> simp [halloc, IrqStruct.registration]
  rw [hreduce, List.find?_filterMap, find]
  simp only [hslot]
  cases hfind : (List.range maxIrqs).find? fun i =>
      decide ((state.symIrq i).allocated = 1 ∧ (state.symIrq i).number = irq) with
  | none => rfl
  | some i =>
      have hline := List.find?_some hfind
      rw [Option.bind_some, IrqStruct.place, if_pos (of_decide_eq_true hline).1]
      rfl

/-- The key of a registration stands in one slot only. -/
lemma IrqState.key_ne {i j : ℕ} (hi : i < maxIrqs) (hj : j < maxIrqs) (hne : j ≠ i)
    (hkeys : ((state.allocatedSlots.map IrqStruct.registration).map Registration.key).Nodup)
    (halloc : (state.symIrq i).allocated = 1) (halloc' : (state.symIrq j).allocated = 1) :
    (state.symIrq j).registration.key ≠ (state.symIrq i).registration.key := by
  have hperm := (allocatedSlots_resetOne hi halloc).map IrqStruct.registration
  have hnodup := ((hperm.map Registration.key).nodup_iff.mp hkeys)
  rw [List.map_cons, List.map_cons, List.nodup_cons] at hnodup
  intro heq
  refine hnodup.1 (heq ▸ List.mem_map_of_mem (List.mem_map_of_mem ?_))
  refine List.mem_filter.mpr ⟨List.mem_map.mpr ⟨j, List.mem_range.mpr hj, ?_⟩, by simpa⟩
  exact symIrq_setSlot_of_ne hne

/-- Emptying the place of a registration is the same as leaving its key out. -/
lemma IrqState.places_set_none {i : ℕ} (hi : i < maxIrqs)
    (hkeys : ((state.allocatedSlots.map IrqStruct.registration).map Registration.key).Nodup)
    (halloc : (state.symIrq i).allocated = 1) :
    state.places.set i none = state.places.map
      (Option.filter fun reg => decide (reg.key ≠ (state.symIrq i).registration.key)) := by
  refine List.ext_getElem? fun j => ?_
  by_cases hj : j < maxIrqs
  · rw [List.getElem?_map, places_getElem? hj, Option.map_some, IrqStruct.place]
    by_cases hji : j = i
    · subst hji
      rw [List.getElem?_set_self (by rwa [length_places]), if_pos halloc,
        Option.filter_some_neg (by simp)]
    · rw [List.getElem?_set_ne (Ne.symm hji), places_getElem? hj, IrqStruct.place]
      split_ifs with halloc'
      · have hne := key_ne hi hj hji hkeys halloc halloc'
        rw [Option.filter_some_pos (by simpa using hne)]
      · rfl
  · have hbehind : state.places.length ≤ j := by
      rw [length_places]
      exact Nat.le_of_not_lt hj
    rw [List.getElem?_eq_none (by rwa [List.length_set]), List.getElem?_eq_none (by simpa)]

/-- A table that follows a request has placed it by first fit. -/
lemma places_request {reg : Registration} {s' : CheckState}
    (hok : IrqEvent.exec (.free r) (.request reg) = .ok s') :
    s'.records.irq.places = IrqEvent.placed r.irq.places (.request reg) := by
  obtain ⟨_, hrun, rfl⟩ := exec_requestIrq_eq_ok hok
  obtain ⟨i, name, hfind, hgiven, -, rfl⟩ := IrqState.request_eq_ok hrun
  have hreg : reg = ⟨reg.irq, reg.handler, reg.devId, reg.flags, some name⟩ := by rw [← hgiven]
  rw [IrqEvent.placed, IrqState.findIdx_places hfind, hreg]
  exact IrqState.places_setSlot

/-- A table that follows a free has emptied the place of the registration. -/
lemma places_free (h : IrqInv (.free r) live) {irq devId : ULong} {s' : CheckState}
    (hok : IrqEvent.exec (.free r) (.free irq devId) = .ok s') :
    s'.records.irq.places = IrqEvent.placed r.irq.places (.free irq devId) := by
  obtain ⟨_, hrun, rfl⟩ := exec_freeIrq_eq_ok hok
  obtain ⟨i, hfind, hparameter, rfl⟩ := IrqState.free_eq_ok hrun
  obtain ⟨hi, hslot⟩ := IrqState.find_eq_some hfind
  obtain ⟨halloc, hnumber⟩ := of_decide_eq_true hslot
  have hkey : (r.irq.symIrq i).registration.key = (irq, devId) := Prod.ext hnumber hparameter.symm
  have hkeys : ((r.irq.allocatedSlots.map IrqStruct.registration).map Registration.key).Nodup :=
    (h.table.1.map Registration.key).nodup_iff.mpr h.keys
  show ({ r.irq with symNumRequests := r.irq.symNumRequests - 1 }.setSlot i .initial).places = _
  rw [IrqState.places_setSlot, IrqEvent.placed, ← hkey]
  exact IrqState.places_set_none hi hkeys halloc

/-- What the check of a free tests is that the registration stands first on its line. -/
lemma supported_iff_standsFirst (e : IrqEvent) :
    IrqEvent.Supported (.free r) e ↔ e.StandsFirst r.irq.places := by
  cases e with
  | request reg => exact Iff.rfl
  | free irq devId =>
      rw [IrqEvent.Supported, IrqEvent.StandsFirst, IrqState.find_places]
      constructor
      · intro h reg hreg
        obtain ⟨i, hfind, rfl⟩ := Option.map_eq_some_iff.mp hreg
        exact h i hfind
      · exact fun h i hfind => h _ (Option.map_eq_some_iff.mpr ⟨i, hfind, rfl⟩)

end

/-- **The condition on the trace**: what the checks test in every state of a legal run is that the
names fit and that each registration freed stands first on its line, where every registration was
placed by first fit. -/
theorem throughout_supported_iff (r : Records) (hr : r.irq = .initial) (events : List IrqEvent)
    (hlegal : Along IrqEvent.after IrqEvent.Legal [] events) :
    Throughout IrqEvent.exec IrqEvent.Supported (.free r) events ↔
      Along IrqEvent.placed IrqEvent.StandsFirst (List.replicate maxIrqs none) events := by
  refine Throughout.iff_along (fun s live places e
    (h : IrqInv s live ∧ s.records.irq.places = places) _ => ?_) ?_ events ⟨irqInv_initial hr, ?_⟩
    hlegal
  · obtain ⟨h, rfl⟩ := h
    obtain ⟨r, rfl⟩ := CheckState.exists_free h.free
    exact supported_iff_standsFirst e
  · rintro s live _ e ⟨h, rfl⟩ hL hC
    obtain ⟨r, rfl⟩ := CheckState.exists_free h.free
    cases e with
    | request reg =>
        obtain ⟨s', hok, hinv⟩ := request_ok h hL hC
        exact ⟨s', hok, hinv, places_request hok⟩
    | free irq devId =>
        obtain ⟨s', hok, hinv⟩ := free_ok h hL hC
        exact ⟨s', hok, hinv, places_free h hok⟩
  · rw [CheckState.free_records, hr]
    rfl

/-- **The table follows the registrations** along a legal trace iff every name is given and fits,
and every `free_irq` is of the registration in the first slot of its line.  On the trace alone: the
registration that is freed stands first on its line, where each was placed by first fit. -/
theorem irq_table_live_iff (r : Records) (hr : r.irq = .initial) (events : List IrqEvent)
    (hlegal : Along IrqEvent.after IrqEvent.Legal [] events) :
    (IrqTracked (.free r) events ↔
      Throughout IrqEvent.exec IrqEvent.Supported (.free r) events) ∧
    (IrqTracked (.free r) events ↔
      Along IrqEvent.placed IrqEvent.StandsFirst (List.replicate maxIrqs none) events) := by
  have htracked := irqTracked_iff_supported r hr events hlegal
  exact ⟨htracked, htracked.trans (throughout_supported_iff r hr events hlegal)⟩

/-- Two registrations on a line are freed in the order they were made. -/
theorem irq_table_live_shared_line :
    IrqTracked (.free .initial)
      [.request ⟨11, 1, 100, 0, some "eth0"⟩, .request ⟨11, 2, 200, 0, some "eth1"⟩,
        .free 11 100, .free 11 200] := by
  refine (irq_table_live_iff .initial rfl _ (by simp [Along, IrqEvent.Legal, IrqEvent.after,
    Registration.key, maxIrqs])).2.mpr ?_
  refine ⟨⟨_, rfl, by decide⟩, ⟨_, rfl, by decide⟩, ?_, ?_, trivial⟩
  · rintro reg hreg
    cases hreg
    rfl
  · rintro reg hreg
    cases hreg
    rfl

/-- **Freeing in the other order asserts.**  The check looks at the slot of the first registration
and finds its `dev_id`. -/
theorem shared_line_asserts :
    Along IrqEvent.after IrqEvent.Legal []
        [.request ⟨11, 1, 100, 0, some "eth0"⟩, .request ⟨11, 2, 200, 0, some "eth1"⟩,
          .free 11 200] ∧
      ¬ IrqTracked (.free .initial)
        [.request ⟨11, 1, 100, 0, some "eth0"⟩, .request ⟨11, 2, 200, 0, some "eth1"⟩,
          .free 11 200] := by
  refine ⟨by simp [Along, IrqEvent.Legal, IrqEvent.after, Registration.key, maxIrqs], ?_⟩
  rintro ⟨_, s₁, h₁, _, s₂, h₂, _, s₃, h₃, _⟩
  cases h₁
  cases h₂
  cases h₃

end SymDrive
