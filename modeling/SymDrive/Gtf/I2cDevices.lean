import Mathlib.Data.List.TakeWhile
import SymDrive.Library.Checked

/-!
# Symbolic I2C devices

`bus_i2c.c`: the devices the framework registers on its own I2C adapter, one for each chip address
among the parameters of the module.  Registrations can fail, and then `alloc_devices` unregisters
what it has registered.

`I2cPrivate.unregistered` is the only field that is not in the source: the calls of
`i2c_unregister_device` so far.  The platform data of a board, one constant of the framework, is
left out, and so is what is printed.
-/

namespace SymDrive

open Checked

/-! ## The data -/

/-- `MAX_CHIPS`. -/
def maxChips : ℕ := 8

/-- `I2C_NAME_SIZE` of the kernel headers, the room for the name of a board. -/
def i2cNameSize : ℕ := 20

/-- A client of the kernel's I2C core, by its address. -/
abbrev I2cClient := UInt32

structure I2cBoardInfo where
  type : String
  addr : UInt16
  irq : UInt32
  deriving DecidableEq, Repr

/-- The parameters of the module: `g_i2c_enable`, `g_i2c_chip_addr` and `g_i2c_names`.  They are set
when it is loaded. -/
structure I2cParams where
  enable : ℤ
  chipAddr : ℕ → UInt16
  names : ℕ → Option String

/-- The indices the loops over the chips go through. -/
def I2cParams.chips (p : I2cParams) : List ℕ :=
  (List.range maxChips).takeWhile fun i => p.chipAddr i ≠ 0

/-- `struct i2c_private`; of the PCI device only `irq` is read. -/
structure I2cPrivate where
  pdev : Option UInt32
  boardInfo : ℕ → I2cBoardInfo
  client : ℕ → Option I2cClient
  unregistered : List I2cClient

/-- The static variable, when the module is loaded. -/
def I2cPrivate.initial : I2cPrivate where
  pdev := none
  boardInfo := fun _ => ⟨"", 0, 0⟩
  client := fun _ => none
  unregistered := []

/-- What the kernel answers in one set-up: the interrupt line of the PCI device, the result of
`i2c_add_adapter` and those of `i2c_new_device`. -/
structure I2cKernel where
  irq : UInt32
  addAdapter : ℤ
  newDevice : ℕ → I2cBoardInfo → Option I2cClient

/-- Why the set-up does not go on. -/
inductive I2cFault where
  | panic (msg : String)
  /-- `strcpy` from a name that was not given. -/
  | noName
  /-- `strcpy` past the end of `type`. -/
  | nameTooLong
  deriving DecidableEq, Repr

/-! ## The functions -/

/-- One round of the loop of `cleanup_devices`. -/
def cleanupDevice (st : I2cPrivate) (i : ℕ) : I2cPrivate :=
  match st.client i with
  | some client =>
      { st with client := Function.update st.client i none,
                unregistered := st.unregistered ++ [client] }
  | none => st

def cleanupDevices (p : I2cParams) (st : I2cPrivate) : I2cPrivate × ℤ :=
  (p.chips.foldl cleanupDevice st, 0)

/-- The loop of `alloc_chips`, from the given index on. -/
def checkChips (p : I2cParams) : List ℕ → ℤ
  | [] => 0
  | i :: is => if p.chipAddr i < 0x03 ∨ p.chipAddr i > 0x77 then -22 else checkChips p is

def allocChips (p : I2cParams) : ℤ := checkChips p p.chips

/-- `strcpy` into the `type` of a board. -/
def boardType (name : Option String) : Except I2cFault String :=
  match name with
  | none => .error .noName
  | some name => if name.utf8ByteSize < i2cNameSize then .ok name else .error .nameTooLong

/-- The loop of `alloc_devices`, from the given index on.  After a failed registration it is left;
`ret` is not changed anywhere. -/
def allocDevice (p : I2cParams) (k : I2cKernel) (irq : UInt32) :
    List ℕ → I2cPrivate → Except I2cFault I2cPrivate
  | [], st => .ok st
  | i :: is, st => do
      let type ← boardType (p.names i)
      let board : I2cBoardInfo := ⟨type, p.chipAddr i, irq⟩
      let st := { st with boardInfo := Function.update st.boardInfo i board,
                          client := Function.update st.client i (k.newDevice i board) }
      if st.client i = none then .ok (cleanupDevices p st).1
      else allocDevice p k irq is st

def allocDevices (p : I2cParams) (k : I2cKernel) (st : I2cPrivate) :
    Except I2cFault (I2cPrivate × ℤ) :=
  match st.pdev with
  | none => .error (.panic "Misunderstanding in alloc_devices\n")
  | some irq => do
      let st ← allocDevice p k irq p.chips st
      .ok (st, 0)

def setupI2cDevices (p : I2cParams) (k : I2cKernel) (st : I2cPrivate) :
    Except I2cFault I2cPrivate := do
  ensure (p.chipAddr 0 ≠ 0) (.panic "i2c-stub: Please specify a chip address\n")
  ensure (allocChips p = 0) (.panic "alloc_chips failed\n")
  ensure (k.addAdapter = 0) (.panic "i2c_add_adapter failed")
  let (st, ret) ← allocDevices p k st
  ensure (ret = 0) (.panic "alloc_devices failed")
  .ok st

def initializeI2cDevice (p : I2cParams) (k : I2cKernel) (st : I2cPrivate) :
    Except I2cFault I2cPrivate :=
  if p.enable = 0 then .ok st
  else do
    ensure (st.pdev = none) (.panic "initialize_i2c_device: Misunderstanding.\n")
    setupI2cDevices p k { st with pdev := some k.irq }

def freeI2cDevice (p : I2cParams) (st : I2cPrivate) : Except I2cFault I2cPrivate :=
  if p.enable = 0 then .ok st
  else do
    let st := (cleanupDevices p st).1
    ensure (st.pdev ≠ none) (.panic "free_i2c_device: Misunderstanding\n")
    .ok { st with pdev := none }

/-! ## The specification -/

/-- The calls when the framework is loaded and unloaded. -/
inductive I2cCall where
  | setUp (k : I2cKernel)
  | free

def I2cCall.exec (p : I2cParams) (st : I2cPrivate) : I2cCall → Except I2cFault I2cPrivate
  | setUp k => initializeI2cDevice p k st
  | free => freeI2cDevice p st

/-- The board that `alloc_devices` fills in for a chip. -/
def I2cParams.board (p : I2cParams) (irq : UInt32) (i : ℕ) : I2cBoardInfo :=
  ⟨(p.names i).getD "", p.chipAddr i, irq⟩

/-- The client the kernel registers for a chip, if it does. -/
def I2cKernel.registers (k : I2cKernel) (p : I2cParams) (i : ℕ) : Option I2cClient :=
  k.newDevice i (p.board k.irq i)

/-- The chip has a name with room for it. -/
def I2cParams.Named (p : I2cParams) (i : ℕ) : Prop :=
  ∃ name, p.names i = some name ∧ name.utf8ByteSize < i2cNameSize

/-- **The specification of a set-up**, in a state in which no client is registered.  If every chip
can be registered, all of them are.  If one cannot, there is an error, each client registered before
it is unregistered, and no pointer to one is kept.  And a set-up that goes on has its devices. -/
structure AllOrNothing (p : I2cParams) (k : I2cKernel) (st : I2cPrivate) : Prop where
  success : (∀ i ∈ p.chips, k.registers p i ≠ none) →
    ∃ st', allocDevices p k st = .ok (st', 0) ∧
      (∀ i ∈ p.chips, st'.client i = k.registers p i) ∧ st'.unregistered = st.unregistered
  failure : ∀ before i after, p.chips = before ++ i :: after →
    (∀ j ∈ before, k.registers p j ≠ none) → k.registers p i = none →
    ∃ st' ret, allocDevices p k st = .ok (st', ret) ∧ ret ≠ 0 ∧
      st'.unregistered = st.unregistered ++ before.filterMap (k.registers p) ∧
      ∀ j ∈ p.chips, st'.client j = none
  goesOn : ∀ st', setupI2cDevices p k st = .ok st' → ∀ i ∈ p.chips, st'.client i ≠ none

/-! ## The loops -/

lemma cleanupDevice_client (st : I2cPrivate) (i : ℕ) :
    (cleanupDevice st i).client = Function.update st.client i none := by
  unfold cleanupDevice
  cases h : st.client i with
  | some client => rfl
  | none =>
      have hsame : Function.update st.client i none = st.client := by
        rw [← h, Function.update_eq_self]
      exact hsame.symm

lemma cleanupDevice_unregistered (st : I2cPrivate) (i : ℕ) :
    (cleanupDevice st i).unregistered = st.unregistered ++ (st.client i).toList := by
  unfold cleanupDevice
  cases h : st.client i with
  | none => exact (List.append_nil _).symm
  | some client => rfl

lemma cleanupDevice_pdev (st : I2cPrivate) (i : ℕ) : (cleanupDevice st i).pdev = st.pdev := by
  unfold cleanupDevice
  cases st.client i with
  | none => rfl
  | some client => rfl

lemma foldl_cleanup_pdev (is : List ℕ) (st : I2cPrivate) :
    (is.foldl cleanupDevice st).pdev = st.pdev := by
  induction is generalizing st with
  | nil => rfl
  | cons i is ih => rw [List.foldl_cons, ih, cleanupDevice_pdev]

/-- The slots that are gone through are empty afterwards, the others are as they were. -/
lemma foldl_cleanup_client (is : List ℕ) (st : I2cPrivate) (j : ℕ) :
    (is.foldl cleanupDevice st).client j = if j ∈ is then none else st.client j := by
  induction is generalizing st with
  | nil => rfl
  | cons i is ih =>
      rw [List.foldl_cons, ih, cleanupDevice_client, Function.update_apply]
      by_cases hj : j ∈ is
      · rw [if_pos hj, if_pos (List.mem_cons_of_mem i hj)]
      · rw [if_neg hj]
        exact if_congr (by simp [hj]) rfl rfl

/-- Every client in the slots that are gone through is unregistered once. -/
lemma foldl_cleanup_unregistered {is : List ℕ} (hnodup : is.Nodup) (st : I2cPrivate) :
    (is.foldl cleanupDevice st).unregistered = st.unregistered ++ is.filterMap st.client := by
  induction is generalizing st with
  | nil => exact (List.append_nil _).symm
  | cons i is ih =>
      obtain ⟨hi, hnodup⟩ := List.nodup_cons.mp hnodup
      have hrest : is.filterMap (cleanupDevice st i).client = is.filterMap st.client := by
        refine List.filterMap_congr fun j hj => ?_
        have hne : j ≠ i := fun heq => hi (heq ▸ hj)
        rw [cleanupDevice_client, Function.update_of_ne hne]
      rw [List.foldl_cons, ih hnodup, cleanupDevice_unregistered, hrest, List.append_assoc,
        List.filterMap_cons]
      cases st.client i <;> rfl

lemma boardType_eq_ok {name : Option String} {type : String} :
    boardType name = .ok type ↔ name = some type ∧ type.utf8ByteSize < i2cNameSize := by
  unfold boardType
  cases name with
  | none => simp
  | some name =>
      dsimp only
      split_ifs with hsize
      · simp only [Except.ok.injEq, Option.some.injEq]
        exact ⟨fun h => ⟨h, h ▸ hsize⟩, And.left⟩
      · simp only [Option.some.injEq, false_iff, not_and]
        exact fun h => h ▸ hsize

section

variable {p : I2cParams} {k : I2cKernel}

/-- One round for a chip with a name. -/
lemma allocDevice_cons {i : ℕ} (hname : p.Named i) (is : List ℕ) (st : I2cPrivate) :
    allocDevice p k k.irq (i :: is) st =
      if k.registers p i = none then
        .ok (cleanupDevices p
          { st with boardInfo := Function.update st.boardInfo i (p.board k.irq i),
                    client := Function.update st.client i none }).1
      else allocDevice p k k.irq is
        { st with boardInfo := Function.update st.boardInfo i (p.board k.irq i),
                  client := Function.update st.client i (k.registers p i) } := by
  obtain ⟨name, hsome, hsize⟩ := hname
  have hboard : (⟨name, p.chipAddr i, k.irq⟩ : I2cBoardInfo) = p.board k.irq i := by
    rw [I2cParams.board, hsome, Option.getD_some]
  rw [allocDevice, boardType_eq_ok.mpr ⟨hsome, hsize⟩, ok_bind]
  dsimp only
  rw [hboard, ← I2cKernel.registers]
  have hself : Function.update st.client i (k.registers p i) i = k.registers p i :=
    Function.update_self ..
  by_cases hnone : k.registers p i = none
  · rw [if_pos (hself.trans hnone), if_pos hnone, hnone]
  · rw [if_neg fun h => hnone (hself.symm.trans h), if_neg hnone]

/-- Only the chips with names are gone through. -/
lemma named_of_alloc {i : ℕ} {is : List ℕ} {st st' : I2cPrivate}
    (h : allocDevice p k k.irq (i :: is) st = .ok st') : p.Named i := by
  rw [allocDevice] at h
  obtain ⟨type, htype, _⟩ := bind_eq_ok.mp h
  exact ⟨type, boardType_eq_ok.mp htype⟩

/-- All chips of the list are registered. -/
lemma alloc_all {is : List ℕ} (hnamed : ∀ i ∈ is, p.Named i)
    (hregisters : ∀ i ∈ is, k.registers p i ≠ none) (st : I2cPrivate) :
    ∃ st', allocDevice p k k.irq is st = .ok st' ∧ st'.unregistered = st.unregistered ∧
      ∀ j, st'.client j = if j ∈ is then k.registers p j else st.client j := by
  induction is generalizing st with
  | nil => exact ⟨st, rfl, rfl, fun _ => rfl⟩
  | cons i is ih =>
      rw [allocDevice_cons (hnamed i List.mem_cons_self), if_neg (hregisters i List.mem_cons_self)]
      obtain ⟨st', hok, hunreg, hclient⟩ := ih
        (fun j hj => hnamed j (List.mem_cons_of_mem i hj))
        (fun j hj => hregisters j (List.mem_cons_of_mem i hj))
        { st with boardInfo := Function.update st.boardInfo i (p.board k.irq i),
                  client := Function.update st.client i (k.registers p i) }
      refine ⟨st', hok, hunreg, fun j => ?_⟩
      rw [hclient j]
      dsimp only
      rw [Function.update_apply]
      by_cases hj : j ∈ is
      · rw [if_pos hj, if_pos (List.mem_cons_of_mem i hj)]
      · rw [if_neg hj]
        by_cases hji : j = i
        · rw [if_pos hji, if_pos (hji ▸ List.mem_cons_self), hji]
        · rw [if_neg hji, if_neg (by simp [hj, hji])]

/-- Up to the first chip that is not registered, and then the clean-up. -/
lemma alloc_first_failure {before : List ℕ} (after : List ℕ) {i : ℕ}
    (hnamed : ∀ j ∈ before, p.Named j) (hi : p.Named i)
    (hregisters : ∀ j ∈ before, k.registers p j ≠ none) (hfails : k.registers p i = none)
    (st : I2cPrivate) :
    ∃ st₁, allocDevice p k k.irq (before ++ i :: after) st = .ok (cleanupDevices p st₁).1 ∧
      st₁.unregistered = st.unregistered ∧
      ∀ j, st₁.client j =
        if j ∈ before then k.registers p j else if j = i then none else st.client j := by
  induction before generalizing st with
  | nil =>
      rw [List.nil_append, allocDevice_cons hi, if_pos hfails]
      refine ⟨_, rfl, rfl, fun j => ?_⟩
      dsimp only
      rw [Function.update_apply, if_neg List.not_mem_nil]
  | cons b before ih =>
      rw [List.cons_append, allocDevice_cons (hnamed b List.mem_cons_self),
        if_neg (hregisters b List.mem_cons_self)]
      obtain ⟨st₁, hok, hunreg, hclient⟩ := ih
        (fun j hj => hnamed j (List.mem_cons_of_mem b hj))
        (fun j hj => hregisters j (List.mem_cons_of_mem b hj))
        { st with boardInfo := Function.update st.boardInfo b (p.board k.irq b),
                  client := Function.update st.client b (k.registers p b) }
      refine ⟨st₁, hok, hunreg, fun j => ?_⟩
      rw [hclient j]
      dsimp only
      rw [Function.update_apply]
      by_cases hj : j ∈ before
      · rw [if_pos hj, if_pos (List.mem_cons_of_mem b hj)]
      · rw [if_neg hj]
        by_cases hjb : j = b
        · have hne : j ≠ i := by
            intro hji
            exact hregisters b List.mem_cons_self (hjb ▸ hji ▸ hfails)
          rw [if_neg hne, if_pos hjb, if_pos (hjb ▸ List.mem_cons_self), hjb]
        · have hnot : j ∉ b :: before := by
            simp [hj, hjb]
          rw [if_neg hjb, if_neg hnot]

/-- With every chip registered, the names of all have been used. -/
lemma named_of_alloc_all {is : List ℕ} {st st' : I2cPrivate}
    (h : allocDevice p k k.irq is st = .ok st') (hregisters : ∀ i ∈ is, k.registers p i ≠ none) :
    ∀ i ∈ is, p.Named i := by
  induction is generalizing st with
  | nil => exact fun i hi => absurd hi List.not_mem_nil
  | cons i is ih =>
      have hname := named_of_alloc h
      rw [allocDevice_cons hname, if_neg (hregisters i List.mem_cons_self)] at h
      intro j hj
      rcases List.mem_cons.mp hj with rfl | hj
      · exact hname
      · exact ih h (fun j hj => hregisters j (List.mem_cons_of_mem i hj)) j hj

lemma I2cParams.nodup_chips (p : I2cParams) : p.chips.Nodup :=
  List.nodup_range.sublist (List.takeWhile_sublist _)

end

/-! ## Runs -/

/-- **The invariant.**  Only the slots of chips are used, and only between a set-up and the call
that frees it. -/
structure I2cPrivate.Settled (p : I2cParams) (st : I2cPrivate) : Prop where
  outside : ∀ i, i ∉ p.chips → st.client i = none
  idle : st.pdev = none → ∀ i ∈ p.chips, st.client i = none

namespace I2cPrivate.Settled

variable {p : I2cParams} {k : I2cKernel} {st st' : I2cPrivate}

lemma initial : (I2cPrivate.initial).Settled p := ⟨fun _ _ => rfl, fun _ _ _ => rfl⟩

/-- Nothing is registered before a set-up. -/
lemma empty (h : st.Settled p) (hidle : st.pdev = none) (i : ℕ) : st.client i = none := by
  by_cases hi : i ∈ p.chips
  · exact h.idle hidle i hi
  · exact h.outside i hi

/-- The loop of the set-up writes to the slots of its chips only, and keeps the device. -/
lemma allocDevice_frame {irq : UInt32} {is : List ℕ} (hsub : is ⊆ p.chips)
    (houtside : ∀ i, i ∉ p.chips → st.client i = none)
    (h : allocDevice p k irq is st = .ok st') :
    st'.pdev = st.pdev ∧ ∀ i, i ∉ p.chips → st'.client i = none := by
  induction is generalizing st with
  | nil =>
      cases h
      exact ⟨rfl, houtside⟩
  | cons i is ih =>
      have hi := hsub List.mem_cons_self
      rw [allocDevice] at h
      obtain ⟨type, _, h⟩ := bind_eq_ok.mp h
      have hupdate : ∀ o : Option I2cClient, ∀ j, j ∉ p.chips →
          Function.update st.client i o j = none := by
        intro o j hj
        have hne : j ≠ i := fun heq => hj (heq ▸ hi)
        rw [Function.update_of_ne hne]
        exact houtside j hj
      dsimp only at h
      split_ifs at h with hnone
      · cases h
        refine ⟨foldl_cleanup_pdev _ _, fun j hj => ?_⟩
        rw [cleanupDevices, foldl_cleanup_client, if_neg hj]
        exact hupdate _ j hj
      · have hrest := ih (fun j hj => hsub (List.mem_cons_of_mem i hj)) (by exact hupdate _) h
        exact hrest

/-- What a set-up that goes through has done. -/
lemma setup_inv (h : setupI2cDevices p k st = .ok st') :
    ∃ irq, st.pdev = some irq ∧ allocDevice p k irq p.chips st = .ok st' := by
  unfold setupI2cDevices at h
  obtain ⟨_, h⟩ := ensure_bind_eq_ok.mp h
  obtain ⟨_, h⟩ := ensure_bind_eq_ok.mp h
  obtain ⟨_, h⟩ := ensure_bind_eq_ok.mp h
  obtain ⟨⟨st₁, ret⟩, halloc, h⟩ := bind_eq_ok.mp h
  dsimp only at h
  obtain ⟨_, h⟩ := ensure_bind_eq_ok.mp h
  cases h
  unfold allocDevices at halloc
  cases hpdev : st.pdev with
  | none =>
      rw [hpdev] at halloc
      cases halloc
  | some irq =>
      rw [hpdev] at halloc
      obtain ⟨st₂, hloop, heq⟩ := bind_eq_ok.mp halloc
      cases heq
      exact ⟨irq, rfl, hloop⟩

lemma exec (h : st.Settled p) {c : I2cCall} (hexec : c.exec p st = .ok st') : st'.Settled p := by
  cases c with
  | setUp k =>
      rw [I2cCall.exec, initializeI2cDevice] at hexec
      split_ifs at hexec with henable
      · cases hexec
        exact h
      · obtain ⟨_, hexec⟩ := ensure_bind_eq_ok.mp hexec
        obtain ⟨irq, hpdev, hloop⟩ := setup_inv hexec
        obtain ⟨hkeep, houtside⟩ :=
          allocDevice_frame (List.Subset.refl _) (by exact h.outside) hloop
        refine ⟨houtside, fun hidle => ?_⟩
        rw [hkeep, hpdev] at hidle
        cases hidle
  | free =>
      rw [I2cCall.exec, freeI2cDevice] at hexec
      split_ifs at hexec with henable
      · cases hexec
        exact h
      · obtain ⟨_, hexec⟩ := ensure_bind_eq_ok.mp hexec
        cases hexec
        have hclient : ∀ j, ((cleanupDevices p st).1).client j =
            if j ∈ p.chips then none else st.client j := foldl_cleanup_client p.chips st
        refine ⟨fun i hi => ?_, fun _ i hi => ?_⟩
        · exact (hclient i).trans ((if_neg hi).trans (h.outside i hi))
        · exact (hclient i).trans (if_pos hi)

end I2cPrivate.Settled

/-! ## The two ends of a set-up -/

section

variable {p : I2cParams} {k : I2cKernel} {st : I2cPrivate}

lemma allocDevices_eq (hpdev : st.pdev = some k.irq) :
    allocDevices p k st = (allocDevice p k k.irq p.chips st >>= fun st => .ok (st, 0)) := by
  rw [allocDevices, hpdev]

/-- **What a failed registration leads to**: each client registered before it is unregistered, in
order, and no slot keeps one, but the result is 0. -/
theorem failed_registration_undone (hpdev : st.pdev = some k.irq)
    (hempty : ∀ i, st.client i = none) {before after : List ℕ} {i : ℕ}
    (hchips : p.chips = before ++ i :: after) (hnamed : ∀ j ∈ before, p.Named j) (hi : p.Named i)
    (hregisters : ∀ j ∈ before, k.registers p j ≠ none) (hfails : k.registers p i = none) :
    ∃ st', allocDevices p k st = .ok (st', 0) ∧
      st'.unregistered = st.unregistered ++ before.filterMap (k.registers p) ∧
      ∀ j ∈ p.chips, st'.client j = none := by
  obtain ⟨st₁, hloop, hunreg, hclient⟩ :=
    alloc_first_failure after hnamed hi hregisters hfails st
  rw [← hchips] at hloop
  refine ⟨_, by rw [allocDevices_eq hpdev, hloop, ok_bind], ?_, fun j hj => ?_⟩
  · have hrest : (i :: after).filterMap st₁.client = [] := by
      refine List.filterMap_eq_nil_iff.mpr fun j hj => ?_
      have hnot : j ∉ before := by
        intro hmem
        have hnodup := p.nodup_chips
        rw [hchips] at hnodup
        exact (List.nodup_append.mp hnodup).2.2 j hmem j hj rfl
      rw [hclient j, if_neg hnot, hempty j, ite_self]
    have hbefore : before.filterMap st₁.client = before.filterMap (k.registers p) :=
      List.filterMap_congr fun j hj => by rw [hclient j, if_pos hj]
    rw [cleanupDevices, foldl_cleanup_unregistered p.nodup_chips, hunreg, hchips,
      List.filterMap_append, hbefore, hrest, List.append_nil]
  · rw [cleanupDevices, foldl_cleanup_client, if_pos hj]

/-- Where every chip has a name and is registered, the specification holds. -/
lemma allOrNothing_of_registers (hpdev : st.pdev = some k.irq)
    (hall : ∀ i ∈ p.chips, p.Named i ∧ k.registers p i ≠ none) : AllOrNothing p k st := by
  obtain ⟨st', hloop, hunreg, hclient⟩ :=
    alloc_all (fun i hi => (hall i hi).1) (fun i hi => (hall i hi).2) st
  have hclient' : ∀ i ∈ p.chips, st'.client i = k.registers p i :=
    fun i hi => (hclient i).trans (if_pos hi)
  refine ⟨fun _ => ⟨st', by rw [allocDevices_eq hpdev, hloop, ok_bind], hclient', hunreg⟩, ?_, ?_⟩
  · intro before i after hchips _ hfails
    have hi : i ∈ p.chips := by simp [hchips]
    exact absurd hfails (hall i hi).2
  · intro st₁ hsetup i hi
    obtain ⟨irq, hirq, hloop'⟩ := I2cPrivate.Settled.setup_inv hsetup
    rw [hpdev] at hirq
    cases hirq
    rw [hloop] at hloop'
    cases hloop'
    rw [hclient' i hi]
    exact (hall i hi).2

/-- Where the specification holds, every chip has a name and is registered: the result is never
anything but 0. -/
lemma registers_of_allOrNothing (hpdev : st.pdev = some k.irq) (h : AllOrNothing p k st) :
    ∀ i ∈ p.chips, p.Named i ∧ k.registers p i ≠ none := by
  have hregisters : ∀ i ∈ p.chips, k.registers p i ≠ none := by
    cases hfirst : p.chips.find? fun i => (k.registers p i).isNone with
    | none =>
        intro i hi hnone
        have hnot := List.find?_eq_none.mp hfirst i hi
        rw [hnone] at hnot
        exact hnot rfl
    | some i =>
        obtain ⟨hfails, before, after, hchips, hbefore⟩ :=
          List.find?_eq_some_iff_append.mp hfirst
        have hbefore' : ∀ j ∈ before, k.registers p j ≠ none := by
          intro j hj hnone
          have hsome := hbefore j hj
          rw [hnone] at hsome
          cases hsome
        obtain ⟨st', ret, hrun, hret, _⟩ :=
          h.failure before i after hchips hbefore' (Option.isNone_iff_eq_none.mp hfails)
        rw [allocDevices_eq hpdev] at hrun
        obtain ⟨_, _, heq⟩ := bind_eq_ok.mp hrun
        cases heq
        exact absurd rfl hret
  obtain ⟨st', hrun, _⟩ := h.success hregisters
  rw [allocDevices_eq hpdev] at hrun
  obtain ⟨st₁, hloop, _⟩ := bind_eq_ok.mp hrun
  exact fun i hi => ⟨named_of_alloc_all hloop hregisters i hi, hregisters i hi⟩

end

/-- **All or nothing.**  Whatever was set up and freed before, a set-up of the devices meets its
specification iff every chip of the list has a name with room for it and is registered: after a
failed registration there is no error. -/
theorem i2c_setup_all_or_nothing_iff (p : I2cParams) (calls : List I2cCall) (st : I2cPrivate)
    (hrun : calls.foldlM (I2cCall.exec p) .initial = .ok st) (hidle : st.pdev = none)
    (k : I2cKernel) :
    (∀ i, st.client i = none) ∧
      (AllOrNothing p k { st with pdev := some k.irq } ↔
        ∀ i ∈ p.chips, p.Named i ∧ k.registers p i ≠ none) := by
  have hsettled : st.Settled p :=
    run_invariant (fun _ _ _ h => h.exec) calls I2cPrivate.Settled.initial hrun
  exact ⟨hsettled.empty hidle, registers_of_allOrNothing rfl, allOrNothing_of_registers rfl⟩

/-- Two chips of one kind. -/
def twoChips : I2cParams where
  enable := 1
  chipAddr := fun i => if i = 0 then 0x1a else if i = 1 then 0x1b else 0
  names := fun _ => some "wm8731"

/-- The kernel registers the chips up to the given number. -/
def registersUpTo (n : ℕ) : I2cKernel where
  irq := 10
  addAdapter := 0
  newDevice := fun i _ => if i < n then some (0xc0001000 + UInt32.ofNat i) else none

theorem i2c_setup_two_chips :
    AllOrNothing twoChips (registersUpTo 2) { I2cPrivate.initial with pdev := some 10 } := by
  have hiff := i2c_setup_all_or_nothing_iff twoChips [] .initial rfl rfl (registersUpTo 2)
  refine hiff.2.mpr fun i hi => ⟨⟨"wm8731", rfl, by decide⟩, ?_⟩
  have hchips : twoChips.chips = [0, 1] := by decide
  rw [hchips] at hi
  rcases List.mem_pair.mp hi with rfl | rfl
  · exact Option.some_ne_none _
  · exact Option.some_ne_none _

/-- **Devices that are not there.**  The second of two chips is not registered; the first is
unregistered again, and the set-up goes on as if it had both. -/
theorem failed_registration_goes_on :
    ¬ AllOrNothing twoChips (registersUpTo 1) { I2cPrivate.initial with pdev := some 10 } ∧
      ∃ st, initializeI2cDevice twoChips (registersUpTo 1) .initial = .ok st ∧
        st.unregistered = [0xc0001000] ∧ st.client 0 = none ∧ st.client 1 = none := by
  constructor
  · intro h
    have hchips : (1 : ℕ) ∈ twoChips.chips := by decide
    have hall := registers_of_allOrNothing (k := registersUpTo 1) rfl h 1 hchips
    exact hall.2 rfl
  · exact ⟨_, rfl, rfl, rfl, rfl⟩

end SymDrive
