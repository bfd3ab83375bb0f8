import SymDrive.Gtf.DmaPool
import SymDrive.Library.CircularSearch

/-!
# Taking DMA records

`dma_struct_get` of `misc_checks/freebsd.c` goes through the pool in a circle, from the record that
was found last.  It finds an unused record if there is one, whatever the size of the pool
(`dma_struct_get_correct`).

The checks of the two loads take a record before the call.  After a call that has failed neither
gives it back, so a pool survives as many failing loads as it has unused records
(`failed_loads_leak`).
-/

namespace SymDrive

open Checked CircularSearch

/-! ## The search -/

def DmaPool.unused (p : DmaPool) (i : ℕ) : Bool := decide ((p.dmaStructs i).used = 0)

/-- What is done about the record that is found, if any. -/
def DmaPool.take (p : DmaPool) : Option ℕ → Except Fault (DmaPool × ℕ)
  | some i => .ok ({ p.set i { DmaStruct.zero with used := 1 } with lastUnused := i }, i)
  | none => .error (.assertion .dmaStructGet "Out of DMA map structures!")

/-- `dma_struct_get` in a pool of `n` records: the records it examines, and what it returns.  The
loop is cut off after `fuel` turns. -/
def dmaStructGetIn (n fuel : ℕ) (p : DmaPool) :
    Option (List ℕ × Except Fault (DmaPool × ℕ)) :=
  ((Search.mk p.lastUnused false).run n p.lastUnused p.unused fuel).map fun r =>
    (r.1, p.take r.2)

inductive PoolOp where
  | get
  | free (cur : ℕ)
  deriving DecidableEq, Repr

def PoolOp.exec (n : ℕ) (p : DmaPool) : PoolOp → Except Fault DmaPool
  | get =>
      match dmaStructGetIn n n p with
      | some r => r.2.map Prod.fst
      | none => .error .outOfFuel
  | free cur => dmaStructFree p cur

/-- **The specification of one search**: it examines no record twice; it returns an unused one,
zeroed and marked, if there is any, and changes no other; otherwise it reaches the assertion. -/
structure GetCorrect (n : ℕ) (p : DmaPool) (examined : List ℕ)
    (r : Except Fault (DmaPool × ℕ)) : Prop where
  once : examined.Nodup
  inside : ∀ i ∈ examined, i < n
  found : (∃ p' i, r = .ok (p', i)) ↔ ∃ i < n, (p.dmaStructs i).used = 0
  unused : ∀ p' i, r = .ok (p', i) → i < n ∧ (p.dmaStructs i).used = 0
  record : ∀ p' i, r = .ok (p', i) → p'.dmaStructs i = { DmaStruct.zero with used := 1 }
  others : ∀ p' i, r = .ok (p', i) → ∀ j, j ≠ i → p'.dmaStructs j = p.dmaStructs j
  last : ∀ p' i, r = .ok (p', i) → p'.lastUnused < n
  full : r = .error (.assertion .dmaStructGet "Out of DMA map structures!") ↔
    ∀ i < n, (p.dmaStructs i).used ≠ 0

section

variable {n : ℕ} {p p' : DmaPool}

lemma unused_iff {i : ℕ} : p.unused i = true ↔ (p.dmaStructs i).used = 0 := decide_eq_true_iff

lemma dmaStructGetIn_eq (hlast : p.lastUnused < n) {fuel : ℕ} (hfuel : n ≤ fuel) :
    dmaStructGetIn n fuel p = some (upTo p.unused (order n p.lastUnused),
      p.take ((order n p.lastUnused).find? p.unused)) := by
  rw [dmaStructGetIn, run_eq hlast _ hfuel]
  rfl

/-- What the search returns is right. -/
lemma getCorrect_order (hlast : p.lastUnused < n) :
    GetCorrect n p (upTo p.unused (order n p.lastUnused))
      (p.take ((order n p.lastUnused).find? p.unused)) := by
  have hmem : ∀ i, i ∈ order n p.lastUnused ↔ i < n := fun i => mem_order hlast.le
  have hup := upTo_sublist p.unused (order n p.lastUnused)
  have honce := (nodup_order hlast.le).sublist hup
  have hinside : ∀ i ∈ upTo p.unused (order n p.lastUnused), i < n :=
    fun i hi => (hmem i).mp (hup.subset hi)
  cases hfind : (order n p.lastUnused).find? p.unused with
  | none =>
      have hnone : ∀ i < n, (p.dmaStructs i).used ≠ 0 := fun i hi h =>
        List.find?_eq_none.mp hfind i ((hmem i).mpr hi) (unused_iff.mpr h)
      have herror : ∀ p' i, p.take none ≠ .ok (p', i) := fun p' i h => by cases h
      exact {
        once := honce
        inside := hinside
        found := iff_of_false (fun ⟨p', i, h⟩ => herror p' i h) fun ⟨i, hi, h⟩ => hnone i hi h
        unused := fun p' i h => absurd h (herror p' i)
        record := fun p' i h => absurd h (herror p' i)
        others := fun p' i h => absurd h (herror p' i)
        last := fun p' i h => absurd h (herror p' i)
        full := iff_of_true rfl hnone }
  | some i =>
      have hi : i < n := (hmem i).mp (List.mem_of_find?_eq_some hfind)
      have hunused : (p.dmaStructs i).used = 0 := unused_iff.mp (List.find?_some hfind)
      refine ⟨honce, hinside, iff_of_true ⟨_, _, rfl⟩ ⟨i, hi, hunused⟩, ?_, ?_, ?_, ?_, ?_⟩
      · rintro p' j h
        cases h
        exact ⟨hi, hunused⟩
      · rintro p' j h
        cases h
        exact p.set_self i _
      · rintro p' j h k hk
        cases h
        exact p.set_of_ne hk _
      · rintro p' j h
        cases h
        exact hi
      · exact iff_of_false (fun h => by cases h) fun h => h i hi hunused

/-- Where a search starts is always a record. -/
lemma PoolOp.exec_last (hlast : p.lastUnused < n) {op : PoolOp} (h : op.exec n p = .ok p') :
    p'.lastUnused < n := by
  cases op with
  | get =>
      rw [exec, dmaStructGetIn_eq hlast le_rfl] at h
      obtain ⟨⟨p₁, i⟩, hr, rfl⟩ := map_eq_ok.mp h
      exact (getCorrect_order hlast).last p₁ i hr
  | free cur =>
      obtain ⟨_, h⟩ := tfassertDetail_bind_eq_ok.mp h
      cases h
      exact hlast

lemma PoolOp.run_last (hlast : p.lastUnused < n) {ops : List PoolOp}
    (h : ops.foldlM (PoolOp.exec n) p = .ok p') : p'.lastUnused < n := by
  induction ops generalizing p with
  | nil =>
      cases h
      exact hlast
  | cons op ops ih =>
      rw [List.foldlM_cons] at h
      obtain ⟨p₁, hop, h⟩ := bind_eq_ok.mp h
      exact ih (op.exec_last hlast hop) h

end

/-- **The search for an unused record is correct**, from wherever any calls of `dma_struct_get` and
`dma_struct_free` have left its starting point, and whichever records are in use. -/
theorem dma_struct_get_correct (n : ℕ) (hn : 1 ≤ n) (start structs : ℕ → DmaStruct)
    (ops : List PoolOp) (p : DmaPool)
    (hrun : ops.foldlM (PoolOp.exec n) { dmaStructs := start, lastUnused := 0 } = .ok p) :
    p.lastUnused < n ∧ ∃ examined r,
      (∀ fuel, n ≤ fuel →
        dmaStructGetIn n fuel { p with dmaStructs := structs } = some (examined, r)) ∧
      GetCorrect n { p with dmaStructs := structs } examined r := by
  have hlast : p.lastUnused < n := PoolOp.run_last (p := ⟨start, 0⟩) hn hrun
  have hcorrect := getCorrect_order (p := { p with dmaStructs := structs }) hlast
  exact ⟨hlast, _, _, fun fuel hfuel => dmaStructGetIn_eq (p := { p with dmaStructs := structs })
    hlast hfuel, hcorrect⟩

/-- Two records, of which the first one is taken and the second one is in use. -/
theorem dma_struct_get_correct_two : ∃ p, ∃ examined r,
    (∀ fuel, 2 ≤ fuel → dmaStructGetIn 2 fuel p = some (examined, r)) ∧
      GetCorrect 2 p examined r := by
  obtain ⟨_, examined, r, hget, hcorrect⟩ := dma_struct_get_correct 2 (by decide)
    (fun _ => .zero) (fun i => { DmaStruct.zero with used := if i = 0 then 0 else 1 }) [.get]
    ⟨Function.update (fun _ => .zero) 0 { DmaStruct.zero with used := 1 }, 0⟩ rfl
  exact ⟨_, examined, r, hget, hcorrect⟩

/-- The search in the pool of the checks. -/
lemma dmaStructGetIn_maxStructs {p : DmaPool} (hlast : p.lastUnused < maxStructs) :
    dmaStructGetIn maxStructs maxStructs p =
      some (upTo p.unused (dmaStructOrder p.lastUnused), dmaStructGet p) := by
  rw [dmaStructGetIn_eq hlast le_rfl, dmaStructGet]
  refine congrArg some (congrArg _ ?_)
  show p.take ((dmaStructOrder p.lastUnused).find? p.unused) = _
  unfold DmaPool.unused
  cases (dmaStructOrder p.lastUnused).find? fun i => decide ((p.dmaStructs i).used = 0) with
  | none => rfl
  | some i => rfl

lemma dmaStructGet_correct {p : DmaPool} (hlast : p.lastUnused < maxStructs) :
    ∃ examined, GetCorrect maxStructs p examined (dmaStructGet p) := by
  have hget := dmaStructGetIn_maxStructs hlast
  rw [dmaStructGetIn_eq hlast le_rfl] at hget
  obtain ⟨_, hr⟩ := Prod.mk.inj (Option.some.inj hget)
  exact ⟨_, hr ▸ getCorrect_order hlast⟩

/-! ## Loads that fail -/

/-- `EINPROGRESS`: the kernel will load the map later. -/
def eInProgress : ℤ := 36

/-- A load after which the map is not loaded.  The kernel may have called the callback with an
error. -/
structure FailedLoad where
  hook : LoadHook
  tag : ULong
  callback : ULong
  arg : ULong
  argAddr : ULong
  found : DmaStruct
  called : Option MapResult
  retval : ℤ
  failed : retval ≠ 0
  final : retval ≠ eInProgress
  unmapped : ∀ result ∈ called, result.error ≠ 0

namespace FailedLoad

/-- The pool after the kernel's call. -/
def kernel (load : FailedLoad) (p : DmaPool) (args : LoadArgs) : Except Fault DmaPool :=
  match load.called with
  | some result => (kernelCalls p args load.found result).map Prod.fst
  | none => .ok p

/-- The check before the call, the call, and the check after it. -/
def exec (s : DmaState) (load : FailedLoad) : Except Fault DmaState := do
  let r ← load.hook.check s 0 0 load.tag load.argAddr ⟨.driver load.callback, .driver load.arg⟩
  let pool ← load.kernel r.1.pool r.2
  let r ← load.hook.check { r.1 with pool := pool } 1 load.retval load.tag load.argAddr r.2
  .ok r.1

end FailedLoad

def DmaPool.unusedRecords (p : DmaPool) : Finset ℕ :=
  (Finset.range maxStructs).filter fun i => (p.dmaStructs i).used = 0

/-- The records that are used, and what is in them. -/
structure SameRecords (p p' : DmaPool) : Prop where
  unused : p'.unusedRecords = p.unusedRecords
  contents : ∀ i < maxStructs, i ∉ p.unusedRecords → p'.dmaStructs i = p.dmaStructs i

/-- **The specification of one load**: the checks go through, and leave the records as they were. -/
def FailedLoad.Kept (load : FailedLoad) (s : DmaState) : Prop :=
  ∃ s', load.exec s = .ok s' ∧ SameRecords s.pool s'.pool

section

variable {s s' : DmaState} {p p' : DmaPool} {tag : ULong} {load : FailedLoad}

lemma mem_unusedRecords {i : ℕ} :
    i ∈ p.unusedRecords ↔ i < maxStructs ∧ (p.dmaStructs i).used = 0 := by
  rw [DmaPool.unusedRecords, Finset.mem_filter, Finset.mem_range]

/-- Taking a record leaves one unused record less. -/
lemma Takes.unusedRecords (h : Takes tag p p') :
    p'.unusedRecords = p.unusedRecords.erase p'.lastUnused := by
  ext i
  rw [Finset.mem_erase, mem_unusedRecords, mem_unusedRecords]
  by_cases hi : i = p'.lastUnused
  · rw [hi, h.used]
    simp
  · rw [h.others i hi]
    simp [hi]

lemma Takes.mem_unusedRecords (h : Takes tag p p') (hlast : p.lastUnused < maxStructs) :
    p'.lastUnused ∈ p.unusedRecords :=
  SymDrive.mem_unusedRecords.mpr ⟨lt_of_mem_dmaStructOrder hlast h.order, h.free⟩

/-- A check routine needs the lock. -/
lemma DmaState.checkRoutine_lock {α : Type} {body : DmaState → Except Fault (DmaState × α)}
    {r : DmaState × α} (h : s.checkRoutine body = .ok r) : s.lock = ⟨0⟩ := by
  obtain ⟨r', hlocked, _⟩ := map_eq_ok.mp h
  obtain ⟨lock, hacquire, _⟩ := bind_eq_ok.mp hlocked
  obtain ⟨h0, _⟩ := acquireGlobalLock_eq_ok.mp hacquire
  cases hlock : s.lock with
  | mk acquired =>
      rw [hlock] at h0
      exact congrArg GlobalLock.mk h0

lemma LoadHook.check_lock {hook : LoadHook} {prepost retval : ℤ} {argAddr : ULong}
    {args : LoadArgs} {r : DmaState × LoadArgs}
    (h : hook.check s prepost retval tag argAddr args = .ok r) : s.lock = ⟨0⟩ := by
  cases hook with
  | load =>
      rw [LoadHook.check, busDmamapLoadMJRcheck] at h
      exact DmaState.checkRoutine_lock h
  | loadMbuf =>
      rw [LoadHook.check, busDmamapLoadMbufMJRcheck] at h
      exact DmaState.checkRoutine_lock h

/-- The check before the call goes through if there is an unused record. -/
lemma LoadHook.exists_check_pre {hook : LoadHook} (tag argAddr : ULong) (args : LoadArgs)
    (hlock : s.lock = ⟨0⟩) {r : DmaPool × ℕ} (hget : dmaStructGet s.pool = .ok r) :
    ∃ r, hook.check s 0 0 tag argAddr args = .ok r := by
  cases hook with
  | load =>
      rw [LoadHook.check, busDmamapLoadMJRcheck, DmaState.checkRoutine_free hlock, if_pos rfl, hget,
        ok_bind]
      exact ⟨_, rfl⟩
  | loadMbuf =>
      rw [LoadHook.check, busDmamapLoadMbufMJRcheck, DmaState.checkRoutine_free hlock, if_pos rfl,
        hget, ok_bind]
      exact ⟨_, rfl⟩

/-- A callback that gets an error goes through. -/
lemma FailedLoad.exists_kernel (load : FailedLoad) (p : DmaPool) (args : LoadArgs) :
    ∃ p', load.kernel p args = .ok p' := by
  unfold kernel
  cases hcalled : load.called with
  | none => exact ⟨p, rfl⟩
  | some result =>
      have hfill : ∀ cur, fillRecord cur result = .ok cur := fun cur =>
        if_neg (load.unmapped result hcalled)
      dsimp only
      unfold kernelCalls busDmamapLoadCallback1 busDmamapLoadCallback2
      simp only [hfill, ok_bind]
      cases args.callback with
      | _ => exact ⟨_, rfl⟩

/-- A load that has failed keeps its record. -/
lemma FailedLoad.exec_takes (h : load.exec s = .ok s') :
    s'.lock = ⟨0⟩ ∧ Takes load.tag s.pool s'.pool := by
  obtain ⟨r, hpre, h⟩ := bind_eq_ok.mp h
  obtain ⟨pool, hkernel, h⟩ := bind_eq_ok.mp h
  obtain ⟨r', hpost, h⟩ := bind_eq_ok.mp h
  cases h
  have hsaved := LoadHook.check_pre (LoadHook.check_lock hpre) hpre
  have hback := LoadHook.check_post (LoadHook.check_lock hpost) hpost
  refine ⟨hback.lock, ?_⟩
  rw [hback.pool]
  unfold kernel at hkernel
  cases hcalled : load.called with
  | none =>
      rw [hcalled] at hkernel
      cases hkernel
      exact hsaved.takes
  | some result =>
      rw [hcalled, hsaved.args] at hkernel
      obtain ⟨⟨pool', called⟩, hcalls, rfl⟩ := map_eq_ok.mp hkernel
      exact kernelCalls_takes hsaved.takes hcalls

lemma FailedLoad.exec_ok_iff (load : FailedLoad) (hlock : s.lock = ⟨0⟩)
    (hlast : s.pool.lastUnused < maxStructs) :
    (∃ s', load.exec s = .ok s') ↔ s.pool.unusedRecords.Nonempty := by
  constructor
  · rintro ⟨s', h⟩
    exact ⟨_, (exec_takes h).2.mem_unusedRecords hlast⟩
  · rintro ⟨i, hi⟩
    obtain ⟨examined, hcorrect⟩ := dmaStructGet_correct hlast
    obtain ⟨p', j, hget⟩ := hcorrect.found.mpr ⟨i, mem_unusedRecords.mp hi⟩
    obtain ⟨r, hpre⟩ : ∃ r, load.hook.check s 0 0 load.tag load.argAddr
        ⟨.driver load.callback, .driver load.arg⟩ = .ok r :=
      LoadHook.exists_check_pre _ _ _ hlock hget
    have hsaved := LoadHook.check_pre hlock hpre
    obtain ⟨pool, hkernel⟩ := load.exists_kernel r.1.pool r.2
    have hcur : load.hook.cur { r.1 with pool := pool } = some r.1.pool.lastUnused := by
      rw [← hsaved.cur]
      cases load.hook <;> rfl
    obtain ⟨r', hpost⟩ := LoadHook.exists_check_post (s := { r.1 with pool := pool }) load.tag
      load.argAddr hsaved.lock hcur load.retval r.2
    refine ⟨r'.1, ?_⟩
    rw [exec, hpre, ok_bind, hkernel, ok_bind, hpost, ok_bind]

/-- The record that was taken is used afterwards. -/
lemma FailedLoad.not_kept (load : FailedLoad) (hlast : s.pool.lastUnused < maxStructs) :
    ¬ load.Kept s := by
  rintro ⟨s', h, hsame⟩
  obtain ⟨_, htakes⟩ := exec_takes h
  have hmem := htakes.mem_unusedRecords hlast
  rw [← hsame.unused, htakes.unusedRecords] at hmem
  exact Finset.notMem_erase _ _ hmem

/-- Each failing load uses one record up. -/
lemma FailedLoad.run_ok_iff (loads : List FailedLoad) (hlock : s.lock = ⟨0⟩)
    (hlast : s.pool.lastUnused < maxStructs) :
    (∃ s', loads.foldlM FailedLoad.exec s = .ok s') ↔
      loads.length ≤ s.pool.unusedRecords.card := by
  induction loads generalizing s with
  | nil => exact iff_of_true ⟨s, rfl⟩ (Nat.zero_le _)
  | cons load loads ih =>
      rw [List.foldlM_cons, List.length_cons]
      cases hexec : load.exec s with
      | error fault =>
          have hempty : s.pool.unusedRecords.card = 0 := by
            rw [Finset.card_eq_zero, ← Finset.not_nonempty_iff_eq_empty,
              ← load.exec_ok_iff hlock hlast, hexec]
            rintro ⟨s', h⟩
            cases h
          rw [hempty]
          refine iff_of_false ?_ (by omega)
          rintro ⟨s', h⟩
          cases h
      | ok s₁ =>
          obtain ⟨hlock₁, htakes⟩ := exec_takes hexec
          have hlast₁ := lt_of_mem_dmaStructOrder hlast htakes.order
          have hmem := htakes.mem_unusedRecords hlast
          have hpos : 0 < s.pool.unusedRecords.card := Finset.card_pos.mpr ⟨_, hmem⟩
          rw [ok_bind, ih hlock₁ hlast₁, htakes.unusedRecords, Finset.card_erase_of_mem hmem]
          omega

end

/-- **Failing loads use the pool up**: none leaves the records as they were, and as many of them go
through as there are unused records. -/
theorem failed_loads_leak (s : DmaState) (hlast : s.pool.lastUnused < maxStructs) :
    (∀ load : FailedLoad, ¬ load.Kept s) ∧
      (s.lock = ⟨0⟩ → ∀ loads : List FailedLoad,
        (∃ s', loads.foldlM FailedLoad.exec s = .ok s') ↔
          loads.length ≤ s.pool.unusedRecords.card) :=
  ⟨fun load => load.not_kept hlast, fun hlock loads => FailedLoad.run_ok_iff loads hlock hlast⟩

/-- The kernel has no memory (`ENOMEM`) and calls the callback with that error. -/
def deniedLoad : FailedLoad where
  hook := .load
  tag := 7
  callback := 0x4000
  arg := 0x5000
  argAddr := 0x8000
  found := .zero
  called := some ⟨[], none, 12⟩
  retval := 12
  failed := by decide
  final := by decide
  unmapped := by simp

theorem failed_loads_leak_denied : ¬ deniedLoad.Kept .initial ∧
    ((∃ s', [deniedLoad, deniedLoad].foldlM FailedLoad.exec .initial = .ok s') ↔
      2 ≤ DmaState.initial.pool.unusedRecords.card) := by
  obtain ⟨hleak, hrun⟩ := failed_loads_leak .initial (by decide)
  exact ⟨hleak deniedLoad, hrun rfl [deniedLoad, deniedLoad]⟩

/-- Its checks go through, and the record stays in use. -/
theorem denied_load_keeps_record :
    (∃ s', deniedLoad.exec .initial = .ok s') ∧ ¬ deniedLoad.Kept .initial := by
  refine ⟨?_, deniedLoad.not_kept (by decide)⟩
  rw [deniedLoad.exec_ok_iff rfl (by decide)]
  exact ⟨0, mem_unusedRecords.mpr ⟨by decide, rfl⟩⟩

end SymDrive
