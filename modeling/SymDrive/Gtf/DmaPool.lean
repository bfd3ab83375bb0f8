import Mathlib.Data.List.Nodup
import SymDrive.Gtf.Framework

/-!
# The pool of DMA records

`misc_checks/freebsd.c`: each successful load of a DMA map takes a record from a pool, which says
which segments were made symbolic, and the check of `bus_dmamap_unload` gives a record back.

The kernel knows a mapping by its tag and its map, but a record keeps the tag only, and the first
one with the tag of the unloaded map is taken.  So the records follow the maps as long as each map
that is unloaded has the first record of its tag (`dma_unload_iff`).
-/

namespace SymDrive

open Checked

/-! ## The records -/

/-- `MAX_SEGS`. -/
def maxSegs : ℕ := 128

/-- `MAX_STRUCTS`. -/
def maxStructs : ℕ := 4096

/-- `bus_dma_segment_t`. -/
structure DmaSegment where
  dsAddr : ULong
  dsLen : ULong
  deriving DecidableEq, Repr

/-- A function a load can be given: one of the driver, or one of this file. -/
inductive CallbackFn where
  | driver (addr : ULong)
  | busDmamapLoadCallback1
  | busDmamapLoadCallback2
  deriving DecidableEq, Repr

/-- What a callback is given: an address of the driver, or a record of the pool. -/
inductive CallbackArg where
  | driver (addr : ULong)
  | record (i : ℕ)
  deriving DecidableEq, Repr

/-- `struct dma_struct_type`. -/
structure DmaStruct where
  used : ℤ
  tag : ULong
  dsAddr : ℕ → ULong
  dsLen : ℕ → ULong
  nsegs : ℕ
  origArg : CallbackArg
  origCallback1 : CallbackFn
  origCallback2 : CallbackFn

/-- What `memset` leaves. -/
def DmaStruct.zero : DmaStruct where
  used := 0
  tag := 0
  dsAddr := fun _ => 0
  dsLen := fun _ => 0
  nsegs := 0
  origArg := .driver 0
  origCallback1 := .driver 0
  origCallback2 := .driver 0

/-- The segments a record holds. -/
def DmaStruct.segs (cur : DmaStruct) : List DmaSegment :=
  (List.range cur.nsegs).map fun i => ⟨cur.dsAddr i, cur.dsLen i⟩

/-- The loops that fill the arrays. -/
def DmaStruct.setSegs (cur : DmaStruct) (segs : List DmaSegment) : DmaStruct :=
  { cur with
    dsAddr := fun i => (segs[i]?.map DmaSegment.dsAddr).getD (cur.dsAddr i)
    dsLen := fun i => (segs[i]?.map DmaSegment.dsLen).getD (cur.dsLen i)
    nsegs := segs.length }

/-- `dma_structs`, allocated at start-up, and the static variable of `dma_struct_get`. -/
structure DmaPool where
  dmaStructs : ℕ → DmaStruct
  lastUnused : ℕ

def DmaPool.set (p : DmaPool) (i : ℕ) (cur : DmaStruct) : DmaPool :=
  { p with dmaStructs := Function.update p.dmaStructs i cur }

/-- The search starts where the last record was found, and wraps around once. -/
def dmaStructOrder (lastUnused : ℕ) : List ℕ :=
  List.range' lastUnused (maxStructs - lastUnused) ++ List.range lastUnused

def dmaStructGet (p : DmaPool) : Except Fault (DmaPool × ℕ) :=
  match (dmaStructOrder p.lastUnused).find? fun i => decide ((p.dmaStructs i).used = 0) with
  | some i => .ok ({ p.set i { DmaStruct.zero with used := 1 } with lastUnused := i }, i)
  | none => .error (.assertion .dmaStructGet "Out of DMA map structures!")

def dmaStructFind (p : DmaPool) (tag : ULong) : Except Fault ℕ :=
  let matching := fun i => decide ((p.dmaStructs i).used = 1 ∧ (p.dmaStructs i).tag = tag)
  match (List.range' 0 maxStructs).find? matching with
  | some i => .ok i
  | none => .error (.assertion .dmaStructFind s!"Failed to find tag {pointerText tag}!")

def dmaStructFree (p : DmaPool) (i : ℕ) : Except Fault DmaPool := do
  tfassertDetail .dmaStructFree ((p.dmaStructs i).used = 1) "DMA map not used?"
  .ok (p.set i .zero)

def busDmamapCallbackCommon (cur : DmaStruct) (segs : List DmaSegment) :
    Except Fault DmaStruct := do
  tfassertDetail .busDmamapCallbackCommon (segs.length < maxSegs)
    s!"Too many segments! {segs.length} vs {maxSegs}\n"
  .ok (cur.setSegs segs)

/-! ## The check routines -/

/-- What the hypervisor is told about a segment. -/
inductive DmaSymbolic where
  | makeDmaSymbolic (seg : DmaSegment)
  | freeDmaSymbolic (seg : DmaSegment)
  deriving DecidableEq, Repr

/-- The lock, the pool, the variables `cur` of the two routines that keep one between their two
calls, and what the hypervisor was told so far. -/
structure DmaState where
  lock : GlobalLock
  pool : DmaPool
  curLoad : Option ℕ
  curLoadMbuf : Option ℕ
  symbolic : List DmaSymbolic

/-- `initialize_dma_map`. -/
def DmaState.initial : DmaState where
  lock := ⟨0⟩
  pool := { dmaStructs := fun _ => .zero, lastUnused := 0 }
  curLoad := none
  curLoadMbuf := none
  symbolic := []

/-- The arguments of a load that its check replaces. -/
structure LoadArgs where
  callback : CallbackFn
  callbackArg : CallbackArg
  deriving DecidableEq

/-- `check_routine_start`, the body, `check_routine_end`. -/
def DmaState.checkRoutine {α : Type} (s : DmaState)
    (body : DmaState → Except Fault (DmaState × α)) :
    Except Fault (DmaState × α) :=
  (lockedRoutine s.lock (body s)).map fun r => ({ r.2.1 with lock := r.1 }, r.2.2)

/-- `bus_dmamap_common`. -/
def busDmamapCommon (s : DmaState) (cur : DmaStruct) : DmaState :=
  { s with symbolic := s.symbolic ++ cur.segs.map .makeDmaSymbolic }

/-- `bus_dmaunmap_common`. -/
def busDmaunmapCommon (s : DmaState) (cur : DmaStruct) : DmaState :=
  { s with symbolic := s.symbolic ++ cur.segs.map .freeDmaSymbolic }

/-- Going through one of the variables `cur`. -/
def deref (check : Check) (cur : Option ℕ) : Except Fault ℕ :=
  match cur with
  | some i => .ok i
  | none => .error (.nullDeref (.check check))

/-- `argAddr` is the address of the variable that holds the argument of the callback: after the call
the routine stores this address there, and not the argument it had saved. -/
def busDmamapLoadMJRcheck (s : DmaState) (prepost retval : ℤ) (dmat argAddr : ULong)
    (args : LoadArgs) : Except Fault (DmaState × LoadArgs) :=
  s.checkRoutine fun s =>
    if prepost = 0 then do
      let (pool, cur) ← dmaStructGet s.pool
      let record :=
        { pool.dmaStructs cur with
          tag := dmat, origCallback1 := args.callback, origArg := args.callbackArg }
      .ok ({ s with pool := pool.set cur record, curLoad := some cur },
        { callback := .busDmamapLoadCallback1, callbackArg := .record cur })
    else if prepost = 1 then do
      let cur ← deref .busDmamapLoad s.curLoad
      let s := if retval = 0 then busDmamapCommon s (s.pool.dmaStructs cur) else s
      .ok (s, { callback := (s.pool.dmaStructs cur).origCallback1, callbackArg := .driver argAddr })
    else .error (.assertion (.check .busDmamapLoad) "")

/-- This routine leaves the argument of the callback alone before the call. -/
def busDmamapLoadMbufMJRcheck (s : DmaState) (prepost retval : ℤ) (dmat : ULong)
    (args : LoadArgs) : Except Fault (DmaState × LoadArgs) :=
  s.checkRoutine fun s =>
    if prepost = 0 then do
      let (pool, cur) ← dmaStructGet s.pool
      let record :=
        { pool.dmaStructs cur with
          tag := dmat, origCallback2 := args.callback, origArg := args.callbackArg }
      .ok ({ s with pool := pool.set cur record, curLoadMbuf := some cur },
        { args with callback := .busDmamapLoadCallback2 })
    else if prepost = 1 then do
      let cur ← deref .busDmamapLoadMbuf s.curLoadMbuf
      let s := if retval = 0 then busDmamapCommon s (s.pool.dmaStructs cur) else s
      .ok (s, { callback := (s.pool.dmaStructs cur).origCallback2,
                callbackArg := (s.pool.dmaStructs cur).origArg })
    else .error (.assertion (.check .busDmamapLoadMbuf) "")

def busDmamapLoadMbufSgMJRcheck (s : DmaState) (prepost retval : ℤ) (dmat : ULong)
    (segs : List DmaSegment) : Except Fault (DmaState × Unit) :=
  s.checkRoutine fun s =>
    if prepost = 0 then .ok (s, ())
    else if prepost = 1 then
      if retval = 0 then do
        let (pool, cur) ← dmaStructGet s.pool
        tfassertDetail (.check .busDmamapLoadMbufSg) (segs.length < maxSegs)
          s!"Too many segments! {segs.length} vs {maxSegs}\n"
        let record := { (pool.dmaStructs cur).setSegs segs with tag := dmat }
        .ok (busDmamapCommon { s with pool := pool.set cur record } record, ())
      else .ok (s, ())
    else .error (.assertion (.check .busDmamapLoadMbufSg) "")

def busDmamapUnloadMJRcheck (s : DmaState) (prepost : ℤ) (dmat : ULong) :
    Except Fault (DmaState × Unit) :=
  s.checkRoutine fun s =>
    if prepost = 0 then .ok (s, ())
    else if prepost = 1 then do
      let cur ← dmaStructFind s.pool dmat
      let s := busDmaunmapCommon s (s.pool.dmaStructs cur)
      let pool ← dmaStructFree s.pool cur
      .ok ({ s with pool := pool }, ())
    else .error (.assertion (.check .busDmamapUnload) "")

/-! ## The callbacks -/

/-- What the kernel calls a callback with, besides its argument; only one of the two kinds gets the
size of the map. -/
structure MapResult where
  segs : List DmaSegment
  mapsize : Option ULong
  error : ℤ
  deriving DecidableEq

/-- A call of a callback. -/
structure CallbackCall where
  callback : CallbackFn
  arg : CallbackArg
  result : MapResult
  deriving DecidableEq

/-- What both callbacks do to the record at their argument. -/
def fillRecord (cur : DmaStruct) (result : MapResult) : Except Fault DmaStruct :=
  if result.error = 0 then busDmamapCallbackCommon cur result.segs else .ok cur

/-- The record at an argument of a callback; `found` is what the driver's memory holds there, read
as a record. -/
def recordAt (p : DmaPool) (found : DmaStruct) : CallbackArg → DmaStruct
  | .driver _ => found
  | .record i => p.dmaStructs i

/-- The pool after a callback has written to the record at its argument. -/
def writeRecord (p : DmaPool) (cur : DmaStruct) : CallbackArg → DmaPool
  | .driver _ => p
  | .record i => p.set i cur

def busDmamapLoadCallback1 (p : DmaPool) (arg : CallbackArg) (found : DmaStruct)
    (result : MapResult) : Except Fault (DmaPool × CallbackCall) := do
  let cur ← fillRecord (recordAt p found arg) result
  .ok (writeRecord p cur arg, ⟨cur.origCallback1, cur.origArg, result⟩)

def busDmamapLoadCallback2 (p : DmaPool) (arg : CallbackArg) (found : DmaStruct)
    (result : MapResult) : Except Fault (DmaPool × CallbackCall) := do
  let cur ← fillRecord (recordAt p found arg) result
  .ok (writeRecord p cur arg, ⟨cur.origCallback2, cur.origArg, result⟩)

/-- The kernel calls the callback it was given; the result says what is called in the end. -/
def kernelCalls (p : DmaPool) (args : LoadArgs) (found : DmaStruct) (result : MapResult) :
    Except Fault (DmaPool × CallbackCall) :=
  match args.callback with
  | .driver addr => .ok (p, ⟨.driver addr, args.callbackArg, result⟩)
  | .busDmamapLoadCallback1 => busDmamapLoadCallback1 p args.callbackArg found result
  | .busDmamapLoadCallback2 => busDmamapLoadCallback2 p args.callbackArg found result

/-- The two functions that load a map by calling the driver back. -/
inductive LoadHook where
  | load
  | loadMbuf
  deriving DecidableEq, Repr

def LoadHook.check (hook : LoadHook) (s : DmaState) (prepost retval : ℤ) (dmat argAddr : ULong)
    (args : LoadArgs) : Except Fault (DmaState × LoadArgs) :=
  match hook with
  | load => busDmamapLoadMJRcheck s prepost retval dmat argAddr args
  | loadMbuf => busDmamapLoadMbufMJRcheck s prepost retval dmat args

/-- The variable `cur` of the routine. -/
def LoadHook.cur (hook : LoadHook) (s : DmaState) : Option ℕ :=
  match hook with
  | load => s.curLoad
  | loadMbuf => s.curLoadMbuf

/-- The field that keeps the driver's callback. -/
def LoadHook.origCallback (hook : LoadHook) (cur : DmaStruct) : CallbackFn :=
  match hook with
  | load => cur.origCallback1
  | loadMbuf => cur.origCallback2

/-- The arguments the kernel gets. -/
def LoadHook.substituted (hook : LoadHook) (args : LoadArgs) (cur : ℕ) : LoadArgs :=
  match hook with
  | load => { callback := .busDmamapLoadCallback1, callbackArg := .record cur }
  | loadMbuf => { args with callback := .busDmamapLoadCallback2 }

/-- The arguments after the call. -/
def LoadHook.restored (hook : LoadHook) (argAddr : ULong) (cur : DmaStruct) : LoadArgs :=
  match hook with
  | load => { callback := cur.origCallback1, callbackArg := .driver argAddr }
  | loadMbuf => { callback := cur.origCallback2, callbackArg := cur.origArg }

/-- The two checks around a successful `bus_dmamap_load_mbuf_sg`. -/
def DmaState.loadMbufSg (s : DmaState) (tag : ULong) (segs : List DmaSegment) :
    Except Fault DmaState := do
  let r ← busDmamapLoadMbufSgMJRcheck s 0 0 tag segs
  let r ← busDmamapLoadMbufSgMJRcheck r.1 1 0 tag segs
  .ok r.1

/-! ## Loading and unloading maps -/

/-- A map that is loaded, the record its load took, and the segments recorded there. -/
structure LiveMap where
  tag : ULong
  map : ULong
  slot : ℕ
  segs : List DmaSegment
  deriving DecidableEq

/-- What the kernel knows a mapping by. -/
def LiveMap.key (m : LiveMap) : ULong × ULong := (m.tag, m.map)

/-- The state and the maps that are loaded. -/
structure DmaRun where
  state : DmaState
  live : List LiveMap

def DmaRun.initial : DmaRun where
  state := .initial
  live := []

/-- A successful call of the driver. -/
inductive DmaEvent where
  | load (hook : LoadHook) (tag map callback arg argAddr : ULong) (found : DmaStruct)
      (mapsize : Option ULong) (segs : List DmaSegment)
  | loadMbufSg (tag map : ULong) (segs : List DmaSegment)
  | unload (tag map : ULong)

/-- The record that was taken last belongs to the map. -/
def DmaRun.loaded (live : List LiveMap) (tag map : ULong) (s : DmaState) : DmaRun where
  state := s
  live := ⟨tag, map, s.pool.lastUnused, (s.pool.dmaStructs s.pool.lastUnused).segs⟩ :: live

namespace DmaEvent

def exec (s : DmaRun) : DmaEvent → Except Fault DmaRun
  | load hook tag map callback arg argAddr found mapsize segs => do
      let r ← hook.check s.state 0 0 tag argAddr ⟨.driver callback, .driver arg⟩
      let called ← kernelCalls r.1.pool r.2 found ⟨segs, mapsize, 0⟩
      let r ← hook.check { r.1 with pool := called.1 } 1 0 tag argAddr r.2
      .ok (.loaded s.live tag map r.1)
  | loadMbufSg tag map segs => do
      let state ← s.state.loadMbufSg tag segs
      .ok (.loaded s.live tag map state)
  | unload tag map => do
      let r ← busDmamapUnloadMJRcheck s.state 0 tag
      let r ← busDmamapUnloadMJRcheck r.1 1 tag
      .ok { state := r.1, live := s.live.filter fun m => decide (m.key ≠ (tag, map)) }

/-- The driver loads a map that is not loaded, and unloads one that is. -/
def Legal (s : DmaRun) : DmaEvent → Prop
  | load _ tag map .. => (tag, map) ∉ s.live.map LiveMap.key
  | loadMbufSg tag map _ => (tag, map) ∉ s.live.map LiveMap.key
  | unload tag map => (tag, map) ∈ s.live.map LiveMap.key

instance (s : DmaRun) : ∀ e : DmaEvent, Decidable (e.Legal s)
  | load _ tag map .. => inferInstanceAs (Decidable ((tag, map) ∉ s.live.map LiveMap.key))
  | loadMbufSg tag map _ => inferInstanceAs (Decidable ((tag, map) ∉ s.live.map LiveMap.key))
  | unload tag map => inferInstanceAs (Decidable ((tag, map) ∈ s.live.map LiveMap.key))

/-- **The specification of one event**: unloading a map releases the segments recorded when it was
loaded, and leaves the records of the other maps alone. -/
def Corresponds (s : DmaRun) : DmaEvent → Prop
  | unload tag map => ∀ m ∈ s.live, m.key = (tag, map) →
      ∃ s', exec s (.unload tag map) = .ok s' ∧
        s'.state.symbolic = s.state.symbolic ++ m.segs.map .freeDmaSymbolic ∧
        ∀ m' ∈ s.live, m' ≠ m → s'.state.pool.dmaStructs m'.slot = s.state.pool.dmaStructs m'.slot
  | _ => True

/-- Among the maps of its tag, the one that is unloaded has the first record. -/
def UnloadsFirst (s : DmaRun) : DmaEvent → Prop
  | unload tag map => ∀ m ∈ s.live, m.key = (tag, map) → ∀ m' ∈ s.live, m'.tag = tag →
      m.slot ≤ m'.slot
  | _ => True

end DmaEvent

/-! ## Taking a record -/

lemma lt_of_mem_dmaStructOrder {lastUnused i : ℕ} (hlast : lastUnused < maxStructs)
    (hi : i ∈ dmaStructOrder lastUnused) : i < maxStructs := by
  rw [dmaStructOrder, List.mem_append, List.mem_range'_1, List.mem_range] at hi
  omega

@[simp] lemma DmaStruct.segs_setSegs (cur : DmaStruct) (segs : List DmaSegment) :
    (cur.setSegs segs).segs = segs := by
  refine List.ext_getElem (by simp [DmaStruct.segs, DmaStruct.setSegs]) fun i _ hi => ?_
  simp [DmaStruct.segs, DmaStruct.setSegs, hi]

@[simp] lemma DmaPool.set_self (p : DmaPool) (i : ℕ) (cur : DmaStruct) :
    (p.set i cur).dmaStructs i = cur :=
  Function.update_self ..

lemma DmaPool.set_of_ne (p : DmaPool) {i j : ℕ} (h : j ≠ i) (cur : DmaStruct) :
    (p.set i cur).dmaStructs j = p.dmaStructs j :=
  Function.update_of_ne h ..

/-- A free record was taken for the tag, and no other record has changed. -/
structure Takes (tag : ULong) (p p' : DmaPool) : Prop where
  order : p'.lastUnused ∈ dmaStructOrder p.lastUnused
  free : (p.dmaStructs p'.lastUnused).used = 0
  used : (p'.dmaStructs p'.lastUnused).used = 1
  tag : (p'.dmaStructs p'.lastUnused).tag = tag
  others : ∀ j, j ≠ p'.lastUnused → p'.dmaStructs j = p.dmaStructs j

lemma dmaStructGet_takes {p : DmaPool} {r : DmaPool × ℕ} (h : dmaStructGet p = .ok r) :
    Takes 0 p r.1 ∧ r.1.lastUnused = r.2 ∧ (r.1.dmaStructs r.2).segs = [] := by
  unfold dmaStructGet at h
  split at h
  case h_1 i hfind =>
    cases h
    have hfree : (p.dmaStructs i).used = 0 := by simpa using List.find?_some hfind
    refine ⟨⟨List.mem_of_find?_eq_some hfind, hfree, ?_, ?_, ?_⟩, rfl, ?_⟩
    · exact congrArg DmaStruct.used (p.set_self i _)
    · exact congrArg DmaStruct.tag (p.set_self i _)
    · exact fun j hj => p.set_of_ne hj _
    · exact congrArg DmaStruct.segs (p.set_self i _)
  case h_2 => cases h

/-- The record that was taken is filled in. -/
lemma Takes.set {tag tag' : ULong} {p p' : DmaPool} (h : Takes tag p p') {i : ℕ}
    (hi : p'.lastUnused = i) {cur : DmaStruct} (hused : cur.used = 1) (htag : cur.tag = tag') :
    Takes tag' p (p'.set i cur) := by
  subst hi
  refine ⟨h.order, h.free, ?_, ?_, ?_⟩
  · rw [← hused]
    exact congrArg DmaStruct.used (p'.set_self _ _)
  · rw [← htag]
    exact congrArg DmaStruct.tag (p'.set_self _ _)
  · intro j hj
    rw [← h.others j hj]
    exact p'.set_of_ne hj _

/-! ## What the check routines do -/

section

variable {s : DmaState} {α : Type} {tag argAddr : ULong}

lemma DmaState.checkRoutine_free (hlock : s.lock = ⟨0⟩)
    (body : DmaState → Except Fault (DmaState × α)) :
    s.checkRoutine body = (body s).map fun r => ({ r.1 with lock := ⟨0⟩ }, r.2) := by
  rw [checkRoutine, hlock, lockedRoutine_free]
  cases body s <;> rfl

/-- The check of a load before the call: it takes a record and saves the arguments there. -/
structure LoadHook.Saved (hook : LoadHook) (s : DmaState) (tag : ULong) (args : LoadArgs)
    (r : DmaState × LoadArgs) : Prop where
  takes : Takes tag s.pool r.1.pool
  lock : r.1.lock = ⟨0⟩
  cur : hook.cur r.1 = some r.1.pool.lastUnused
  others : ∀ hook', hook' ≠ hook → LoadHook.cur hook' r.1 = LoadHook.cur hook' s
  callback : hook.origCallback (r.1.pool.dmaStructs r.1.pool.lastUnused) = args.callback
  arg : (r.1.pool.dmaStructs r.1.pool.lastUnused).origArg = args.callbackArg
  args : r.2 = hook.substituted args r.1.pool.lastUnused
  segs : (r.1.pool.dmaStructs r.1.pool.lastUnused).segs = []

lemma LoadHook.check_pre {hook : LoadHook} {args : LoadArgs} {r : DmaState × LoadArgs}
    (hlock : s.lock = ⟨0⟩) (h : hook.check s 0 0 tag argAddr args = .ok r) :
    hook.Saved s tag args r := by
  cases hook with
  | load =>
      rw [LoadHook.check, busDmamapLoadMJRcheck, DmaState.checkRoutine_free hlock, if_pos rfl] at h
      obtain ⟨r', hr', rfl⟩ := map_eq_ok.mp h
      obtain ⟨⟨pool, cur⟩, hget, hr'⟩ := bind_eq_ok.mp hr'
      obtain ⟨htakes, hcur, hempty⟩ := dmaStructGet_takes hget
      obtain rfl : pool.lastUnused = cur := hcur
      cases hr'
      refine ⟨htakes.set rfl htakes.used rfl, rfl, rfl, ?_, ?_, ?_, rfl, ?_⟩
      · intro hook' hne
        cases hook' with
        | load => exact absurd rfl hne
        | loadMbuf => rfl
      · exact congrArg DmaStruct.origCallback1 (pool.set_self _ _)
      · exact congrArg DmaStruct.origArg (pool.set_self _ _)
      · exact (congrArg DmaStruct.segs (pool.set_self _ _)).trans hempty
  | loadMbuf =>
      rw [LoadHook.check, busDmamapLoadMbufMJRcheck, DmaState.checkRoutine_free hlock,
        if_pos rfl] at h
      obtain ⟨r', hr', rfl⟩ := map_eq_ok.mp h
      obtain ⟨⟨pool, cur⟩, hget, hr'⟩ := bind_eq_ok.mp hr'
      obtain ⟨htakes, hcur, hempty⟩ := dmaStructGet_takes hget
      obtain rfl : pool.lastUnused = cur := hcur
      cases hr'
      refine ⟨htakes.set rfl htakes.used rfl, rfl, rfl, ?_, ?_, ?_, rfl, ?_⟩
      · intro hook' hne
        cases hook' with
        | load => rfl
        | loadMbuf => exact absurd rfl hne
      · exact congrArg DmaStruct.origCallback2 (pool.set_self _ _)
      · exact congrArg DmaStruct.origArg (pool.set_self _ _)
      · exact (congrArg DmaStruct.segs (pool.set_self _ _)).trans hempty

lemma deref_eq_ok {check : Check} {cur : Option ℕ} {i : ℕ} :
    deref check cur = .ok i ↔ cur = some i := by
  cases cur <;> simp [deref]

/-- Telling the hypervisor about segments changes nothing else. -/
lemma busDmamapCommon_if (c : Prop) [Decidable c] (s : DmaState) (cur : DmaStruct) :
    ∃ symbolic, (if c then busDmamapCommon s cur else s) = { s with symbolic := symbolic } := by
  split_ifs
  · exact ⟨_, rfl⟩
  · exact ⟨_, rfl⟩

/-- What the check of a load does after the call: it gives back what the record says that its
variable points to. -/
structure LoadHook.GivenBack (hook : LoadHook) (s : DmaState) (argAddr : ULong)
    (r : DmaState × LoadArgs) : Prop where
  pool : r.1.pool = s.pool
  lock : r.1.lock = ⟨0⟩
  cur : ∀ hook', LoadHook.cur hook' r.1 = LoadHook.cur hook' s
  args : ∃ i, hook.cur s = some i ∧ r.2 = hook.restored argAddr (s.pool.dmaStructs i)

lemma LoadHook.check_post {hook : LoadHook} {retval : ℤ} {args : LoadArgs}
    {r : DmaState × LoadArgs} (hlock : s.lock = ⟨0⟩)
    (h : hook.check s 1 retval tag argAddr args = .ok r) : hook.GivenBack s argAddr r := by
  cases hook with
  | load =>
      rw [LoadHook.check, busDmamapLoadMJRcheck, DmaState.checkRoutine_free hlock,
        if_neg (by decide), if_pos rfl] at h
      obtain ⟨r', hr', rfl⟩ := map_eq_ok.mp h
      obtain ⟨cur, hcur, hr'⟩ := bind_eq_ok.mp hr'
      obtain ⟨symbolic, hsymbolic⟩ :=
        busDmamapCommon_if (retval = 0) s (s.pool.dmaStructs cur)
      rw [hsymbolic] at hr'
      cases hr'
      exact ⟨rfl, rfl, fun hook' => by cases hook' <;> rfl, cur, deref_eq_ok.mp hcur, rfl⟩
  | loadMbuf =>
      rw [LoadHook.check, busDmamapLoadMbufMJRcheck, DmaState.checkRoutine_free hlock,
        if_neg (by decide), if_pos rfl] at h
      obtain ⟨r', hr', rfl⟩ := map_eq_ok.mp h
      obtain ⟨cur, hcur, hr'⟩ := bind_eq_ok.mp hr'
      obtain ⟨symbolic, hsymbolic⟩ :=
        busDmamapCommon_if (retval = 0) s (s.pool.dmaStructs cur)
      rw [hsymbolic] at hr'
      cases hr'
      exact ⟨rfl, rfl, fun hook' => by cases hook' <;> rfl, cur, deref_eq_ok.mp hcur, rfl⟩

/-- After a call, the check goes through if its variable points to a record. -/
lemma LoadHook.exists_check_post {hook : LoadHook} {i : ℕ} (tag argAddr : ULong)
    (hlock : s.lock = ⟨0⟩) (hcur : hook.cur s = some i) (retval : ℤ) (args : LoadArgs) :
    ∃ r, hook.check s 1 retval tag argAddr args = .ok r := by
  cases hook with
  | load =>
      have hderef : deref .busDmamapLoad s.curLoad = .ok i := deref_eq_ok.mpr hcur
      rw [LoadHook.check, busDmamapLoadMJRcheck, DmaState.checkRoutine_free hlock,
        if_neg (by decide), if_pos rfl, hderef, ok_bind]
      exact ⟨_, rfl⟩
  | loadMbuf =>
      have hderef : deref .busDmamapLoadMbuf s.curLoadMbuf = .ok i := deref_eq_ok.mpr hcur
      rw [LoadHook.check, busDmamapLoadMbufMJRcheck, DmaState.checkRoutine_free hlock,
        if_neg (by decide), if_pos rfl, hderef, ok_bind]
      exact ⟨_, rfl⟩

/-- A load without a callback takes a record and leaves the variables of the others alone. -/
lemma DmaState.loadMbufSg_ok {segs : List DmaSegment} {s' : DmaState} (hlock : s.lock = ⟨0⟩)
    (h : s.loadMbufSg tag segs = .ok s') :
    s'.lock = ⟨0⟩ ∧ Takes tag s.pool s'.pool ∧
      ∀ hook, LoadHook.cur hook s' = LoadHook.cur hook s := by
  obtain ⟨r, hpre, h⟩ := bind_eq_ok.mp h
  obtain ⟨r', hpost, h⟩ := bind_eq_ok.mp h
  cases h
  rw [busDmamapLoadMbufSgMJRcheck, DmaState.checkRoutine_free hlock, if_pos rfl] at hpre
  cases hpre
  rw [busDmamapLoadMbufSgMJRcheck, DmaState.checkRoutine_free rfl, if_neg (by decide), if_pos rfl,
    if_pos rfl] at hpost
  obtain ⟨r, hr, rfl⟩ := map_eq_ok.mp hpost
  obtain ⟨⟨pool, cur⟩, hget, hr⟩ := bind_eq_ok.mp hr
  obtain ⟨htakes, hcur, _⟩ := dmaStructGet_takes hget
  obtain rfl : pool.lastUnused = cur := hcur
  obtain ⟨_, hr⟩ := tfassertDetail_bind_eq_ok.mp hr
  cases hr
  refine ⟨rfl, ?_, fun hook => by cases hook <;> rfl⟩
  exact htakes.set rfl htakes.used rfl

/-- The kernel calls the callback of the check: only the record that was taken changes. -/
lemma kernelCalls_takes {hook : LoadHook} {callback arg : ULong} {found : DmaStruct}
    {result : MapResult} {p p' : DmaPool} {called : CallbackCall} (htakes : Takes tag p p')
    {r : DmaPool}
    (h : kernelCalls p' (hook.substituted ⟨.driver callback, .driver arg⟩ p'.lastUnused) found
      result = .ok (r, called)) :
    Takes tag p r := by
  cases hook with
  | load =>
      obtain ⟨cur, hfill, h⟩ := bind_eq_ok.mp h
      cases h
      unfold fillRecord at hfill
      split_ifs at hfill with herror
      · obtain ⟨_, hfill⟩ := tfassertDetail_bind_eq_ok.mp hfill
        cases hfill
        exact htakes.set rfl htakes.used htakes.tag
      · cases hfill
        exact htakes.set rfl htakes.used htakes.tag
  | loadMbuf =>
      obtain ⟨cur, _, h⟩ := bind_eq_ok.mp h
      cases h
      exact htakes

end

/-! ## The records of the loaded maps -/

/-- Each loaded map has a record of its own, and every record in use is that of a loaded map. -/
structure PoolInv (s : DmaRun) : Prop where
  lock : s.state.lock = ⟨0⟩
  last : s.state.pool.lastUnused < maxStructs
  slot : ∀ m ∈ s.live, m.slot < maxStructs
  used : ∀ m ∈ s.live, (s.state.pool.dmaStructs m.slot).used = 1
  tag : ∀ m ∈ s.live, (s.state.pool.dmaStructs m.slot).tag = m.tag
  segs : ∀ m ∈ s.live, (s.state.pool.dmaStructs m.slot).segs = m.segs
  owned : ∀ i, (s.state.pool.dmaStructs i).used ≠ 0 → ∃ m ∈ s.live, m.slot = i
  slots : (s.live.map LiveMap.slot).Nodup
  keys : (s.live.map LiveMap.key).Nodup

namespace PoolInv

variable {s s' : DmaRun} {tag map : ULong}

lemma initial : PoolInv .initial where
  lock := rfl
  last := by decide
  slot := fun m hm => nomatch hm
  used := fun m hm => nomatch hm
  tag := fun m hm => nomatch hm
  segs := fun m hm => nomatch hm
  owned := fun i hi => absurd rfl hi
  slots := List.nodup_nil
  keys := List.nodup_nil

/-- A new map gets a record that no other map has. -/
lemma loaded (h : PoolInv s) {state : DmaState} (hlock : state.lock = ⟨0⟩)
    (htakes : Takes tag s.state.pool state.pool) (hnew : (tag, map) ∉ s.live.map LiveMap.key) :
    PoolInv (.loaded s.live tag map state) := by
  have hfree : ∀ m ∈ s.live, m.slot ≠ state.pool.lastUnused := by
    intro m hm heq
    have hused := h.used m hm
    rw [heq, htakes.free] at hused
    exact absurd hused (by decide)
  have hsame : ∀ m ∈ s.live, state.pool.dmaStructs m.slot = s.state.pool.dmaStructs m.slot :=
    fun m hm => htakes.others _ (hfree m hm)
  have hslot : state.pool.lastUnused ∉ s.live.map LiveMap.slot := by
    intro hmem
    obtain ⟨m, hm, heq⟩ := List.mem_map.mp hmem
    exact hfree m hm heq
  constructor
  · exact hlock
  · exact lt_of_mem_dmaStructOrder h.last htakes.order
  · exact List.forall_mem_cons.mpr ⟨lt_of_mem_dmaStructOrder h.last htakes.order, h.slot⟩
  · refine List.forall_mem_cons.mpr ⟨htakes.used, fun m hm => ?_⟩
    exact (congrArg DmaStruct.used (hsame m hm)).trans (h.used m hm)
  · refine List.forall_mem_cons.mpr ⟨htakes.tag, fun m hm => ?_⟩
    exact (congrArg DmaStruct.tag (hsame m hm)).trans (h.tag m hm)
  · refine List.forall_mem_cons.mpr ⟨rfl, fun m hm => ?_⟩
    exact (congrArg DmaStruct.segs (hsame m hm)).trans (h.segs m hm)
  · intro i hi
    by_cases hslot : i = state.pool.lastUnused
    · exact ⟨_, List.mem_cons_self, hslot.symm⟩
    · change (state.pool.dmaStructs i).used ≠ 0 at hi
      rw [htakes.others i hslot] at hi
      obtain ⟨m, hm, hmi⟩ := h.owned i hi
      exact ⟨m, List.mem_cons_of_mem _ hm, hmi⟩
  · exact List.nodup_cons.mpr ⟨hslot, h.slots⟩
  · exact List.nodup_cons.mpr ⟨hnew, h.keys⟩

/-- Taking away a map together with its record. -/
lemma unloaded (h : PoolInv s) {m : LiveMap} (hm : m ∈ s.live) {state : DmaState}
    (hlock : state.lock = ⟨0⟩) (hpool : state.pool = s.state.pool.set m.slot .zero) :
    PoolInv { state := state, live := s.live.filter fun m' => decide (m'.key ≠ m.key) } := by
  have hslot : ∀ m' ∈ s.live, m'.key ≠ m.key → m'.slot ≠ m.slot := by
    intro m' hm' hkey heq
    exact hkey (congrArg LiveMap.key (List.inj_on_of_nodup_map h.slots hm' hm heq))
  have hlive : ∀ m' ∈ s.live.filter fun m' => decide (m'.key ≠ m.key),
      m' ∈ s.live ∧ state.pool.dmaStructs m'.slot = s.state.pool.dmaStructs m'.slot := by
    intro m' hm'
    rw [List.mem_filter, decide_eq_true_iff] at hm'
    exact ⟨hm'.1, by rw [hpool]; exact s.state.pool.set_of_ne (hslot m' hm'.1 hm'.2) _⟩
  have hsub : (s.live.filter fun m' => decide (m'.key ≠ m.key)).Sublist s.live :=
    List.filter_sublist
  constructor
  · exact hlock
  · rw [hpool]
    exact h.last
  · exact fun m' hm' => h.slot m' (hlive m' hm').1
  · exact fun m' hm' =>
      (congrArg DmaStruct.used (hlive m' hm').2).trans (h.used m' (hlive m' hm').1)
  · exact fun m' hm' => (congrArg DmaStruct.tag (hlive m' hm').2).trans (h.tag m' (hlive m' hm').1)
  · exact fun m' hm' =>
      (congrArg DmaStruct.segs (hlive m' hm').2).trans (h.segs m' (hlive m' hm').1)
  · intro i hi
    change (state.pool.dmaStructs i).used ≠ 0 at hi
    rw [hpool] at hi
    by_cases hslot' : i = m.slot
    · rw [hslot', DmaPool.set_self] at hi
      exact absurd rfl hi
    · rw [s.state.pool.set_of_ne hslot'] at hi
      obtain ⟨m', hm', hi'⟩ := h.owned i hi
      refine ⟨m', List.mem_filter.mpr ⟨hm', decide_eq_true fun hkey => hslot' ?_⟩, hi'⟩
      rw [← hi', List.inj_on_of_nodup_map h.keys hm' hm hkey]
  · exact h.slots.sublist (hsub.map _)
  · exact h.keys.sublist (hsub.map _)

/-- The record that is found first. -/
lemma dmaStructFind_eq_ok {p : DmaPool} {i : ℕ} (h : dmaStructFind p tag = .ok i) :
    (p.dmaStructs i).used = 1 ∧ (p.dmaStructs i).tag = tag ∧
      ∀ j, (p.dmaStructs j).used = 1 → (p.dmaStructs j).tag = tag → i ≤ j := by
  unfold dmaStructFind at h
  dsimp only at h
  split at h
  case h_1 j hfind =>
    cases h
    rw [List.find?_range'_eq_some] at hfind
    obtain ⟨hi, _, hfirst⟩ := hfind
    rw [decide_eq_true_iff] at hi
    refine ⟨hi.1, hi.2, fun j hused htag => ?_⟩
    by_contra hlt
    have hno := hfirst j (Nat.zero_le j) (Nat.lt_of_not_le hlt)
    simp [hused, htag] at hno
  case h_2 => cases h

/-- The tag of a loaded map is found. -/
lemma dmaStructFind_of_live (h : PoolInv s) {m : LiveMap} (hm : m ∈ s.live) :
    ∃ i, dmaStructFind s.state.pool m.tag = .ok i := by
  unfold dmaStructFind
  dsimp only
  split
  case h_1 i hfind => exact ⟨i, rfl⟩
  case h_2 hfind =>
    rw [List.find?_eq_none] at hfind
    exact absurd (decide_eq_true ⟨h.used m hm, h.tag m hm⟩)
      (hfind m.slot (by rw [List.mem_range'_1]; exact ⟨Nat.zero_le _, by simpa using h.slot m hm⟩))

end PoolInv

/-! ## Unloading -/

/-- What an unload does, once a record is found. -/
lemma DmaEvent.exec_unload {s : DmaRun} {tag map : ULong} {i : ℕ} (hlock : s.state.lock = ⟨0⟩)
    (hfind : dmaStructFind s.state.pool tag = .ok i) :
    DmaEvent.exec s (.unload tag map) = .ok
      { state := { s.state with
          lock := ⟨0⟩, pool := s.state.pool.set i .zero,
          symbolic := s.state.symbolic ++
            (s.state.pool.dmaStructs i).segs.map .freeDmaSymbolic },
        live := s.live.filter fun m => decide (m.key ≠ (tag, map)) } := by
  have hused := (PoolInv.dmaStructFind_eq_ok hfind).1
  have hpre : busDmamapUnloadMJRcheck s.state 0 tag = .ok ({ s.state with lock := ⟨0⟩ }, ()) := by
    rw [busDmamapUnloadMJRcheck, DmaState.checkRoutine_free hlock, if_pos rfl]
    rfl
  have hfree : dmaStructFree s.state.pool i = .ok (s.state.pool.set i .zero) := by
    rw [dmaStructFree, tfassertDetail_of_true hused, ok_bind]
  rw [DmaEvent.exec, hpre, ok_bind, busDmamapUnloadMJRcheck, DmaState.checkRoutine_free rfl,
    if_neg (by decide), if_pos rfl, hfind, ok_bind]
  dsimp only [busDmaunmapCommon]
  rw [hfree]
  rfl

namespace DmaEvent

variable {s s' : DmaRun}

/-- A load takes a record for its map. -/
lemma exec_load {hook : LoadHook} {tag map callback arg argAddr : ULong} {found : DmaStruct}
    {mapsize : Option ULong} {segs : List DmaSegment} (hlock : s.state.lock = ⟨0⟩)
    (h : exec s (.load hook tag map callback arg argAddr found mapsize segs) = .ok s') :
    ∃ state : DmaState, state.lock = ⟨0⟩ ∧ Takes tag s.state.pool state.pool ∧
      s' = .loaded s.live tag map state := by
  obtain ⟨r, hpre, h⟩ := bind_eq_ok.mp h
  obtain ⟨called, hcalled, h⟩ := bind_eq_ok.mp h
  obtain ⟨r', hpost, h⟩ := bind_eq_ok.mp h
  cases h
  have hsaved := LoadHook.check_pre hlock hpre
  have hback := LoadHook.check_post (s := { r.1 with pool := called.1 }) hsaved.lock hpost
  refine ⟨r'.1, hback.lock, ?_, rfl⟩
  rw [hsaved.args] at hcalled
  rw [hback.pool]
  exact kernelCalls_takes hsaved.takes hcalled

lemma exec_loadMbufSg {tag map : ULong} {segs : List DmaSegment} (hlock : s.state.lock = ⟨0⟩)
    (h : exec s (.loadMbufSg tag map segs) = .ok s') :
    ∃ state : DmaState, state.lock = ⟨0⟩ ∧ Takes tag s.state.pool state.pool ∧
      s' = .loaded s.live tag map state := by
  obtain ⟨state, hload, h⟩ := bind_eq_ok.mp h
  cases h
  obtain ⟨hlock', htakes, _⟩ := DmaState.loadMbufSg_ok hlock hload
  exact ⟨state, hlock', htakes, rfl⟩

/-- Whose record is found first. -/
lemma find_live (h : PoolInv s) {m : LiveMap} (hm : m ∈ s.live) :
    ∃ m' ∈ s.live, m'.tag = m.tag ∧ dmaStructFind s.state.pool m.tag = .ok m'.slot ∧
      ∀ m'' ∈ s.live, m''.tag = m.tag → m'.slot ≤ m''.slot := by
  obtain ⟨i, hfind⟩ := h.dmaStructFind_of_live hm
  obtain ⟨hused, htag, hfirst⟩ := PoolInv.dmaStructFind_eq_ok hfind
  obtain ⟨m', hm', rfl⟩ := h.owned i (by rw [hused]; decide)
  refine ⟨m', hm', ?_, hfind, ?_⟩
  · rw [← h.tag m' hm', htag]
  · intro m'' hm'' htag''
    exact hfirst m''.slot (h.used m'' hm'') (by rw [h.tag m'' hm'', htag''])

/-- An unload is right exactly if the map has the first record of its tag. -/
lemma corresponds_iff (h : PoolInv s) (e : DmaEvent) : e.Corresponds s ↔ e.UnloadsFirst s := by
  cases e with
  | load hook tag map callback arg argAddr found mapsize segs => exact Iff.rfl
  | loadMbufSg tag map segs => exact Iff.rfl
  | unload tag map =>
      constructor
      · intro hright m hm hkey m' hm' htag'
        obtain ⟨first, hfirst, _, hfind, hleast⟩ := find_live h hm
        have htag : m.tag = tag := congrArg Prod.fst hkey
        rw [htag] at hfind hleast
        obtain ⟨s', hexec, _, hothers⟩ := hright m hm hkey
        rw [exec_unload h.lock hfind] at hexec
        cases hexec
        have heq : first = m := by
          by_contra hne
          have hsame := congrArg DmaStruct.used (hothers first hfirst hne)
          rw [h.used first hfirst] at hsame
          change ((s.state.pool.set first.slot .zero).dmaStructs first.slot).used = 1 at hsame
          rw [DmaPool.set_self] at hsame
          exact absurd hsame (by decide)
        rw [← heq]
        exact hleast m' hm' htag'
      · intro hfirst m hm hkey
        obtain ⟨m', hm', htag', hfind, hleast⟩ := find_live h hm
        have htag : m.tag = tag := congrArg Prod.fst hkey
        have hslot : m'.slot = m.slot :=
          Nat.le_antisymm (hleast m hm rfl) (hfirst m hm hkey m' hm' (htag'.trans htag))
        rw [htag, hslot] at hfind
        refine ⟨_, exec_unload h.lock hfind, ?_, ?_⟩
        · dsimp only
          rw [h.segs m hm]
        · intro m'' hm'' hne
          refine s.state.pool.set_of_ne (fun heq => hne ?_) _
          exact List.inj_on_of_nodup_map h.slots hm'' hm heq

/-- An event keeps the invariant, if an unload hits the record of its map. -/
lemma exec_inv (h : PoolInv s) {e : DmaEvent} (hlegal : e.Legal s) (hfirst : e.UnloadsFirst s)
    (hexec : e.exec s = .ok s') : PoolInv s' := by
  cases e with
  | load hook tag map callback arg argAddr found mapsize segs =>
      obtain ⟨state, hlock, htakes, rfl⟩ := exec_load h.lock hexec
      exact h.loaded hlock htakes hlegal
  | loadMbufSg tag map segs =>
      obtain ⟨state, hlock, htakes, rfl⟩ := exec_loadMbufSg h.lock hexec
      exact h.loaded hlock htakes hlegal
  | unload tag map =>
      obtain ⟨m, hm, hkey⟩ := List.mem_map.mp hlegal
      obtain ⟨m', hm', htag', hfind, hleast⟩ := find_live h hm
      have htag : m.tag = tag := congrArg Prod.fst hkey
      have hslot : m'.slot = m.slot :=
        Nat.le_antisymm (hleast m hm rfl) (hfirst m hm hkey m' hm' (htag'.trans htag))
      rw [htag, hslot] at hfind
      rw [exec_unload h.lock hfind] at hexec
      cases hexec
      rw [← hkey]
      exact h.unloaded hm rfl rfl

end DmaEvent

/-- **When an unload releases the segments of its map**: if the driver unloads what it has loaded,
then every unload of a run releases the segments recorded for its map and leaves the other records
alone if and only if at every unload the map has the first record of its tag. -/
theorem dma_unload_iff (events : List DmaEvent)
    (hlegal : Throughout DmaEvent.exec (fun s e => e.Legal s) .initial events) :
    Throughout DmaEvent.exec (fun s e => e.Corresponds s) .initial events ↔
      Throughout DmaEvent.exec (fun s e => e.UnloadsFirst s) .initial events :=
  Throughout.iff_of_invariant PoolInv
    (fun _ _ _ hs hl hq hexec => DmaEvent.exec_inv hs hl hq hexec)
    (fun _ e hs _ => DmaEvent.corresponds_iff hs e) events .initial hlegal

/-- Two maps of one tag, loaded one after the other. -/
def twoMaps : List DmaEvent :=
  [.loadMbufSg 7 1 [⟨0x1000, 64⟩], .loadMbufSg 7 2 [⟨0x2000, 128⟩]]

theorem dma_unload_in_order :
    Throughout DmaEvent.exec (fun s e => e.Corresponds s) .initial (twoMaps ++ [.unload 7 1]) ↔
      Throughout DmaEvent.exec (fun s e => e.UnloadsFirst s) .initial
        (twoMaps ++ [.unload 7 1]) := by
  refine dma_unload_iff _ ?_
  refine .cons ?_ rfl (.cons ?_ rfl (.singleton ?_))
  all_goals decide

/-- The second map is unloaded first, and the segments of the first one are released. -/
theorem dma_unload_releases_other :
    ¬ Throughout DmaEvent.exec (fun s e => e.Corresponds s) .initial
      (twoMaps ++ [.unload 7 2]) := by
  rintro ⟨_, _, hright, _⟩
  obtain ⟨s', hexec, hreleased, _⟩ := hright ⟨7, 2, 1, [⟨0x2000, 128⟩]⟩ (by decide) rfl
  cases hexec
  revert hreleased
  decide

end SymDrive
