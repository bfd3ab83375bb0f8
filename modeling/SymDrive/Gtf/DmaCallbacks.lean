import SymDrive.Gtf.DmaPool

/-!
# The callbacks of DMA loads

`misc_checks/freebsd.c`: `bus_dmamap_load` and `bus_dmamap_load_mbuf` report the segments of a map
to a callback.  Their checks substitute a callback of their own, which writes the segments to the
record of the load and calls the driver's, and put the driver's callback and argument back after the
call.

Three slips get in the way: one check does not substitute the argument, so its callback takes the
driver's argument for a record; the other does not put the argument back; and each keeps its record
in a static variable, which a load nested in the driver's callback overwrites.
`dma_callback_transparent_iff` says what is left: when each step does what the driver expects.

The runs are runs of loads, nested to any depth, each of which the kernel answers before it returns.
`bus_dmamap_unload` and callbacks that the kernel defers are left out.
-/

namespace SymDrive

open Checked

/-! ## Runs -/

/-- How far a load is. -/
inductive LoadPhase where
  /-- The kernel has not called the callback. -/
  | loading
  /-- The driver's callback is running. -/
  | inCallback
  | returned
  deriving DecidableEq, Repr

/-- A load that has not ended: what the driver and what the kernel gave as arguments, and the record
it took. -/
structure LoadFrame where
  hook : LoadHook
  tag : ULong
  argAddr : ULong
  args : LoadArgs
  given : LoadArgs
  slot : ℕ
  phase : LoadPhase

/-- The state, the loads that have not ended, the innermost first, the arguments of the last load
each routine has seen, the calls of callbacks, and the arguments given back, the last one first. -/
structure CallbackRun where
  state : DmaState
  frames : List LoadFrame
  started : LoadHook → Option LoadArgs
  calls : List CallbackCall
  givenBack : List LoadArgs

def CallbackRun.initial : CallbackRun where
  state := .initial
  frames := []
  started := fun _ => none
  calls := []
  givenBack := []

inductive CallbackEvent where
  /-- The check before a load. -/
  | start (hook : LoadHook) (tag argAddr callback arg : ULong)
  /-- A load that needs no callback. -/
  | loadMbufSg (tag : ULong) (segs : List DmaSegment)
  /-- The kernel calls the callback it was given; `found` is what the driver's memory holds at the
  argument. -/
  | kernelCalls (found : DmaStruct) (result : MapResult)
  | callbackReturns
  /-- The check after a load. -/
  | finish (retval : ℤ)

namespace CallbackRun

/-- The driver is running: there is no load, or the innermost one has called it back. -/
def running (s : CallbackRun) : Bool :=
  match s.frames with
  | [] => true
  | f :: _ => decide (f.phase = .inCallback)

/-- An event that is not possible changes nothing. -/
def step (s : CallbackRun) : CallbackEvent → Except Fault CallbackRun
  | .start hook tag argAddr callback arg =>
      if s.running then do
        let args : LoadArgs := ⟨.driver callback, .driver arg⟩
        let r ← hook.check s.state 0 0 tag argAddr args
        .ok { s with
          state := r.1, started := Function.update s.started hook (some args),
          frames := ⟨hook, tag, argAddr, args, r.2, r.1.pool.lastUnused, .loading⟩ :: s.frames }
      else .ok s
  | .loadMbufSg tag segs =>
      if s.running then do
        let state ← s.state.loadMbufSg tag segs
        .ok { s with state := state }
      else .ok s
  | .kernelCalls found result =>
      match s.frames with
      | [] => .ok s
      | f :: rest =>
          if f.phase = .loading then do
            let r ← SymDrive.kernelCalls s.state.pool f.given found result
            .ok { s with
              state := { s.state with pool := r.1 }, calls := r.2 :: s.calls,
              frames := { f with phase := .inCallback } :: rest }
          else .ok s
  | .callbackReturns =>
      match s.frames with
      | [] => .ok s
      | f :: rest =>
          if f.phase = .inCallback then
            .ok { s with frames := { f with phase := .returned } :: rest }
          else .ok s
  | .finish retval =>
      match s.frames with
      | [] => .ok s
      | f :: rest =>
          if f.phase = .inCallback then .ok s
          else do
            let r ← f.hook.check s.state 1 retval f.tag f.argAddr f.given
            .ok { s with state := r.1, frames := rest, givenBack := r.2 :: s.givenBack }

/-! ## The specification -/

/-- **The specification of one step**: the substituted callback calls the driver's own with the
driver's argument and what the kernel said, and records the segments; after the call the driver's
arguments are back. -/
def Transparent (s : CallbackRun) : CallbackEvent → Prop
  | .kernelCalls found result => ∀ f rest, s.frames = f :: rest → f.phase = .loading →
      ∃ s', s.step (.kernelCalls found result) = .ok s' ∧
        s'.calls = ⟨f.args.callback, f.args.callbackArg, result⟩ :: s.calls ∧
        (result.error = 0 → (s'.state.pool.dmaStructs f.slot).segs = result.segs)
  | .finish retval => ∀ f rest, s.frames = f :: rest → f.phase = .returned →
      ∀ s', s.step (.finish retval) = .ok s' → s'.givenBack = f.args :: s.givenBack
  | _ => True

/-- What has to be so before the step.  For a call of the callback: the segments fit into a record,
or, for the check that does not substitute the argument, there are none and the driver's memory
looks like a record of this load.  For the end of a load: the last load the routine has seen was
given the same callback, and the same argument, or, for the check that puts the address of a
variable back, the argument was that address. -/
def Harmless (s : CallbackRun) : CallbackEvent → Prop
  | .kernelCalls found result => ∀ f rest, s.frames = f :: rest → f.phase = .loading →
      match f.hook with
      | .load => result.error = 0 → result.segs.length < maxSegs
      | .loadMbuf => (result.error = 0 → result.segs = []) ∧
          found.origCallback2 = f.args.callback ∧ found.origArg = f.args.callbackArg
  | .finish _ => ∀ f rest, s.frames = f :: rest → f.phase = .returned →
      ∀ args, s.started f.hook = some args → args.callback = f.args.callback ∧
        match f.hook with
        | .load => f.args.callbackArg = .driver f.argAddr
        | .loadMbuf => args.callbackArg = f.args.callbackArg
  | _ => True

end CallbackRun

/-! ## Records that stay -/

/-- The record was taken for a load with these arguments. -/
structure TakenFor (hook : LoadHook) (args : LoadArgs) (cur : DmaStruct) : Prop where
  used : cur.used = 1
  callback : hook.origCallback cur = args.callback
  arg : cur.origArg = args.callbackArg

/-- What a record says about its load does not change while it is in use. -/
def KeepsTaken (p p' : DmaPool) : Prop :=
  ∀ hook args i, TakenFor hook args (p.dmaStructs i) → TakenFor hook args (p'.dmaStructs i)

/-- A record in use is not taken again. -/
lemma Takes.ne_of_taken {tag : ULong} {p p' : DmaPool} (h : Takes tag p p') {hook : LoadHook}
    {args : LoadArgs} {i : ℕ} (hi : TakenFor hook args (p.dmaStructs i)) : i ≠ p'.lastUnused := by
  rintro rfl
  have hused := hi.used
  rw [h.free] at hused
  exact absurd hused (by decide)

lemma Takes.keepsTaken {tag : ULong} {p p' : DmaPool} (h : Takes tag p p') : KeepsTaken p p' := by
  intro hook args i hi
  rw [h.others i (h.ne_of_taken hi)]
  exact hi

lemma TakenFor.setSegs {hook : LoadHook} {args : LoadArgs} {cur : DmaStruct}
    (h : TakenFor hook args cur) (segs : List DmaSegment) : TakenFor hook args (cur.setSegs segs) :=
  ⟨h.used, by cases hook <;> exact h.callback, h.arg⟩

lemma fillRecord_eq_ok {cur cur' : DmaStruct} {result : MapResult} :
    fillRecord cur result = .ok cur' ↔ (result.error = 0 → result.segs.length < maxSegs) ∧
      cur' = if result.error = 0 then cur.setSegs result.segs else cur := by
  unfold fillRecord
  split_ifs with herror
  · rw [busDmamapCallbackCommon, tfassertDetail_bind_eq_ok, Except.ok.injEq, eq_comm (a := cur')]
    simp [herror]
  · rw [Except.ok.injEq, eq_comm (a := cur')]
    simp [herror]

/-- Filling a record keeps what it says about its load. -/
lemma TakenFor.filled {hook : LoadHook} {args : LoadArgs} {cur : DmaStruct}
    (h : TakenFor hook args cur) (result : MapResult) :
    TakenFor hook args (if result.error = 0 then cur.setSegs result.segs else cur) := by
  split_ifs
  · exact h.setSegs _
  · exact h

/-- Writing the segments keeps what the records say about their loads. -/
lemma keepsTaken_writeRecord {p : DmaPool} {arg : CallbackArg} {found cur' : DmaStruct}
    {result : MapResult} (h : fillRecord (recordAt p found arg) result = .ok cur') :
    KeepsTaken p (writeRecord p cur' arg) := by
  intro hook args i hi
  cases arg with
  | driver addr => exact hi
  | record j =>
      by_cases hij : i = j
      · subst hij
        rw [writeRecord, DmaPool.set_self, (fillRecord_eq_ok.mp h).2]
        exact hi.filled result
      · rw [writeRecord, p.set_of_ne hij]
        exact hi

lemma keepsTaken_kernelCalls {p : DmaPool} {args : LoadArgs} {found : DmaStruct}
    {result : MapResult} {r : DmaPool × CallbackCall}
    (h : kernelCalls p args found result = .ok r) :
    KeepsTaken p r.1 := by
  unfold kernelCalls at h
  split at h
  · cases h
    exact fun _ _ _ hi => hi
  · obtain ⟨cur, hfill, h⟩ := bind_eq_ok.mp h
    cases h
    exact keepsTaken_writeRecord hfill
  · obtain ⟨cur, hfill, h⟩ := bind_eq_ok.mp h
    cases h
    exact keepsTaken_writeRecord hfill

/-- The loads agree up to how far they are. -/
structure SameLoad (f f' : LoadFrame) : Prop where
  hook : f'.hook = f.hook
  args : f'.args = f.args
  given : f'.given = f.given
  slot : f'.slot = f.slot

/-- What holds of a load that has not ended. -/
structure FrameInv (s : CallbackRun) (f : LoadFrame) : Prop where
  taken : TakenFor f.hook f.args (s.state.pool.dmaStructs f.slot)
  given : f.given = f.hook.substituted f.args f.slot
  driverArg : ∃ addr, f.args.callbackArg = .driver addr
  started : ∃ args, s.started f.hook = some args
  empty : f.hook = .loadMbuf → (s.state.pool.dmaStructs f.slot).segs = []

/-- Each load has its record, and the variable of each routine points to the record of the last load
it has seen. -/
structure CallbackInv (s : CallbackRun) : Prop where
  lock : s.state.lock = ⟨0⟩
  frames : ∀ f ∈ s.frames, FrameInv s f
  slots : (s.frames.map LoadFrame.slot).Nodup
  started : ∀ hook args, s.started hook = some args →
    ∃ i, LoadHook.cur hook s.state = some i ∧ TakenFor hook args (s.state.pool.dmaStructs i)

namespace FrameInv

variable {s : CallbackRun} {f : LoadFrame}

/-- The callback of `bus_dmamap_load` gets the record of the load. -/
lemma kernelCalls_load (h : FrameInv s f) (hhook : f.hook = .load) (found : DmaStruct)
    (result : MapResult) :
    kernelCalls s.state.pool f.given found result =
      (fillRecord (s.state.pool.dmaStructs f.slot) result).map fun cur =>
        (s.state.pool.set f.slot cur, ⟨cur.origCallback1, cur.origArg, result⟩) := by
  rw [h.given, hhook]
  show (fillRecord (s.state.pool.dmaStructs f.slot) result >>= _) = _
  cases fillRecord (s.state.pool.dmaStructs f.slot) result <;> rfl

/-- The callback of `bus_dmamap_load_mbuf` gets the driver's argument. -/
lemma kernelCalls_loadMbuf (h : FrameInv s f) (hhook : f.hook = .loadMbuf) (found : DmaStruct)
    (result : MapResult) :
    kernelCalls s.state.pool f.given found result =
      (fillRecord found result).map fun cur =>
        (s.state.pool, ⟨cur.origCallback2, cur.origArg, result⟩) := by
  obtain ⟨addr, haddr⟩ := h.driverArg
  rw [h.given, hhook]
  show busDmamapLoadCallback2 s.state.pool f.args.callbackArg found result = _
  rw [haddr, busDmamapLoadCallback2]
  show (fillRecord found result >>= _) = _
  cases fillRecord found result <;> rfl

end FrameInv

namespace CallbackInv

variable {s s' : CallbackRun}

lemma initial : CallbackInv .initial where
  lock := rfl
  frames := fun _ hf => nomatch hf
  slots := List.nodup_nil
  started := fun _ _ h => nomatch h

/-- A step that starts no load. -/
lemma keeps (h : CallbackInv s) (hlock : s'.state.lock = ⟨0⟩)
    (hpool : KeepsTaken s.state.pool s'.state.pool)
    (hcur : ∀ hook, LoadHook.cur hook s'.state = LoadHook.cur hook s.state)
    (hstarted : s'.started = s.started)
    (hframes : ∀ f' ∈ s'.frames, ∃ f ∈ s.frames, SameLoad f f')
    (hslots : (s'.frames.map LoadFrame.slot).Sublist (s.frames.map LoadFrame.slot))
    (hempty : ∀ f ∈ s.frames, f.hook = .loadMbuf →
      s'.state.pool.dmaStructs f.slot = s.state.pool.dmaStructs f.slot) : CallbackInv s' := by
  refine ⟨hlock, fun f' hf' => ?_, h.slots.sublist hslots, fun hook args hargs => ?_⟩
  · obtain ⟨f, hf, hsame⟩ := hframes f' hf'
    have hinv := h.frames f hf
    refine ⟨?_, ?_, ?_, ?_, ?_⟩
    · rw [hsame.hook, hsame.args, hsame.slot]
      exact hpool _ _ _ hinv.taken
    · rw [hsame.given, hsame.hook, hsame.args, hsame.slot]
      exact hinv.given
    · rw [hsame.args]
      exact hinv.driverArg
    · rw [hstarted, hsame.hook]
      exact hinv.started
    · rw [hsame.hook, hsame.slot]
      intro hhook
      rw [hempty f hf hhook]
      exact hinv.empty hhook
  · rw [hstarted] at hargs
    obtain ⟨i, hi, htaken⟩ := h.started hook args hargs
    exact ⟨i, (hcur hook).trans hi, hpool _ _ _ htaken⟩

/-- The check before a load. -/
lemma start (h : CallbackInv s) {hook : LoadHook} {tag argAddr callback arg : ULong}
    (hstep : s.step (.start hook tag argAddr callback arg) = .ok s') : CallbackInv s' := by
  rw [CallbackRun.step] at hstep
  split_ifs at hstep
  · obtain ⟨r, hcheck, hstep⟩ := bind_eq_ok.mp hstep
    cases hstep
    have hsaved := LoadHook.check_pre h.lock hcheck
    have htaken : TakenFor hook ⟨.driver callback, .driver arg⟩
        (r.1.pool.dmaStructs r.1.pool.lastUnused) :=
      ⟨hsaved.takes.used, hsaved.callback, hsaved.arg⟩
    have hkeeps := hsaved.takes.keepsTaken
    have hslot : ∀ f ∈ s.frames, f.slot ≠ r.1.pool.lastUnused :=
      fun f hf => hsaved.takes.ne_of_taken (h.frames f hf).taken
    refine ⟨hsaved.lock, ?_, ?_, ?_⟩
    · refine List.forall_mem_cons.mpr ⟨⟨htaken, hsaved.args, ⟨arg, rfl⟩,
        ⟨_, Function.update_self ..⟩, fun _ => hsaved.segs⟩, ?_⟩
      intro f hf
      have hinv := h.frames f hf
      refine ⟨hkeeps _ _ _ hinv.taken, hinv.given, hinv.driverArg, ?_, fun hhook => ?_⟩
      · by_cases hhook : f.hook = hook
        · exact ⟨_, by dsimp only; rw [hhook, Function.update_self]⟩
        · obtain ⟨args, hargs⟩ := hinv.started
          exact ⟨args, (Function.update_of_ne hhook ..).trans hargs⟩
      · exact (congrArg DmaStruct.segs (hsaved.takes.others _ (hslot f hf))).trans
          (hinv.empty hhook)
    · refine List.nodup_cons.mpr ⟨fun hmem => ?_, h.slots⟩
      obtain ⟨f, hf, heq⟩ := List.mem_map.mp hmem
      exact hslot f hf heq
    · intro hook' args hargs
      dsimp only at hargs
      by_cases hhook : hook' = hook
      · subst hhook
        rw [Function.update_self] at hargs
        cases hargs
        exact ⟨_, hsaved.cur, htaken⟩
      · rw [Function.update_of_ne hhook] at hargs
        obtain ⟨i, hi, htaken'⟩ := h.started hook' args hargs
        exact ⟨i, (hsaved.others hook' hhook).trans hi, hkeeps _ _ _ htaken'⟩
  · cases hstep
    exact h

/-- Only the innermost load goes on. -/
lemma sameLoads_phase {f : LoadFrame} {rest : List LoadFrame} (hframes : s.frames = f :: rest)
    (phase : LoadPhase) :
    ∀ f' ∈ { f with phase := phase } :: rest, ∃ f₁ ∈ s.frames, SameLoad f₁ f' := by
  rw [hframes]
  refine List.forall_mem_cons.mpr ⟨⟨f, List.mem_cons_self, ⟨rfl, rfl, rfl, rfl⟩⟩, ?_⟩
  exact fun f' hf' => ⟨f', List.mem_cons_of_mem _ hf', ⟨rfl, rfl, rfl, rfl⟩⟩

/-- A call of a callback leaves the records of the other kind of load alone. -/
lemma kernelCalls_others (h : CallbackInv s) {f f' : LoadFrame} (hf : f ∈ s.frames)
    {found : DmaStruct} {result : MapResult} {r : DmaPool × CallbackCall}
    (hcalls : kernelCalls s.state.pool f.given found result = .ok r) (hf' : f' ∈ s.frames)
    (hhook' : f'.hook = .loadMbuf) :
    r.1.dmaStructs f'.slot = s.state.pool.dmaStructs f'.slot := by
  have hinv := h.frames f hf
  cases hhook : f.hook with
  | load =>
      rw [hinv.kernelCalls_load hhook] at hcalls
      obtain ⟨cur, _, rfl⟩ := map_eq_ok.mp hcalls
      refine s.state.pool.set_of_ne (fun heq => ?_) _
      have hsame : f' = f := List.inj_on_of_nodup_map h.slots hf' hf heq
      rw [hsame, hhook] at hhook'
      cases hhook'
  | loadMbuf =>
      rw [hinv.kernelCalls_loadMbuf hhook] at hcalls
      obtain ⟨cur, _, rfl⟩ := map_eq_ok.mp hcalls
      rfl

/-- **The step lemma.** -/
lemma step (h : CallbackInv s) {e : CallbackEvent} (hstep : s.step e = .ok s') :
    CallbackInv s' := by
  cases e with
  | start hook tag argAddr callback arg => exact h.start hstep
  | loadMbufSg tag segs =>
      rw [CallbackRun.step] at hstep
      split_ifs at hstep
      · obtain ⟨state, hload, hstep⟩ := bind_eq_ok.mp hstep
        cases hstep
        obtain ⟨hlock, htakes, hcur⟩ := DmaState.loadMbufSg_ok h.lock hload
        exact h.keeps hlock htakes.keepsTaken hcur rfl
          (fun f hf => ⟨f, hf, ⟨rfl, rfl, rfl, rfl⟩⟩) (List.Sublist.refl _)
          fun f hf _ => htakes.others _ (htakes.ne_of_taken (h.frames f hf).taken)
      · cases hstep; exact h
  | kernelCalls found result =>
      rw [CallbackRun.step] at hstep
      split at hstep
      · cases hstep; exact h
      · next f rest hframes =>
          split_ifs at hstep
          · obtain ⟨r, hcalls, hstep⟩ := bind_eq_ok.mp hstep
            cases hstep
            refine h.keeps h.lock (keepsTaken_kernelCalls hcalls)
              (fun hook => by cases hook <;> rfl) rfl (sameLoads_phase hframes _) ?_ ?_
            · rw [hframes]
              exact List.Sublist.refl _
            · exact fun f' hf' => h.kernelCalls_others (by rw [hframes]; exact List.mem_cons_self)
                hcalls hf'
          · cases hstep; exact h
  | callbackReturns =>
      rw [CallbackRun.step] at hstep
      split at hstep
      · cases hstep; exact h
      · next f rest hframes =>
          split_ifs at hstep
          · cases hstep
            refine h.keeps h.lock (fun _ _ _ hi => hi) (fun _ => rfl) rfl
              (sameLoads_phase hframes _) ?_ fun _ _ _ => rfl
            rw [hframes]
            exact List.Sublist.refl _
          · cases hstep; exact h
  | finish retval =>
      rw [CallbackRun.step] at hstep
      split at hstep
      · cases hstep; exact h
      · next f rest hframes =>
          split_ifs at hstep
          · cases hstep; exact h
          · obtain ⟨r, hcheck, hstep⟩ := bind_eq_ok.mp hstep
            cases hstep
            have hback := LoadHook.check_post h.lock hcheck
            refine h.keeps hback.lock (by rw [hback.pool]; exact fun _ _ _ hi => hi) hback.cur rfl
              ?_ ?_ fun f' _ _ => by rw [hback.pool]
            · intro f' hf'
              exact ⟨f', by rw [hframes]; exact List.mem_cons_of_mem _ hf', ⟨rfl, rfl, rfl, rfl⟩⟩
            · rw [hframes, List.map_cons]
              exact List.sublist_cons_self _ _

/-- When the kernel's call of a substituted callback is transparent. -/
lemma kernelCalls_iff (h : CallbackInv s) (found : DmaStruct) (result : MapResult) :
    s.Transparent (.kernelCalls found result) ↔ s.Harmless (.kernelCalls found result) := by
  refine forall_congr' fun f => forall_congr' fun rest => forall_congr' fun hframes =>
    forall_congr' fun hphase => ?_
  have hinv := h.frames f (by rw [hframes]; exact List.mem_cons_self)
  have hstep : s.step (.kernelCalls found result) =
      (kernelCalls s.state.pool f.given found result).map fun r =>
        { s with
          state := { s.state with pool := r.1 }, calls := r.2 :: s.calls,
          frames := { f with phase := .inCallback } :: rest } := by
    rw [CallbackRun.step, hframes]
    simp only [hphase, if_true]
    cases kernelCalls s.state.pool f.given found result <;> rfl
  rw [hstep]
  cases hhook : f.hook with
  | load =>
      rw [hinv.kernelCalls_load hhook]
      constructor
      · rintro ⟨s', hs', _⟩
        obtain ⟨r, hr, _⟩ := map_eq_ok.mp hs'
        obtain ⟨cur, hfill, _⟩ := map_eq_ok.mp hr
        exact (fillRecord_eq_ok.mp hfill).1
      · intro hfits
        have htaken := hinv.taken.filled result
        rw [hhook] at htaken
        rw [fillRecord_eq_ok.mpr ⟨hfits, rfl⟩]
        refine ⟨_, rfl, ?_, fun herror => ?_⟩
        · dsimp only
          rw [← htaken.callback, ← htaken.arg]
          rfl
        · dsimp only
          rw [DmaPool.set_self, if_pos herror, DmaStruct.segs_setSegs]
  | loadMbuf =>
      rw [hinv.kernelCalls_loadMbuf hhook]
      have hempty := hinv.empty hhook
      have hfound : ∀ cur, cur = (if result.error = 0 then found.setSegs result.segs else found) →
          cur.origCallback2 = found.origCallback2 ∧ cur.origArg = found.origArg := by
        intro cur hcur
        rw [hcur]
        split_ifs
        · exact ⟨rfl, rfl⟩
        · exact ⟨rfl, rfl⟩
      constructor
      · rintro ⟨s', hs', hcalls, hsegs⟩
        obtain ⟨r, hr, rfl⟩ := map_eq_ok.mp hs'
        obtain ⟨cur, hfill, rfl⟩ := map_eq_ok.mp hr
        obtain ⟨hcallback, harg⟩ := hfound cur (fillRecord_eq_ok.mp hfill).2
        have hcall := (List.cons.inj hcalls).1
        rw [CallbackCall.mk.injEq] at hcall
        refine ⟨fun herror => ?_, hcallback.symm.trans hcall.1, harg.symm.trans hcall.2.1⟩
        exact (hsegs herror).symm.trans hempty
      · rintro ⟨hnone, hcallback, harg⟩
        have hfits : result.error = 0 → result.segs.length < maxSegs := by
          intro herror
          rw [hnone herror]
          decide
        obtain ⟨hcallback', harg'⟩ := hfound _ rfl
        rw [fillRecord_eq_ok.mpr ⟨hfits, rfl⟩]
        refine ⟨_, rfl, ?_, fun herror => hempty.trans (hnone herror).symm⟩
        dsimp only
        rw [hcallback', harg', hcallback, harg]

/-- When the end of a load gives the driver's arguments back. -/
lemma finish_iff (h : CallbackInv s) (retval : ℤ) :
    s.Transparent (.finish retval) ↔ s.Harmless (.finish retval) := by
  refine forall_congr' fun f => forall_congr' fun rest => forall_congr' fun hframes =>
    forall_congr' fun hphase => ?_
  have hinv := h.frames f (by rw [hframes]; exact List.mem_cons_self)
  obtain ⟨args, hargs⟩ := hinv.started
  obtain ⟨i, hcur, htaken⟩ := h.started f.hook args hargs
  obtain ⟨r, hcheck⟩ :=
    LoadHook.exists_check_post f.tag f.argAddr h.lock hcur retval f.given
  have hback : r.2 = f.hook.restored f.argAddr (s.state.pool.dmaStructs i) := by
    obtain ⟨i', hi', hr⟩ := (LoadHook.check_post h.lock hcheck).args
    rw [hcur, Option.some.injEq] at hi'
    rw [hr, hi']
  have hstep : s.step (.finish retval) =
      .ok { s with state := r.1, frames := rest, givenBack := r.2 :: s.givenBack } := by
    rw [CallbackRun.step, hframes]
    simp only [hphase]
    rw [if_neg (by decide), hcheck, ok_bind]
  have hgiven : (∀ s', s.step (.finish retval) = .ok s' → s'.givenBack = f.args :: s.givenBack) ↔
      r.2 = f.args := by
    rw [hstep]
    constructor
    · intro hall
      exact (List.cons.inj (hall _ rfl)).1
    · intro heq s' hs'
      cases hs'
      rw [heq]
  rw [hgiven, hback, hargs]
  simp only [Option.some.injEq, forall_eq']
  rw [← htaken.callback, ← htaken.arg]
  have hargs' : ∀ callback callbackArg, (⟨callback, callbackArg⟩ : LoadArgs) = f.args ↔
      callback = f.args.callback ∧ callbackArg = f.args.callbackArg := by
    intro callback callbackArg
    rcases f.args with ⟨_, _⟩
    rw [LoadArgs.mk.injEq]
  cases f.hook with
  | load => exact (hargs' _ _).trans (and_congr_right' eq_comm)
  | loadMbuf => exact hargs' _ _

end CallbackInv

/-- **When the callbacks of DMA loads are transparent**: at every step of a run, with any loads
nested in the driver's callbacks, if and only if every step finds what `Harmless` asks for. -/
theorem dma_callback_transparent_iff (events : List CallbackEvent) :
    Throughout CallbackRun.step CallbackRun.Transparent .initial events ↔
      Throughout CallbackRun.step CallbackRun.Harmless .initial events := by
  refine Throughout.iff_of_invariant CallbackInv (L := fun _ _ => True)
    (fun _ _ _ hs _ _ hstep => hs.step hstep) ?_ events .initial
    (.of_forall (fun _ _ => trivial) events _)
  intro s e hs _
  cases e with
  | kernelCalls found result => exact hs.kernelCalls_iff found result
  | finish retval => exact hs.finish_iff retval
  | start hook tag argAddr callback arg => exact Iff.rfl
  | loadMbufSg tag segs => exact Iff.rfl
  | callbackReturns => exact Iff.rfl

/-- A load of one segment. -/
def oneLoad : List CallbackEvent :=
  [.start .load 7 0x8000 0x4000 0x5000, .kernelCalls .zero ⟨[⟨0x1000, 64⟩], none, 0⟩,
    .callbackReturns, .finish 0]

/-- After the load the variable holds its own address instead of the driver's argument. -/
theorem dma_callback_arg_lost :
    ¬ Throughout CallbackRun.step CallbackRun.Transparent .initial oneLoad := by
  rintro ⟨_, _, _, hfinish, _⟩
  have hback := hfinish _ _ rfl rfl _ rfl
  revert hback
  decide

end SymDrive
