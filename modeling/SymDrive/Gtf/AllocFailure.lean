import SymDrive.Gtf.AllocPairs

/-!
# Allocations that fail

`generic_allocator` ignores NULL and error numbers, which covers the checks that hand over the
pointer the kernel returned.  The others go through that pointer for the head of a buffer, or hand
over an address the driver gave.  `failed_allocation_iff` says which of them leave the tracker alone
when the kernel reports a failure.
-/

namespace SymDrive

open Checked

namespace AllocCall

/-- The kernel reports a failure: NULL or an error number.  `skb_dma_map` has no result its check
could see. -/
def Failed : AllocCall → Prop
  | getFreePages retval _ | dmaAllocCoherent retval _ | allocEtherdevMqs retval
  | allocNetdevMqs retval | kmalloc retval _ _ | kstrdup retval _ | vmalloc retval _
  | allocSkb retval _ _ | devAllocSkb retval | netdevAllocSkb retval | usbAllocUrb retval
  | requestRegion retval _ _ | ioremapNocache retval _ | pciIoremapBar retval
  | pciMapSingle retval _ | pciMapPage retval _ | classCreate retval =>
      isErr retval = true ∨ retval = 0
  | deviceRegister retval _ | deviceCreateFile retval _ => isErr retval = true
  | skbDmaMap _ => True

/-- **The condition for a failure to go unnoticed.**  The buffers are looked into without a test, or
with a test for NULL only; a region and a device are recorded under the address the driver gave. -/
def LeavesTable : AllocCall → Prop
  | allocSkb _ _ _ | devAllocSkb _ => False
  | netdevAllocSkb retval => retval = 0
  | requestRegion _ start _ => isErr start = true ∨ start = 0
  | deviceRegister _ dev => isErr dev = true ∨ dev = 0
  | _ => True

end AllocCall

section

variable {r : Records} {mem : Alloc} {head : ULong → ULong} {c : AllocCall}

/-- The check after the call goes through and does nothing to the table. -/
def AllocCall.TableUnchanged (mem : Alloc) (head : ULong → ULong) (r : Records)
    (c : AllocCall) : Prop :=
  ∃ s, c.check mem head (.free r) 1 = .ok s ∧ s.records.test.objs = r.test.objs

lemma tableUnchanged_of_none (h : c.report head = .ok none) : c.TableUnchanged mem head r := by
  refine ⟨.free r, ?_, rfl⟩
  rw [AllocCall.check_post, h]
  rfl

/-- A report leaves the table alone iff its address is not one that is recorded. -/
lemma tableUnchanged_iff_of_some {p : Report} (h : c.report head = .ok (some p)) :
    c.TableUnchanged mem head r ↔ isErr p.object = true ∨ p.object = 0 := by
  rw [AllocCall.TableUnchanged, AllocCall.check_post, h]
  constructor
  · rintro ⟨s, hmap, hobjs⟩
    by_contra hbogus
    obtain ⟨r', hrecord, rfl⟩ := map_eq_ok.mp hmap
    obtain ⟨g, halloc, rfl⟩ := record_eq_ok.mp hrecord
    obtain ⟨hsearch, _, _, hmem, rfl⟩ := (genericAllocator_eq_ok hbogus).mp halloc
    have hfound := objsSearch_inserted r.test p.object (HValue.fresh p.origin p.size 1) hmem.2.2
    rw [objsSearch] at hfound hsearch
    rw [← hobjs] at hsearch
    exact Option.some_ne_none _ (hfound.symm.trans hsearch)
  · intro hbogus
    have halloc := genericAllocator_of_bogus r.test mem hbogus p.size p.origin
    exact ⟨.free r, map_eq_ok.mpr ⟨r, record_eq_ok.mpr ⟨r.test, halloc, rfl⟩, rfl⟩, rfl⟩

/-- A check that hands over the pointer the kernel returned is safe. -/
lemma tableUnchanged_of_failed {p : Report} (h : c.report head = .ok (some p))
    (hfailed : isErr p.object = true ∨ p.object = 0) :
    c.TableUnchanged mem head r ↔ True :=
  iff_true_intro ((tableUnchanged_iff_of_some h).mpr hfailed)

lemma skbHead_of_failed {check : Check} {skb : ULong} (h : isErr skb = true ∨ skb = 0) :
    skbHead check head skb = .error (.nullDeref (.check check)) := by
  have hnot : ¬ (skb ≠ 0 ∧ isErr skb = false) := by
    rintro ⟨hnull, herr⟩
    rcases h with h | h
    · rw [herr] at h
      cases h
    · exact hnull h
  rw [skbHead, ensure_of_false hnot, error_bind]

/-- A check that looks into the buffer is not. -/
lemma not_tableUnchanged_of_failed {check : Check} {skb : ULong} {f : ULong → Option Report}
    (h : c.report head = (skbHead check head skb).map f)
    (hfailed : isErr skb = true ∨ skb = 0) : ¬ c.TableUnchanged mem head r := by
  rintro ⟨s, hrun, _⟩
  rw [AllocCall.check_post, h, skbHead_of_failed hfailed] at hrun
  cases hrun

end

/-- **Failed allocations** leave the tracker alone iff the condition holds: for every call that the
kernel reports as failed, in every state of the tracker, the check after it goes through — so that
it read nothing through the pointer of the failed call — with the table as it was. -/
theorem failed_allocation_iff (c : AllocCall) (mem : Alloc) (head : ULong → ULong) (r : Records)
    (hc : c.Failed) : c.TableUnchanged mem head r ↔ c.LeavesTable := by
  cases c with
  | skbDmaMap skb => exact iff_true_intro (tableUnchanged_of_none rfl)
  | getFreePages | dmaAllocCoherent | allocEtherdevMqs | allocNetdevMqs | kmalloc | kstrdup
  | vmalloc | usbAllocUrb | ioremapNocache | pciIoremapBar | pciMapSingle | pciMapPage =>
      exact tableUnchanged_of_failed rfl hc
  | requestRegion retval start n =>
      have hreport : (AllocCall.requestRegion retval start n).report head =
          .ok (some ⟨start, n, originKmalloc⟩) := rfl
      exact tableUnchanged_iff_of_some hreport
  | deviceRegister retval dev =>
      have hreport : (AllocCall.deviceRegister retval dev).report head = .ok (some ⟨dev, 0 - 1,
          if retval = 0 then originDeviceRegister else originGetDevice⟩) := rfl
      exact tableUnchanged_iff_of_some hreport
  | allocSkb retval size sizePtr =>
      exact iff_of_false (not_tableUnchanged_of_failed rfl hc) not_false
  | devAllocSkb retval => exact iff_of_false (not_tableUnchanged_of_failed rfl hc) not_false
  | netdevAllocSkb retval =>
      by_cases hnull : retval = 0
      · refine iff_of_true (tableUnchanged_of_none ?_) hnull
        rw [AllocCall.report, if_neg (not_not.mpr hnull)]
      · have hreport : (AllocCall.netdevAllocSkb retval).report head =
            (skbHead (.alloc .netdevAllocSkb) head retval).map
              fun object => some ⟨object, 0 - 1, originDevAllocSkb⟩ := by
          rw [AllocCall.report, if_pos hnull]
        exact iff_of_false (not_tableUnchanged_of_failed hreport hc) hnull
  | deviceCreateFile retval attr =>
      refine iff_true_intro (tableUnchanged_of_none ?_)
      rw [AllocCall.report, if_neg (by rw [hc]; decide)]
  | classCreate retval =>
      by_cases herr : isErr retval = false
      · refine tableUnchanged_of_failed (p := ⟨retval, 0 - 1, originClassCreate⟩) ?_ hc
        rw [AllocCall.report, if_pos herr]
      · refine iff_true_intro (tableUnchanged_of_none ?_)
        rw [AllocCall.report, if_neg herr]

/-- `__kmalloc` returns NULL. -/
theorem failed_allocation_kmalloc :
    (AllocCall.kmalloc 0 64 gfpKernel).TableUnchanged Alloc.succeeds (fun _ => 0) .initial :=
  (failed_allocation_iff (.kmalloc 0 64 gfpKernel) Alloc.succeeds (fun _ => 0) .initial
    (Or.inr rfl)).mpr trivial

/-- **Two failures that do not leave the tracker alone.**  The check after `dev_alloc_skb` reads the
head of the buffer through NULL.  The check after `__request_region` records a region that the
driver did not get. -/
theorem failed_allocations_noticed :
    ((AllocCall.devAllocSkb 0).Failed ∧
      (AllocCall.devAllocSkb 0).check Alloc.succeeds (fun _ => 0) (.free .initial) 1 =
        .error (.nullDeref (.check (.alloc .devAllocSkb)))) ∧
    (AllocCall.requestRegion 0 0x3f8 8).Failed ∧
      ∃ s, (AllocCall.requestRegion 0 0x3f8 8).check Alloc.succeeds (fun _ => 0)
          (.free .initial) 1 = .ok s ∧
        objsSearch (CheckState.free .initial).records.test 0x3f8 = none ∧
        (objsSearch s.records.test 0x3f8).isSome = true :=
  ⟨⟨Or.inr rfl, rfl⟩, Or.inr rfl, _, rfl, rfl, rfl⟩

end SymDrive
