import SymDrive.Gtf.Allocators
import SymDrive.Gtf.ObjectTracker

/-!
# Allocating and freeing again

The checks of an allocator and of the matching free are written apart, each with an address and an
origin of its own choice.  `AllocCall.roundTrip` runs the four checks around the two calls;
`alloc_free_inverse_iff` says when they go through and leave the map of live objects as it was.

They always do where both routines work with the pointer the kernel returned.  The others need
more: `skb_dma_map` never passes its own check, the size recorded for `__alloc_skb` is an address,
and the buffers and regions are recorded under another address than the one returned.
-/

namespace SymDrive

open Checked

/-! ## Pairs of calls -/

namespace AllocCall

/-- The call that frees what this one allocated. -/
def matchingFree (badPath : ℤ) : AllocCall → FreeCall
  | getFreePages retval _ => .freePages retval
  | dmaAllocCoherent retval _ => .dmaFreeCoherent retval
  | skbDmaMap skb => .skbDmaUnmap skb
  | allocEtherdevMqs retval | allocNetdevMqs retval => .freeNetdev badPath retval
  | kmalloc retval _ _ | kstrdup retval _ => .kfree (some retval)
  | vmalloc retval _ => .vfree (some retval)
  | allocSkb retval _ _ => .kfreeSkb retval
  | devAllocSkb retval => .devKfreeSkbAny retval
  | netdevAllocSkb retval => .consumeSkb retval
  | usbAllocUrb retval => .usbFreeUrb (some retval)
  | requestRegion _ start _ => .releaseRegion start
  | ioremapNocache retval _ | pciIoremapBar retval => .iounmap retval
  | pciMapSingle retval _ => .pciUnmapSingle retval
  | pciMapPage retval _ => .pciUnmapPage retval
  | deviceRegister _ dev => .deviceUnregister dev
  | deviceCreateFile _ attr => .deviceRemoveFile attr
  | classCreate retval => .classDestroy retval

/-- The checks around the allocation and around the matching free. -/
def roundTrip (mem : Alloc) (head : ULong → ULong) (badPath : ℤ) (s : CheckState)
    (c : AllocCall) : Except Fault CheckState := do
  let s ← c.check mem head s 0
  let s ← c.check mem head s 1
  let s ← (c.matchingFree badPath).check head s 0
  (c.matchingFree badPath).check head s 1

end AllocCall

/-- An address a successful allocation can return. -/
def FreshAddress (m : Tracked) (a : ULong) : Prop := a ≠ 0 ∧ isErr a = false ∧ a ∉ m

/-- `PAGE_SIZE` of the kernel headers. -/
def pageSize : ℕ := 4096

namespace AllocCall

/-- The kernel call succeeded, and an address it returned is new. -/
def Succeeds (m : Tracked) : AllocCall → Prop
  | getFreePages retval _ | dmaAllocCoherent retval _ | allocEtherdevMqs retval
  | allocNetdevMqs retval | kmalloc retval _ _ | kstrdup retval _ | vmalloc retval _
  | allocSkb retval _ _ | devAllocSkb retval | netdevAllocSkb retval | usbAllocUrb retval
  | requestRegion retval _ _ | ioremapNocache retval _ | pciIoremapBar retval
  | pciMapSingle retval _ | pciMapPage retval _ | classCreate retval => FreshAddress m retval
  | deviceRegister retval _ | deviceCreateFile retval _ => retval = 0
  | skbDmaMap _ => True

/-- The number of bytes requested, where the arguments say it. -/
def bytes : AllocCall → Option ℕ
  | getFreePages _ order => some (pageSize * 2 ^ order.toNat)
  | dmaAllocCoherent _ size | kmalloc _ size _ | vmalloc _ size | allocSkb _ size _
  | ioremapNocache _ size | pciMapSingle _ size | pciMapPage _ size => some size.toNat
  | requestRegion _ _ n => some n.toNat
  | _ => none

end AllocCall

/-- The flags are those of the blocking context, as far as `mem_flags_test` looks. -/
def FlagsFit (g : GlobalState) (flags : ULong) : Prop :=
  (flags = gfpKernel → kernelBlockingState g ≠ .no) ∧
    (flags = gfpAtomic → kernelBlockingState g ≠ .yes)

instance (g : GlobalState) (flags : ULong) : Decidable (FlagsFit g flags) := by
  unfold FlagsFit; infer_instance

namespace AllocCall

/-- The check before the call lets it through. -/
def PreOk (g : GlobalState) : AllocCall → Prop
  | skbDmaMap _ => False
  | kmalloc _ _ flags | kstrdup _ flags => FlagsFit g flags
  | _ => True

/-- **The condition for a pair to work**, for a call that succeeds with a reasonable request.  Each
part names what the routines of the call rely on besides the pointer returned. -/
def Inverts (head : ULong → ULong) (m : Tracked) (g : GlobalState) : AllocCall → Prop
  | skbDmaMap _ => False
  | kmalloc _ _ flags | kstrdup _ flags => FlagsFit g flags
  | allocSkb retval _ sizePtr => FreshAddress m (head retval) ∧ ¬ insaneSize sizePtr
  | devAllocSkb retval | netdevAllocSkb retval => FreshAddress m (head retval)
  | requestRegion _ start _ => FreshAddress m start
  | deviceRegister _ dev => FreshAddress m dev
  | deviceCreateFile _ attr => FreshAddress m attr
  | _ => True

end AllocCall

/-! ## The steps of a round trip -/

lemma memFlagsTest_eq_ok {g : GlobalState} {flags : ULong} {u : Unit} :
    memFlagsTest g gfpAtomic gfpKernel flags = .ok u ↔ FlagsFit g flags := by
  have hne : gfpKernel ≠ gfpAtomic := by decide
  unfold memFlagsTest FlagsFit
  cases kernelBlockingState g with
  | undefined => split_ifs <;> simp
  | yes =>
      split_ifs with hk ha
      · simp [hk, hne]
      · simp [ha]
      · simp [ha]
  | no =>
      split_ifs with hk ha
      · simp [hk]
      · simp [ha, hne.symm]
      · simp [hk]

lemma AllocCall.pre_eq_ok {c : AllocCall} {r r' : Records} :
    c.pre r = .ok r' ↔ c.PreOk r.test ∧ r' = r := by
  cases c with
  | skbDmaMap => simp [pre, PreOk]
  | kmalloc _ _ flags | kstrdup _ flags =>
      rw [pre, PreOk, Records.memFlagsTest, bind_eq_ok]
      constructor
      · rintro ⟨u, htest, h⟩
        cases h
        exact ⟨memFlagsTest_eq_ok.mp htest, rfl⟩
      · rintro ⟨hfit, rfl⟩
        exact ⟨(), memFlagsTest_eq_ok.mpr hfit, rfl⟩
  | _ => simp [pre, PreOk, eq_comm]

/-- The four checks are the two reports, one after the other. -/
lemma AllocCall.roundTrip_free (mem : Alloc) (head : ULong → ULong) (badPath : ℤ) (r : Records)
    (c : AllocCall) :
    c.roundTrip mem head badPath (.free r) =
      (c.pre r >>= fun r => (c.report head >>= r.record mem) >>= fun r =>
        (c.matchingFree badPath).report head >>= r.drop).map CheckState.free := by
  rw [roundTrip, check_pre]
  cases c.pre r with
  | error e => rfl
  | ok r₁ =>
      show (c.check mem head (.free r₁) 1 >>= _) = _
      rw [check_post, ok_bind]
      cases c.report head >>= r₁.record mem with
      | error e => rfl
      | ok r₂ =>
          show ((c.matchingFree badPath).check head (.free r₂) 0 >>= _) = _
          rw [FreeCall.check_pre, ok_bind]
          cases (c.matchingFree badPath).report head >>= r₂.drop with
          | error e => rfl
          | ok r₃ => exact FreeCall.check_post head r₃ _

lemma record_eq_ok {r r' : Records} {mem : Alloc} {p : Report} :
    r.record mem (some p) = .ok r' ↔
      ∃ g, genericAllocator r.test mem 1 p.object p.size p.origin = .ok g ∧
        { r with test := g } = r' :=
  map_eq_ok

lemma drop_eq_ok {r r' : Records} {object : ULong} {origin : Origin} :
    r.drop (some (object, origin)) = .ok r' ↔
      ∃ g, genericFree r.test 0 object origin = .ok g ∧ { r with test := g } = r' :=
  map_eq_ok

lemma insert_erase_of_notMem {m : Tracked} {a : ULong} (h : a ∉ m) (value : HValue) :
    (m.insert a value).erase a = m := by
  refine Finmap.ext_lookup fun x => ?_
  by_cases hx : x = a
  · rw [hx, Finmap.lookup_erase, Finmap.lookup_eq_none.mpr h]
  · rw [Finmap.lookup_erase_ne hx, Finmap.lookup_insert_of_ne _ hx]

/-- A free that goes through takes its address out of the map. -/
lemma genericFree_ok {g g' : GlobalState} {m : Tracked} (hm : g.Tracks m) {object : ULong}
    {origin : Origin} (h : genericFree g 0 object origin = .ok g') :
    object ∈ m ∧ g'.Tracks (m.erase object) := by
  rw [genericFree_eq, objsSearch_eq hm] at h
  cases hvalue : m.lookup object with
  | none =>
      rw [hvalue] at h
      cases h
  | some value =>
      rw [hvalue] at h
      dsimp only at h
      split_ifs at h
      cases h
      exact ⟨Finmap.mem_iff.mpr ⟨value, hvalue⟩, tracks_removed hm object⟩

/-- Recording an object and dropping it again restores the map iff the object can be recorded. -/
lemma record_drop_iff {r : Records} {m : Tracked} (hm : r.test.Tracks m) (mem : Alloc)
    {p : Report} {origin : Origin} (hbits : p.origin &&& origin ≠ 0) :
    (∃ r', (r.record mem (some p) >>= fun r => r.drop (some (p.object, origin))) = .ok r' ∧
        r'.test.Tracks m) ↔
      (FreshAddress m p.object ∧ ¬ insaneSize p.size) ∧ mem.Suffices := by
  constructor
  · rintro ⟨r', hrun, htracks⟩
    obtain ⟨r₁, hrecord, hdrop⟩ := bind_eq_ok.mp hrun
    obtain ⟨g₁, halloc, rfl⟩ := record_eq_ok.mp hrecord
    obtain ⟨g₂, hfree, rfl⟩ := drop_eq_ok.mp hdrop
    by_cases hbogus : isErr p.object = true ∨ p.object = 0
    · -- nothing is recorded, so the free would take a live object out
      rw [genericAllocator_of_bogus _ _ hbogus] at halloc
      cases halloc
      obtain ⟨hmem, herased⟩ := genericFree_ok hm hfree
      rw [htracks.unique herased] at hmem
      exact absurd hmem Finmap.notMem_erase_self
    · obtain ⟨hsearch, hsize, _, hmem, _⟩ := (genericAllocator_eq_ok hbogus).mp halloc
      rw [objsSearch_eq hm, Finmap.lookup_eq_none] at hsearch
      rw [not_or, Bool.not_eq_true] at hbogus
      exact ⟨⟨⟨hbogus.2, hbogus.1, hsearch⟩, hsize⟩, hmem⟩
  · rintro ⟨⟨⟨hnull, herr, hnew⟩, hsize⟩, hmem⟩
    have hsearch : objsSearch r.test p.object = none := by
      rw [objsSearch_eq hm, Finmap.lookup_eq_none.mpr hnew]
    have horigin : p.origin ≠ 0 := by
      intro h0
      rw [h0, UInt32.zero_and] at hbits
      exact hbits rfl
    have halloc := (genericAllocator_eq_ok (by simp [hnull, herr])).mpr
      ⟨hsearch, hsize, horigin, hmem, rfl⟩
    have hrecord := record_eq_ok.mpr ⟨_, halloc, rfl⟩
    have hm₁ := tracks_inserted hm hnew (HValue.fresh p.origin p.size 1) hmem.2.2
    have hfree := genericFree_eq
      (objsInserted r.test mem p.object (HValue.fresh p.origin p.size 1)) p.object origin
    rw [objsSearch_inserted _ _ _ hmem.2.2] at hfree
    dsimp only [HValue.fresh] at hfree
    rw [if_pos hbits] at hfree
    refine ⟨_, bind_eq_ok.mpr ⟨_, hrecord, drop_eq_ok.mpr ⟨_, hfree, rfl⟩⟩, ?_⟩
    have hm₂ := tracks_removed hm₁ p.object
    rwa [insert_erase_of_notMem hnew] at hm₂

/-! ## What the routines of a pair agree on -/

lemma sane_of_bytes {size : ULong} (h : 1 ≤ size.toNat ∧ size.toNat ≤ 10000000) :
    ¬ insaneSize size :=
  sane_of_range (Or.inl ⟨UInt32.le_iff_toNat_le.mpr h.1, UInt32.le_iff_toNat_le.mpr h.2⟩)

lemma sane_unknown : ¬ insaneSize (0 - 1) := sane_of_range (Or.inr rfl)

/-- The number of pages recorded for a request of reasonable size is itself reasonable. -/
lemma sane_of_order {order : ULong} (h : pageSize * 2 ^ order.toNat ≤ 10000000) :
    ¬ insaneSize (1 <<< order) := by
  have hlt : order.toNat < 12 := by
    by_contra hge
    have hpow := Nat.pow_le_pow_right (Nat.two_pos) (not_lt.mp hge)
    unfold pageSize at h
    omega
  have hall : ∀ k < 12, ¬ insaneSize (1 <<< UInt32.ofNat k) := by decide
  have hsane := hall order.toNat hlt
  rwa [UInt32.ofNat_toNat] at hsane

/-- Both routines of a pair report the same address, with an origin in common, and the allocator's
report can be recorded iff the condition holds. -/
structure AllocCall.Matched (head : ULong → ULong) (badPath : ℤ) (m : Tracked) (g : GlobalState)
    (c : AllocCall) (p : Report) (origin : Origin) : Prop where
  report : c.report head = .ok (some p)
  free : (c.matchingFree badPath).report head = .ok (some (p.object, origin))
  origins : p.origin &&& origin ≠ 0
  inverts : c.PreOk g ∧ FreshAddress m p.object ∧ ¬ insaneSize p.size ↔ c.Inverts head m g

namespace AllocCall

section

variable {m : Tracked} {head : ULong → ULong} {badPath : ℤ} {g : GlobalState}

lemma unlessNull_of_ne {api : FreeApi} {name : String} {origin : Origin} {a : ULong} (h : a ≠ 0) :
    FreeCall.unlessNull api name origin (some a) = .ok (some (a, origin)) := by
  rw [FreeCall.unlessNull, if_neg h]

lemma kfree_report {a : ULong} (h : a ≠ 0) :
    (FreeCall.kfree (some a)).report head = .ok (some (a, originKmalloc)) := by
  rw [FreeCall.report, unlessNull_of_ne h]

lemma skbHead_of_fresh {check : Check} {skb : ULong} (h : FreshAddress m skb) :
    skbHead check head skb = .ok (head skb) := by
  rw [skbHead, ensure_of_true ⟨h.1, h.2.1⟩, ok_bind]

/-- A matched pair of reports, given by its parts. -/
lemma matched_of {c : AllocCall} {object size : ULong} {origin origin' : Origin}
    (hreport : c.report head = .ok (some ⟨object, size, origin⟩))
    (hfree : (c.matchingFree badPath).report head = .ok (some (object, origin')))
    (horigins : origin &&& origin' ≠ 0)
    (hinverts : c.PreOk g ∧ FreshAddress m object ∧ ¬ insaneSize size ↔ c.Inverts head m g) :
    ∃ p origin, c.Matched head badPath m g p origin :=
  ⟨_, _, hreport, hfree, horigins, hinverts⟩

lemma exists_matched {c : AllocCall} (hs : c.Succeeds m)
    (hbytes : ∀ n ∈ c.bytes, 1 ≤ n ∧ n ≤ 10000000) (hskb : ∀ skb, c ≠ .skbDmaMap skb) :
    ∃ p origin, c.Matched head badPath m g p origin := by
  cases c with
  | skbDmaMap skb => exact absurd rfl (hskb skb)
  | getFreePages retval order =>
      exact matched_of rfl rfl (by decide)
        (iff_of_true ⟨trivial, hs, sane_of_order (hbytes _ rfl).2⟩ trivial)
  | dmaAllocCoherent retval size | ioremapNocache retval size | pciMapSingle retval size
  | pciMapPage retval size =>
      exact matched_of rfl rfl (by decide)
        (iff_of_true ⟨trivial, hs, sane_of_bytes (hbytes _ rfl)⟩ trivial)
  | vmalloc retval size =>
      have hfree : (FreeCall.vfree (some retval)).report head =
          .ok (some (retval, originVmalloc)) := by
        rw [FreeCall.report, unlessNull_of_ne hs.1]
      exact matched_of rfl hfree (by decide)
        (iff_of_true ⟨trivial, hs, sane_of_bytes (hbytes _ rfl)⟩ trivial)
  | allocEtherdevMqs retval | allocNetdevMqs retval | pciIoremapBar retval =>
      exact matched_of rfl rfl (by decide) (iff_of_true ⟨trivial, hs, sane_unknown⟩ trivial)
  | usbAllocUrb retval =>
      have hfree : (FreeCall.usbFreeUrb (some retval)).report head =
          .ok (some (retval, originAllocUrb)) := by
        rw [FreeCall.report, unlessNull_of_ne hs.1]
      exact matched_of rfl hfree (by decide)
        (iff_of_true ⟨trivial, hs, sane_unknown⟩ trivial)
  | classCreate retval =>
      have hreport : (classCreate retval).report head =
          .ok (some ⟨retval, 0 - 1, originClassCreate⟩) := by
        rw [report, if_pos hs.2.1]
      exact matched_of hreport rfl (by decide) (iff_of_true ⟨trivial, hs, sane_unknown⟩ trivial)
  | kmalloc retval size flags =>
      exact matched_of rfl (kfree_report hs.1) (by decide)
        (and_iff_left ⟨hs, sane_of_bytes (hbytes _ rfl)⟩)
  | kstrdup retval flags =>
      exact matched_of rfl (kfree_report hs.1) (by decide) (and_iff_left ⟨hs, sane_unknown⟩)
  | allocSkb retval size sizePtr =>
      have hreport : (allocSkb retval size sizePtr).report head =
          .ok (some ⟨head retval, sizePtr, originDevAllocSkb⟩) := by
        rw [report, skbHead_of_fresh hs]
        rfl
      have hfree : (FreeCall.kfreeSkb retval).report head =
          .ok (some (head retval, originDevAllocSkb)) := by
        rw [FreeCall.report, skbHead_of_fresh hs]
        rfl
      exact matched_of hreport hfree (by decide) (and_iff_right trivial)
  | devAllocSkb retval =>
      have hreport : (devAllocSkb retval).report head =
          .ok (some ⟨head retval, 0 - 1, originDevAllocSkb⟩) := by
        rw [report, skbHead_of_fresh hs]
        rfl
      have hfree : (FreeCall.devKfreeSkbAny retval).report head =
          .ok (some (head retval, originDevAllocSkb)) := by
        rw [FreeCall.report, skbHead_of_fresh hs]
        rfl
      exact matched_of hreport hfree (by decide)
        ((and_iff_right trivial).trans (and_iff_left sane_unknown))
  | netdevAllocSkb retval =>
      have hreport : (netdevAllocSkb retval).report head =
          .ok (some ⟨head retval, 0 - 1, originDevAllocSkb⟩) := by
        rw [report, if_pos hs.1, skbHead_of_fresh hs]
        rfl
      have hfree : (FreeCall.consumeSkb retval).report head =
          .ok (some (head retval, originDevAllocSkb)) := by
        rw [FreeCall.report, skbHead_of_fresh hs]
        rfl
      exact matched_of hreport hfree (by decide)
        ((and_iff_right trivial).trans (and_iff_left sane_unknown))
  | requestRegion retval start n =>
      exact matched_of rfl rfl (by decide)
        ((and_iff_right trivial).trans (and_iff_left (sane_of_bytes (hbytes _ rfl))))
  | deviceRegister retval dev =>
      obtain rfl : retval = 0 := hs
      exact matched_of rfl rfl (by decide)
        ((and_iff_right trivial).trans (and_iff_left sane_unknown))
  | deviceCreateFile retval attr =>
      obtain rfl : retval = 0 := hs
      exact matched_of rfl rfl (by decide)
        ((and_iff_right trivial).trans (and_iff_left sane_unknown))

end

end AllocCall

/-! ## When a pair works -/

/-- **A pair inverts** iff its condition holds: for every call that succeeds with an address that is
not live and a request between 1 and 10000000 bytes, the checks of the call and of the matching free
go through and restore the map of live objects.  `mem` are the framework's own allocations. -/
theorem alloc_free_inverse_iff (c : AllocCall) (mem : Alloc) (head : ULong → ULong) (badPath : ℤ)
    (r : Records) (m : Tracked) (hm : r.test.Tracks m) (hs : c.Succeeds m)
    (hbytes : ∀ n ∈ c.bytes, 1 ≤ n ∧ n ≤ 10000000) :
    (∃ s, c.roundTrip mem head badPath (.free r) = .ok s ∧ s.records.test.Tracks m) ↔
      c.Inverts head m r.test ∧ mem.Suffices := by
  by_cases hskb : ∃ skb, c = .skbDmaMap skb
  · obtain ⟨skb, rfl⟩ := hskb
    refine iff_of_false ?_ fun h => h.1
    rintro ⟨s, hrun, _⟩
    rw [AllocCall.roundTrip_free] at hrun
    cases hrun
  obtain ⟨p, origin, hmatched⟩ : ∃ p origin, c.Matched head badPath m r.test p origin :=
    AllocCall.exists_matched hs hbytes fun skb h => hskb ⟨skb, h⟩
  have hrecord := record_drop_iff hm mem hmatched.origins
  rw [← hmatched.inverts, AllocCall.roundTrip_free, hmatched.report, hmatched.free]
  constructor
  · rintro ⟨s, hmap, htracks⟩
    obtain ⟨r', hrun, rfl⟩ := map_eq_ok.mp hmap
    obtain ⟨r₁, hpre, hpair⟩ := bind_eq_ok.mp hrun
    obtain ⟨hpre, rfl⟩ := AllocCall.pre_eq_ok.mp hpre
    obtain ⟨hok, hmem⟩ := hrecord.mp ⟨r', hpair, htracks⟩
    exact ⟨⟨hpre, hok⟩, hmem⟩
  · rintro ⟨⟨hpre, hok⟩, hmem⟩
    obtain ⟨r', hrun, htracks⟩ := hrecord.mpr ⟨hok, hmem⟩
    refine ⟨.free r', map_eq_ok.mpr ⟨r', ?_, rfl⟩, htracks⟩
    exact bind_eq_ok.mpr ⟨r, AllocCall.pre_eq_ok.mpr ⟨hpre, rfl⟩, hrun⟩

/-- Sixty-four bytes from `__kmalloc` before any context is known. -/
theorem alloc_free_inverse_kmalloc :
    ∃ s, (AllocCall.kmalloc 0xc0001000 64 gfpKernel).roundTrip Alloc.succeeds (fun _ => 0) 0
        (.free .initial) = .ok s ∧ s.records.test.Tracks ∅ := by
  refine (alloc_free_inverse_iff (.kmalloc 0xc0001000 64 gfpKernel) Alloc.succeeds (fun _ => 0) 0
    .initial ∅ tracks_initialized ⟨by decide, by decide, Finmap.notMem_empty⟩ ?_).mpr
    ⟨⟨by decide, by decide⟩, Alloc.succeeds_suffices⟩
  rintro n ⟨⟩
  decide

/-- **Two pairs that no driver can use.**  The check before `skb_dma_map` always asserts.  The check
after `__alloc_skb` records the address of `size`, on the stack of the stub, as the size, and the
complaint about it goes through NULL. -/
theorem skb_pairs_fault :
    initializeDriverState.Tracks ∅ ∧
    ((AllocCall.skbDmaMap 0xc0001000).Succeeds ∅ ∧
      (AllocCall.skbDmaMap 0xc0001000).roundTrip Alloc.succeeds (fun _ => 0) 0 (.free .initial) =
        .error (.assertion (.check (.alloc .skbDmaMap)) "")) ∧
    (AllocCall.allocSkb 0xc0001000 1500 0xc0abcdf0).Succeeds ∅ ∧
      (∀ n ∈ (AllocCall.allocSkb 0xc0001000 1500 0xc0abcdf0).bytes, 1 ≤ n ∧ n ≤ 10000000) ∧
      (AllocCall.allocSkb 0xc0001000 1500 0xc0abcdf0).roundTrip Alloc.succeeds
        (fun _ => 0xc0002000) 0 (.free .initial) = .error (.nullDeref .objsInsert) := by
  refine ⟨tracks_initialized, ⟨trivial, rfl⟩, ⟨by decide, by decide, Finmap.notMem_empty⟩, ?_, rfl⟩
  rintro n ⟨⟩
  decide

end SymDrive
