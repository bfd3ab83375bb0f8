import Mathlib.Data.Finset.Card
import Mathlib.Data.List.Nodup
import Mathlib.Logic.Relation
import SymDrive.Library.Saturation

/-!
# Interesting functions

`get_interesting_driver_fns` of `root_annot_dri.ml`.  Some functions of the kernel are interesting,
and so is every function of the driver that calls an interesting one.  The pass visits the file
until a visit finds nothing new.

`interesting_fns_closure` — it ends, and finds the functions from which an interesting one can be
reached by calls.  In a visit the functions of the last visit count as interesting, so a path of
calls is followed back by one call a visit, or by more.
-/

namespace SymDrive.Cil

open Saturation

/-! ## The pass -/

/-- A function definition: its name, and the functions that it calls as they are printed.  A
function that is called directly is printed as its name. -/
structure CallingFn where
  vname : String
  calls : List String
  deriving DecidableEq, Repr

/-- A function with the one because of which it is interesting. -/
abbrev Interesting := String × String

section

variable (file : List CallingFn)

/-- `vinst` at a call, in the function `currentFn`. -/
def visitCall (interestingCoreFns : List Interesting) (currentFn : String)
    (interestingDriverFns : List Interesting) (calledFn : String) : List Interesting :=
  if (interestingCoreFns.any fun st => decide (st.1 = calledFn)) &&
      !(interestingDriverFns.any fun st => decide (st.1 = currentFn)) then
    interestingDriverFns ++ [(currentFn, calledFn)]
  else interestingDriverFns

/-- `vfunc`. -/
def visitFn (interestingCoreFns : List Interesting) (interestingDriverFns : List Interesting)
    (fdec : CallingFn) : List Interesting :=
  fdec.calls.foldl (visitCall interestingCoreFns fdec.vname) interestingDriverFns

/-- The body of the loop: both lists are the same when the file is visited. -/
def visitFile (interestingFns : List Interesting) : List Interesting :=
  file.foldl (visitFn interestingFns) interestingFns

/-- `get_interesting_driver_fns`; the loop is cut off after `fuel` tests of its condition. -/
def getInterestingDriverFns (seeds : List String) (fuel : ℕ) : Option (List Interesting) :=
  untilStable (visitFile file) fuel [] (seeds.map fun seed => (seed, ""))

end

/-- A function of the file calls `g` directly. -/
def Calls (file : List CallingFn) (f g : String) : Prop :=
  ∃ fdec ∈ file, fdec.vname = f ∧ g ∈ fdec.calls

/-! ## One visit -/

section

variable {file : List CallingFn} {core driver : List Interesting} {currentFn calledFn f : String}

/-- The functions of a list, without the reasons. -/
def names (fns : List Interesting) : List String := fns.map Prod.fst

lemma any_fst {fns : List Interesting} :
    (fns.any fun st => decide (st.1 = f)) = true ↔ f ∈ names fns := by
  rw [List.any_eq_true, names, List.mem_map]
  simp only [decide_eq_true_eq]

/-- What a call adds. -/
lemma visitCall_eq : visitCall core currentFn driver calledFn =
    if calledFn ∈ names core ∧ currentFn ∉ names driver then driver ++ [(currentFn, calledFn)]
    else driver := by
  rw [visitCall]
  refine if_congr ?_ rfl rfl
  rw [Bool.and_eq_true, Bool.not_eq_true', ← Bool.not_eq_true, any_fst, any_fst]

/-- What a visit has found so far: nothing is lost or found twice, and what is new calls something
that was interesting before. -/
structure Found (file : List CallingFn) (core driver : List Interesting) : Prop where
  grows : core <+: driver
  nodup : (names driver).Nodup
  calls : ∀ f ∈ names driver, f ∈ names core ∨ ∃ g ∈ names core, Calls file f g

lemma Found.ofCall (h : Found file core driver) (hcalls : Calls file currentFn calledFn) :
    Found file core (visitCall core currentFn driver calledFn) ∧
      driver <+: visitCall core currentFn driver calledFn := by
  rw [visitCall_eq]
  split_ifs with hnew
  · obtain ⟨hcore, hdriver⟩ := hnew
    have happend : driver <+: driver ++ [(currentFn, calledFn)] := List.prefix_append _ _
    refine ⟨⟨h.grows.trans happend, ?_, ?_⟩, happend⟩
    · rw [names, List.map_append, List.nodup_append_comm]
      exact List.nodup_cons.mpr ⟨hdriver, h.nodup⟩
    · intro f hf
      rw [names, List.map_append, List.mem_append] at hf
      rcases hf with hf | hf
      · exact h.calls f hf
      · obtain rfl : f = currentFn := List.mem_singleton.mp hf
        exact Or.inr ⟨calledFn, hcore, hcalls⟩
  · exact ⟨h, List.prefix_rfl⟩

lemma mem_names_of_isPrefix {fns fns' : List Interesting} (h : fns <+: fns') (hf : f ∈ names fns) :
    f ∈ names fns' :=
  List.map_subset Prod.fst h.subset hf

/-- Afterwards the function is found if the call is of an interesting one. -/
lemma mem_visitCall (hcore : calledFn ∈ names core) :
    currentFn ∈ names (visitCall core currentFn driver calledFn) := by
  rw [visitCall_eq]
  by_cases hdriver : currentFn ∈ names driver
  · rw [if_neg fun h => h.2 hdriver]
    exact hdriver
  · rw [if_pos ⟨hcore, hdriver⟩, names, List.map_append]
    exact List.mem_append_right _ (List.mem_singleton_self _)

/-- The calls of a function. -/
lemma Found.ofCalls (calls : List String) : ∀ {driver : List Interesting},
    Found file core driver → (∀ g ∈ calls, Calls file currentFn g) →
      Found file core (calls.foldl (visitCall core currentFn) driver) ∧
        driver <+: calls.foldl (visitCall core currentFn) driver ∧
          ((∃ g ∈ calls, g ∈ names core) →
            currentFn ∈ names (calls.foldl (visitCall core currentFn) driver)) := by
  induction calls with
  | nil => exact fun h _ => ⟨h, List.prefix_rfl, fun ⟨g, hg, _⟩ => absurd hg List.not_mem_nil⟩
  | cons g calls ih =>
      intro driver h hcalls
      obtain ⟨hhead, hgrows⟩ := h.ofCall (hcalls g List.mem_cons_self)
      obtain ⟨htail, hgrows', hmem⟩ := ih hhead fun g' hg' => hcalls g' (List.mem_cons_of_mem _ hg')
      refine ⟨htail, hgrows.trans hgrows', ?_⟩
      rintro ⟨g', hg', hcore⟩
      rcases List.mem_cons.mp hg' with rfl | hg'
      · exact mem_names_of_isPrefix hgrows' (mem_visitCall hcore)
      · exact hmem ⟨g', hg', hcore⟩

/-- The functions of the file. -/
lemma Found.ofFns (fns : List CallingFn) (hsub : fns ⊆ file) : ∀ {driver : List Interesting},
    Found file core driver → Found file core (fns.foldl (visitFn core) driver) ∧
      driver <+: fns.foldl (visitFn core) driver ∧
        ∀ fdec ∈ fns, (∃ g ∈ fdec.calls, g ∈ names core) →
          fdec.vname ∈ names (fns.foldl (visitFn core) driver) := by
  induction fns with
  | nil => exact fun h => ⟨h, List.prefix_rfl, fun fdec hfdec => absurd hfdec List.not_mem_nil⟩
  | cons fdec fns ih =>
      intro driver h
      obtain ⟨hfdec, hsub⟩ := List.cons_subset.mp hsub
      obtain ⟨hhead, hgrows, hmem⟩ := h.ofCalls fdec.calls fun g hg => ⟨fdec, hfdec, rfl, hg⟩
      obtain ⟨htail, hgrows', hmem'⟩ := ih hsub hhead
      refine ⟨htail, hgrows.trans hgrows', ?_⟩
      intro fdec' hfdec' hcore
      rcases List.mem_cons.mp hfdec' with rfl | hfdec'
      · exact mem_names_of_isPrefix hgrows' (hmem hcore)
      · exact hmem' fdec' hfdec' hcore

lemma visitFile_found (hnodup : (names core).Nodup) : Found file core (visitFile file core) :=
  (Found.ofFns file (List.Subset.refl _) ⟨List.prefix_rfl, hnodup, fun _ hf => Or.inl hf⟩).1

/-- A visit finds every function that calls an interesting one. -/
lemma mem_visitFile {g : String} (hnodup : (names core).Nodup) (hcalls : Calls file f g)
    (hg : g ∈ names core) : f ∈ names (visitFile file core) := by
  obtain ⟨fdec, hfdec, rfl, hcall⟩ := hcalls
  exact (Found.ofFns file (List.Subset.refl _)
    ⟨List.prefix_rfl, hnodup, fun _ hf => Or.inl hf⟩).2.2 fdec hfdec ⟨g, hcall, hg⟩

end

/-! ## All visits -/

/-- What the pass has found, after any number of visits. -/
structure FoundFrom (file : List CallingFn) (seeds : List String) (fns : List Interesting) :
    Prop where
  nodup : (names fns).Nodup
  known : seeds ⊆ names fns
  inside : ∀ f ∈ names fns, f ∈ seeds ++ file.map CallingFn.vname
  reaches : ∀ f ∈ names fns, ∃ seed ∈ seeds, Relation.ReflTransGen (Calls file) f seed

section

variable {file : List CallingFn} {seeds : List String} {fns : List Interesting}

lemma names_seeds (seeds : List String) :
    names (seeds.map fun seed => (seed, "")) = seeds := by
  rw [names, List.map_map]
  exact List.map_id seeds

lemma foundFrom_seeds (hnodup : seeds.Nodup) :
    FoundFrom file seeds (seeds.map fun seed => (seed, "")) where
  nodup := by rwa [names_seeds]
  known := by
    rw [names_seeds]
    exact List.Subset.refl _
  inside := fun f hf => by
    rw [names_seeds] at hf
    exact List.mem_append_left _ hf
  reaches := fun f hf => by
    rw [names_seeds] at hf
    exact ⟨f, hf, .refl⟩

lemma FoundFrom.visit (h : FoundFrom file seeds fns) :
    FoundFrom file seeds (visitFile file fns) := by
  have hfound : Found file _ _ := visitFile_found h.nodup
  refine ⟨hfound.nodup, fun f hf => mem_names_of_isPrefix hfound.grows (h.known hf), ?_, ?_⟩
  · intro f hf
    rcases hfound.calls f hf with hf | ⟨g, _, fdec, hfdec, rfl, _⟩
    · exact h.inside f hf
    · exact List.mem_append_right _ (List.mem_map_of_mem hfdec)
  · intro f hf
    rcases hfound.calls f hf with hf | ⟨g, hg, hcalls⟩
    · exact h.reaches f hf
    · obtain ⟨seed, hseed, hpath⟩ := h.reaches g hg
      exact ⟨seed, hseed, .head hcalls hpath⟩

lemma FoundFrom.length_le (h : FoundFrom file seeds fns) :
    fns.length ≤ seeds.length + file.length := by
  have hle := (List.subperm_of_subset h.nodup h.inside).length_le
  rwa [names, List.length_map, List.length_append, List.length_map] at hle

/-- A list to which a visit adds nothing has every function from which a seed can be reached.  The
induction follows the path of calls back from the seed. -/
lemma FoundFrom.complete (h : FoundFrom file seeds fns)
    (hstable : visitFile file fns = fns) {f seed : String} (hseed : seed ∈ seeds)
    (hpath : Relation.ReflTransGen (Calls file) f seed) : f ∈ names fns := by
  induction hpath using Relation.ReflTransGen.head_induction_on with
  | refl => exact h.known hseed
  | head hcalls _ ih =>
      rw [← hstable]
      exact mem_visitFile h.nodup hcalls ih

end

/-- **The closure of the interesting functions**: the pass ends, and finds each function from which
an interesting one can be reached by direct calls once, and no other. -/
theorem interesting_fns_closure (file : List CallingFn) (seeds : List String)
    (hnodup : seeds.Nodup) :
    ∃ fns, (∀ fuel, file.length + 2 ≤ fuel →
        getInterestingDriverFns file seeds fuel = some fns) ∧ (names fns).Nodup ∧
      ∀ f, f ∈ names fns ↔ ∃ seed ∈ seeds, Relation.ReflTransGen (Calls file) f seed := by
  have hempty : ∀ l : List Interesting, l.length = ([] : List Interesting).length →
      FoundFrom file seeds l → visitFile file l = l := by
    intro l hl h
    obtain rfl : l = [] := List.eq_nil_of_length_eq_zero hl
    have hfound : Found file _ _ := visitFile_found h.nodup
    refine List.eq_nil_iff_forall_not_mem.mpr fun st hst => ?_
    rcases hfound.calls st.1 (List.mem_map_of_mem hst) with hf | ⟨g, hg, _⟩
    · exact absurd hf List.not_mem_nil
    · exact absurd hg List.not_mem_nil
  have hseeds : FoundFrom file seeds _ := foundFrom_seeds hnodup
  obtain ⟨fns, h, hstable, hrun⟩ := exists_stable (P := FoundFrom file seeds)
    (fun fns h => (visitFile_found h.nodup).grows) (fun fns h => h.visit)
    (fun fns h => h.length_le) file.length [] _ hseeds (fun hl => hempty _ hl hseeds)
    (by rw [List.length_map])
  refine ⟨fns, hrun, h.nodup, fun f => ⟨h.reaches f, ?_⟩⟩
  rintro ⟨seed, hseed, hpath⟩
  exact h.complete hstable hseed hpath

/-- A function that calls itself, and two that call each other, one of which wakes a queue. -/
def queueFile : List CallingFn :=
  [⟨"f", ["f"]⟩, ⟨"g", ["h"]⟩, ⟨"h", ["g", "schedule_work"]⟩]

theorem interesting_fns_closure_queue : ∃ fns,
    (∀ fuel, 5 ≤ fuel → getInterestingDriverFns queueFile ["schedule_work"] fuel = some fns) ∧
      (names fns).Nodup ∧ ∀ f, f ∈ names fns ↔
        ∃ seed ∈ ["schedule_work"], Relation.ReflTransGen (Calls queueFile) f seed :=
  interesting_fns_closure queueFile ["schedule_work"] (by decide)

example : getInterestingDriverFns queueFile ["schedule_work"] 5 =
    some [("schedule_work", ""), ("h", "schedule_work"), ("g", "h")] := by decide

end SymDrive.Cil
