import SymDrive.Cil.Cfg
import SymDrive.Cil.Prioritization

/-!
# Unused labels

`rmtmps.ml` runs on every file behind the parser.  In a function that it keeps, every statement is
left one label at most, none where no `Goto` leads to it, and no `case` beside a `default`.

* `labelsToKeep_name` — the label that is kept is there whenever the statement has one.
* `removeUnusedLabels_eq` — the second visitor never meets its assertion, and what it leaves.
* `labels_cleaned` — so the pass goes through and nothing is lost: the `Goto`s, as they are printed,
  lead where they led, and so does every `Switch` for every value.
-/

namespace SymDrive.Cil.Labels

open Checked

/-! ## The pass -/

/-- The label found so far: its name, which is empty if there is none, and whether it stands in the
source. -/
abbrev Found := String × Bool

/-- The cases of `loop` for one label: the label found then, and whether it stays in the list. -/
def keepLabel (sofar : Found) : Label → Found × Bool
  | .case _ | .default => (sofar, true)
  | .label ln false => (if sofar.1 = "" then (ln, false) else sofar, false)
  | .label ln true => (if sofar.2 = false then (ln, true) else sofar, false)

/-- `loop` of `labelsToKeep`. -/
def labelsLoop : Found → List Label → Found × List Label
  | sofar, [] => (sofar, [])
  | sofar, l :: rest =>
      let (newlabel, keepl) := keepLabel sofar l
      let (newlabel', rest') := labelsLoop newlabel rest
      (newlabel', if keepl then l :: rest' else rest')

/-- The label of a statement that should stay, and its `case`s. -/
def labelsToKeep (ll : List Label) : Found × List Label :=
  let (sofar, labels) := labelsLoop ("", false) ll
  if labels.contains .default then (sofar, [.default]) else (sofar, labels)

/-- The visitor `markUsedLabels`: the names of the labels that stay at the targets of the
`Goto`s. -/
def markUsedLabels (b : Body) : Except Fatal (List String) :=
  (gotosOf b.stmts).mapM fun p => do
    let ((ln, _), _) := labelsToKeep (b.labels p.2)
    ensure (ln ≠ "") "rmtmps: destination of statement does not have labels"
    .ok ln

def Label.isValue : Label → Bool
  | .case _ => true
  | .label _ _ | .default => false

/-- The labels that the visitor `removeUnusedLabels` leaves a statement. -/
def keptLabels (labelMap : List String) (ll : List Label) : List Label :=
  let ((ln, lorig), lrest) := labelsToKeep ll
  if ln ≠ "" ∧ ln ∈ labelMap then .label ln lorig :: lrest else lrest

/-- What it does at a statement. -/
def removeAt (labelMap : List String) (labels : Sid → List Label) (s : Sid) :
    Except Fatal (Sid → List Label) := do
  let lrest := (labelsToKeep (labels s)).2
  ensure (lrest = [.default] ∨ lrest.all Label.isValue) "Assert_failure"
  .ok (Function.update labels s (keptLabels labelMap (labels s)))

def removeUnusedLabels (labelMap : List String) (b : Body) : Except Fatal Body := do
  let labels ← (idsOf b.stmts).foldlM (removeAt labelMap) b.labels
  .ok { b with labels }

/-- What `removeUnmarked` does with the labels of a function that stays. -/
def cleanLabels (b : Body) : Except Fatal Body := do
  let usedLabels ← markUsedLabels b
  removeUnusedLabels usedLabels b

/-! ## What labels mean -/

/-- The printer of `Goto`s takes the first label of the target. -/
def pickLabel : List Label → Option String
  | [] => none
  | .label l _ :: _ => some l
  | .case _ :: rest | .default :: rest => pickLabel rest

def Label.hasName (name : String) : Label → Bool
  | .label l _ => l = name
  | .case _ | .default => false

/-- The statement that a `goto name` of the printed function leads to. -/
def labelled (b : Body) (name : String) : Option Sid :=
  (idsOf b.stmts).find? fun x => (b.labels x).any (Label.hasName name)

/-- The statement that the printed `switch` leads to: the one with the `case` of the value, or else
the one with the `default`. -/
def switchTarget (labels : Sid → List Label) (b : List Stmt) (v : ℤ) : Option Sid :=
  let cases := findCaseLabeledStmts labels b
  (cases.find? fun x => (labels x).contains (.case v)).or
    (cases.find? fun x => (labels x).contains .default)

/-- What C asks of labels: in a function no two statements have a label of one name, and in a
`switch` no two statements have one `case`. -/
structure Distinct (b : Body) : Prop where
  named : ∀ x o, .label "" o ∉ b.labels x
  names : ∀ x y name o o', .label name o ∈ b.labels x → .label name o' ∈ b.labels y → x = y
  cases : ∀ id sb, .switch id sb ∈ recordsOf b.stmts →
    ∀ x ∈ findCaseLabeledStmts b.labels sb, ∀ y ∈ findCaseLabeledStmts b.labels sb,
      ∀ l, l.isCase = true → l ∈ b.labels x → l ∈ b.labels y → x = y

/-- **Nothing is lost with the labels** of `b` that `b'` lacks, and none is left without need. -/
structure Cleaned (b b' : Body) : Prop where
  stmts : b'.stmts = b.stmts
  wellFormed : b'.WellFormed
  edges : ∀ x y, b'.Edge x y ↔ b.Edge x y
  gotos : ∀ p ∈ gotosOf b.stmts,
    ∃ name, pickLabel (b'.labels p.2) = some name ∧ labelled b' name = some p.2
  switches : ∀ id sb, .switch id sb ∈ recordsOf b.stmts →
    ∀ v, switchTarget b'.labels sb v = switchTarget b.labels sb v
  used : ∀ x name o, .label name o ∈ b'.labels x → ∃ g, (g, x) ∈ gotosOf b.stmts
  one : ∀ x ∈ idsOf b.stmts, (b'.labels x).countP (fun l => !l.isCase) ≤ 1
  noCase : ∀ x ∈ idsOf b.stmts, .default ∈ b'.labels x → ∀ v, .case v ∉ b'.labels x

/-! ## The labels that stay -/

lemma labelsLoop_snd (sofar : Found) (ll : List Label) :
    (labelsLoop sofar ll).2 = ll.filter Label.isCase := by
  induction ll generalizing sofar with
  | nil => rfl
  | cons l rest ih =>
      simp only [labelsLoop, ih]
      cases l with
      | label ln lorig => cases lorig <;> simp [keepLabel, Label.isCase]
      | case v => rfl
      | default => rfl

/-- The label found is one of the list, or the one found before. -/
lemma labelsLoop_fst (sofar : Found) (ll : List Label) :
    (labelsLoop sofar ll).1 = sofar ∨
      .label (labelsLoop sofar ll).1.1 (labelsLoop sofar ll).1.2 ∈ ll := by
  induction ll generalizing sofar with
  | nil => exact Or.inl rfl
  | cons l rest ih =>
      have hkeep : (keepLabel sofar l).1 = sofar ∨
          .label (keepLabel sofar l).1.1 (keepLabel sofar l).1.2 = l := by
        cases l with
        | label ln lorig =>
            cases lorig with
            | false => by_cases h : sofar.1 = "" <;> simp [keepLabel, h]
            | true => by_cases h : sofar.2 = false <;> simp [keepLabel, h]
        | case v => exact Or.inl rfl
        | default => exact Or.inl rfl
      simp only [labelsLoop]
      rcases ih (keepLabel sofar l).1 with h | h
      · rw [h]
        exact hkeep.imp id fun hl => by
          rw [hl]
          exact List.mem_cons_self
      · exact Or.inr (List.mem_cons_of_mem _ h)

/-- A label found is never given up for none. -/
lemma labelsLoop_name {ll : List Label} (hnamed : ∀ o, .label "" o ∉ ll) {sofar : Found}
    (h : sofar.1 ≠ "" ∨ ∃ ln o, .label ln o ∈ ll) (htemp : sofar.1 = "" → sofar.2 = false) :
    (labelsLoop sofar ll).1.1 ≠ "" := by
  induction ll generalizing sofar with
  | nil =>
      refine h.resolve_right ?_
      rintro ⟨ln, o, h⟩
      exact absurd h List.not_mem_nil
  | cons l rest ih =>
      have hrest : ∀ o, .label "" o ∉ rest := fun o ho => hnamed o (List.mem_cons_of_mem _ ho)
      simp only [labelsLoop]
      cases l with
      | label ln lorig =>
          have hln : ln ≠ "" := by
            rintro rfl
            exact hnamed lorig List.mem_cons_self
          have hkeep : (keepLabel sofar (.label ln lorig)).1.1 ≠ "" := by
            cases lorig with
            | false => by_cases hs : sofar.1 = "" <;> simp [keepLabel, hs, hln]
            | true =>
                by_cases hs : sofar.2 = false
                · simp [keepLabel, hs, hln]
                · simpa [keepLabel, hs] using fun h0 => hs (htemp h0)
          exact ih hrest (Or.inl hkeep) fun h0 => absurd h0 hkeep
      | case v =>
          refine ih hrest (h.imp id ?_) htemp
          rintro ⟨ln, o, h⟩
          exact ⟨ln, o, by simpa using h⟩
      | default =>
          refine ih hrest (h.imp id ?_) htemp
          rintro ⟨ln, o, h⟩
          exact ⟨ln, o, by simpa using h⟩

lemma labelsToKeep_fst (ll : List Label) :
    (labelsToKeep ll).1 = (labelsLoop ("", false) ll).1 := by
  simp only [labelsToKeep]
  split_ifs <;> rfl

lemma labelsToKeep_snd (ll : List Label) :
    (labelsToKeep ll).2 =
      if ll.contains .default then [.default] else ll.filter Label.isCase := by
  have hcontains : (ll.filter Label.isCase).contains .default = ll.contains .default := by
    rw [Bool.eq_iff_iff]
    simp [Label.isCase]
  simp only [labelsToKeep, labelsLoop_snd, hcontains]
  split_ifs <;> rfl

/-- Where a statement has labels, one of them is kept. -/
theorem labelsToKeep_name {ll : List Label} (hnamed : ∀ o, .label "" o ∉ ll)
    (h : ∃ ln o, .label ln o ∈ ll) : (labelsToKeep ll).1.1 ≠ "" := by
  rw [labelsToKeep_fst]
  exact labelsLoop_name hnamed (Or.inr h) fun _ => rfl

lemma label_labelsToKeep_mem {ll : List Label} (h : (labelsToKeep ll).1.1 ≠ "") :
    .label (labelsToKeep ll).1.1 (labelsToKeep ll).1.2 ∈ ll := by
  rw [labelsToKeep_fst] at h ⊢
  refine (labelsLoop_fst ("", false) ll).resolve_left fun h0 => h ?_
  rw [h0]

/-- What is left of the `case`s and the `default`. -/
lemma mem_labelsToKeep {ll : List Label} {l : Label} :
    l ∈ (labelsToKeep ll).2 ↔ l ∈ ll ∧ l.isCase = true ∧ (.default ∈ ll → l = .default) := by
  rw [labelsToKeep_snd]
  by_cases h : .default ∈ ll
  · simp only [List.contains_iff_mem, h, if_true, List.mem_singleton, true_imp_iff]
    refine ⟨?_, fun h => h.2.2⟩
    rintro rfl
    exact ⟨h, rfl, rfl⟩
  · simp [h]

/-- The assertion of `removeUnusedLabels` never fails. -/
lemma labelsToKeep_values (ll : List Label) :
    (labelsToKeep ll).2 = [.default] ∨ (labelsToKeep ll).2.all Label.isValue := by
  by_cases h : .default ∈ ll
  · rw [labelsToKeep_snd, if_pos (List.contains_iff_mem.mpr h)]
    exact Or.inl rfl
  · refine Or.inr (List.all_eq_true.mpr fun l hl => ?_)
    obtain ⟨hl, hcase, -⟩ := mem_labelsToKeep.mp hl
    cases l with
    | label ln o => exact absurd hcase (by simp [Label.isCase])
    | case v => rfl
    | default => exact absurd hl h

section

variable {labelMap : List String}

lemma keptLabels_eq (labelMap : List String) (ll : List Label) :
    keptLabels labelMap ll =
      (if (labelsToKeep ll).1.1 ≠ "" ∧ (labelsToKeep ll).1.1 ∈ labelMap then
        [.label (labelsToKeep ll).1.1 (labelsToKeep ll).1.2] else []) ++ (labelsToKeep ll).2 := by
  simp only [keptLabels]
  split_ifs <;> rfl

/-- Only labels that were there are left. -/
lemma mem_of_mem_keptLabels {ll : List Label} {l : Label} (h : l ∈ keptLabels labelMap ll) :
    l ∈ ll := by
  rw [keptLabels_eq, List.mem_append] at h
  rcases h with h | h
  · split_ifs at h with hkeep
    · rw [List.mem_singleton.mp h]
      exact label_labelsToKeep_mem hkeep.1
    · exact absurd h List.not_mem_nil
  · exact (mem_labelsToKeep.mp h).1

lemma isCase_mem_keptLabels {ll : List Label} {l : Label} (hl : l.isCase = true) :
    l ∈ keptLabels labelMap ll ↔ l ∈ ll ∧ (.default ∈ ll → l = .default) := by
  rw [keptLabels_eq, List.mem_append, mem_labelsToKeep]
  refine ⟨?_, fun h => Or.inr ⟨h.1, hl, h.2⟩⟩
  rintro (h | h)
  · split_ifs at h with hkeep
    · rw [List.mem_singleton.mp h] at hl
      exact absurd hl (by simp [Label.isCase])
    · exact absurd h List.not_mem_nil
  · exact ⟨h.1, h.2.2⟩

lemma label_mem_keptLabels {ll : List Label} {name : String} {o : Bool} :
    .label name o ∈ keptLabels labelMap ll ↔
      (name, o) = (labelsToKeep ll).1 ∧ name ≠ "" ∧ name ∈ labelMap := by
  have hrest : .label name o ∉ (labelsToKeep ll).2 := fun h =>
    absurd (mem_labelsToKeep.mp h).2.1 (by simp [Label.isCase])
  rw [keptLabels_eq, List.mem_append, or_iff_left hrest]
  constructor
  · intro h
    split_ifs at h with hkeep
    · obtain ⟨rfl, rfl⟩ : name = _ ∧ o = _ := by simpa using h
      exact ⟨rfl, hkeep⟩
    · exact absurd h List.not_mem_nil
  · rintro ⟨heq, hkeep⟩
    rw [← heq, if_pos hkeep]
    exact List.mem_singleton_self _

/-- A statement stays one that a `Switch` can lead to. -/
lemma any_isCase_keptLabels (ll : List Label) :
    (keptLabels labelMap ll).any Label.isCase = ll.any Label.isCase := by
  rw [Bool.eq_iff_iff, List.any_eq_true, List.any_eq_true]
  constructor
  · rintro ⟨l, hl, hcase⟩
    exact ⟨l, mem_of_mem_keptLabels hl, hcase⟩
  · rintro ⟨l, hl, hcase⟩
    by_cases h : .default ∈ ll
    · exact ⟨.default, (isCase_mem_keptLabels rfl).mpr ⟨h, fun _ => rfl⟩, rfl⟩
    · exact ⟨l, (isCase_mem_keptLabels hcase).mpr ⟨hl, fun h0 => absurd h0 h⟩, hcase⟩

end

/-! ## The visitors -/

section

variable {labelMap : List String}

/-- One statement after the other. -/
lemma foldlM_removeAt (xs : List Sid) (hxs : xs.Nodup) (labels : Sid → List Label) :
    xs.foldlM (removeAt labelMap) labels =
      .ok fun x => if x ∈ xs then keptLabels labelMap (labels x) else labels x := by
  induction xs generalizing labels with
  | nil => rfl
  | cons y xs ih =>
      have hy : removeAt labelMap labels y =
          .ok (Function.update labels y (keptLabels labelMap (labels y))) := by
        rw [removeAt, ensure_of_true (labelsToKeep_values _), ok_bind]
      rw [List.foldlM_cons, hy, ok_bind, ih (List.nodup_cons.mp hxs).2]
      refine congrArg Except.ok (funext fun x => ?_)
      by_cases hxy : x = y
      · subst hxy
        rw [if_neg (List.nodup_cons.mp hxs).1, Function.update_self, if_pos List.mem_cons_self]
      · simp only [Function.update_of_ne hxy, List.mem_cons, hxy, false_or]

/-- What the second visitor leaves; its assertion never fails. -/
theorem removeUnusedLabels_eq {b : Body} (hb : b.WellFormed) :
    removeUnusedLabels labelMap b =
      .ok { b with labels := fun x => keptLabels labelMap (b.labels x) } := by
  rw [removeUnusedLabels, foldlM_removeAt _ hb.nodup, ok_bind]
  refine congrArg Except.ok (congrArg (Body.mk b.stmts) (funext fun x => ?_))
  by_cases hx : x ∈ idsOf b.stmts
  · rw [if_pos hx]
  · rw [if_neg hx, hb.labels x hx]
    rfl

end

variable {b : Body}

/-- The first visitor finds a label at the target of every `Goto`. -/
theorem markUsedLabels_eq (hb : b.WellFormed) (hnamed : ∀ x o, .label "" o ∉ b.labels x) :
    markUsedLabels b =
      .ok ((gotosOf b.stmts).map fun p => (labelsToKeep (b.labels p.2)).1.1) := by
  have hall : ∀ ps : List (Sid × Sid), (∀ p ∈ ps, p ∈ gotosOf b.stmts) →
      ps.mapM (fun p => do
        let ((ln, _), _) := labelsToKeep (b.labels p.2)
        ensure (ln ≠ "") "rmtmps: destination of statement does not have labels"
        .ok ln) =
      (.ok (ps.map fun p => (labelsToKeep (b.labels p.2)).1.1) : Except Fatal (List String)) := by
    intro ps hps
    induction ps with
    | nil => rfl
    | cons p ps ih =>
        have hname : (labelsToKeep (b.labels p.2)).1.1 ≠ "" :=
          labelsToKeep_name (hnamed p.2) (hb.targets p (hps p List.mem_cons_self)).2
        rw [List.mapM_cons, ih fun q hq => hps q (List.mem_cons_of_mem _ hq)]
        simp only [ensure_of_true hname, ok_bind, List.map_cons]
        rfl
  exact hall _ fun _ h => h

/-! ## Switches -/

section

variable {labels labels' : Sid → List Label}

/-- Which statements a `Switch` can lead to depends on no other label. -/
lemma findCaseLabeledStmts_congr
    (h : ∀ x, (labels' x).any Label.isCase = (labels x).any Label.isCase) (b : List Stmt) :
    findCaseLabeledStmts labels' b = findCaseLabeledStmts labels b := by
  induction b using blockInduct with
  | nil => rfl
  | cons s ss hs hss =>
      simp only [findCaseLabeledStmts, List.append_nil] at hs hss ⊢
      rw [hs, hss]
  | cond id b1 b2 ih1 ih2 => simp only [findCaseLabeledStmts, Stmt.caseLabeled, h, ih1, ih2]
  | loop id b ih => simp only [findCaseLabeledStmts, Stmt.caseLabeled, h, ih]
  | block id b ih => simp only [findCaseLabeledStmts, Stmt.caseLabeled, h, ih]
  | _ => simp only [findCaseLabeledStmts, Stmt.caseLabeled, h]

/-- The first element found is the only one there is. -/
lemma find_eq_of_unique {xs : List Sid} {p : Sid → Bool} {x : Sid} (hx : x ∈ xs)
    (hp : p x = true) (hunique : ∀ y ∈ xs, p y = true → y = x) : xs.find? p = some x := by
  cases h : xs.find? p with
  | none => exact absurd hp (List.find?_eq_none.mp h x hx)
  | some y => rw [hunique y (List.mem_of_find?_eq_some h) (List.find?_some h)]

variable {labelMap : List String}

/-- A `Switch` leads, for every value, to the statement it led to: a statement that loses the `case`
of the value is the one with the `default`. -/
lemma switchTarget_keptLabels {sb : List Stmt}
    (hcases : ∀ x ∈ findCaseLabeledStmts labels sb, ∀ y ∈ findCaseLabeledStmts labels sb,
      ∀ l, l.isCase = true → l ∈ labels x → l ∈ labels y → x = y) (v : ℤ) :
    switchTarget (fun x => keptLabels labelMap (labels x)) sb v = switchTarget labels sb v := by
  have hsame : findCaseLabeledStmts (fun x => keptLabels labelMap (labels x)) sb =
      findCaseLabeledStmts labels sb :=
    findCaseLabeledStmts_congr (fun x => any_isCase_keptLabels (labels x)) sb
  have hdefault : ∀ x, .default ∈ keptLabels labelMap (labels x) ↔ .default ∈ labels x := fun x =>
    (isCase_mem_keptLabels rfl).trans (and_iff_left fun _ => rfl)
  simp only [switchTarget, hsame, List.contains_eq_mem, hdefault]
  cases hfind : (findCaseLabeledStmts labels sb).find? fun x => decide (.case v ∈ labels x) with
  | none =>
      have hnone : (findCaseLabeledStmts labels sb).find?
          (fun x => decide (.case v ∈ keptLabels labelMap (labels x))) = none := by
        refine List.find?_eq_none.mpr fun x hx hv => ?_
        refine List.find?_eq_none.mp hfind x hx (decide_eq_true ?_)
        exact mem_of_mem_keptLabels (of_decide_eq_true hv)
      rw [hnone]
  | some x =>
      have hx : x ∈ findCaseLabeledStmts labels sb := List.mem_of_find?_eq_some hfind
      have hv : .case v ∈ labels x := by simpa using List.find?_some hfind
      by_cases hd : .default ∈ labels x
      · have hnone : (findCaseLabeledStmts labels sb).find?
            (fun y => decide (.case v ∈ keptLabels labelMap (labels y))) = none := by
          refine List.find?_eq_none.mpr fun y hy hyv => ?_
          obtain ⟨hyv, hnot⟩ := (isCase_mem_keptLabels rfl).mp (of_decide_eq_true hyv)
          obtain rfl := hcases x hx y hy _ rfl hv hyv
          exact absurd (hnot hd) Label.noConfusion
        rw [hnone, Option.none_or]
        exact find_eq_of_unique hx (decide_eq_true hd) fun y hy hyd =>
          hcases y hy x hx _ rfl (of_decide_eq_true hyd) hd
      · have hkept : .case v ∈ keptLabels labelMap (labels x) :=
          (isCase_mem_keptLabels rfl).mpr ⟨hv, fun h => absurd h hd⟩
        rw [find_eq_of_unique hx (decide_eq_true hkept) fun y hy hyv =>
          hcases y hy x hx _ rfl (mem_of_mem_keptLabels (of_decide_eq_true hyv)) hv]

/-- The edges of the graph are the same. -/
lemma succs_keptLabels (n : Node) :
    n.succs (fun x => keptLabels labelMap (labels x)) = n.succs labels := by
  rcases n with ⟨s, c⟩
  have hdefault : ∀ x, .default ∈ keptLabels labelMap (labels x) ↔ .default ∈ labels x := fun x =>
    (isCase_mem_keptLabels rfl).trans (and_iff_left fun _ => rfl)
  cases s with
  | switch id b =>
      simp only [Node.succs, List.contains_eq_mem, hdefault,
        findCaseLabeledStmts_congr fun x => any_isCase_keptLabels (labels x)]
  | instr id i => cases i <;> rfl
  | _ => rfl

end

/-! ## The labels that are left -/

/-- The printer finds the label of the first visitor. -/
lemma pickLabel_keptLabels {labelMap : List String} {ll : List Label}
    (hname : (labelsToKeep ll).1.1 ≠ "") (hused : (labelsToKeep ll).1.1 ∈ labelMap) :
    pickLabel (keptLabels labelMap ll) = some (labelsToKeep ll).1.1 := by
  rw [keptLabels_eq, if_pos ⟨hname, hused⟩]
  rfl

lemma countP_keptLabels (labelMap : List String) (ll : List Label) :
    (keptLabels labelMap ll).countP (fun l => !l.isCase) ≤ 1 := by
  have hrest : (labelsToKeep ll).2.countP (fun l => !l.isCase) = 0 := by
    rw [List.countP_eq_zero]
    intro l hl
    simp [(mem_labelsToKeep.mp hl).2.1]
  rw [keptLabels_eq, List.countP_append, hrest]
  split_ifs
  · exact le_rfl
  · exact Nat.zero_le _

/-- The labels that the targets of the `Goto`s keep. -/
def usedLabels (b : Body) : List String :=
  (gotosOf b.stmts).map fun p => (labelsToKeep (b.labels p.2)).1.1

def withoutUnused (b : Body) : Body :=
  { b with labels := fun x => keptLabels (usedLabels b) (b.labels x) }

lemma cleanLabels_eq (hb : b.WellFormed) (hdistinct : Distinct b) :
    cleanLabels b = .ok (withoutUnused b) := by
  rw [cleanLabels, markUsedLabels_eq hb hdistinct.named, ok_bind, removeUnusedLabels_eq hb]
  rfl

lemma withoutUnused_cleaned (hb : b.WellFormed) (hdistinct : Distinct b) :
    Cleaned b (withoutUnused b) := by
  have hname : ∀ p ∈ gotosOf b.stmts, (labelsToKeep (b.labels p.2)).1.1 ≠ "" := fun p hp =>
    labelsToKeep_name (hdistinct.named p.2) (hb.targets p hp).2
  have hused : ∀ p ∈ gotosOf b.stmts, (labelsToKeep (b.labels p.2)).1.1 ∈ usedLabels b :=
    fun p hp => List.mem_map.mpr ⟨p, hp, rfl⟩
  have hkept : ∀ p ∈ gotosOf b.stmts, .label (labelsToKeep (b.labels p.2)).1.1
      (labelsToKeep (b.labels p.2)).1.2 ∈ (withoutUnused b).labels p.2 := fun p hp =>
    label_mem_keptLabels.mpr ⟨rfl, hname p hp, hused p hp⟩
  constructor
  case stmts => rfl
  case wellFormed =>
    refine ⟨hb.source, hb.code, hb.nodup, fun x hx => ?_, fun p hp => ?_⟩
    · exact List.eq_nil_iff_forall_not_mem.mpr fun l hl =>
        absurd (hb.labels x hx ▸ mem_of_mem_keptLabels hl) List.not_mem_nil
    · exact ⟨(hb.targets p hp).1, _, _, hkept p hp⟩
  case edges =>
    intro x y
    simp only [Body.Edge, withoutUnused, succs_keptLabels]
    rfl
  case gotos =>
    intro p hp
    refine ⟨_, pickLabel_keptLabels (hname p hp) (hused p hp), ?_⟩
    refine find_eq_of_unique (hb.targets p hp).1 ?_ fun y _ hy => ?_
    · exact List.any_eq_true.mpr ⟨_, hkept p hp, decide_eq_true rfl⟩
    · obtain ⟨l, hl, hly⟩ := List.any_eq_true.mp hy
      cases l with
      | label name o =>
          obtain rfl := of_decide_eq_true hly
          exact hdistinct.names _ _ _ _ _ (mem_of_mem_keptLabels hl)
            (label_labelsToKeep_mem (hname p hp))
      | case v => exact absurd hly Bool.false_ne_true
      | default => exact absurd hly Bool.false_ne_true
  case switches =>
    intro id sb hsb v
    exact switchTarget_keptLabels (hdistinct.cases id sb hsb) v
  case used =>
    intro x name o hl
    obtain ⟨-, -, hmem⟩ := label_mem_keptLabels.mp hl
    obtain ⟨p, hp, rfl⟩ := List.mem_map.mp hmem
    have hx := hdistinct.names _ _ _ _ _ (mem_of_mem_keptLabels hl)
      (label_labelsToKeep_mem (hname p hp))
    exact ⟨p.1, hx ▸ hp⟩
  case one =>
    intro x _
    exact countP_keptLabels _ _
  case noCase =>
    intro x _ hd v hv
    have h := (isCase_mem_keptLabels rfl).mp hv
    exact absurd (h.2 (mem_of_mem_keptLabels hd)) Label.noConfusion

/-- **Unused labels are removed without loss**, from every function that C allows. -/
theorem labels_cleaned (b : Body) (hb : b.WellFormed) (hdistinct : Distinct b) :
    ∃ b', cleanLabels b = .ok b' ∧ Cleaned b b' :=
  ⟨withoutUnused b, cleanLabels_eq hb hdistinct, withoutUnused_cleaned hb hdistinct⟩

/-- The labels of `retrySwitch`. -/
def retryLabels : List (Sid × Label) :=
  [(.source 1, .case 0), (.source 1, .default), (.source 3, .label "while_continue" false),
    (.source 3, .label "retry" true), (.source 5, .label "err" true)]

/-- `switch (x) { case 0: default: x++; break; } retry: x++; goto retry; err: return;`, with a label
that the front end made at `retry`. -/
def retrySwitch : Body where
  stmts := [.switch (.source 0) [.instr (.source 1) (.code true), .brk (.source 2)],
    .instr (.source 3) (.code true), .goto (.source 4) (.source 3), .ret (.source 5) none]
  labels := fun x => (retryLabels.filter fun p => p.1 = x).map Prod.snd

lemma mem_retrySwitch_labels {x : Sid} {l : Label} (h : l ∈ retrySwitch.labels x) :
    (x, l) ∈ retryLabels := by
  obtain ⟨p, hp, rfl⟩ := List.mem_map.mp h
  obtain ⟨hp, hx⟩ := List.mem_filter.mp hp
  rw [← of_decide_eq_true hx]
  exact hp

lemma retrySwitch_distinct : Distinct retrySwitch := by
  constructor
  case named =>
    intro x o h
    simpa [retryLabels] using mem_retrySwitch_labels h
  case names =>
    intro x y name o o' hx hy
    have hx := mem_retrySwitch_labels hx
    have hy := mem_retrySwitch_labels hy
    simp only [retryLabels, List.mem_cons, Prod.mk.injEq, Label.label.injEq, reduceCtorEq,
      and_false, false_or, List.not_mem_nil, or_false] at hx hy
    rcases hx with ⟨rfl, rfl, _⟩ | ⟨rfl, rfl, _⟩ | ⟨rfl, rfl, _⟩ <;> simp_all
  case cases =>
    intro id sb hsb x hx y hy l _ _ _
    simp only [retrySwitch, recordsOf, Stmt.records, List.append_nil, List.cons_append,
      List.nil_append, List.mem_cons, Stmt.switch.injEq, reduceCtorEq, or_false,
      List.not_mem_nil] at hsb
    obtain ⟨-, rfl⟩ := hsb
    have hone : findCaseLabeledStmts retrySwitch.labels
      [.instr (.source 1) (.code true), .brk (.source 2)] = [.source 1] := by decide
    rw [hone] at hx hy
    rw [List.mem_singleton.mp hx, List.mem_singleton.mp hy]

theorem retrySwitch_cleaned :
    ∃ b', cleanLabels retrySwitch = .ok b' ∧ Cleaned retrySwitch b' := by
  have hwf : retrySwitch.WellFormed := by
    constructor
    · simp [retrySwitch, idsOf, Stmt.ids]
    · simp [retrySwitch, recordsOf, Stmt.records]
    · simp [retrySwitch, idsOf, Stmt.ids]
    · intro x hx
      refine List.eq_nil_iff_forall_not_mem.mpr fun l hl => hx ?_
      have hmem : ∀ p ∈ retryLabels, p.1 ∈ idsOf retrySwitch.stmts := by decide
      exact hmem _ (mem_retrySwitch_labels hl)
    · simp [retrySwitch, retryLabels, gotosOf, Stmt.gotos, idsOf, Stmt.ids]
  exact labels_cleaned retrySwitch hwf retrySwitch_distinct

/-- The label of the source stays, and `case 0` goes. -/
example : ((cleanLabels retrySwitch).toOption.map fun b => (idsOf b.stmts).map b.labels) =
    some [[], [.default], [], [.label "retry" true], [], []] := by
  decide

end SymDrive.Cil.Labels
