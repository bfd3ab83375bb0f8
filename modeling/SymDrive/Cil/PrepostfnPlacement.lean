import SymDrive.Cil.DriverFile

/-!
# Where the pairs of `prefn` and `postfn` go

`pass_add_prepostfn` visits the functions of the driver.  For each of them it makes a pair of
functions, puts their prototypes in front of the first declaration of the function, and adds the
pair to one list and the function to another.  Later the two lists are gone through in parallel.

`add_prepostfn_aligned` — the lists fit together, and the prototypes are where they belong, if no
function of the driver has a name that the pass makes.  Where one has, the search for its first
declaration finds the prototype of that name (`taken_name_misplaced`).
-/

namespace SymDrive.Cil

open Checked

/-! ## The file -/

/-- The function or variable that a global declares or defines. -/
def Global.varinfo? : Global → Option Varinfo
  | .gVarDecl vi => some vi
  | .gFun svar _ => some svar
  | .other => none

def Global.vname? (g : Global) : Option String := g.varinfo?.map Varinfo.vname

/-- A file as CIL hands it over: one record for each name, one definition for each function. -/
structure CilFile where
  globals : List Global
  shared : ∀ v ∈ globals.filterMap Global.varinfo?, ∀ w ∈ globals.filterMap Global.varinfo?,
    v.vname = w.vname → v = w
  definedOnce : ((definitions globals).map Varinfo.vname).Nodup
  function : ∀ svar ∈ definitions globals, svar.vtype ≠ .other

/-- No function of the driver has the name of a `prefn` or a `postfn` of another one. -/
def CilFile.NamesFree (file : CilFile) (nonstubFns : List String) : Prop :=
  ∀ f ∈ definitions file.globals, ∀ h ∈ definitions file.globals, h.vname ∉ nonstubFns →
    f.vname ≠ (createPrepostfn h).prefn ∧ f.vname ≠ (createPrepostfn h).postfn

/-! ## The specification -/

def Prepostfn.protos (p : Prepostfn) : List Global := [prototype p.prefn, prototype p.postfn]

/-- The prototypes of the pair for `f` stand directly in front of the first declaration or
definition of `f`. -/
def Placed (globals : List Global) (f : Varinfo) : Prop :=
  ∃ front g back, globals = front ++ ((createPrepostfn f).protos ++ g :: back) ∧
    g.vname? = some f.vname ∧ ∀ x ∈ front, x.vname? ≠ some f.vname

/-- **The specification**: the lists are aligned and complete, the prototypes are placed, and
nothing else is changed. -/
structure Aligned (file : CilFile) (nonstubFns : List String) (st : PrepostfnState) : Prop where
  length : st.prepostfnFuncs.length = st.nonPrepostfnFuncs.length
  paired : ∀ (i : ℕ) (p : Prepostfn) (f : Varinfo), st.prepostfnFuncs[i]? = some p →
    st.nonPrepostfnFuncs[i]? = some f →
      p.prefn = prefnPrefix ++ f.vname ∧ p.postfn = postfnPrefix ++ f.vname
  registered : mkRegisterAllPrepostfnStmts st.prepostfnFuncs st.nonPrepostfnFuncs =
    .ok (st.nonPrepostfnFuncs.map fun f =>
      { wrapperFn := prefnPrefix ++ f.vname, driverFn := f.vname,
        wrapperFnStr := prefnPrefix ++ f.vname, driverFnStr := f.vname })
  placed : ∀ f ∈ st.nonPrepostfnFuncs, Placed st.globals f
  covered : ∀ svar ∈ definitions file.globals,
    st.nonPrepostfnFuncs.count svar = if svar.vname ∈ nonstubFns then 0 else 1
  order : file.globals.Sublist st.globals
  protos : st.globals.Perm (st.prepostfnFuncs.flatMap Prepostfn.protos ++ file.globals)

/-! ## One insertion -/

section

variable {name : String} {f h : Varinfo} {g : Global} {front back globals : List Global}

lemma createPrepostfn_eq (heq : f.vname = h.vname) : createPrepostfn f = createPrepostfn h := by
  rw [createPrepostfn, createPrepostfn, heq]

/-- The prototypes go in front of the first declaration or definition. -/
lemma insertPrepostfnProto_eq (hg : g.vname? = some f.vname)
    (hfront : ∀ x ∈ front, x.vname? ≠ some f.vname)
    (hfun : ∀ v, g = .gVarDecl v → v.vtype ≠ .other) :
    insertPrepostfnProto f.vname (front ++ g :: back) =
      .ok (front ++ ((createPrepostfn f).protos ++ g :: back), [createPrepostfn f]) := by
  induction front with
  | nil =>
      cases g with
      | gVarDecl v =>
          have hname : v.vname = f.vname := Option.some.inj hg
          rw [List.nil_append, insertPrepostfnProto, if_pos hname]
          cases htype : v.vtype with
          | tFun argsopt isvararg =>
              simp only [setupPrepostfn, createPrepostfn_eq hname]
              rfl
          | other => exact absurd htype (hfun v rfl)
      | gFun svar calls =>
          have hname : svar.vname = f.vname := Option.some.inj hg
          rw [List.nil_append, insertPrepostfnProto, if_pos hname, setupPrepostfn,
            createPrepostfn_eq hname]
          rfl
      | other => cases hg
  | cons x front ih =>
      have hx := hfront x List.mem_cons_self
      have htail := ih fun y hy => hfront y (List.mem_cons_of_mem _ hy)
      cases x with
      | gVarDecl v =>
          rw [List.cons_append, insertPrepostfnProto, if_neg fun hv => hx (congrArg some hv), htail]
          rfl
      | gFun svar calls =>
          rw [List.cons_append, insertPrepostfnProto, if_neg fun hv => hx (congrArg some hv), htail]
          rfl
      | other =>
          rw [List.cons_append, insertPrepostfnProto, htail]
          rfl

/-- A declaration or definition is first somewhere. -/
lemma exists_first (hg : g ∈ globals) (hname : g.vname? = some name) :
    ∃ front g' back, globals = front ++ g' :: back ∧ g'.vname? = some name ∧
      ∀ x ∈ front, x.vname? ≠ some name := by
  have hsome : (globals.find? fun x => x.vname? = some name).isSome :=
    List.find?_isSome.mpr ⟨g, hg, by simpa using hname⟩
  obtain ⟨g', hfind⟩ := Option.isSome_iff_exists.mp hsome
  obtain ⟨hg', front, back, heq, hfront⟩ := List.find?_eq_some_iff_append.mp hfind
  exact ⟨front, g', back, heq, by simpa using hg', fun x hx => by simpa using hfront x hx⟩

lemma vname?_protos {p : Prepostfn} {x : Global} (hx : x ∈ p.protos) :
    x.vname? = some p.prefn ∨ x.vname? = some p.postfn := by
  rcases List.mem_cons.mp hx with rfl | hx
  · exact Or.inl rfl
  · obtain rfl := List.mem_singleton.mp hx
    exact Or.inr rfl

/-- **Frame**: what is inserted for another function stands in front of the pair for `f`, or behind
the declaration that the pair belongs to. -/
lemma Placed.insert (hplaced : Placed (front ++ g :: back) f) (hg : g.vname? = some h.vname)
    (hne : f.vname ≠ h.vname) (hf : ∀ x ∈ (createPrepostfn f).protos, x.vname? ≠ some h.vname)
    (hh : ∀ x ∈ (createPrepostfn h).protos, x.vname? ≠ some f.vname) :
    Placed (front ++ ((createPrepostfn h).protos ++ g :: back)) f := by
  obtain ⟨front', g', back', heq, hg', hfront'⟩ := hplaced
  have hproto : ∀ x ∈ (createPrepostfn f).protos, g ≠ x := by
    rintro x hx rfl
    exact hf g hx hg
  rcases List.append_eq_append_iff.mp heq with ⟨mid, rfl, hmid⟩ | ⟨mid, rfl, hmid⟩
  · -- in front of the pair
    cases mid with
    | nil => exact absurd (List.cons.inj hmid).1 (hproto _ List.mem_cons_self)
    | cons x mid =>
        obtain ⟨rfl, rfl⟩ := List.cons.inj hmid
        refine ⟨front ++ ((createPrepostfn h).protos ++ g :: mid), g', back', by simp, hg', ?_⟩
        intro x hx
        rcases List.mem_append.mp hx with hx | hx
        · exact hfront' x (List.mem_append_left _ hx)
        · rcases List.mem_append.mp hx with hx | hx
          · exact hh x hx
          · exact hfront' x (List.mem_append_right _ hx)
  · -- behind it
    rw [Prepostfn.protos, List.cons_append, List.cons_append, List.nil_append] at hmid
    rcases mid with _ | ⟨x, _ | ⟨y, _ | ⟨z, mid⟩⟩⟩
    · exact absurd (List.cons.inj hmid).1.symm (hproto _ List.mem_cons_self)
    · have htail := (List.cons.inj hmid).2
      exact absurd (List.cons.inj htail).1.symm
        (hproto _ (List.mem_cons_of_mem _ List.mem_cons_self))
    · have htail := (List.cons.inj (List.cons.inj hmid).2).2
      rw [(List.cons.inj htail).1] at hg'
      exact absurd (Option.some.inj (hg'.symm.trans hg)) hne
    · simp only [List.cons_append, List.cons.injEq] at hmid
      obtain ⟨rfl, rfl, rfl, rfl⟩ := hmid
      exact ⟨front', g', mid ++ ((createPrepostfn h).protos ++ g :: back),
        by simp [Prepostfn.protos], hg', hfront'⟩

end

/-! ## The visit of the file -/

section

variable {file : CilFile} {nonstubFns : List String} {st : PrepostfnState} {svar : Varinfo}
  {done : List Varinfo}

lemma mem_varinfos_of_definition (h : svar ∈ definitions file.globals) :
    ∃ g ∈ file.globals, g.varinfo? = some svar := by
  obtain ⟨g, hg, hdef⟩ := List.mem_filterMap.mp h
  refine ⟨g, hg, ?_⟩
  cases g with
  | gVarDecl vi => cases hdef
  | gFun svar' calls => exact hdef
  | other => cases hdef

/-- What holds when the functions `done` have been visited. -/
structure Inserted (file : CilFile) (nonstubFns : List String) (done : List Varinfo)
    (st : PrepostfnState) : Prop where
  funcs : st.nonPrepostfnFuncs = (done.filter fun svar => svar.vname ∉ nonstubFns).reverse
  pairs : st.prepostfnFuncs = st.nonPrepostfnFuncs.map createPrepostfn
  placed : ∀ f ∈ st.nonPrepostfnFuncs, Placed st.globals f
  order : file.globals.Sublist st.globals
  protos : st.globals.Perm (st.prepostfnFuncs.flatMap Prepostfn.protos ++ file.globals)

/-- A function of the driver is never found under another type. -/
lemma Inserted.type_ne_other (h : Inserted file nonstubFns done st)
    (hsvar : svar ∈ definitions file.globals) {v : Varinfo} (hv : .gVarDecl v ∈ st.globals)
    (hname : v.vname = svar.vname) : v.vtype ≠ .other := by
  rcases List.mem_append.mp (h.protos.subset hv) with hproto | hfile
  · obtain ⟨p, _, hp⟩ := List.mem_flatMap.mp hproto
    simp only [Prepostfn.protos, prototype, List.mem_cons, Global.gVarDecl.injEq,
      List.not_mem_nil, or_false] at hp
    rcases hp with rfl | rfl
    · exact fun hother => by cases hother
    · exact fun hother => by cases hother
  · obtain ⟨g, hg, hvarinfo⟩ := mem_varinfos_of_definition hsvar
    obtain rfl := file.shared v (List.mem_filterMap.mpr ⟨_, hfile, rfl⟩) svar
      (List.mem_filterMap.mpr ⟨g, hg, hvarinfo⟩) hname
    exact file.function v hsvar

/-- One visit. -/
lemma Inserted.vfunc (h : Inserted file nonstubFns done st) (hfree : file.NamesFree nonstubFns)
    (hsvar : svar ∈ definitions file.globals) (hdone : done ⊆ definitions file.globals)
    (hnew : ∀ f ∈ done, f.vname ≠ svar.vname) :
    ∃ st', SymDrive.Cil.vfunc nonstubFns st svar = .ok st' ∧
      Inserted file nonstubFns (done ++ [svar]) st' := by
  rw [SymDrive.Cil.vfunc]
  by_cases hskip : svar.vname ∈ nonstubFns
  · rw [if_pos hskip]
    exact ⟨st, rfl, { h with funcs := by simpa [hskip] using h.funcs }⟩
  rw [if_neg hskip]
  obtain ⟨g₀, hg₀, hvarinfo⟩ := mem_varinfos_of_definition hsvar
  obtain ⟨front, g, back, hglobals, hg, hfront⟩ :=
    exists_first (h.order.subset hg₀) (show g₀.vname? = some svar.vname by
      rw [Global.vname?, hvarinfo]; rfl)
  have hfun : ∀ v, g = .gVarDecl v → v.vtype ≠ .other := by
    rintro v rfl
    exact h.type_ne_other hsvar (by rw [hglobals]; simp) (Option.some.inj hg)
  rw [hglobals, insertPrepostfnProto_eq hg hfront hfun]
  refine ⟨_, rfl, ?_⟩
  refine ⟨by simp [h.funcs, hskip], by simp [h.pairs], ?_, ?_, ?_⟩
  · intro f hf
    rcases List.mem_cons.mp hf with rfl | hf
    · exact ⟨front, g, back, rfl, hg, hfront⟩
    · have hmem : f ∈ done ∧ f.vname ∉ nonstubFns := by simpa [h.funcs] using hf
      obtain ⟨hprefn, hpostfn⟩ := hfree svar hsvar f (hdone hmem.1) hmem.2
      obtain ⟨hprefn', hpostfn'⟩ := hfree f (hdone hmem.1) svar hsvar hskip
      refine Placed.insert (hglobals ▸ h.placed f hf) hg (hnew f hmem.1) ?_ ?_
      · intro x hx
        rcases vname?_protos hx with hx | hx
        · exact fun heq => hprefn (Option.some.inj (heq.symm.trans hx))
        · exact fun heq => hpostfn (Option.some.inj (heq.symm.trans hx))
      · intro x hx
        rcases vname?_protos hx with hx | hx
        · exact fun heq => hprefn' (Option.some.inj (heq.symm.trans hx))
        · exact fun heq => hpostfn' (Option.some.inj (heq.symm.trans hx))
  · refine (hglobals ▸ h.order).trans ?_
    exact (List.sublist_append_right _ _).append_left front
  · have hperm : (front ++ ((createPrepostfn svar).protos ++ g :: back)).Perm
        ((createPrepostfn svar).protos ++ (front ++ g :: back)) := by
      rw [← List.append_assoc, ← List.append_assoc]
      exact List.perm_append_comm.append_right _
    rw [List.flatMap_append, List.append_assoc]
    exact hperm.trans ((hglobals ▸ h.protos).append_left _)

/-- The functions that are still to be visited. -/
lemma Inserted.run (hfree : file.NamesFree nonstubFns) (svars : List Varinfo) :
    ∀ {done : List Varinfo} {st : PrepostfnState}, done ++ svars = definitions file.globals →
      Inserted file nonstubFns done st →
        ∃ st', svars.foldlM (SymDrive.Cil.vfunc nonstubFns) st = .ok st' ∧
          Inserted file nonstubFns (definitions file.globals) st' := by
  induction svars with
  | nil =>
      intro done st hdone h
      rw [List.append_nil] at hdone
      exact ⟨st, rfl, hdone ▸ h⟩
  | cons svar svars ih =>
      intro done st hdone h
      have hnodup := file.definedOnce
      rw [← hdone, List.map_append, List.map_cons, List.nodup_append] at hnodup
      have hsvar : svar ∈ definitions file.globals := by
        rw [← hdone]
        simp
      obtain ⟨st₁, hst₁, h₁⟩ := h.vfunc hfree hsvar
        (by rw [← hdone]; exact List.subset_append_left _ _)
        (fun f hf => hnodup.2.2 _ (List.mem_map_of_mem hf) _ List.mem_cons_self)
      obtain ⟨st', hst', h'⟩ := ih (by rw [List.append_assoc]; exact hdone) h₁
      refine ⟨st', ?_, h'⟩
      rw [List.foldlM_cons, hst₁]
      exact hst'

lemma map2_map_left {α β γ : Type} (f : α → β → γ) (k : β → α) (l : List β) :
    map2 f (l.map k) l = .ok (l.map fun x => f (k x) x) := by
  induction l with
  | nil => rfl
  | cons x l ih =>
      rw [List.map_cons, map2, ih]
      rfl

end

/-- **The pairs are aligned** in every file in which no function has the name of a `prefn` or a
`postfn`. -/
theorem add_prepostfn_aligned (file : CilFile) (nonstubFns : List String)
    (hfree : file.NamesFree nonstubFns) :
    ∃ st, addPrepostfn nonstubFns file.globals = .ok st ∧ Aligned file nonstubFns st := by
  have hinit : Inserted file nonstubFns []
      { globals := file.globals, prepostfnFuncs := [], nonPrepostfnFuncs := [] } :=
    ⟨rfl, rfl, by simp, List.Sublist.refl _, List.Perm.refl _⟩
  obtain ⟨st, hst, h⟩ := Inserted.run hfree (definitions file.globals) rfl hinit
  refine ⟨st, hst, ⟨?_, ?_, ?_, h.placed, ?_, h.order, h.protos⟩⟩
  · rw [h.pairs, List.length_map]
  · intro i p f hp hf
    rw [h.pairs, List.getElem?_map, hf] at hp
    cases hp
    exact ⟨rfl, rfl⟩
  · rw [mkRegisterAllPrepostfnStmts, h.pairs, List.map_map]
    exact map2_map_left _ _ _
  · intro svar hsvar
    have hnodup : (definitions file.globals).Nodup := file.definedOnce.of_map
    rw [h.funcs, List.count_reverse]
    split_ifs with hskip
    · rw [List.count_eq_zero]
      simp [hskip]
    · rw [List.count_filter (by simpa using hskip)]
      exact List.count_eq_one_of_mem hnodup hsvar

/-- A driver that declares `rx` before it defines it, behind `tx`. -/
def rxFile : CilFile where
  globals := [.gVarDecl ⟨.source 1, "rx", .tFun (some []) false⟩,
    .gFun ⟨.source 0, "tx", .tFun (some []) false⟩ [],
    .gFun ⟨.source 1, "rx", .tFun (some []) false⟩ ["tx"]]
  shared := by decide
  definedOnce := by decide
  function := by decide

theorem add_prepostfn_aligned_rx :
    ∃ st, addPrepostfn [] rxFile.globals = .ok st ∧ Aligned rxFile [] st :=
  add_prepostfn_aligned rxFile [] (by rw [CilFile.NamesFree]; decide)

/-- A driver with a function `postfn_tx` besides `tx`. -/
def takenFile : CilFile where
  globals := [.gFun ⟨.source 0, "tx", .tFun (some []) false⟩ [],
    .gFun ⟨.source 1, "postfn_tx", .tFun (some []) false⟩ []]
  shared := by decide
  definedOnce := by decide
  function := by decide

def takenFileResult : PrepostfnState where
  globals := [prototype "prefn_tx", prototype "prefn_postfn_tx", prototype "postfn_postfn_tx",
    prototype "postfn_tx", .gFun ⟨.source 0, "tx", .tFun (some []) false⟩ [],
    .gFun ⟨.source 1, "postfn_tx", .tFun (some []) false⟩ []]
  prepostfnFuncs := [⟨"prefn_postfn_tx", "postfn_postfn_tx"⟩, ⟨"prefn_tx", "postfn_tx"⟩]
  nonPrepostfnFuncs := [⟨.source 1, "postfn_tx", .tFun (some []) false⟩,
    ⟨.source 0, "tx", .tFun (some []) false⟩]

/-- The second function is found in the prototype of the pair for the first. -/
theorem taken_name_misplaced :
    ¬ ∃ st, addPrepostfn [] takenFile.globals = .ok st ∧ Aligned takenFile [] st := by
  rintro ⟨st, hst, h⟩
  have hrun : addPrepostfn [] takenFile.globals = .ok takenFileResult := rfl
  obtain rfl := Except.ok.inj (hrun.symm.trans hst)
  have hinfix : (createPrepostfn ⟨.source 0, "tx", .tFun (some []) false⟩).protos <:+:
      takenFileResult.globals := by
    obtain ⟨front, g, back, hglobals, -, -⟩ :=
      h.placed ⟨.source 0, "tx", .tFun (some []) false⟩ (by decide)
    exact ⟨front, g :: back, by rw [hglobals, List.append_assoc]⟩
  exact absurd hinfix (by decide)

end SymDrive.Cil
