import SymDrive.Cil.FnPtrConversion

/-!
# Stubs for the functions of the kernel

The passes that put a stub in front of a function of the kernel: `pass_find_funcs_with_no_fundecs`
finds the functions, `pass_add_stubs` renames their records and makes the stubs,
`pass_add_orig_kernfn_protos` declares the original names again, and the bodies of the stubs call
them.  The prototypes that `pass_add_prepostfn` inserts in between are left out.

Here a file is also what its code mentions, because a renamed record is renamed wherever it is
mentioned.

`stubs_exactly_once_iff` — every such function gets one stub and one prototype, the driver mentions
it under the name of the stub, and only the stub calls it, if all of them are declared with their
arguments.  The declaration `int reset();`, as the one that CIL makes for a function without any,
lists none, and the passes give up on it.
-/

namespace SymDrive.Cil

open Checked

/-! ## The code of a driver -/

/-- A function that a body mentions: in a call `Call (_, Lval (Var vi, _), _)`, or otherwise. -/
inductive Use where
  | call (vi : Varinfo)
  | mention (vi : Varinfo)
  deriving DecidableEq, Repr

def Use.varinfo : Use → Varinfo
  | .call vi | .mention vi => vi

/-- The function that a use calls by its name. -/
def Use.called? : Use → Option Varinfo
  | .call vi => some vi
  | .mention _ => none

/-- A global with the functions that its code mentions. -/
inductive Code where
  | gVarDecl (vi : Varinfo)
  | gFun (svar : Varinfo) (body : List Use)
  | gVar (init : List Varinfo)
  deriving DecidableEq, Repr

/-- All functions that a global declares, defines or mentions. -/
def Code.varinfos : Code → List Varinfo
  | .gVarDecl vi => [vi]
  | .gFun svar body => svar :: body.map Use.varinfo
  | .gVar init => init

/-- What the passes see of the code. -/
def Code.global : Code → Global
  | .gVarDecl vi => .gVarDecl vi
  | .gFun svar body => .gFun svar ((body.filterMap Use.called?).map Varinfo.vname)
  | .gVar _ => .other

/-- A file as CIL hands it over: what has one name is one record. -/
structure DriverCode where
  code : List Code
  named : ∀ v ∈ code.flatMap Code.varinfos, ∀ w ∈ code.flatMap Code.varinfos,
    v.vname = w.vname → v = w
  shared : ∀ v ∈ code.flatMap Code.varinfos, ∀ w ∈ code.flatMap Code.varinfos,
    v.vid = w.vid → v = w

def DriverCode.globals (file : DriverCode) : List Global := file.code.map Code.global

/-- All variables that the code is about. -/
def DriverCode.varinfos (file : DriverCode) : List Varinfo := file.code.flatMap Code.varinfos

/-! ## The passes -/

def Use.renamed (vname : Varinfo → String) : Use → Use
  | .call vi => .call (vi.renamed vname)
  | .mention vi => .mention (vi.renamed vname)

/-- A renamed record is renamed wherever it is mentioned. -/
def Code.renamed (vname : Varinfo → String) : Code → Code
  | .gVarDecl vi => .gVarDecl (vi.renamed vname)
  | .gFun svar body => .gFun (svar.renamed vname) (body.map (Use.renamed vname))
  | .gVar init => .gVar (init.map (Varinfo.renamed vname))

/-- The driver with stubs: its code under the new names, all its globals, and the stubs. -/
structure StubbedFile where
  code : List Code
  globals : List Global
  stubs : List GenFun

/-- **The passes** in order: find the kernel functions, make their stubs under new names, declare
them again and generate the bodies. -/
def stubPasses (a : SplitArgs) (nonstubFns : List String) (file : List Code) :
    Except Fatal StubbedFile := do
  let funcsWithNoFundecs := findFuncsWithNoFundecs (file.map Code.global)
  let stubs ← addStubs nonstubFns funcsWithNoFundecs
  let code := file.map (Code.renamed stubs.vname)
  let globals := addOrigKernfnProtos (code.map Code.global)
  let newStubs ← genStubs a globals stubs.stubFuncs
  .ok { code := code, globals := globals, stubs := newStubs }

/-! ## The specification -/

/-- The functions that need a stub. -/
structure KernelFn (file : DriverCode) (nonstubFns : List String) (vi : Varinfo) : Prop where
  declared : .gVarDecl vi ∈ file.code
  noBody : ∀ body, .gFun vi body ∉ file.code
  called : ∃ svar body, .gFun svar body ∈ file.code ∧ .call vi ∈ body
  fixedArgs : ∃ argsopt, vi.vtype = .tFun argsopt false
  stubbed : vi.vname ∉ nonstubFns

/-- Whether a global is a declaration of this name. -/
def Global.declares (name : String) : Global → Bool
  | .gVarDecl vi => vi.vname = name
  | .gFun _ _ => false
  | .other => false

/-- The kernel function that generated code calls. -/
def GenInstr.kernelFn? : GenInstr → Option String
  | .runKernelFn kernelFunction => some kernelFunction
  | .genEnterDriver | .genExitDriver | .genConvertFn _ _ | .genLookupMJRcheck _ _
  | .callMJRcheck _ _ => none

/-- The functions of the kernel that a body calls. -/
def kernelCalls (body : List GenStmt) : List String :=
  body.flatMap fun s =>
    match s with
    | .instr i => i.kernelFn?.toList
    | .ifCallKernelFn is => is.filterMap GenInstr.kernelFn?

/-- **The specification** of the driver with stubs. -/
structure StubbedOnce (file : DriverCode) (nonstubFns : List String) (out : StubbedFile) :
    Prop where
  /-- One stub, and one prototype under the original name. -/
  stub : ∀ vi, KernelFn file nonstubFns vi →
    (out.stubs.map GenFun.vname).count (stubwrapperPrefix ++ vi.vname) = 1
  prototype : ∀ vi, KernelFn file nonstubFns vi → out.globals.countP (Global.declares vi.vname) = 1
  /-- The code of the driver is the same but for the names. -/
  uses : ∃ vname : Varinfo → String, out.code = file.code.map (Code.renamed vname) ∧
    ∀ vi ∈ file.varinfos,
      (KernelFn file nonstubFns vi → vname vi = stubwrapperPrefix ++ vi.vname) ∧
        (¬ KernelFn file nonstubFns vi → vname vi = vi.vname)
  /-- A stub calls its function once and no other, and nothing in the driver mentions it. -/
  body : ∀ b ∈ out.stubs, ∃ vi, KernelFn file nonstubFns vi ∧
    b.vname = stubwrapperPrefix ++ vi.vname ∧ kernelCalls b.body = [vi.vname]
  alone : ∀ vi, KernelFn file nonstubFns vi →
    ∀ w ∈ out.code.flatMap Code.varinfos, w.vname ≠ vi.vname
  others : ∀ vi ∈ file.varinfos, ¬ KernelFn file nonstubFns vi →
    stubwrapperPrefix ++ vi.vname ∉ out.stubs.map GenFun.vname

/-! ## Names -/

lemma containsPrefix_append (pre s : String) : containsPrefix (pre ++ s) pre = true := by
  rw [containsPrefix, String.toList_append]
  simp

lemma stripPrefixTry_append (pre s : String) : stripPrefixTry (pre ++ s) pre = s := by
  rw [stripPrefixTry, if_pos (containsPrefix_append pre s), String.toList_append, List.drop_left,
    String.ofList_toList]

lemma eq_append_of_containsPrefix {s pre : String} (h : containsPrefix s pre = true) :
    s = pre ++ stripPrefixTry s pre := by
  obtain ⟨rest, hrest⟩ := List.isPrefixOf_iff_prefix.mp h
  have hs : s = pre ++ String.ofList rest := by
    rw [← String.ofList_toList (s := s), ← hrest, String.ofList_append, String.ofList_toList]
  rw [hs, stripPrefixTry_append]

/-! ## The functions that are found -/

section

variable {file : DriverCode} {nonstubFns : List String} {vi w : Varinfo}

lemma mem_varinfos {c : Code} (hc : c ∈ file.code) (hvi : vi ∈ c.varinfos) : vi ∈ file.varinfos :=
  List.mem_flatMap.mpr ⟨c, hc, hvi⟩

/-- A declaration is one of a function. -/
lemma declaration?_gVarDecl {v : Varinfo} : Global.declaration? (.gVarDecl v) = some vi ↔
    v = vi ∧ vi.vtype ≠ .other := by
  rw [Global.declaration?]
  split
  · rename_i htype
    constructor
    · intro h
      obtain rfl := Option.some.inj h
      exact ⟨rfl, by simp [htype]⟩
    · rintro ⟨rfl, -⟩
      rfl
  · rename_i htype
    refine iff_of_false (by simp) ?_
    rintro ⟨rfl, hne⟩
    exact hne htype

lemma mem_declarations : vi ∈ file.globals.filterMap Global.declaration? ↔
    .gVarDecl vi ∈ file.code ∧ vi.vtype ≠ .other := by
  rw [DriverCode.globals, List.filterMap_map, List.mem_filterMap]
  constructor
  · rintro ⟨c, hc, hdecl⟩
    cases c with
    | gVarDecl v =>
        obtain ⟨rfl, htype⟩ := declaration?_gVarDecl.mp hdecl
        exact ⟨hc, htype⟩
    | gFun svar body => cases hdecl
    | gVar init => cases hdecl
  · rintro ⟨hc, htype⟩
    exact ⟨_, hc, declaration?_gVarDecl.mpr ⟨rfl, htype⟩⟩

/-- A function that is defined has a body in the code. -/
lemma mem_definitions : vi ∈ definitions file.globals ↔ ∃ body, .gFun vi body ∈ file.code := by
  rw [definitions, DriverCode.globals, List.filterMap_map, List.mem_filterMap]
  constructor
  · rintro ⟨c, hc, hdef⟩
    cases c with
    | gVarDecl v => cases hdef
    | gFun svar body =>
        obtain rfl := Option.some.inj hdef
        exact ⟨body, hc⟩
    | gVar init => cases hdef
  · rintro ⟨body, hc⟩
    exact ⟨_, hc, rfl⟩

/-- A function that is called is called in some body. -/
lemma mem_calls {name : String} : name ∈ file.globals.flatMap Global.calls ↔
    ∃ svar body w, .gFun svar body ∈ file.code ∧ .call w ∈ body ∧ w.vname = name := by
  rw [DriverCode.globals, List.flatMap_map, List.mem_flatMap]
  constructor
  · rintro ⟨c, hc, hcall⟩
    cases c with
    | gVarDecl v => cases hcall
    | gFun svar body =>
        obtain ⟨w, hw, hname⟩ := List.mem_map.mp hcall
        obtain ⟨u, hu, hcalled⟩ := List.mem_filterMap.mp hw
        cases u with
        | call v =>
            obtain rfl := Option.some.inj hcalled
            exact ⟨svar, body, v, hc, hu, hname⟩
        | mention v => cases hcalled
    | gVar init => cases hcall
  · rintro ⟨svar, body, w, hc, hcall, rfl⟩
    exact ⟨_, hc, List.mem_map_of_mem (List.mem_filterMap.mpr ⟨_, hcall, rfl⟩)⟩

/-- Names are as good as records. -/
lemma mem_findFuncs : vi ∈ findFuncsWithNoFundecs file.globals ↔
    .gVarDecl vi ∈ file.code ∧ vi.vtype ≠ .other ∧ (∀ body, .gFun vi body ∉ file.code) ∧
      ∃ svar body, .gFun svar body ∈ file.code ∧ .call vi ∈ body := by
  rw [findFuncsWithNoFundecs, List.mem_insertionSort, List.mem_filter, mem_declarations, and_assoc]
  refine and_congr_right fun hdecl => and_congr_right fun _ => ?_
  have hvi : vi ∈ file.varinfos := mem_varinfos hdecl (List.mem_singleton_self _)
  rw [decide_eq_true_eq, mem_calls]
  refine and_congr ?_ ?_
  · constructor
    · intro hname body hc
      exact hname (List.mem_map_of_mem (mem_definitions.mpr ⟨body, hc⟩))
    · intro hbody hname
      obtain ⟨w, hw, heq⟩ := List.mem_map.mp hname
      obtain ⟨body, hc⟩ := mem_definitions.mp hw
      obtain rfl := file.named w (mem_varinfos hc List.mem_cons_self) vi hvi heq
      exact hbody body hc
  · constructor
    · rintro ⟨svar, body, w, hc, hcall, heq⟩
      have hw : w ∈ file.varinfos :=
        mem_varinfos hc (List.mem_cons_of_mem _ (List.mem_map_of_mem hcall))
      obtain rfl := file.named w hw vi hvi heq
      exact ⟨svar, body, hc, hcall⟩
    · rintro ⟨svar, body, hc, hcall⟩
      exact ⟨svar, body, vi, hc, hcall, rfl⟩

/-! ## The stubs that are made -/

/-- A function type that lists its arguments. -/
def Typ.hasArgs : Typ → Bool
  | .tFun argsopt _ => argsopt.isSome
  | .other => false

/-- `gen_stub` handles the function. -/
def NeedsStub (nonstubFns : List String) (vi : Varinfo) : Prop :=
  (∃ argsopt, vi.vtype = .tFun argsopt false) ∧ vi.vname ∉ nonstubFns

/-- The stub for a function that has its original name. -/
def stub? (nonstubFns : List String) (vi : Varinfo) : Option Stub :=
  match vi.vtype with
  | .tFun (some fnPtrs) false =>
      if vi.vname ∈ nonstubFns then none
      else some { vname := stubwrapperPrefix ++ vi.vname, fnPtrs := fnPtrs }
  | _ => none

/-- A stub is named after its function. -/
lemma stub?_vname {s : Stub} (h : stub? nonstubFns vi = some s) :
    s.vname = stubwrapperPrefix ++ vi.vname := by
  rw [stub?] at h
  split at h
  · split_ifs at h
    cases h
    rfl
  · cases h

/-- There is a stub for what needs one, if its type lists the arguments. -/
lemma stub?_isSome : (stub? nonstubFns vi).isSome ↔
    NeedsStub nonstubFns vi ∧ vi.vtype.hasArgs := by
  rw [stub?, NeedsStub]
  cases vi.vtype with
  | tFun argsopt isvararg =>
      cases isvararg with
      | false => cases argsopt <;> by_cases hname : vi.vname ∈ nonstubFns <;>
          simp [hname, Typ.hasArgs]
      | true => simp
  | other => simp

/-- Functions with different names have stubs with different names. -/
lemma nodup_stubNames {vis : List Varinfo} (h : (vis.map Varinfo.vname).Nodup) :
    ((vis.filterMap (stub? nonstubFns)).map Stub.vname).Nodup := by
  induction vis with
  | nil => exact List.nodup_nil
  | cons v vis ih =>
      rw [List.map_cons, List.nodup_cons] at h
      rw [List.filterMap_cons]
      cases hs : stub? nonstubFns v with
      | none => exact ih h.2
      | some s =>
          refine List.nodup_cons.mpr ⟨fun hmem => h.1 ?_, ih h.2⟩
          obtain ⟨s', hs', hname⟩ := List.mem_map.mp hmem
          obtain ⟨v', hv', hstub⟩ := List.mem_filterMap.mp hs'
          rw [stub?_vname hs, stub?_vname hstub, String.append_right_inj] at hname
          rw [← hname]
          exact List.mem_map_of_mem hv'

/-- The state with the stub for `vi`, if it gets one. -/
def StubState.add (nonstubFns : List String) (st : StubState) (vi : Varinfo) : StubState :=
  match stub? nonstubFns vi with
  | some s => { vname := renameStub st.vname vi, stubFuncs := st.stubFuncs ++ [s] }
  | none => st

/-- **What `gen_stub` does** to a function that has its original name: a type without an argument
list is the one thing it cannot handle. -/
lemma genStub_eq_ok {st st' : StubState} (h : st.vname vi = vi.vname) (htype : vi.vtype ≠ .other) :
    genStub nonstubFns st vi = .ok st' ↔
      (NeedsStub nonstubFns vi → vi.vtype.hasArgs) ∧ st.add nonstubFns vi = st' := by
  rw [genStub, StubState.add, stub?, NeedsStub, h]
  cases htypes : vi.vtype with
  | tFun argsopt isvararg =>
      cases isvararg with
      | false =>
          by_cases hname : vi.vname ∈ nonstubFns
          · cases argsopt <;> simp [hname]
          · cases argsopt with
            | none => simp [hname, Typ.hasArgs, genEmptyStub]
            | some fnPtrs => simp [hname, Typ.hasArgs, genEmptyStub, renameStub, h]
      | true => simp
  | other => exact absurd htypes htype

/-- A renaming leaves the other records alone. -/
lemma renameStub_other {vname : Varinfo → String} (h : w.vid ≠ vi.vid) :
    renameStub vname vi w = vname w := if_neg h

/-- Adding a stub renames no other function. -/
lemma add_other {st : StubState} (h : w.vid ≠ vi.vid) :
    (st.add nonstubFns vi).vname w = st.vname w := by
  rw [StubState.add]
  split
  · exact renameStub_other h
  · rfl

lemma foldl_add_other (vis : List Varinfo) : ∀ {st : StubState},
    (∀ vi ∈ vis, w.vid ≠ vi.vid) →
      (vis.foldl (StubState.add nonstubFns) st).vname w = st.vname w := by
  induction vis with
  | nil => exact fun _ => rfl
  | cons vi vis ih =>
      intro st h
      rw [List.foldl_cons, ih fun v hv => h v (List.mem_cons_of_mem _ hv)]
      exact add_other (h vi List.mem_cons_self)

/-- **Each function is stubbed once**, whatever order they come in: the records differ, so none is
renamed before its turn, nor again after it. -/
lemma foldl_add (vis : List Varinfo) : ∀ {st : StubState},
    vis.Pairwise (fun v v' => v'.vid ≠ v.vid) → (∀ v ∈ vis, st.vname v = v.vname) →
      (vis.foldl (StubState.add nonstubFns) st).stubFuncs =
          st.stubFuncs ++ vis.filterMap (stub? nonstubFns) ∧
        ∀ v ∈ vis, (vis.foldl (StubState.add nonstubFns) st).vname v =
          if (stub? nonstubFns v).isSome then stubwrapperPrefix ++ v.vname else v.vname := by
  induction vis with
  | nil => exact fun _ _ => ⟨by simp, fun v hv => absurd hv List.not_mem_nil⟩
  | cons vi vis ih =>
      intro st hdistinct hnames
      obtain ⟨hvi, hvis⟩ := List.pairwise_cons.mp hdistinct
      have hname := hnames vi List.mem_cons_self
      have hnext : ∀ v ∈ vis, (st.add nonstubFns vi).vname v = v.vname := fun v hv =>
        (add_other (hvi v hv)).trans (hnames v (List.mem_cons_of_mem _ hv))
      obtain ⟨hfuncs, hrenamed⟩ := ih hvis hnext
      refine ⟨?_, ?_⟩
      · rw [List.foldl_cons, hfuncs, StubState.add, List.filterMap_cons]
        cases stub? nonstubFns vi with
        | none => rfl
        | some s => simp
      · intro v hv
        rcases List.mem_cons.mp hv with rfl | hv
        · rw [List.foldl_cons, foldl_add_other vis fun v' hv' => (hvi v' hv').symm, StubState.add]
          cases stub? nonstubFns v with
          | none => exact hname
          | some s => simp [renameStub, hname]
        · exact hrenamed v hv

/-- The pass gets through if every function that it handles lists its arguments. -/
lemma foldlM_genStub (vis : List Varinfo) : ∀ {st st' : StubState},
    vis.Pairwise (fun v v' => v'.vid ≠ v.vid) → (∀ v ∈ vis, st.vname v = v.vname) →
    (∀ v ∈ vis, v.vtype ≠ .other) →
      (vis.foldlM (genStub nonstubFns) st = .ok st' ↔
        (∀ v ∈ vis, NeedsStub nonstubFns v → v.vtype.hasArgs) ∧
          vis.foldl (StubState.add nonstubFns) st = st') := by
  induction vis with
  | nil =>
      intro st st' _ _ _
      rw [List.foldlM_nil, List.foldl_nil]
      simp [pure, Except.pure]
  | cons vi vis ih =>
      intro st st' hdistinct hnames htypes
      obtain ⟨hvi, hvis⟩ := List.pairwise_cons.mp hdistinct
      have hnext : ∀ v ∈ vis, (st.add nonstubFns vi).vname v = v.vname := fun v hv =>
        (add_other (hvi v hv)).trans (hnames v (List.mem_cons_of_mem _ hv))
      have hih := @ih (st.add nonstubFns vi) st' hvis hnext fun v hv =>
        htypes v (List.mem_cons_of_mem _ hv)
      rw [List.foldlM_cons, bind_eq_ok, List.forall_mem_cons, List.foldl_cons, and_assoc, ← hih]
      constructor
      · rintro ⟨st₁, hst₁, hrest⟩
        obtain ⟨hargs, rfl⟩ := (genStub_eq_ok (hnames vi List.mem_cons_self)
          (htypes vi List.mem_cons_self)).mp hst₁
        exact ⟨hargs, hrest⟩
      · rintro ⟨hargs, hrest⟩
        exact ⟨_, (genStub_eq_ok (hnames vi List.mem_cons_self)
          (htypes vi List.mem_cons_self)).mpr ⟨hargs, rfl⟩, hrest⟩

end

section

variable {file : DriverCode} {nonstubFns : List String} {vi w : Varinfo}

/-- What counts as a kernel function: it is called, has no body, and is no exception. -/
lemma kernelFn_iff : KernelFn file nonstubFns vi ↔
    vi ∈ findFuncsWithNoFundecs file.globals ∧ NeedsStub nonstubFns vi := by
  rw [mem_findFuncs, NeedsStub]
  constructor
  · rintro ⟨hdecl, hbody, hcalled, ⟨argsopt, htype⟩, hname⟩
    exact ⟨⟨hdecl, by simp [htype], hbody, hcalled⟩, ⟨argsopt, htype⟩, hname⟩
  · rintro ⟨⟨hdecl, _, hbody, hcalled⟩, htype, hname⟩
    exact ⟨hdecl, hbody, hcalled, htype, hname⟩

lemma findFuncs_subset : findFuncsWithNoFundecs file.globals ⊆ file.varinfos := fun _ h =>
  mem_varinfos (mem_findFuncs.mp h).1 (List.mem_singleton_self _)

section

variable (hargs : ∀ vi, KernelFn file nonstubFns vi → vi.vtype.hasArgs)

include hargs

lemma stub?_isSome_of_hasArgs (hfound : vi ∈ findFuncsWithNoFundecs file.globals) :
    (stub? nonstubFns vi).isSome ↔ KernelFn file nonstubFns vi := by
  rw [stub?_isSome, kernelFn_iff]
  exact ⟨fun h => ⟨hfound, h.1⟩, fun h => ⟨h.2, hargs vi (kernelFn_iff.mpr h)⟩⟩

/-- A stub is made for every function of the kernel, and for no other. -/
lemma mem_stubNames {name : String} :
    name ∈ ((findFuncsWithNoFundecs file.globals).filterMap (stub? nonstubFns)).map Stub.vname ↔
      ∃ vi, KernelFn file nonstubFns vi ∧ name = stubwrapperPrefix ++ vi.vname := by
  constructor
  · intro hname
    obtain ⟨s, hs, rfl⟩ := List.mem_map.mp hname
    obtain ⟨vi, hfound, hstub⟩ := List.mem_filterMap.mp hs
    exact ⟨vi, (stub?_isSome_of_hasArgs hargs hfound).mp (by rw [hstub]; rfl), stub?_vname hstub⟩
  · rintro ⟨vi, hvi, rfl⟩
    have hfound := (kernelFn_iff.mp hvi).1
    obtain ⟨s, hs⟩ := Option.isSome_iff_exists.mp ((stub?_isSome_of_hasArgs hargs hfound).mpr hvi)
    rw [← stub?_vname hs]
    exact List.mem_map_of_mem (List.mem_filterMap.mpr ⟨vi, hfound, hs⟩)

end

variable (hdecl : ((file.globals.filterMap Global.declaration?).map Varinfo.vname).Nodup)

include hdecl

/-- No function is found twice. -/
lemma nodup_findFuncs : ((findFuncsWithNoFundecs file.globals).map Varinfo.vname).Nodup := by
  rw [findFuncsWithNoFundecs, ((List.perm_insertionSort _ _).map _).nodup_iff]
  exact (List.filter_sublist.map _).nodup hdecl

lemma pairwise_findFuncs :
    (findFuncsWithNoFundecs file.globals).Pairwise fun v v' => v'.vid ≠ v.vid := by
  have hnames := List.pairwise_map.mp (nodup_findFuncs hdecl)
  refine hnames.imp_of_mem fun hv hv' hne hvid => hne ?_
  rw [file.shared _ (findFuncs_subset hv') _ (findFuncs_subset hv) hvid]

/-- **When `pass_add_stubs` gets through**, and what it makes of the functions. -/
lemma addStubs_eq_ok {stubs : StubState} :
    addStubs nonstubFns (findFuncsWithNoFundecs file.globals) = .ok stubs ↔
      (∀ vi, KernelFn file nonstubFns vi → vi.vtype.hasArgs) ∧
        (findFuncsWithNoFundecs file.globals).foldl (StubState.add nonstubFns)
          { vname := Varinfo.vname, stubFuncs := [] } = stubs := by
  rw [addStubs, foldlM_genStub _ (pairwise_findFuncs hdecl) (fun _ _ => rfl)
    fun v hv => (mem_findFuncs.mp hv).2.1]
  refine and_congr_left fun _ => ?_
  constructor
  · intro h vi hvi
    obtain ⟨hfound, hneeds⟩ := kernelFn_iff.mp hvi
    exact h vi hfound hneeds
  · intro h vi hfound hneeds
    exact h vi (kernelFn_iff.mpr ⟨hfound, hneeds⟩)

variable {stubs : StubState}
  (hstubs : addStubs nonstubFns (findFuncsWithNoFundecs file.globals) = .ok stubs)

include hstubs

/-- The names after `pass_add_stubs`. -/
lemma vname_addStubs (hw : w ∈ file.varinfos) :
    (KernelFn file nonstubFns w → stubs.vname w = stubwrapperPrefix ++ w.vname) ∧
      (¬ KernelFn file nonstubFns w → stubs.vname w = w.vname) := by
  obtain ⟨hargs, rfl⟩ := (addStubs_eq_ok hdecl).mp hstubs
  have hfold := @foldl_add nonstubFns (findFuncsWithNoFundecs file.globals)
    { vname := Varinfo.vname, stubFuncs := [] } (pairwise_findFuncs hdecl) (fun _ _ => rfl)
  by_cases hfound : w ∈ findFuncsWithNoFundecs file.globals
  · rw [hfold.2 w hfound]
    have hiff := stub?_isSome_of_hasArgs hargs hfound
    exact ⟨fun h => if_pos (hiff.mpr h), fun h => if_neg (mt hiff.mp h)⟩
  · refine ⟨fun h => absurd (kernelFn_iff.mp h).1 hfound, fun _ => ?_⟩
    refine foldl_add_other _ fun v hv hvid => hfound ?_
    rwa [file.shared w hw v (findFuncs_subset hv) hvid]

/-- The stubs are those of the functions found, in order. -/
lemma stubFuncs_addStubs :
    stubs.stubFuncs = (findFuncsWithNoFundecs file.globals).filterMap (stub? nonstubFns) := by
  obtain ⟨-, rfl⟩ := (addStubs_eq_ok hdecl).mp hstubs
  exact (@foldl_add nonstubFns (findFuncsWithNoFundecs file.globals)
    { vname := Varinfo.vname, stubFuncs := [] } (pairwise_findFuncs hdecl) (fun _ _ => rfl)).1

end

/-! ## The prototypes that are added -/

/-- A declaration of a stub brings a declaration of the original name with it. -/
lemma countP_addOrigKernfnProtos {name : String}
    (hname : containsPrefix name stubwrapperPrefix = false) (globals : List Global) :
    (addOrigKernfnProtos globals).countP (Global.declares name) =
      globals.countP (Global.declares name) +
        globals.countP (Global.declares (stubwrapperPrefix ++ name)) := by
  induction globals with
  | nil => rfl
  | cons g globals ih =>
      rw [addOrigKernfnProtos] at ih ⊢
      rw [List.flatMap_cons, List.countP_append, ih, List.countP_cons, List.countP_cons]
      cases g with
      | gVarDecl vi =>
          by_cases hpre : containsPrefix vi.vname stubwrapperPrefix
          · obtain hvi := eq_append_of_containsPrefix hpre
            have hne : vi.vname ≠ name := by
              rintro rfl
              rw [hname] at hpre
              cases hpre
            have hiff : (stripPrefixTry vi.vname stubwrapperPrefix = name) ↔
                vi.vname = stubwrapperPrefix ++ name := by
              rw [hvi, stripPrefixTry_append, String.append_right_inj]
            simp [Global.origKernfnProto?, hpre, Global.declares, hne, hiff, List.countP_cons]
            omega
          · have hne : vi.vname ≠ stubwrapperPrefix ++ name := by
              intro heq
              rw [heq] at hpre
              exact hpre (containsPrefix_append _ _)
            simp [Global.origKernfnProto?, hpre, Global.declares, hne, List.countP_cons]
            omega
      | gFun svar calls => simp [Global.origKernfnProto?, Global.declares]
      | other => simp [Global.origKernfnProto?, Global.declares]

/-- A declaration after the renaming. -/
lemma declares_renamed (vname : Varinfo → String) (name : String) (c : Code) :
    (c.renamed vname).global.declares name = true ↔ ∃ vi, c = .gVarDecl vi ∧ vname vi = name := by
  cases c with
  | gVarDecl vi => simp [Code.renamed, Code.global, Global.declares, Varinfo.renamed]
  | gFun svar body => simp [Code.renamed, Code.global, Global.declares]
  | gVar init => simp [Code.renamed, Code.global, Global.declares]

lemma mem_varinfos_renamed {code : List Code} {vname : Varinfo → String} {w : Varinfo}
    (hw : w ∈ (code.map (Code.renamed vname)).flatMap Code.varinfos) :
    ∃ v ∈ code.flatMap Code.varinfos, w = v.renamed vname := by
  rw [List.flatMap_map] at hw
  obtain ⟨c, hc, hw⟩ := List.mem_flatMap.mp hw
  have hrenamed : (c.renamed vname).varinfos = c.varinfos.map (Varinfo.renamed vname) := by
    cases c with
    | gVarDecl vi => rfl
    | gFun svar body =>
        simp only [Code.renamed, Code.varinfos, List.map_map, List.map_cons]
        refine congrArg (List.cons _) (List.map_congr_left fun u _ => ?_)
        cases u <;> rfl
    | gVar init => rfl
  rw [hrenamed] at hw
  obtain ⟨v, hv, rfl⟩ := List.mem_map.mp hw
  exact ⟨v, List.mem_flatMap.mpr ⟨c, hc, hv⟩, rfl⟩

/-! ## The bodies of the stubs -/

lemma kernelCalls_append (b b' : List GenStmt) :
    kernelCalls (b ++ b') = kernelCalls b ++ kernelCalls b' := List.flatMap_append

lemma kernelCalls_map_instr (is : List GenInstr) :
    kernelCalls (is.map .instr) = is.filterMap GenInstr.kernelFn? := by
  induction is with
  | nil => rfl
  | cons i is ih =>
      rw [List.map_cons, ← List.singleton_append, kernelCalls_append, ih, List.filterMap_cons]
      cases h : i.kernelFn? with
      | none => simp [kernelCalls, h]
      | some fn => simp [kernelCalls, h]

/-- The calls of check routines call no function of the kernel. -/
lemma kernelFn?_genTfCall {a : SplitArgs} {f prepostfnOrig : String} {condition : ℕ} :
    (genTfCall a f prepostfnOrig condition).filterMap GenInstr.kernelFn? = [] := by
  unfold genTfCall runMJRcheckFn
  split_ifs <;> rfl

/-- The conversions call no kernel function. -/
lemma kernelFn?_stubFnPtrConversion {a : SplitArgs} {s : Stub} :
    (stubFnPtrConversion a s).filterMap GenInstr.kernelFn? = [] := by
  unfold stubFnPtrConversion
  split_ifs
  · rw [List.filterMap_map]
    exact List.filterMap_eq_nil_iff.mpr fun _ _ => rfl
  · rfl

/-- The body of a stub, if its function is declared. -/
lemma genStubBody_eq {a : SplitArgs} {globals : List Global} {name : String} {s : Stub}
    (hs : s.vname = stubwrapperPrefix ++ name)
    (hdecl : 0 < globals.countP (Global.declares name)) :
    ∃ body, genStubBody a globals s = .ok body ∧ kernelCalls body = [name] := by
  have hstrip : stripPrefix s.vname stubwrapperPrefix = .ok name := by
    rw [hs]
    exact Splitter.stripPrefix_stubwrapper name
  have hkallsym : getKallsymGivenName globals name = .ok name := by
    obtain ⟨g, hg, hdeclares⟩ := List.countP_pos_iff.mp hdecl
    rw [getKallsymGivenName, if_pos]
    refine List.any_eq_true.mpr ⟨g, hg, ?_⟩
    cases g with
    | gVarDecl vi => exact hdeclares
    | gFun svar calls => cases hdeclares
    | other => cases hdeclares
  rw [genStubBody]
  refine ⟨_, bind_eq_ok.mpr ⟨name, hstrip, bind_eq_ok.mpr ⟨name, hkallsym, rfl⟩⟩, ?_⟩
  rw [kernelCalls_append, kernelCalls_map_instr, List.filterMap_append,
    kernelFn?_stubFnPtrConversion, kernelFn?_genTfCall]
  have hmain : ([GenInstr.genExitDriver, GenInstr.runKernelFn name] ++ genTfCall a s.vname "0" 1 ++
      [GenInstr.genEnterDriver]).filterMap GenInstr.kernelFn? = [name] := by
    rw [List.filterMap_append, List.filterMap_append, kernelFn?_genTfCall]
    rfl
  split_ifs with hflag
  · exact (List.append_nil _).trans hmain
  · rw [kernelCalls_map_instr]
    exact hmain

/-- Stubs for functions that are declared have bodies, each of which calls its own function. -/
lemma genStubs_eq {a : SplitArgs} {globals : List Global} {stubFuncs : List Stub}
    (hstubs : ∀ s ∈ stubFuncs, ∃ name, s.vname = stubwrapperPrefix ++ name ∧
      0 < globals.countP (Global.declares name)) :
    ∃ gs, genStubs a globals stubFuncs = .ok gs ∧
      ∀ b ∈ gs, ∃ name, b.vname = stubwrapperPrefix ++ name ∧ kernelCalls b.body = [name] := by
  have hbody : ∀ s ∈ stubFuncs, ∃ name, s.vname = stubwrapperPrefix ++ name ∧
      ∃ body, genStubBody a globals s = .ok body ∧ kernelCalls body = [name] := by
    intro s hs
    obtain ⟨name, hname, hpos⟩ := hstubs s hs
    exact ⟨name, hname, genStubBody_eq hname hpos⟩
  obtain ⟨gs, hgs⟩ : ∃ gs, genStubs a globals stubFuncs = .ok gs := by
    refine exists_mapM fun s hs => ?_
    obtain ⟨_, _, body, hok, _⟩ := hbody s hs
    exact ⟨⟨s.vname, body⟩, by rw [hok]; rfl⟩
  refine ⟨gs, hgs, fun b hb => ?_⟩
  obtain ⟨s, hs, hmap⟩ := mem_mapM hgs hb
  obtain ⟨body, hok, rfl⟩ := map_eq_ok.mp hmap
  obtain ⟨name, hname, body', hok', hcalls⟩ := hbody s hs
  obtain rfl := Except.ok.inj (hok.symm.trans hok')
  exact ⟨name, hname, hcalls⟩

/-! ## The whole of it -/

section

variable {file : DriverCode} {nonstubFns : List String}

/-- A name is declared as often as the source does. -/
lemma countP_declares_globals (hdecl : ((file.globals.filterMap Global.declaration?).map
    Varinfo.vname).Nodup) {vi : Varinfo} (hvi : KernelFn file nonstubFns vi) :
    file.globals.countP (Global.declares vi.vname) = 1 := by
  have hmem : vi ∈ file.globals.filterMap Global.declaration? := by
    obtain ⟨argsopt, htype⟩ := hvi.fixedArgs
    exact mem_declarations.mpr ⟨hvi.declared, by simp [htype]⟩
  have hcount := List.count_eq_one_of_mem hdecl (List.mem_map_of_mem hmem)
  rw [List.count_eq_countP, List.countP_map, List.countP_filterMap] at hcount
  rw [← hcount]
  refine List.countP_congr fun g hg => ?_
  obtain ⟨c, hc, rfl⟩ := List.mem_map.mp hg
  cases c with
  | gVarDecl v =>
      have hv : v.vname = vi.vname → v = vi :=
        file.named v (mem_varinfos hc (List.mem_singleton_self _)) vi
          (mem_varinfos hvi.declared (List.mem_singleton_self _))
      obtain ⟨argsopt, htype⟩ := hvi.fixedArgs
      have hiff : (v.vname = vi.vname) ↔ ∃ x, Global.declaration? (.gVarDecl v) = some x ∧
          x.vname = vi.vname := by
        constructor
        · intro hname
          obtain rfl := hv hname
          exact ⟨v, declaration?_gVarDecl.mpr ⟨rfl, by simp [htype]⟩, rfl⟩
        · rintro ⟨x, hx, hname⟩
          obtain ⟨rfl, -⟩ := declaration?_gVarDecl.mp hx
          exact hname
      cases hd : Global.declaration? (.gVarDecl v) with
      | none => simpa [Code.global, Global.declares, hd] using hiff
      | some x => simpa [Code.global, Global.declares, hd] using hiff
  | gFun svar body => simp [Code.global, Global.declares, Global.declaration?]
  | gVar init => simp [Code.global, Global.declares, Global.declaration?]

section

variable {vname : Varinfo → String} {vi w : Varinfo}
  (hfresh : ∀ vi ∈ file.varinfos, containsPrefix vi.vname stubwrapperPrefix = false)
  (hvname : ∀ vi ∈ file.varinfos,
    (KernelFn file nonstubFns vi → vname vi = stubwrapperPrefix ++ vi.vname) ∧
      (¬ KernelFn file nonstubFns vi → vname vi = vi.vname))

include hfresh hvname

/-- No record has the original name any more. -/
lemma vname_ne (hvi : KernelFn file nonstubFns vi) (hw : w ∈ file.varinfos) :
    vname w ≠ vi.vname := by
  have hmem : vi ∈ file.varinfos := mem_varinfos hvi.declared (List.mem_singleton_self _)
  by_cases hk : KernelFn file nonstubFns w
  · rw [(hvname w hw).1 hk]
    intro heq
    have hcontains := hfresh vi hmem
    rw [← heq, containsPrefix_append] at hcontains
    cases hcontains
  · rw [(hvname w hw).2 hk]
    intro heq
    obtain rfl := file.named w hw vi hmem heq
    exact hk hvi

/-- The name of the stub is the name of the one record. -/
lemma vname_eq_stub_iff (hvi : KernelFn file nonstubFns vi) (hw : w ∈ file.varinfos) :
    vname w = stubwrapperPrefix ++ vi.vname ↔ w.vname = vi.vname := by
  have hmem : vi ∈ file.varinfos := mem_varinfos hvi.declared (List.mem_singleton_self _)
  constructor
  · intro heq
    by_cases hk : KernelFn file nonstubFns w
    · rw [(hvname w hw).1 hk, String.append_right_inj] at heq
      exact heq
    · have hcontains := hfresh w hw
      rw [← (hvname w hw).2 hk, heq, containsPrefix_append] at hcontains
      cases hcontains
  · intro heq
    obtain rfl := file.named w hw vi hmem heq
    exact (hvname w hw).1 hvi

/-- **One prototype** under the original name. -/
lemma countP_declares_out (hdecl : ((file.globals.filterMap Global.declaration?).map
    Varinfo.vname).Nodup) (hvi : KernelFn file nonstubFns vi) :
    (addOrigKernfnProtos ((file.code.map (Code.renamed vname)).map Code.global)).countP
      (Global.declares vi.vname) = 1 := by
  have hmem : vi ∈ file.varinfos := mem_varinfos hvi.declared (List.mem_singleton_self _)
  have hnone : ((file.code.map (Code.renamed vname)).map Code.global).countP
      (Global.declares vi.vname) = 0 := by
    rw [List.map_map, List.countP_map, List.countP_eq_zero]
    intro c hc hdeclares
    obtain ⟨w, rfl, hname⟩ := (declares_renamed vname vi.vname c).mp hdeclares
    exact vname_ne hfresh hvname hvi (mem_varinfos hc (List.mem_singleton_self _)) hname
  have hone : ((file.code.map (Code.renamed vname)).map Code.global).countP
      (Global.declares (stubwrapperPrefix ++ vi.vname)) =
        file.globals.countP (Global.declares vi.vname) := by
    rw [DriverCode.globals, List.map_map, List.countP_map, List.countP_map]
    refine List.countP_congr fun c hc => ?_
    rw [Function.comp_apply, Function.comp_apply, Function.comp_apply, declares_renamed]
    cases c with
    | gVarDecl w =>
        have hiff := vname_eq_stub_iff hfresh hvname hvi
          (mem_varinfos hc (List.mem_singleton_self w))
        simpa [Code.global, Global.declares] using hiff
    | gFun svar body => simp [Code.global, Global.declares]
    | gVar init => simp [Code.global, Global.declares]
  rw [countP_addOrigKernfnProtos (hfresh vi hmem), hnone, hone, Nat.zero_add]
  exact countP_declares_globals hdecl hvi

end

/-- **Stubs, exactly once**, where every function that needs one lists its arguments. -/
lemma exists_stubbedOnce (a : SplitArgs)
    (hdecl : ((file.globals.filterMap Global.declaration?).map Varinfo.vname).Nodup)
    (hfresh : ∀ vi ∈ file.varinfos, containsPrefix vi.vname stubwrapperPrefix = false)
    (hargs : ∀ vi, KernelFn file nonstubFns vi → vi.vtype.hasArgs) :
    ∃ out, stubPasses a nonstubFns file.code = .ok out ∧ StubbedOnce file nonstubFns out := by
  obtain ⟨stubs, hstubs⟩ : ∃ stubs,
      addStubs nonstubFns (findFuncsWithNoFundecs file.globals) = .ok stubs :=
    ⟨_, (addStubs_eq_ok hdecl).mpr ⟨hargs, rfl⟩⟩
  have hfuncs := stubFuncs_addStubs hdecl hstubs
  have hvname := fun w (hw : w ∈ file.varinfos) => vname_addStubs hdecl hstubs hw
  have hone := fun vi => @countP_declares_out file nonstubFns stubs.vname vi hfresh hvname hdecl
  generalize hglobals : addOrigKernfnProtos ((file.code.map (Code.renamed stubs.vname)).map
    Code.global) = globals at hone
  have hdeclared : ∀ s ∈ stubs.stubFuncs, ∃ name, s.vname = stubwrapperPrefix ++ name ∧
      0 < globals.countP (Global.declares name) := by
    intro s hs
    rw [hfuncs] at hs
    obtain ⟨vi, hvi, hname⟩ := (mem_stubNames hargs).mp (List.mem_map_of_mem hs)
    exact ⟨vi.vname, hname, by rw [hone vi hvi]; exact Nat.one_pos⟩
  obtain ⟨newStubs, hnew, hcalls⟩ := @genStubs_eq a globals stubs.stubFuncs hdeclared
  have hnames : newStubs.map GenFun.vname =
      ((findFuncsWithNoFundecs file.globals).filterMap (stub? nonstubFns)).map Stub.vname := by
    rw [(genStubs_inv hnew).1, hfuncs]
  refine ⟨⟨file.code.map (Code.renamed stubs.vname), globals, newStubs⟩, ?_, ?_⟩
  · rw [stubPasses]
    refine bind_eq_ok.mpr ⟨stubs, hstubs, bind_eq_ok.mpr ⟨newStubs, ?_, by rw [hglobals]⟩⟩
    rw [hglobals]
    exact hnew
  · refine ⟨fun vi hvi => ?_, hone, ⟨stubs.vname, rfl, hvname⟩, fun b hb => ?_,
      fun vi hvi w hw => ?_, fun vi hvi hnot hname => hnot ?_⟩
    · have hmem := (mem_stubNames hargs).mpr ⟨vi, hvi, rfl⟩
      rw [← hnames] at hmem
      refine List.count_eq_one_of_mem ?_ hmem
      rw [hnames]
      exact nodup_stubNames (nodup_findFuncs hdecl)
    · have hmem : b.vname ∈ newStubs.map GenFun.vname := List.mem_map_of_mem hb
      rw [hnames] at hmem
      obtain ⟨vi, hvi, hname⟩ := (mem_stubNames hargs).mp hmem
      obtain ⟨name, hname', hbody⟩ := hcalls b hb
      rw [hname, String.append_right_inj] at hname'
      exact ⟨vi, hvi, hname, by rw [hbody, hname']⟩
    · obtain ⟨v, hv, rfl⟩ := mem_varinfos_renamed hw
      have hne : stubs.vname v ≠ vi.vname := vname_ne hfresh hvname hvi hv
      exact hne
    · have hname' : stubwrapperPrefix ++ vi.vname ∈ newStubs.map GenFun.vname := hname
      rw [hnames] at hname'
      obtain ⟨w, hw, heq⟩ := (mem_stubNames hargs).mp hname'
      rw [String.append_right_inj] at heq
      rwa [file.named vi hvi w (mem_varinfos hw.declared (List.mem_singleton_self _)) heq]

end

/-- **Exactly where stubs are made, each once**, in a file with at most one declaration of each
function and without names that begin like a stub's. -/
theorem stubs_exactly_once_iff (a : SplitArgs) (nonstubFns : List String) (file : DriverCode)
    (hdecl : ((file.globals.filterMap Global.declaration?).map Varinfo.vname).Nodup)
    (hfresh : ∀ vi ∈ file.varinfos, containsPrefix vi.vname stubwrapperPrefix = false) :
    (∃ out, stubPasses a nonstubFns file.code = .ok out ∧ StubbedOnce file nonstubFns out) ↔
      ∀ vi, KernelFn file nonstubFns vi → vi.vtype.hasArgs := by
  constructor
  · rintro ⟨out, hout, -⟩
    obtain ⟨stubs, hstubs, -⟩ := bind_eq_ok.mp hout
    exact ((addStubs_eq_ok hdecl).mp hstubs).1
  · exact exists_stubbedOnce a hdecl hfresh

/-- `void *kmalloc(int); int printk(char *, ...);` and a driver that calls both. -/
def probeFile : DriverCode where
  code := [.gVarDecl ⟨.source 0, "kmalloc", .tFun (some []) false⟩,
    .gVarDecl ⟨.source 1, "printk", .tFun (some []) true⟩,
    .gVar [⟨.source 0, "kmalloc", .tFun (some []) false⟩],
    .gFun ⟨.source 2, "probe", .tFun (some []) false⟩
      [.call ⟨.source 0, "kmalloc", .tFun (some []) false⟩,
        .call ⟨.source 1, "printk", .tFun (some []) true⟩]]
  named := by decide
  shared := by decide

/-- A driver with one entry that calls two kernel functions. -/
theorem stubs_exactly_once_iff_probe : ∃ out,
    stubPasses ⟨fun _ => none, true⟩ ["memcpy"] probeFile.code = .ok out ∧
      StubbedOnce probeFile ["memcpy"] out := by
  refine (stubs_exactly_once_iff ⟨fun _ => none, true⟩ ["memcpy"] probeFile (by decide)
    (by decide)).mpr fun vi hvi => ?_
  have htypes : ∀ v ∈ probeFile.varinfos, v.vtype.hasArgs := by decide
  exact htypes vi (mem_varinfos hvi.declared (List.mem_singleton_self _))

/-- `int reset();` and a driver that calls it. -/
def resetFile : DriverCode where
  code := [.gVarDecl ⟨.source 0, "reset", .tFun none false⟩,
    .gFun ⟨.source 1, "probe", .tFun (some []) false⟩
      [.call ⟨.source 0, "reset", .tFun none false⟩]]
  named := by decide
  shared := by decide

/-- Where a function is declared without its arguments, no file comes out. -/
theorem unlisted_arguments_fail : ¬ ∀ (a : SplitArgs) (nonstubFns : List String)
    (file : DriverCode),
    ((file.globals.filterMap Global.declaration?).map Varinfo.vname).Nodup →
    (∀ vi ∈ file.varinfos, containsPrefix vi.vname stubwrapperPrefix = false) →
      ∃ out, stubPasses a nonstubFns file.code = .ok out ∧ StubbedOnce file nonstubFns out := by
  intro h
  obtain ⟨out, hout, -⟩ := h ⟨fun _ => none, true⟩ [] resetFile (by decide) (by decide)
  have hfatal : stubPasses ⟨fun _ => none, true⟩ [] resetFile.code =
      .error "Function that's a problem 2: stubwrapper_reset" := rfl
  rw [hfatal] at hout
  cases hout

/-! ## In the whole generator -/

section

variable {a : SplitArgs} {s : Stub} {body body' : List GenStmt} {globals globals' : List Global}

/-- A body does not depend on where the prototype is found. -/
lemma genStubBody_unique (h : genStubBody a globals s = .ok body)
    (h' : genStubBody a globals' s = .ok body') : body = body' := by
  have hfound : ∀ {gs : List Global} {name fn : String}, getKallsymGivenName gs name = .ok fn →
      fn = name := by
    intro gs name fn hfn
    rw [getKallsymGivenName] at hfn
    split_ifs at hfn
    cases hfn
    rfl
  obtain ⟨name, hname, hrest⟩ := bind_eq_ok.mp h
  obtain ⟨fn, hfn, hbody⟩ := bind_eq_ok.mp hrest
  obtain ⟨name', hname', hrest'⟩ := bind_eq_ok.mp h'
  obtain ⟨fn', hfn', hbody'⟩ := bind_eq_ok.mp hrest'
  rw [hfound hfn, Except.ok.inj (hname.symm.trans hname'), ← hfound hfn'] at hbody
  exact Except.ok.inj (hbody.symm.trans hbody')

/-- The stubs do not depend on the other globals. -/
lemma genStubs_unique {stubFuncs : List Stub} : ∀ {gs gs' : List GenFun},
    genStubs a globals stubFuncs = .ok gs → genStubs a globals' stubFuncs = .ok gs' → gs = gs' := by
  induction stubFuncs with
  | nil =>
      intro gs gs' h h'
      cases h
      cases h'
      rfl
  | cons s stubFuncs ih =>
      intro gs gs' h h'
      rw [genStubs, List.mapM_cons] at h h'
      obtain ⟨b, hb, h⟩ := bind_eq_ok.mp h
      obtain ⟨bs, hbs, h⟩ := bind_eq_ok.mp h
      obtain ⟨b', hb', h'⟩ := bind_eq_ok.mp h'
      obtain ⟨bs', hbs', h'⟩ := bind_eq_ok.mp h'
      obtain ⟨body, hbody, rfl⟩ := map_eq_ok.mp hb
      obtain ⟨body', hbody', rfl⟩ := map_eq_ok.mp hb'
      obtain rfl := genStubBody_unique hbody hbody'
      obtain rfl := ih hbs hbs'
      exact Except.ok.inj (h.symm.trans h')

end

/-- The stubs of the instrumented driver are the stubs of these passes: the prototypes that
`pass_add_prepostfn` inserts make no difference to them. -/
theorem doSplitting_stubs {a : SplitArgs} {nonstubFns : List String} {file : List Code}
    {g : SplitFile} {out : StubbedFile}
    (h : doSplitting a nonstubFns (file.map Code.global) = .ok g)
    (h' : stubPasses a nonstubFns file = .ok out) : g.stubs = out.stubs := by
  rw [doSplitting] at h
  dsimp only at h
  obtain ⟨prepost, -, h⟩ := bind_eq_ok.mp h
  obtain ⟨stubs, hmade, h⟩ := bind_eq_ok.mp h
  obtain ⟨registerAll, -, h⟩ := bind_eq_ok.mp h
  obtain ⟨newPrepostfns, -, h⟩ := bind_eq_ok.mp h
  obtain ⟨newStubs, hstubs, h⟩ := bind_eq_ok.mp h
  rw [stubPasses] at h'
  obtain ⟨stubs', hmade', h'⟩ := bind_eq_ok.mp h'
  obtain rfl := Except.ok.inj (hmade.symm.trans hmade')
  obtain ⟨newStubs', hstubs', h'⟩ := bind_eq_ok.mp h'
  cases h
  cases h'
  exact genStubs_unique hstubs hstubs'

end SymDrive.Cil
