import SymDrive.Cil.GeneratedCode

/-!
# Conversion of function pointers in stubs

`stub_convert_arg` of `splitter_dri.ml` walks the type of an argument of a stub and generates a call
of `gen_convert_fn` for every function pointer that it finds, through the fields of structures and
through pointers to them.
-/

namespace SymDrive.Cil.Splitter

/-! ## The generator -/

/-- `gen_convert_fn`, which replaces a function pointer by that of its wrapper. -/
def convertFn : Varinfo := ⟨"gen_convert_fn", .tFun .tVoid none false, true⟩

section

variable (comps : ℕ → Compinfo) (fname paramName : String)

/-- The conversion of one function pointer, with the names for its wrapper. -/
def stubMkConvertFn (convertLval : Lval) (str1 str2 : String) : Stmt :=
  let convertArg1 := Exp.castE (.tPtr voidPtrType) (mkAddrOrStartOf convertLval)
  let convertArg2 := Exp.str (stubwrapperPrefix ++ fname)
  mkCallStmt none (expifyVarinfo convertFn) [convertArg1, convertArg2, .str str1, .str str2]

/-- The first string of a conversion.  The name of a stub begins with `stubwrapper_prefix`, so that
`strip_prefix` gives the name of the kernel function (`stripPrefix_stubwrapper`). -/
def ciStr : Option Compinfo → String
  | some ci => ci.cname
  | none => fname

def fiStr : Option Fieldinfo → String
  | some fi => fi.fname
  | none => paramName

/-- `stub_convert_arg` in the stub of the kernel function `fname`. -/
def stubConvertArg (curLv : Lval) (curT : Typ) (ciOption : Option Compinfo)
    (fiOption : Option Fieldinfo) (depth : ℕ) : List Stmt :=
  if depth < 7 then
    match curT with
    | .tPtr (.tFun ret args vargs) =>
        stubConvertArg curLv (.tFun ret args vargs) ciOption fiOption (depth + 1)
    | .tPtr (.tNamed _ (.tFun ret args vargs)) =>
        stubConvertArg curLv (.tFun ret args vargs) ciOption fiOption (depth + 1)
    | .tPtr (.tNamed tname ttype) =>
        let newLv := mkMem (expifyLval curLv)
        stubConvertArg newLv (.tNamed tname ttype) ciOption fiOption (depth + 1)
    | .tPtr (.tPtr _) => []
    | .tPtr t =>
        let newExp := expifyLval curLv
        let newLv := mkMem newExp
        let stmts := stubConvertArg newLv t ciOption fiOption (depth + 1)
        if 0 < stmts.length then [mkIfStmt (.neZero newExp) stmts []] else []
    | .tNamed _ newTyp => stubConvertArg curLv newTyp ciOption fiOption depth
    | .tFun _ _ _ =>
        if containsPrefix (ciStr fname ciOption) "__anonstruct____" then []
        else [stubMkConvertFn fname curLv (ciStr fname ciOption) (fiStr paramName fiOption)]
    | .tComp ckey =>
        (comps ckey).cfields.flatMap fun fi =>
          stubConvertArg (addFieldToLval curLv fi) fi.ftype (some (comps ckey)) (some fi)
            (depth + 1)
    | _ => []
  else []
termination_by (7 - depth, sizeOf curT)

end

/-- The conversions of all formals, with the test framework. -/
def stubFnPtrConversion (gTestFramework : Bool) (comps : ℕ → Compinfo) (fname : String)
    (sformals : List Varinfo) : List Stmt :=
  if gTestFramework then
    sformals.flatMap fun vi =>
      stubConvertArg comps fname vi.vname (lvalifyVarinfo vi) vi.vtype none none 0
  else []

lemma stripPrefix_stubwrapper (fname : String) :
    stripPrefix (stubwrapperPrefix ++ fname) stubwrapperPrefix = .ok fname := by
  have hprefix : containsPrefix (stubwrapperPrefix ++ fname) stubwrapperPrefix = true := by
    rw [containsPrefix, String.toList_append]
    simp
  rw [stripPrefix, if_pos hprefix, String.toList_append, List.drop_left, String.ofList_toList]

/-! ## Routes through a type -/

/-- One step of the walk. -/
inductive TypeStep where
  /-- From a pointer to a function, or to the name of a function type, to the function. -/
  | fnPtr
  /-- Through a pointer to another typedef name. -/
  | namedPtr
  /-- Through a pointer to a structure. -/
  | compPtr
  | typedef
  | field
  deriving DecidableEq, Repr

/-- Whether a step follows a pointer. -/
def TypeStep.derefs : TypeStep → Bool
  | .namedPtr => true
  | .compPtr => true
  | .fnPtr => false
  | .typedef => false
  | .field => false

def Typ.isFun : Typ → Bool
  | .tFun _ _ _ => true
  | _ => false

/-- A route from a type to a function that is converted.  The structure that was entered last gives
the conversion its first string. -/
inductive Route (comps : ℕ → Compinfo) (fname : String) :
    Option Compinfo → Typ → List TypeStep → Prop where
  | here {ci ret args vargs} : containsPrefix (ciStr fname ci) "__anonstruct____" = false →
      Route comps fname ci (.tFun ret args vargs) []
  | fnPtr {ci t r} : t.isFun → Route comps fname ci t r →
      Route comps fname ci (.tPtr t) (.fnPtr :: r)
  | fnNamedPtr {ci tname t r} : t.isFun → Route comps fname ci t r →
      Route comps fname ci (.tPtr (.tNamed tname t)) (.fnPtr :: r)
  | namedPtr {ci tname t r} : ¬ t.isFun → Route comps fname ci (.tNamed tname t) r →
      Route comps fname ci (.tPtr (.tNamed tname t)) (.namedPtr :: r)
  | compPtr {ci ckey r} : Route comps fname ci (.tComp ckey) r →
      Route comps fname ci (.tPtr (.tComp ckey)) (.compPtr :: r)
  | typedef {ci tname t r} : Route comps fname ci t r →
      Route comps fname ci (.tNamed tname t) (.typedef :: r)
  | field {ci ckey fi r} : fi ∈ (comps ckey).cfields →
      Route comps fname (some (comps ckey)) fi.ftype r →
      Route comps fname ci (.tComp ckey) (.field :: r)

lemma Route.ofFun {comps : ℕ → Compinfo} {fname : String} {ci : Option Compinfo} {t : Typ}
    (ht : t.isFun) (hanon : containsPrefix (ciStr fname ci) "__anonstruct____" = false) :
    Route comps fname ci t [] := by
  cases t with
  | tFun ret args vargs => exact .here hanon
  | _ => simp [Typ.isFun] at ht

/-- Typedefs are free. -/
def routeDepth (r : List TypeStep) : ℕ := r.countP (· ≠ .typedef)

/-- The route goes on through another pointer after a pointer to a typedef name. -/
def Untested (r : List TypeStep) : Prop :=
  ∃ front back, r = front ++ .namedPtr :: back ∧ back.any TypeStep.derefs

/-- A step in front does not add a test. -/
lemma Untested.cons {r : List TypeStep} (h : Untested r) (s : TypeStep) : Untested (s :: r) := by
  obtain ⟨front, back, rfl, hback⟩ := h
  exact ⟨s :: front, back, rfl, hback⟩

lemma untested_namedPtr {r : List TypeStep} (h : r.any TypeStep.derefs) :
    Untested (.namedPtr :: r) := ⟨[], r, rfl, h⟩

/-! ## One lemma for each step -/

section

variable {comps : ℕ → Compinfo} {fname paramName : String} {lv : Lval} {ci : Option Compinfo}
  {fi : Option Fieldinfo} {depth : ℕ}

/-- The walk stops at the depth of seven. -/
lemma stubConvertArg_deep {t : Typ} (h : ¬ depth < 7) :
    stubConvertArg comps fname paramName lv t ci fi depth = [] := by
  rw [stubConvertArg.eq_def, if_neg h]

/-- A pointer to a function is the function pointer itself. -/
lemma stubConvertArg_fnPtr {t : Typ} (ht : t.isFun) (h : depth < 7) :
    stubConvertArg comps fname paramName lv (.tPtr t) ci fi depth =
      stubConvertArg comps fname paramName lv t ci fi (depth + 1) := by
  cases t with
  | tFun ret args vargs => rw [stubConvertArg.eq_def, if_pos h]
  | _ => simp [Typ.isFun] at ht

lemma stubConvertArg_fnNamedPtr {tname : String} {t : Typ} (ht : t.isFun) (h : depth < 7) :
    stubConvertArg comps fname paramName lv (.tPtr (.tNamed tname t)) ci fi depth =
      stubConvertArg comps fname paramName lv t ci fi (depth + 1) := by
  cases t with
  | tFun ret args vargs => rw [stubConvertArg.eq_def, if_pos h]
  | _ => simp [Typ.isFun] at ht

/-- A pointer to a named type is followed without a test. -/
lemma stubConvertArg_namedPtr {tname : String} {t : Typ} (ht : ¬ t.isFun) (h : depth < 7) :
    stubConvertArg comps fname paramName lv (.tPtr (.tNamed tname t)) ci fi depth =
      stubConvertArg comps fname paramName (.mem (.lval lv)) (.tNamed tname t) ci fi
        (depth + 1) := by
  cases t with
  | tFun ret args vargs => simp [Typ.isFun] at ht
  | _ =>
      rw [stubConvertArg.eq_def, if_pos h]
      rfl

/-- A pointer to a structure is tested before it is followed. -/
lemma stubConvertArg_compPtr {ckey : ℕ} (h : depth < 7) :
    stubConvertArg comps fname paramName lv (.tPtr (.tComp ckey)) ci fi depth =
      let stmts := stubConvertArg comps fname paramName (.mem (.lval lv)) (.tComp ckey) ci fi
        (depth + 1)
      if 0 < stmts.length then [.ifStmt (.neZero (.lval lv)) stmts []] else [] := by
  rw [stubConvertArg.eq_def, if_pos h]
  rfl

/-- A typedef is looked through and does not count. -/
lemma stubConvertArg_named {tname : String} {t : Typ} :
    stubConvertArg comps fname paramName lv (.tNamed tname t) ci fi depth =
      stubConvertArg comps fname paramName lv t ci fi depth := by
  by_cases h : depth < 7
  · rw [stubConvertArg.eq_def, if_pos h]
  · rw [stubConvertArg_deep h, stubConvertArg_deep h]

/-- A function pointer is converted, unless it is a field of an anonymous structure. -/
lemma stubConvertArg_fun {ret : Typ} {args : Option (List (String × Typ))} {vargs : Bool}
    (h : depth < 7) : stubConvertArg comps fname paramName lv (.tFun ret args vargs) ci fi depth =
      if containsPrefix (ciStr fname ci) "__anonstruct____" then []
      else [stubMkConvertFn fname lv (ciStr fname ci) (fiStr paramName fi)] := by
  rw [stubConvertArg.eq_def, if_pos h]

lemma stubConvertArg_isFun {t : Typ} (ht : t.isFun) (h : depth < 7) :
    stubConvertArg comps fname paramName lv t ci fi depth =
      if containsPrefix (ciStr fname ci) "__anonstruct____" then []
      else [stubMkConvertFn fname lv (ciStr fname ci) (fiStr paramName fi)] := by
  cases t with
  | tFun ret args vargs => exact stubConvertArg_fun h
  | _ => simp [Typ.isFun] at ht

/-- All fields of a structure are walked through. -/
lemma stubConvertArg_comp {ckey : ℕ} (h : depth < 7) :
    stubConvertArg comps fname paramName lv (.tComp ckey) ci fi depth =
      (comps ckey).cfields.flatMap fun fi => stubConvertArg comps fname paramName (.field lv fi)
        fi.ftype (some (comps ckey)) (some fi) (depth + 1) := by
  rw [stubConvertArg.eq_def, if_pos h]
  rfl

/-- The types that no route leads on from. -/
def Typ.isScalar : Typ → Bool
  | .tVoid | .tInt _ | .tFloat _ | .tArray _ _ | .tEnum _ | .tBuiltinVaList => true
  | _ => false

/-- There is nothing to convert in a scalar. -/
lemma stubConvertArg_scalar {t : Typ} (ht : t.isScalar) :
    stubConvertArg comps fname paramName lv t ci fi depth = [] := by
  rw [stubConvertArg.eq_def]
  cases t with
  | tPtr t | tFun ret args vargs | tNamed tname t | tComp ckey => simp [Typ.isScalar] at ht
  | _ => exact ite_self []

lemma stubConvertArg_scalarPtr {t : Typ} (ht : t.isScalar) :
    stubConvertArg comps fname paramName lv (.tPtr t) ci fi depth = [] := by
  by_cases h : depth < 7
  · rw [stubConvertArg.eq_def, if_pos h]
    cases t with
    | tPtr t | tFun ret args vargs | tNamed tname t | tComp ckey => simp [Typ.isScalar] at ht
    | _ => simp [stubConvertArg_scalar ht]
  · exact stubConvertArg_deep h

/-- A pointer to a pointer is not followed. -/
lemma stubConvertArg_ptrPtr {t : Typ} :
    stubConvertArg comps fname paramName lv (.tPtr (.tPtr t)) ci fi depth = [] := by
  rw [stubConvertArg.eq_def]
  exact ite_self []

end

/-- Induction along the walk: over the type and the depth that is reached. -/
@[elab_as_elim]
theorem walkInduct (comps : ℕ → Compinfo) {P : Typ → ℕ → Prop}
    (nothing : ∀ t depth, (∀ fname paramName lv ci fi,
      stubConvertArg comps fname paramName lv t ci fi depth = []) → P t depth)
    (function : ∀ t depth, t.isFun → depth < 7 → P t depth)
    (typedef : ∀ tname t depth, P t depth → P (.tNamed tname t) depth)
    (comp : ∀ ckey depth, depth < 7 →
      (∀ fi ∈ (comps ckey).cfields, P fi.ftype (depth + 1)) → P (.tComp ckey) depth)
    (compPtr : ∀ ckey depth, depth < 7 → P (.tComp ckey) (depth + 1) →
      P (.tPtr (.tComp ckey)) depth)
    (fnPtr : ∀ t depth, t.isFun → depth < 7 → P t (depth + 1) → P (.tPtr t) depth)
    (fnNamedPtr : ∀ tname t depth, t.isFun → depth < 7 → P t (depth + 1) →
      P (.tPtr (.tNamed tname t)) depth)
    (namedPtr : ∀ tname t depth, ¬ t.isFun → depth < 7 → P (.tNamed tname t) (depth + 1) →
      P (.tPtr (.tNamed tname t)) depth)
    (t : Typ) (depth : ℕ) : P t depth := by
  induction hroom : 7 - depth using Nat.strong_induction_on generalizing t depth with
  | _ room ih =>
      by_cases h : depth < 7
      swap
      · exact nothing t depth fun _ _ _ _ _ => stubConvertArg_deep h
      have deeper : ∀ t, P t (depth + 1) := fun t =>
        ih (7 - (depth + 1)) (by omega) t (depth + 1) rfl
      -- a typedef leaves the depth as it is
      induction t using unrollType.induct with
      | case1 tname t ih => exact typedef tname t depth ih
      | case2 t hnamed =>
          cases t with
          | tNamed tname ttype => exact absurd rfl (hnamed tname ttype)
          | tFun ret args vargs => exact function _ depth rfl h
          | tComp ckey => exact comp ckey depth h fun fi _ => deeper fi.ftype
          | tPtr t =>
              cases t with
              | tFun ret args vargs => exact fnPtr _ depth rfl h (deeper _)
              | tNamed tname t =>
                  by_cases ht : t.isFun
                  · exact fnNamedPtr tname t depth ht h (deeper t)
                  · exact namedPtr tname t depth ht h (deeper _)
              | tComp ckey => exact compPtr ckey depth h (deeper _)
              | tPtr t => exact nothing _ depth fun _ _ _ _ _ => stubConvertArg_ptrPtr
              | _ => exact nothing _ depth fun _ _ _ _ _ => stubConvertArg_scalarPtr rfl
          | _ => exact nothing _ depth fun _ _ _ _ _ => stubConvertArg_scalar rfl

/-! ## What the generated code loads through -/

@[simp] lemma loads_mkAddrOrStartOf (lv : Lval) : (mkAddrOrStartOf lv).loads = lv.loads := by
  have hmkAddrOf : (mkAddrOf lv).loads = lv.loads := by cases lv <;> rfl
  rw [mkAddrOrStartOf]
  split
  · rfl
  · exact hmkAddrOf

section

variable {comps : ℕ → Compinfo} {fname paramName : String} {gs : List Exp} {e : Exp}

/-- `e` is loaded through inside the tests `gs`. -/
def Loads (ss : List Stmt) (gs : List Exp) (e : Exp) : Prop :=
  Guarded.LoadsInside (blockCode ss) gs e

lemma loads_nil : ¬ Loads [] gs e := Guarded.loadsInside_nil

/-- A load in code that is put together is in one of its parts. -/
lemma loads_flatMap {α : Type*} {l : List α} {f : α → List Stmt} :
    Loads (l.flatMap f) gs e ↔ ∃ x ∈ l, Loads (f x) gs e := by
  induction l with
  | nil => simp [loads_nil]
  | cons x l ih =>
      rw [List.flatMap_cons, Loads, blockCode_append, Guarded.loadsInside_append,
        List.exists_mem_cons_iff, ← ih]
      rfl

/-- A conversion takes the address of the function pointer. -/
lemma loads_stubMkConvertFn {lv : Lval} {str1 str2 : String} :
    Loads [stubMkConvertFn fname lv str1 str2] gs e ↔ gs = [] ∧ e ∈ lv.loads := by
  have hcode : blockCode [stubMkConvertFn fname lv str1 str2] = [.use lv.loads] := by
    simp [stubMkConvertFn, mkCallStmt, blockCode, Stmt.code, Exp.loads, expifyVarinfo, expifyLval,
      lvalifyVarinfo, Lval.loads, Lval.pointer?]
  rw [Loads, hcode, Guarded.loadsInside_use]

/-- A test reads the pointer. -/
lemma loads_test {lv : Lval} {ss : List Stmt} :
    Loads [.ifStmt (.neZero (.lval lv)) ss []] gs e ↔
      (gs = [] ∧ e ∈ lv.loads ++ lv.pointer?.toList) ∨
        ∃ gs', gs = .lval lv :: gs' ∧ Loads ss gs' e := by
  have hcode : blockCode [.ifStmt (.neZero (.lval lv)) ss []] =
      [.cond (lv.loads ++ lv.pointer?.toList) (some (.lval lv)) (blockCode ss) []] := by
    simp [blockCode, Stmt.code, Exp.loads, Exp.tested?]
  rw [Loads, hcode, Guarded.loadsInside_cond]
  simp [Guarded.loadsInside_nil, Loads]

lemma routeDepth_cons {s : TypeStep} (hs : s ≠ .typedef) (r : List TypeStep) :
    routeDepth (s :: r) = routeDepth r + 1 := by
  simp [routeDepth, hs]

/-- The other steps go one level down. -/
lemma routeDepth_lt {s : TypeStep} (hs : s ≠ .typedef) {r : List TypeStep} {depth : ℕ} :
    depth + 1 + routeDepth r < 7 → depth + routeDepth (s :: r) < 7 := by
  rw [routeDepth_cons hs]
  omega

@[simp] lemma routeDepth_typedef (r : List TypeStep) :
    routeDepth (.typedef :: r) = routeDepth r := by
  simp [routeDepth]

/-- Code is generated for a route only. -/
theorem exists_route {lv : Lval} {t : Typ} {ci : Option Compinfo} {fi : Option Fieldinfo}
    {depth : ℕ} (hne : stubConvertArg comps fname paramName lv t ci fi depth ≠ []) :
    ∃ r, Route comps fname ci t r ∧ depth + routeDepth r < 7 := by
  induction t, depth using walkInduct comps generalizing lv ci fi with
  | nothing t depth hnil => exact absurd (hnil fname paramName lv ci fi) hne
  | function t depth ht hdepth =>
      rw [stubConvertArg_isFun ht hdepth] at hne
      split_ifs at hne with hanon
      · exact absurd rfl hne
      · exact ⟨[], .ofFun ht (by simpa using hanon), hdepth⟩
  | typedef tname t depth ih =>
      rw [stubConvertArg_named] at hne
      obtain ⟨r, hr, hlt⟩ := ih hne
      exact ⟨_, hr.typedef, by simpa using hlt⟩
  | comp ckey depth hdepth ih =>
      rw [stubConvertArg_comp hdepth] at hne
      obtain ⟨ss, hss⟩ := List.exists_mem_of_ne_nil _ hne
      obtain ⟨fi, hfi, hss⟩ := List.mem_flatMap.mp hss
      obtain ⟨r, hr, hlt⟩ := ih fi hfi (List.ne_nil_of_mem hss)
      exact ⟨_, hr.field hfi, routeDepth_lt (by decide) hlt⟩
  | compPtr ckey depth hdepth ih =>
      rw [stubConvertArg_compPtr hdepth] at hne
      dsimp only at hne
      split_ifs at hne with hlength
      · obtain ⟨r, hr, hlt⟩ := ih (List.length_pos_iff.mp hlength)
        exact ⟨_, hr.compPtr, routeDepth_lt (by decide) hlt⟩
      · exact absurd rfl hne
  | fnPtr t depth ht hdepth ih =>
      rw [stubConvertArg_fnPtr ht hdepth] at hne
      obtain ⟨r, hr, hlt⟩ := ih hne
      exact ⟨_, hr.fnPtr ht, routeDepth_lt (by decide) hlt⟩
  | fnNamedPtr tname t depth ht hdepth ih =>
      rw [stubConvertArg_fnNamedPtr ht hdepth] at hne
      obtain ⟨r, hr, hlt⟩ := ih hne
      exact ⟨_, hr.fnNamedPtr ht, routeDepth_lt (by decide) hlt⟩
  | namedPtr tname t depth ht hdepth ih =>
      rw [stubConvertArg_namedPtr ht hdepth] at hne
      obtain ⟨r, hr, hlt⟩ := ih hne
      exact ⟨_, hr.namedPtr ht, routeDepth_lt (by decide) hlt⟩

@[simp] lemma loads_mem (lv : Lval) :
    (Lval.mem (.lval lv)).loads = lv.loads ++ lv.pointer?.toList := by
  rw [Lval.loads, Exp.loads]

@[simp] lemma loads_field (lv : Lval) (fi : Fieldinfo) : (Lval.field lv fi).loads = lv.loads := by
  rw [Lval.loads]

/-- What may be loaded through in the code for a route that starts at `lv`: what is needed for the
address of `lv`, what was tested, the pointer that `lv` is found behind if the route goes on through
a pointer, and anything if the route is untested. -/
def MayLoad (lv : Lval) (gs : List Exp) (e : Exp) (r : List TypeStep) : Prop :=
  e ∈ lv.loads ∨ e ∈ gs ∨ (e ∈ lv.pointer?.toList ∧ r.any TypeStep.derefs) ∨ Untested r

lemma MayLoad.cons {lv : Lval} {r : List TypeStep} (h : MayLoad lv gs e r) (s : TypeStep) :
    MayLoad lv gs e (s :: r) := by
  rcases h with h | h | ⟨h, hr⟩ | h
  · exact Or.inl h
  · exact Or.inr (Or.inl h)
  · exact Or.inr (Or.inr (Or.inl ⟨h, by simp [hr]⟩))
  · exact Or.inr (Or.inr (Or.inr (h.cons s)))

/-- To read `lv`, the pointer that it is found behind is needed. -/
lemma MayLoad.of_read {lv : Lval} {r : List TypeStep} (h : e ∈ lv.loads ++ lv.pointer?.toList)
    {s : TypeStep} (hs : s.derefs) : MayLoad lv gs e (s :: r) := by
  rcases List.mem_append.mp h with h | h
  · exact Or.inl h
  · exact Or.inr (Or.inr (Or.inl ⟨h, by simp [hs]⟩))

/-- Through a pointer to a typedef name, which is not tested. -/
lemma MayLoad.namedPtr {lv : Lval} {r : List TypeStep} (h : MayLoad (.mem (.lval lv)) gs e r) :
    MayLoad lv gs e (.namedPtr :: r) := by
  rcases h with h | h | ⟨-, hr⟩ | h
  · exact .of_read (by simpa using h) rfl
  · exact Or.inr (Or.inl h)
  · exact Or.inr (Or.inr (Or.inr (untested_namedPtr hr)))
  · exact Or.inr (Or.inr (Or.inr (h.cons _)))

/-- Through a pointer to a structure, which is tested. -/
lemma MayLoad.compPtr {lv : Lval} {r : List TypeStep} (h : MayLoad (.mem (.lval lv)) gs e r) :
    MayLoad lv (.lval lv :: gs) e (.compPtr :: r) := by
  rcases h with h | h | ⟨h, -⟩ | h
  · exact .of_read (by simpa using h) rfl
  · exact Or.inr (Or.inl (List.mem_cons_of_mem _ h))
  · obtain rfl : e = Exp.lval lv := by simpa [Lval.pointer?] using h
    exact Or.inr (Or.inl List.mem_cons_self)
  · exact Or.inr (Or.inr (Or.inr (h.cons _)))

/-- Every load stands on a route and is one of the expected ones. -/
theorem mayLoad_of_loads {lv : Lval} {t : Typ} {ci : Option Compinfo} {fi : Option Fieldinfo}
    {depth : ℕ} {gs : List Exp}
    (h : Loads (stubConvertArg comps fname paramName lv t ci fi depth) gs e) :
    ∃ r, Route comps fname ci t r ∧ depth + routeDepth r < 7 ∧ MayLoad lv gs e r := by
  induction t, depth using walkInduct comps generalizing lv ci fi gs with
  | nothing t depth hnil =>
      rw [hnil] at h
      exact absurd h loads_nil
  | function t depth ht hdepth =>
      rw [stubConvertArg_isFun ht hdepth] at h
      split_ifs at h with hanon
      · exact absurd h loads_nil
      · obtain ⟨-, he⟩ := loads_stubMkConvertFn.mp h
        exact ⟨[], .ofFun ht (by simpa using hanon), hdepth, Or.inl he⟩
  | typedef tname t depth ih =>
      rw [stubConvertArg_named] at h
      obtain ⟨r, hr, hlt, hmay⟩ := ih h
      exact ⟨_, hr.typedef, by simpa using hlt, hmay.cons _⟩
  | comp ckey depth hdepth ih =>
      rw [stubConvertArg_comp hdepth] at h
      obtain ⟨fi, hfi, h⟩ := loads_flatMap.mp h
      obtain ⟨r, hr, hlt, hmay⟩ := ih fi hfi h
      refine ⟨_, hr.field hfi, routeDepth_lt (by decide) hlt, MayLoad.cons ?_ _⟩
      rw [MayLoad, loads_field] at hmay
      exact hmay
  | compPtr ckey depth hdepth ih =>
      rw [stubConvertArg_compPtr hdepth] at h
      dsimp only at h
      split_ifs at h with hlength
      · rcases loads_test.mp h with ⟨rfl, he⟩ | ⟨gs', rfl, hinner⟩
        · obtain ⟨r, hr, hlt⟩ := exists_route (List.length_pos_iff.mp hlength)
          exact ⟨_, hr.compPtr, routeDepth_lt (by decide) hlt, .of_read he rfl⟩
        · obtain ⟨r, hr, hlt, hmay⟩ := ih hinner
          exact ⟨_, hr.compPtr, routeDepth_lt (by decide) hlt, hmay.compPtr⟩
      · exact absurd h loads_nil
  | fnPtr t depth ht hdepth ih =>
      rw [stubConvertArg_fnPtr ht hdepth] at h
      obtain ⟨r, hr, hlt, hmay⟩ := ih h
      exact ⟨_, hr.fnPtr ht, routeDepth_lt (by decide) hlt, hmay.cons _⟩
  | fnNamedPtr tname t depth ht hdepth ih =>
      rw [stubConvertArg_fnNamedPtr ht hdepth] at h
      obtain ⟨r, hr, hlt, hmay⟩ := ih h
      exact ⟨_, hr.fnNamedPtr ht, routeDepth_lt (by decide) hlt, hmay.cons _⟩
  | namedPtr tname t depth ht hdepth ih =>
      rw [stubConvertArg_namedPtr ht hdepth] at h
      obtain ⟨r, hr, hlt, hmay⟩ := ih h
      exact ⟨_, hr.namedPtr ht, routeDepth_lt (by decide) hlt, hmay.namedPtr⟩

/-! ### Every route is generated -/

/-- A route has code. -/
lemma Route.ne_nil {ci : Option Compinfo} {t : Typ} {r : List TypeStep}
    (hr : Route comps fname ci t r) : ∀ {lv : Lval} {fi : Option Fieldinfo} {depth : ℕ},
      depth + routeDepth r < 7 → stubConvertArg comps fname paramName lv t ci fi depth ≠ [] := by
  induction hr with
  | here hanon =>
      intro lv fi depth hlt
      rw [stubConvertArg_fun (Nat.lt_of_add_right_lt hlt), hanon]
      simp
  | fnPtr ht _ ih =>
      intro lv fi depth hlt
      rw [routeDepth_cons (by decide)] at hlt
      rw [stubConvertArg_fnPtr ht (by omega)]
      exact ih (by omega)
  | fnNamedPtr ht _ ih =>
      intro lv fi depth hlt
      rw [routeDepth_cons (by decide)] at hlt
      rw [stubConvertArg_fnNamedPtr ht (by omega)]
      exact ih (by omega)
  | namedPtr ht _ ih =>
      intro lv fi depth hlt
      rw [routeDepth_cons (by decide)] at hlt
      rw [stubConvertArg_namedPtr ht (by omega)]
      exact ih (by omega)
  | compPtr _ ih =>
      intro lv fi depth hlt
      rw [routeDepth_cons (by decide)] at hlt
      rw [stubConvertArg_compPtr (by omega)]
      dsimp only
      rw [if_pos (List.length_pos_iff.mpr (ih (by omega)))]
      simp
  | typedef _ ih =>
      intro lv fi depth hlt
      rw [routeDepth_typedef] at hlt
      rw [stubConvertArg_named]
      exact ih hlt
  | @field ci ckey fi' r hfi _ ih =>
      intro lv fi depth hlt
      rw [routeDepth_cons (by decide)] at hlt
      rw [stubConvertArg_comp (by omega)]
      obtain ⟨ss, hss⟩ : ∃ ss, ss ∈ stubConvertArg comps fname paramName (.field lv fi') fi'.ftype
          (some (comps ckey)) (some fi') (depth + 1) :=
        List.exists_mem_of_ne_nil _ (ih (by omega))
      exact List.ne_nil_of_mem (List.mem_flatMap.mpr ⟨fi', hfi, hss⟩)

/-- The code for a route needs the address that it starts at. -/
lemma Route.loads_address {ci : Option Compinfo} {t : Typ} {r : List TypeStep}
    (hr : Route comps fname ci t r) : ∀ {lv : Lval} {fi : Option Fieldinfo} {depth : ℕ},
      depth + routeDepth r < 7 → e ∈ lv.loads →
        Loads (stubConvertArg comps fname paramName lv t ci fi depth) [] e := by
  induction hr with
  | here hanon =>
      intro lv fi depth hlt he
      rw [stubConvertArg_fun (Nat.lt_of_add_right_lt hlt), hanon]
      exact loads_stubMkConvertFn.mpr ⟨rfl, he⟩
  | fnPtr ht _ ih =>
      intro lv fi depth hlt he
      rw [routeDepth_cons (by decide)] at hlt
      rw [stubConvertArg_fnPtr ht (by omega)]
      exact ih (by omega) he
  | fnNamedPtr ht _ ih =>
      intro lv fi depth hlt he
      rw [routeDepth_cons (by decide)] at hlt
      rw [stubConvertArg_fnNamedPtr ht (by omega)]
      exact ih (by omega) he
  | namedPtr ht _ ih =>
      intro lv fi depth hlt he
      rw [routeDepth_cons (by decide)] at hlt
      rw [stubConvertArg_namedPtr ht (by omega)]
      refine ih (by omega) ?_
      rw [loads_mem]
      exact List.mem_append_left _ he
  | compPtr hr' _ =>
      intro lv fi depth hlt he
      rw [routeDepth_cons (by decide)] at hlt
      rw [stubConvertArg_compPtr (by omega)]
      dsimp only
      rw [if_pos (List.length_pos_iff.mpr (hr'.ne_nil (by omega)))]
      exact loads_test.mpr (Or.inl ⟨rfl, List.mem_append_left _ he⟩)
  | typedef _ ih =>
      intro lv fi depth hlt he
      rw [routeDepth_typedef] at hlt
      rw [stubConvertArg_named]
      exact ih hlt he
  | @field ci ckey fi' r hfi _ ih =>
      intro lv fi depth hlt he
      rw [routeDepth_cons (by decide)] at hlt
      rw [stubConvertArg_comp (by omega)]
      refine loads_flatMap.mpr ⟨fi', hfi, ih (by omega) ?_⟩
      rwa [loads_field]

/-- The code for a route through a pointer reads what it starts at. -/
lemma Route.loads_read {ci : Option Compinfo} {t : Typ} {r : List TypeStep}
    (hr : Route comps fname ci t r) : ∀ {lv : Lval} {fi : Option Fieldinfo} {depth : ℕ},
      depth + routeDepth r < 7 → r.any TypeStep.derefs → e ∈ lv.loads ++ lv.pointer?.toList →
        Loads (stubConvertArg comps fname paramName lv t ci fi depth) [] e := by
  induction hr with
  | here _ =>
      intro lv fi depth _ hderefs _
      simp at hderefs
  | fnPtr ht _ ih =>
      intro lv fi depth hlt hderefs he
      rw [routeDepth_cons (by decide)] at hlt
      rw [stubConvertArg_fnPtr ht (by omega)]
      exact ih (by omega) hderefs he
  | fnNamedPtr ht _ ih =>
      intro lv fi depth hlt hderefs he
      rw [routeDepth_cons (by decide)] at hlt
      rw [stubConvertArg_fnNamedPtr ht (by omega)]
      exact ih (by omega) hderefs he
  | namedPtr ht hr' _ =>
      intro lv fi depth hlt _ he
      rw [routeDepth_cons (by decide)] at hlt
      rw [stubConvertArg_namedPtr ht (by omega)]
      refine hr'.loads_address (by omega) ?_
      rwa [loads_mem]
  | compPtr hr' _ =>
      intro lv fi depth hlt _ he
      rw [routeDepth_cons (by decide)] at hlt
      rw [stubConvertArg_compPtr (by omega)]
      dsimp only
      rw [if_pos (List.length_pos_iff.mpr (hr'.ne_nil (by omega)))]
      exact loads_test.mpr (Or.inl ⟨rfl, he⟩)
  | typedef _ ih =>
      intro lv fi depth hlt hderefs he
      rw [routeDepth_typedef] at hlt
      rw [stubConvertArg_named]
      exact ih hlt hderefs he
  | @field ci ckey fi' r hfi _ ih =>
      intro lv fi depth hlt hderefs he
      rw [routeDepth_cons (by decide)] at hlt
      rw [stubConvertArg_comp (by omega)]
      refine loads_flatMap.mpr ⟨fi', hfi, ih (by omega) hderefs ?_⟩
      rwa [loads_field]

/-- A route has an untested pointer at its first step or later. -/
lemma untested_cons {s : TypeStep} {r : List TypeStep} :
    Untested (s :: r) ↔ (s = .namedPtr ∧ r.any TypeStep.derefs) ∨ Untested r := by
  constructor
  · rintro ⟨front, back, heq, hback⟩
    cases front with
    | nil =>
        obtain ⟨rfl, rfl⟩ := List.cons.inj heq
        exact Or.inl ⟨rfl, hback⟩
    | cons s' front =>
        obtain ⟨-, rfl⟩ := List.cons.inj heq
        exact Or.inr ⟨front, back, rfl, hback⟩
  · rintro (⟨rfl, hr⟩ | h)
    · exact untested_namedPtr hr
    · exact h.cons s

/-- Down an untested route something is loaded through without a test.  It is found behind the start
of the route, so that no test further up is a test of it. -/
theorem Route.exists_untested {ci : Option Compinfo} {t : Typ} {r : List TypeStep}
    (hr : Route comps fname ci t r) : ∀ {lv : Lval} {fi : Option Fieldinfo} {depth : ℕ},
      depth + routeDepth r < 7 → Untested r →
        ∃ gs e, Loads (stubConvertArg comps fname paramName lv t ci fi depth) gs e ∧ e ∉ gs ∧
          sizeOf (Exp.lval lv) ≤ sizeOf e := by
  induction hr with
  | here _ =>
      rintro lv fi depth - ⟨front, back, heq, -⟩
      simp at heq
  | fnPtr ht _ ih =>
      intro lv fi depth hlt hun
      rw [routeDepth_cons (by decide)] at hlt
      rw [stubConvertArg_fnPtr ht (by omega)]
      exact ih (by omega) ((untested_cons.mp hun).resolve_left (by simp))
  | fnNamedPtr ht _ ih =>
      intro lv fi depth hlt hun
      rw [routeDepth_cons (by decide)] at hlt
      rw [stubConvertArg_fnNamedPtr ht (by omega)]
      exact ih (by omega) ((untested_cons.mp hun).resolve_left (by simp))
  | namedPtr ht hr' ih =>
      intro lv fi depth hlt hun
      rw [routeDepth_cons (by decide)] at hlt
      rw [stubConvertArg_namedPtr ht (by omega)]
      rcases untested_cons.mp hun with ⟨-, hderefs⟩ | hun
      · refine ⟨[], .lval lv, hr'.loads_read (by omega) hderefs ?_, List.not_mem_nil, le_rfl⟩
        simp [Lval.pointer?]
      · obtain ⟨gs, e, hload, he, hsize⟩ := @ih (.mem (.lval lv)) fi (depth + 1) (by omega) hun
        refine ⟨gs, e, hload, he, ?_⟩
        simp only [Exp.lval.sizeOf_spec, Lval.mem.sizeOf_spec] at hsize ⊢
        omega
  | compPtr hr' ih =>
      intro lv fi depth hlt hun
      rw [routeDepth_cons (by decide)] at hlt
      rw [stubConvertArg_compPtr (by omega)]
      dsimp only
      rw [if_pos (List.length_pos_iff.mpr (hr'.ne_nil (by omega)))]
      obtain ⟨gs, e, hload, he, hsize⟩ := @ih (.mem (.lval lv)) fi (depth + 1) (by omega)
        ((untested_cons.mp hun).resolve_left (by simp))
      simp only [Exp.lval.sizeOf_spec, Lval.mem.sizeOf_spec] at hsize ⊢
      refine ⟨.lval lv :: gs, e, loads_test.mpr (Or.inr ⟨gs, rfl, hload⟩), ?_, by omega⟩
      rintro (_ | ⟨_, hmem⟩)
      · rw [Exp.lval.sizeOf_spec] at hsize
        omega
      · exact he hmem
  | typedef _ ih =>
      intro lv fi depth hlt hun
      rw [routeDepth_typedef] at hlt
      rw [stubConvertArg_named]
      exact ih hlt ((untested_cons.mp hun).resolve_left (by simp))
  | @field ci ckey fi' r hfi _ ih =>
      intro lv fi depth hlt hun
      rw [routeDepth_cons (by decide)] at hlt
      rw [stubConvertArg_comp (by omega)]
      obtain ⟨gs, e, hload, he, hsize⟩ := @ih (.field lv fi') (some fi') (depth + 1) (by omega)
        ((untested_cons.mp hun).resolve_left (by simp))
      refine ⟨gs, e, loads_flatMap.mpr ⟨fi', hfi, hload⟩, he, ?_⟩
      simp only [Exp.lval.sizeOf_spec, Lval.field.sizeOf_spec] at hsize ⊢
      omega

/-- **Null safety of the conversions.**  The code for an argument loads through tested pointers only
exactly when no route to a converted function goes on through another pointer after a pointer to a
typedef name. -/
theorem stub_convert_arg_null_safe_iff (comps : ℕ → Compinfo) (fname : String) (vi : Varinfo) :
    NullSafe (stubConvertArg comps fname vi.vname (lvalifyVarinfo vi) vi.vtype none none 0) ↔
      ∀ r, Route comps fname none vi.vtype r → routeDepth r < 7 → ¬ Untested r := by
  rw [NullSafe, Guarded.nullSafe_iff]
  constructor
  · intro hinside r hr hlt hun
    obtain ⟨gs, e, hload, he, -⟩ := @Route.exists_untested comps fname vi.vname none vi.vtype r hr
      (lvalifyVarinfo vi) none 0 (by omega) hun
    exact he (hinside gs e hload)
  · intro htested gs e hload
    obtain ⟨r, hr, hlt, hmay⟩ := mayLoad_of_loads hload
    rcases hmay with h | h | ⟨h, -⟩ | h
    · simp [lvalifyVarinfo, Lval.loads] at h
    · exact h
    · simp [lvalifyVarinfo, Lval.pointer?] at h
    · exact absurd h (htested r hr (by omega))

end

/-! ## A structure behind a typedef -/

section

/-- `struct ops { void (*open)(void); };` and `struct dev { struct ops *ops; };`. -/
def devComps : ℕ → Compinfo
  | 0 => ⟨"ops", [⟨"open", .tPtr (.tFun .tVoid (some []) false)⟩]⟩
  | _ => ⟨"dev", [⟨"ops", .tPtr (.tComp 0)⟩]⟩

/-- `typedef struct dev dev_t; int register_dev(dev_t *dev);`. -/
def devFormal : Varinfo := ⟨"dev", .tPtr (.tNamed "dev_t" (.tComp 1)), false⟩

/-- What the formal points to. -/
def devLv : Lval := .mem (.lval (.var devFormal))

/-- `dev->ops`. -/
def opsLv : Lval := .field devLv ⟨"ops", .tPtr (.tComp 0)⟩

/-- `dev->ops->open`. -/
def openLv : Lval := .field (.mem (.lval opsLv)) ⟨"open", .tPtr (.tFun .tVoid (some []) false)⟩

/-- The generated code for a device with one table of functions. -/
lemma stubConvertArg_devFormal :
    stubConvertArg devComps "register_dev" devFormal.vname (lvalifyVarinfo devFormal)
      devFormal.vtype none none 0 =
      [mkIfStmt (.neZero (.lval opsLv))
        [stubMkConvertFn "register_dev" openLv "ops" "open"] []] := by
  have hopen : stubConvertArg devComps "register_dev" "dev" openLv
      (.tPtr (.tFun .tVoid (some []) false)) (some (devComps 0))
      (some ⟨"open", .tPtr (.tFun .tVoid (some []) false)⟩) 4 =
      [stubMkConvertFn "register_dev" openLv "ops" "open"] := by
    rw [stubConvertArg_fnPtr rfl (by decide), stubConvertArg_fun (by decide)]
    rfl
  have hops : stubConvertArg devComps "register_dev" "dev" opsLv (.tPtr (.tComp 0))
      (some (devComps 1)) (some ⟨"ops", .tPtr (.tComp 0)⟩) 2 =
      [mkIfStmt (.neZero (.lval opsLv))
        [stubMkConvertFn "register_dev" openLv "ops" "open"] []] := by
    have hfields : stubConvertArg devComps "register_dev" "dev" (.mem (.lval opsLv)) (.tComp 0)
        (some (devComps 1)) (some ⟨"ops", .tPtr (.tComp 0)⟩) 3 =
        [stubMkConvertFn "register_dev" openLv "ops" "open"] := by
      rw [stubConvertArg_comp (by decide)]
      exact (List.append_nil _).trans hopen
    rw [stubConvertArg_compPtr (by decide), hfields]
    rfl
  have hdev : stubConvertArg devComps "register_dev" "dev" (lvalifyVarinfo devFormal)
      devFormal.vtype none none 0 = stubConvertArg devComps "register_dev" "dev" opsLv
        (.tPtr (.tComp 0)) (some (devComps 1)) (some ⟨"ops", .tPtr (.tComp 0)⟩) 2 := by
    rw [devFormal, stubConvertArg_namedPtr (by decide) (by decide), stubConvertArg_named,
      stubConvertArg_comp (by decide)]
    exact List.append_nil _
  exact hdev.trans hops

/-- `dev->ops` is read without a test of `dev`. -/
theorem typedef_pointer_not_tested :
    ¬ NullSafe (stubConvertArg devComps "register_dev" devFormal.vname (lvalifyVarinfo devFormal)
      devFormal.vtype none none 0) := by
  rw [stubConvertArg_devFormal, NullSafe, Guarded.nullSafe_iff]
  intro hinside
  have hread : Loads [mkIfStmt (.neZero (.lval opsLv))
      [stubMkConvertFn "register_dev" openLv "ops" "open"] []] [] (.lval (.var devFormal)) :=
    loads_test.mpr (Or.inl ⟨rfl, by simp [opsLv, devLv, Lval.pointer?]⟩)
  simpa using hinside [] _ hread

end

end SymDrive.Cil.Splitter
