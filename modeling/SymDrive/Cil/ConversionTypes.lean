import SymDrive.Cil.FnPtrConversion

/-!
# The types of what stubs convert

`gen_convert_fn` dereferences what it is given, so it has to be given the address of a function
pointer.  `stub_convert_arg` keeps the type that it looks at apart from the lvalue that it is at:
from a pointer to a function it goes on to the function with the lvalue left where it is.

`stub_convert_arg_typed_iff` — every conversion is right exactly if every route to a converted
function ends in such a step.  It does not behind a pointer to a typedef name for a typedef name of
a function type: there the pointer is dereferenced like one to a structure, and the conversion gets
the address of the function itself.

The walk ends on every type, also on structures in structures without end: `stubConvertArg` is
defined by recursion on the depth that is left, and on the type where a typedef leaves the depth as
it is.
-/

namespace SymDrive.Cil.Splitter

/-! ## The conversions in generated code -/

mutual

/-- The calls in a statement.  In the code for an argument they are all conversions. -/
def Stmt.conversions : Stmt → List Stmt
  | .set _ _ | .ret _ => []
  | .call retval f args => [.call retval f args]
  | .ifStmt _ trueBlock falseBlock => conversionsOf trueBlock ++ conversionsOf falseBlock

def conversionsOf : List Stmt → List Stmt
  | [] => []
  | s :: ss => s.conversions ++ conversionsOf ss

end

/-- The lvalue whose address an expression is. -/
def lvalAt : Exp → Lval
  | .addrOf lv => lv
  | .startOf lv => lv
  | e => .mem e

/-- A pointer to a function, behind typedefs. -/
def Typ.isFnPtr (t : Typ) : Bool :=
  match unrollType t with
  | .tPtr t' => (unrollType t').isFun
  | _ => false

section

variable (comps : ℕ → Compinfo) (fname paramName : String)

mutual

/-- The last structure on the path to an lvalue, and the field that was chosen there. -/
def Lval.innermost : Lval → Option (Compinfo × Fieldinfo)
  | .var _ => none
  | .mem addr => addr.innermost
  | .field lv fi =>
      match unrollType (typeOfLval lv) with
      | .tComp ckey => some (comps ckey, fi)
      | _ => none

def Exp.innermost : Exp → Option (Compinfo × Fieldinfo)
  | .lval lv | .addrOf lv | .startOf lv => lv.innermost
  | .castE _ e | .eqZero e | .neZero e => e.innermost
  | .int _ | .str _ | .sizeOf _ => none

end

/-- What a conversion is named after. -/
def Lval.pathNames (lv : Lval) : String × String :=
  match lv.innermost comps with
  | some (ci, fi) => (ci.cname, fi.fname)
  | none => (fname, paramName)

/-- **A right conversion** in the stub of `fname`: a call of `gen_convert_fn` with the address of a
function pointer, and with the names of the path to it. -/
inductive RightConversion : Stmt → Prop where
  | mk {e : Exp} (hptr : (typeOfLval (lvalAt e)).isFnPtr) :
      RightConversion (.call none (expifyVarinfo convertFn)
        [.castE (.tPtr voidPtrType) e, .str (stubwrapperPrefix ++ fname),
          .str ((lvalAt e).pathNames comps fname paramName).1,
          .str ((lvalAt e).pathNames comps fname paramName).2])

end

lemma conversionsOf_append (ss ss' : List Stmt) :
    conversionsOf (ss ++ ss') = conversionsOf ss ++ conversionsOf ss' := by
  induction ss with
  | nil => rfl
  | cons s ss ih => rw [List.cons_append, conversionsOf, ih, conversionsOf, List.append_assoc]

lemma mem_conversionsOf_flatMap {α : Type*} {l : List α} {f : α → List Stmt} {c : Stmt} :
    c ∈ conversionsOf (l.flatMap f) ↔ ∃ x ∈ l, c ∈ conversionsOf (f x) := by
  induction l with
  | nil => simp [conversionsOf]
  | cons x l ih =>
      rw [List.flatMap_cons, conversionsOf_append, List.mem_append, ih, List.exists_mem_cons_iff]

lemma conversionsOf_ifStmt (e : Exp) (ss : List Stmt) :
    conversionsOf [.ifStmt e ss []] = conversionsOf ss := by
  simp [conversionsOf, Stmt.conversions]

/-! ## The lvalue of the walk -/

section

variable {comps : ℕ → Compinfo} {fname paramName : String} {lv : Lval} {t : Typ}
  {ci : Option Compinfo} {fi : Option Fieldinfo} {depth : ℕ}

/-- The walk is at `lv`, of type `t`, and has passed the structure `ci` and its field `fi`. -/
structure At (comps : ℕ → Compinfo) (lv : Lval) (t : Typ) (ci : Option Compinfo)
    (fi : Option Fieldinfo) : Prop where
  typed : unrollType (typeOfLval lv) = unrollType t
  addressed : lvalAt (mkAddrOrStartOf lv) = lv
  ci : ci = (lv.innermost comps).map Prod.fst
  fi : fi = (lv.innermost comps).map Prod.snd

/-- An argument. -/
lemma At.formal (vi : Varinfo) : At comps (lvalifyVarinfo vi) vi.vtype none none where
  typed := rfl
  addressed := by
    rw [mkAddrOrStartOf]
    split <;> rfl
  ci := rfl
  fi := rfl

lemma At.typedef {tname : String} (h : At comps lv (.tNamed tname t) ci fi) :
    At comps lv t ci fi where
  typed := h.typed
  addressed := h.addressed
  ci := h.ci
  fi := h.fi

lemma typeOfLval_mem (h : unrollType (typeOfLval lv) = .tPtr t) :
    typeOfLval (.mem (.lval lv)) = t := by
  rw [typeOfLval, typeOf, h]

/-- Through a pointer. -/
lemma At.deref (h : At comps lv (.tPtr t) ci fi) : At comps (.mem (.lval lv)) t ci fi where
  typed := congrArg unrollType (typeOfLval_mem h.typed)
  addressed := by
    rw [mkAddrOrStartOf]
    split <;> rfl
  ci := h.ci
  fi := h.fi

/-- To a field. -/
lemma At.field {ckey : ℕ} (h : At comps lv (.tComp ckey) ci fi) (fi' : Fieldinfo) :
    At comps (.field lv fi') fi'.ftype (some (comps ckey)) (some fi') where
  typed := by rw [typeOfLval]
  addressed := by
    rw [mkAddrOrStartOf]
    split <;> rfl
  ci := by rw [Lval.innermost, h.typed]; rfl
  fi := by rw [Lval.innermost, h.typed]; rfl

/-- The conversion of the lvalue that the walk is at. -/
lemma At.right_iff (h : At comps lv t ci fi) :
    RightConversion comps fname paramName
        (stubMkConvertFn fname lv (ciStr fname ci) (fiStr paramName fi)) ↔
      (typeOfLval lv).isFnPtr := by
  have hnames : (ciStr fname ci, fiStr paramName fi) = lv.pathNames comps fname paramName := by
    rw [h.ci, h.fi, Lval.pathNames]
    cases lv.innermost comps <;> rfl
  obtain ⟨hci, hfi⟩ := Prod.mk.inj hnames
  rw [hci, hfi, stubMkConvertFn, mkCallStmt]
  constructor
  · intro hright
    generalize hstmt : Stmt.call none (expifyVarinfo convertFn) _ = s at hright
    cases hright with
    | @mk e hptr =>
        injection hstmt with _ _ hargs
        injection hargs with harg _
        injection harg with _ he
        rwa [← he, h.addressed] at hptr
  · intro hptr
    have hmk := @RightConversion.mk comps fname paramName (mkAddrOrStartOf lv)
      (by rwa [h.addressed])
    rwa [h.addressed] at hmk

/-! ## Conversions and routes -/

/-- Only the last step makes a conversion right or wrong. -/
lemma getLast?_cons_iff {s : TypeStep} (hs : s ≠ .fnPtr) (r : List TypeStep) :
    (s :: r).getLast? = some .fnPtr ↔ r.getLast? = some .fnPtr := by
  cases r with
  | nil => simpa using hs
  | cons s' r => rw [List.getLast?_cons_cons]

/-- A function has no steps. -/
lemma Route.eq_nil {r : List TypeStep} (hr : Route comps fname ci t r) (ht : t.isFun) :
    r = [] ∧ containsPrefix (ciStr fname ci) "__anonstruct____" = false := by
  cases hr with
  | here hanon => exact ⟨rfl, hanon⟩
  | _ => simp [Typ.isFun] at ht

/-- A function that the walk is at is converted. -/
lemma conversionsOf_fun (ht : t.isFun) (h : depth < 7) :
    conversionsOf (stubConvertArg comps fname paramName lv t ci fi depth) =
      if containsPrefix (ciStr fname ci) "__anonstruct____" then []
      else [stubMkConvertFn fname lv (ciStr fname ci) (fiStr paramName fi)] := by
  rw [stubConvertArg_isFun ht h]
  split_ifs <;> rfl

lemma mem_conversionsOf_fun {c : Stmt} (ht : t.isFun)
    (hc : c ∈ conversionsOf (stubConvertArg comps fname paramName lv t ci fi depth)) :
    containsPrefix (ciStr fname ci) "__anonstruct____" = false ∧ depth < 7 ∧
      c = stubMkConvertFn fname lv (ciStr fname ci) (fiStr paramName fi) := by
  by_cases hdepth : depth < 7
  · rw [conversionsOf_fun ht hdepth] at hc
    split_ifs at hc with hanon
    · exact absurd hc List.not_mem_nil
    · exact ⟨by simpa using hanon, hdepth, List.mem_singleton.mp hc⟩
  · rw [stubConvertArg_deep hdepth] at hc
    exact absurd hc List.not_mem_nil

lemma conversionsOf_compPtr {ckey : ℕ} (h : depth < 7) :
    conversionsOf (stubConvertArg comps fname paramName lv (.tPtr (.tComp ckey)) ci fi depth) =
      conversionsOf (stubConvertArg comps fname paramName (.mem (.lval lv)) (.tComp ckey) ci fi
        (depth + 1)) := by
  rw [stubConvertArg_compPtr h]
  dsimp only
  split_ifs with hlength
  · exact conversionsOf_ifStmt _ _
  · rw [Nat.not_lt, Nat.le_zero, List.length_eq_zero_iff] at hlength
    rw [hlength]

/-- A function behind a pointer, or behind a pointer to its name: the lvalue is a pointer to it. -/
lemma At.right_fnPtr {t' : Typ} (h : At comps lv (.tPtr t') ci fi) (ht : (unrollType t').isFun) :
    RightConversion comps fname paramName
      (stubMkConvertFn fname lv (ciStr fname ci) (fiStr paramName fi)) := by
  rw [h.right_iff, Typ.isFnPtr, h.typed]
  exact ht

/-- A function type is no typedef name. -/
lemma isFun_unroll {t : Typ} (ht : t.isFun) : (unrollType t).isFun := by
  cases t with
  | tFun ret args vargs => rfl
  | _ => simp [Typ.isFun] at ht

lemma isFun_unroll_named {tname : String} {t : Typ} (ht : t.isFun) :
    (unrollType (.tNamed tname t)).isFun := by
  rw [unrollType]
  exact isFun_unroll ht

/-- A function that is no pointer. -/
lemma At.not_right_fun (h : At comps lv t ci fi) (ht : t.isFun) :
    ¬ RightConversion comps fname paramName
      (stubMkConvertFn fname lv (ciStr fname ci) (fiStr paramName fi)) := by
  rw [h.right_iff, Typ.isFnPtr, h.typed]
  cases t with
  | tFun ret args vargs => simp [unrollType]
  | _ => simp [Typ.isFun] at ht

/-- Every call in the code belongs to a route, whose last step decides whether it is right. -/
theorem exists_route_of_call {lv : Lval} {t : Typ} {ci : Option Compinfo} {fi : Option Fieldinfo}
    {depth : ℕ} {c : Stmt} (hat : At comps lv t ci fi)
    (hc : c ∈ conversionsOf (stubConvertArg comps fname paramName lv t ci fi depth)) :
    ∃ r, Route comps fname ci t r ∧ depth + routeDepth r < 7 ∧
      (RightConversion comps fname paramName c ↔ r.getLast? = some .fnPtr) := by
  induction t, depth using walkInduct comps generalizing lv ci fi with
  | nothing t depth hnil =>
      rw [hnil] at hc
      exact absurd hc List.not_mem_nil
  | function t depth ht hdepth =>
      obtain ⟨hanon, -, rfl⟩ := mem_conversionsOf_fun ht hc
      exact ⟨[], .ofFun ht hanon, hdepth, iff_of_false (hat.not_right_fun ht) (by simp)⟩
  | typedef tname t depth ih =>
      rw [stubConvertArg_named] at hc
      obtain ⟨r, hr, hlt, hright⟩ := ih hat.typedef hc
      exact ⟨_, hr.typedef, by simpa using hlt,
        hright.trans (getLast?_cons_iff (by decide) r).symm⟩
  | comp ckey depth hdepth ih =>
      rw [stubConvertArg_comp hdepth] at hc
      obtain ⟨fi', hfi, hc⟩ := mem_conversionsOf_flatMap.mp hc
      obtain ⟨r, hr, hlt, hright⟩ := ih fi' hfi (hat.field fi') hc
      exact ⟨_, hr.field hfi, routeDepth_lt (by decide) hlt,
        hright.trans (getLast?_cons_iff (by decide) r).symm⟩
  | compPtr ckey depth hdepth ih =>
      rw [conversionsOf_compPtr hdepth] at hc
      obtain ⟨r, hr, hlt, hright⟩ := ih hat.deref hc
      exact ⟨_, hr.compPtr, routeDepth_lt (by decide) hlt,
        hright.trans (getLast?_cons_iff (by decide) r).symm⟩
  | fnPtr t depth ht hdepth _ =>
      rw [stubConvertArg_fnPtr ht hdepth] at hc
      obtain ⟨hanon, hdepth', rfl⟩ := mem_conversionsOf_fun ht hc
      have hhere : Route comps fname ci t [] := .ofFun ht hanon
      exact ⟨_, hhere.fnPtr ht, hdepth', iff_of_true (hat.right_fnPtr (isFun_unroll ht)) rfl⟩
  | fnNamedPtr tname t depth ht hdepth _ =>
      rw [stubConvertArg_fnNamedPtr ht hdepth] at hc
      obtain ⟨hanon, hdepth', rfl⟩ := mem_conversionsOf_fun ht hc
      have hhere : Route comps fname ci t [] := .ofFun ht hanon
      exact ⟨_, hhere.fnNamedPtr ht, hdepth',
        iff_of_true (hat.right_fnPtr (isFun_unroll_named ht)) rfl⟩
  | namedPtr tname t depth ht hdepth ih =>
      rw [stubConvertArg_namedPtr ht hdepth] at hc
      obtain ⟨r, hr, hlt, hright⟩ := ih hat.deref hc
      exact ⟨_, hr.namedPtr ht, routeDepth_lt (by decide) hlt,
        hright.trans (getLast?_cons_iff (by decide) r).symm⟩

/-- Every route has a call. -/
theorem Route.exists_call {r : List TypeStep} (hr : Route comps fname ci t r) :
    ∀ {lv : Lval} {fi : Option Fieldinfo} {depth : ℕ}, At comps lv t ci fi →
      depth + routeDepth r < 7 →
        ∃ c ∈ conversionsOf (stubConvertArg comps fname paramName lv t ci fi depth),
          (RightConversion comps fname paramName c ↔ r.getLast? = some .fnPtr) := by
  induction hr with
  | here hanon =>
      intro lv fi depth hat hlt
      rw [conversionsOf_fun rfl (Nat.lt_of_add_right_lt hlt), hanon]
      exact ⟨_, List.mem_singleton_self _, iff_of_false (hat.not_right_fun rfl) (by simp)⟩
  | fnPtr ht hr' _ =>
      intro lv fi depth hat hlt
      obtain ⟨rfl, hanon⟩ := hr'.eq_nil ht
      rw [routeDepth_cons (by decide)] at hlt
      rw [stubConvertArg_fnPtr ht (by omega), conversionsOf_fun ht (by omega), hanon]
      exact ⟨_, List.mem_singleton_self _, iff_of_true (hat.right_fnPtr (isFun_unroll ht)) rfl⟩
  | fnNamedPtr ht hr' _ =>
      intro lv fi depth hat hlt
      obtain ⟨rfl, hanon⟩ := hr'.eq_nil ht
      rw [routeDepth_cons (by decide)] at hlt
      rw [stubConvertArg_fnNamedPtr ht (by omega), conversionsOf_fun ht (by omega), hanon]
      exact ⟨_, List.mem_singleton_self _,
        iff_of_true (hat.right_fnPtr (isFun_unroll_named ht)) rfl⟩
  | namedPtr ht _ ih =>
      intro lv fi depth hat hlt
      rw [routeDepth_cons (by decide)] at hlt
      rw [stubConvertArg_namedPtr ht (by omega), getLast?_cons_iff (by decide)]
      exact ih hat.deref (by omega)
  | compPtr _ ih =>
      intro lv fi depth hat hlt
      rw [routeDepth_cons (by decide)] at hlt
      rw [conversionsOf_compPtr (by omega), getLast?_cons_iff (by decide)]
      exact ih hat.deref (by omega)
  | typedef _ ih =>
      intro lv fi depth hat hlt
      rw [routeDepth_typedef] at hlt
      rw [stubConvertArg_named, getLast?_cons_iff (by decide)]
      exact ih hat.typedef hlt
  | @field ci ckey fi' r hfi _ ih =>
      intro lv fi depth hat hlt
      rw [routeDepth_cons (by decide)] at hlt
      rw [stubConvertArg_comp (by omega), getLast?_cons_iff (by decide)]
      obtain ⟨c, hc, hright⟩ :=
        @ih (.field lv fi') (some fi') (depth + 1) (hat.field fi') (by omega)
      exact ⟨c, mem_conversionsOf_flatMap.mpr ⟨fi', hfi, hc⟩, hright⟩

/-- **The types of the conversions.**  All conversions that are generated for an argument are right
exactly if no route of fewer than seven steps to a converted function, typedefs not counted, ends
in anything but a pointer to the function or to a typedef name that is defined as the function
type. -/
theorem stub_convert_arg_typed_iff (comps : ℕ → Compinfo) (fname : String) (vi : Varinfo) :
    (∀ c ∈ conversionsOf
        (stubConvertArg comps fname vi.vname (lvalifyVarinfo vi) vi.vtype none none 0),
      RightConversion comps fname vi.vname c) ↔
      ∀ r, Route comps fname none vi.vtype r → routeDepth r < 7 → r.getLast? = some .fnPtr := by
  constructor
  · intro hright r hr hlt
    obtain ⟨c, hc, hiff⟩ := @Route.exists_call comps fname vi.vname vi.vtype none r hr
      (lvalifyVarinfo vi) none 0 (.formal vi) (by omega)
    exact hiff.mp (hright c hc)
  · intro hroutes c hc
    obtain ⟨r, hr, hlt, hiff⟩ := exists_route_of_call (.formal vi) hc
    exact hiff.mpr (hroutes r hr (by omega))

/-- `typedef void handler_t(void); typedef handler_t callback_t; int add_hook(callback_t *hook);` -/
def hookFormal : Varinfo :=
  ⟨"hook", .tPtr (.tNamed "callback_t" (.tNamed "handler_t" (.tFun .tVoid (some []) false))), false⟩

/-- `gen_convert_fn` gets the value of `hook`, which is the address of the function. -/
theorem twice_named_function_not_converted :
    ¬ ∀ c ∈ conversionsOf (stubConvertArg devComps "add_hook" hookFormal.vname
        (lvalifyVarinfo hookFormal) hookFormal.vtype none none 0),
      RightConversion devComps "add_hook" hookFormal.vname c := by
  have hat : At devComps (.mem (.lval (.var hookFormal))) (.tFun .tVoid (some []) false) none
      none :=
    (At.formal hookFormal).deref.typedef.typedef
  have hcalls : conversionsOf (stubConvertArg devComps "add_hook" hookFormal.vname
      (lvalifyVarinfo hookFormal) hookFormal.vtype none none 0) =
      [stubMkConvertFn "add_hook" (.mem (.lval (.var hookFormal))) "add_hook" "hook"] := by
    rw [hookFormal, stubConvertArg_namedPtr (by decide) (by decide), stubConvertArg_named,
      stubConvertArg_named, conversionsOf_fun rfl (by decide)]
    rfl
  rw [hcalls]
  intro hright
  exact hat.not_right_fun rfl (hright _ (List.mem_singleton_self _))

end

end SymDrive.Cil.Splitter
