import SymDrive.Cil.GeneratedCode

/-!
# Stripping the attributes of types

`strip_typ_attribs` of `utils_dri.ml` keeps the attributes `const` and `volatile` of a type and
drops the others, so that types can be compared.  A parameter of a function type has attributes of
its own, next to those of its type; there the function puts the attributes of the function type
(`strips_only_iff`).

Here types have their attributes.  What a type refers to by name is its name, and the parameters of
attributes and the lengths of arrays are left open.
-/

namespace SymDrive.Cil.Attributed

variable {π ε : Type}

/-- An attribute with its parameters. -/
structure Attr (π : Type) where
  name : String
  params : List π
  deriving DecidableEq, Repr

inductive Typ (π ε : Type) where
  | tVoid (attrs : List (Attr π))
  | tInt (kind : Splitter.Ikind) (attrs : List (Attr π))
  | tFloat (fkind : String) (attrs : List (Attr π))
  | tPtr (t : Typ π ε) (attrs : List (Attr π))
  | tArray (t : Typ π ε) (len : Option ε) (attrs : List (Attr π))
  /-- The arguments, if any are specified: name, type and attributes of the name. -/
  | tFun (ret : Typ π ε) (args : Option (List (String × Typ π ε × List (Attr π))))
      (isvararg : Bool) (attrs : List (Attr π))
  | tNamed (tname : String) (attrs : List (Attr π))
  | tComp (ckey : ℕ) (attrs : List (Attr π))
  | tEnum (ename : String) (attrs : List (Attr π))
  | tBuiltinVaList (attrs : List (Attr π))

/-- An argument of a function type. -/
abbrev Arg (π ε : Type) := String × Typ π ε × List (Attr π)

/-! ## The pass -/

def stripNonconstAttrs (attrs : List (Attr π)) : List (Attr π) :=
  attrs.foldl (fun acc attr =>
    if attr.name = "const" ∨ attr.name = "volatile" then acc ++ [attr] else acc ++ []) []

mutual

def stripTypAttribs : Typ π ε → Typ π ε
  | .tVoid a => .tVoid (stripNonconstAttrs a)
  | .tInt k a => .tInt k (stripNonconstAttrs a)
  | .tFloat k a => .tFloat k (stripNonconstAttrs a)
  | .tPtr t a => .tPtr (stripTypAttribs t) (stripNonconstAttrs a)
  | .tArray t e a => .tArray (stripTypAttribs t) e (stripNonconstAttrs a)
  | .tFun t none b a => .tFun (stripTypAttribs t) none b (stripNonconstAttrs a)
  | .tFun t (some l) b a =>
      .tFun (stripTypAttribs t) (some (processElts a l)) b (stripNonconstAttrs a)
  | .tNamed tinfo a => .tNamed tinfo (stripNonconstAttrs a)
  | .tComp cinfo a => .tComp cinfo (stripNonconstAttrs a)
  | .tEnum einfo a => .tEnum einfo (stripNonconstAttrs a)
  | .tBuiltinVaList a => .tBuiltinVaList (stripNonconstAttrs a)

/-- `process_elt` along the arguments; `a` are the attributes of the function type. -/
def processElts (a : List (Attr π)) : List (Arg π ε) → List (Arg π ε)
  | [] => []
  | (str, t, _) :: l => (str, stripTypAttribs t, stripNonconstAttrs a) :: processElts a l

end

/-! ## What it is for -/

section

variable (f : List (Attr π) → List (Attr π))

mutual

/-- `f` is applied to every list of attributes in a type, and nothing else is changed. -/
def Typ.mapAttrs : Typ π ε → Typ π ε
  | .tVoid a => .tVoid (f a)
  | .tInt k a => .tInt k (f a)
  | .tFloat k a => .tFloat k (f a)
  | .tPtr t a => .tPtr t.mapAttrs (f a)
  | .tArray t e a => .tArray t.mapAttrs e (f a)
  | .tFun t none b a => .tFun t.mapAttrs none b (f a)
  | .tFun t (some l) b a => .tFun t.mapAttrs (some (mapArgs l)) b (f a)
  | .tNamed tinfo a => .tNamed tinfo (f a)
  | .tComp cinfo a => .tComp cinfo (f a)
  | .tEnum einfo a => .tEnum einfo (f a)
  | .tBuiltinVaList a => .tBuiltinVaList (f a)

def mapArgs : List (Arg π ε) → List (Arg π ε)
  | [] => []
  | (str, t, attrs) :: l => (str, t.mapAttrs, f attrs) :: mapArgs l

end

end

/-- A type without its attributes. -/
def Typ.shape (t : Typ π ε) : Typ π ε := t.mapAttrs fun _ => []

/-- The attributes that stay. -/
def keptAttrs (attrs : List (Attr π)) : List (Attr π) :=
  attrs.filter fun attr => attr.name = "const" ∨ attr.name = "volatile"

/-- **The specification of one type**: the shape stays, every list of attributes is filtered, and a
second time nothing is left to strip. -/
structure StripsOnly (t : Typ π ε) : Prop where
  shape : (stripTypAttribs t).shape = t.shape
  attrs : stripTypAttribs t = t.mapAttrs keptAttrs
  idempotent : stripTypAttribs (stripTypAttribs t) = stripTypAttribs t

mutual

/-- The attributes of every function type in a type, with those of each of its arguments. -/
def Typ.argAttrs : Typ π ε → List (List (Attr π) × List (Attr π))
  | .tPtr t _ => t.argAttrs
  | .tArray t _ _ => t.argAttrs
  | .tFun t none _ _ => t.argAttrs
  | .tFun t (some l) _ a => t.argAttrs ++ argsAttrs a l
  | .tVoid _ | .tInt _ _ | .tFloat _ _ | .tNamed _ _ | .tComp _ _ | .tEnum _ _
  | .tBuiltinVaList _ => []

def argsAttrs (a : List (Attr π)) : List (Arg π ε) → List (List (Attr π) × List (Attr π))
  | [] => []
  | (_, t, attrs) :: l => (a, attrs) :: (t.argAttrs ++ argsAttrs a l)

end

/-- Every argument has the same attributes to keep as the function type. -/
def ArgsMatch (t : Typ π ε) : Prop := ∀ p ∈ t.argAttrs, keptAttrs p.1 = keptAttrs p.2

/-! ## Attributes -/

lemma stripNonconstAttrs_eq (attrs : List (Attr π)) :
    stripNonconstAttrs attrs = keptAttrs attrs := by
  have hfold : ∀ acc : List (Attr π), attrs.foldl (fun acc attr =>
      if attr.name = "const" ∨ attr.name = "volatile" then acc ++ [attr] else acc ++ []) acc =
        acc ++ keptAttrs attrs := by
    induction attrs with
    | nil => exact fun acc => (List.append_nil acc).symm
    | cons attr attrs ih =>
        intro acc
        rw [List.foldl_cons, ih]
        simp only [keptAttrs, List.filter_cons, decide_eq_true_eq]
        split_ifs
        · rw [List.append_assoc, List.singleton_append]
        · rw [List.append_nil]
  exact hfold []

@[simp] lemma stripNonconstAttrs_idem (attrs : List (Attr π)) :
    stripNonconstAttrs (stripNonconstAttrs attrs) = stripNonconstAttrs attrs := by
  rw [stripNonconstAttrs_eq, stripNonconstAttrs_eq, keptAttrs, keptAttrs, List.filter_filter]
  simp only [Bool.and_self]

/-! ## Types -/

mutual

/-- The result has the shape of the type, whatever the attributes. -/
lemma shape_stripTypAttribs : ∀ t : Typ π ε, (stripTypAttribs t).shape = t.shape
  | .tPtr t _ => by
      have ih := shape_stripTypAttribs t
      simp only [Typ.shape] at ih
      simp only [stripTypAttribs, Typ.shape, Typ.mapAttrs, ih]
  | .tArray t _ _ => by
      have ih := shape_stripTypAttribs t
      simp only [Typ.shape] at ih
      simp only [stripTypAttribs, Typ.shape, Typ.mapAttrs, ih]
  | .tFun t none _ _ => by
      have ih := shape_stripTypAttribs t
      simp only [Typ.shape] at ih
      simp only [stripTypAttribs, Typ.shape, Typ.mapAttrs, ih]
  | .tFun t (some l) _ a => by
      have ih := shape_stripTypAttribs t
      simp only [Typ.shape] at ih
      simp only [stripTypAttribs, Typ.shape, Typ.mapAttrs, ih, shape_processElts a l]
  | .tVoid _ | .tInt _ _ | .tFloat _ _ | .tNamed _ _ | .tComp _ _ | .tEnum _ _
  | .tBuiltinVaList _ => by
      simp only [stripTypAttribs, Typ.shape, Typ.mapAttrs]

lemma shape_processElts (a : List (Attr π)) : ∀ l : List (Arg π ε),
    mapArgs (fun _ => []) (processElts a l) = mapArgs (fun _ => []) l
  | [] => by simp only [processElts]
  | (_, t, _) :: l => by
      have ih := shape_stripTypAttribs t
      simp only [Typ.shape] at ih
      simp only [processElts, mapArgs, ih, shape_processElts a l]

end

mutual

lemma stripTypAttribs_idem : ∀ t : Typ π ε,
    stripTypAttribs (stripTypAttribs t) = stripTypAttribs t
  | .tPtr t _ => by simp only [stripTypAttribs, stripNonconstAttrs_idem, stripTypAttribs_idem t]
  | .tArray t _ _ => by
      simp only [stripTypAttribs, stripNonconstAttrs_idem, stripTypAttribs_idem t]
  | .tFun t none _ _ => by
      simp only [stripTypAttribs, stripNonconstAttrs_idem, stripTypAttribs_idem t]
  | .tFun t (some l) _ a => by
      simp only [stripTypAttribs, stripNonconstAttrs_idem, stripTypAttribs_idem t,
        processElts_idem a l]
  | .tVoid _ | .tInt _ _ | .tFloat _ _ | .tNamed _ _ | .tComp _ _ | .tEnum _ _
  | .tBuiltinVaList _ => by
      simp only [stripTypAttribs, stripNonconstAttrs_idem]

lemma processElts_idem (a : List (Attr π)) : ∀ l : List (Arg π ε),
    processElts (stripNonconstAttrs a) (processElts a l) = processElts a l
  | [] => by simp only [processElts]
  | (_, t, _) :: l => by
      simp only [processElts, stripNonconstAttrs_idem, stripTypAttribs_idem t,
        processElts_idem a l]

end

mutual

lemma stripTypAttribs_eq_iff : ∀ t : Typ π ε,
    stripTypAttribs t = t.mapAttrs keptAttrs ↔ ArgsMatch t
  | .tPtr t _ => by
      simp only [stripTypAttribs, Typ.mapAttrs, stripNonconstAttrs_eq, Typ.tPtr.injEq, and_true,
        stripTypAttribs_eq_iff t, ArgsMatch, Typ.argAttrs]
  | .tArray t _ _ => by
      simp only [stripTypAttribs, Typ.mapAttrs, stripNonconstAttrs_eq, Typ.tArray.injEq, and_true,
        stripTypAttribs_eq_iff t, ArgsMatch, Typ.argAttrs]
  | .tFun t none _ _ => by
      simp only [stripTypAttribs, Typ.mapAttrs, stripNonconstAttrs_eq, Typ.tFun.injEq, and_true,
        stripTypAttribs_eq_iff t, ArgsMatch, Typ.argAttrs]
  | .tFun t (some l) _ a => by
      simp only [stripTypAttribs, Typ.mapAttrs, stripNonconstAttrs_eq, Typ.tFun.injEq, and_true,
        stripTypAttribs_eq_iff t, processElts_eq_iff a l, ArgsMatch, Typ.argAttrs,
        List.forall_mem_append, Option.some.injEq]
  | .tVoid _ | .tInt _ _ | .tFloat _ _ | .tNamed _ _ | .tComp _ _ | .tEnum _ _
  | .tBuiltinVaList _ => by
      simp only [stripTypAttribs, Typ.mapAttrs, stripNonconstAttrs_eq, ArgsMatch, Typ.argAttrs]
      exact iff_of_true trivial (List.forall_mem_nil _)

lemma processElts_eq_iff (a : List (Attr π)) : ∀ l : List (Arg π ε),
    processElts a l = mapArgs keptAttrs l ↔
      ∀ p ∈ argsAttrs a l, keptAttrs p.1 = keptAttrs p.2
  | [] => by
      simp only [processElts, mapArgs, argsAttrs]
      exact iff_of_true trivial (List.forall_mem_nil _)
  | (_, t, attrs) :: l => by
      have ih := stripTypAttribs_eq_iff t
      rw [ArgsMatch] at ih
      simp only [processElts, mapArgs, argsAttrs, stripNonconstAttrs_eq, List.cons.injEq,
        Prod.mk.injEq, true_and, List.forall_mem_cons, List.forall_mem_append, ih,
        processElts_eq_iff a l]
      tauto

end

/-- **When stripping only strips**: if and only if every argument has the same attributes to keep as
its function type. -/
theorem strips_only_iff (t : Typ π ε) : StripsOnly t ↔ ArgsMatch t := by
  rw [← stripTypAttribs_eq_iff]
  exact ⟨StripsOnly.attrs, fun h => ⟨shape_stripTypAttribs t, h, stripTypAttribs_idem t⟩⟩

/-- `int f(int x)` with a volatile function type. -/
def volatileFn : Typ ℕ ℕ :=
  .tFun (.tInt .iInt []) (some [("x", .tInt .iInt [], [])]) false [⟨"volatile", []⟩]

/-- The attribute is put on the parameter too. -/
theorem volatile_fn_spreads :
    stripTypAttribs volatileFn = .tFun (.tInt .iInt [])
      (some [("x", .tInt .iInt [], [⟨"volatile", []⟩])]) false [⟨"volatile", []⟩] ∧
    ¬ StripsOnly volatileFn := by
  have hstrip : stripTypAttribs volatileFn = .tFun (.tInt .iInt [])
      (some [("x", .tInt .iInt [], [⟨"volatile", []⟩])]) false [⟨"volatile", []⟩] := by
    simp [volatileFn, stripTypAttribs, processElts, stripNonconstAttrs]
  refine ⟨hstrip, fun h => ?_⟩
  have hattrs := h.attrs
  rw [hstrip] at hattrs
  simp [volatileFn, Typ.mapAttrs, mapArgs, keptAttrs] at hattrs

end SymDrive.Cil.Attributed
