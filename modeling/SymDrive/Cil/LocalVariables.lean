import SymDrive.Cil.GeneratedFunctions
import SymDrive.Cil.TypeAttributes

/-!
# The table of local variables

`get_local_variable` of `utils_dri.ml` makes the local variables of the generated code on demand.
What was made is found again under a string: the name of the function, the name of the variable and
the printed type in a row, without the white space.

`local_variables_iff` says for which calls every function gets variables of its own.  The three
parts of the key run into each other (`names_run_together`), and `makeLocalVar` makes no constant
variables.  The printer of types, `d_type` of the front end, is a parameter.
-/

namespace SymDrive.Cil.Attributed

variable {π ε : Type}

/-! ## Attributes of types -/

/-- `get_attribs`. -/
def getAttribs : Typ π ε → List (Attr π)
  | .tVoid a => a
  | .tInt _ a => a
  | .tFloat _ a => a
  | .tPtr _ a => a
  | .tArray _ _ a => a
  | .tFun _ _ _ a => a
  | .tNamed _ a => a
  | .tComp _ a => a
  | .tEnum _ a => a
  | .tBuiltinVaList a => a

def dropAttribute (an : String) (al : List (Attr π)) : List (Attr π) :=
  al.filter fun attr => an ≠ attr.name

def dropAttributes (anl : List String) (al : List (Attr π)) : List (Attr π) :=
  anl.foldl (fun acc an => dropAttribute an acc) al

def typeRemoveAttributes (anl : List String) : Typ π ε → Typ π ε
  | .tVoid a => .tVoid (dropAttributes anl a)
  | .tInt ik a => .tInt ik (dropAttributes anl a)
  | .tFloat fk a => .tFloat fk (dropAttributes anl a)
  | .tPtr t a => .tPtr t (dropAttributes anl a)
  | .tArray t l a => .tArray t l (dropAttributes anl a)
  | .tFun t args isva a => .tFun t args isva (dropAttributes anl a)
  | .tNamed t a => .tNamed t (dropAttributes anl a)
  | .tComp comp a => .tComp comp (dropAttributes anl a)
  | .tEnum enum a => .tEnum enum (dropAttributes anl a)
  | .tBuiltinVaList a => .tBuiltinVaList (dropAttributes anl a)

/-! ## The table -/

/-- A function, by the unique number of its variable and its name. -/
structure Fundec where
  vid : ℕ
  vname : String

/-- A local variable, with the number of the function whose `slocals` it is in. -/
structure Varinfo (π ε : Type) where
  vid : ℕ
  owner : ℕ
  vname : String
  vtype : Typ π ε

/-- `temporary_variables`, and the number of the next variable. -/
structure Temporaries (π ε : Type) where
  table : List (String × Varinfo π ε)
  nextVID : ℕ

/-- The arguments of a call of `get_local_variable`. -/
structure LocalCall (π ε : Type) where
  fdec : Fundec
  t : Typ π ε
  name : String

/-- `makeVarinfo` strips `const` from the type of a local. -/
def makeLocalVar (vid : ℕ) (fdec : Fundec) (name : String) (t : Typ π ε) : Varinfo π ε :=
  ⟨vid, fdec.vid, name, typeRemoveAttributes ["const"] t⟩

section

variable (typTostring : Typ π ε → String)

def typTostringNoattr (t : Typ π ε) : String := typTostring (stripTypAttribs t)

def LocalCall.hashkey (c : LocalCall π ε) : String :=
  Splitter.stripWhitespace (c.fdec.vname ++ c.name ++ typTostringNoattr typTostring c.t)

def getLocalVariable (s : Temporaries π ε) (c : LocalCall π ε) :
    Varinfo π ε × Temporaries π ε :=
  match s.table.lookup (c.hashkey typTostring) with
  | some v => (v, s)
  | none =>
      let newtempvar := makeLocalVar s.nextVID c.fdec c.name c.t
      (newtempvar, { table := (c.hashkey typTostring, newtempvar) :: s.table,
                     nextVID := s.nextVID + 1 })

/-- The calls of a run, each with the variable it returns. -/
def answers : Temporaries π ε → List (LocalCall π ε) → List (LocalCall π ε × Varinfo π ε)
  | _, [] => []
  | s, c :: cs =>
      (c, (getLocalVariable typTostring s c).1) ::
        answers (getLocalVariable typTostring s c).2 cs

/-- The table after a run. -/
def tableAfter (s : Temporaries π ε) (calls : List (LocalCall π ε)) : Temporaries π ε :=
  calls.foldl (fun s c => (getLocalVariable typTostring s c).2) s

/-- The table at the start; numbers have been given out before. -/
def Temporaries.start (nextVID : ℕ) : Temporaries π ε := ⟨[], nextVID⟩

/-! ## The specification -/

/-- **The specification of a run**: each call returns a local of its function, with the name and the
type of the call, and calls that differ in the function or in the type share no variable. -/
structure OwnVariables (nextVID : ℕ) (calls : List (LocalCall π ε)) : Prop where
  own : ∀ p ∈ answers typTostring (.start nextVID) calls,
    p.2.owner = p.1.fdec.vid ∧ p.2.vname = p.1.name ∧
      stripTypAttribs p.2.vtype = stripTypAttribs p.1.t
  apart : ∀ p ∈ answers typTostring (.start nextVID) calls,
    ∀ q ∈ answers typTostring (.start nextVID) calls,
      p.1.fdec.vid ≠ q.1.fdec.vid ∨ stripTypAttribs p.1.t ≠ stripTypAttribs q.1.t →
        p.2.vid ≠ q.2.vid

/-- **The condition**: calls whose strings run together to the same key ask for the same variable,
and no call asks for a constant one. -/
structure KeysApart (calls : List (LocalCall π ε)) : Prop where
  keys : ∀ a ∈ calls, ∀ b ∈ calls, a.hashkey typTostring = b.hashkey typTostring →
    a.fdec.vid = b.fdec.vid ∧ a.name = b.name ∧ stripTypAttribs a.t = stripTypAttribs b.t
  mutable : ∀ a ∈ calls, ∀ attr ∈ getAttribs a.t, attr.name ≠ "const"

end

/-! ## Types of locals -/

lemma dropAttributes_const (al : List (Attr π)) :
    dropAttributes ["const"] al = al.filter fun attr => attr.name ≠ "const" := by
  rw [dropAttributes, List.foldl_cons, List.foldl_nil, dropAttribute]
  exact List.filter_congr fun attr _ => decide_eq_decide.mpr ⟨Ne.symm, Ne.symm⟩

lemma getAttribs_remove (anl : List String) (t : Typ π ε) :
    getAttribs (typeRemoveAttributes anl t) = dropAttributes anl (getAttribs t) := by
  cases t <;> rfl

/-- Stripping keeps the attributes of the type itself that are to be kept. -/
lemma getAttribs_strip (t : Typ π ε) :
    getAttribs (stripTypAttribs t) = keptAttrs (getAttribs t) := by
  cases t with
  | tFun t args b a =>
      cases args <;> simp only [stripTypAttribs, getAttribs, stripNonconstAttrs_eq]
  | _ => simp only [stripTypAttribs, getAttribs, stripNonconstAttrs_eq]

/-- Removing nothing changes nothing. -/
lemma typeRemoveAttributes_of_mutable {t : Typ π ε}
    (h : ∀ attr ∈ getAttribs t, attr.name ≠ "const") : typeRemoveAttributes ["const"] t = t := by
  have hdrop : dropAttributes ["const"] (getAttribs t) = getAttribs t := by
    rw [dropAttributes_const, List.filter_eq_self]
    exact fun attr hattr => decide_eq_true (h attr hattr)
  cases t <;> simp only [getAttribs] at hdrop <;> simp only [typeRemoveAttributes, hdrop]

/-- A local has the type it was asked for with iff that is not constant. -/
lemma strip_remove_iff (t : Typ π ε) :
    stripTypAttribs (typeRemoveAttributes ["const"] t) = stripTypAttribs t ↔
      ∀ attr ∈ getAttribs t, attr.name ≠ "const" := by
  constructor
  · intro h attr hattr hconst
    have hkept : attr ∈ getAttribs (stripTypAttribs t) := by
      rw [getAttribs_strip, keptAttrs, List.mem_filter]
      exact ⟨hattr, decide_eq_true (Or.inl hconst)⟩
    rw [← h, getAttribs_strip, getAttribs_remove, dropAttributes_const, keptAttrs,
      List.mem_filter, List.mem_filter] at hkept
    exact of_decide_eq_true hkept.1.2 hconst
  · intro h
    rw [typeRemoveAttributes_of_mutable h]

/-- Types that strip to the same one are constant or not together. -/
lemma mutable_of_strip_eq {t t' : Typ π ε} (heq : stripTypAttribs t = stripTypAttribs t')
    (h : ∀ attr ∈ getAttribs t', attr.name ≠ "const") :
    ∀ attr ∈ getAttribs t, attr.name ≠ "const" := by
  intro attr hattr hconst
  have hkept : attr ∈ getAttribs (stripTypAttribs t) := by
    rw [getAttribs_strip, keptAttrs, List.mem_filter]
    exact ⟨hattr, decide_eq_true (Or.inl hconst)⟩
  rw [heq, getAttribs_strip, keptAttrs, List.mem_filter] at hkept
  exact h attr hkept.1 hconst

/-! ## Runs -/

section

variable {typTostring : Typ π ε → String}

/-- **The invariant.**  What the table holds was made for one of the calls, under its key, and no
number was given out twice. -/
structure Temporaries.MadeFor (typTostring : Typ π ε → String) (calls : List (LocalCall π ε))
    (s : Temporaries π ε) : Prop where
  made : ∀ k v, s.table.lookup k = some v →
    ∃ c ∈ calls, c.hashkey typTostring = k ∧ v = makeLocalVar v.vid c.fdec c.name c.t
  below : ∀ k v, s.table.lookup k = some v → v.vid < s.nextVID
  once : ∀ k k' v v', s.table.lookup k = some v → s.table.lookup k' = some v' → v.vid = v'.vid →
    k = k'

lemma getLocalVariable_table (s : Temporaries π ε) (c : LocalCall π ε) (k : String) :
    (getLocalVariable typTostring s c).2.table.lookup k =
      (s.table.lookup k).or (if k = c.hashkey typTostring then
        some (makeLocalVar s.nextVID c.fdec c.name c.t) else none) := by
  unfold getLocalVariable
  cases hfind : s.table.lookup (c.hashkey typTostring) with
  | some v =>
      dsimp only
      by_cases hk : k = c.hashkey typTostring
      · rw [hk, hfind, Option.some_or]
      · rw [if_neg hk, Option.or_none]
  | none =>
      dsimp only
      rw [List.lookup_cons]
      by_cases hk : k = c.hashkey typTostring
      · rw [hk, hfind, if_pos rfl, Option.none_or, beq_self_eq_true]
      · rw [if_neg hk, Option.or_none, beq_false_of_ne hk]

lemma Temporaries.start_lookup (nextVID : ℕ) (k : String) :
    (Temporaries.start nextVID : Temporaries π ε).table.lookup k = none := by
  rw [Temporaries.start, List.lookup_nil]

lemma Temporaries.start_madeFor (calls : List (LocalCall π ε)) (nextVID : ℕ) :
    (Temporaries.start nextVID).MadeFor typTostring calls where
  made := by
    intro k v h
    rw [start_lookup] at h
    cases h
  below := by
    intro k v h
    rw [start_lookup] at h
    cases h
  once := by
    intro k k' v v' h
    rw [start_lookup] at h
    cases h

/-- A key that was not there has come with its variable; the others are as they were. -/
lemma getLocalVariable_miss {s : Temporaries π ε} {c : LocalCall π ε}
    (hmiss : s.table.lookup (c.hashkey typTostring) = none) :
    (getLocalVariable typTostring s c).2 =
      ⟨(c.hashkey typTostring, makeLocalVar s.nextVID c.fdec c.name c.t) :: s.table,
        s.nextVID + 1⟩ := by
  rw [getLocalVariable, hmiss]

lemma getLocalVariable_hit {s : Temporaries π ε} {c : LocalCall π ε} {v : Varinfo π ε}
    (hhit : s.table.lookup (c.hashkey typTostring) = some v) :
    (getLocalVariable typTostring s c).2 = s := by
  rw [getLocalVariable, hhit]

/-- One call keeps the invariant. -/
lemma Temporaries.MadeFor.step {calls : List (LocalCall π ε)} {s : Temporaries π ε}
    (h : s.MadeFor typTostring calls) {c : LocalCall π ε} (hc : c ∈ calls) :
    (getLocalVariable typTostring s c).2.MadeFor typTostring calls := by
  cases hfind : s.table.lookup (c.hashkey typTostring) with
  | some v => rwa [getLocalVariable_hit hfind]
  | none =>
      have hcases : ∀ k v, (getLocalVariable typTostring s c).2.table.lookup k = some v →
          s.table.lookup k = some v ∨
            k = c.hashkey typTostring ∧ v = makeLocalVar s.nextVID c.fdec c.name c.t := by
        intro k v hk
        rw [getLocalVariable_table, Option.or_eq_some_iff] at hk
        rcases hk with hold | ⟨-, hnew⟩
        · exact Or.inl hold
        · split at hnew
          · exact Or.inr ⟨‹_›, (Option.some.inj hnew).symm⟩
          · exact absurd hnew.symm (Option.some_ne_none v)
      have hnext : (getLocalVariable typTostring s c).2.nextVID = s.nextVID + 1 := by
        rw [getLocalVariable_miss hfind]
      refine ⟨?_, ?_, ?_⟩
      · intro k v hk
        rcases hcases k v hk with hold | ⟨rfl, rfl⟩
        · exact h.made k v hold
        · exact ⟨c, hc, rfl, rfl⟩
      · intro k v hk
        rw [hnext]
        rcases hcases k v hk with hold | ⟨rfl, rfl⟩
        · exact Nat.lt_succ_of_lt (h.below k v hold)
        · exact Nat.lt_succ_self _
      · intro k k' v v' hk hk' heq
        -- The new number is above the old ones.
        rcases hcases k v hk with hold | ⟨rfl, rfl⟩
        · rcases hcases k' v' hk' with hold' | ⟨rfl, rfl⟩
          · exact h.once k k' v v' hold hold' heq
          · exact absurd heq (h.below k v hold).ne
        · rcases hcases k' v' hk' with hold' | ⟨rfl, rfl⟩
          · exact absurd heq.symm (h.below k' v' hold').ne
          · rfl

/-- A run keeps the invariant. -/
lemma Temporaries.MadeFor.run {calls : List (LocalCall π ε)} :
    ∀ {cs : List (LocalCall π ε)} {s : Temporaries π ε}, s.MadeFor typTostring calls →
      (∀ c ∈ cs, c ∈ calls) → (tableAfter typTostring s cs).MadeFor typTostring calls
  | [], _, h, _ => h
  | c :: cs, _, h, hcs => by
      rw [tableAfter, List.foldl_cons]
      exact (h.step (hcs c List.mem_cons_self)).run
        fun c' hc' => hcs c' (List.mem_cons_of_mem c hc')

/-- What a call returns is in the table under its key. -/
lemma getLocalVariable_lookup (s : Temporaries π ε) (c : LocalCall π ε) :
    (getLocalVariable typTostring s c).2.table.lookup (c.hashkey typTostring) =
      some (getLocalVariable typTostring s c).1 := by
  rw [getLocalVariable_table, if_pos rfl, getLocalVariable]
  cases s.table.lookup (c.hashkey typTostring) with
  | some v => rfl
  | none => rfl

/-- Nothing leaves the table. -/
lemma tableAfter_lookup {k : String} {v : Varinfo π ε} :
    ∀ {cs : List (LocalCall π ε)} {s : Temporaries π ε}, s.table.lookup k = some v →
      (tableAfter typTostring s cs).table.lookup k = some v
  | [], _, h => h
  | c :: cs, s, h => by
      rw [tableAfter, List.foldl_cons]
      apply tableAfter_lookup
      rw [getLocalVariable_table, h, Option.some_or]

/-- The answers are read off the table at the end. -/
lemma answers_lookup {c : LocalCall π ε} {v : Varinfo π ε} :
    ∀ {cs : List (LocalCall π ε)} {s : Temporaries π ε}, (c, v) ∈ answers typTostring s cs →
      c ∈ cs ∧ (tableAfter typTostring s cs).table.lookup (c.hashkey typTostring) = some v
  | [], _, h => absurd h List.not_mem_nil
  | c' :: cs, s, h => by
      rw [answers, List.mem_cons] at h
      rw [tableAfter, List.foldl_cons]
      rcases h with heq | htail
      · obtain ⟨rfl, rfl⟩ := Prod.mk.inj heq
        exact ⟨List.mem_cons_self, tableAfter_lookup (getLocalVariable_lookup s c)⟩
      · obtain ⟨hmem, hfind⟩ := answers_lookup htail
        exact ⟨List.mem_cons_of_mem c' hmem, hfind⟩

/-- Every call is answered. -/
lemma exists_answer {c : LocalCall π ε} :
    ∀ {cs : List (LocalCall π ε)} {s : Temporaries π ε}, c ∈ cs →
      ∃ v, (c, v) ∈ answers typTostring s cs
  | c' :: cs, s, h => by
      rw [answers]
      rcases List.mem_cons.mp h with rfl | htail
      · exact ⟨_, List.mem_cons_self⟩
      · obtain ⟨v, hv⟩ := exists_answer (s := (getLocalVariable typTostring s c').2) htail
        exact ⟨v, List.mem_cons_of_mem _ hv⟩

end

/-! ## The result -/

section

variable {typTostring : Typ π ε → String} {nextVID : ℕ} {calls : List (LocalCall π ε)}

lemma madeFor_tableAfter :
    (tableAfter typTostring (.start nextVID) calls).MadeFor typTostring calls :=
  (Temporaries.start_madeFor calls nextVID).run fun _ hc => hc

/-- What a call returns was made for a call with the same key. -/
lemma exists_maker {c : LocalCall π ε} {v : Varinfo π ε}
    (h : (c, v) ∈ answers typTostring (.start nextVID) calls) :
    ∃ c₀ ∈ calls, c₀.hashkey typTostring = c.hashkey typTostring ∧
      v = makeLocalVar v.vid c₀.fdec c₀.name c₀.t :=
  madeFor_tableAfter.made _ _ (answers_lookup h).2

/-- Calls that share a variable have the same key. -/
lemma key_of_vid {c d : LocalCall π ε} {v w : Varinfo π ε}
    (hv : (c, v) ∈ answers typTostring (.start nextVID) calls)
    (hw : (d, w) ∈ answers typTostring (.start nextVID) calls) (hvid : v.vid = w.vid) :
    c.hashkey typTostring = d.hashkey typTostring :=
  madeFor_tableAfter.once _ _ _ _ (answers_lookup hv).2 (answers_lookup hw).2 hvid

/-- Functions get variables of their own only where the keys tell the calls apart. -/
lemma OwnVariables.keys (h : OwnVariables typTostring nextVID calls) {a b : LocalCall π ε}
    (ha : a ∈ calls) (hb : b ∈ calls) (hkey : a.hashkey typTostring = b.hashkey typTostring) :
    a.fdec.vid = b.fdec.vid ∧ a.name = b.name ∧ stripTypAttribs a.t = stripTypAttribs b.t := by
  obtain ⟨v, hv⟩ := exists_answer (s := .start nextVID) ha
  obtain ⟨w, hw⟩ := exists_answer (s := .start nextVID) hb
  have hfind := (answers_lookup hv).2
  rw [hkey, (answers_lookup hw).2] at hfind
  obtain rfl := Option.some.inj hfind
  obtain ⟨hfun, hname, htype⟩ := h.own _ hv
  obtain ⟨hfun', hname', htype'⟩ := h.own _ hw
  exact ⟨hfun.symm.trans hfun', hname.symm.trans hname', htype.symm.trans htype'⟩

/-- The call that made a variable asked for the same type, which is not constant. -/
lemma OwnVariables.mutable (h : OwnVariables typTostring nextVID calls) {a : LocalCall π ε}
    (ha : a ∈ calls) : ∀ attr ∈ getAttribs a.t, attr.name ≠ "const" := by
  obtain ⟨v, hv⟩ := exists_answer (s := .start nextVID) ha
  obtain ⟨c, hc, hkey, heq⟩ := exists_maker hv
  have hsame := (h.keys hc ha hkey).2.2
  have htype := (h.own _ hv).2.2
  rw [heq] at htype
  exact mutable_of_strip_eq hsame.symm ((strip_remove_iff c.t).mp (htype.trans hsame.symm))

lemma KeysApart.ownVariables (h : KeysApart typTostring calls) :
    OwnVariables typTostring nextVID calls where
  own := by
    intro p hp
    obtain ⟨c, hc, hkey, heq⟩ := exists_maker hp
    obtain ⟨hfun, hname, htype⟩ := h.keys c hc p.1 (answers_lookup hp).1 hkey
    rw [heq]
    exact ⟨hfun, hname, ((strip_remove_iff c.t).mpr (h.mutable c hc)).trans htype⟩
  apart := by
    intro p hp q hq hdiff hvid
    obtain ⟨hfun, -, htype⟩ :=
      h.keys _ (answers_lookup hp).1 _ (answers_lookup hq).1 (key_of_vid hp hq hvid)
    rcases hdiff with hne | hne
    · exact hne hfun
    · exact hne htype

end

/-- The calls of a run get variables of their own iff their keys tell them apart. -/
theorem local_variables_iff (typTostring : Typ π ε → String) (nextVID : ℕ)
    (calls : List (LocalCall π ε)) :
    OwnVariables typTostring nextVID calls ↔ KeysApart typTostring calls := by
  constructor
  · exact fun h => ⟨fun a ha b hb => h.keys ha hb, fun a ha => h.mutable ha⟩
  · exact fun h => h.ownVariables

/-- `ab` with a variable `c` and `a` with a variable `bc` have one key: the second function is given
the variable of the first. -/
theorem names_run_together :
    ¬ OwnVariables (fun _ : Typ Unit Unit => "int") 100
      [⟨⟨1, "ab"⟩, .tInt .iInt [], "c"⟩, ⟨⟨2, "a"⟩, .tInt .iInt [], "bc"⟩] := by
  intro h
  have hown := (h.own _ (List.mem_cons_of_mem _ List.mem_cons_self)).1
  exact absurd hown (by decide)

end SymDrive.Cil.Attributed
