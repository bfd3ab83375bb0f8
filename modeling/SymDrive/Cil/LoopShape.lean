import Mathlib.Data.List.Nodup
import Mathlib.Data.List.Perm.Basic
import SymDrive.Cil.Instrument

/-!
# The calls around a loop

Where the prioritization pass puts its three calls for a loop: directly before it, directly after
it, and once into its body, at the end or in front of the `Break` or `Continue` that ends the body.

The number of a loop is counted up over the whole file, inner loops first, and the second phase
leaves the three calls where they are.  So every loop of the file has its own number, on one call of
each kind (`loops_instrumented`).
-/

namespace SymDrive.Cil

open Checked

/-! ## Blocks and calls of a tree -/

mutual

/-- The blocks in a statement. -/
def Stmt.blocks : Stmt → List (List Stmt)
  | .instr _ _ | .ret _ _ | .goto _ _ | .brk _ | .cont _ => []
  | .cond _ b1 b2 => b1 :: (blocksOf b1 ++ b2 :: blocksOf b2)
  | .switch _ b | .loop _ b | .block _ b => b :: blocksOf b

/-- The blocks in the statements of a block. -/
def blocksOf : List Stmt → List (List Stmt)
  | [] => []
  | s :: ss => s.blocks ++ blocksOf ss

end

/-- Which of the three calls. -/
inductive LoopCall where
  | before
  | body
  | after
  deriving DecidableEq, Repr

/-- The number on a call. -/
def Call.loopId? : LoopCall → Call → Option ℤ
  | .before, .s2eLoopBefore id => some id
  | .body, .s2eLoopBody id => some id
  | .after, .s2eLoopAfter id => some id
  | _, _ => none

def Stmt.loopId? (kind : LoopCall) : Stmt → Option ℤ
  | .instr _ (.call c) => c.loopId? kind
  | _ => none

/-- The numbers on all calls of one kind. -/
def callIds (kind : LoopCall) (ss : List Stmt) : List ℤ :=
  (recordsOf ss).filterMap (Stmt.loopId? kind)

/-! ## The specification -/

/-- A loop body with one call of `s2e_loop_body` of its own, at its end or in front of a jump that
ends it. -/
structure BodyShape (k : ℤ) (b front back : List Stmt) (x : Sid) : Prop where
  eq : b = front ++ .instr x (.call (.s2eLoopBody k)) :: back
  last : back = [] ∨ ∃ jump, back = [jump] ∧ jump.isJumpOut = true
  once : ∀ s ∈ front ++ back, s.loopId? .body = none

/-- The loop `l` stands between its two calls, and in its body is the third one. -/
def LoopShape (ss : List Stmt) (l : Sid) (k : ℤ) : Prop :=
  ∃ block ∈ ss :: blocksOf ss, ∃ x b y,
    [.instr x (.call (.s2eLoopBefore k)), .loop l b,
        .instr y (.call (.s2eLoopAfter k))] <:+: block ∧
      ∃ front back z, BodyShape k b front back z

/-- **The specification of one function**, whose loops have the numbers `ids`: each has its shape,
and there are no other calls of the three kinds. -/
structure Instrumented (f : Fundec) (ids : List (Sid × ℤ)) (b : Body) : Prop where
  loops : ids.map Prod.fst = loopsOf f.sbody.stmts
  shape : ∀ p ∈ ids, LoopShape b.stmts p.1 p.2
  calls : ∀ kind, (callIds kind b.stmts).Perm (ids.map Prod.snd)

/-! ## Numbers -/

/-- Loops that are numbered one after the other, from `n + 1` on. -/
def numbered (n : ℤ) : List Sid → List (Sid × ℤ)
  | [] => []
  | l :: ls => (l, n + 1) :: numbered (n + 1) ls

lemma numbered_append (n : ℤ) (ls ls' : List Sid) :
    numbered n (ls ++ ls') = numbered n ls ++ numbered (n + ls.length) ls' := by
  induction ls generalizing n with
  | nil => simp [numbered]
  | cons l ls ih =>
      simp only [List.cons_append, numbered, ih, List.length_cons, Int.natCast_add, Int.add_assoc]
      rw [Int.add_comm 1 (ls.length : ℤ)]
      rfl

@[simp] lemma map_fst_numbered (n : ℤ) (ls : List Sid) : (numbered n ls).map Prod.fst = ls := by
  induction ls generalizing n with
  | nil => rfl
  | cons l ls ih => rw [numbered, List.map_cons, ih]

lemma lt_of_mem_numbered {n k : ℤ} {ls : List Sid} (h : k ∈ (numbered n ls).map Prod.snd) :
    n < k := by
  induction ls generalizing n with
  | nil => exact absurd h List.not_mem_nil
  | cons l ls ih =>
      rw [numbered, List.map_cons, List.mem_cons] at h
      rcases h with rfl | h
      · omega
      · have hlt := ih h
        omega

lemma nodup_numbered (n : ℤ) (ls : List Sid) : ((numbered n ls).map Prod.snd).Nodup := by
  induction ls generalizing n with
  | nil => exact List.nodup_nil
  | cons l ls ih =>
      rw [numbered, List.map_cons, List.nodup_cons]
      exact ⟨fun h => absurd (lt_of_mem_numbered h) (Int.lt_irrefl _), ih (n + 1)⟩

/-! ## The shape of the instrumented tree -/

lemma blocksOf_append (ss ss' : List Stmt) :
    blocksOf (ss ++ ss') = blocksOf ss ++ blocksOf ss' := by
  induction ss with
  | nil => rfl
  | cons s ss ih => simp only [List.cons_append, blocksOf, ih, List.append_assoc]

section

variable {ss ss' : List Stmt} {l : Sid} {k : ℤ}

/-- A shape in a part of a block. -/
lemma LoopShape.append (h : LoopShape ss l k) (pre post : List Stmt) :
    LoopShape (pre ++ ss ++ post) l k := by
  obtain ⟨block, hblock, x, b, y, hinfix, hbody⟩ := h
  rcases List.mem_cons.mp hblock with rfl | hblock
  · exact ⟨_, List.mem_cons_self, x, b, y, hinfix.trans ⟨pre, post, rfl⟩, hbody⟩
  · refine ⟨block, List.mem_cons_of_mem _ ?_, x, b, y, hinfix, hbody⟩
    rw [blocksOf_append, blocksOf_append]
    exact List.mem_append_left _ (List.mem_append_right _ hblock)

/-- A shape in a block of a statement. -/
lemma LoopShape.nested (h : LoopShape ss l k) {s : Stmt} (hs : ss ∈ s.blocks)
    (hsub : blocksOf ss ⊆ s.blocks) : LoopShape [s] l k := by
  obtain ⟨block, hblock, hshape⟩ := h
  refine ⟨block, List.mem_cons_of_mem _ ?_, hshape⟩
  rw [blocksOf, blocksOf, List.append_nil]
  rcases List.mem_cons.mp hblock with rfl | hblock
  · exact hs
  · exact hsub hblock

end

/-- Where the call in the loop body is put. -/
lemma addLoopBody_eq (call : Stmt) (body : List Stmt) : ∃ front back, body = front ++ back ∧
    addLoopBody call body = front ++ call :: back ∧
      (back = [] ∨ ∃ jump, back = [jump] ∧ jump.isJumpOut = true) := by
  rw [addLoopBody]
  rcases List.eq_nil_or_concat body with rfl | ⟨front, last, rfl⟩
  · exact ⟨[], [], rfl, rfl, .inl rfl⟩
  · rw [List.concat_eq_append, List.getLast?_concat]
    dsimp only
    split_ifs with hjump
    · exact ⟨front, [last], rfl, by simp, .inr ⟨last, rfl, hjump⟩⟩
    · exact ⟨front ++ [last], [], by simp, by simp, .inl rfl⟩

section

variable {a : PassArgs} {f : Fundec} {redirect : Sid → Sid → Option Sid}

/-- No call is inserted by hand. -/
def CodeOnly (ss : List Stmt) : Prop := ∀ id c, .instr id (.call c) ∉ recordsOf ss

lemma CodeOnly.append {ss ss' : List Stmt} :
    CodeOnly (ss ++ ss') ↔ CodeOnly ss ∧ CodeOnly ss' := by
  simp only [CodeOnly, recordsOf_append, List.mem_append, not_or, forall_and]

lemma CodeOnly.cons {s : Stmt} {ss : List Stmt} :
    CodeOnly (s :: ss) ↔ CodeOnly [s] ∧ CodeOnly ss :=
  @CodeOnly.append [s] ss

/-- The blocks of a statement. -/
lemma CodeOnly.nested {s : Stmt} {b : List Stmt} (h : CodeOnly [s])
    (hsub : recordsOf b ⊆ recordsOf [s]) : CodeOnly b :=
  fun id c hmem => h id c (hsub hmem)

lemma loopId?_preReturn {s : Sid} {e : Option RetExp} {kind : LoopCall} :
    ∀ x ∈ preReturn a f s e, x.loopId? kind = none := by
  intro x hx
  rw [preReturn, genDrivermacroCall, List.mem_append] at hx
  rcases hx with hx | hx
  · split_ifs at hx
    · rw [List.mem_singleton.mp hx]
      cases kind <;> rfl
    · exact absurd hx List.not_mem_nil
  · split_ifs at hx
    · rw [List.mem_singleton.mp hx]
      cases kind <;> rfl
    · exact absurd hx List.not_mem_nil

lemma recordsOf_instr {ss : List Stmt} (h : ∀ x ∈ ss, ∃ id c, x = .instr id (.call c)) :
    recordsOf ss = ss := by
  induction ss with
  | nil => rfl
  | cons s ss ih =>
      obtain ⟨id, c, rfl⟩ := h s List.mem_cons_self
      rw [recordsOf, ih fun x hx => h x (List.mem_cons_of_mem _ hx)]
      rfl

/-- At the top level of an instrumented block stands no call of `s2e_loop_body`. -/
lemma loopId?_instrument {s : Stmt} (hcode : CodeOnly [s]) (n : ℤ) :
    ∀ x ∈ s.instrument (preReturn a f) redirect n, x.loopId? .body = none := by
  intro x hx
  cases s with
  | instr id i =>
      obtain rfl := List.mem_singleton.mp hx
      cases i with
      | code fallsThrough => rfl
      | call c => exact absurd List.mem_cons_self (hcode id c)
  | ret id e =>
      rcases List.mem_append.mp hx with hx | hx
      · exact loopId?_preReturn x hx
      · rw [List.mem_singleton.mp hx]
        rfl
  | goto g t =>
      rw [Stmt.instrument] at hx
      split at hx
      · rw [List.mem_singleton.mp hx]
        rfl
      · rw [List.mem_singleton.mp hx]
        rfl
  | loop id b =>
      rw [Stmt.instrument] at hx
      simp only [List.mem_cons, List.not_mem_nil, or_false] at hx
      rcases hx with rfl | rfl | rfl
      · rfl
      · rfl
      · rfl
  | _ =>
      rw [List.mem_singleton.mp hx]
      rfl

lemma loopId?_instrumentBlock {ss : List Stmt} (hcode : CodeOnly ss) (n : ℤ) :
    ∀ x ∈ instrumentBlock (preReturn a f) redirect n ss, x.loopId? .body = none := by
  induction ss generalizing n with
  | nil => exact fun x hx => absurd hx List.not_mem_nil
  | cons s ss ih =>
      obtain ⟨hs, hss⟩ := CodeOnly.cons.mp hcode
      intro x hx
      rcases List.mem_append.mp hx with hx | hx
      · exact loopId?_instrument hs n x hx
      · exact ih hss _ x hx

/-- The call that is put into a loop body leaves the shapes in it alone: it stands at the end, or in
front of a jump, which is no part of a shape. -/
lemma LoopShape.addLoopBody {body : List Stmt} {l : Sid} {k : ℤ} (h : LoopShape body l k)
    (call : Stmt) : LoopShape (SymDrive.Cil.addLoopBody call body) l k := by
  obtain ⟨front, back, rfl, hadd, hback⟩ := addLoopBody_eq call body
  rw [hadd]
  have hfront : LoopShape front l k := by
    rcases hback with rfl | ⟨jump, rfl, hjump⟩
    · rwa [List.append_nil] at h
    · obtain ⟨block, hblock, x, b, y, hinfix, hbody⟩ := h
      rcases List.mem_cons.mp hblock with rfl | hblock
      · refine ⟨front, List.mem_cons_self, x, b, y, ?_, hbody⟩
        rcases List.infix_concat_iff.mp hinfix with ⟨pre, hsuffix⟩ | hinfix
        · have hlast := congrArg List.getLast? hsuffix
          rw [List.getLast?_concat, List.getLast?_append] at hlast
          obtain rfl := Option.some.inj hlast
          exact absurd hjump (by simp [Stmt.isJumpOut])
        · exact hinfix
      · refine ⟨block, List.mem_cons_of_mem _ ?_, x, b, y, hinfix, hbody⟩
        rw [blocksOf_append] at hblock
        rcases List.mem_append.mp hblock with hblock | hblock
        · exact hblock
        · cases jump <;> simp_all [blocksOf, Stmt.blocks, Stmt.isJumpOut]
  exact hfront.append [] (call :: back)

/-- **Every loop has its shape**, in a block and in the blocks in it. -/
lemma shape_instrumentBlock {ss : List Stmt} (hcode : CodeOnly ss) (n : ℤ) :
    ∀ p ∈ numbered n (loopsOf ss),
      LoopShape (instrumentBlock (preReturn a f) redirect n ss) p.1 p.2 := by
  induction ss using blockInduct generalizing n with
  | nil => exact fun p hp => absurd hp List.not_mem_nil
  | cons s ss hs hss =>
      obtain ⟨hcode, hcodes⟩ := CodeOnly.cons.mp hcode
      intro p hp
      rw [loopsOf, numbered_append, List.mem_append] at hp
      rw [instrumentBlock]
      rcases hp with hp | hp
      · have h := hs hcode n p (by rwa [loopsOf, loopsOf, List.append_nil])
        rw [instrumentBlock, instrumentBlock, List.append_nil] at h
        exact h.append [] _
      · have h := (hss hcodes _ p hp).append (s.instrument (preReturn a f) redirect n) []
        rwa [List.append_nil] at h
  | loop id b ih =>
      have hb : CodeOnly b := hcode.nested (by simp [recordsOf, Stmt.records])
      intro p hp
      rw [loopsOf, loopsOf, List.append_nil, Stmt.loops, numbered_append, List.mem_append] at hp
      rw [instrumentBlock, instrumentBlock, List.append_nil, Stmt.instrument]
      obtain ⟨front, back, hbody, hadd, hback⟩ := addLoopBody_eq
        (.instr (.loopBody id) (.call (.s2eLoopBody (n + (loopsOf b).length + 1))))
        (instrumentBlock (preReturn a f) redirect n b)
      rcases hp with hp | hp
      · -- an inner loop
        have h := (ih hb n p hp).addLoopBody
          (.instr (.loopBody id) (.call (.s2eLoopBody (n + (loopsOf b).length + 1))))
        have hloop := h.nested (s := .loop id _) List.mem_cons_self (List.subset_cons_self _ _)
        exact hloop.append [_] [_]
      · obtain rfl := List.mem_singleton.mp hp
        refine ⟨_, List.mem_cons_self, _, _, _, List.infix_rfl, front, back, .loopBody id, hadd,
          hback, ?_⟩
        rw [← hbody]
        exact loopId?_instrumentBlock hb n
  | cond id b1 b2 ih1 ih2 =>
      have hb1 : CodeOnly b1 := hcode.nested (by simp [recordsOf, Stmt.records])
      have hb2 : CodeOnly b2 := hcode.nested (by simp [recordsOf, Stmt.records])
      intro p hp
      rw [loopsOf, loopsOf, List.append_nil, Stmt.loops, numbered_append, List.mem_append] at hp
      rw [instrumentBlock, instrumentBlock, List.append_nil, Stmt.instrument]
      rcases hp with hp | hp
      · exact (ih1 hb1 n p hp).nested (by simp [Stmt.blocks]) (by simp [Stmt.blocks])
      · refine (ih2 hb2 _ p hp).nested (by simp [Stmt.blocks]) fun block hblock => ?_
        exact List.mem_cons_of_mem _ (List.mem_append_right _ (List.mem_cons_of_mem _ hblock))
  | switch id b ih =>
      have hb : CodeOnly b := hcode.nested (by simp [recordsOf, Stmt.records])
      intro p hp
      rw [loopsOf, loopsOf, List.append_nil, Stmt.loops] at hp
      exact (ih hb n p hp).nested List.mem_cons_self (List.subset_cons_self _ _)
  | block id b ih =>
      have hb : CodeOnly b := hcode.nested (by simp [recordsOf, Stmt.records])
      intro p hp
      rw [loopsOf, loopsOf, List.append_nil, Stmt.loops] at hp
      exact (ih hb n p hp).nested List.mem_cons_self (List.subset_cons_self _ _)
  | _ => exact fun p hp => absurd hp List.not_mem_nil

/-! ## The calls of the instrumented tree -/

variable {kind : LoopCall}

@[simp] lemma callIds_append (ss ss' : List Stmt) :
    callIds kind (ss ++ ss') = callIds kind ss ++ callIds kind ss' := by
  rw [callIds, recordsOf_append, List.filterMap_append]
  rfl

lemma callIds_cons (s : Stmt) (ss : List Stmt) :
    callIds kind (s :: ss) = callIds kind [s] ++ callIds kind ss :=
  callIds_append [s] ss

lemma callIds_of_none {ss : List Stmt} (h : ∀ x ∈ recordsOf ss, x.loopId? kind = none) :
    callIds kind ss = [] :=
  List.filterMap_eq_nil_iff.mpr h

lemma callIds_preReturn (s : Sid) (e : Option RetExp) :
    callIds kind (preReturn a f s e) = [] := by
  refine callIds_of_none ?_
  rw [recordsOf_instr (preReturn_instr s e)]
  exact loopId?_preReturn

lemma callIds_call (x : Sid) (c : Call) :
    callIds kind [.instr x (.call c)] = (c.loopId? kind).toList := by
  cases h : c.loopId? kind <;> simp [callIds, recordsOf, Stmt.records, Stmt.loopId?, h]

/-- A statement that is no call has the calls of its blocks. -/
lemma callIds_nested {s : Stmt} {b : List Stmt} (hs : s.loopId? kind = none)
    (hrecords : s.records = s :: recordsOf b) : callIds kind [s] = callIds kind b := by
  rw [callIds, recordsOf, recordsOf, List.append_nil, hrecords, List.filterMap_cons_none hs]
  rfl

/-- One call is added to a loop body. -/
lemma callIds_addLoopBody (call : Stmt) (body : List Stmt) :
    (callIds kind (addLoopBody call body)).Perm (callIds kind body ++ callIds kind [call]) := by
  obtain ⟨front, back, rfl, hadd, _⟩ := addLoopBody_eq call body
  rw [hadd, callIds_append, callIds_cons, callIds_append, List.append_assoc]
  exact List.perm_append_comm.append_left _

/-- **No other calls** are in an instrumented block. -/
lemma callIds_instrumentBlock {ss : List Stmt} (hcode : CodeOnly ss) (n : ℤ) :
    (callIds kind (instrumentBlock (preReturn a f) redirect n ss)).Perm
      ((numbered n (loopsOf ss)).map Prod.snd) := by
  induction ss using blockInduct generalizing n with
  | nil => exact List.Perm.refl _
  | cons s ss hs hss =>
      obtain ⟨hcode, hcodes⟩ := CodeOnly.cons.mp hcode
      have hhead := hs hcode n
      rw [instrumentBlock, instrumentBlock, List.append_nil, loopsOf, loopsOf,
        List.append_nil] at hhead
      rw [instrumentBlock, callIds_append, loopsOf, numbered_append, List.map_append]
      exact hhead.append (hss hcodes _)
  | instr id i =>
      cases i with
      | code fallsThrough => exact List.Perm.refl _
      | call c => exact absurd List.mem_cons_self (hcode id c)
  | ret id e =>
      rw [instrumentBlock, instrumentBlock, List.append_nil, Stmt.instrument, callIds_append,
        callIds_preReturn]
      exact List.Perm.refl _
  | goto g t =>
      rw [instrumentBlock, instrumentBlock, List.append_nil, Stmt.instrument]
      split
      · exact List.Perm.refl _
      · exact List.Perm.refl _
  | loop id b ih =>
      have hb : CodeOnly b := hcode.nested (by simp [recordsOf, Stmt.records])
      rw [instrumentBlock, instrumentBlock, List.append_nil, Stmt.instrument, loopsOf, loopsOf,
        List.append_nil, Stmt.loops, numbered_append, List.map_append]
      have hbody := (callIds_addLoopBody
        (.instr (.loopBody id) (.call (.s2eLoopBody (n + (loopsOf b).length + 1))))
        (instrumentBlock (preReturn a f) redirect n b)).trans ((ih hb n).append_right _)
      rw [callIds_cons, callIds_cons (.loop id _), callIds_call, callIds_call,
        callIds_nested rfl rfl]
      rw [callIds_call] at hbody
      cases kind with
      | before =>
          have hinner := by simpa [Call.loopId?] using hbody
          simpa [Call.loopId?, numbered] using
            (hinner.cons _).trans (List.perm_append_singleton _ _).symm
      | body => simpa [Call.loopId?, numbered] using hbody
      | after =>
          have hinner := by simpa [Call.loopId?] using hbody
          simpa [Call.loopId?, numbered] using hinner.append_right [n + (loopsOf b).length + 1]
  | cond id b1 b2 ih1 ih2 =>
      have hb1 : CodeOnly b1 := hcode.nested (by simp [recordsOf, Stmt.records])
      have hb2 : CodeOnly b2 := hcode.nested (by simp [recordsOf, Stmt.records])
      rw [instrumentBlock, instrumentBlock, List.append_nil, Stmt.instrument, loopsOf, loopsOf,
        List.append_nil, Stmt.loops, numbered_append, List.map_append,
        callIds_nested rfl (by rw [Stmt.records, ← recordsOf_append]), callIds_append]
      exact (ih1 hb1 n).append (ih2 hb2 _)
  | switch id b ih =>
      have hb : CodeOnly b := hcode.nested (by simp [recordsOf, Stmt.records])
      rw [instrumentBlock, instrumentBlock, List.append_nil, Stmt.instrument, loopsOf, loopsOf,
        List.append_nil, Stmt.loops, callIds_nested rfl rfl]
      exact ih hb n
  | block id b ih =>
      have hb : CodeOnly b := hcode.nested (by simp [recordsOf, Stmt.records])
      rw [instrumentBlock, instrumentBlock, List.append_nil, Stmt.instrument, loopsOf, loopsOf,
        List.append_nil, Stmt.loops, callIds_nested rfl rfl]
      exact ih hb n
  | _ => exact List.Perm.refl _

end

/-! ## The file -/

/-- The functions of a file with the numbers of their loops. -/
def numberFile (n : ℤ) : List Fundec → List (Fundec × List (Sid × ℤ))
  | [] => []
  | f :: fs => (f, numbered n (loopsOf f.sbody.stmts)) ::
      numberFile (n + (loopsOf f.sbody.stmts).length) fs

lemma map_fst_numberFile (n : ℤ) (fs : List Fundec) : (numberFile n fs).map Prod.fst = fs := by
  induction fs generalizing n with
  | nil => rfl
  | cons f fs ih => rw [numberFile, List.map_cons, ih]

/-- The loops of a file are numbered one after the other. -/
lemma flatMap_numberFile (n : ℤ) (fs : List Fundec) :
    (numberFile n fs).flatMap Prod.snd =
      numbered n (fs.flatMap fun f => loopsOf f.sbody.stmts) := by
  induction fs generalizing n with
  | nil => rfl
  | cons f fs ih => rw [numberFile, List.flatMap_cons, List.flatMap_cons, numbered_append, ih]

section

variable {a : PassArgs} {hits : Sid → Bool}

lemma rewritten_instrumented {f : Fundec} {p : PassState} {e : Option RetExp}
    (hcode : CodeOnly f.sbody.stmts) :
    Instrumented f (numbered p.currentId (loopsOf f.sbody.stmts)) (rewritten a f hits p e) where
  loops := map_fst_numbered _ _
  shape := fun q hq => by
    have hbody : LoopShape (instrumentBlock (preReturn a f)
        (redirectOf hits (afterPhaseOne a f p)) p.currentId f.sbody.stmts) q.1 q.2 :=
      shape_instrumentBlock hcode p.currentId q hq
    have h := hbody.append (prefnStmts a f e) []
    rwa [List.append_nil] at h
  calls := fun kind => by
    have hnone : callIds kind (prefnStmts a f e) = [] := by
      rw [prefnStmts]
      split_ifs
      · cases kind <;> rfl
      · rfl
    rw [rewritten, callIds_append, hnone]
    exact callIds_instrumentBlock hcode p.currentId

lemma processFrom_instrumented {file : List Fundec} {bs : List Body} {p : PassState}
    (hcode : ∀ f ∈ file, CodeOnly f.sbody.stmts) (hdepth : p.loopDepth ≤ 0)
    (hfile : processFrom a hits p file = .ok bs) :
    List.Forall₂ (fun n b => Instrumented n.1 n.2 b) (numberFile p.currentId file) bs := by
  induction file generalizing p bs with
  | nil =>
      cases hfile
      exact List.Forall₂.nil
  | cons f fs ih =>
      rw [processFrom] at hfile
      obtain ⟨⟨b, p'⟩, hvglob, hfile⟩ := bind_eq_ok.mp hfile
      obtain ⟨bs', hfs, hfile⟩ := bind_eq_ok.mp hfile
      cases hfile
      obtain ⟨e, hret, hr⟩ := (vglob_eq_ok hdepth).mp hvglob
      cases hr
      have hsettled := @afterPhaseOne_settled a f hits p hdepth
      have hid : (afterPhaseOne a f p).currentId =
          p.currentId + (loopsOf f.sbody.stmts).length :=
        effectsOf_currentId _ (fun s _ => effects_currentId _ s) _
      have htail := ih (fun g hg => hcode g (List.mem_cons_of_mem _ hg))
        (hsettled.redirected _ _).depth hfs
      rw [PassState.redirected, hid] at htail
      exact List.Forall₂.cons (rewritten_instrumented (hcode f List.mem_cons_self)) htail

end

/-- **The calls around the loops** of a file: every loop has its own number, and the three calls
with this number, where they belong, and no other. -/
theorem loops_instrumented {a : PassArgs} {hits : Sid → Bool} {file : List Fundec}
    {bs : List Body} (hwf : ∀ f ∈ file, f.sbody.WellFormed) (h : process a hits file = .ok bs) :
    ∃ numbering : List (Fundec × List (Sid × ℤ)),
      numbering.map Prod.fst = file ∧
      ((numbering.flatMap Prod.snd).map Prod.snd).Nodup ∧
      List.Forall₂ (fun n b => Instrumented n.1 n.2 b) numbering bs := by
  refine ⟨numberFile 0 file, map_fst_numberFile 0 file, ?_, ?_⟩
  · rw [flatMap_numberFile]
    exact nodup_numbered _ _
  · exact processFrom_instrumented (fun f hf => (hwf f hf).code) (Int.le_refl 0) h

/-- `while (1) { while (1) { break; } }  return;` -/
def loopInLoop : Fundec where
  vname := "rx"
  returnsVoid := true
  sbody :=
    { stmts := [.loop (.source 0) [.loop (.source 1) [.brk (.source 2)]], .ret (.source 3) none]
      labels := fun _ => [] }

theorem loops_instrumented_nested :
    ∃ b, process txPair (fun _ => true) [loopInLoop] = .ok [b] ∧
      ∃ numbering : List (Fundec × List (Sid × ℤ)),
        numbering.map Prod.fst = [loopInLoop] ∧
        ((numbering.flatMap Prod.snd).map Prod.snd).Nodup ∧
        List.Forall₂ (fun n b => Instrumented n.1 n.2 b) numbering [b] := by
  have hprocess : process txPair (fun _ => true) [loopInLoop] = .ok [_] :=
    process_singleton (e := none) rfl
  refine ⟨_, hprocess, loops_instrumented (fun f hf => ?_) hprocess⟩
  obtain rfl := List.mem_singleton.mp hf
  constructor
  · simp [loopInLoop, idsOf, Stmt.ids]
  · simp [loopInLoop, recordsOf, Stmt.records]
  · simp [loopInLoop, idsOf, Stmt.ids]
  · simp [loopInLoop, idsOf, Stmt.ids]
  · simp [loopInLoop, gotosOf, Stmt.gotos]

end SymDrive.Cil
