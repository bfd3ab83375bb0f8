import SymDrive.Library.Walks
import SymDrive.Cil.Records

/-!
# The loop notifications balance

The calls of `s2e_loop_before` and `s2e_loop_after` tell the symbolic execution engine which loops
control is in.  Along a path they are read by a stack machine, `notify`; it should always hold the
loops around the record that comes next, `Body.openLoops`.

The idea is an annotation of the records: `Lawful` says of an edge that the calls made on it turn
the loops of its source into those of its target.  Every edge that is not a jump is lawful
(`law_instrumentBlock`, by induction over the source), and a jump makes no call at all, because
`loop_depth` is never positive when one is redirected.  So the calls balance along a path exactly if
its jumps stay inside their loops.
-/

namespace SymDrive.Cil

open Walks

/-! ## Open loops -/

/-- What the call at a record does to the open loops, innermost first: `s2e_loop_after` needs its
`s2e_loop_before`. -/
def notify (loops : List Sid) : Sid → Option (List Sid)
  | .loopBefore l => some (l :: loops)
  | .loopAfter l =>
      match loops with
      | l' :: rest => if l' = l then some rest else none
      | [] => none
  | .gotoAfter _ _ =>
      match loops with
      | _ :: rest => some rest
      | [] => none
  | _ => some loops

def Sid.isGotoAfter (g : Sid) : Sid → Bool
  | .gotoAfter g' _ => decide (g' = g)
  | _ => false

/-- The calls in front of a redirected `Goto` close the loops that it leaves, one by one. -/
def Body.gotoAfters (b : Body) (g : Sid) : ℕ := (idsOf b.stmts).countP (Sid.isGotoAfter g)

/-- The loops that are to be open when control reaches a record: those around it, and at a `Loop`
and at the call after it the loop itself. -/
def Node.openLoops (gotoAfters : Sid → ℕ) : Node → List Sid
  | (.loop l _, c) => l :: c.loops
  | (.instr (.loopAfter l) _, c) => l :: c.loops
  | (.instr (.gotoAfter _ i) _, c) => c.loops.drop i
  | (.goto (.newGoto g) _, c) => c.loops.drop (gotoAfters g)
  | (_, c) => c.loops

namespace Body

def openLoops (b : Body) (x : Sid) : List Sid :=
  ((b.nodeAt x).map (Node.openLoops b.gotoAfters)).getD []

/-- **Balance** along a path: before every record the calls made so far leave open the loops it is
in, and when the function returns they leave none open.  A loop wants its call from before it
however it is entered, by a jump into its body too. -/
structure LoopsBalanced (b : Body) (path : List Sid) : Prop where
  inside : Annotated notify b.openLoops [] path
  returns : ∀ front x back, path = front ++ x :: back → x ∈ returnsOf b.stmts →
    front.foldlM notify [] = some []

end Body

def Stmt.isJump : Stmt → Bool
  | .goto _ _ | .switch _ _ => true
  | _ => false

/-- No `Goto` and no dispatch of a `Switch` on the path leads into or out of a loop, and no `Return`
on it stands in one. -/
structure Body.StaysInLoops (b : Body) (path : List Sid) : Prop where
  jumps : path.IsChain fun x y =>
    (∃ n ∈ b.nodes, n.1.id = x ∧ n.1.isJump = true) → b.openLoops y = b.openLoops x
  returns : ∀ x ∈ path, x ∈ returnsOf b.stmts → b.openLoops x = []

/-! ## Edges that are no jumps -/

section

variable (A : Sid → List Sid) (labels : Sid → List Label)

/-- A block in its context: the annotation is right at its records, and where control leaves it by
`next`, `brk` and `cont`, it is in the loops around the block. -/
structure Frame (c : Ctx) (ss : List Stmt) : Prop where
  nodes : ∀ n ∈ cfgBlock c ss, A n.1.id = n.openLoops fun _ => 0
  exits : ∀ y, c.next = some y ∨ c.brk = some y ∨ c.cont = some y → A y = c.loops

/-- Every edge is lawful, a jump if it stays inside its loops. -/
def Law (nodes : List Node) : Prop :=
  ∀ n ∈ nodes, ∀ y ∈ n.succs labels,
    Lawful notify A n.1.id y ↔ (n.1.isJump = true → A y = A n.1.id)

variable {A labels}

lemma law_append {ns ns' : List Node} (h : Law A labels ns) (h' : Law A labels ns') :
    Law A labels (ns ++ ns') := by
  intro n hn
  rcases List.mem_append.mp hn with hn | hn
  · exact h n hn
  · exact h' n hn

lemma law_cons {n : Node} {ns : List Node} (hn : n.1.isJump = false)
    (h : ∀ y ∈ n.succs labels, Lawful notify A n.1.id y) (hns : Law A labels ns) :
    Law A labels (n :: ns) := by
  intro n' hn'
  rcases List.mem_cons.mp hn' with rfl | hn'
  · exact fun y hy => iff_of_true (h y hy) (by simp [hn])
  · exact hns n' hn'

lemma law_cons_jump {n : Node} {ns : List Node} (hn : n.1.isJump = true)
    (hid : ∀ loops, notify loops n.1.id = some loops) (hns : Law A labels ns) :
    Law A labels (n :: ns) := by
  intro n' hn'
  rcases List.mem_cons.mp hn' with rfl | hn'
  · intro y _
    rw [Lawful, hid, Option.some.injEq]
    exact ⟨fun h _ => h.symm, fun h => (h hn).symm⟩
  · exact hns n' hn'

lemma law_nil : Law A labels [] := by
  intro n hn
  simp at hn

/-- The block in front of another one goes on to its entry. -/
lemma Frame.left {c : Ctx} {ss ss' : List Stmt} (h : Frame A c (ss ++ ss'))
    (hentry : ∀ y, entry ss' c.next = some y → A y = c.loops) :
    Frame A { c with next := entry ss' c.next } ss where
  nodes := fun n hn => h.nodes n (by rw [cfgBlock_append]; exact List.mem_append_left _ hn)
  exits := by
    rintro y (hy | hy)
    · exact hentry y hy
    · exact h.exits y (Or.inr hy)

lemma Frame.right {c : Ctx} {l ss : List Stmt} (h : Frame A c (l ++ ss)) : Frame A c ss where
  nodes := fun n hn => h.nodes n (by rw [cfgBlock_append]; exact List.mem_append_right _ hn)
  exits := h.exits

/-- The record at which control enters a block is in the loops around the block. -/
lemma Frame.entry_cons {c : Ctx} {s : Stmt} {ss : List Stmt} (h : Frame A c (s :: ss))
    (hs : ∀ c : Ctx, Node.openLoops (fun _ => 0) (s, c) = c.loops) (y : Sid)
    (hy : entry (s :: ss) c.next = some y) : A y = c.loops := by
  cases hy
  exact (h.nodes _ (head_mem_cfgBlock c s ss)).trans (hs _)

/-- A record that notifies nothing may lead to any record in the same loops. -/
lemma lawful_of_eq {x y : Sid} (hx : ∀ loops, notify loops x = some loops) (h : A y = A x) :
    Lawful notify A x y := by
  rw [Lawful, hx, h]

end

/-! ## The instrumented tree -/

section

variable {a : PassArgs} {f : Fundec} {redirect : Sid → Sid → Option Sid} {A : Sid → List Sid}
  {labels : Sid → List Label} {c : Ctx} {n : ℤ}

/-- An instrumented statement starts with a record that is neither a loop nor a call after one. -/
lemma instrument_head {s : Stmt} {k : ℕ} (hs : s.id = .source k) (n : ℤ) :
    ∃ head rest, s.instrument (preReturn a f) redirect n = head :: rest ∧
      ∀ c : Ctx, Node.openLoops (fun _ => 0) (head, c) = c.loops := by
  cases s with
  | instr id i =>
      obtain rfl : id = .source k := hs
      exact ⟨_, _, rfl, fun c => rfl⟩
  | goto g t =>
      obtain rfl : g = .source k := hs
      rw [Stmt.instrument]
      cases redirect (.source k) t with
      | none => exact ⟨_, _, rfl, fun c => rfl⟩
      | some first => exact ⟨_, _, rfl, fun c => rfl⟩
  | ret s e =>
      rw [Stmt.instrument, preReturn, genDrivermacroCall]
      split_ifs <;> exact ⟨_, _, rfl, fun c => rfl⟩
  | _ => exact ⟨_, _, rfl, fun c => rfl⟩

lemma Frame.entry_instrumentBlock {ss : List Stmt} (hsource : ∀ x ∈ idsOf ss, ∃ k, x = .source k)
    (h : Frame A c (instrumentBlock (preReturn a f) redirect n ss)) (y : Sid)
    (hy : entry (instrumentBlock (preReturn a f) redirect n ss) c.next = some y) :
    A y = c.loops := by
  cases ss with
  | nil => exact h.exits y (Or.inl hy)
  | cons s ss =>
      obtain ⟨k, hk⟩ := hsource s.id (List.mem_append_left _ s.id_mem_ids)
      obtain ⟨head, rest, hhead, hplain⟩ := @instrument_head a f redirect s k hk n
      rw [instrumentBlock, hhead] at h hy
      exact h.entry_cons hplain y hy

/-- An instruction that notifies nothing, in front of a block. -/
lemma law_instr_cons {id : Sid} {i : Instr} {ss : List Stmt}
    (hid : ∀ loops, notify loops id = some loops)
    (hplain : ∀ c : Ctx, Node.openLoops (fun _ => 0) (.instr id i, c) = c.loops)
    (h : Frame A c (.instr id i :: ss)) (hentry : ∀ y, entry ss c.next = some y → A y = c.loops)
    (hss : Law A labels (cfgBlock c ss)) : Law A labels (cfgBlock c (.instr id i :: ss)) := by
  have hA := (h.nodes _ (head_mem_cfgBlock c _ ss)).trans (hplain _)
  rw [cfgBlock_cons, cfgBlock_singleton]
  refine law_append (law_cons rfl (fun y hy => lawful_of_eq hid ?_) law_nil) hss
  exact (hentry y (next_of_mem_succs hy)).trans hA.symm

/-- The end of a loop body. -/
lemma law_jumpOuts {back : List Stmt} (hback : ∀ s ∈ back, s.isJumpOut = true)
    (hsource : ∀ x ∈ idsOf back, ∃ k, x = .source k) (h : Frame A c back) :
    Law A labels (cfgBlock c back) := by
  induction back with
  | nil => exact law_nil
  | cons s back ih =>
      have hs := hback s (by simp)
      rw [cfgBlock_cons]
      refine law_append ?_ (ih (fun s' hs' => hback s' (by simp [hs']))
        (fun x hx => hsource x (List.mem_append_right _ hx)) (Frame.right (l := [s]) h))
      obtain ⟨k, hk⟩ := hsource s.id (List.mem_append_left _ s.id_mem_ids)
      have hA := h.nodes _ (head_mem_cfgBlock c s back)
      rw [cfgBlock_singleton]
      cases s with
      | brk id =>
          obtain rfl : id = .source k := hk
          refine law_cons rfl (fun y hy => lawful_of_eq (fun _ => rfl) ?_) law_nil
          exact (h.exits y (Or.inr (Or.inl (Option.mem_toList.mp hy)))).trans hA.symm
      | cont id =>
          obtain rfl : id = .source k := hk
          refine law_cons rfl (fun y hy => lawful_of_eq (fun _ => rfl) ?_) law_nil
          exact (h.exits y (Or.inr (Or.inr (Option.mem_toList.mp hy)))).trans hA.symm
      | _ => simp [Stmt.isJumpOut] at hs

lemma law_ret {r : Sid} {e : Option RetExp} : Law A labels (cfgBlock c [.ret r e]) := by
  rw [cfgBlock_singleton]
  refine law_cons rfl (fun y hy => ?_) law_nil
  simp [Node.succs] at hy

/-- The calls in front of a return. -/
lemma law_preReturn {r : Sid} {e : Option RetExp}
    (hr : ∀ c : Ctx, Node.openLoops (fun _ => 0) (.ret r e, c) = c.loops)
    (h : Frame A c (preReturn a f r e ++ [.ret r e])) :
    Law A labels (cfgBlock c (preReturn a f r e ++ [.ret r e])) := by
  have hret : ∀ y, entry [.ret r e] c.next = some y → A y = c.loops := h.right.entry_cons hr
  have hmacro : Law A labels (cfgBlock c (genDrivermacroCall a f r ++ [.ret r e])) := by
    rw [preReturn, List.append_assoc] at h
    have h := h.right
    rw [genDrivermacroCall] at h ⊢
    split_ifs at h ⊢
    · exact law_instr_cons (fun _ => rfl) (fun _ => rfl) h hret law_ret
    · exact law_ret
  rw [preReturn, List.append_assoc] at h ⊢
  split_ifs at h ⊢
  · refine law_instr_cons (fun _ => rfl) (fun _ => rfl) h ?_ hmacro
    intro y hy
    have h' := Frame.right (l := [_]) h
    rw [genDrivermacroCall] at h' hy
    split_ifs at h' hy
    · exact h'.entry_cons (fun _ => rfl) y hy
    · exact hret y hy
  · exact hmacro

lemma law_instrumentBlock_of {ss : List Stmt} (hsource : ∀ x ∈ idsOf ss, ∃ k, x = .source k)
    (ih : ∀ s ∈ ss, (∀ x ∈ s.ids, ∃ k, x = .source k) → ∀ n c,
      Frame A c (s.instrument (preReturn a f) redirect n) →
      Law A labels (cfgBlock c (s.instrument (preReturn a f) redirect n))) (n : ℤ) (c : Ctx)
    (h : Frame A c (instrumentBlock (preReturn a f) redirect n ss)) :
    Law A labels (cfgBlock c (instrumentBlock (preReturn a f) redirect n ss)) := by
  induction ss generalizing n with
  | nil => exact law_nil
  | cons s ss ihss =>
      have hss : ∀ x ∈ idsOf ss, ∃ k, x = .source k :=
        fun x hx => hsource x (List.mem_append_right _ hx)
      rw [instrumentBlock] at h ⊢
      rw [cfgBlock_append]
      have hs : ∀ x ∈ s.ids, ∃ k, x = .source k :=
        fun x hx => hsource x (List.mem_append_left _ hx)
      exact law_append (ih s (by simp) hs _ _ (h.left (h.right.entry_instrumentBlock hss)))
        (ihss hss (fun s' hs' => ih s' (by simp [hs'])) _ h.right)

/-- A block as the only statement inside another one. -/
lemma Frame.of_subset {c' : Ctx} {l ss : List Stmt} (h : Frame A c l)
    (hsub : ∀ m ∈ cfgBlock c' ss, m ∈ cfgBlock c l)
    (hexits : ∀ y, c'.next = some y ∨ c'.brk = some y ∨ c'.cont = some y → A y = c'.loops) :
    Frame A c' ss :=
  ⟨fun m hm => h.nodes m (hsub m hm), hexits⟩

/-- The records of a loop, with the calls around it. -/
lemma law_loop {l : Sid} {body : List Stmt} {before after : Instr} {k : ℕ} (hl : l = .source k)
    (h : Frame A c [.instr (.loopBefore l) before, .loop l body, .instr (.loopAfter l) after])
    (hbody : ∀ c', c'.loops = l :: c.loops → Frame A c' body → Law A labels (cfgBlock c' body))
    (hentry : ∀ c', c'.loops = l :: c.loops → Frame A c' body →
      ∀ y, entry body c'.next = some y → A y = c'.loops) :
    Law A labels (cfgBlock c
      [.instr (.loopBefore l) before, .loop l body, .instr (.loopAfter l) after]) := by
  subst hl
  have hbefore : A (.loopBefore (.source k)) = c.loops := h.nodes _ (head_mem_cfgBlock c _ _)
  have h' := Frame.right (l := [_]) h
  have hloop : A (.source k) = .source k :: c.loops := h'.nodes _ (head_mem_cfgBlock c _ _)
  have hafter : A (.loopAfter (.source k)) = .source k :: c.loops :=
    (Frame.right (l := [_]) h').nodes _ (head_mem_cfgBlock c _ _)
  -- Control leaves the loop body to the loop itself or to the call after it.
  have hinner :
      Frame A ({ c with next := some (.loopAfter (.source k)) }.inLoop (.source k)) body :=
    h'.of_subset (fun m hm => by rw [cfgBlock, cfgStmt]; simp [entry, hm]) (by
      rintro y (hy | hy | hy)
      · cases hy
        exact hloop
      · cases hy
        exact hafter
      · cases hy
        exact hloop)
  rw [cfgBlock_cons, cfgBlock_singleton]
  refine law_append (law_cons rfl (fun y hy => ?_) law_nil) ?_
  · cases next_of_mem_succs hy
    show notify (A (.loopBefore (.source k))) (.loopBefore (.source k)) = some (A (.source k))
    rw [hbefore, hloop]
    rfl
  · rw [cfgBlock_cons, cfgBlock_singleton, cfgStmt]
    refine law_append (law_cons rfl (fun y hy => ?_) (hbody _ rfl hinner)) ?_
    · exact lawful_of_eq (fun _ => rfl)
        ((hentry _ rfl hinner y (Option.mem_toList.mp hy)).trans hloop.symm)
    · rw [cfgBlock_singleton]
      refine law_cons rfl (fun y hy => ?_) law_nil
      show notify (A (.loopAfter (.source k))) (.loopAfter (.source k)) = some (A y)
      rw [hafter, h.exits y (Or.inl (next_of_mem_succs hy))]
      simp [notify]

/-- **Only jumps can break the balance**: by induction over the source, every other edge of the
instrumented tree is lawful. -/
theorem law_instrument (s : Stmt) (hsource : ∀ x ∈ s.ids, ∃ k, x = .source k) (n : ℤ) (c : Ctx)
    (h : Frame A c (s.instrument (preReturn a f) redirect n)) :
    Law A labels (cfgBlock c (s.instrument (preReturn a f) redirect n)) := by
  induction s generalizing n c with
  | instr id i =>
      obtain ⟨k, rfl⟩ := hsource id (by simp [Stmt.ids])
      rw [Stmt.instrument] at h ⊢
      exact law_instr_cons (fun _ => rfl) (fun _ => rfl) h
        (fun y hy => h.exits y (Or.inl hy)) law_nil
  | ret s e =>
      obtain ⟨k, rfl⟩ := hsource s (by simp [Stmt.ids])
      rw [Stmt.instrument] at h ⊢
      exact law_preReturn (fun _ => rfl) h
  | goto g t =>
      obtain ⟨k, rfl⟩ := hsource g (by simp [Stmt.ids])
      rw [Stmt.instrument]
      split
      · exact law_cons_jump rfl (fun _ => rfl) law_nil
      · exact law_cons_jump rfl (fun _ => rfl) law_nil
  | brk id =>
      rw [Stmt.instrument] at h ⊢
      exact law_jumpOuts (by simp [Stmt.isJumpOut]) (by simpa [idsOf] using hsource) h
  | cont id =>
      rw [Stmt.instrument] at h ⊢
      exact law_jumpOuts (by simp [Stmt.isJumpOut]) (by simpa [idsOf] using hsource) h
  | cond id b1 b2 ih1 ih2 =>
      obtain ⟨k, rfl⟩ := hsource id (by simp [Stmt.ids])
      have hb1 : ∀ x ∈ idsOf b1, ∃ k, x = .source k :=
        fun x hx => hsource x (by simp [Stmt.ids, hx])
      have hb2 : ∀ x ∈ idsOf b2, ∃ k, x = .source k :=
        fun x hx => hsource x (by simp [Stmt.ids, hx])
      rw [Stmt.instrument] at h ⊢
      have h1 : Frame A c (instrumentBlock (preReturn a f) redirect n b1) :=
        h.of_subset (fun m hm => by simp [cfgBlock_singleton, cfgStmt, hm]) h.exits
      have h2 : Frame A c (instrumentBlock (preReturn a f) redirect (n + (loopsOf b1).length) b2) :=
        h.of_subset (fun m hm => by simp [cfgBlock_singleton, cfgStmt, hm]) h.exits
      have hA := h.nodes _ (head_mem_cfgBlock c _ [])
      rw [cfgBlock_singleton, cfgStmt]
      refine law_cons rfl (fun y hy => lawful_of_eq (fun _ => rfl) ?_) (law_append
        (law_instrumentBlock_of hb1 (fun s hs hsource n c => ih1 s hs hsource n c) _ _ h1)
        (law_instrumentBlock_of hb2 (fun s hs hsource n c => ih2 s hs hsource n c) _ _ h2))
      simp only [Node.succs, List.mem_append, Option.mem_toList] at hy
      rcases hy with hy | hy
      · exact (h2.entry_instrumentBlock hb2 y hy).trans hA.symm
      · exact (h1.entry_instrumentBlock hb1 y hy).trans hA.symm
  | switch id b ih =>
      obtain ⟨k, rfl⟩ := hsource id (by simp [Stmt.ids])
      have hb : ∀ x ∈ idsOf b, ∃ k, x = .source k := fun x hx => hsource x (by simp [Stmt.ids, hx])
      rw [Stmt.instrument] at h ⊢
      have hinner :
          Frame A { c with brk := c.next } (instrumentBlock (preReturn a f) redirect n b) :=
        h.of_subset (fun m hm => by simp [cfgBlock_singleton, cfgStmt, hm]) (by
          rintro y (hy | hy | hy)
          · exact h.exits y (Or.inl hy)
          · exact h.exits y (Or.inl hy)
          · exact h.exits y (Or.inr (Or.inr hy)))
      rw [cfgBlock_singleton, cfgStmt]
      exact law_cons_jump rfl (fun _ => rfl)
        (law_instrumentBlock_of hb (fun s hs hsource n c => ih s hs hsource n c) _ _ hinner)
  | loop l b ih =>
      obtain ⟨k, hl⟩ := hsource l (by simp [Stmt.ids])
      obtain ⟨front, back, rfl, hjump, hadd⟩ := addLoopBody_instrument (preReturn a f)
        (.instr (.loopBody l) (.call (.s2eLoopBody (n + (loopsOf b).length + 1)))) b
      have hfront : ∀ x ∈ idsOf front, ∃ k, x = .source k :=
        fun x hx => hsource x (by simp [Stmt.ids, hx])
      have hback : ∀ x ∈ idsOf back, ∃ k, x = .source k :=
        fun x hx => hsource x (by simp [Stmt.ids, hx])
      have hlast : ∀ c' : Ctx, Frame A c' back → ∀ y, entry back c'.next = some y →
          A y = c'.loops := by
        intro c' h' y hy
        cases back with
        | nil => exact h'.exits y (Or.inl hy)
        | cons s back =>
            refine h'.entry_cons (fun c => ?_) y hy
            have hs := hjump s (by simp)
            cases s <;> simp_all [Stmt.isJumpOut, Node.openLoops]
      rw [Stmt.instrument, hadd] at h ⊢
      refine law_loop hl h (fun c' _ h' => ?_) (fun c' _ h' y hy => ?_)
      · rw [cfgBlock_append]
        have hcall := h'.right.entry_cons (fun _ => rfl)
        refine law_append (law_instrumentBlock_of hfront
          (fun s hs hsource n c => ih s (by simp [hs]) hsource n c) _ _ (h'.left hcall)) ?_
        have hback' := Frame.right (l := [_]) h'.right
        exact law_instr_cons (fun _ => rfl) (fun _ => rfl) h'.right (hlast c' hback')
          (law_jumpOuts hjump hback hback')
      · rw [entry_append] at hy
        exact (h'.left (h'.right.entry_cons fun _ => rfl)).entry_instrumentBlock hfront y hy
  | block id b ih =>
      obtain ⟨k, rfl⟩ := hsource id (by simp [Stmt.ids])
      have hb : ∀ x ∈ idsOf b, ∃ k, x = .source k := fun x hx => hsource x (by simp [Stmt.ids, hx])
      rw [Stmt.instrument] at h ⊢
      have hinner : Frame A c (instrumentBlock (preReturn a f) redirect n b) :=
        h.of_subset (fun m hm => by simp [cfgBlock_singleton, cfgStmt, hm]) h.exits
      have hA := h.nodes _ (head_mem_cfgBlock c _ [])
      rw [cfgBlock_singleton, cfgStmt]
      exact law_cons rfl (fun y hy => lawful_of_eq (fun _ => rfl)
          ((hinner.entry_instrumentBlock hb y (Option.mem_toList.mp hy)).trans hA.symm))
        (law_instrumentBlock_of hb (fun s hs hsource n c => ih s hs hsource n c) _ _ hinner)

end

/-! ## A whole function -/

section

variable {a : PassArgs} {f : Fundec} {redirect : Sid → Sid → Option Sid} {e : Option RetExp}
  {n : ℤ} {ss : List Stmt} {b : Body}

/-- A statement that is entered only from in front. -/
lemma entry_plain_cons {A : Sid → List Sid} {c : Ctx} {s : Stmt} {ss : List Stmt}
    (h : Frame A c (s :: ss)) (hs : ∀ c : Ctx, Node.openLoops (fun _ => 0) (s, c) = c.loops) :
    A s.id = c.loops :=
  h.entry_cons hs s.id rfl

lemma law_prefnStmts {A : Sid → List Sid} {labels : Sid → List Label} {c : Ctx} {rest : List Stmt}
    (h : Frame A c (prefnStmts a f e ++ rest))
    (hentry : ∀ y, entry rest c.next = some y → A y = c.loops)
    (hrest : Law A labels (cfgBlock c rest)) :
    Law A labels (cfgBlock c (prefnStmts a f e ++ rest)) := by
  rw [prefnStmts] at h ⊢
  split_ifs at h ⊢
  · -- The call, the branch that bypasses the body, and the body.
    have hif := Frame.right (l := [_]) h
    have hbranch : Frame A { c with next := entry rest c.next }
        [.instr .bypassPostfn (.call (.postfn false)), .ret .bypassReturn e] :=
      Frame.of_subset (l := _ :: rest) hif (fun m hm => by
        rw [cfgBlock, cfgStmt]
        exact List.mem_append_left _ (List.mem_cons_of_mem _ (List.mem_append_left _ hm))) (by
          rintro y (hy | hy)
          · exact hentry y hy
          · exact h.exits y (Or.inr hy))
    refine law_instr_cons (fun _ => rfl) (fun _ => rfl) h (hif.entry_cons fun _ => rfl) ?_
    have hA := entry_plain_cons hif fun _ => rfl
    show Law A labels (cfgBlock c (_ :: rest))
    rw [cfgBlock_cons, cfgBlock_singleton, cfgStmt]
    refine law_append (law_cons rfl (fun y hy => lawful_of_eq (fun _ => rfl) ?_) ?_) hrest
    · simp only [Node.succs, List.mem_append, Option.mem_toList] at hy
      rcases hy with hy | hy
      · exact (hentry y hy).trans hA.symm
      · exact (hbranch.entry_cons (fun _ => rfl) y hy).trans hA.symm
    · refine law_append ?_ law_nil
      exact law_instr_cons (fun _ => rfl) (fun _ => rfl) hbranch
        (Frame.entry_cons (Frame.right (l := [_]) hbranch) fun _ => rfl) law_ret
  · exact hrest

lemma entry_prefnStmts {A : Sid → List Sid} {c : Ctx} {rest : List Stmt}
    (h : Frame A c (prefnStmts a f e ++ rest))
    (hentry : ∀ y, entry rest c.next = some y → A y = c.loops) (y : Sid)
    (hy : entry (prefnStmts a f e ++ rest) c.next = some y) : A y = c.loops := by
  rw [prefnStmts] at h hy
  split_ifs at h hy
  · exact h.entry_cons (fun _ => rfl) y hy
  · exact hentry y hy

section

variable (hb : b.stmts = prefnStmts a f e ++ instrumentBlock (preReturn a f) redirect n ss)
  (hsource : ∀ x ∈ idsOf ss, ∃ k, x = .source k) (hnodup : (idsOf ss).Nodup)

include hb hsource

lemma gotoAfters_eq_zero (g : Sid) : b.gotoAfters g = 0 := by
  rw [Body.gotoAfters, List.countP_eq_zero]
  intro x hx
  have hne : ∀ i, x ≠ .gotoAfter g i := by
    intro i
    rw [hb, idsOf_append, List.mem_append] at hx
    rcases hx with hx | hx
    · rintro rfl
      exact absurd (idsOf_prefnStmts hx).1 (by
        intro hself
        have hsize := congrArg sizeOf hself
        simp [Sid.origin] at hsize
        omega)
    · exact ne_gotoAfter hsource hx g i
  cases x with
  | gotoAfter g' i =>
      simp only [Sid.isGotoAfter, decide_eq_true_eq]
      rintro rfl
      exact hne i rfl
  | _ => simp [Sid.isGotoAfter]

include hnodup

lemma frame_rewritten : Frame b.openLoops Ctx.top b.stmts where
  nodes := fun m hm => by
    have hnodup' : (idsOf b.stmts).Nodup := hb ▸ rewritten_nodup hsource hnodup e n
    rw [Body.openLoops, nodeAt_eq_some hnodup' hm, funext (gotoAfters_eq_zero hb hsource)]
    rfl
  exits := by
    rintro y (hy | hy | hy) <;> cases hy

lemma law_rewritten : Law b.openLoops b.labels b.nodes := by
  have h := frame_rewritten hb hsource hnodup
  rw [Body.nodes]
  rw [hb] at h ⊢
  exact law_prefnStmts h (h.right.entry_instrumentBlock hsource)
    (law_instrumentBlock_of hsource (fun s _ hs n c => law_instrument s hs n c) _ _ h.right)

lemma entry_rewritten (y : Sid) (hy : entry b.stmts none = some y) : b.openLoops y = [] := by
  have h := frame_rewritten hb hsource hnodup
  rw [hb] at h hy
  exact entry_prefnStmts h (h.right.entry_instrumentBlock hsource) y hy

/-- The balance of a path is a matter of its jumps and returns. -/
theorem balanced_iff_stays {path : List Sid} (hpath : b.IsPath path) :
    b.LoopsBalanced path ↔ b.StaysInLoops path := by
  have hnodup' : (idsOf b.stmts).Nodup := hb ▸ rewritten_nodup hsource hnodup e n
  have hlaw := law_rewritten hb hsource hnodup
  have hstart : ∀ x, path.head? = some x → [] = b.openLoops x :=
    fun x hx => (entry_rewritten hb hsource hnodup x (hpath.starts ▸ hx)).symm
  have hinside : Annotated notify b.openLoops [] path ↔ path.IsChain fun x y =>
      (∃ m ∈ b.nodes, m.1.id = x ∧ m.1.isJump = true) → b.openLoops y = b.openLoops x := by
    refine annotated_iff_of_edges hpath.follows hstart ?_
    rintro _ y ⟨m, hm, rfl, hy⟩
    rw [hlaw m hm y hy]
    constructor
    · rintro h ⟨m', hm', hid, hjump⟩
      rw [node_unique hnodup' hm' hm hid] at hjump
      exact h hjump
    · exact fun h hjump => h ⟨m, hm, rfl, hjump⟩
  constructor
  · intro h
    refine ⟨hinside.mp h.inside, fun x hx hret => ?_⟩
    obtain ⟨front, back, rfl⟩ := List.append_of_mem hx
    exact Option.some.inj ((h.inside front x back rfl).symm.trans (h.returns front x back rfl hret))
  · intro h
    have hannotated := hinside.mpr h.jumps
    refine ⟨hannotated, fun front x back hwalk hret => ?_⟩
    rw [hannotated front x back hwalk, h.returns x (by rw [hwalk]; simp) hret]

end

end

/-- **Loop notifications**: along a path through an instrumented function they balance exactly if no
jump of the path leads into or out of a loop and no return of it stands in one. -/
theorem loop_notifications_balance_iff {a : PassArgs} {hits : Sid → Bool} {file : List Fundec}
    {bs : List Body} (h : process a hits file = .ok bs) :
    List.Forall₂ (fun f b => f.sbody.WellFormed → ∀ path, b.IsPath path →
      (b.LoopsBalanced path ↔ b.StaysInLoops path)) file bs := by
  refine process_forall (fun f p e _ _ hwf path hpath => ?_) h
  exact balanced_iff_stays rfl hwf.source hwf.nodup hpath

/-- `while (1) { if (c) break; } return;` -/
def breakOut : Fundec where
  vname := "tx"
  returnsVoid := true
  sbody :=
    { stmts := [.loop (.source 0) [.cond (.source 1) [.brk (.source 2)] []], .ret (.source 3) none]
      labels := fun _ => [] }

def breakOutPath : List Sid :=
  [.prefn, .bypassIf, .loopBefore (.source 0), .source 0, .source 1, .loopBody (.source 0),
    .source 0, .source 1, .source 2, .loopAfter (.source 0), .postfn (.source 3), .source 3]

theorem loop_notifications_balance_break :
    ∃ b, process txPair (fun _ => true) [breakOut] = .ok [b] ∧ b.IsPath breakOutPath ∧
      b.LoopsBalanced breakOutPath := by
  have hprocess : process txPair (fun _ => true) [breakOut] = .ok [_] :=
    process_singleton (e := none) rfl
  have hpath : Body.IsPath (rewritten txPair breakOut (fun _ => true) PassState.initial none)
      breakOutPath := ⟨rfl, by decide, by decide⟩
  have hwf : breakOut.sbody.WellFormed := by
    constructor
    · simp [breakOut, idsOf, Stmt.ids]
    · simp [breakOut, recordsOf, Stmt.records]
    · simp [breakOut, idsOf, Stmt.ids]
    · simp [breakOut, idsOf, Stmt.ids]
    · simp [breakOut, gotosOf, Stmt.gotos]
  refine ⟨_, hprocess, hpath, ?_⟩
  rcases loop_notifications_balance_iff hprocess with _ | ⟨hbalanced, _⟩
  exact (hbalanced hwf _ hpath).mpr ⟨by decide, by decide⟩

/-- `while (1) { goto out; } out: return;` -/
def gotoOut : Fundec where
  vname := "tx"
  returnsVoid := true
  sbody :=
    { stmts := [.loop (.source 0) [.goto (.source 1) (.source 2)], .ret (.source 2) none]
      labels := fun x => if x = .source 2 then [.label "out" true] else [] }

def gotoOutPath : List Sid :=
  [.prefn, .bypassIf, .loopBefore (.source 0), .source 0, .newGoto (.source 1),
    .postfn (.source 2), .source 2]

/-- `process_goto` means to close the loop, but in the second phase the depth is never positive. -/
theorem goto_leaves_loop_open :
    gotoOut.sbody.WellFormed ∧ ∃ b, process txPair (fun _ => true) [gotoOut] = .ok [b] ∧
      b.IsPath gotoOutPath ∧ ¬ b.LoopsBalanced gotoOutPath := by
  refine ⟨?_, _, process_singleton (e := none) rfl, ⟨rfl, by decide, by decide⟩, fun h => ?_⟩
  · constructor
    · simp [gotoOut, idsOf, Stmt.ids]
    · simp [gotoOut, recordsOf, Stmt.records]
    · simp [gotoOut, idsOf, Stmt.ids]
    · simp [gotoOut, idsOf, Stmt.ids]
    · simp [gotoOut, gotosOf, Stmt.gotos, idsOf, Stmt.ids]
  · have hopen := h.returns [.prefn, .bypassIf, .loopBefore (.source 0), .source 0,
      .newGoto (.source 1), .postfn (.source 2)] (.source 2) [] rfl (by decide)
    exact absurd hopen (by decide)

end SymDrive.Cil
