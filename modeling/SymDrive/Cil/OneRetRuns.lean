import SymDrive.Cil.OneRet
import SymDrive.Library.Stepping

/-!
# What the one return returns

The runs of a function go from record to record along its control-flow graph.  `oneret_returns`: the
function that `oneret` makes returns what its source returns, and where the source falls off its end
it returns what `__retres` holds.
-/

namespace SymDrive.Cil.OneRet

open Stepping

/-! ## Nodes -/

section

variable {ι ε : Type}

@[simp] def Stmt.id : Stmt ι ε → Sid
  | .instr id _ | .ret id _ | .goto id _ | .brk id | .cont id | .cond id _ _ _ | .switch id _ _
  | .loop id _ | .block id _ => id

/-- Where control enters a block; `next` is what follows an empty one. -/
def entry (ss : List (Stmt ι ε)) (next : Option Sid) : Option Sid :=
  match ss with
  | [] => next
  | s :: _ => some s.id

mutual

/-- `cfgStmt`, with the instructions and expressions. -/
def Stmt.nodes (c : Ctx) : Stmt ι ε → List (Stmt ι ε × Ctx)
  | .instr id is => [(.instr id is, c)]
  | .ret id e => [(.ret id e, c)]
  | .goto id t => [(.goto id t, c)]
  | .brk id => [(.brk id, c)]
  | .cont id => [(.cont id, c)]
  | .cond id g b1 b2 => (.cond id g b1 b2, c) :: (nodes c b1 ++ nodes c b2)
  | .switch id e b => (.switch id e b, c) :: nodes { c with brk := c.next } b
  | .loop id b => (.loop id b, c) :: nodes (c.inLoop id) b
  | .block id b => (.block id b, c) :: nodes c b

/-- The nodes of a block: each statement goes on at the one behind it. -/
def nodes (c : Ctx) : List (Stmt ι ε) → List (Stmt ι ε × Ctx)
  | [] => []
  | s :: ss => s.nodes { c with next := entry ss c.next } ++ nodes c ss

end

variable (L : Lang ι ε)

lemma id_erase (sup : Bool) (s : Stmt ι ε) : (s.erase L sup).id = s.id := by
  cases s <;> rfl

lemma entry_erase (sup : Bool) (ss : List (Stmt ι ε)) (next : Option Sid) :
    Cil.entry (erase L sup ss) next = entry ss next := by
  cases ss with
  | nil => rfl
  | cons s ss => rw [erase, Cil.entry, entry, id_erase]

/-- A node as `cfg.ml` sees it. -/
def eraseNode (sup : Bool) (n : Stmt ι ε × Ctx) : Node := (n.1.erase L sup, n.2)

/-- Erasing the nodes gives the graph of the erased block. -/
lemma map_eraseNode (sup : Bool) :
    (∀ s : Stmt ι ε, ∀ c, (s.nodes c).map (eraseNode L sup) = cfgStmt c (s.erase L sup)) ∧
    ∀ ss : List (Stmt ι ε), ∀ c, (nodes c ss).map (eraseNode L sup) = cfgBlock c (erase L sup ss)
    := by
  apply induct
  case cons =>
    intro s ss hs hss c
    rw [nodes, List.map_append, hs, hss, erase, cfgBlock, entry_erase]
  case cond =>
    intro id g b1 b2 ih1 ih2 c
    rw [Stmt.nodes, List.map_cons, List.map_append, ih1, ih2, Stmt.erase, cfgStmt]
    rfl
  case switch =>
    intro id e b ih c
    rw [Stmt.nodes, List.map_cons, ih, Stmt.erase, cfgStmt]
    rfl
  case loop | block =>
    intro id b ih c
    rw [Stmt.nodes, List.map_cons, ih, Stmt.erase, cfgStmt]
    rfl
  all_goals
    intros
    rfl

end

/-! ## Steps -/

/-- What instructions and expressions do.  `none` is a fault, or an instruction that does not come
back. -/
structure Sem {ι ε : Type} (L : Lang ι ε) (σ v : Type) where
  exec : ι → σ → Option σ
  eval : ε → σ → Option v
  truth : v → Bool
  toInt : v → ℤ
  exec_of_fallsThrough : ∀ i s, L.fallsThrough i = false → exec i s = none

/-- The end of a run, with the value of `__retres` where control leaves the body without a
`Return`. -/
inductive Result (σ v : Type) where
  | returned (s : σ) (w : Option v)
  | fellOff (s : σ) (retres : v)

section

variable {ι ε σ v : Type} {L : Lang ι ε} (S : Sem L σ v)

/-- `__retres` is read from the second component of the state. -/
def Exp.value : Exp ε → σ × v → Option v
  | .source e, m => S.eval e m.1
  | .retres, m => some m.2

/-- An assignment of the pass changes `__retres` only. -/
def Instr.run (m : σ × v) : Instr ι ε → Option (σ × v)
  | .source i => (S.exec i m.1).map fun s => (s, m.2)
  | .setRetres e => (e.value S m).map fun w => (m.1, w)

/-- Where a run stands, and the state of the program. -/
abbrev Point (σ v : Type) := Sid × σ × v

/-- The run goes on at `x`. -/
def goOn (m : σ × v) : Option Sid → Next (Point σ v) (Result σ v)
  | some x => .goes (x, m)
  | none => .stuck

/-- The statement of a `Switch` on `n` that control goes to. -/
def chosen (labels : Sid → List Label) (cases : List Sid) (n : ℤ) (next : Option Sid) :
    Option Sid :=
  ((cases.find? fun x => (labels x).contains (.case n)).or
    (cases.find? fun x => (labels x).contains .default)).or next

/-- One step of a run from the statement of a node. -/
def Stmt.step (sup : Bool) (labels : Sid → List Label) (c : Ctx) (m : σ × v) :
    Stmt ι ε → Next (Point σ v) (Result σ v)
  | .instr _ is =>
      match is.foldlM (Instr.run S) m with
      | some m' => goOn m' c.next
      | none => .stuck
  | .ret _ none => .halts (.returned m.1 none)
  | .ret _ (some e) =>
      match e.value S m with
      | some w => .halts (.returned m.1 (some w))
      | none => .stuck
  | .goto _ t => .goes (t, m)
  | .brk _ => goOn m c.brk
  | .cont _ => goOn m c.cont
  | .cond _ guard b1 b2 =>
      match S.eval guard m.1 with
      | some w => goOn m (if S.truth w then entry b1 c.next else entry b2 c.next)
      | none => .stuck
  | .switch _ e b =>
      match S.eval e m.1 with
      | some w => goOn m
          (chosen labels (findCaseLabeledStmts labels (OneRet.erase L sup b)) (S.toInt w) c.next)
      | none => .stuck
  | .loop id b => goOn m (entry b (some id))
  | .block _ b => goOn m (entry b c.next)

variable (f : Fundec ι ε) (past : Sid)

/-- The nodes of the body, where `past` stands for the place behind it. -/
def Fundec.nodes : List (Stmt ι ε × Ctx) := OneRet.nodes { Ctx.top with next := some past } f.stmts

/-- The node of an identity. -/
def Fundec.nodeAt (x : Sid) : Option (Stmt ι ε × Ctx) := (f.nodes past).find? fun n => n.1.id = x

/-- The function as a machine. -/
def Fundec.step : Point σ v → Next (Point σ v) (Result σ v)
  | (x, m) =>
      match f.nodeAt past x with
      | some (s, c) => s.step S f.retTypSupported f.labels c m
      | none => if x = past then .halts (.fellOff m.1 m.2) else .stuck

/-- Where a run starts. -/
def Fundec.start : Sid := (entry f.stmts none).getD past

end

/-! ## Steps along the graph -/

section

variable {ι ε σ v : Type} {L : Lang ι ε} {S : Sem L σ v}

lemma goOn_eq_goes {m m' : σ × v} {next : Option Sid} {y : Sid}
    (h : goOn m next = .goes (y, m')) : next = some y ∧ m' = m := by
  cases next with
  | none => cases h
  | some x =>
      cases h
      exact ⟨rfl, rfl⟩

/-- A run that goes on or is stuck has not returned. -/
lemma goOn_ne_halts {m : σ × v} {next : Option Sid} {o : Result σ v} : goOn m next ≠ .halts o := by
  cases next with
  | none => exact fun h => by cases h
  | some x => exact fun h => by cases h

/-- Instructions that come back are among those behind which control falls through. -/
lemma foldlM_run_fallsThrough {is : List (Instr ι ε)} {m m' : σ × v}
    (h : is.foldlM (Instr.run S) m = some m') : is.all (Instr.fallsThrough L) = true := by
  induction is generalizing m with
  | nil => rfl
  | cons i is ih =>
      rw [List.foldlM_cons] at h
      obtain ⟨m₁, hi, h⟩ := Option.bind_eq_some_iff.mp h
      rw [List.all_cons, ih h, Bool.and_true]
      cases i with
      | setRetres e => rfl
      | source i =>
          rw [Instr.fallsThrough]
          by_contra hno
          rw [Instr.run, S.exec_of_fallsThrough i _ (Bool.not_eq_true _ ▸ hno)] at hi
          cases hi

/-- A `Switch` goes to a labelled statement, or past its block if there is no `default`. -/
lemma chosen_mem {labels : Sid → List Label} {cases : List Sid} {n : ℤ} {next : Option Sid}
    {y : Sid} (h : chosen labels cases n next = some y) :
    y ∈ cases ∨ (∀ x ∈ cases, .default ∉ labels x) ∧ next = some y := by
  rw [chosen, Option.or_eq_some_iff, Option.or_eq_some_iff] at h
  rcases h with (h | ⟨-, h⟩) | ⟨hno, h⟩
  · exact Or.inl (List.mem_of_find?_eq_some h)
  · exact Or.inl (List.mem_of_find?_eq_some h)
  · refine Or.inr ⟨?_, h⟩
    rw [Option.or_eq_none_iff, List.find?_eq_none, List.find?_eq_none] at hno
    simpa using hno.2

/-- A run goes along an edge of the graph. -/
lemma step_mem_succs {sup : Bool} {labels : Sid → List Label} {c : Ctx} {m m' : σ × v}
    {s : Stmt ι ε} {y : Sid} (h : s.step S sup labels c m = .goes (y, m')) :
    y ∈ Node.succs labels (eraseNode L sup (s, c)) := by
  cases s with
  | instr id is =>
      rw [Stmt.step] at h
      split at h
      case h_1 m₁ hrun =>
        simp only [eraseNode, Stmt.erase, Node.succs, foldlM_run_fallsThrough hrun, if_true]
        exact Option.mem_toList.mpr (goOn_eq_goes h).1
      case h_2 => cases h
  | ret id e =>
      cases e with
      | none => cases h
      | some e =>
          rw [Stmt.step] at h
          split at h <;> cases h
  | goto id t =>
      cases h
      exact List.mem_singleton_self _
  | brk id => exact Option.mem_toList.mpr (goOn_eq_goes h).1
  | cont id => exact Option.mem_toList.mpr (goOn_eq_goes h).1
  | cond id guard b1 b2 =>
      rw [Stmt.step] at h
      split at h
      case h_1 w _ =>
        simp only [eraseNode, Stmt.erase, Node.succs, entry_erase, List.mem_append,
          Option.mem_toList]
        have hgo := (goOn_eq_goes h).1
        split_ifs at hgo
        · exact Or.inr hgo
        · exact Or.inl hgo
      case h_2 => cases h
  | switch id e b =>
      rw [Stmt.step] at h
      split at h
      case h_1 w _ =>
        simp only [eraseNode, Stmt.erase, Node.succs, List.mem_append]
        refine (chosen_mem (goOn_eq_goes h).1).imp_right ?_
        rintro ⟨hno, hnext⟩
        rw [if_neg (by simpa using hno)]
        exact Option.mem_toList.mpr hnext
      case h_2 => cases h
  | loop id b =>
      simp only [eraseNode, Stmt.erase, Node.succs, entry_erase]
      exact Option.mem_toList.mpr (goOn_eq_goes h).1
  | block id b =>
      simp only [eraseNode, Stmt.erase, Node.succs, entry_erase]
      exact Option.mem_toList.mpr (goOn_eq_goes h).1

end

/-! ## Nodes and records -/

section

variable {ι ε : Type} {L : Lang ι ε}

lemma entry_append (ss ss' : List (Stmt ι ε)) (next : Option Sid) :
    entry (ss ++ ss') next = entry ss (entry ss' next) := by
  cases ss <;> rfl

/-- The nodes of two blocks, the first of which goes on at the second. -/
lemma nodes_append (c : Ctx) (ss ss' : List (Stmt ι ε)) :
    nodes c (ss ++ ss') = nodes { c with next := entry ss' c.next } ss ++ nodes c ss' := by
  induction ss with
  | nil => rfl
  | cons s ss ih =>
      rw [List.cons_append, nodes, ih, nodes, List.append_assoc, entry_append]

variable (L) in
/-- The identities of the nodes are those of the erased block. -/
lemma map_id_nodes (sup : Bool) (c : Ctx) (ss : List (Stmt ι ε)) :
    (nodes c ss).map (fun n => n.1.id) = idsOf (erase L sup ss) := by
  have hmap := congrArg (List.map fun n : Node => n.1.id) ((map_eraseNode L sup).2 ss c)
  rw [List.map_map] at hmap
  rw [← map_id_recordsOf, ← map_fst_cfgBlock (erase L sup ss) c, List.map_map]
  refine Eq.trans (List.map_congr_left fun n _ => ?_) hmap
  exact (id_erase L sup n.1).symm

/-- A lookup by a key that no two elements share. -/
lemma find?_key {α β : Type} [DecidableEq β] {key : α → β} {l : List α}
    (hnodup : (l.map key).Nodup) {a : α} (ha : a ∈ l) :
    l.find? (fun x => key x = key a) = some a := by
  induction l with
  | nil => exact absurd ha List.not_mem_nil
  | cons x l ih =>
      rw [List.map_cons, List.nodup_cons] at hnodup
      rcases List.mem_cons.mp ha with rfl | ha
      · rw [List.find?_cons_of_pos (by simp)]
      · have hne : key x ≠ key a := fun h => hnodup.1 (h ▸ List.mem_map_of_mem ha)
        rw [List.find?_cons_of_neg (by simpa using hne), ih hnodup.2 ha]

variable {f : Fundec ι ε} {past : Sid}

/-- Where identities are distinct, a node is found by its own. -/
lemma nodeAt_of_mem (hnodup : (idsOf (f.erase L).sbody.stmts).Nodup) {n : Stmt ι ε × Ctx}
    (hn : n ∈ f.nodes past) : f.nodeAt past n.1.id = some n := by
  rw [Fundec.erase, ← map_id_nodes L f.retTypSupported { Ctx.top with next := some past }] at hnodup
  exact find?_key hnodup hn

lemma mem_of_nodeAt {x : Sid} {n : Stmt ι ε × Ctx} (h : f.nodeAt past x = some n) :
    n ∈ f.nodes past ∧ n.1.id = x := by
  rw [Fundec.nodeAt] at h
  have hid := List.find?_some h
  exact ⟨List.mem_of_find?_eq_some h, of_decide_eq_true hid⟩

/-- No node is found at a place that is no record of the body. -/
lemma nodeAt_eq_none {x : Sid} (h : f.nodeAt past x = none) :
    x ∉ idsOf (f.erase L).sbody.stmts := by
  rw [Fundec.erase, ← map_id_nodes L f.retTypSupported { Ctx.top with next := some past }]
  intro hx
  obtain ⟨n, hn, hid⟩ := List.mem_map.mp hx
  exact List.find?_eq_none.mp h n hn (decide_eq_true hid)

/-- Control goes from a record of a block to another one, or where the context says. -/
lemma goes_leadsTo {σ v : Type} {S : Sem L σ v} {sup : Bool} {labels : Sid → List Label}
    {c : Ctx} {ss : List (Stmt ι ε)} {n : Stmt ι ε × Ctx} {m m' : σ × v} {y : Sid}
    (hn : n ∈ nodes c ss) (h : n.1.step S sup labels n.2 m = .goes (y, m')) :
    LeadsTo (idsOf (erase L sup ss)) (gotosOf (erase L sup ss)) c y := by
  refine mem_succs ?_ (step_mem_succs h)
  rw [← (map_eraseNode L sup).2 ss c]
  exact List.mem_map_of_mem hn

/-- What a `Return` among the nodes returns is among the values that the body returns. -/
lemma mem_retvalsOf :
    (∀ s : Stmt ι ε, ∀ c id e c', (.ret id e, c') ∈ s.nodes c → e ∈ s.retvals) ∧
    ∀ ss : List (Stmt ι ε), ∀ c id e c', (.ret id e, c') ∈ nodes c ss → e ∈ retvalsOf ss := by
  apply induct
  case ret =>
    intro id e c id' e' c' h
    cases List.mem_singleton.mp h
    exact List.mem_singleton_self _
  case cond =>
    intro id g b1 b2 ih1 ih2 c id' e' c' h
    simp only [Stmt.nodes, List.mem_cons, List.mem_append, Prod.mk.injEq, reduceCtorEq, false_and,
      false_or] at h
    rw [Stmt.retvals, List.mem_append]
    exact h.imp (ih1 _ _ _ _) (ih2 _ _ _ _)
  case switch =>
    intro id e b ih c id' e' c' h
    simp only [Stmt.nodes, List.mem_cons, Prod.mk.injEq, reduceCtorEq, false_and, false_or] at h
    exact ih _ _ _ _ h
  case loop | block =>
    intro id b ih c id' e' c' h
    simp only [Stmt.nodes, List.mem_cons, Prod.mk.injEq, reduceCtorEq, false_and, false_or] at h
    exact ih _ _ _ _ h
  case cons =>
    intro s ss hs hss c id e c' h
    rw [nodes, List.mem_append] at h
    rw [retvalsOf, List.mem_append]
    exact h.imp (hs _ _ _ _) (hss _ _ _ _)
  case nil =>
    intro c id e c' h
    exact absurd h List.not_mem_nil
  case instr | goto =>
    intro id x c id' e' c' h
    cases List.mem_singleton.mp h
  case brk | cont =>
    intro id c id' e' c' h
    cases List.mem_singleton.mp h

end

/-! ## What the pass keeps -/

section

variable {ι ε : Type} {L : Lang ι ε} {sr : Sid} {k : ℕ}

/-- A scanned block is entered at the record that the source is entered at. -/
lemma Scans.entry_eq {ss ss' : List (Stmt ι ε)} (h : Scans sr k ss ss') (next : Option Sid) :
    entry ss' next = entry ss next := by
  cases h <;> rfl

/-- A node of the source and those made of it: a `Return` becomes an assignment and a `Goto`, and
another statement stays with what the pass makes of its blocks. -/
inductive Matched (sr : Sid) (k : ℕ) (made : List (Stmt ι ε × Ctx)) : Stmt ι ε × Ctx → Prop
  | ret {id e n c} : (.instr id (setRetres e), { c with next := some (.source n) }) ∈ made →
      (.goto (.source n) sr, c) ∈ made → Matched sr k made (.ret id e, c)
  | same {s s' c} : Scans sr k [s] [s'] → (s', c) ∈ made → Matched sr k made (s, c)

lemma Matched.mono {made made' : List (Stmt ι ε × Ctx)} {n : Stmt ι ε × Ctx}
    (h : Matched sr k made n) (hsub : made ⊆ made') : Matched sr k made' n := by
  cases h with
  | ret hinstr hgoto => exact .ret (hsub hinstr) (hsub hgoto)
  | same hscans hmem => exact .same hscans (hsub hmem)

/-- The first statement of a block, with the entry of the rest as its successor. -/
lemma head_mem_nodes (c : Ctx) (s : Stmt ι ε) (ss : List (Stmt ι ε)) :
    (s, { c with next := entry ss c.next }) ∈ nodes c (s :: ss) := by
  rw [nodes]
  refine List.mem_append_left _ ?_
  cases s <;> simp [Stmt.nodes]

/-- A statement that stays, with the rest of the block. -/
lemma matched_cons {s s' : Stmt ι ε} {ss ss' : List (Stmt ι ε)} {c : Ctx} {n : Stmt ι ε × Ctx}
    (hss : Scans sr k ss ss')
    (hs : ∀ c, ∀ n ∈ s.nodes c, Matched sr k (s'.nodes c) n)
    (ih : ∀ {c n}, n ∈ nodes c ss → Matched sr k (nodes c ss') n) (hn : n ∈ nodes c (s :: ss)) :
    Matched sr k (nodes c (s' :: ss')) n := by
  rw [nodes, List.mem_append] at hn
  rw [nodes, hss.entry_eq]
  rcases hn with hn | hn
  · exact (hs _ n hn).mono (List.subset_append_left _ _)
  · exact (ih hn).mono (List.subset_append_right _ _)

/-- Every node of a scanned block is matched by what is made of it. -/
lemma Scans.matched {ss ss' : List (Stmt ι ε)} (h : Scans sr k ss ss') {c : Ctx}
    {n : Stmt ι ε × Ctx} (hn : n ∈ nodes c ss) : Matched sr k (nodes c ss') n := by
  induction h generalizing c n with
  | nil => exact absurd hn List.not_mem_nil
  | @ret id e j ss ss' _ hss ih =>
      rw [nodes, List.mem_append] at hn
      rcases hn with hn | hn
      · cases List.mem_singleton.mp hn
        rw [← hss.entry_eq]
        exact .ret (head_mem_nodes c (.instr id (setRetres e)) (.goto (.source j) sr :: ss'))
          (List.mem_append_right _ (head_mem_nodes c (.goto (.source j) sr) ss'))
      · exact (ih hn).mono fun n hn => List.mem_append_right _ (List.mem_append_right _ hn)
  | instr hss ih =>
      refine matched_cons hss (fun c n hn => ?_) ih hn
      rw [List.mem_singleton.mp hn]
      exact .same (.instr .nil) (List.mem_singleton_self _)
  | goto hss ih =>
      refine matched_cons hss (fun c n hn => ?_) ih hn
      rw [List.mem_singleton.mp hn]
      exact .same (.goto .nil) (List.mem_singleton_self _)
  | brk hss ih =>
      refine matched_cons hss (fun c n hn => ?_) ih hn
      rw [List.mem_singleton.mp hn]
      exact .same (.brk .nil) (List.mem_singleton_self _)
  | cont hss ih =>
      refine matched_cons hss (fun c n hn => ?_) ih hn
      rw [List.mem_singleton.mp hn]
      exact .same (.cont .nil) (List.mem_singleton_self _)
  | cond hb1 hb2 hss ih1 ih2 ih =>
      refine matched_cons hss (fun c n hn => ?_) ih hn
      rw [Stmt.nodes, List.mem_cons, List.mem_append] at hn
      rcases hn with rfl | hn | hn
      · exact .same (.cond hb1 hb2 .nil) List.mem_cons_self
      · exact (ih1 hn).mono fun n hn => List.mem_cons_of_mem _ (List.mem_append_left _ hn)
      · exact (ih2 hn).mono fun n hn => List.mem_cons_of_mem _ (List.mem_append_right _ hn)
  | switch hb hss ihb ih =>
      refine matched_cons hss (fun c n hn => ?_) ih hn
      rcases List.mem_cons.mp hn with rfl | hn
      · exact .same (.switch hb .nil) List.mem_cons_self
      · exact (ihb hn).mono (List.subset_cons_self _ _)
  | loop hb hss ihb ih =>
      refine matched_cons hss (fun c n hn => ?_) ih hn
      rcases List.mem_cons.mp hn with rfl | hn
      · exact .same (.loop hb .nil) List.mem_cons_self
      · exact (ihb hn).mono (List.subset_cons_self _ _)
  | block hb hss ihb ih =>
      refine matched_cons hss (fun c n hn => ?_) ih hn
      rcases List.mem_cons.mp hn with rfl | hn
      · exact .same (.block hb .nil) List.mem_cons_self
      · exact (ihb hn).mono (List.subset_cons_self _ _)

/-- The labels of what is made: no case labels but those of the source. -/
structure LabelsKept (k : ℕ) (labels labels' : Sid → List Label) : Prop where
  cases : ∀ x l, l.isCase = true → (l ∈ labels' x ↔ l ∈ labels x)
  new : ∀ n, k ≤ n → ∀ l ∈ labels' (.source n), l.isCase = false

section

variable {labels labels' : Sid → List Label} (hlabels : LabelsKept k labels labels')

include hlabels

/-- A statement keeps its case labels. -/
lemma LabelsKept.any_isCase (x : Sid) :
    (labels' x).any Label.isCase = (labels x).any Label.isCase := by
  rw [Bool.eq_iff_iff, List.any_eq_true, List.any_eq_true]
  constructor
  · rintro ⟨l, hl, hcase⟩
    exact ⟨l, (hlabels.cases x l hcase).mp hl, hcase⟩
  · rintro ⟨l, hl, hcase⟩
    exact ⟨l, (hlabels.cases x l hcase).mpr hl, hcase⟩

lemma LabelsKept.contains {l : Label} (hl : l.isCase = true) (x : Sid) :
    (labels' x).contains l = (labels x).contains l := by
  rw [Bool.eq_iff_iff, List.contains_iff_mem, List.contains_iff_mem]
  exact hlabels.cases x l hl

/-- A `Switch` chooses what it chose. -/
lemma LabelsKept.chosen_eq (cases : List Sid) (n : ℤ) (next : Option Sid) :
    chosen labels' cases n next = chosen labels cases n next := by
  simp only [chosen, hlabels.contains (l := .case n) rfl, hlabels.contains (l := .default) rfl]

/-- The records that the pass adds have no case labels. -/
lemma Scans.findCaseLabeledStmts_eq {sup : Bool} {ss ss' : List (Stmt ι ε)}
    (h : Scans sr k ss ss') : findCaseLabeledStmts labels' (erase L sup ss') =
      findCaseLabeledStmts labels (erase L sup ss) := by
  induction h with
  | nil => rfl
  | @ret id e n ss ss' hn _ ih =>
      have hnone : (labels (.source n)).any Label.isCase = false := by
        rw [← hlabels.any_isCase, List.any_eq_false]
        exact fun l hl => by simp [hlabels.new n hn l hl]
      simp [erase, Stmt.erase, findCaseLabeledStmts, Stmt.caseLabeled, hlabels.any_isCase, hnone,
        ih]
  | instr _ ih | goto _ ih | brk _ ih | cont _ ih =>
      simp only [erase, Stmt.erase, findCaseLabeledStmts, Stmt.caseLabeled, hlabels.any_isCase, ih]
  | cond _ _ _ ih1 ih2 ih =>
      simp only [erase, Stmt.erase, findCaseLabeledStmts, Stmt.caseLabeled, hlabels.any_isCase, ih1,
        ih2, ih]
  | switch _ _ ihb ih | loop _ _ ihb ih | block _ _ ihb ih =>
      simp only [erase, Stmt.erase, findCaseLabeledStmts, Stmt.caseLabeled, hlabels.any_isCase, ihb,
        ih]

/-- A statement that stays does what it did. -/
lemma Scans.step_eq {σ v : Type} {S : Sem L σ v} {sup : Bool} {s s' : Stmt ι ε}
    (h : Scans sr k [s] [s']) (c : Ctx) (m : σ × v) :
    s'.step S sup labels' c m = s.step S sup labels c m := by
  cases h with
  | instr | goto | brk | cont => rfl
  | cond hb1 hb2 => rw [Stmt.step, hb1.entry_eq, hb2.entry_eq, Stmt.step]
  | switch hb =>
      rw [Stmt.step, hb.findCaseLabeledStmts_eq hlabels, Stmt.step]
      simp only [hlabels.chosen_eq]
  | loop hb => rw [Stmt.step, hb.entry_eq, Stmt.step]
  | block hb => rw [Stmt.step, hb.entry_eq, Stmt.step]

end

end

/-! ## The runs of both functions -/

section

variable {ι ε σ v : Type} {L : Lang ι ε} {f g : Fundec ι ε} {next : ℕ} {past : Sid}

/-- What a run of the source ends with, behind the pass. -/
def Result.closed (hasRet : Bool) : Result σ v → Result σ v
  | .returned s w => .returned s w
  | .fellOff s r => .returned s (if hasRet then some r else none)

/-- The record of `getRetStmt` stands in the function that is made. -/
def HasRetStmt (f g : Fundec ι ε) (sr past : Sid) : Prop := ∃ c, (retStmt f sr, c) ∈ g.nodes past

/-- A node of the source in the function that is made: it stays, or it is a `Return` from which
control goes on to the record of `getRetStmt`. -/
inductive Placed (L : Lang ι ε) (f g : Fundec ι ε) (sr past : Sid) : Stmt ι ε × Ctx → Prop
  | same {s s' c c'} : (s', c') ∈ g.nodes past → s'.id = s.id →
      (∀ (σ v : Type) (S : Sem L σ v) (m : σ × v), s'.step S g.retTypSupported g.labels c' m =
        s.step S f.retTypSupported f.labels c m) → Placed L f g sr past (s, c)
  | returns {id e c c' z} : (.instr id (setRetres e), c') ∈ g.nodes past → c'.next = some z →
      (z = sr ∨ ∃ c'', (.goto z sr, c'') ∈ g.nodes past) → e.isSome = f.hasRet →
      HasRetStmt f g sr past → Placed L f g sr past (.ret id e, c)

/-- Where a run of the source can be. -/
def Inside (L : Lang ι ε) (f g : Fundec ι ε) (sr past x : Sid) : Prop :=
  x ∈ idsOf (f.erase L).sbody.stmts ∨ x = sr ∧ HasRetStmt f g sr past

/-- The label that the pass adds is no case label. -/
lemma oneret_labelsKept (hnext : f.NumberedBelow L next) (hwf : (f.erase L).sbody.WellFormed)
    (haveGoto : Bool) :
    LabelsKept (next + 1) f.labels (labelsWith f (.source next) haveGoto) where
  cases := by
    intro x l hl
    refine ⟨fun h => ?_, mem_labelsWith⟩
    rw [labelsWith] at h
    split_ifs at h
    · by_cases hx : x = .source next
      · subst hx
        rw [Function.update_self, List.mem_cons] at h
        rcases h with rfl | h
        · cases hl
        · exact h
      · rwa [Function.update_of_ne hx] at h
    · exact h
  new := by
    intro n hn l hl
    have hne : Sid.source n ≠ .source next := fun h => by
      cases h
      exact absurd hn (Nat.not_succ_le_self next)
    have hempty : f.labels (.source n) = [] := by
      refine hwf.labels _ fun hmem => ?_
      obtain ⟨j, hj, heq⟩ := hnext _ hmem
      cases heq
      omega
    have hsame : labelsWith f (.source next) haveGoto (.source n) = f.labels (.source n) := by
      rw [labelsWith]
      split_ifs
      · rw [Function.update_of_ne hne]
      · rfl
    rw [hsame, hempty] at hl
    exact absurd hl List.not_mem_nil

/-- The ending is entered at the record that the source ends with. -/
lemma Ending.entry_eq {sr : Sid} {haveGoto : Bool} {e e' : List (Stmt ι ε)}
    (h : Ending L f sr haveGoto e e') (past : Option Sid) : entry e' past = entry e (some sr) := by
  cases h <;> rfl

/-- The context of the statements in front of the ending. -/
def beforeEnding (e : List (Stmt ι ε)) (sr : Sid) : Ctx :=
  { Ctx.top with next := entry e (some sr) }

/-- The nodes in front of the ending go on at its record. -/
lemma nodes_of_ending {sr : Sid} {haveGoto : Bool} {init init' e e' : List (Stmt ι ε)}
    (hf : f.stmts = init ++ e) (hg : g.stmts = init' ++ e') (hend : Ending L f sr haveGoto e e')
    (past : Sid) :
    f.nodes sr = nodes (beforeEnding e sr) init ++ nodes { Ctx.top with next := some sr } e ∧
    g.nodes past = nodes (beforeEnding e sr) init' ++ nodes { Ctx.top with next := some past } e' :=
  by
  rw [Fundec.nodes, Fundec.nodes, hf, hg, nodes_append, nodes_append, hend.entry_eq]
  exact ⟨rfl, rfl⟩

/-- The record of `getRetStmt` is missing only where a `Return` stays. -/
lemma hasRetStmt_or_kept {sr : Sid} {haveGoto : Bool} {init' e e' : List (Stmt ι ε)}
    (hg : g.stmts = init' ++ e') (hend : Ending L f sr haveGoto e e') (past : Sid) :
    HasRetStmt f g sr past ∨ haveGoto = false ∧ ∃ id x, e = [.ret id x] ∧ e' = e := by
  rw [HasRetStmt, Fundec.nodes, hg, nodes_append]
  cases hend with
  | kept _ => exact Or.inr ⟨rfl, _, _, rfl, rfl⟩
  | made => exact Or.inl ⟨_, List.mem_append_right _ (head_mem_nodes _ _ [])⟩
  | last _ =>
      refine Or.inl ⟨_, List.mem_append_right _ (List.mem_append_right _ (head_mem_nodes _ _ []))⟩

/-- A statement that stays keeps its identity. -/
lemma Scans.id_eq {sr : Sid} {k : ℕ} {s s' : Stmt ι ε} (h : Scans sr k [s] [s']) : s'.id = s.id :=
  Option.some.inj (h.entry_eq none)

/-- A `Return` at the end of the source is kept as it is, or becomes an assignment. -/
lemma Ending.placed {sr : Sid} {haveGoto : Bool} {init' e e' : List (Stmt ι ε)}
    (hend : Ending L f sr haveGoto e e') (hg : g.stmts = init' ++ e') (past : Sid)
    {n : Stmt ι ε × Ctx} (hn : n ∈ nodes { Ctx.top with next := some sr } e) :
    Placed L f g sr past n := by
  have hback : nodes { Ctx.top with next := some past } e' ⊆ g.nodes past := by
    rw [Fundec.nodes, hg, nodes_append]
    exact List.subset_append_right _ _
  cases hend with
  | made => exact absurd hn List.not_mem_nil
  | @kept id x _ =>
      cases List.mem_singleton.mp hn
      refine .same (hback (head_mem_nodes _ (.ret id x) [])) rfl fun σ v S m => ?_
      cases x with
      | none => rfl
      | some x => rfl
  | @last _ id x hfit =>
      cases List.mem_singleton.mp hn
      exact .returns (hback (head_mem_nodes _ (.instr id (setRetres x)) [retStmt f sr])) rfl
        (Or.inl rfl) hfit
        ⟨_, hback (List.mem_append_right _ (head_mem_nodes _ (retStmt f sr) []))⟩

/-- **The nodes of the source** in the function that is made. -/
lemma oneret_placed (hnext : f.NumberedBelow L next) (hwf : (f.erase L).sbody.WellFormed)
    (h : oneret L f next = .ok g) (past : Sid) {n : Stmt ι ε × Ctx}
    (hn : n ∈ f.nodes (.source next)) : Placed L f g (.source next) past n := by
  obtain ⟨init, init', e, e', p, hinit, hscanned, hfits, hend, hg⟩ := oneret_eq_ok h
  have hstmts : g.stmts = init' ++ e' := by rw [hg]
  have hlabels : LabelsKept (next + 1) f.labels g.labels := by
    rw [hg]
    exact oneret_labelsKept hnext hwf p.haveGoto
  have hsup : g.retTypSupported = f.retTypSupported := by rw [hg]
  obtain ⟨hnodes, hnodes'⟩ := nodes_of_ending hinit hstmts hend past
  have hfront : nodes (beforeEnding e (.source next)) init' ⊆ g.nodes past := by
    rw [hnodes']
    exact List.subset_append_left _ _
  rw [hnodes, List.mem_append] at hn
  rcases hn with hn | hn
  · cases hscanned.scans.matched hn with
    | ret hinstr hgoto =>
        have hret := mem_retvalsOf.2 _ _ _ _ _ hn
        refine .returns (hfront hinstr) rfl (Or.inr ⟨_, hfront hgoto⟩) (hfits _ hret) ?_
        rcases hasRetStmt_or_kept hstmts hend past with hstmt | ⟨hno, -⟩
        · exact hstmt
        · -- a `Goto` has been made for this `Return`
          rw [(hscanned.haveGoto_eq_false.mp hno).2] at hret
          exact absurd hret List.not_mem_nil
    | same hscans hmem =>
        refine .same (hfront hmem) hscans.id_eq fun σ v S m => ?_
        rw [hsup]
        exact hscans.step_eq hlabels _ m
  · exact hend.placed hstmts past hn

/-- A run that enters a block of the source, or goes past it, is inside. -/
lemma inside_of_entry {sr : Sid} {ss : List (Stmt ι ε)} {y : Sid}
    (hsub : idsOf (erase L f.retTypSupported ss) ⊆ idsOf (f.erase L).sbody.stmts)
    (hnil : ss = [] → HasRetStmt f g sr past) (hy : entry ss (some sr) = some y) :
    Inside L f g sr past y := by
  cases ss with
  | nil =>
      obtain rfl := Option.some.inj hy
      exact Or.inr ⟨rfl, hnil rfl⟩
  | cons s ss =>
      obtain rfl := Option.some.inj hy
      refine Or.inl (hsub ?_)
      rw [erase, idsOf]
      exact List.mem_append_left _ (id_erase L f.retTypSupported s ▸ Cil.Stmt.id_mem_ids _)

/-- Nothing follows a `Return`. -/
lemma ret_ne_goes {S : Sem L σ v} {sup : Bool} {labels : Sid → List Label} {c : Ctx} {id : Sid}
    {e : Option (Exp ε)} {m : σ × v} {p : Point σ v} :
    (Stmt.ret id e).step S sup labels c m ≠ .goes p := by
  cases e with
  | none => exact fun h => by cases h
  | some e =>
      rw [Stmt.step]
      split <;> exact fun h => by cases h

/-- Where the source does not end with a `Return`, the pass adds one. -/
lemma hasRetStmt_of_nil {sr : Sid} {haveGoto : Bool} {init' e e' : List (Stmt ι ε)}
    (hg : g.stmts = init' ++ e') (hend : Ending L f sr haveGoto e e') (past : Sid) (he : e = []) :
    HasRetStmt f g sr past := by
  rcases hasRetStmt_or_kept hg hend past with h | ⟨-, id, x, hret, -⟩
  · exact h
  · rw [he] at hret
    cases hret

/-- A run of the source stays inside. -/
lemma oneret_inside (hwf : (f.erase L).sbody.WellFormed)
    (h : oneret L f next = .ok g) (past : Sid) {n : Stmt ι ε × Ctx}
    (hn : n ∈ f.nodes (.source next)) {S : Sem L σ v} {m m' : σ × v} {y : Sid}
    (hgoes : n.1.step S f.retTypSupported f.labels n.2 m = .goes (y, m')) :
    Inside L f g (.source next) past y := by
  obtain ⟨init, init', e, e', p, hinit, -, -, hend, hg⟩ := oneret_eq_ok h
  have hstmts : g.stmts = init' ++ e' := by rw [hg]
  have hids : idsOf (f.erase L).sbody.stmts = idsOf (erase L f.retTypSupported init) ++
      idsOf (erase L f.retTypSupported e) := by
    rw [Fundec.erase, hinit, erase_append, idsOf_append]
  rw [(nodes_of_ending hinit hstmts hend past).1, List.mem_append] at hn
  rcases hn with hn | hn
  · rcases goes_leadsTo hn hgoes with hy | ⟨q, hq⟩ | hy | hy | hy
    · rw [Inside, hids]
      exact Or.inl (List.mem_append_left _ hy)
    · refine Or.inl (hwf.targets (q, y) ?_).1
      rw [Fundec.erase, hinit, erase_append, gotosOf_append]
      exact List.mem_append_left _ hq
    · exact inside_of_entry (hids ▸ List.subset_append_right _ _)
        (hasRetStmt_of_nil hstmts hend past) hy
    · cases hy
    · cases hy
  · -- the ending goes nowhere
    obtain ⟨id, x, c, rfl⟩ : ∃ id x c, n = (.ret id x, c) := by
      generalize p.haveGoto = haveGoto at hend
      cases hend with
      | made => exact absurd hn List.not_mem_nil
      | kept _ | last _ => exact ⟨_, _, _, List.mem_singleton.mp hn⟩
    exact absurd hgoes ret_ne_goes

lemma entry_start (f : Fundec ι ε) (past : Sid) :
    entry f.stmts (some past) = some (f.start past) := by
  rw [Fundec.start]
  cases f.stmts <;> rfl

/-- Both functions start at the same record. -/
lemma oneret_start (h : oneret L f next = .ok g) (past : Sid) :
    g.start past = f.start (.source next) ∧
      Inside L f g (.source next) past (f.start (.source next)) := by
  obtain ⟨init, init', e, e', p, hinit, hscanned, -, hend, hg⟩ := oneret_eq_ok h
  have hstmts : g.stmts = init' ++ e' := by rw [hg]
  constructor
  · refine Option.some.inj ?_
    calc some (g.start past) = entry init' (entry e' (some past)) := by
          rw [← entry_start, hstmts, entry_append]
      _ = entry init (entry e (some (.source next))) := by
          rw [hend.entry_eq, hscanned.scans.entry_eq]
      _ = some (f.start (.source next)) := by rw [← entry_start, hinit, entry_append]
  · refine inside_of_entry (List.Subset.refl _) (fun hnil => ?_) (entry_start f (.source next))
    rw [hinit, List.append_eq_nil_iff] at hnil
    exact hasRetStmt_of_nil hstmts hend past hnil.2

/-! ### The simulation -/

variable {S : Sem L σ v}

/-- The function steps as the statement of its node does. -/
lemma step_of_mem (hnodup : (idsOf (f.erase L).sbody.stmts).Nodup) {s : Stmt ι ε} {c : Ctx}
    (hs : (s, c) ∈ f.nodes past) (m : σ × v) :
    f.step S past (s.id, m) = s.step S f.retTypSupported f.labels c m := by
  rw [Fundec.step, nodeAt_of_mem hnodup hs]

/-- Only a `Return` halts, and it keeps the state of the program. -/
lemma ret_halts {sup : Bool} {labels : Sid → List Label} {c : Ctx} {m : σ × v} {s : Stmt ι ε}
    {o : Result σ v} (h : s.step S sup labels c m = .halts o) : ∃ w, o = .returned m.1 w := by
  cases s with
  | ret id e =>
      cases e with
      | none =>
          cases h
          exact ⟨none, rfl⟩
      | some e =>
          rw [Stmt.step] at h
          split at h
          · cases h
            exact ⟨_, rfl⟩
          · cases h
  | goto id t => cases h
  | brk id | cont id | loop id b | block id b => exact absurd h goOn_ne_halts
  | instr id is | cond id guard b1 b2 | switch id e b =>
      rw [Stmt.step] at h
      split at h
      · exact absurd h goOn_ne_halts
      · cases h

/-- What the record of `getRetStmt` returns. -/
lemma retStmt_step {sr : Sid} {sup : Bool} {labels : Sid → List Label} {c : Ctx} {m : σ × v} :
    (retStmt f sr).step S sup labels c m =
      .halts (.returned m.1 (if f.hasRet then some m.2 else none)) := by
  rw [retStmt]
  cases f.hasRet <;> rfl

section

variable (hnodup : (idsOf (g.erase L).sbody.stmts).Nodup) {sr : Sid}

include hnodup

/-- From the record of `getRetStmt` the run returns what `__retres` holds. -/
lemma returns_retStmt (h : HasRetStmt f g sr past) (m : σ × v) :
    Returns (g.step S past) (sr, m) (.returned m.1 (if f.hasRet then some m.2 else none)) := by
  obtain ⟨c, hc⟩ := h
  refine .halt ?_
  have hstep := step_of_mem (S := S) hnodup hc m
  rw [retStmt_step] at hstep
  exact hstep

/-- Behind the assignment control goes to the record of `getRetStmt`. -/
lemma returns_behind {z : Sid} (h : HasRetStmt f g sr past)
    (hz : z = sr ∨ ∃ c, (.goto z sr, c) ∈ g.nodes past) (m : σ × v) :
    Returns (g.step S past) (z, m) (.returned m.1 (if f.hasRet then some m.2 else none)) := by
  rcases hz with rfl | ⟨c, hc⟩
  · exact returns_retStmt hnodup h m
  · have hstep : g.step S past (z, m) = .goes (sr, m) := step_of_mem (S := S) hnodup hc m
    exact (Takes.single hstep).returns (returns_retStmt hnodup h m)

/-- A `Return` of the source in the function that is made. -/
lemma returns_of_ret {id z : Sid} {e : Option (Exp ε)} {c c' : Ctx}
    (hinstr : (.instr id (setRetres e), c') ∈ g.nodes past) (hc' : c'.next = some z)
    (hz : z = sr ∨ ∃ c'', (.goto z sr, c'') ∈ g.nodes past) (hfit : e.isSome = f.hasRet)
    (h : HasRetStmt f g sr past) {sup : Bool} {labels : Sid → List Label} (m : σ × v) :
    (∀ o, (Stmt.ret id e).step S sup labels c m = .halts o → Returns (g.step S past) (id, m) o) ∧
    ((Stmt.ret id e).step S sup labels c m = .stuck → g.step S past (id, m) = .stuck) := by
  have hstep : g.step S past (id, m) = _ := step_of_mem (S := S) hnodup hinstr m
  have hgo : ∀ m' : σ × v, goOn m' c'.next = .goes (z, m') := by
    intro m'
    rw [hc', goOn]
  cases e with
  | none =>
      refine ⟨fun o ho => ?_, fun ho => by cases ho⟩
      cases ho
      have hgoes : g.step S past (id, m) = .goes (z, m) := by
        rw [hstep, Stmt.step, setRetres, List.foldlM_nil]
        exact hgo m
      have hret := returns_behind (S := S) hnodup h hz m
      rw [← hfit] at hret
      exact (Takes.single hgoes).returns hret
  | some x =>
      rw [Stmt.step, setRetres, List.foldlM_cons, Instr.run] at hstep
      rw [Stmt.step]
      cases hx : x.value S m with
      | none =>
          rw [hx] at hstep
          exact ⟨fun o ho => (by cases ho), fun _ => hstep⟩
      | some w =>
          refine ⟨fun o ho => ?_, fun ho => by cases ho⟩
          cases ho
          have hgoes : g.step S past (id, m) = .goes (z, (m.1, w)) := by
            rw [hstep, hx]
            exact hgo (m.1, w)
          have hret := returns_behind (S := S) hnodup h hz (m.1, w)
          rw [← hfit] at hret
          exact (Takes.single hgoes).returns hret

end

/-- **The simulation** of the source by the function that is made. -/
lemma oneret_simulation (hnext : f.NumberedBelow L next) (hwf : (f.erase L).sbody.WellFormed)
    (h : oneret L f next = .ok g) (past : Sid) (S : Sem L σ v) :
    Simulation (f.step S (.source next)) (g.step S past)
      (fun p p' => p = p' ∧ Inside L f g (.source next) past p.1)
      (fun o o' => o' = Result.closed f.hasRet o) := by
  have hnodup : (idsOf (g.erase L).sbody.stmts).Nodup := (oneret_form hnext hwf h).1.nodup
  constructor
  · rintro ⟨x, m⟩ _ ⟨y, m'⟩ ⟨rfl, hin⟩ hgoes
    rw [Fundec.step] at hgoes
    split at hgoes
    case h_1 s c hnode =>
      obtain ⟨hn, rfl⟩ := mem_of_nodeAt hnode
      refine ⟨0, (y, m'), ?_, rfl, oneret_inside hwf h past hn hgoes⟩
      cases oneret_placed hnext hwf h past hn with
      | returns => exact absurd hgoes ret_ne_goes
      | same hmem hid heq =>
          refine .single ?_
          rw [← hid, step_of_mem hnodup hmem, heq, hgoes]
    case h_2 => split_ifs at hgoes
  · rintro ⟨x, m⟩ _ o ⟨rfl, hin⟩ hhalts
    rw [Fundec.step] at hhalts
    split at hhalts
    case h_1 s c hnode =>
      obtain ⟨hn, rfl⟩ := mem_of_nodeAt hnode
      obtain ⟨w, rfl⟩ := ret_halts hhalts
      refine ⟨_, ?_, rfl⟩
      cases oneret_placed hnext hwf h past hn with
      | returns hinstr hc' hz hfit hstmt =>
          exact (returns_of_ret hnodup hinstr hc' hz hfit hstmt m).1 _ hhalts
      | same hmem hid heq =>
          refine .halt ?_
          rw [← hid, step_of_mem hnodup hmem, heq, hhalts, Result.closed]
    case h_2 hnode =>
      split_ifs at hhalts with hx
      cases hhalts
      rcases hin with hin | ⟨-, hstmt⟩
      · exact absurd hin (nodeAt_eq_none hnode)
      · rw [hx]
        exact ⟨_, returns_retStmt hnodup hstmt m, rfl⟩
  · rintro ⟨x, m⟩ _ ⟨rfl, hin⟩ hstuck
    rw [Fundec.step] at hstuck
    split at hstuck
    case h_1 s c hnode =>
      obtain ⟨hn, rfl⟩ := mem_of_nodeAt hnode
      refine ⟨0, _, .refl _, ?_⟩
      cases oneret_placed hnext hwf h past hn with
      | returns hinstr hc' hz hfit hstmt =>
          exact (returns_of_ret hnodup hinstr hc' hz hfit hstmt m).2 hstuck
      | same hmem hid heq => rw [← hid, step_of_mem hnodup hmem, heq, hstuck]
    case h_2 hnode =>
      split_ifs at hstuck with hx
      rcases hin with hin | ⟨hsr, -⟩
      · exact absurd hin (nodeAt_eq_none hnode)
      · exact absurd hsr hx

/-- **Meaning**: what the function that is made returns is what its source returns, or what
`__retres` holds where the source falls off its end. -/
theorem oneret_returns (hnext : f.NumberedBelow L next) (hwf : (f.erase L).sbody.WellFormed)
    (h : oneret L f next = .ok g) (past : Sid) (S : Sem L σ v) (m : σ × v) (o : Result σ v) :
    Returns (g.step S past) (g.start past, m) o ↔
      ∃ o', Returns (f.step S (.source next)) (f.start (.source next), m) o' ∧
        o = o'.closed f.hasRet := by
  have hsim := oneret_simulation hnext hwf h past S
  obtain ⟨hstart, hinside⟩ := oneret_start h past
  rw [hstart]
  constructor
  · exact hsim.returned ⟨rfl, hinside⟩
  · rintro ⟨o', hret, rfl⟩
    obtain ⟨o'', hret', rfl⟩ := hsim.returns ⟨rfl, hinside⟩ hret
    exact hret'

/-- A number is its own value. -/
def numberedSem : Sem numbered Unit ℕ where
  exec _ s := some s
  eval e _ := some e
  truth w := w != 0
  toInt w := w
  exec_of_fallsThrough _ _ h := absurd h.symm Bool.false_ne_true

/-- The function with two returns, made to return once: it returns 2 as it did. -/
theorem twoReturns_returns :
    Returns (twoReturnsResult.step numberedSem .prefn)
      (twoReturnsResult.start .prefn, ((), 0)) (.returned () (some 2)) :=
  (oneret_returns twoReturns_numbered twoReturns_wellFormed rfl .prefn numberedSem ((), 0) _).mpr
    ⟨.returned () (some 2), ⟨1, .step rfl (.halt rfl)⟩, rfl⟩

end

end SymDrive.Cil.OneRet
