import SymDrive.Cil.BranchHints

/-!
# Calls end their statements

The passes that run over the driver before `pass_builtin_expect`: `calls_end_basic_blocks` of
`partial.ml`, with which `dodriveranalysis` starts, and `pass_remove_calls` of `root_annot_dri.ml`.

`calls_end_basic_blocks` puts every instruction of a statement that makes a call into a statement of
its own.  The labels stay on the block around them.  So `pass_builtin_expect`, which is right only
for a hint that stands alone and without a label, meets no other hint in a driver.

* `callsEndBasicBlocks_sound` — every call is alone in its statement, and the code is the same up to
  the braces of blocks.
* `branch_hints_received` — in the blocks that `pass_builtin_expect` receives, every hint gets its
  conditional.
* `hints_in_pipeline` — the three passes together, up to the braces.
-/

namespace SymDrive.Cil.Hints

open Checked

section

variable {ε ℓ : Type}

/-! ## The passes -/

def Instr.isCall : Instr ε ℓ → Bool
  | .call _ _ _ => true
  | .set _ _ | .asm _ => false

/-- `contains_call` -/
def containsCall : List (Instr ε ℓ) → Bool
  | [] => false
  | i :: tl => i.isCall || containsCall tl

/-- `mkStmtOneInstr`: a statement without labels around one instruction. -/
def mkStmtOneInstr (i : Instr ε ℓ) : Stmt ε ℓ := .instr [] [i]

mutual

/-- `callBBVisitor`.  The statement becomes the block, so it keeps its labels. -/
def Stmt.callBB : Stmt ε ℓ → Stmt ε ℓ
  | .instr labels il =>
      if containsCall il then .block labels (il.map mkStmtOneInstr) else .instr labels il
  | .cond labels guard b1 b2 =>
      .cond labels guard (callsEndBasicBlocks b1) (callsEndBasicBlocks b2)
  | .switch labels e b => .switch labels e (callsEndBasicBlocks b)
  | .loop labels b => .loop labels (callsEndBasicBlocks b)
  | .block labels b => .block labels (callsEndBasicBlocks b)
  | .ret labels e => .ret labels e
  | .goto labels target => .goto labels target
  | .brk labels => .brk labels
  | .cont labels => .cont labels

def callsEndBasicBlocks : List (Stmt ε ℓ) → List (Stmt ε ℓ)
  | [] => []
  | s :: ss => s.callBB :: callsEndBasicBlocks ss

end

/-- `remove_fns` of `pass_remove_calls`. -/
def removeFns : List String :=
  ["usleep_range", "msleep", "msleep_interruptible", "mdelay", "udelay", "__udelay",
    "__const_udelay", "interruptible_sleep_on_timeout", "schedule", "probe_irq_on",
    "probe_irq_off", "bus_space_barrier", "DELAY"]

variable (expTostring : Exp ε ℓ → String)

/-- `vinst` of `pass_remove_calls` changes such an instruction to none. -/
def Instr.isRemoved : Instr ε ℓ → Bool
  | .call _ e _ => removeFns.contains (expTostring e)
  | .set _ _ | .asm _ => false

mutual

def Stmt.removeCalls : Stmt ε ℓ → Stmt ε ℓ
  | .instr labels il => .instr labels (il.filter fun i => !i.isRemoved expTostring)
  | .cond labels guard b1 b2 => .cond labels guard (removeCalls b1) (removeCalls b2)
  | .switch labels e b => .switch labels e (removeCalls b)
  | .loop labels b => .loop labels (removeCalls b)
  | .block labels b => .block labels (removeCalls b)
  | .ret labels e => .ret labels e
  | .goto labels target => .goto labels target
  | .brk labels => .brk labels
  | .cont labels => .cont labels

/-- The calls that the splitter removes, in a whole block. -/
def removeCalls : List (Stmt ε ℓ) → List (Stmt ε ℓ)
  | [] => []
  | s :: ss => s.removeCalls :: removeCalls ss

end

/-! ## Code up to braces -/

mutual

/-- A block in the course of control: nested blocks are run through. -/
def Item.splice : Item ε ℓ → List (Item ε ℓ)
  | .block b => splice b
  | .cond guard b1 b2 => [.cond guard (splice b1) (splice b2)]
  | .switch e b => [.switch e (splice b)]
  | .loop b => [.loop (splice b)]
  | .label l => [.label l]
  | .instr i => [.instr i]
  | .ret e => [.ret e]
  | .goto target => [.goto target]
  | .brk => [.brk]
  | .cont => [.cont]

/-- The code without the braces of blocks.  No variable is declared in a block of CIL, so they mean
nothing. -/
def splice : List (Item ε ℓ) → List (Item ε ℓ)
  | [] => []
  | x :: xs => x.splice ++ splice xs

end

mutual

/-- The calls of a statement are alone in their statements, without a label. -/
def Stmt.CallsAlone : Stmt ε ℓ → Prop
  | .instr ls is => (∃ i ∈ is, i.isCall) → ls = [] ∧ is.length = 1
  | .cond _ _ b1 b2 => CallsAlone b1 ∧ CallsAlone b2
  | .switch _ _ b | .loop _ b | .block _ b => CallsAlone b
  | .ret _ _ | .goto _ _ | .brk _ | .cont _ => True

def CallsAlone : List (Stmt ε ℓ) → Prop
  | [] => True
  | s :: ss => s.CallsAlone ∧ CallsAlone ss

end

variable {expTostring}

/-! ## Splicing -/

@[simp] lemma splice_append (xs ys : List (Item ε ℓ)) :
    splice (xs ++ ys) = splice xs ++ splice ys := by
  induction xs with
  | nil => rfl
  | cons x xs ih => rw [List.cons_append, splice, ih, splice, List.append_assoc]

/-- A nested block is run through in its place. -/
lemma splice_block (b : List (Item ε ℓ)) : splice [.block b] = splice b := by
  rw [splice, Item.splice, splice, List.append_nil]

lemma items_cons (s : Stmt ε ℓ) (ss : List (Stmt ε ℓ)) : items (s :: ss) = s.items ++ items ss := by
  rw [items]

lemma expected_cons (s : Stmt ε ℓ) (ss : List (Stmt ε ℓ)) :
    expected expTostring (s :: ss) = s.expected expTostring ++ expected expTostring ss := by
  rw [expected]

/-- Whether a list of instructions is cut up. -/
lemma containsCall_iff {is : List (Instr ε ℓ)} : containsCall is = true ↔ ∃ i ∈ is, i.isCall := by
  induction is with
  | nil => simp [containsCall]
  | cons i is ih => simp [containsCall, ih]

/-! ## Every call ends its statement -/

/-- Statements of one instruction each, after one another. -/
lemma items_map_mkStmtOneInstr (is : List (Instr ε ℓ)) :
    items (is.map mkStmtOneInstr) = is.map .instr := by
  induction is with
  | nil => rfl
  | cons i is ih =>
      rw [List.map_cons, items, ih, mkStmtOneInstr, Stmt.items]
      rfl

/-- Instructions that are cut up stand alone. -/
lemma callsAlone_map_mkStmtOneInstr (is : List (Instr ε ℓ)) :
    CallsAlone (is.map mkStmtOneInstr) := by
  induction is with
  | nil => trivial
  | cons i is ih => exact ⟨fun _ => ⟨rfl, rfl⟩, ih⟩

/-- **Calls end basic blocks**: in what the pass makes, every call is the only instruction of a
statement without labels, and up to the braces of blocks it is the code that was there. -/
theorem callsEndBasicBlocks_sound (b : List (Stmt ε ℓ)) :
    CallsAlone (callsEndBasicBlocks b) ∧
      splice (items (callsEndBasicBlocks b)) = splice (items b) := by
  induction b using blockInduct with
  | nil => exact ⟨trivial, rfl⟩
  | cons s ss hs hss =>
      rw [callsEndBasicBlocks, items_cons, items_cons, splice_append, splice_append]
      simp only [callsEndBasicBlocks, CallsAlone, and_true, items, List.append_nil] at hs
      exact ⟨⟨hs.1, hss.1⟩, by rw [hs.2, hss.2]⟩
  | instr ls is =>
      rw [callsEndBasicBlocks, Stmt.callBB]
      split_ifs with h
      · refine ⟨⟨callsAlone_map_mkStmtOneInstr is, trivial⟩, ?_⟩
        simp only [callsEndBasicBlocks, items, Stmt.items, List.append_nil, splice_append,
          splice_block, items_map_mkStmtOneInstr]
      · refine ⟨⟨fun hcall => absurd (containsCall_iff.mpr hcall) h, trivial⟩, rfl⟩
  | cond ls guard b1 b2 ih1 ih2 =>
      refine ⟨⟨⟨ih1.1, ih2.1⟩, trivial⟩, ?_⟩
      simp only [callsEndBasicBlocks, Stmt.callBB, items, Stmt.items, List.append_nil,
        splice_append, splice, Item.splice, ih1.2, ih2.2]
  | switch ls e b ih =>
      refine ⟨⟨ih.1, trivial⟩, ?_⟩
      simp only [callsEndBasicBlocks, Stmt.callBB, items, Stmt.items, List.append_nil,
        splice_append, splice, Item.splice, ih.2]
  | loop ls b ih =>
      refine ⟨⟨ih.1, trivial⟩, ?_⟩
      simp only [callsEndBasicBlocks, Stmt.callBB, items, Stmt.items, List.append_nil,
        splice_append, splice, Item.splice, ih.2]
  | block ls b ih =>
      refine ⟨⟨ih.1, trivial⟩, ?_⟩
      simp only [callsEndBasicBlocks, Stmt.callBB, items, Stmt.items, List.append_nil,
        splice_append, splice, Item.splice, ih.2]
  | ret ls e => exact ⟨⟨trivial, trivial⟩, rfl⟩
  | goto ls t => exact ⟨⟨trivial, trivial⟩, rfl⟩
  | brk ls => exact ⟨⟨trivial, trivial⟩, rfl⟩
  | cont ls => exact ⟨⟨trivial, trivial⟩, rfl⟩

/-! ## The hints that are left -/

/-- A hint is a call. -/
lemma isCall_of_hint {i : Instr ε ℓ} (h : (hint? expTostring i).isSome) : i.isCall = true := by
  cases i with
  | call retval f args => rfl
  | set lv e => cases h
  | asm template => cases h

/-- Removing instructions leaves a hint that was alone alone. -/
lemma hintsAlone_removeCalls {b : List (Stmt ε ℓ)} (h : CallsAlone b) :
    HintsAlone expTostring (removeCalls expTostring b) := by
  induction b using blockInduct with
  | nil => trivial
  | cons s ss hs hss =>
      have halone := hs ⟨h.1, trivial⟩
      exact ⟨halone.1, hss h.2⟩
  | instr ls is =>
      refine ⟨?_, trivial⟩
      rintro ⟨i, hi, hhint⟩
      obtain ⟨hls, hlen⟩ := h.1 ⟨i, List.mem_of_mem_filter hi, isCall_of_hint hhint⟩
      obtain ⟨j, rfl⟩ := List.length_eq_one_iff.mp hlen
      refine ⟨hls, ?_⟩
      rw [List.mem_filter, List.mem_singleton] at hi
      obtain ⟨rfl, hkept⟩ := hi
      rw [List.filter_cons_of_pos (by simpa using hkept)]
      rfl
  | cond ls guard b1 b2 ih1 ih2 => exact ⟨⟨ih1 h.1.1, ih2 h.1.2⟩, trivial⟩
  | switch ls e b ih => exact ⟨ih h.1, trivial⟩
  | loop ls b ih => exact ⟨ih h.1, trivial⟩
  | block ls b ih => exact ⟨ih h.1, trivial⟩
  | ret ls e => exact ⟨trivial, trivial⟩
  | goto ls t => exact ⟨trivial, trivial⟩
  | brk ls => exact ⟨trivial, trivial⟩
  | cont ls => exact ⟨trivial, trivial⟩

/-- `pass_builtin_expect` receives no block in which a hint is not alone. -/
lemma hintsAlone_received (b : List (Stmt ε ℓ)) :
    HintsAlone expTostring (removeCalls expTostring (callsEndBasicBlocks b)) :=
  hintsAlone_removeCalls (callsEndBasicBlocks_sound b).1

/-! ## The three passes -/

/-- What is left of instructions that are cut up. -/
lemma expected_removeCalls_map (is : List (Instr ε ℓ)) :
    expected expTostring (removeCalls expTostring (is.map mkStmtOneInstr)) =
      (is.filter fun i => !i.isRemoved expTostring).flatMap (expectedInstr expTostring) := by
  induction is with
  | nil => rfl
  | cons i is ih =>
      rw [List.map_cons, removeCalls, expected_cons, ih, mkStmtOneInstr, Stmt.removeCalls,
        Stmt.expected]
      by_cases h : i.isRemoved expTostring = true <;> simp [h]

/-- The conditionals belong behind the same instructions, whether calls end their statements or
not. -/
lemma splice_expected_callsEnd (b : List (Stmt ε ℓ)) :
    splice (expected expTostring (removeCalls expTostring (callsEndBasicBlocks b))) =
      splice (expected expTostring (removeCalls expTostring b)) := by
  induction b using blockInduct with
  | nil => rfl
  | cons s ss hs hss =>
      simp only [callsEndBasicBlocks, removeCalls, expected, List.append_nil] at hs
      rw [callsEndBasicBlocks, removeCalls, removeCalls, expected_cons, expected_cons,
        splice_append, splice_append, hs, hss]
  | instr ls is =>
      rw [callsEndBasicBlocks, Stmt.callBB]
      split_ifs with h
      · simp only [callsEndBasicBlocks, removeCalls, Stmt.removeCalls, expected, Stmt.expected,
          List.append_nil, splice_append, splice_block, expected_removeCalls_map]
      · rfl
  | cond ls guard b1 b2 ih1 ih2 =>
      simp only [callsEndBasicBlocks, Stmt.callBB, removeCalls, Stmt.removeCalls, expected,
        Stmt.expected, List.append_nil, splice_append, splice, Item.splice, ih1, ih2]
  | switch ls e b ih =>
      simp only [callsEndBasicBlocks, Stmt.callBB, removeCalls, Stmt.removeCalls, expected,
        Stmt.expected, List.append_nil, splice_append, splice, Item.splice, ih]
  | loop ls b ih =>
      simp only [callsEndBasicBlocks, Stmt.callBB, removeCalls, Stmt.removeCalls, expected,
        Stmt.expected, List.append_nil, splice_append, splice, Item.splice, ih]
  | block ls b ih =>
      simp only [callsEndBasicBlocks, Stmt.callBB, removeCalls, Stmt.removeCalls, expected,
        Stmt.expected, List.append_nil, splice_append, splice, Item.splice, ih]
  | _ => rfl

end

/-- **Branch hints**: in every block that it receives, `pass_builtin_expect` puts the conditionals
where they belong, and leaves everything else as it is. -/
theorem branch_hints_received {ε ℓ : Type} (expTostring : Exp ε ℓ → String) (curFundec : String)
    (b : List (Stmt ε ℓ)) :
    ∃ b', vblock expTostring curFundec (removeCalls expTostring (callsEndBasicBlocks b)) =
        .ok b' ∧
      items b' = expected expTostring (removeCalls expTostring (callsEndBasicBlocks b)) := by
  obtain ⟨b', hb', hitems⟩ := branch_hints_iff expTostring curFundec
    (removeCalls expTostring (callsEndBasicBlocks b))
  exact ⟨b', hb', hitems.mpr (hintsAlone_received b)⟩

/-- **Hints in the driver**: for every function body, the three passes go through, and up to the
braces of blocks they make of it the code without the removed calls, with the conditional of every
hint directly behind it. -/
theorem hints_in_pipeline {ε ℓ : Type} (expTostring : Exp ε ℓ → String) (curFundec : String)
    (b : List (Stmt ε ℓ)) :
    ∃ b', vblock expTostring curFundec (removeCalls expTostring (callsEndBasicBlocks b)) =
        .ok b' ∧
      splice (items b') = splice (expected expTostring (removeCalls expTostring b)) := by
  obtain ⟨b', hb', hitems⟩ := branch_hints_iff expTostring curFundec
    (removeCalls expTostring (callsEndBasicBlocks b))
  exact ⟨b', hb', by rw [hitems.mpr (hintsAlone_received b), splice_expected_callsEnd]⟩

/-- `out: x = status; tmp = __builtin_expect(x, 0);` -/
example : ∃ b', vblock text "probe" (removeCalls text (callsEndBasicBlocks
      [.instr [.label "out" true] [.set (.source "x") (.source "status"), expectCall]])) = .ok b' ∧
    (splice (items b')).length = 4 := ⟨_, rfl, rfl⟩

end SymDrive.Cil.Hints
