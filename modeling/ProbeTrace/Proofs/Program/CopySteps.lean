import ProbeTrace.Proofs.Program.CopyWords

/-!
# The statements of the copy routine

What the reservation does with a length, and what a step does with what is left
of it: the reservation refuses a length or moves the counter on, and a step
returns or moves one piece to its chunk.
-/

set_option autoImplicit false

namespace ProbeTrace.Program.CopyRoutine

open Code

variable {kernel : Kernel} {probe : String} {size count : Nat} {m after : Machine}
  {src : UInt64} {len remaining first i : Nat}

/-! ## Steps -/

/-- What a run keeps in mind: the source, the length and how much of it is left. -/
structure Holds (m : Machine) (src : UInt64) (len remaining : Nat) : Prop where
  src : m.locals "src" = some (.pointer (some (.user src)))
  len : m.locals "len" = some (.int .s32 len)
  remaining : m.locals "remaining" = some (.int .s32 remaining)

theorem Holds.set (h : Holds m src len remaining) (name : String) (value : Datum)
    (hname : name ∉ ["src", "len", "remaining"]) :
    Holds (m.set name value) src len remaining := by
  simp only [List.mem_cons, List.not_mem_nil, or_false, not_or] at hname
  refine ⟨?_, ?_, ?_⟩
  · rw [Machine.set_of_ne (Ne.symm hname.1), h.src]
  · rw [Machine.set_of_ne (Ne.symm hname.2.1), h.len]
  · rw [Machine.set_of_ne (Ne.symm hname.2.2), h.remaining]

theorem Holds.setBytes (h : Holds m src len remaining) (referent : Referent) (piece : Bytes) :
    Holds (m.setBytes referent piece) src len remaining :=
  ⟨h.src, h.len, h.remaining⟩

theorem Holds.setRemaining (h : Holds m src len remaining) (rest : Nat) :
    Holds (m.set "remaining" (.int .s32 rest)) src len rest := by
  refine ⟨?_, ?_, Machine.set_self ..⟩
  · rw [Machine.set_of_ne (by decide), h.src]
  · rw [Machine.set_of_ne (by decide), h.len]

theorem step_returns (h : Holds m src len 0) :
    execAll (scope kernel probe size count) (step probe i) m = some (some (.int .s32 len), m) := by
  have htest : eval (scope kernel probe size count) (.binary .le (var "remaining") (.number 0)) m =
      some (.ofBool true, m) :=
    eval_compare_zero rfl (by decide) rfl h.remaining (by decide)
  refine execAll_cons_return ?_
  rw [exec_when_take htest rfl, exec, eval_own (by decide) rfl h.len]
  rfl

/-- The first half of a step finds the chunk. -/
theorem step_locates (hkernel : kernel.Serves (declarations probe size count))
    (hcount : count ≤ 2 ^ 31) (hfirst : first < count) (hi : i < count)
    (hpositive : 0 < remaining) (hremaining : remaining < 2 ^ 31) (h : Holds m src len remaining)
    (hstart : m.locals "first" = some (.int .u32 first)) :
    execAll (scope kernel probe size count) ((step probe i).take 5) m =
      some (none, (m.set "idx" (.int .u32 ((first + i) % count : Nat))).set "chunk"
        (.pointer (some (.entry (Names.chunkStore probe) ((first + i) % count))))) := by
  have hidx := eval_index kernel probe size hcount hfirst hi hstart
  have hplace : (first + i) % count < count := Nat.mod_lt _ (by omega)
  generalize (first + i) % count = place at hidx hplace ⊢
  have hsome : BinaryOp.le.compare? remaining 0 = some false :=
    congrArg some (decide_eq_false (by omega))
  have hinside : BinaryOp.ge.compare? place count = some false :=
    congrArg some (decide_eq_false (by omega))
  have hleft : eval (scope kernel probe size count) (.binary .le (var "remaining") (.number 0)) m =
      some (.ofBool false, m) :=
    eval_compare_zero hsome (by decide) rfl h.remaining hremaining
  have hbound : eval (scope kernel probe size count) (.binary .ge (var "idx") (countConstant probe))
      (m.set "idx" (.int .u32 place)) =
      some (.ofBool false, m.set "idx" (.int .u32 place)) :=
    eval_compare_plain hinside (by decide) rfl (Machine.set_self ..) (by omega)
      constant?_chunkCount (by omega)
  have hlookup : eval (scope kernel probe size count) (lookup (Names.chunkStore probe) "idx")
      (m.set "idx" (.int .u32 place)) =
      some (.pointer (some (.entry (Names.chunkStore probe) place)),
        m.set "idx" (.int .u32 place)) :=
    eval_lookup hkernel address?_chunkStore entries?_chunkStore (by decide) rfl
      (Machine.set_self m "idx" _) hplace
  refine (execAll_cons_next (exec_when_skip hleft rfl)).trans ?_
  refine (execAll_cons_next (exec_assign hidx (typeOf?_own (by decide) rfl)
    (Datum.convert_int rfl (u32_has (by omega))))).trans ?_
  refine (execAll_cons_next (exec_when_skip hbound rfl)).trans ?_
  refine (execAll_cons_next (exec_assign hlookup (typeOf?_own (by decide) rfl) rfl)).trans ?_
  exact execAll_cons_next (exec_when_skip
    (eval_not (eval_own (by decide) rfl (Machine.set_self _ "chunk" _))) rfl)

/-- The second half moves the piece. -/
theorem step_moves {piece : Bytes} {index : Nat}
    (hkernel : kernel.Serves (declarations probe size count)) (hsize : size < 2 ^ 32)
    (hi : i < 2 ^ 31) (hremaining : remaining < 2 ^ 31)
    (hpiece : piece.length = min size remaining) (h : Holds m src len remaining)
    (hchunk : m.locals "chunk" = some (.pointer (some (.entry (Names.chunkStore probe) index))))
    (hread : m.memory.read (src + UInt64.ofNat (i * size)) piece.length = some piece) :
    execAll (scope kernel probe size count) ((step probe i).drop 5) m =
      some (none,
        ((m.set "step" (.int .u32 piece.length)).setBytes
          (.array (Names.chunkStore probe) index "data") piece).set "remaining"
          (.int .s32 (remaining - piece.length : Nat))) := by
  have hsized : eval (scope kernel probe size count)
      (.choose (.binary .lt (var "remaining") (sizeConstant probe))
        (.cast .u32 (var "remaining")) (sizeConstant probe)) m =
      some (.int (wide size) piece.length, m) := by
    rw [hpiece]
    exact eval_piece hsize hremaining h.remaining
  have hinside : BinaryOp.gt.compare? piece.length size = some false :=
    congrArg some (decide_eq_false (by omega))
  have hnext := h.set "step" (.int .u32 piece.length) (by decide)
  have hfound : (m.set "step" (.int .u32 piece.length)).locals "chunk" =
      some (.pointer (some (.entry (Names.chunkStore probe) index))) := by
    rw [Machine.set_of_ne (by decide), hchunk]
  refine (execAll_cons_next (exec_assign hsized (typeOf?_own (by decide) rfl)
    (Datum.convert_int rfl (u32_has (by omega))))).trans ?_
  refine (execAll_cons_next (exec_when_skip (eval_compare_plain hinside (by decide) rfl
    (Machine.set_self ..) (by omega) constant?_chunkSize hsize) rfl)).trans ?_
  refine (execAll_cons_next (exec_when_skip (eval_copy hkernel hsize hi (by omega) hnext.src hfound
    (Machine.set_self ..) hread) rfl)).trans ?_
  exact execAll_cons_next (exec_decrease (eval_rest hremaining (by omega) hnext.remaining
    (Machine.set_self m "step" _)) (typeOf?_own (by decide) rfl)
    (Datum.convert_int rfl (s32_has (by omega))))

/-- A step with something left takes the next piece to its chunk. -/
theorem step_copies {piece : Bytes}
    (hkernel : kernel.Serves (declarations probe size count)) (hsize : size < 2 ^ 32)
    (hcount : count ≤ 2 ^ 31) (hfirst : first < count) (hi : i < count) (hpositive : 0 < remaining)
    (hremaining : remaining < 2 ^ 31) (hpiece : piece.length = min size remaining)
    (h : Holds m src len remaining) (hstart : m.locals "first" = some (.int .u32 first))
    (hread : m.memory.read (src + UInt64.ofNat (i * size)) piece.length = some piece) :
    ∃ after,
      execAll (scope kernel probe size count) (step probe i) m = some (none, after) ∧
      Holds after src len (remaining - piece.length) ∧
      after.locals "first" = some (.int .u32 first) ∧
      after.memory =
        m.memory.setBytes (.array (Names.chunkStore probe) ((first + i) % count) "data") piece := by
  have hlocated := step_locates hkernel hcount hfirst hi hpositive hremaining h hstart
  generalize (first + i) % count = place at hlocated ⊢
  have hfound := (h.set "idx" (.int .u32 place) (by decide)).set "chunk"
    (.pointer (some (.entry (Names.chunkStore probe) place))) (by decide)
  have hmoved := step_moves hkernel hsize (by omega) hremaining hpiece hfound
    (Machine.set_self ..) hread
  have hafter := ((hfound.set "step" (.int .u32 piece.length) (by decide)).setBytes
    (.array (Names.chunkStore probe) place "data") piece).setRemaining (remaining - piece.length)
  refine ⟨_, ?_, hafter, ?_, rfl⟩
  · rw [← List.take_append_drop 5 (step probe i), execAll_append_next hlocated]
    exact hmoved
  · exact hstart

theorem final_returns (h : Holds m src len 0) :
    execAll (scope kernel probe size count) final m = some (some (.int .s32 len), m) := by
  have hnone : eval (scope kernel probe size count) (.binary .ne (var "remaining") (.number 0)) m =
      some (.ofBool false, m) :=
    eval_compare_zero rfl (by decide) rfl h.remaining (by decide)
  refine (execAll_cons_next (exec_when_skip hnone rfl)).trans (execAll_cons_return ?_)
  rw [exec, eval_own (by decide) rfl h.len]
  rfl

/-! ## The reservation -/

theorem needed_le (hpos : 0 < size) (len : Nat) : (len + size - 1) / size ≤ len := by
  have hsum : len + size - 1 < (len + 1) * size := by
    have hproduct : len ≤ len * size := Nat.le_mul_of_pos_right len hpos
    rw [Nat.succ_mul]
    omega
  exact Nat.lt_succ_iff.1 ((Nat.div_lt_iff_lt_mul hpos).2 hsum)

theorem Holds.setWord (h : Holds m src len remaining) (referent : Referent) (word : UInt32) :
    Holds (m.setWord referent word) src len remaining :=
  ⟨h.src, h.len, h.remaining⟩

/-- The machine once the chunks are counted, with no first chunk reported so far. -/
def counted (m : Machine) (needed : Nat) : Machine :=
  (m.setWord (.outer "start") 0).set "needed" (.int .u32 needed)

variable (kernel probe count) in
theorem reservation_counts (hpos : 0 < size) (hsize : size < 2 ^ 32) (hlen : len < 2 ^ 31)
    (h : Holds m src len len)
    (hstart : m.locals "start" = some (.pointer (some (.outer "start")))) :
    execAll (scope kernel probe size count) ((reservation probe).take 3) m =
      some (none, counted m ((len + size - 1) / size)) := by
  have hneeded := needed_le hpos len
  have hsign : BinaryOp.lt.compare? len 0 = some false :=
    congrArg some (decide_eq_false (by omega))
  refine (execAll_cons_next (exec_assign_deref (eval_number (by decide))
    (eval_own (by decide) rfl hstart) (by decide) rfl)).trans ?_
  refine (execAll_cons_next (exec_when_skip
    (eval_compare_zero hsign (by decide) rfl (h.setWord _ _).len hlen) rfl)).trans ?_
  exact execAll_cons_next (exec_assign (eval_needed hpos hsize hlen (h.setWord _ _).len)
    (typeOf?_own (by decide) rfl) (Datum.convert_int rfl (u32_has (by omega))))

theorem eval_lengthFault :
    eval (scope kernel probe size count) (.name Names.lengthFault) m =
      some (.int .s32 TransferFault.lengthMismatchCode, m) :=
  rfl

variable (kernel size count) in
theorem eval_reserve {needed : Nat}
    (hnext : m.locals "next" = some (.pointer (some (.entry (Names.nextChunk probe) 0))))
    (hneeded : m.locals "needed" = some (.int .u32 needed)) :
    eval (scope kernel probe size count)
        (.call "__sync_fetch_and_add" [var "next", var "needed"]) m =
      some (.int .u32 (m.memory.word (.entry (Names.nextChunk probe) 0)).toNat,
        m.setWord (.entry (Names.nextChunk probe) 0)
          (m.memory.word (.entry (Names.nextChunk probe) 0) + UInt32.ofNat needed)) := by
  have hargs : evalAll (scope kernel probe size count) [var "next", var "needed"] m =
      some ([.pointer (some (.entry (Names.nextChunk probe) 0)), .int .u32 needed], m) := by
    have hcell : eval (scope kernel probe size count) (var "next") m =
        some (.pointer (some (.entry (Names.nextChunk probe) 0)), m) :=
      eval_own (by decide) rfl hnext
    have hamount : eval (scope kernel probe size count) (var "needed") m =
        some (.int .u32 needed, m) :=
      eval_own (by decide) rfl hneeded
    simp only [evalAll, hcell, hamount, Option.bind_eq_bind, Option.bind_some]
  rw [eval, hargs]
  simp only [Option.bind_eq_bind, Option.bind_some, Scope.invoke, isWord_next, if_true,
    uInt32_ofInt_natCast]

variable (kernel probe) in
/-- A payload that needs too many chunks is refused. -/
theorem reservation_refuses (hpos : 0 < size) (hsize : size < 2 ^ 32)
    (hcount : count < 2 ^ 32) (hlen : len < 2 ^ 31) (h : Holds m src len len)
    (hstart : m.locals "start" = some (.pointer (some (.outer "start"))))
    (hneeded : count < (len + size - 1) / size) :
    execAll (scope kernel probe size count) (reservation probe) m =
      some (some (.int .s32 TransferFault.lengthMismatchCode),
        counted m ((len + size - 1) / size)) := by
  have hword := needed_le hpos len
  have hmany : BinaryOp.gt.compare? ((len + size - 1) / size) count = some true :=
    congrArg some (decide_eq_true hneeded)
  rw [← List.take_append_drop 3 (reservation probe),
    execAll_append_next (reservation_counts kernel probe count hpos hsize hlen h hstart)]
  refine execAll_cons_return ((exec_when_take (eval_compare_plain hmany (by decide) rfl
    (Machine.set_self ..) (by omega) constant?_chunkCount hcount) rfl).trans ?_)
  rw [fail, exec, eval_lengthFault]
  rfl

/-- The machine once chunks are taken and the first of them is reported. -/
def taken (probe : String) (m : Machine) (needed first : Nat) : Machine :=
  (((m.set "next" (.pointer (some (.entry (Names.nextChunk probe) 0)))).setWord
    (.entry (Names.nextChunk probe) 0)
    (m.memory.word (.entry (Names.nextChunk probe) 0) + UInt32.ofNat needed)).set "first"
    (.int .u32 first)).setWord (.outer "start") (UInt32.ofNat first)

theorem reservation_takes {needed : Nat}
    (hkernel : kernel.Serves (declarations probe size count)) (hpos : 0 < count)
    (hcount : count ≤ 2 ^ 31) (hfits : needed ≤ count)
    (hneeded : m.locals "needed" = some (.int .u32 needed))
    (hzero : m.locals "zero" = some (.int .u32 (0 : Nat)))
    (hstart : m.locals "start" = some (.pointer (some (.outer "start")))) :
    execAll (scope kernel probe size count) ((reservation probe).drop 3) m =
      some (none, taken probe m needed
        ((m.memory.word (.entry (Names.nextChunk probe) 0)).toNat % count)) := by
  have hword := (m.memory.word (.entry (Names.nextChunk probe) 0)).toNat_lt
  have hfirst := Nat.mod_lt (m.memory.word (.entry (Names.nextChunk probe) 0)).toNat hpos
  have hfew : BinaryOp.gt.compare? needed count = some false :=
    congrArg some (decide_eq_false (by omega))
  refine (execAll_cons_next (exec_when_skip (eval_compare_plain hfew (by decide) rfl hneeded
    (by omega) constant?_chunkCount (by omega)) rfl)).trans ?_
  refine (execAll_cons_next (exec_assign (eval_lookup hkernel address?_nextChunk entries?_nextChunk
    (by decide) rfl hzero Nat.one_pos) (typeOf?_own (by decide) rfl) rfl)).trans ?_
  refine (execAll_cons_next (exec_when_skip
    (eval_not (eval_own (by decide) rfl (Machine.set_self ..))) rfl)).trans ?_
  have hamount : (m.set "next" (.pointer (some (.entry (Names.nextChunk probe) 0)))).locals
      "needed" = some (.int .u32 needed) := by
    rw [Machine.set_of_ne (by decide), hneeded]
  have hreserve := eval_reserve kernel size count (Machine.set_self m "next" _) hamount
  rw [Machine.set_memory] at hreserve
  refine (execAll_cons_next (exec_assign (eval_mod_count hpos hcount hword hreserve)
    (typeOf?_own (by decide) rfl) (Datum.convert_int rfl (u32_has (by omega))))).trans ?_
  refine execAll_cons_next (exec_assign_deref (eval_own (by decide) rfl (Machine.set_self ..))
    (eval_own (by decide) rfl ?_) (u32_has (by omega)) rfl)
  rw [Machine.set_of_ne (by decide), Machine.setWord_locals, Machine.set_of_ne (by decide), hstart]

theorem cell_ne_outer {map outer : String} {index : Nat} :
    Referent.entry map index ≠ .outer outer :=
  nofun

/-- The chunks of a payload that fits are taken, and the first of them is reported. -/
theorem reservation_reserves {next : UInt32}
    (hkernel : kernel.Serves (declarations probe size count)) (hpos : 0 < size)
    (hsize : size < 2 ^ 32) (hcount : 0 < count) (hring : count ≤ 2 ^ 31) (hlen : len < 2 ^ 31)
    (hfits : (len + size - 1) / size ≤ count) (h : Holds m src len len)
    (hstart : m.locals "start" = some (.pointer (some (.outer "start"))))
    (hzero : m.locals "zero" = some (.int .u32 (0 : Nat)))
    (hnext : m.memory.word (.entry (Names.nextChunk probe) 0) = next) :
    ∃ after,
      execAll (scope kernel probe size count) (reservation probe) m = some (none, after) ∧
      Holds after src len len ∧
      after.locals "first" = some (.int .u32 (next.toNat % count : Nat)) ∧
      after.memory =
        ((m.memory.setWord (.outer "start") 0).setWord (.entry (Names.nextChunk probe) 0)
          (next + UInt32.ofNat ((len + size - 1) / size))).setWord (.outer "start")
          (UInt32.ofNat (next.toNat % count)) := by
  have hcounts := reservation_counts kernel probe count hpos hsize hlen h hstart
  generalize (len + size - 1) / size = needed at hfits hcounts ⊢
  have hholds := (h.setWord (.outer "start") 0).set "needed" (.int .u32 needed) (by decide)
  have hkey : (counted m needed).locals "zero" = some (.int .u32 (0 : Nat)) := by
    rw [counted, Machine.set_of_ne (by decide), Machine.setWord_locals, hzero]
  have hout : (counted m needed).locals "start" = some (.pointer (some (.outer "start"))) := by
    rw [counted, Machine.set_of_ne (by decide), Machine.setWord_locals, hstart]
  have hcell : (counted m needed).memory.word (.entry (Names.nextChunk probe) 0) = next :=
    (Memory.setWord_of_ne cell_ne_outer m.memory 0).trans hnext
  have hamount : (counted m needed).locals "needed" = some (.int .u32 needed) :=
    Machine.set_self ..
  have htakes := reservation_takes hkernel hcount hring hfits hamount hkey hout
  rw [hcell] at htakes
  refine ⟨taken probe (counted m needed) needed (next.toNat % count), ?_, ?_, ?_, ?_⟩
  · rw [← List.take_append_drop 3 (reservation probe), execAll_append_next hcounts, htakes]
  · exact (((hholds.set "next" _ (by decide)).setWord _ _).set "first" _ (by decide)).setWord _ _
  · rw [taken, Machine.setWord_locals, Machine.set_self]
  · rw [taken, hcell]
    rfl

end ProbeTrace.Program.CopyRoutine
