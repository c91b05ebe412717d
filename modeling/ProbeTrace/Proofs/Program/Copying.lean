import ProbeTrace.Proofs.Chunk.Writes
import ProbeTrace.Proofs.Program.CopySteps

/-!
# Calls of the copy routine

A memory shows a ring if it has the ring's counter and its chunks, filled up with
zeroes. A call of the routine on such a memory does what a write does to the
ring: it gives back the same length or fault and first chunk, and its memory
shows the ring as it is then.
-/

set_option autoImplicit false

namespace ProbeTrace.Program.CopyRoutine

open Code

variable {kernel : Kernel} {probe : String} {size count : Nat} {m after : Machine} {src : UInt64}
  {len remaining first i : Nat}

/-! ## The ring in memory -/

/-- The chunks of the ring are those in the memory, filled up with zeroes. -/
def ShowsChunks (probe : String) (geometry : Geometry) (chunks : Array Bytes) (memory : Memory) :
    Prop :=
  ∀ index < geometry.count.toNat,
    some (memory.bytes (.array (Names.chunkStore probe) index "data")) =
      chunks[index]?.map (Ring.beginning geometry.size.toNat)

theorem beginning_overwrite {n : Nat} {piece chunk : Bytes} (h : piece.length ≤ n) :
    Ring.beginning n (Ring.overwrite piece chunk) =
      piece ++ (Ring.beginning n chunk).drop piece.length := by
  have hpadding : n - (piece.length + (chunk.length - piece.length)) =
      n - chunk.length - (piece.length - min n chunk.length) := by omega
  rw [Ring.beginning, Ring.beginning, Ring.overwrite, List.take_append, List.take_of_length_le h,
    List.length_append, List.length_drop, hpadding, List.drop_append, List.length_take,
    List.drop_replicate, List.drop_take, List.append_assoc]

variable {geometry : Geometry} {chunks : Array Bytes} {memory : Memory}

theorem ShowsChunks.setBytes {piece : Bytes} (h : ShowsChunks probe geometry chunks memory)
    (index : Nat) (hpiece : piece.length ≤ geometry.size.toNat) :
    ShowsChunks probe geometry (chunks.modify index (Ring.overwrite piece))
      (memory.setBytes (.array (Names.chunkStore probe) index "data") piece) := by
  intro other hother
  have hchunk := h other hother
  rw [Array.getElem?_modify]
  by_cases heq : index = other
  · subst heq
    rw [if_pos rfl, Option.map_map]
    cases hfound : chunks[index]? with
    | none =>
      rw [hfound] at hchunk
      cases hchunk
    | some chunk =>
      rw [hfound, Option.map_some, Option.some.injEq] at hchunk
      rw [Option.map_some, Function.comp_apply, beginning_overwrite hpiece, ← hchunk]
      simp [Memory.setBytes]
  · rw [if_neg heq, ← hchunk]
    have hplace : (Referent.array (Names.chunkStore probe) other "data") ≠
        .array (Names.chunkStore probe) index "data" := by
      simpa using Ne.symm heq
    simp [Memory.setBytes, hplace]

/-- The steps that are left take the rest of a payload to its chunks and give back its length. -/
theorem steps_store {n : Nat} {rest : Bytes}
    (hkernel : kernel.Serves (declarations probe geometry.size.toNat geometry.count.toNat))
    (hsize : geometry.size ≠ 0)
    (hcount : geometry.count.toNat ≤ 2 ^ 31) (hfirst : first < geometry.count.toNat)
    (hsteps : i + n ≤ geometry.count.toNat)
    (hneeded : geometry.chunksNeeded rest.length ≤ n) (hlength : rest.length < 2 ^ 31)
    (h : Holds m src len rest.length) (hstart : m.locals "first" = some (.int .u32 first))
    (hsource : ∀ k < rest.length,
      m.memory.user (src + UInt64.ofNat (i * geometry.size.toNat + k)) = rest[k]?)
    (hshows : ShowsChunks probe geometry chunks m.memory) :
    ∃ after,
      execAll (scope kernel probe geometry.size.toNat geometry.count.toNat)
          (((List.range' i n).map (step probe)).flatten ++ final) m =
        some (some (.int .s32 len), after) ∧
      ShowsChunks probe geometry
        (Ring.store geometry (geometry.chunksNeeded rest.length) (first + i) rest chunks)
        after.memory ∧
      after.memory.word = m.memory.word := by
  induction n generalizing i m rest chunks with
  | zero =>
    obtain rfl : rest = [] :=
      List.length_eq_zero_iff.1 (Geometry.chunksNeeded_eq_zero hsize (by omega))
    refine ⟨m, final_returns h, ?_, rfl⟩
    rw [List.length_nil, Geometry.chunksNeeded_zero hsize]
    exact hshows
  | succ n ih =>
    rw [List.range'_succ, List.map_cons, List.flatten_cons, List.append_assoc]
    cases hneed : geometry.chunksNeeded rest.length with
    | zero =>
      -- nothing is left: the step returns
      obtain rfl : rest = [] :=
        List.length_eq_zero_iff.1 (Geometry.chunksNeeded_eq_zero hsize hneed)
      exact ⟨m, execAll_append_return (step_returns h), hshows, rfl⟩
    | succ needed =>
      have hpositive : 0 < rest.length := by
        refine Nat.pos_of_ne_zero fun hzero => ?_
        rw [hzero, Geometry.chunksNeeded_zero hsize] at hneed
        cases hneed
      have hpiece : (rest.take geometry.size.toNat).length =
          min geometry.size.toNat rest.length :=
        List.length_take
      have hread : m.memory.read (src + UInt64.ofNat (i * geometry.size.toNat))
          (rest.take geometry.size.toNat).length = some (rest.take geometry.size.toNat) := by
        refine Memory.read_eq_some fun k hk => ?_
        rw [UInt64.add_assoc, ← UInt64.ofNat_add, hsource k (by omega),
          List.getElem?_take_of_lt (by omega)]
      obtain ⟨after, hstep, hholds, hkept, hmemory⟩ := step_copies hkernel (UInt32.toNat_lt _)
        hcount hfirst (by omega) hpositive hlength hpiece h hstart hread
      have hleft : rest.length - (rest.take geometry.size.toNat).length =
          (rest.drop geometry.size.toNat).length := by
        rw [List.length_take, List.length_drop]
        omega
      have hlater : geometry.chunksNeeded (rest.drop geometry.size.toNat).length = needed := by
        rw [List.length_drop, Geometry.chunksNeeded_sub hsize, hneed, Nat.add_sub_cancel]
      have hnext : ∀ k < (rest.drop geometry.size.toNat).length,
          after.memory.user (src + UInt64.ofNat ((i + 1) * geometry.size.toNat + k)) =
            (rest.drop geometry.size.toNat)[k]? := by
        intro k hk
        rw [List.length_drop] at hk
        rw [hmemory, Memory.setBytes_user, Nat.succ_mul, Nat.add_assoc, hsource _ (by omega),
          List.getElem?_drop]
      have hcopied := hshows.setBytes ((first + i) % geometry.count.toNat)
        (hpiece.trans_le (Nat.min_le_left ..))
      rw [← hmemory] at hcopied
      obtain ⟨last, hrun, hlast, hword⟩ := ih (by omega) (by omega) (by omega) (hleft ▸ hholds)
        hkept hnext hcopied
      rw [hlater] at hlast
      refine ⟨last, ?_, hlast, ?_⟩
      · rw [execAll_append_next hstep, hrun]
      · rw [hword, hmemory]
        rfl

/-! ## The call -/

/-- The memory has the counter and the chunks of the ring. -/
structure Shows (probe : String) (ring : Ring) (memory : Memory) : Prop where
  next : memory.word (.entry (Names.nextChunk probe) 0) = ring.next
  chunks : ShowsChunks probe ring.geometry ring.chunks memory

/-- The arguments of a call. -/
def arguments (src : UInt64) (len : Nat) : List Datum :=
  [.pointer (some (.user src)), .int .s32 len, .pointer (some (.outer "start"))]

def passed (src : UInt64) (len : Nat) (memory : Memory) : Machine :=
  (((⟨fun _ => none, memory⟩ : Machine).set "src" (.pointer (some (.user src)))).set "len"
    (.int .s32 len)).set "start" (.pointer (some (.outer "start")))

/-- The machine at the first statement. -/
def entered (src : UInt64) (len : Nat) (memory : Memory) : Machine :=
  ((passed src len memory).set "zero" (.int .u32 (0 : Nat))).set "remaining" (.int .s32 len)

theorem pass_eq (hlen : len < 2 ^ 31) (src : UInt64) (memory : Memory) :
    pass (function probe count).params (arguments src len) ⟨fun _ => none, memory⟩ =
      some (passed src len memory) := by
  have hconvert : (Datum.int .s32 len).convert .s32 = some (.int .s32 len) :=
    Datum.convert_int rfl (s32_has hlen)
  exact (pass_cons rfl).trans ((pass_cons hconvert).trans (pass_cons rfl))

theorem passed_len (src : UInt64) (len : Nat) (memory : Memory) :
    ((passed src len memory).set "zero" (.int .u32 (0 : Nat))).locals "len" =
      some (.int .s32 len) := by
  rw [Machine.set_of_ne (by decide), passed, Machine.set_of_ne (by decide), Machine.set_self]

theorem declare_eq (hlen : len < 2 ^ 31) (src : UInt64) (memory : Memory) :
    declare (scope kernel probe size count) ((function probe count).locals.flatMap Locals.names)
        (passed src len memory) = some (entered src len memory) := by
  refine (declare_cons (eval_number (by decide)) (typeOf?_own (by decide) rfl)
    (Datum.convert_int rfl (by decide))).trans ?_
  exact declare_cons (eval_own (by decide) rfl (passed_len src len memory))
    (typeOf?_own (by decide) rfl) (Datum.convert_int rfl (s32_has hlen))

theorem entered_holds (src : UInt64) (len : Nat) (memory : Memory) :
    Holds (entered src len memory) src len len := by
  refine ⟨?_, ?_, Machine.set_self ..⟩
  · rw [entered, Machine.set_of_ne (by decide), Machine.set_of_ne (by decide), passed,
      Machine.set_of_ne (by decide), Machine.set_of_ne (by decide), Machine.set_self]
  · rw [entered, Machine.set_of_ne (by decide), passed_len]

theorem call_eq {value : Datum} (hlen : len < 2 ^ 31) {memory : Memory}
    (h : execAll (scope kernel probe size count)
      (reservation probe ++ (((List.range' 0 count).map (step probe)).flatten ++ final))
      (entered src len memory) = some (some value, after))
    {result : Datum} (hresult : value.convert .s32 = some result) :
    (function probe count).call kernel (declarations probe size count) (arguments src len) memory =
      some (result, after.memory) := by
  have hbody : (function probe count).body.flatten =
      reservation probe ++ (((List.range' 0 count).map (step probe)).flatten ++ final) := by
    simp [function, List.range_eq_range']
  have hgiven : value.convert (function probe count).result = some result := hresult
  rw [Function.call, pass_eq hlen]
  simp only [Option.bind_eq_bind, Option.bind_some]
  rw [declare_eq hlen]
  simp only [Option.bind_some, hbody, h, hgiven]

variable {ring : Ring} {payload : Bytes}

theorem entered_start (src : UInt64) (len : Nat) (memory : Memory) :
    (entered src len memory).locals "start" = some (.pointer (some (.outer "start"))) := by
  rw [entered, Machine.set_of_ne (by decide), Machine.set_of_ne (by decide), passed,
    Machine.set_self]

theorem entered_zero (src : UInt64) (len : Nat) (memory : Memory) :
    (entered src len memory).locals "zero" = some (.int .u32 (0 : Nat)) := by
  rw [entered, Machine.set_of_ne (by decide), Machine.set_self]

theorem call_refuses (kernel : Kernel) (probe : String) (src : UInt64)
    (hsize : ring.geometry.size ≠ 0) (hlength : payload.length < 2 ^ 31)
    (hfits : ¬ Ring.Fits ring.geometry payload) :
    (function probe ring.geometry.count.toNat).call kernel
        (declarations probe ring.geometry.size.toNat ring.geometry.count.toNat)
        (arguments src payload.length) memory =
      some (.int .s32 TransferFault.lengthMismatchCode, memory.setWord (.outer "start") 0) := by
  have hlongest : Ring.longest = 2 ^ 31 - 1 := rfl
  have hmany : ring.geometry.count.toNat <
      (payload.length + ring.geometry.size.toNat - 1) / ring.geometry.size.toNat := by
    rw [← Geometry.chunksNeeded_eq hsize]
    rw [Ring.Fits] at hfits
    omega
  have hrefused := reservation_refuses kernel probe (Geometry.size_pos hsize) (UInt32.toNat_lt _)
    (UInt32.toNat_lt _) hlength (entered_holds src payload.length memory)
    (entered_start src payload.length memory) hmany
  exact call_eq hlength (execAll_append_return hrefused) rfl

theorem call_stores (src : UInt64)
    (hkernel : kernel.Serves
      (declarations probe ring.geometry.size.toNat ring.geometry.count.toNat))
    (hsize : ring.geometry.size ≠ 0) (hcount : ring.geometry.count ≠ 0)
    (hring : ring.geometry.count.toNat ≤ 2 ^ 31) (hfits : Ring.Fits ring.geometry payload)
    (hsource : ∀ k < payload.length, memory.user (src + UInt64.ofNat k) = payload[k]?)
    (hshows : Shows probe ring memory) :
    ∃ after,
      (function probe ring.geometry.count.toNat).call kernel
          (declarations probe ring.geometry.size.toNat ring.geometry.count.toNat)
          (arguments src payload.length) memory =
        some (.int .s32 payload.length, after) ∧
      (after.word (.outer "start")).toNat =
        ring.next.toNat % ring.geometry.count.toNat ∧
      Shows probe (ring.write payload).2 after := by
  have hlongest : Ring.longest = 2 ^ 31 - 1 := rfl
  have hlength : payload.length < 2 ^ 31 := by
    have hlong := hfits.1
    omega
  have hpositive := Geometry.count_pos hcount
  have hneeded := hfits.2
  rw [Geometry.chunksNeeded_eq hsize] at hneeded
  obtain ⟨mid, hreserve, hholds, hfirst, hmemory⟩ := reservation_reserves hkernel
    (Geometry.size_pos hsize) (UInt32.toNat_lt _) hpositive hring hlength hneeded
    (entered_holds src payload.length memory) (entered_start ..) (entered_zero ..) hshows.next
  have hplace := Nat.mod_lt ring.next.toNat hpositive
  have hread : ∀ k < payload.length,
      mid.memory.user (src + UInt64.ofNat (0 * ring.geometry.size.toNat + k)) = payload[k]? := by
    intro k hk
    rw [hmemory, Nat.zero_mul, Nat.zero_add]
    exact hsource k hk
  have hbefore : ShowsChunks probe ring.geometry ring.chunks mid.memory := by
    rw [hmemory]
    exact hshows.chunks
  obtain ⟨after, hrun, hchunks, hword⟩ := steps_store hkernel hsize hring hplace (Nat.zero_add _).le
    hfits.2 hlength hholds hfirst hread hbefore
  refine ⟨after.memory, call_eq hlength ((execAll_append_next hreserve).trans hrun)
    (Datum.convert_int rfl (s32_has hlength)), ?_, ?_⟩
  · rw [hword, hmemory, Memory.setWord_self,
      UInt32.toNat_ofNat_of_lt' (hplace.trans (UInt32.toNat_lt _))]
  · rw [Ring.write_of_fits hfits]
    refine ⟨?_, hchunks⟩
    rw [hword, hmemory, Memory.setWord_of_ne cell_ne_outer, Memory.setWord_self,
      Geometry.chunksNeeded_eq hsize]

/-- Every memory in which the chunks have their size shows a ring. -/
theorem exists_shown (probe : String) (geometry : Geometry) (memory : Memory)
    (hbytes : ∀ index < geometry.count.toNat,
      (memory.bytes (.array (Names.chunkStore probe) index "data")).length =
        geometry.size.toNat) :
    ∃ ring : Ring, ring.geometry = geometry ∧ Shows probe ring memory := by
  refine ⟨⟨geometry, Array.ofFn fun index : Fin geometry.count.toNat =>
    memory.bytes (.array (Names.chunkStore probe) index "data"),
    memory.word (.entry (Names.nextChunk probe) 0)⟩, rfl, rfl, fun index hindex => ?_⟩
  have hwhole := @Ring.beginning_append _ [] _ (hbytes index hindex)
  rw [List.append_nil] at hwhole
  rw [Array.getElem?_ofFn, dif_pos hindex, Option.map_some, hwhole]

/-- The routine does what the ring does: a call and a write agree in the length or fault, in the
first chunk, in the counter and in every chunk. By `exists_shown` no memory is left out in which
the chunks have their size. -/
theorem call_eq_write {memory : Memory} (src : UInt64)
    (hkernel : kernel.Serves
      (declarations probe ring.geometry.size.toNat ring.geometry.count.toNat))
    (hsize : ring.geometry.size ≠ 0) (hcount : ring.geometry.count ≠ 0)
    (hring : ring.geometry.count.toNat ≤ 2 ^ 31) (hlength : payload.length ≤ Ring.longest)
    (hsource : ∀ k < payload.length, memory.user (src + UInt64.ofNat k) = payload[k]?)
    (hshows : Shows probe ring memory) :
    ∃ after,
      (function probe ring.geometry.count.toNat).call kernel
          (declarations probe ring.geometry.size.toNat ring.geometry.count.toNat)
          (arguments src payload.length) memory =
        some (.int .s32 (ring.write payload).1.1, after) ∧
      (after.word (.outer "start")).toNat = (ring.write payload).1.2 ∧
      Shows probe (ring.write payload).2 after := by
  have hlongest : Ring.longest = 2 ^ 31 - 1 := rfl
  by_cases hfits : Ring.Fits ring.geometry payload
  · obtain ⟨after, hcall, hstart, hafter⟩ := call_stores src hkernel hsize hcount hring hfits
      hsource hshows
    refine ⟨after, ?_, ?_, hafter⟩
    · rw [hcall, Ring.write_of_fits hfits]
    · rw [hstart, Ring.write_of_fits hfits]
  · refine ⟨memory.setWord (.outer "start") 0, ?_, ?_, ?_⟩
    · rw [call_refuses kernel probe src hsize (by omega) hfits, Ring.write_of_not_fits hfits]
    · rw [Memory.setWord_self, Ring.write_of_not_fits hfits]
      rfl
    · rw [Ring.write_of_not_fits hfits]
      refine ⟨?_, hshows.chunks⟩
      rw [Memory.setWord_of_ne cell_ne_outer, hshows.next]

def sampleRing : Ring :=
  ⟨⟨4, 3⟩, #[[1, 2, 3, 4], [], [9]], 4294967295⟩

def samplePayload : Bytes :=
  [104, 101, 108, 108, 111, 33]

/-- The ring, and the payload as bytes of the process. -/
def sampleMemory : Memory where
  word referent := if referent = .entry (Names.nextChunk "p") 0 then 4294967295 else 0
  bytes
    | .array _ 0 _ => [1, 2, 3, 4]
    | .array _ 2 _ => [9, 0, 0, 0]
    | _ => [0, 0, 0, 0]
  user address := samplePayload[(address - 4096).toNat]?

theorem sampleMemory_shows : Shows "p" sampleRing sampleMemory := by
  refine ⟨by decide, ?_⟩
  unfold ShowsChunks
  decide

/-- A write in two chunks, where the counter wraps around. -/
theorem call_wraps :
    ∃ after,
      (function "p" 3).call (declarations "p" 4 3).kernel (declarations "p" 4 3)
          (arguments 4096 6) sampleMemory =
        some (.int .s32 6, after) ∧
      (after.word (.outer "start")).toNat = 0 ∧
      Shows "p" ⟨⟨4, 3⟩, #[[104, 101, 108, 108], [111, 33], [9]], 1⟩ after := by
  have hwrite : sampleRing.write samplePayload =
      ((6, 0), ⟨⟨4, 3⟩, #[[104, 101, 108, 108], [111, 33], [9]], 1⟩) := by decide
  have hlength : samplePayload.length ≤ Ring.longest := by decide
  have hsource : ∀ k < samplePayload.length,
      sampleMemory.user (4096 + UInt64.ofNat k) = samplePayload[k]? := by decide
  have hkernel := (declarations "p" 4 3).kernel_serves
  have hcall := call_eq_write 4096 hkernel (by decide) (by decide) (by decide) hlength hsource
    sampleMemory_shows
  rw [hwrite] at hcall
  exact hcall

end ProbeTrace.Program.CopyRoutine
