import ProbeTrace.Proofs.Program.CopyScope

/-!
# The expressions of the copy routine

Lengths, sizes and places are unsigned in the ring and of several types in the
routine, where a large constant is wider than a word. Within the sizes of a ring
no sum leaves its type, so that every expression has the number it stands for.
-/

set_option autoImplicit false

namespace ProbeTrace.Program.CopyRoutine

open Code

variable {kernel : Kernel} {probe name : String} {size count : Nat}

/-! ## Numbers -/

/-- The type in which words are combined with a constant. -/
def wide (n : Nat) : Kind :=
  Kind.u32.common (Kind.ofNumber n)

theorem wide_eq (n : Nat) : wide n = if n < 2 ^ 31 then Kind.u32 else Kind.s64 := by
  rw [wide, Kind.ofNumber]
  split <;> rfl

theorem wide_common (n : Nat) : (wide n).common (Kind.ofNumber n) = wide n := by
  rw [wide, Kind.ofNumber]
  split <;> rfl

theorem wide_common_one (n : Nat) : (wide n).common .s32 = wide n := by
  rw [wide_eq]
  split <;> rfl

theorem wide_has {n a : Nat} (hn : n < 2 ^ 32) (ha : a < 2 ^ 32 ∨ a < n + 2 ^ 31) :
    (wide n).Has a := by
  rw [wide_eq]
  split <;> simp [Kind.Has, Kind.least, Kind.bound, Kind.u32, Kind.s64] <;> omega

theorem u32_has {a : Nat} (ha : a < 2 ^ 32) : Kind.u32.Has a := by
  simp [Kind.Has, Kind.least, Kind.bound, Kind.u32]
  omega

theorem s32_has {a : Nat} (ha : a < 2 ^ 31) : Kind.s32.Has a := by
  simp [Kind.Has, Kind.least, Kind.bound, Kind.s32]
  omega

theorem u64_has {a : Nat} (ha : a < 2 ^ 64) : Kind.u64.Has a := by
  simp [Kind.Has, Kind.least, Kind.bound, Kind.u64]
  omega

theorem ofNumber_has {n a : Nat} (hn : n < 2 ^ 32) (ha : a < 2 ^ 31 ∨ a ≤ n) :
    (Kind.ofNumber n).Has a := by
  rw [Kind.ofNumber]
  split <;> simp [Kind.Has, Kind.least, Kind.bound, Kind.s32, Kind.s64] <;> omega

theorem ofNumber?_eq {n : Nat} (hn : n < 2 ^ 32) :
    Datum.ofNumber? n = some (.int (Kind.ofNumber n) n) := by
  rw [Datum.ofNumber?, Kind.fit_of_has (ofNumber_has hn (.inr le_rfl)), Option.map_some]

/-! ## Expressions -/

variable {m after : Machine} {e : Expr} {src : UInt64} {len remaining first i : Nat}

theorem eval_own {type : CType} {value : Datum} (h : '_' ∉ name.toList)
    (htype : (scope kernel probe size count).vars.lookup name = some type)
    (hvalue : m.locals name = some value) :
    eval (scope kernel probe size count) (var name) m = some (value, m) := by
  rw [var, eval, constant?_own h]
  simp only [Scope.valueOf?, typeOf?_own h htype, Option.bind_some, hvalue, Option.map_some]

theorem eval_number {n : Nat} (hn : n < 2 ^ 31) :
    eval (scope kernel probe size count) (.number n) m = some (.int .s32 n, m) := by
  rw [eval, ofNumber?_eq (by omega), Kind.ofNumber, if_pos hn, Option.map_some]

theorem eval_plain {n : Nat}
    (hname : (declarations probe size count).constant? name = some (.plain n)) (hn : n < 2 ^ 32) :
    eval (scope kernel probe size count) (.name name) m = some (.int (Kind.ofNumber n) n, m) := by
  rw [eval, hname]
  simp only [Constant.value?, ofNumber?_eq hn, Option.map_some]

theorem eval_chunkSize (hsize : size < 2 ^ 32) :
    eval (scope kernel probe size count) (sizeConstant probe) m =
      some (.int (Kind.ofNumber size) size, m) :=
  eval_plain constant?_chunkSize hsize

theorem eval_chunkCount (hcount : count < 2 ^ 32) :
    eval (scope kernel probe size count) (countConstant probe) m =
      some (.int (Kind.ofNumber count) count, m) :=
  eval_plain constant?_chunkCount hcount

theorem eval_cast {type : CType} {k kind : Kind} {n : Int} (htype : type.kind? = some kind)
    (he : eval (scope kernel probe size count) e m = some (.int k n, after)) (hn : kind.Has n) :
    eval (scope kernel probe size count) (.cast type e) m = some (.int kind n, after) := by
  simp [eval, he, Datum.convert_int htype hn]

/-- The chunks that a payload needs, without an overflow even in 32 bits. -/
theorem eval_needed (hpos : 0 < size) (hsize : size < 2 ^ 32) (hlen : len < 2 ^ 31)
    (h : m.locals "len" = some (.int .s32 len)) :
    eval (scope kernel probe size count)
        (.binary .div
          (.binary .sub (.binary .add (.cast .u32 (var "len")) (sizeConstant probe)) (.number 1))
          (sizeConstant probe)) m =
      some (.int (wide size) ((len + size - 1) / size : Nat), m) := by
  have hquotient : (len + size - 1) / size ≤ len + size - 1 := Nat.div_le_self ..
  have hadd : BinaryOp.add.natural? len size = some (len + size) := rfl
  have hsub : BinaryOp.sub.natural? (len + size) 1 = some (len + size - 1) := if_pos (by omega)
  have hdiv : BinaryOp.div.natural? (len + size - 1) size = some ((len + size - 1) / size) :=
    if_neg (by omega)
  have hcast : eval (scope kernel probe size count) (.cast .u32 (var "len")) m =
      some (.int .u32 len, m) :=
    eval_cast rfl (eval_own (by decide) rfl h) (u32_has (by omega))
  have hsum := eval_natural hadd rfl hcast (eval_chunkSize hsize)
    (wide_has hsize (by omega)) (wide_has hsize (by omega)) (wide_has hsize (by omega))
  have hlast := eval_natural hsub (wide_common_one size) hsum (eval_number (by decide))
    (wide_has hsize (by omega)) (wide_has hsize (by omega)) (wide_has hsize (by omega))
  exact eval_natural hdiv (wide_common size) hlast (eval_chunkSize hsize)
    (wide_has hsize (by omega)) (wide_has hsize (by omega)) (wide_has hsize (by omega))

theorem eval_mod_count {a : Nat} (hpos : 0 < count) (hcount : count ≤ 2 ^ 31) (ha : a < 2 ^ 32)
    (he : eval (scope kernel probe size count) e m = some (.int .u32 a, after)) :
    eval (scope kernel probe size count) (.binary .mod e (countConstant probe)) m =
      some (.int (wide count) (a % count : Nat), after) := by
  have hmod : BinaryOp.mod.natural? a count = some (a % count) := if_neg (by omega)
  have hlt : a % count < count := Nat.mod_lt _ hpos
  exact eval_natural hmod rfl he (eval_chunkCount (by omega)) (wide_has (by omega) (by omega))
    (wide_has (by omega) (by omega)) (wide_has (by omega) (by omega))

variable (kernel probe size) in
/-- The place of a step, whose sum stays within 32 bits. -/
theorem eval_index (hcount : count ≤ 2 ^ 31) (hfirst : first < count) (hi : i < count)
    (h : m.locals "first" = some (.int .u32 first)) :
    eval (scope kernel probe size count)
        (.binary .mod (.binary .add (var "first") (.number i)) (countConstant probe)) m =
      some (.int (wide count) ((first + i) % count : Nat), m) := by
  have hadd : BinaryOp.add.natural? first i = some (first + i) := rfl
  exact eval_mod_count (by omega) hcount (by omega)
    (eval_natural hadd rfl (eval_own (by decide) rfl h) (eval_number (by omega))
      (u32_has (by omega)) (u32_has (by omega)) (u32_has (by omega)))

theorem eval_compare_zero {op : BinaryOp} {a : Nat} {outcome : Bool}
    (hop : op.compare? a 0 = some outcome) (hname : '_' ∉ name.toList)
    (htype : (scope kernel probe size count).vars.lookup name = some .s32)
    (hvalue : m.locals name = some (.int .s32 a)) (ha : a < 2 ^ 31) :
    eval (scope kernel probe size count) (.binary op (var name) (.number 0)) m =
      some (.ofBool outcome, m) :=
  eval_compare hop rfl (eval_own hname htype hvalue) (eval_number (by decide)) (s32_has ha)
    (by decide)

/-- A comparison of a word with a constant. -/
theorem eval_compare_plain {op : BinaryOp} {a n : Nat} {outcome : Bool} {constant : String}
    (hop : op.compare? a n = some outcome) (hname : '_' ∉ name.toList)
    (htype : (scope kernel probe size count).vars.lookup name = some .u32)
    (hvalue : m.locals name = some (.int .u32 a)) (ha : a < 2 ^ 32)
    (hconstant : (declarations probe size count).constant? constant = some (.plain n))
    (hn : n < 2 ^ 32) :
    eval (scope kernel probe size count) (.binary op (var name) (.name constant)) m =
      some (.ofBool outcome, m) :=
  eval_compare hop rfl (eval_own hname htype hvalue) (eval_plain hconstant hn)
    (wide_has hn (.inl ha)) (wide_has hn (.inl hn))

theorem eval_lookup {map key : String} {entries index : Nat}
    (hkernel : kernel.Serves (declarations probe size count))
    (hmap : (scope kernel probe size count).address? map = some (.map map))
    (hentries : (declarations probe size count).entries? map = some entries)
    (hkey : '_' ∉ key.toList) (htype : (scope kernel probe size count).vars.lookup key = some .u32)
    (hvalue : m.locals key = some (.int .u32 index)) (hindex : index < entries) :
    eval (scope kernel probe size count) (lookup map key) m =
      some (.pointer (some (.entry map index)), m) := by
  have hargs : evalAll (scope kernel probe size count)
      [.addressOf (.name map), .addressOf (.name key)] m =
      some ([.pointer (some (.map map)), .pointer (some (.own key))], m) := by
    simp [evalAll, eval, hmap, address?_own hkey htype]
  rw [lookup, eval, hargs]
  exact hkernel.lookup map key entries index m hentries hvalue hindex

theorem eval_piece (hsize : size < 2 ^ 32) (hremaining : remaining < 2 ^ 31)
    (h : m.locals "remaining" = some (.int .s32 remaining)) :
    eval (scope kernel probe size count)
        (.choose (.binary .lt (var "remaining") (sizeConstant probe))
          (.cast .u32 (var "remaining")) (sizeConstant probe)) m =
      some (.int (wide size) (min size remaining : Nat), m) := by
  have hown : eval (scope kernel probe size count) (var "remaining") m =
      some (.int .s32 remaining, m) :=
    eval_own (by decide) rfl h
  have htest : eval (scope kernel probe size count)
      (.binary .lt (var "remaining") (sizeConstant probe)) m =
      some (.ofBool (remaining < size), m) :=
    eval_compare rfl (Kind.s32_common_ofNumber size) hown (eval_chunkSize hsize)
      (ofNumber_has hsize (by omega)) (ofNumber_has hsize (by omega))
  have hcast : eval (scope kernel probe size count) (.cast .u32 (var "remaining")) m =
      some (.int .u32 remaining, m) :=
    eval_cast rfl hown (u32_has (by omega))
  have hfit (a : Nat) (ha : a < 2 ^ 32) : (wide size).fit a = some (a : Int) :=
    Kind.fit_of_has (wide_has hsize (.inl ha))
  rw [eval, htest]
  simp only [Option.bind_eq_bind, Option.bind_some, hcast, eval_chunkSize hsize,
    Datum.isTrue_ofBool, decide_eq_true_eq, Datum.along]
  by_cases hless : remaining < size
  · rw [if_pos hless, ← wide, hfit remaining (by omega), Nat.min_eq_right (by omega)]
    rfl
  · rw [if_neg hless, Kind.common_comm, ← wide, hfit size (by omega), Nat.min_eq_left (by omega)]
    rfl

/-- Where the piece of a step begins in the process. -/
theorem eval_source (hsize : size < 2 ^ 32) (hi : i < 2 ^ 31)
    (h : m.locals "src" = some (.pointer (some (.user src)))) :
    eval (scope kernel probe size count)
        (.binary .add (var "src") (.binary .mul (.cast .u64 (.number i)) (sizeConstant probe))) m =
      some (.pointer (some (.user (src + UInt64.ofNat (i * size)))), m) := by
  have hproduct : i * size < 2 ^ 31 * 2 ^ 32 := Nat.mul_lt_mul'' hi hsize
  have hmul : BinaryOp.mul.natural? i size = some (i * size) := rfl
  have hoffset : eval (scope kernel probe size count)
      (.binary .mul (.cast .u64 (.number i)) (sizeConstant probe)) m =
      some (.int .u64 (i * size : Nat), m) :=
    eval_natural hmul (Kind.u64_common_ofNumber size)
      (eval_cast rfl (eval_number hi) (u64_has (by omega))) (eval_chunkSize hsize)
      (u64_has (by omega)) (u64_has (by omega)) (u64_has (by omega))
  have hsrc : eval (scope kernel probe size count) (var "src") m =
      some (.pointer (some (.user src)), m) :=
    eval_own (by decide) rfl h
  rw [eval, hsrc]
  simp only [Option.bind_eq_bind, Option.bind_some, hoffset, BinaryOp.apply]
  rw [uInt64_ofInt_natCast]

theorem eval_rest (hremaining : remaining < 2 ^ 31) {piece : Nat} (hpiece : piece ≤ remaining)
    (h : m.locals "remaining" = some (.int .s32 remaining))
    (hstep : m.locals "step" = some (.int .u32 piece)) :
    eval (scope kernel probe size count) (.binary .sub (var "remaining") (var "step")) m =
      some (.int .u32 (remaining - piece : Nat), m) := by
  have hsub : BinaryOp.sub.natural? remaining piece = some (remaining - piece) := if_pos hpiece
  exact eval_natural hsub rfl (eval_own (by decide) rfl h) (eval_own (by decide) rfl hstep)
    (u32_has (by omega)) (u32_has (by omega)) (u32_has (by omega))

theorem eval_data {index : Nat}
    (h : m.locals "chunk" = some (.pointer (some (.entry (Names.chunkStore probe) index)))) :
    eval (scope kernel probe size count) (.arrow (var "chunk") "data") m =
      some (.pointer (some (.array (Names.chunkStore probe) index "data")), m) := by
  rw [eval, eval_own (by decide) rfl h]
  simp only [Option.bind_eq_bind, Option.bind_some, extent?_data]

theorem eval_copy {piece : Bytes} {index : Nat}
    (hkernel : kernel.Serves (declarations probe size count)) (hsize : size < 2 ^ 32)
    (hi : i < 2 ^ 31) (hpiece : piece.length ≤ size)
    (hsrc : m.locals "src" = some (.pointer (some (.user src))))
    (hchunk : m.locals "chunk" = some (.pointer (some (.entry (Names.chunkStore probe) index))))
    (hstep : m.locals "step" = some (.int .u32 piece.length))
    (hread : m.memory.read (src + UInt64.ofNat (i * size)) piece.length = some piece) :
    eval (scope kernel probe size count)
        (.call "bpf_probe_read_user"
          [.arrow (var "chunk") "data", var "step",
            .binary .add (var "src")
              (.binary .mul (.cast .u64 (.number i)) (sizeConstant probe))]) m =
      some (.int .s64 0, m.setBytes (.array (Names.chunkStore probe) index "data") piece) := by
  have hlength : eval (scope kernel probe size count) (var "step") m =
      some (.int .u32 piece.length, m) :=
    eval_own (by decide) rfl hstep
  have hargs : evalAll (scope kernel probe size count)
      [.arrow (var "chunk") "data", var "step",
        .binary .add (var "src") (.binary .mul (.cast .u64 (.number i)) (sizeConstant probe))] m =
      some ([.pointer (some (.array (Names.chunkStore probe) index "data")),
        .int .u32 piece.length, .pointer (some (.user (src + UInt64.ofNat (i * size))))], m) := by
    simp only [evalAll, eval_data hchunk, hlength, eval_source hsize hi hsrc,
      Option.bind_eq_bind, Option.bind_some]
  rw [eval, hargs]
  exact hkernel.read (Names.chunkStore probe) "data" index size .u32 _ piece m extent?_data hpiece
    hread

end ProbeTrace.Program.CopyRoutine
