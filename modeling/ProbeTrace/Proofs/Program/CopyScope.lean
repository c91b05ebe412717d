import ProbeTrace.Proofs.Program.Execution
import ProbeTrace.Proofs.Program.Names
import ProbeTrace.Program.Emit

/-!
# The scope of the copy routine

What the names in the routine mean. The constants of its program and the maps of
its ring end in ways of their own, and its variables have no low line, so each
name has one meaning whatever the probe is called.
-/

set_option autoImplicit false

namespace ProbeTrace.Program.CopyRoutine

open Code

/-- What is declared for the routine: the head of the program and the ring. -/
def declarations (probe : String) (size count : Nat) : Declarations :=
  ⟨prologue ++ CopyRoutine.store probe size count⟩

/-- What the routine can name. -/
abbrev scope (kernel : Kernel) (probe : String) (size count : Nat) : Scope :=
  ⟨declarations probe size count, (function probe count).vars, kernel⟩

variable {kernel : Kernel} {probe name : String} {size count : Nat}

/-! ## Names -/

def mapEndings : List String :=
  ["_chunks", "_next_chunk"]

def constantEndings : List String :=
  ["_CHUNK_SIZE", "_CHUNK_COUNT", "_IDX", "_READ", "_LENGTH"]

/-- What the names outside the routine end with. -/
def endings : List String :=
  mapEndings ++ constantEndings

theorem append_ne {p q e f : String} (he : e ∈ endings) (hf : f ∈ endings) (hne : e ≠ f) :
    p ++ e ≠ q ++ f := by
  have happart : Apart endings := by decide
  exact fun heq => hne (happart.append_inj he hf heq).2

theorem ne_append {p e : String} (h : '_' ∉ name.toList) (he : e ∈ endings) : name ≠ p ++ e := by
  rintro rfl
  have hending : ∀ e ∈ endings, '_' ∈ e.toList := by decide
  rw [String.toList_append] at h
  exact h (List.mem_append_right _ (hending e he))

def constants (probe : String) (size count : Nat) : List (String × Constant) :=
  [("USDTRACE_ERR_BAD_CHUNK" ++ "_IDX", .signed TransferFault.badChunkIndexCode),
    ("USDTRACE_ERR_BAD_PROBE" ++ "_READ", .signed TransferFault.badProbeReadCode),
    ("USDTRACE_ERR" ++ "_LENGTH", .signed TransferFault.lengthMismatchCode),
    (probe.toUpper ++ "_CHUNK_SIZE", .plain size),
    (probe.toUpper ++ "_CHUNK_COUNT", .plain count)]

theorem constants_ending {c : String × Constant} (h : c ∈ constants probe size count) :
    ∃ p, ∃ e ∈ constantEndings, c.1 = p ++ e := by
  revert c
  simp only [constants, List.forall_mem_cons]
  exact ⟨⟨_, _, by decide, rfl⟩, ⟨_, _, by decide, rfl⟩, ⟨_, _, by decide, rfl⟩,
    ⟨_, _, by decide, rfl⟩, ⟨_, _, by decide, rfl⟩, nofun⟩

theorem constant?_eq (name : String) :
    (declarations probe size count).constant? name = (constants probe size count).lookup name :=
  rfl

theorem lookup_append_ne {p q e f : String} {c : Constant} {rest : List (String × Constant)}
    (he : e ∈ endings) (hf : f ∈ endings) (hne : e ≠ f) :
    ((q ++ f, c) :: rest).lookup (p ++ e) = rest.lookup (p ++ e) := by
  rw [List.lookup_cons, beq_false_of_ne (append_ne he hf hne)]

theorem constant?_chunkSize :
    (declarations probe size count).constant? (Names.chunkSize probe) = some (.plain size) := by
  rw [constant?_eq, Names.chunkSize, constants,
    lookup_append_ne (by decide) (by decide) (by decide),
    lookup_append_ne (by decide) (by decide) (by decide),
    lookup_append_ne (by decide) (by decide) (by decide), List.lookup_cons_self]

theorem constant?_chunkCount :
    (declarations probe size count).constant? (Names.chunkCount probe) = some (.plain count) := by
  rw [constant?_eq, Names.chunkCount, constants,
    lookup_append_ne (by decide) (by decide) (by decide),
    lookup_append_ne (by decide) (by decide) (by decide),
    lookup_append_ne (by decide) (by decide) (by decide),
    lookup_append_ne (by decide) (by decide) (by decide), List.lookup_cons_self]

theorem constant?_eq_none (h : ∀ p, ∀ e ∈ constantEndings, name ≠ p ++ e) :
    (declarations probe size count).constant? name = none := by
  rw [constant?_eq, List.lookup_eq_none_iff]
  intro c hc
  obtain ⟨p, e, he, heq⟩ := constants_ending hc
  rw [heq]
  exact bne_iff_ne.2 (h p e he)

theorem constant?_own (h : '_' ∉ name.toList) :
    (declarations probe size count).constant? name = none :=
  constant?_eq_none fun _ _ he => ne_append h (List.mem_append_right _ he)

theorem constant?_map {ending : String} (h : ending ∈ mapEndings) :
    (declarations probe size count).constant? (probe ++ ending) = none := by
  have hends : ∀ e ∈ mapEndings, ∀ f ∈ constantEndings, e ≠ f := by decide
  exact constant?_eq_none fun p f hf =>
    append_ne (List.mem_append_left _ h) (List.mem_append_right _ hf) (hends _ h _ hf)

theorem vars_map {ending : String} (h : ending ∈ mapEndings) :
    (scope kernel probe size count).vars.lookup (probe ++ ending) = none := by
  have hplain : ∀ own ∈ (scope kernel probe size count).vars.map Prod.fst, '_' ∉ own.toList := by
    change ∀ own ∈ ["src", "len", "start", "chunk", "zero", "needed", "first", "idx", "step",
      "next", "remaining"], '_' ∉ own.toList
    decide
  rw [List.lookup_eq_none_iff]
  intro own howner
  have hown := hplain _ (List.mem_map_of_mem howner)
  exact bne_iff_ne.2 (ne_append hown (List.mem_append_left _ h)).symm

theorem map?_eq (name : String) :
    (declarations probe size count).map? name =
      [arrayMap (probe ++ "_chunks") "BPF_MAP_TYPE_ARRAY" (countConstant probe)
          (.struct (Names.chunk probe)),
        arrayMap (probe ++ "_next_chunk") "BPF_MAP_TYPE_ARRAY" (.number 1) .u32].find?
        fun definition => definition.name = name :=
  rfl

theorem map?_chunkStore :
    (declarations probe size count).map? (Names.chunkStore probe) =
      some (arrayMap (Names.chunkStore probe) "BPF_MAP_TYPE_ARRAY" (countConstant probe)
        (.struct (Names.chunk probe))) := by
  rw [map?_eq, List.find?_cons_of_pos]
  · rfl
  · exact decide_eq_true rfl

theorem map?_nextChunk :
    (declarations probe size count).map? (Names.nextChunk probe) =
      some (arrayMap (Names.nextChunk probe) "BPF_MAP_TYPE_ARRAY" (.number 1) .u32) := by
  rw [map?_eq, List.find?_cons_of_neg, List.find?_cons_of_pos]
  · rfl
  · exact decide_eq_true rfl
  · have hne : probe ++ "_chunks" ≠ probe ++ "_next_chunk" :=
      append_ne (by decide) (by decide) (by decide)
    simp [arrayMap, Names.nextChunk, hne]

theorem address?_own {type : CType} (h : '_' ∉ name.toList)
    (htype : (scope kernel probe size count).vars.lookup name = some type) :
    (scope kernel probe size count).address? name = some (.own name) := by
  rw [Scope.address?, constant?_own h, htype]

theorem address?_chunkStore :
    (scope kernel probe size count).address? (Names.chunkStore probe) =
      some (.map (Names.chunkStore probe)) := by
  rw [Scope.address?, Names.chunkStore, constant?_map (by decide), vars_map (by decide),
    ← Names.chunkStore, map?_chunkStore]
  rfl

theorem address?_nextChunk :
    (scope kernel probe size count).address? (Names.nextChunk probe) =
      some (.map (Names.nextChunk probe)) := by
  rw [Scope.address?, Names.nextChunk, constant?_map (by decide), vars_map (by decide),
    ← Names.nextChunk, map?_nextChunk]
  rfl

theorem typeOf?_own {type : CType} (h : '_' ∉ name.toList)
    (htype : (scope kernel probe size count).vars.lookup name = some type) :
    (scope kernel probe size count).typeOf? name = some type := by
  rw [Scope.typeOf?, constant?_own h, htype]

theorem entries?_chunkStore :
    (declarations probe size count).entries? (Names.chunkStore probe) = some count := by
  rw [Declarations.entries?, map?_chunkStore]
  simp [arrayMap, MapDef.number?, Declarations.size?, countConstant, constant?_chunkCount]

theorem entries?_nextChunk :
    (declarations probe size count).entries? (Names.nextChunk probe) = some 1 := by
  rw [Declarations.entries?, map?_nextChunk]
  rfl

theorem extent?_data :
    (declarations probe size count).extent? (Names.chunkStore probe) "data" = some size := by
  have hstruct : (declarations probe size count).struct? (Names.chunk probe) =
      some ⟨Names.chunk probe, [⟨.char, "data", some (sizeConstant probe)⟩], false⟩ := by
    simp [Declarations.struct?, declarations, CopyRoutine.store, prologue, Item.struct?]
  rw [Declarations.extent?, map?_chunkStore]
  simp [arrayMap, MapDef.type?, hstruct, Declarations.size?, sizeConstant, constant?_chunkSize]

theorem isWord_next :
    (declarations probe size count).isWord (.entry (Names.nextChunk probe) 0) = true := by
  rw [Declarations.isWord, map?_nextChunk]
  rfl

end ProbeTrace.Program.CopyRoutine
