import ProbeTrace.Program.Emit
import ProbeTrace.Proofs.Probe.Tree
import ProbeTrace.Proofs.Program.Names

/-!
# What a probe declares

The part of a program that belongs to a probe declares objects, constants and
structure tags. Their names are the name of the probe with the endings listed
here: some only if there are structures, a long text or a sample of the firings,
and one tag for each structure at any depth.
-/

set_option autoImplicit false

namespace ProbeTrace

open Code Program

namespace ProbeSpec

def hasStruct (spec : ProbeSpec) : Bool :=
  spec.args.any Arg.isStruct

def hasLongText (spec : ProbeSpec) : Bool :=
  spec.longText?.isSome

/-- Whether some firings are not recorded. -/
def isSampled (spec : ProbeSpec) : Bool :=
  !decide (spec.tuning.sampling >= 1.0)

def objectEndings (spec : ProbeSpec) : List String :=
  (if spec.hasStruct then ["_struct_scratch"] else []) ++ ["_scratch", "_events"] ++
    (if spec.hasLongText then ["_chunks", "_next_chunk", "_copy_long_str"] else []) ++ ["_entry"]

def constantEndings (spec : ProbeSpec) : List String :=
  (if spec.isSampled then ["_SAMPLE_THRESH"] else []) ++
    (if spec.hasLongText then ["_CHUNK_SIZE", "_CHUNK_COUNT"] else [])

/-- Those of the structures that are not shapes. -/
def fixedTagEndings (spec : ProbeSpec) : List String :=
  (if spec.hasStruct then ["_structs"] else []) ++ ["_output"] ++
    (if spec.hasLongText then ["_chunk"] else [])

/-- The structures among the arguments at every depth. -/
def structPlaces (spec : ProbeSpec) : List Place :=
  ((Arg.allOf spec.args).filter Arg.isStruct).map Arg.place

def tagEndings (spec : ProbeSpec) : List String :=
  spec.structPlaces.map Names.shapeEnding ++ spec.fixedTagEndings

end ProbeSpec

namespace Program

open ProbeSpec

/-- The gate has a threshold for the probes that do not record every firing. -/
theorem ofFraction_isSome (spec : ProbeSpec) :
    (SampleGate.ofFraction spec.tuning.sampling).threshold.isSome = spec.isSampled := by
  rw [SampleGate.ofFraction, isSampled]
  by_cases hall : spec.tuning.sampling >= 1.0
  · rw [if_pos hall, decide_eq_true hall]
    rfl
  · rw [if_neg hall, decide_eq_false hall]
    dsimp only
    split
    · rfl
    · split <;> rfl

/-! ## What an item declares -/

theorem probeItems_flatMap (spec : ProbeSpec) (names : Item → List String)
    (hheading : names (.heading spec.name) = []) :
    (probeItems spec).flatMap names =
      (thresholdItems spec.name (SampleGate.ofFraction spec.tuning.sampling)).flatMap names ++
        (structItems spec).flatMap names ++
        (names (.struct (recordDef spec)) ++
          names (scratchMap (Names.scratch spec.name) (Names.output spec.name)) ++
          names (channelMap spec.name)) ++
        (payloadItems spec).flatMap names ++
        names (.function (Entry.function spec spec.isSampled)) := by
  simp [probeItems, hheading, ofFraction_isSome]

theorem probeItems_objectNames (spec : ProbeSpec) :
    (probeItems spec).flatMap Item.objectNames = spec.objectEndings.map (spec.name ++ ·) := by
  have hthreshold : (thresholdItems spec.name
      (SampleGate.ofFraction spec.tuning.sampling)).flatMap Item.objectNames = [] := by
    rw [thresholdItems]
    split <;> rfl
  have hstructs : (structItems spec).flatMap Item.objectNames =
      (if spec.hasStruct then ["_struct_scratch"] else []).map (spec.name ++ ·) := by
    rw [structItems, hasStruct]
    split
    · simp [Item.objectNames, scratchMap, CopyRoutine.arrayMap, Names.structScratch]
    · rfl
  have hpayload : (payloadItems spec).flatMap Item.objectNames =
      (if spec.hasLongText then ["_chunks", "_next_chunk", "_copy_long_str"] else []).map
        (spec.name ++ ·) := by
    rw [payloadItems, hasLongText]
    split <;> rfl
  rw [probeItems_flatMap spec _ rfl, hthreshold, hstructs, hpayload, List.nil_append,
    objectEndings, List.map_append, List.map_append, List.map_append]
  rfl

theorem probeItems_constantNames (spec : ProbeSpec) :
    (probeItems spec).flatMap Item.constantNames =
      spec.constantEndings.map (spec.name.toUpper ++ ·) := by
  have hthreshold : (thresholdItems spec.name
      (SampleGate.ofFraction spec.tuning.sampling)).flatMap Item.constantNames =
      (if spec.isSampled then ["_SAMPLE_THRESH"] else []).map (spec.name.toUpper ++ ·) := by
    rw [thresholdItems, ← ofFraction_isSome]
    cases (SampleGate.ofFraction spec.tuning.sampling).threshold <;> rfl
  have hstructs : (structItems spec).flatMap Item.constantNames = [] := by
    rw [structItems]
    split
    · simp [Item.constantNames, scratchMap]
    · rfl
  have hpayload : (payloadItems spec).flatMap Item.constantNames =
      (if spec.hasLongText then ["_CHUNK_SIZE", "_CHUNK_COUNT"] else []).map
        (spec.name.toUpper ++ ·) := by
    rw [payloadItems, hasLongText]
    split <;> rfl
  rw [probeItems_flatMap spec _ rfl, hthreshold, hstructs, hpayload, constantEndings,
    List.map_append]
  simp [Item.constantNames, scratchMap, channelMap]

/-! ## Shapes -/

/-- The shape of a structure argument. -/
def shapeDef (probe : String) (arg : Arg) : StructDef :=
  ⟨Names.shape probe arg.place, arg.members.map (shapeMember probe), false⟩

mutual
/-- There is one shape for each structure at and below an argument, and no other. -/
theorem shapes_perm (probe : String) : (arg : Arg) →
    (shapes probe arg).Perm ((arg.all.filter Arg.isStruct).map (shapeDef probe))
  | .leaf place kind => by simp [shapes, Arg.all, Arg.isStruct]
  | .struct place members => by
    rw [shapes, Arg.all, List.filter_cons_of_pos rfl, List.map_cons]
    exact List.perm_append_comm.trans ((shapesOf_perm probe members).cons _)

theorem shapesOf_perm (probe : String) : (args : List Arg) →
    (shapesOf probe args).Perm (((Arg.allOf args).filter Arg.isStruct).map (shapeDef probe))
  | [] => by simp [shapesOf, Arg.allOf]
  | arg :: rest => by
    rw [shapesOf, Arg.allOf, List.filter_append, List.map_append]
    exact (shapes_perm probe arg).append (shapesOf_perm probe rest)
end

theorem shapesOf_tags (probe : String) (args : List Arg) :
    ((shapesOf probe args).map StructDef.tag).Perm
      (((Arg.allOf args).filter Arg.isStruct).map fun inner => Names.shape probe inner.place) := by
  have htags := (shapesOf_perm probe args).map StructDef.tag
  rw [List.map_map] at htags
  exact htags

/-- Nothing lies below arguments that are no structures. -/
theorem structPlaces_eq_nil {spec : ProbeSpec} (h : spec.hasStruct = false) :
    spec.structPlaces = [] := by
  rw [hasStruct, List.any_eq_false] at h
  rw [structPlaces, List.map_eq_nil_iff, List.filter_eq_nil_iff]
  intro inner hinner
  obtain ⟨arg, harg, hbelow⟩ := Arg.mem_allOf.1 hinner
  cases arg with
  | leaf place kind =>
    rw [List.mem_singleton.1 hbelow]
    exact nofun
  | struct place members => exact absurd rfl (h _ harg)

theorem structItems_tags (spec : ProbeSpec) :
    ((structItems spec).flatMap Item.tags).Perm
      ((spec.structPlaces.map Names.shapeEnding ++
        if spec.hasStruct then ["_structs"] else []).map (spec.name ++ ·)) := by
  cases hstruct : spec.hasStruct with
  | false =>
    rw [structPlaces_eq_nil hstruct]
    rw [hasStruct] at hstruct
    simp [structItems, hstruct]
  | true =>
    -- a shape comes after those below it, so the tags are in another order than the arguments
    have hshapes := shapesOf_tags spec.name spec.args
    have hitems : (structItems spec).flatMap Item.tags =
        (shapesOf spec.name spec.args).map StructDef.tag ++ [Names.structs spec.name] := by
      rw [hasStruct] at hstruct
      simp only [structItems, hstruct, if_true, List.flatMap_append, List.flatMap_map]
      rw [List.map_eq_flatMap]
      rfl
    have hnames : (spec.structPlaces.map Names.shapeEnding).map (spec.name ++ ·) =
        ((Arg.allOf spec.args).filter Arg.isStruct).map
          fun inner => Names.shape spec.name inner.place := by
      simp [structPlaces, Names.shape_eq]
    rw [hitems, List.map_append, hnames]
    exact hshapes.append_right _

theorem probeItems_tags (spec : ProbeSpec) :
    ((probeItems spec).flatMap Item.tags).Perm (spec.tagEndings.map (spec.name ++ ·)) := by
  have hthreshold : (thresholdItems spec.name
      (SampleGate.ofFraction spec.tuning.sampling)).flatMap Item.tags = [] := by
    rw [thresholdItems]
    split <;> rfl
  have hpayload : (payloadItems spec).flatMap Item.tags =
      (if spec.hasLongText then ["_chunk"] else []).map (spec.name ++ ·) := by
    rw [payloadItems, hasLongText]
    split <;> rfl
  have hrest : (probeItems spec).flatMap Item.tags = (structItems spec).flatMap Item.tags ++
      (["_output"] ++ if spec.hasLongText then ["_chunk"] else []).map (spec.name ++ ·) := by
    rw [probeItems_flatMap spec _ rfl, hthreshold, hpayload]
    simp [Item.tags, scratchMap, channelMap, recordDef, Names.output]
  have hendings : spec.tagEndings.map (spec.name ++ ·) =
      (spec.structPlaces.map Names.shapeEnding ++
        if spec.hasStruct then ["_structs"] else []).map (spec.name ++ ·) ++
      (["_output"] ++ if spec.hasLongText then ["_chunk"] else []).map (spec.name ++ ·) := by
    simp [tagEndings, fixedTagEndings]
  rw [hrest, hendings]
  exact (structItems_tags spec).append_right _

end Program
end ProbeTrace
