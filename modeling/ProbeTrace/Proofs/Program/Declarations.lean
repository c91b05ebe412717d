import Mathlib.Data.List.Nodup
import Mathlib.Data.List.Perm.Subperm
import ProbeTrace.Proofs.Probe.Table
import ProbeTrace.Proofs.Program.Endings

/-!
# What a program declares

A program declares its objects, its structure tags and its constants in three
spaces of names. For the probes of one table the tags all differ. Two objects
have one name if one probe has structures and the name of another is its own with
the ending `_struct`; two constants do if the names of their probes differ in the
case of letters only.
-/

set_option autoImplicit false

namespace ProbeTrace

open Code Program

namespace Program

open ProbeSpec

/-! ## Names of several probes -/

/-- Names made of a stem and an ending all differ if the endings of one stem do, and no two
stems come to one name. -/
theorem named_nodup_iff {stem : ProbeSpec → String} {endings : ProbeSpec → List String}
    {probes : List ProbeSpec} (hown : ∀ spec ∈ probes, (endings spec).Nodup) :
    (probes.flatMap fun spec => (endings spec).map (stem spec ++ ·)).Nodup ↔
      probes.Pairwise fun a b =>
        ∀ e ∈ endings a, ∀ f ∈ endings b, stem a ++ e ≠ stem b ++ f := by
  have hnodup : ∀ spec ∈ probes, ((endings spec).map (stem spec ++ ·)).Nodup := fun spec hspec =>
    (hown spec hspec).map fun _ _ heq => (String.append_right_inj (stem spec)).1 heq
  rw [List.nodup_flatMap, and_iff_right hnodup]
  apply List.Pairwise.iff
  intro a b
  constructor
  · intro h e he f hf heq
    exact h (List.mem_map_of_mem he) (heq ▸ List.mem_map_of_mem hf)
  · intro h name hin hout
    obtain ⟨e, he, rfl⟩ := List.mem_map.1 hin
    obtain ⟨f, hf, heq⟩ := List.mem_map.1 hout
    exact h e he f hf heq.symm

/-- Other names in front make no difference if they have none of the endings. -/
theorem fixed_named_nodup_iff {stem : ProbeSpec → String} {endings : ProbeSpec → List String}
    {fixed all : List String} (hall : ∀ spec, (endings spec).Sublist all) (hnodup : all.Nodup)
    (hfixed : fixed.Nodup) (hother : ∀ e ∈ all, ∀ name ∈ fixed, ¬ e.toList <:+ name.toList)
    (probes : List ProbeSpec) :
    (fixed ++ probes.flatMap fun spec => (endings spec).map (stem spec ++ ·)).Nodup ↔
      probes.Pairwise fun a b =>
        ∀ e ∈ endings a, ∀ f ∈ endings b, stem a ++ e ≠ stem b ++ f := by
  have hdisjoint :
      fixed.Disjoint (probes.flatMap fun spec => (endings spec).map (stem spec ++ ·)) := by
    intro name hin hout
    obtain ⟨spec, -, hname⟩ := List.mem_flatMap.1 hout
    obtain ⟨e, he, rfl⟩ := List.mem_map.1 hname
    refine hother e ((hall spec).subset he) _ hin ?_
    rw [String.toList_append]
    exact List.suffix_append _ _
  rw [List.nodup_append', and_iff_right hfixed, and_iff_left hdisjoint]
  exact named_nodup_iff fun spec _ => hnodup.sublist (hall spec)

def allObjectEndings : List String :=
  ["_struct_scratch", "_scratch", "_events", "_chunks", "_next_chunk", "_copy_long_str", "_entry"]

def allConstantEndings : List String :=
  ["_SAMPLE_THRESH", "_CHUNK_SIZE", "_CHUNK_COUNT"]

def allFixedTagEndings : List String :=
  ["_structs", "_output", "_chunk"]

theorem objectEndings_sublist (spec : ProbeSpec) :
    spec.objectEndings.Sublist allObjectEndings := by
  rw [objectEndings]
  cases spec.hasStruct <;> cases spec.hasLongText <;> decide

theorem constantEndings_sublist (spec : ProbeSpec) :
    spec.constantEndings.Sublist allConstantEndings := by
  rw [constantEndings]
  cases spec.isSampled <;> cases spec.hasLongText <;> decide

theorem fixedTagEndings_sublist (spec : ProbeSpec) :
    spec.fixedTagEndings.Sublist allFixedTagEndings := by
  rw [fixedTagEndings]
  cases spec.hasStruct <;> cases spec.hasLongText <;> decide

theorem allConstantEndings_apart : Apart allConstantEndings := by
  decide

theorem allFixedTagEndings_apart : Apart allFixedTagEndings := by
  decide

/-- One object ending ends with another: that of the map for structures. -/
theorem objectEnding_suffix : ∀ e ∈ allObjectEndings, ∀ f ∈ allObjectEndings,
    e.toList <:+ f.toList → e = f ∨ e = "_scratch" ∧ f = "_struct_scratch" := by
  decide

theorem scratch_mem (spec : ProbeSpec) : "_scratch" ∈ spec.objectEndings := by
  rw [objectEndings]
  cases spec.hasStruct <;> cases spec.hasLongText <;> decide

theorem structScratch_mem_iff (spec : ProbeSpec) :
    "_struct_scratch" ∈ spec.objectEndings ↔ spec.hasStruct := by
  rw [objectEndings]
  cases spec.hasStruct <;> cases spec.hasLongText <;> decide

theorem mem_constantEndings_iff {spec : ProbeSpec} {e : String} :
    e ∈ spec.constantEndings ↔ spec.isSampled ∧ e = "_SAMPLE_THRESH" ∨
      spec.hasLongText ∧ (e = "_CHUNK_SIZE" ∨ e = "_CHUNK_COUNT") := by
  rw [constantEndings]
  cases spec.isSampled <;> cases spec.hasLongText <;> simp

theorem append_structScratch (stem : String) :
    stem ++ "_struct_scratch" = stem ++ "_struct" ++ "_scratch" := by
  rw [String.append_assoc]
  rfl

end Program

namespace ProbeSpec

/-- The map for the structures of the first probe has the name of the map for the records of
the second. -/
def SharesScratch (a b : ProbeSpec) : Prop :=
  a.hasStruct ∧ b.name = a.name ++ "_struct"

/-- Two constants have one name: those for the threshold or those for the ring. -/
def SharesConstant (a b : ProbeSpec) : Prop :=
  a.name.toUpper = b.name.toUpper ∧
    (a.isSampled ∧ b.isSampled ∨ a.hasLongText ∧ b.hasLongText)

instance (a b : ProbeSpec) : Decidable (a.SharesScratch b) :=
  inferInstanceAs (Decidable (_ ∧ _))

instance (a b : ProbeSpec) : Decidable (a.SharesConstant b) :=
  inferInstanceAs (Decidable (_ ∧ (_ ∨ _)))

theorem objects_differ_iff {a b : ProbeSpec} (hne : a.name ≠ b.name) :
    (∀ e ∈ a.objectEndings, ∀ f ∈ b.objectEndings, a.name ++ e ≠ b.name ++ f) ↔
      ¬ a.SharesScratch b ∧ ¬ b.SharesScratch a := by
  have hshares {a b : ProbeSpec} {e f : String} (hne : a.name ≠ b.name)
      (he : e ∈ a.objectEndings) (hf : f ∈ b.objectEndings) (heq : a.name ++ e = b.name ++ f)
      (hsuffix : e.toList <:+ f.toList) : b.SharesScratch a := by
    -- names that differ leave the two scratch maps only
    rcases objectEnding_suffix e ((objectEndings_sublist a).subset he) f
      ((objectEndings_sublist b).subset hf) hsuffix with rfl | ⟨rfl, rfl⟩
    · exact absurd ((String.append_left_inj e).1 heq) hne
    · rw [append_structScratch] at heq
      exact ⟨(structScratch_mem_iff b).1 hf, (String.append_left_inj _).1 heq⟩
  have hclash {a b : ProbeSpec} (h : a.SharesScratch b) :
      a.name ++ "_struct_scratch" = b.name ++ "_scratch" := by
    rw [append_structScratch, h.2]
  constructor
  · intro h
    refine ⟨fun hab => ?_, fun hba => ?_⟩
    · exact h _ ((structScratch_mem_iff a).2 hab.1) _ (scratch_mem b) (hclash hab)
    · exact h _ (scratch_mem a) _ ((structScratch_mem_iff b).2 hba.1) (hclash hba).symm
  · rintro ⟨hab, hba⟩ e he f hf heq
    rcases suffix_of_append_eq heq with hsuffix | hsuffix
    · exact hba (hshares hne he hf heq hsuffix)
    · exact hab (hshares hne.symm hf he heq.symm hsuffix)

theorem constants_differ_iff (a b : ProbeSpec) :
    (∀ e ∈ a.constantEndings, ∀ f ∈ b.constantEndings,
      a.name.toUpper ++ e ≠ b.name.toUpper ++ f) ↔ ¬ a.SharesConstant b := by
  constructor
  · rintro h ⟨hstem, ⟨ha, hb⟩ | ⟨ha, hb⟩⟩
    · exact h "_SAMPLE_THRESH" (mem_constantEndings_iff.2 (.inl ⟨ha, rfl⟩)) _
        (mem_constantEndings_iff.2 (.inl ⟨hb, rfl⟩)) (hstem ▸ rfl)
    · exact h "_CHUNK_SIZE" (mem_constantEndings_iff.2 (.inr ⟨ha, .inl rfl⟩)) _
        (mem_constantEndings_iff.2 (.inr ⟨hb, .inl rfl⟩)) (hstem ▸ rfl)
  · intro h e he f hf heq
    obtain ⟨hstem, rfl⟩ := allConstantEndings_apart.append_inj
      ((constantEndings_sublist a).subset he) ((constantEndings_sublist b).subset hf) heq
    refine h ⟨hstem, ?_⟩
    rcases mem_constantEndings_iff.1 he with ⟨ha, rfl⟩ | ⟨ha, hring⟩
    · rcases mem_constantEndings_iff.1 hf with ⟨hb, -⟩ | ⟨-, hring⟩
      · exact .inl ⟨ha, hb⟩
      · exact absurd hring (by decide)
    · rcases mem_constantEndings_iff.1 hf with ⟨-, rfl⟩ | ⟨hb, -⟩
      · exact absurd hring (by decide)
      · exact .inr ⟨ha, hb⟩

/-- The tag of a shape is none of the others. -/
theorem fixedTag_ne_shapeEnding {spec : ProbeSpec} {e : String} (he : e ∈ spec.fixedTagEndings)
    (p q : String) (place : Place) : p ++ e ≠ q ++ Names.shapeEnding place := by
  have hletter : ∀ e ∈ allFixedTagEndings, ∃ c ∈ e.toList.getLast?, ¬ isIndexChar c := by
    simp only [allFixedTagEndings, List.forall_mem_cons, List.not_mem_nil, false_implies,
      implies_true, and_true]
    exact ⟨⟨'s', rfl, by decide⟩, ⟨'t', rfl, by decide⟩, ⟨'k', rfl, by decide⟩⟩
  exact Names.append_ne_shapeEnding place (hletter e ((fixedTagEndings_sublist spec).subset he))

/-- A tag tells its probe and its ending. -/
theorem tag_inj {a b : ProbeSpec} {e f : String} (he : e ∈ a.tagEndings) (hf : f ∈ b.tagEndings)
    (heq : a.name ++ e = b.name ++ f) : a.name = b.name ∧ e = f := by
  rw [tagEndings, List.mem_append, List.mem_map] at he hf
  rcases he with ⟨place, -, rfl⟩ | he <;> rcases hf with ⟨other, -, rfl⟩ | hf
  · -- once the names are the same, so is what stands behind them
    obtain ⟨hname, -⟩ := Names.shapeEnding_inj heq
    rw [hname, String.append_right_inj] at heq
    exact ⟨hname, heq⟩
  · exact absurd heq.symm (fixedTag_ne_shapeEnding hf _ _ place)
  · exact absurd heq (fixedTag_ne_shapeEnding he _ _ other)
  · exact allFixedTagEndings_apart.append_inj ((fixedTagEndings_sublist a).subset he)
      ((fixedTagEndings_sublist b).subset hf) heq

/-- The tags of one probe all differ, since no two structures have the same indices. -/
theorem Accepted.tagEndings_nodup {spec : ProbeSpec} (h : spec.Accepted) :
    spec.tagEndings.Nodup := by
  obtain ⟨decls, hargs⟩ := h.placed
  have hindices := (ArgDecl.placedFrom_indices [] 0 decls).1
  rw [← hargs] at hindices
  have hplaces : (spec.structPlaces.map Place.indices).Nodup := by
    rw [structPlaces, List.map_map]
    exact hindices.sublist (List.filter_sublist.map _)
  have hshapes : (spec.structPlaces.map Names.shapeEnding).Nodup := by
    rw [List.Nodup, List.pairwise_map] at hplaces ⊢
    exact hplaces.imp fun hne heq => hne (Names.shapeEnding_inj (congrArg ("" ++ ·) heq)).2
  have hfixed : spec.fixedTagEndings.Nodup :=
    (fixedTagEndings_sublist spec).nodup (by decide)
  refine hshapes.append hfixed fun e hshape he => ?_
  obtain ⟨place, -, heq⟩ := List.mem_map.1 hshape
  exact fixedTag_ne_shapeEnding he "" "" place (congrArg ("" ++ ·) heq.symm)

end ProbeSpec

namespace ProbeTable

theorem exists_of_any {ε α : Type} {result : Except ε α} {p : α → Prop} [DecidablePred p]
    (h : result.toOption.any p) : ∃ a, result = .ok a ∧ p a := by
  cases result with
  | error e => cases h
  | ok a => exact ⟨a, rfl, of_decide_eq_true h⟩

/-- Some probes of a table in any order. -/
theorem group_ok {data : Bytes} {overrides : Overrides} {table : ProbeTable}
    (h : read data overrides = .ok table) {probes : List ProbeSpec}
    (hprobes : probes.Subperm table.probes) :
    (probes.Pairwise fun a b => a.name ≠ b.name) ∧ ∀ spec ∈ probes, spec.Accepted := by
  obtain ⟨hnames, haccepted⟩ := read_ok h
  refine ⟨?_, fun spec hspec => haccepted spec (hprobes.subset hspec)⟩
  obtain ⟨ordered, hperm, hsublist⟩ := hprobes
  have hordered : (ordered.map ProbeSpec.name).Nodup := hnames.sublist (hsublist.map _)
  have hnodup : (probes.map ProbeSpec.name).Nodup := (hperm.map _).nodup_iff.1 hordered
  exact List.pairwise_map.1 hnodup

end ProbeTable

namespace Program

theorem items_flatMap (probes : List ProbeSpec) (names : Item → List String) :
    (Program.mk probes).items.flatMap names = prologue.flatMap names ++
      probes.flatMap fun spec => (probeItems spec).flatMap names := by
  rw [items, List.flatMap_append, List.flatMap_assoc]

theorem items_objectNames_nodup_iff {probes : List ProbeSpec}
    (h : probes.Pairwise fun a b => a.name ≠ b.name) :
    ((Program.mk probes).items.flatMap Item.objectNames).Nodup ↔
      probes.Pairwise fun a b => ¬ a.SharesScratch b ∧ ¬ b.SharesScratch a := by
  have hlicense : ∀ e ∈ allObjectEndings, ∀ name ∈ ["LICENSE"], ¬ e.toList <:+ name.toList := by
    decide
  rw [items_flatMap]
  simp only [probeItems_objectNames]
  refine (fixed_named_nodup_iff objectEndings_sublist (by decide) (by decide) hlicense _).trans ?_
  constructor
  · intro hdiffer
    exact (h.and hdiffer).imp fun ⟨hne, hnames⟩ => (ProbeSpec.objects_differ_iff hne).1 hnames
  · intro hshares
    exact (h.and hshares).imp fun ⟨hne, hnone⟩ => (ProbeSpec.objects_differ_iff hne).2 hnone

theorem items_constantNames_nodup_iff (probes : List ProbeSpec) :
    ((Program.mk probes).items.flatMap Item.constantNames).Nodup ↔
      probes.Pairwise fun a b => ¬ a.SharesConstant b := by
  have hfaults : ∀ e ∈ allConstantEndings,
      ∀ name ∈ [Names.badChunkIndex, Names.badProbeRead, Names.lengthFault],
        ¬ e.toList <:+ name.toList := by
    decide
  rw [items_flatMap]
  simp only [probeItems_constantNames]
  refine (fixed_named_nodup_iff constantEndings_sublist (by decide) (by decide) hfaults _).trans ?_
  exact List.Pairwise.iff ProbeSpec.constants_differ_iff

theorem items_tags_nodup {probes : List ProbeSpec}
    (h : probes.Pairwise fun a b => a.name ≠ b.name) (haccepted : ∀ spec ∈ probes, spec.Accepted) :
    ((Program.mk probes).items.flatMap Item.tags).Nodup := by
  have hperm : ((Program.mk probes).items.flatMap Item.tags).Perm
      (probes.flatMap fun spec => spec.tagEndings.map (spec.name ++ ·)) := by
    rw [items_flatMap]
    exact List.Perm.flatMap_left probes fun spec _ => probeItems_tags spec
  rw [hperm.nodup_iff, named_nodup_iff fun spec hspec => (haccepted spec hspec).tagEndings_nodup]
  exact h.imp fun hne e he f hf heq => hne (ProbeSpec.tag_inj he hf heq).1

/-- For the probes of a table all tags differ. Objects and constants do exactly if no two
probes share a scratch map or a constant. -/
theorem declares_once_iff {data : Bytes} {overrides : Overrides} {table : ProbeTable}
    (h : ProbeTable.read data overrides = .ok table) {probes : List ProbeSpec}
    (hprobes : probes.Subperm table.probes) :
    ((Program.mk probes).items.flatMap Item.tags).Nodup ∧
      (((Program.mk probes).items.flatMap Item.objectNames).Nodup ↔
        probes.Pairwise fun a b => ¬ a.SharesScratch b ∧ ¬ b.SharesScratch a) ∧
      (((Program.mk probes).items.flatMap Item.constantNames).Nodup ↔
        probes.Pairwise fun a b => ¬ a.SharesConstant b) := by
  obtain ⟨hnames, haccepted⟩ := ProbeTable.group_ok h hprobes
  exact ⟨items_tags_nodup hnames haccepted, items_objectNames_nodup_iff hnames,
    items_constantNames_nodup_iff probes⟩

/-- Probes with structures, long texts and a sample of the firings. -/
def distinctTable : String :=
  "\x7b\"probes\":[\x7b\"name\":\"p\",\"args\":[" ++
    "\x7b\"type\":\"struct\",\"fields\":[\x7b\"type\":\"int\"\x7d]\x7d,\x7b\"type\":\"long_str\"\x7d]\x7d," ++
    "\x7b\"name\":\"p_struct_s\",\"args\":[\x7b\"type\":\"long_str\"\x7d]\x7d]\x7d"

theorem distinctTable_declares_once :
    ∃ table, ProbeTable.read distinctTable.toUTF8.toList ⟨some 0.5, none, none⟩ = .ok table ∧
      table.probes.length = 2 ∧
      ((Program.mk table.probes).items.flatMap Item.objectNames).Nodup ∧
      ((Program.mk table.probes).items.flatMap Item.constantNames).Nodup := by
  have hread : (ProbeTable.read distinctTable.toUTF8.toList ⟨some 0.5, none, none⟩).toOption.any
      fun table => table.probes.length = 2 ∧
        (table.probes.Pairwise fun a b => ¬ a.SharesScratch b ∧ ¬ b.SharesScratch a) ∧
        table.probes.Pairwise fun a b => ¬ a.SharesConstant b := by
    decide +kernel
  obtain ⟨table, htable, hlength, hscratch, hconstants⟩ := ProbeTable.exists_of_any hread
  obtain ⟨-, hobjects, hnames⟩ := declares_once_iff htable (List.Subperm.refl table.probes)
  exact ⟨table, htable, hlength, hobjects.2 hscratch, hnames.2 hconstants⟩

/-- A probe with a structure, and one with the name of the map for it. -/
def sharingTable : String :=
  "\x7b\"probes\":[\x7b\"name\":\"a\",\"args\":[\x7b\"type\":\"struct\",\"name\":\"s\",\"fields\":" ++
    "[\x7b\"type\":\"int\",\"name\":\"x\"\x7d]\x7d]\x7d,\x7b\"name\":\"a_struct\"\x7d]\x7d"

/-- The table is read without an error, and its program declares a map twice. -/
theorem sharingTable_declares_twice :
    ∃ table, ProbeTable.read sharingTable.toUTF8.toList Overrides.none = .ok table ∧
      ¬ ((Program.mk table.probes).items.flatMap Item.objectNames).Nodup := by
  apply ProbeTable.exists_of_any
  decide +kernel

end Program
end ProbeTrace
