import ProbeTrace.Proofs.Probe.WellFormed
import ProbeTrace.Proofs.Program.Members
import ProbeTrace.Proofs.Program.Packed

/-!
# Programs and layouts

A record is written by an emitted program and read by a decoder, which share
nothing but the layout. The program keeps to it: the structure that it declares
has the slots of the layout at their offsets, and whenever it hands a record on it
has filled all of them.
-/

set_option autoImplicit false

namespace ProbeTrace

open Code Program RecordLayout

/-- Some items agree with the layout of a probe's records. -/
structure ProbeSpec.Agrees (spec : ProbeSpec) (items : List Item) : Prop where
  /-- The declared record has the slots at their offsets, and no padding. -/
  record : ∃ definition, structDef? items (spec.name ++ "_output") = some definition ∧
    definition.text = "struct " ++ spec.name ++ "_output \x7b\n" ++
      "\tchar comm[16];\n\t__u32 pid;\n\t__u32 tid;\n\t__u64 ns;\n" ++
      String.join (spec.layout.slots.map fun slot => "\t" ++ slot.declared ++ ";\n") ++
      "\x7d __attribute__((packed));\n" ∧
    definition.packed = true ∧
    packedPlaces? 0 definition.members =
      some ([("comm", 0), ("pid", 16), ("tid", 20), ("ns", 24)] ++
        spec.layout.slots.map (fun slot => (slot.name, slot.offset)), spec.layout.size)
  distinct : (["comm", "pid", "tid", "ns"] ++ spec.layout.slots.map Slot.name).Nodup
  /-- A firing fills nothing, or fills the header and then each slot once, in order. What comes
  from inside a structure is read by the names that the declared structures give to it. -/
  entry : ∃ function, Item.function function ∈ items ∧ function.name = spec.name ++ "_entry" ∧
    (∃ course ∈ courses function.body.flatten, course.sends = true) ∧
    ∀ course ∈ courses function.body.flatten,
      (course.sends = false → course.stores = []) ∧
      (course.sends = true →
        course.fields = ["ns", "pid", "tid", "comm"] ++ spec.layout.slots.map Slot.name ∧
        ∀ path place kind,
          Arg.at? (spec.args.filter Arg.isStruct) path = some (.leaf place kind) →
          ∃ names source, memberNames? items (spec.name ++ "_structs") path = some names ∧
            source.text 0 = "structs->" ++ ".".intercalate names ∧
            (place.field, some source) ∈ course.stores)

namespace Program

open Entry

/-! ## Reading structures -/

theorem access_text {source : Expr} {text : String} (h : ∀ strength, source.text strength = text)
    (names : List String) (strength : Nat) :
    (access source names).text strength = ".".intercalate (text :: names) := by
  induction names generalizing source text with
  | nil => exact (h strength).trans (String.intercalate_singleton).symm
  | cons name rest ih =>
    have hdot : ∀ strength, (Expr.dot source name).text strength = text ++ "." ++ name := by
      intro strength
      rw [Expr.text, h]
    refine (ih hdot).trans ?_
    cases rest with
    | nil => simp [String.append_assoc]
    | cons next rest => simp [String.append_assoc]

theorem argParagraphs_alwaysStores {probe : String} {args : List Arg}
    (h : Arg.AllWellFormed args) {arg : Arg} (harg : arg ∈ args) {field : String} {source : Expr}
    (hstores : AlwaysStores (argStores probe arg) field source) (index : Nat) :
    AlwaysStores (argParagraphs probe index args).flatten field source := by
  induction args generalizing index with
  | nil => cases harg
  | cons first rest ih =>
    rw [argParagraphs, List.flatten_cons]
    rcases List.mem_cons.1 harg with rfl | hrest
    · exact (AlwaysStores.append_right (fills_fetchArg index) hstores).append_left
    · exact (ih h.2 hrest (index + 1)).append_right (argParagraph_fills probe index h.1)

theorem structs_access_text (first : String) (names : List String) :
    (access (.arrow (.name "structs") first) names).text 0 =
      "structs->" ++ ".".intercalate (first :: names) := by
  have hpointer : "structs" ++ "->" = "structs->" := by decide
  have harrow : ∀ strength,
      (Expr.arrow (.name "structs") first).text strength = "structs->" ++ first := by
    intro strength
    rw [Expr.text, Expr.text, hpointer]
  rw [access_text harrow]
  cases names <;> simp [String.append_assoc]

section

variable {spec : ProbeSpec} (h : spec.Accepted) {items : List Item}
  (hsubset : probeItems spec ⊆ items) (htags : (items.flatMap Item.tags).Nodup)

include h hsubset htags

/-- A member of a structure argument is read by its names, and goes to its field. -/
theorem argParagraphs_nested {path : List Nat} {place : Place} {kind : Leaf}
    (hat : Arg.at? (spec.args.filter Arg.isStruct) path = some (.leaf place kind)) :
    ∃ names source, memberNames? items (Names.structs spec.name) path = some names ∧
      source.text 0 = "structs->" ++ ".".intercalate names ∧
      AlwaysStores (argParagraphs spec.name 0 spec.args).flatten place.field source := by
  obtain ⟨k, below, rfl⟩ : ∃ k below, path = k :: below := List.exists_cons_of_ne_nil (by
    rintro rfl
    cases hat)
  by_cases hbelow : below = []
  · subst hbelow
    rw [Arg.at?] at hat
    -- the arguments that are numbered here are structures
    exact absurd (List.mem_filter.1 (List.mem_of_getElem? hat)).2 Bool.false_ne_true
  · rw [Arg.at?_cons hbelow] at hat
    obtain ⟨arg, harg, hinner⟩ := Option.bind_eq_some_iff.1 hat
    obtain ⟨hmem, hstruct⟩ := List.mem_filter.1 (List.mem_of_getElem? harg)
    cases arg with
    | leaf _ _ => cases hstruct
    | struct other members =>
      obtain ⟨-, houtside⟩ := (Arg.allWellFormed_iff spec.args).1 h.wellFormed
      have hlong : Arg.anyLongText members = false :=
        (Arg.anyLongText_eq_false_iff members).2 fun inner hmember =>
          Bool.eq_false_iff.2 (houtside _ hmem inner hmember)
      have hshape := structDef?_shape hsubset htags (Arg.mem_allOf_self hmem)
      obtain ⟨names, hnames, hstores⟩ := memberNames?_below
        (.arrow (.name "structs") other.field) hshape
        (fun _ _ hinside =>
          structDef?_shape hsubset htags (Arg.mem_allOf_of_member hmem hinside))
        hlong rfl hinner
      refine ⟨other.field :: names, _, ?_, structs_access_text other.field names,
        argParagraphs_alwaysStores h.wellFormed hmem ?_ 0⟩
      · rw [memberNames?_cons hbelow, structDef?_structs hsubset htags
          (List.any_eq_true.2 ⟨_, hmem, rfl⟩), Option.bind_some, structsDef, List.getElem?_map,
          harg, Option.map_some, Option.bind_some]
        change (memberNames? items (Names.shape spec.name other) below).map _ = _
        rw [hnames]
        rfl
      · exact AlwaysStores.append_right (fills_readStruct other.field) hstores

theorem agrees_of_subset : spec.Agrees items := by
  refine ⟨?record, ?distinct, ?entry⟩
  case record =>
    exact ⟨_, structDef?_output hsubset htags, recordDef_text spec, rfl,
      recordDef_packedPlaces? spec⟩
  case distinct =>
    have hslots : spec.layout.slots.map Slot.name = fieldsOf (Arg.leavesOf spec.args) :=
      ProbeSpec.ofArgs_names spec.args
    rw [hslots, List.nodup_append']
    exact ⟨by decide, h.fields_nodup, fun _ hreserved hfield =>
      h.fields_unreserved _ hfield hreserved⟩
  case entry =>
    refine ⟨Entry.function spec (SampleGate.ofFraction spec.tuning.sampling).threshold.isSome,
      hsubset (by simp [probeItems]), rfl, function_exists_send h _, ?_⟩
    intro course hcourse
    obtain ⟨-, hcase⟩ := function_course h _ hcourse
    refine ⟨fun hquiet => ?_, fun hsends => ⟨?_, fun path place kind hat => ?_⟩⟩
    · rcases hcase with ⟨-, hnone⟩ | ⟨hsends, -⟩
      · exact hnone
      · exact absurd (hquiet.symm.trans hsends) Bool.false_ne_true
    · rcases hcase with ⟨hquiet, -⟩ | ⟨-, hfields⟩
      · exact absurd (hquiet.symm.trans hsends) Bool.false_ne_true
      · exact hfields
    · obtain ⟨names, source, hnames, htext, hstores⟩ := argParagraphs_nested h hsubset htags hat
      exact ⟨names, source, hnames, htext, function_stores hcourse hsends hstores⟩

end

/-- A program has a block for each of its probes. -/
theorem source_of_mem {program : Program} {spec : ProbeSpec} (h : spec ∈ program.probes) :
    ∃ before after, program.source = before ++ render (probeItems spec) ++ after := by
  obtain ⟨first, rest, hprobes⟩ := List.append_of_mem h
  refine ⟨render (prologue ++ first.flatMap probeItems), render (rest.flatMap probeItems), ?_⟩
  simp only [source, items, hprobes, List.flatMap_append, List.flatMap_cons, render_append,
    String.append_assoc]

/-- The block of an accepted probe agrees with its layout, and so does the whole program if
all probes are accepted and have names of their own. -/
theorem agrees_with_layout {program : Program} {spec : ProbeSpec} (hspec : spec ∈ program.probes)
    (h : spec.Accepted) :
    (∃ before after, program.source = before ++ render (probeItems spec) ++ after) ∧
      spec.Agrees (probeItems spec) ∧
      ((∀ other ∈ program.probes, other.Accepted) → program.probeNames.Nodup →
        spec.Agrees program.items) := by
  have hblock : probeItems spec ⊆ program.items := by
    intro item hitem
    exact List.mem_append_right _ (List.mem_flatMap.2 ⟨spec, hspec, hitem⟩)
  refine ⟨source_of_mem hspec, agrees_of_subset h (List.Subset.refl _) (probeItems_tags_nodup h),
    fun haccepted hnames => agrees_of_subset h hblock ?_⟩
  exact items_tags_nodup (List.pairwise_map.1 hnames) haccepted

/-- A number, a structure with an unnamed text two levels deep, and a long text of the length
that the number gives. -/
def deepSpec : ProbeSpec where
  name := "p"
  provider := none
  args := ArgDecl.placedFrom [] 0
    [.leaf (some "n") .long,
      .struct (some "s") [.leaf (some "x") .int, .struct (some "inner") [.leaf none (.text 3)]],
      .leaf (some "doc") (.longText (some 0))]
  tuning := ⟨1.0, 2, 4⟩

theorem deepSpec_accepted : deepSpec.Accepted :=
  ⟨Arg.declsOf deepSpec.args, rfl⟩

/-- The text comes from two structures deep, and the long text takes two fields. -/
theorem deepSpec_agrees :
    ∃ function, Item.function function ∈ (Program.mk [deepSpec]).items ∧
      ∃ course ∈ courses function.body.flatten,
        course.fields = ["ns", "pid", "tid", "comm", "n", "x_1", "arg_2_0_1_1", "doc_sz",
          "doc_idx"] ∧
        ∃ source, source.text 0 = "structs->s.inner.arg_2_0" ∧
          ("arg_2_0_1_1", some source) ∈ course.stores := by
  have hmem : deepSpec ∈ (Program.mk [deepSpec]).probes := List.mem_cons_self
  obtain ⟨-, -, hprogram⟩ := agrees_with_layout hmem deepSpec_accepted
  have hagrees := hprogram (by
    intro other hother
    rw [List.mem_singleton.1 hother]
    exact deepSpec_accepted) (by decide)
  obtain ⟨function, hfunction, -, ⟨course, hcourse, hsends⟩, hall⟩ := hagrees.entry
  obtain ⟨hfields, hnested⟩ := (hall course hcourse).2 hsends
  obtain ⟨names, source, hnames, htext, hstored⟩ := hnested [0, 1, 0] _ _ rfl
  obtain rfl := Option.some.inj ((show _ = some ["s", "inner", "arg_2_0"] by decide).symm.trans
    hnames)
  exact ⟨function, hfunction, course, hcourse, hfields, source, htext, hstored⟩

end Program
end ProbeTrace
