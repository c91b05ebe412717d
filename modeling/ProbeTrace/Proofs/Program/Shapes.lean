import ProbeTrace.Proofs.Probe.Accepted
import ProbeTrace.Proofs.Program.Members

/-!
# Shapes in front of their uses

The block of a probe declares one structure for each structure argument at any
depth. The tag tells the position of the argument. Whatever has a structure as the
type of a member, or of its entries, comes after the declaration of that structure.
-/

set_option autoImplicit false

namespace ProbeTrace

open Code Program

/-! ## Items in order -/

namespace Code

def MapAttribute.tag? : MapAttribute → Option String
  | .number _ _ => none
  | .type _ value => value.tag?

/-- The structures that are the type of a member or of the entries. -/
def Item.uses : Item → List String
  | .struct definition => definition.members.filterMap fun member => member.type.tag?
  | .map definition => definition.attributes.filterMap MapAttribute.tag?
  | _ => []

/-- Every item uses only structures of the given tags and of the items in front of it. -/
def InOrder (declared : List String) : List Item → Prop
  | [] => True
  | item :: rest => item.uses ⊆ declared ∧ InOrder (declared ++ item.tags) rest

theorem inOrder_append {declared : List String} {items rest : List Item} :
    InOrder declared (items ++ rest) ↔
      InOrder declared items ∧ InOrder (declared ++ items.flatMap Item.tags) rest := by
  induction items generalizing declared with
  | nil => simp [InOrder]
  | cons item items ih =>
    rw [List.cons_append, InOrder, InOrder, ih, List.flatMap_cons, List.append_assoc, and_assoc]

theorem InOrder.mono {declared more : List String} {items : List Item} (h : InOrder declared items)
    (hsubset : declared ⊆ more) : InOrder more items := by
  induction items generalizing declared more with
  | nil => trivial
  | cons item items ih =>
    exact ⟨List.Subset.trans h.1 hsubset,
      ih h.2 (List.append_subset.2 ⟨List.subset_append_of_subset_left _ hsubset,
        List.subset_append_right _ _⟩)⟩

theorem InOrder.append {items rest : List Item} (h : InOrder [] items) (hrest : InOrder [] rest) :
    InOrder [] (items ++ rest) :=
  inOrder_append.2 ⟨h, hrest.mono (List.nil_subset _)⟩

theorem Item.mem_tags {tag : String} {item : Item} (h : tag ∈ item.tags) :
    ∃ definition, item = .struct definition ∧ definition.tag = tag := by
  cases item with
  | struct definition => exact ⟨definition, rfl, (List.mem_singleton.1 h).symm⟩
  | _ => cases h

/-- In the text of items in order, a structure is declared in front of its use. -/
theorem InOrder.text {items before after : List Item} {item : Item} {tag : String}
    (h : InOrder [] items) (hitems : items = before ++ item :: after) (htag : tag ∈ item.uses) :
    ∃ front definition middle, before = front ++ .struct definition :: middle ∧
      definition.tag = tag ∧
      render items = render front ++ (definition.text ++ "\n") ++ render middle ++
        (item.text ++ "\n") ++ render after := by
  subst hitems
  obtain ⟨-, huses, -⟩ := inOrder_append.1 h
  obtain ⟨earlier, hearlier, hdeclares⟩ := List.mem_flatMap.1 (huses htag)
  obtain ⟨definition, rfl, rfl⟩ := Item.mem_tags hdeclares
  obtain ⟨front, middle, rfl⟩ := List.append_of_mem hearlier
  refine ⟨front, definition, middle, rfl, rfl, ?_⟩
  simp only [render_append, render_cons, String.append_assoc]
  rfl

end Code

/-! ## Shapes -/

namespace Program

/-- Arguments that are no structures have no shapes. -/
theorem shapesOf_eq_flatMap (probe : String) (args : List Arg) :
    shapesOf probe args = (args.filter Arg.isStruct).flatMap (shapes probe) := by
  induction args with
  | nil => rfl
  | cons arg rest ih =>
    rw [shapesOf, ih]
    cases arg with
    | leaf place kind => rfl
    | struct place members => rfl

theorem shape_declared (probe : String) {args : List Arg} {arg : Arg} (h : arg ∈ args)
    (hstruct : arg.isStruct) :
    Names.shape probe arg.place ∈ ((shapesOf probe args).map Item.struct).flatMap Item.tags := by
  cases arg with
  | leaf place kind => cases hstruct
  | struct place members =>
    have hshape := shapesOf_mem probe (Arg.mem_allOf_self h)
    exact List.mem_flatMap.2 ⟨_, List.mem_map_of_mem hshape, List.mem_singleton.2 rfl⟩

/-- The structures that a shape uses are those of its members. -/
theorem shapeDef_uses (probe : String) (members : List Arg) {tag : String}
    (h : tag ∈ (members.map (shapeMember probe)).filterMap fun member => member.type.tag?) :
    ∃ arg ∈ members, arg.isStruct ∧ tag = Names.shape probe arg.place := by
  obtain ⟨member, hmember, htag⟩ := List.mem_filterMap.1 h
  obtain ⟨arg, harg, rfl⟩ := List.mem_map.1 hmember
  cases arg with
  | leaf place kind => cases kind <;> cases htag
  | struct place inner => exact ⟨_, harg, rfl, (Option.some.inj htag).symm⟩

mutual
/-- The shapes below an argument are declared in front of its own. -/
theorem shapes_inOrder (probe : String) : (arg : Arg) →
    InOrder [] ((shapes probe arg).map Item.struct)
  | .leaf _ _ => trivial
  | .struct place members => by
    rw [shapes, List.map_append, inOrder_append]
    refine ⟨shapesOf_inOrder probe members, ?_, trivial⟩
    intro tag htag
    obtain ⟨arg, harg, hstruct, rfl⟩ := shapeDef_uses probe members htag
    exact shape_declared probe harg hstruct

theorem shapesOf_inOrder (probe : String) : (args : List Arg) →
    InOrder [] ((shapesOf probe args).map Item.struct)
  | [] => trivial
  | arg :: rest => by
    rw [shapesOf, List.map_append]
    exact (shapes_inOrder probe arg).append (shapesOf_inOrder probe rest)
end

theorem structItems_inOrder (spec : ProbeSpec) : InOrder [] (structItems spec) := by
  rw [structItems]
  split
  · refine inOrder_append.2 ⟨shapesOf_inOrder spec.name spec.args, ?_, ?_, trivial⟩
    · -- the structure of all structure arguments has one member for each
      intro tag htag
      obtain ⟨member, hmember, hshape⟩ := List.mem_filterMap.1 htag
      obtain ⟨arg, harg, rfl⟩ := List.mem_map.1 hmember
      obtain rfl := Option.some.inj hshape
      obtain ⟨hmem, hstruct⟩ := List.mem_filter.1 harg
      exact shape_declared spec.name hmem hstruct
    · exact List.subset_append_right _ _
  · trivial

/-! ## The block of a probe -/

theorem record_inOrder (spec : ProbeSpec) :
    InOrder [] [.struct (recordDef spec), scratchMap (Names.scratch spec.name)
      (Names.output spec.name), channelMap spec.name] := by
  refine ⟨?_, List.Subset.refl _, List.nil_subset _, trivial⟩
  intro tag htag
  obtain ⟨member, hmember, hstruct⟩ := List.mem_filterMap.1 htag
  rcases List.mem_append.1 hmember with hheader | hslot
  · simp only [headerMembers, List.mem_cons, List.not_mem_nil, or_false] at hheader
    rcases hheader with rfl | rfl | rfl | rfl <;> cases hstruct
  · obtain ⟨slot, -, rfl⟩ := List.mem_map.1 hslot
    rw [slotMember] at hstruct
    cases hkind : slot.kind <;> rw [hkind] at hstruct <;> cases hstruct

theorem payloadItems_inOrder (spec : ProbeSpec) : InOrder [] (payloadItems spec) := by
  rw [payloadItems]
  split
  · exact ⟨List.nil_subset _, List.nil_subset _, List.Subset.refl _, List.nil_subset _,
      List.nil_subset _, trivial⟩
  · trivial

theorem probeItems_inOrder (spec : ProbeSpec) : InOrder [] (probeItems spec) := by
  have hthreshold (gate : SampleGate) : InOrder [] (thresholdItems spec.name gate) := by
    rw [thresholdItems]
    split
    · exact ⟨List.nil_subset _, trivial⟩
    · trivial
  have hfunction (function : Function) : InOrder [] [.function function] :=
    ⟨List.nil_subset _, trivial⟩
  have hheading : InOrder [] [.heading spec.name] := ⟨List.nil_subset _, trivial⟩
  exact ((((hheading.append (hthreshold _)).append (structItems_inOrder spec)).append
    (record_inOrder spec)).append (payloadItems_inOrder spec)).append (hfunction _)

end Program

/-! ## Declared shapes -/

namespace ProbeSpec

/-- The shapes of the structure arguments, one argument after the other. -/
def shapeDefs (spec : ProbeSpec) : List StructDef :=
  (spec.args.filter Arg.isStruct).flatMap (shapes spec.name)

/-- The block of a probe declares the shapes that its structure arguments need. -/
structure DeclaresShapes (spec : ProbeSpec) : Prop where
  /-- There is one shape for each structure at any depth, with all its members. -/
  one_each : spec.shapeDefs.Perm
    (((Arg.allOf spec.args).filter Arg.isStruct).map (shapeDef spec.name))
  declared : spec.shapeDefs.map Item.struct <:+: probeItems spec
  /-- A tag is made of depth, index and what stands behind the name of the argument in its
  field. -/
  tag_eq : ∀ arg ∈ Arg.allOf spec.args, Names.shape spec.name arg.place =
    spec.name ++ "_level_" ++ toString arg.place.depth ++ "_" ++ toString arg.place.index ++
      arg.place.behindName
  /-- A tag tells the position. -/
  position : ∀ path other arg inner, Arg.at? spec.args path = some arg →
    Arg.at? spec.args other = some inner →
    (Names.shape spec.name arg.place = Names.shape spec.name inner.place ↔ path = other)
  /-- The tag of a structure argument is declared for it and for nothing else. -/
  once : ∀ path place members, Arg.at? spec.args path = some (.struct place members) →
    ((probeItems spec).flatMap Item.tags).count (Names.shape spec.name place) = 1
  /-- What is used stands in front in the text. -/
  in_front : ∀ before item after tag, probeItems spec = before ++ item :: after →
    tag ∈ item.uses →
    ∃ front definition middle, before = front ++ .struct definition :: middle ∧
      definition.tag = tag ∧
      render (probeItems spec) = render front ++ (definition.text ++ "\n") ++ render middle ++
        (item.text ++ "\n") ++ render after

theorem structItems_within (spec : ProbeSpec) : structItems spec <:+: probeItems spec :=
  (List.infix_append _ _ _).trans
    ((List.prefix_append _ (payloadItems spec)).trans (List.prefix_append _ _)).isInfix

theorem shapeDefs_within (spec : ProbeSpec) :
    spec.shapeDefs.map Item.struct <:+: probeItems spec := by
  rw [shapeDefs, ← shapesOf_eq_flatMap]
  cases hany : spec.args.any Arg.isStruct with
  | false =>
    have hnone : spec.args.filter Arg.isStruct = [] :=
      List.filter_eq_nil_iff.2 fun arg harg => List.any_eq_false.1 hany arg harg
    rw [shapesOf_eq_flatMap, hnone]
    exact List.nil_infix
  | true =>
    have hitems : (shapesOf spec.name spec.args).map Item.struct <:+: structItems spec := by
      rw [structItems, if_pos hany]
      exact (List.prefix_append _ _).isInfix
    exact hitems.trans (structItems_within spec)

/-- The shapes of an accepted probe are all declared, in front of what uses them, and have
tags that tell the position of their arguments. -/
theorem shapes_in_front {spec : ProbeSpec} (h : spec.Accepted) : spec.DeclaresShapes := by
  obtain ⟨decls, hargs⟩ := h.placed
  refine ⟨?one_each, shapeDefs_within spec, ?tag_eq, ?position, ?once, ?in_front⟩
  case one_each =>
    rw [shapeDefs, ← shapesOf_eq_flatMap]
    exact shapesOf_perm spec.name spec.args
  case tag_eq =>
    intro arg _
    rw [Place.behindName_eq]
    rfl
  case position =>
    intro path other arg inner hat hother
    rw [hargs] at hat hother
    constructor
    · intro heq
      rw [Names.shape_eq, Names.shape_eq] at heq
      -- a tag ends in the indices of its place, and these are the path
      have hindices : arg.place.indices = inner.place.indices := (Names.shapeEnding_inj heq).2
      rw [ArgDecl.at?_indices hat, ArgDecl.at?_indices hother] at hindices
      exact List.reverse_injective hindices
    · rintro rfl
      rw [Option.some.inj (hat.symm.trans hother)]
  case once =>
    intro path place members hat
    refine List.count_eq_one_of_mem (probeItems_tags_nodup h) ?_
    have hshape := shapesOf_mem spec.name (Arg.mem_allOf_of_at? hat)
    rw [shapesOf_eq_flatMap] at hshape
    have hitem := (shapeDefs_within spec).subset (List.mem_map_of_mem hshape)
    exact List.mem_flatMap.2 ⟨_, hitem, List.mem_singleton.2 rfl⟩
  case in_front =>
    intro before item after tag hitems htag
    exact (probeItems_inOrder spec).text hitems htag

/-- Two structures in structures, whose indices are the same but for the order. -/
def crowdedSpec : ProbeSpec where
  name := "p_1"
  provider := none
  args := ArgDecl.placedFrom [] 0 <|
    .leaf none .int ::
      .struct (some "s_1_11")
        (List.replicate 11 (.leaf none .char) ++ [.struct none [.leaf (some "x") .int]]) ::
      List.replicate 9 (.leaf none .char) ++
      [.struct (some "s_1") [.leaf none .long, .struct none [.leaf (some "x_1") .int]]]
  tuning := ⟨1.0, 2, 4⟩

theorem crowdedSpec_accepted : crowdedSpec.Accepted :=
  ⟨Arg.declsOf crowdedSpec.args, rfl⟩

/-- The tags of the two inner structures differ, and the outer one comes after its own. -/
theorem crowdedSpec_in_front :
    "p_1_level_1_11_1" ≠ "p_1_level_1_1_11" ∧
      ((probeItems crowdedSpec).flatMap Item.tags).count "p_1_level_1_11_1" = 1 ∧
      ((probeItems crowdedSpec).flatMap Item.tags).count "p_1_level_1_1_11" = 1 ∧
      ∃ (definition outer : StructDef) (front middle after : List Item),
        definition.tag = "p_1_level_1_1_11" ∧ outer.tag = "p_1_level_0_11" ∧
        render (probeItems crowdedSpec) = render front ++ (definition.text ++ "\n") ++
          render middle ++ (outer.text ++ "\n") ++ render after := by
  have h := shapes_in_front crowdedSpec_accepted
  have hfirst : Names.shape crowdedSpec.name ⟨none, 11, [1]⟩ = "p_1_level_1_11_1" := by decide
  have hsecond : Names.shape crowdedSpec.name ⟨none, 1, [11]⟩ = "p_1_level_1_1_11" := by decide
  have houter : Names.shape crowdedSpec.name ⟨some "s_1", 11, []⟩ = "p_1_level_0_11" := by decide
  rw [← hfirst, ← hsecond, ← houter]
  refine ⟨fun heq => ?_, h.once [1, 11] _ _ rfl, h.once [11, 1] _ _ rfl, ?_⟩
  · have hpath := (h.position [1, 11] [11, 1] _ _ rfl rfl).1 heq
    exact absurd hpath (by decide)
  · obtain ⟨members, hat, hinner⟩ : ∃ members,
        Arg.at? crowdedSpec.args [11] = some (.struct ⟨some "s_1", 11, []⟩ members) ∧
          members[1]? = some (.struct ⟨none, 1, [11]⟩ [.leaf ⟨some "x_1", 0, [1, 11]⟩ .int]) :=
      ⟨_, rfl, rfl⟩
    have hshape := h.one_each.mem_iff.2 (List.mem_map_of_mem
      (List.mem_filter.2 ⟨Arg.mem_allOf_of_at? hat, rfl⟩))
    obtain ⟨before, after, hitems⟩ :=
      List.append_of_mem (h.declared.subset (List.mem_map_of_mem hshape))
    obtain ⟨front, definition, middle, -, hdefinition, htext⟩ := h.in_front _ _ _ _ hitems
      (List.mem_filterMap.2 ⟨_, List.mem_map_of_mem (List.mem_of_getElem? hinner), rfl⟩)
    exact ⟨definition, _, front, middle, after, hdefinition, rfl, htext⟩

end ProbeSpec
end ProbeTrace
