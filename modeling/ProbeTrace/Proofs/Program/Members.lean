import ProbeTrace.Proofs.Program.Endings
import ProbeTrace.Proofs.Program.Declarations
import ProbeTrace.Proofs.Program.Stores

/-!
# Members of shapes

A structure argument is read in one piece and then taken apart member by member.
The names by which a member is read are those that the declared structures give
to it, one for each level, and what is read goes to the field of the member.
-/

set_option autoImplicit false

namespace ProbeTrace

open Code

namespace Code

/-- The structure that an item declares, if it has the tag. -/
def Item.tagged? (tag : String) : Item → Option StructDef
  | .struct definition => if definition.tag = tag then some definition else none
  | _ => none

/-- The structure of a tag. -/
def structDef? (items : List Item) (tag : String) : Option StructDef :=
  items.findSome? (Item.tagged? tag)

def CType.tag? : CType → Option String
  | .struct tag => some tag
  | _ => none

/-- The names of the members that some indices lead to, from the structure of a tag on. -/
def memberNames? (items : List Item) : String → List Nat → Option (List String)
  | _, [] => none
  | tag, [i] =>
    (structDef? items tag).bind fun definition =>
      definition.members[i]?.map fun member => [member.name]
  | tag, i :: path =>
    (structDef? items tag).bind fun definition =>
      definition.members[i]?.bind fun member =>
        member.type.tag?.bind fun inner =>
          (memberNames? items inner path).map (member.name :: ·)

theorem memberNames?_cons {items : List Item} {tag : String} {i : Nat} {path : List Nat}
    (h : path ≠ []) :
    memberNames? items tag (i :: path) =
      (structDef? items tag).bind fun definition =>
        definition.members[i]?.bind fun member =>
          member.type.tag?.bind fun inner =>
            (memberNames? items inner path).map (member.name :: ·) := by
  cases path with
  | nil => exact absurd rfl h
  | cons j path => rfl

/-- Where all tags differ, a structure is found by its own. -/
theorem structDef?_of_mem {items : List Item} (h : (items.flatMap Item.tags).Nodup)
    (definition : StructDef) (hmem : .struct definition ∈ items) :
    structDef? items definition.tag = some definition := by
  induction items with
  | nil => cases hmem
  | cons item rest ih =>
    rw [List.flatMap_cons, List.nodup_append'] at h
    obtain ⟨-, hrest, hdisjoint⟩ := h
    rw [structDef?, List.findSome?_cons]
    rcases List.mem_cons.1 hmem with rfl | hlater
    · simp [Item.tagged?]
    · have hother : Item.tagged? definition.tag item = none := by
        cases item with
        | struct first =>
          have hne : first.tag ≠ definition.tag := fun heq =>
            hdisjoint (List.mem_singleton.2 heq.symm)
              (List.mem_flatMap.2 ⟨_, hlater, List.mem_singleton.2 rfl⟩)
          simp [Item.tagged?, hne]
        | _ => rfl
      rw [hother]
      exact ih hrest hlater

end Code

namespace Program

open ProbeSpec Entry RecordLayout

/-- What the probe declares has tags that differ. -/
theorem probeItems_tags_nodup {spec : ProbeSpec} (h : spec.Accepted) :
    ((probeItems spec).flatMap Item.tags).Nodup :=
  (probeItems_tags spec).nodup_iff.2
    (h.tagEndings_nodup.map fun _ _ heq => (String.append_right_inj spec.name).1 heq)

theorem shapesOf_mem (probe : String) {args : List Arg} {place : Place} {members : List Arg}
    (h : Arg.struct place members ∈ Arg.allOf args) :
    (⟨Names.shape probe place, members.map (shapeMember probe), false⟩ : StructDef) ∈
      shapesOf probe args :=
  (shapesOf_perm probe args).mem_iff.2
    (List.mem_map.2 ⟨_, List.mem_filter.2 ⟨h, rfl⟩, rfl⟩)

theorem structItems_subset (spec : ProbeSpec) : structItems spec ⊆ probeItems spec := by
  intro item hitem
  simp [probeItems, hitem]

section

variable {spec : ProbeSpec} {items : List Item} (hsubset : probeItems spec ⊆ items)
  (htags : (items.flatMap Item.tags).Nodup)

include hsubset htags

/-- The shape of a structure at any depth is found by its tag. -/
theorem structDef?_shape {place : Place} {members : List Arg}
    (hmem : Arg.struct place members ∈ Arg.allOf spec.args) :
    structDef? items (Names.shape spec.name place) =
      some ⟨Names.shape spec.name place, members.map (shapeMember spec.name), false⟩ := by
  have hstruct : spec.args.any Arg.isStruct = true := by
    by_contra hany
    have hnone : spec.hasStruct = false := Bool.eq_false_iff.2 hany
    have hplaces := structPlaces_eq_nil hnone
    have hplace : place ∈ spec.structPlaces :=
      List.mem_map.2 ⟨_, List.mem_filter.2 ⟨hmem, rfl⟩, rfl⟩
    rw [hplaces] at hplace
    cases hplace
  refine structDef?_of_mem htags ⟨_, _, _⟩ (hsubset (structItems_subset spec ?_))
  rw [structItems, if_pos hstruct]
  exact List.mem_append_left _ (List.mem_map_of_mem (shapesOf_mem spec.name hmem))

theorem structDef?_structs (hstruct : spec.args.any Arg.isStruct = true) :
    structDef? items (Names.structs spec.name) = some (structsDef spec.name spec.args) := by
  refine structDef?_of_mem htags (structsDef spec.name spec.args)
    (hsubset (structItems_subset spec ?_))
  rw [structItems, if_pos hstruct]
  exact List.mem_append_right _ List.mem_cons_self

theorem structDef?_output :
    structDef? items (Names.output spec.name) = some (recordDef spec) :=
  structDef?_of_mem htags (recordDef spec) (hsubset (by simp [probeItems]))

end

/-! ## Reading members -/

theorem alwaysStores_member {source : Expr} {place : Place} {kind : Leaf} :
    AlwaysStores (memberStores source (.leaf place kind)) place.field (.dot source place.name) := by
  cases kind with
  | text length => exact alwaysStores_readText _ _ _
  | _ => exact alwaysStores_out _ _

theorem alwaysStores_of_mem {source : Expr} (h : source.stores = []) {members : List Arg}
    (hlong : Arg.anyLongText members = false) {arg : Arg} (harg : arg ∈ members) {field : String}
    {value : Expr} (hstores : AlwaysStores (memberStores source arg) field value) :
    AlwaysStores (memberStoresOf source members) field value := by
  induction members with
  | nil => cases harg
  | cons first rest ih =>
    rw [Arg.anyLongText, Arg.leavesOf, List.any_append, Bool.or_eq_false_iff] at hlong
    rcases List.mem_cons.1 harg with rfl | hrest
    · exact hstores.append_left
    · exact (ih hlong.2 hrest).append_right (memberStores_fills h first hlong.1)

/-- The structures that a member is read from have the names of its path, and the member at
the end of the path is read. -/
theorem memberNames?_below {items : List Item} {probe : String} {path : List Nat} {place : Place}
    {kind : Leaf} {tag : String} {packed : Bool} {members : List Arg} (source : Expr)
    (hshape : structDef? items tag = some ⟨tag, members.map (shapeMember probe), packed⟩)
    (hbelow : ∀ other inner, Arg.struct other inner ∈ Arg.allOf members →
      structDef? items (Names.shape probe other) =
        some ⟨Names.shape probe other, inner.map (shapeMember probe), false⟩)
    (hlong : Arg.anyLongText members = false) (hsource : source.stores = [])
    (hat : Arg.at? members path = some (.leaf place kind)) :
    ∃ names, memberNames? items tag path = some names ∧
      AlwaysStores (memberStoresOf source members) place.field (access source names) := by
  induction path generalizing tag packed members source with
  | nil => cases hat
  | cons i path ih =>
    cases path with
    | nil =>
      rw [Arg.at?] at hat
      refine ⟨[place.name], ?_, alwaysStores_of_mem hsource hlong (List.mem_of_getElem? hat)
        alwaysStores_member⟩
      rw [memberNames?, hshape, Option.bind_some, List.getElem?_map, hat]
      rfl
    | cons j path =>
      rw [Arg.at?_cons (by simp)] at hat
      obtain ⟨arg, harg, hinner⟩ := Option.bind_eq_some_iff.1 hat
      have hmem := List.mem_of_getElem? harg
      cases arg with
      | leaf other _ =>
        -- nothing lies below a leaf
        cases path <;> simp [Arg.members, Arg.at?] at hinner
      | struct other inner =>
        have hquiet : (Expr.dot source other.name).stores = [] := by rw [Expr.stores, hsource]
        have hinnerLong : Arg.anyLongText inner = false := by
          rw [Arg.anyLongText_eq_false_iff] at hlong ⊢
          exact fun leaf hleaf => hlong leaf (Arg.mem_allOf_of_member hmem hleaf)
        have hshapeInner := hbelow other inner (Arg.mem_allOf_self hmem)
        obtain ⟨names, hnames, hstores⟩ := ih (.dot source other.name) hshapeInner
          (fun place members h => hbelow place members (Arg.mem_allOf_of_member hmem h))
          hinnerLong hquiet hinner
        refine ⟨other.name :: names, ?_, alwaysStores_of_mem hsource hlong hmem hstores⟩
        rw [memberNames?_cons (by simp), hshape, Option.bind_some, List.getElem?_map, harg,
          Option.map_some, Option.bind_some]
        change (memberNames? items (Names.shape probe other) (j :: path)).map _ = _
        rw [hnames]
        rfl

end Program
end ProbeTrace
