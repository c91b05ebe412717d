import ProbeTrace.Proofs.Probe.Accepted
import ProbeTrace.Proofs.Probe.Tree

/-!
# Well-formed descriptions

What makes a description well formed can be said without an order of checks: a
condition on its names, on the argument tree, on its long text and on the record
fields it leads to. Building succeeds exactly for these descriptions, and leaves
their arguments as they were declared.
-/

set_option autoImplicit false

namespace ProbeTrace

open RecordLayout

def IsLetter (c : Char) : Prop :=
  'A' ≤ c ∧ c ≤ 'Z' ∨ 'a' ≤ c ∧ c ≤ 'z'

def IsDigit (c : Char) : Prop :=
  '0' ≤ c ∧ c ≤ '9'

/-- A letter or an underscore, and then letters, digits and underscores. -/
def Identifier (name : String) : Prop :=
  ∃ first rest, name.toList = first :: rest ∧ (IsLetter first ∨ first = '_') ∧
    ∀ c ∈ rest, IsLetter c ∨ IsDigit c ∨ c = '_'

theorem isAlpha_iff (c : Char) : c.isAlpha ↔ IsLetter c := by
  have hletter : c.isAlpha = (decide (c.val ≥ 'A'.val ∧ c.val ≤ 'Z'.val) ||
      (decide (c.val ≥ 'a'.val) && decide (c.val ≤ 'z'.val))) := rfl
  simp only [hletter, IsLetter, Char.le_def, Bool.or_eq_true, Bool.and_eq_true,
    decide_eq_true_eq, ge_iff_le]

theorem isDigit_iff (c : Char) : c.isDigit ↔ IsDigit c := by
  simp only [Char.isDigit, IsDigit, Char.le_def, Bool.and_eq_true, decide_eq_true_eq, ge_iff_le]

theorem isIdentifier_iff (name : String) : ProbeSpec.isIdentifier name ↔ Identifier name := by
  rw [ProbeSpec.isIdentifier, Identifier]
  cases name.toList with
  | nil => simp
  | cons first rest =>
    simp [and_assoc, ProbeSpec.isIdentifierStart, ProbeSpec.isIdentifierRest, Char.isAlphanum,
      isAlpha_iff, isDigit_iff, or_assoc]

namespace Arg

/-- The conditions on an argument apart from all others: a name, and something in it. -/
structure Sound (arg : Arg) : Prop where
  name : Identifier arg.name
  struct : arg.isStruct → arg.members ≠ []
  text : ∀ place length, arg = .leaf place (.text length) → 0 < length

/-- No structure has a long text in it. -/
def LongTextsOutside (args : List Arg) : Prop :=
  ∀ arg ∈ args, ∀ inner ∈ allOf arg.members, ¬ inner.isLongText

theorem sound_leaf {place : Place} {kind : Leaf} :
    (Arg.leaf place kind).Sound ↔ (Arg.leaf place kind).WellFormed := by
  rw [WellFormed, isIdentifier_iff]
  constructor
  · rintro ⟨hname, -, htext⟩
    exact ⟨hname, fun hkind => Nat.lt_irrefl 0 (htext place 0 (by rw [hkind]))⟩
  · rintro ⟨hname, hkind⟩
    refine ⟨hname, nofun, ?_⟩
    rintro _ length ⟨⟩
    exact Nat.pos_of_ne_zero fun hlength => hkind (by rw [hlength])

theorem sound_struct {place : Place} {members : List Arg} :
    (Arg.struct place members).Sound ↔ Identifier place.name ∧ members ≠ [] := by
  constructor
  · rintro ⟨hname, hmembers, -⟩
    exact ⟨hname, hmembers rfl⟩
  · rintro ⟨hname, hmembers⟩
    exact ⟨hname, fun _ => hmembers, nofun⟩

mutual
theorem wellFormed_iff : (arg : Arg) →
    (arg.WellFormed ↔ (∀ inner ∈ arg.all, inner.Sound) ∧
      ∀ inner ∈ allOf arg.members, ¬ inner.isLongText)
  | .leaf place kind => by
    simp [all, members, allOf, sound_leaf]
  | .struct place members => by
    have hmembers := allWellFormed_iff members
    have houtside : (∀ inner ∈ allOf members, ¬ inner.isLongText) → LongTextsOutside members :=
      fun h arg harg inner hinner => h inner (mem_allOf_of_member harg hinner)
    rw [WellFormed, isIdentifier_iff, anyLongText_eq_false_iff, hmembers, all,
      List.forall_mem_cons, sound_struct, Arg.members]
    simp only [Bool.not_eq_true] at houtside ⊢
    constructor
    · rintro ⟨hname, hne, hlong, hsound, -⟩
      exact ⟨⟨⟨hname, hne⟩, hsound⟩, hlong⟩
    · rintro ⟨⟨⟨hname, hne⟩, hsound⟩, hlong⟩
      exact ⟨hname, hne, hlong, hsound, houtside hlong⟩

theorem allWellFormed_iff : (args : List Arg) →
    (AllWellFormed args ↔ (∀ inner ∈ allOf args, inner.Sound) ∧ LongTextsOutside args)
  | [] => by simp [AllWellFormed, allOf, LongTextsOutside]
  | arg :: rest => by
    rw [AllWellFormed, wellFormed_iff arg, allWellFormed_iff rest, allOf, List.forall_mem_append,
      LongTextsOutside, LongTextsOutside, List.forall_mem_cons]
    exact and_and_and_comm
end

end Arg

namespace ProbeSpec

/-- A description that may be built of a name, placed arguments and a tuning. -/
structure WellFormed (name : String) (args : List Arg) (tuning : Tuning) : Prop where
  name : Identifier name
  sampling : 0.0 < tuning.sampling ∧ tuning.sampling ≤ 1.0
  /-- At every depth. -/
  tree : ∀ arg ∈ Arg.allOf args, arg.Sound
  single : args.countP Arg.isLongText ≤ 1
  outside : Arg.LongTextsOutside args
  ring : ∀ arg ∈ args, arg.isLongText → tuning.chunkSize ≠ 0 ∧ tuning.chunkCount ≠ 0
  lengths : ∀ place index, Arg.leaf place (.longText (some index)) ∈ args →
    ∃ other, ∃ kind ∈ [.int, .long, .ulong, .char], args[index]? = some (.leaf other kind)
  names : (args.map Arg.name).Nodup
  fields : ((RecordLayout.ofArgs args).slots.map Slot.name).Nodup
  unreserved : ∀ slot ∈ (RecordLayout.ofArgs args).slots,
    slot.name ∉ ["comm", "pid", "tid", "ns"]

theorem isSamplingFraction_iff (fraction : Float) :
    isSamplingFraction fraction ↔ 0.0 < fraction ∧ fraction ≤ 1.0 := by
  simp [isSamplingFraction]

theorem isInteger_iff (kind : Leaf) : kind.isInteger ↔ kind ∈ [.int, .long, .ulong, .char] := by
  cases kind <;> simp [Leaf.isInteger]

theorem any_isInteger_iff (found : Option Arg) :
    found.any Arg.isInteger ↔ ∃ place, ∃ kind ∈ [.int, .long, .ulong, .char],
      found = some (Arg.leaf place kind) := by
  constructor
  · intro h
    obtain ⟨arg, rfl, harg⟩ := Option.any_eq_true _ _ |>.1 h
    cases arg with
    | leaf place kind => exact ⟨place, kind, (isInteger_iff kind).1 harg, rfl⟩
    | struct place members => cases harg
  · rintro ⟨place, kind, hkind, rfl⟩
    exact (isInteger_iff kind).2 hkind

theorem checkLengthArg_eq_ok_iff {probe : String} {args : List Arg} {arg : Arg} :
    checkLengthArg probe args arg = .ok () ↔
      ∀ place index, arg = .leaf place (.longText (some index)) →
        args[index]?.any Arg.isInteger := by
  unfold checkLengthArg
  split
  · rename_i place index
    split
    · rename_i hany
      simp [hany]
    · rename_i hany
      exact ⟨nofun, fun h => absurd (h place index rfl) hany⟩
  · rename_i hother
    simp only [true_iff]
    intro place index harg
    exact absurd harg (hother place index)

/-- The field names that the checks claim are those of the layout. -/
theorem ofArgs_names (args : List Arg) :
    (RecordLayout.ofArgs args).slots.map Slot.name = fieldsOf (Arg.leavesOf args) := by
  rw [ofArgs, arrange_names, slotsOf_names]

theorem claims_reserved_iff (args : List Arg) :
    (∃ after, Claims reserved (fieldsOf (Arg.leavesOf args)) after) ↔
      ((RecordLayout.ofArgs args).slots.map Slot.name).Nodup ∧
        ∀ slot ∈ (RecordLayout.ofArgs args).slots, slot.name ∉ ["comm", "pid", "tid", "ns"] := by
  rw [← ofArgs_names]
  simp only [Claims, exists_and_left, exists_eq, and_true, List.forall_mem_map]
  rfl

theorem checkTop_reserved_iff {probe : String} {args : List Arg} :
    checkTop probe args [] reserved args = .ok () ↔
      (args.map Arg.name).Nodup ∧
      (∀ place index, Arg.leaf place (.longText (some index)) ∈ args →
        ∃ other, ∃ kind ∈ [.int, .long, .ulong, .char],
          args[index]? = some (.leaf other kind)) ∧
      ((∀ arg ∈ Arg.allOf args, arg.Sound) ∧ Arg.LongTextsOutside args) ∧
      ((RecordLayout.ofArgs args).slots.map Slot.name).Nodup ∧
      ∀ slot ∈ (RecordLayout.ofArgs args).slots, slot.name ∉ ["comm", "pid", "tid", "ns"] := by
  have hlengths : (∀ arg ∈ args, checkLengthArg probe args arg = .ok ()) ↔
      ∀ place index, Arg.leaf place (.longText (some index)) ∈ args →
        ∃ other, ∃ kind ∈ [.int, .long, .ulong, .char],
          args[index]? = some (.leaf other kind) := by
    simp only [checkLengthArg_eq_ok_iff, any_isInteger_iff]
    constructor
    · intro h place index harg
      exact h _ harg place index rfl
    · rintro h _ harg place index rfl
      exact h place index harg
  rw [checkTop_eq_ok_iff, Arg.allWellFormed_iff, claims_reserved_iff, hlengths]
  simp only [List.not_mem_nil, not_false_iff, implies_true, true_and]

/-- Building succeeds exactly for the well-formed descriptions. The arguments are those that
were declared; what is added to them is the place where they stand. -/
theorem build_iff_wellFormed (name : String) (decls : List ArgDecl) (tuning : Tuning) :
    let args := ArgDecl.placedFrom [] 0 decls
    (∀ spec, build name decls tuning = .ok spec ↔
      WellFormed name args tuning ∧ spec = ⟨name, none, args, tuning⟩) ∧
    Arg.declsOf args = decls ∧
    ∀ path i arg, Arg.at? args (path ++ [i]) = some arg →
      arg.place.depth = path.length ∧ arg.place.index = i ∧
        arg.field = arg.name ++ Place.suffixOf path.reverse := by
  intro args
  refine ⟨?accepted, ArgDecl.declsOf_placedFrom [] 0 decls, ?placed⟩
  case placed =>
    intro path i arg harg
    obtain ⟨hindex, henclosing⟩ := ArgDecl.placedFrom_at? harg
    rw [List.append_nil] at henclosing
    refine ⟨?_, hindex, ?_⟩
    · rw [Place.depth, henclosing, List.length_reverse]
    · rw [Arg.field, Place.field, Place.suffix, henclosing]
      rfl
  case accepted =>
    intro spec
    rw [build_eq_ok_iff, isIdentifier_iff, isSamplingFraction_iff, checkTop_reserved_iff]
    constructor
    · rintro ⟨hname, hsampling, hsingle, hring, ⟨hnames, hlengths, ⟨htree, houtside⟩, hfields,
        hunreserved⟩, hspec⟩
      -- with at most one long text, the ring is checked if there is any
      rw [longTexts_length_eq_one_iff hsingle] at hring
      rw [longTexts_length] at hsingle
      exact ⟨⟨hname, hsampling, htree, hsingle, houtside, fun arg harg hlong =>
        hring ⟨arg, harg, hlong⟩, hlengths, hnames, hfields, hunreserved⟩, hspec⟩
    · rintro ⟨h, hspec⟩
      have hsingle : (longTexts args).length ≤ 1 := longTexts_length args ▸ h.single
      refine ⟨h.name, h.sampling, hsingle, ?_, ⟨h.names, h.lengths, ⟨h.tree, h.outside⟩, h.fields,
        h.unreserved⟩, hspec⟩
      rw [longTexts_length_eq_one_iff hsingle]
      rintro ⟨arg, harg, hlong⟩
      exact h.ring arg harg hlong

/-- A number, an unnamed structure with an unnamed text in it, and a long text of the length
that the number gives. -/
def mixedDecls : List ArgDecl :=
  [.leaf (some "len") .long, .struct none [.leaf none (.text 3)],
    .leaf (some "doc") (.longText (some 0))]

/-- The unnamed text is at depth 1, the first in the structure of index 1. -/
theorem build_mixed :
    WellFormed "p" (ArgDecl.placedFrom [] 0 mixedDecls) ⟨0.5, 2, 4⟩ ∧
    ∃ arg, Arg.at? (ArgDecl.placedFrom [] 0 mixedDecls) [1, 0] = some arg ∧
      arg.place.depth = 1 ∧ arg.field = "arg_1_0_1" := by
  obtain ⟨haccepted, -, hplaced⟩ := build_iff_wellFormed "p" mixedDecls ⟨0.5, 2, 4⟩
  refine ⟨((haccepted _).1 rfl).1, _, rfl, ?_⟩
  obtain ⟨hdepth, -, hfield⟩ := hplaced [1] 0 _ rfl
  exact ⟨hdepth, hfield⟩

end ProbeSpec
end ProbeTrace
