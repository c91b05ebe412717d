import ProbeTrace.Proofs.Keyed
import ProbeTrace.Proofs.Outcome
import ProbeTrace.Proofs.Probe.Paths
import ProbeTrace.Record.Decoder

/-!
# Shape of decoded arguments

Decoded values have the shape of the declaration when every structure, and the
hit itself, holds one value for each member under the name of that member. Values
of siblings with one name take each other's place, so this is so exactly when no
two arguments share a path.
-/

set_option autoImplicit false

namespace ProbeTrace

open Outcome

section Mirrors

variable (read read' : Place → Leaf → Value → Prop)

mutual
/-- A value has the shape of an argument, with the right values for the leaves. -/
def Mirrors : Arg → Value → Prop
  | .leaf place kind, value => read place kind value
  | .struct _ members, value => ∃ entries, value = .struct entries ∧
      (Keyed.keys entries).Perm (members.map Arg.name) ∧ MirrorsEach members entries

def MirrorsEach : List Arg → Keyed String Value → Prop
  | [], _ => True
  | arg :: rest, entries =>
    (∃ value, Keyed.get? arg.name entries = some value ∧ Mirrors arg value) ∧
      MirrorsEach rest entries
end

/-- One entry for each of the arguments, with its name and its shape. -/
def MirrorsAll (args : List Arg) (entries : Keyed String Value) : Prop :=
  (Keyed.keys entries).Perm (args.map Arg.name) ∧ MirrorsEach read args entries

variable {read read'}

theorem mirrorsEach_iff {args : List Arg} {entries : Keyed String Value} :
    MirrorsEach read args entries ↔
      ∀ arg ∈ args, ∃ value, Keyed.get? arg.name entries = some value ∧ Mirrors read arg value := by
  induction args with
  | nil => simp [MirrorsEach]
  | cons arg rest ih => simp [MirrorsEach, ih]

mutual
/-- Only the leaves below an argument matter. -/
theorem mirrors_congr : (arg : Arg) →
    (∀ leaf ∈ arg.leaves, ∀ value, read leaf.1 leaf.2 value ↔ read' leaf.1 leaf.2 value) →
    ∀ value, Mirrors read arg value ↔ Mirrors read' arg value
  | .leaf place kind, h, value => by
    rw [Mirrors, Mirrors]
    exact h (place, kind) List.mem_cons_self value
  | .struct place members, h, value => by
    simp only [Mirrors, mirrorsEach_congr members h]

theorem mirrorsEach_congr : (args : List Arg) →
    (∀ leaf ∈ Arg.leavesOf args, ∀ value, read leaf.1 leaf.2 value ↔ read' leaf.1 leaf.2 value) →
    ∀ entries, MirrorsEach read args entries ↔ MirrorsEach read' args entries
  | [], _, _ => Iff.rfl
  | arg :: rest, h, entries => by
    have harg := mirrors_congr arg fun leaf hleaf => h leaf (List.mem_append_left _ hleaf)
    have hrest := mirrorsEach_congr rest fun leaf hleaf => h leaf (List.mem_append_right _ hleaf)
    simp only [MirrorsEach, harg, hrest]
end

end Mirrors

namespace RecordDecoder

variable {decoder : RecordDecoder} {data : Bytes}

variable (decoder data) in
/-- The value an argument is decoded to, if it is decoded. -/
def argValue (arg : Arg) : Value :=
  (decoder.decodeArg data arg).toOption.getD default

theorem argValue_eq {arg : Arg} {value : Value} (h : decoder.decodeArg data arg = .ok value) :
    decoder.argValue data arg = value := by
  rw [argValue, h]
  rfl

/-- The values are decoded one by one and entered under their names. -/
theorem decodeArgs_eq_insertAll {args : List Arg} {done entries : Keyed String Value}
    (h : decoder.decodeArgs data args done = .ok entries) :
    (∀ arg ∈ args, decoder.decodeArg data arg = .ok (decoder.argValue data arg)) ∧
      entries = Keyed.insertAll (args.map fun arg => (arg.name, decoder.argValue data arg)) done := by
  induction args generalizing done with
  | nil =>
    rw [decodeArgs] at h
    cases h
    exact ⟨fun arg harg => absurd harg List.not_mem_nil, rfl⟩
  | cons arg rest ih =>
    rw [decodeArgs] at h
    obtain ⟨value, harg, hrest⟩ := bind_eq_ok_iff.1 h
    obtain ⟨hvalues, hentries⟩ := ih hrest
    refine ⟨List.forall_mem_cons.2 ⟨?_, hvalues⟩, ?_⟩
    · rw [argValue_eq harg, harg]
    · rw [List.map_cons, argValue_eq harg, Keyed.insertAll_cons]
      exact hentries

variable (decoder data) in
def Decoded (place : Place) (kind : Leaf) (value : Value) : Prop :=
  decoder.decodeLeaf data place kind = .ok value

/-- One level: the members keep their shape, and none takes another's place. -/
theorem mirrorsAll_iff_of_members {args : List Arg} {entries : Keyed String Value}
    (hmembers : ∀ arg ∈ args, ∀ value, decoder.decodeArg data arg = .ok value →
      (Mirrors (decoder.Decoded data) arg value ↔ (Arg.pathsOf arg.members).Nodup))
    (h : decoder.decodeArgs data args [] = .ok entries) :
    MirrorsAll (decoder.Decoded data) args entries ↔ (Arg.pathsOf args).Nodup := by
  obtain ⟨hvalues, rfl⟩ := decodeArgs_eq_insertAll h
  have hnames : (args.map fun arg => (arg.name, decoder.argValue data arg)).map Prod.fst =
      args.map Arg.name :=
    List.map_map
  have hperm := Keyed.keys_insertAll_perm_iff
    (args.map fun arg => (arg.name, decoder.argValue data arg))
  rw [hnames] at hperm
  rw [MirrorsAll, mirrorsEach_iff, Arg.pathsOf_nodup_iff, hperm]
  -- With different names each member is found with its own value.
  refine and_congr_right fun hnodup => forall₂_congr fun arg harg => ?_
  have hfound := Keyed.Sorted.get?_insertAll .nil (hnames ▸ hnodup)
    (List.mem_map_of_mem (f := fun arg => (arg.name, decoder.argValue data arg)) harg)
  rw [← hmembers arg harg _ (hvalues arg harg)]
  simp [hfound]

mutual
/-- Decoding keeps the shape of what is below an argument exactly when paths differ there. -/
theorem mirrors_iff : (arg : Arg) → ∀ value, decoder.decodeArg data arg = .ok value →
    (Mirrors (decoder.Decoded data) arg value ↔ (Arg.pathsOf arg.members).Nodup)
  | .leaf place kind, value, h => by
    rw [decodeArg] at h
    exact iff_of_true h .nil
  | .struct place members, value, h => by
    rw [decodeArg] at h
    cases hentries : decoder.decodeArgs data members [] with
    | error e =>
      rw [hentries] at h
      cases h
    | ok entries =>
      rw [hentries] at h
      cases h
      rw [Arg.members, ← mirrorsAll_iff_of_members (mirrors_iff_of_mem members) hentries]
      simp [Mirrors, MirrorsAll]

theorem mirrors_iff_of_mem : (args : List Arg) → ∀ arg ∈ args, ∀ value,
    decoder.decodeArg data arg = .ok value →
    (Mirrors (decoder.Decoded data) arg value ↔ (Arg.pathsOf arg.members).Nodup)
  | first :: rest, arg, harg, value, h => by
    rcases List.mem_cons.1 harg with heq | harg
    · rw [heq] at h ⊢
      exact mirrors_iff first value h
    · exact mirrors_iff_of_mem rest arg harg value h
end

end RecordDecoder
end ProbeTrace
