import ProbeTrace.Proofs.Keyed
import ProbeTrace.Proofs.Probe.Tree
import ProbeTrace.Proofs.Record.Reading
import ProbeTrace.Stats.Summary

/-!
# Payloads of a hit

What became of a payload is one value: a document, raw bytes, bytes without the
form they should have, or a fault. The statistics count such values wherever they
stand. A decoded record has one of them if its description has a long text, and
none otherwise.
-/

set_option autoImplicit false

namespace ProbeTrace

namespace Keyed

variable {κ α : Type} [LT κ] [DecidableLT κ] [DecidableEq κ]

theorem mem_insert {k : κ} {a : α} {map : Keyed κ α} {entry : κ × α}
    (h : entry ∈ insert k a map) : entry = (k, a) ∨ entry ∈ map := by
  induction map with
  | nil => exact .inl (List.mem_singleton.1 h)
  | cons first rest ih =>
    obtain ⟨key, b⟩ := first
    rw [insert, update] at h
    split at h
    · rename_i hk
      rcases List.mem_cons.1 h with rfl | hrest
      · exact .inl (by rw [hk])
      · exact .inr (List.mem_cons_of_mem _ hrest)
    · split at h
      · exact List.mem_cons.1 h
      · rcases List.mem_cons.1 h with rfl | hrest
        · exact .inr List.mem_cons_self
        · exact (ih hrest).imp_right (List.mem_cons_of_mem _)

/-- At a key that is not in use, inserting adds an entry and keeps all others. -/
theorem insert_perm {k : κ} {map : Keyed κ α} (h : k ∉ keys map) (a : α) :
    (insert k a map).Perm ((k, a) :: map) := by
  induction map with
  | nil => exact .refl _
  | cons first rest ih =>
    obtain ⟨key, b⟩ := first
    have hkey : key ≠ k := fun heq => h (heq ▸ List.mem_cons_self)
    have hrest : k ∉ keys rest := fun hmem => h (List.mem_cons_of_mem _ hmem)
    rw [insert, update, if_neg hkey]
    split
    · exact .refl _
    · exact ((ih hrest).cons _).trans (.swap _ _ _)

end Keyed

namespace Value

/-- Whether a value says what became of a payload. -/
def isPayload : Value → Bool
  | .transfer _ | .malformed _ | .document _ | .bytes _ => true
  | .int _ | .uint _ | .pointer _ | .text _ | .struct _ => false

mutual
/-- The values at every depth that are not structures. -/
def parts : Value → List Value
  | .struct members => partsOf members
  | value => [value]

def partsOf : List (String × Value) → List Value
  | [] => []
  | (_, value) :: rest => parts value ++ partsOf rest
end

theorem partsOf_eq (members : List (String × Value)) :
    partsOf members = members.flatMap fun member => member.2.parts := by
  induction members with
  | nil => rfl
  | cons member rest ih => rw [partsOf, ih, List.flatMap_cons]

mutual
/-- Each payload counts as one outcome, and nothing else does. -/
theorem outcomes_length : (value : Value) →
    (outcomes value).length = (parts value).countP isPayload
  | .transfer _ | .malformed _ | .document _ | .bytes _ => rfl
  | .int _ | .uint _ | .pointer _ | .text _ => rfl
  | .struct members => by rw [outcomes, parts, memberOutcomes_length members]

theorem memberOutcomes_length : (members : List (String × Value)) →
    (memberOutcomes members).length = (partsOf members).countP isPayload
  | [] => rfl
  | (name, value) :: rest => by
    rw [memberOutcomes, partsOf, List.length_append, List.countP_append, outcomes_length value,
      memberOutcomes_length rest]
end

end Value

/-- The values of a hit, at every depth, that say what became of a payload. -/
def Hit.payloads (hit : Hit) : List Value :=
  (Value.partsOf hit.args).filter Value.isPayload

theorem Hit.outcomes_length (hit : Hit) :
    (Value.memberOutcomes hit.args).length = hit.payloads.length := by
  rw [Value.memberOutcomes_length, List.countP_eq_length_filter, payloads]

namespace RecordDecoder

open Value RecordLayout

theorem longText_parts (decoder : RecordDecoder) (framing : Framing) (length : Int) (first : Nat) :
    ∃ value, value.isPayload ∧ (decoder.longText framing length first).parts = [value] := by
  unfold longText payloadValue
  split
  · exact ⟨_, rfl, rfl⟩
  · split
    · exact ⟨_, rfl, rfl⟩
    · split
      · exact ⟨_, rfl, rfl⟩
      · split
        · exact ⟨_, rfl, rfl⟩
        · split <;> exact ⟨_, rfl, rfl⟩

variable {decoder : RecordDecoder} {data : Bytes}

theorem leafAt_payloads (offset : Nat) (kind : Leaf) :
    (decoder.leafAt data offset kind).parts.countP isPayload = kind.isLongText.toNat := by
  cases kind with
  | longText lengthArg =>
    obtain ⟨value, hvalue, hparts⟩ := longText_parts decoder (framingOf lengthArg)
      (data.signedAt offset 4) (data.wordAt (offset + 4) 4)
    rw [leafAt, hparts, List.countP_singleton, if_pos hvalue]
    rfl
  | _ => rfl

mutual
theorem argAt_silent : (arg : Arg) → (∀ inner ∈ arg.all, inner.isLongText = false) →
    ∀ offset, ∀ part ∈ (argAt decoder data offset arg).parts, ¬ part.isPayload
  | .leaf place kind, h, offset => by
    have hkind : kind.isLongText = false := h _ List.mem_cons_self
    rw [argAt, ← List.countP_eq_zero, leafAt_payloads, hkind]
    rfl
  | .struct place members, h, offset => by
    rw [argAt, parts]
    exact argsAt_silent members (fun inner hinner => h inner (List.mem_cons_of_mem _ hinner))
      offset [] nofun

theorem argsAt_silent : (args : List Arg) →
    (∀ inner ∈ Arg.allOf args, inner.isLongText = false) → ∀ offset done,
      (∀ part ∈ partsOf done, ¬ part.isPayload) →
      ∀ part ∈ partsOf (argsAt decoder data offset args done), ¬ part.isPayload
  | [], _, _, done, hdone => hdone
  | arg :: rest, h, offset, done, hdone => by
    rw [Arg.allOf, List.forall_mem_append] at h
    have harg := argAt_silent arg h.1 offset
    rw [argsAt]
    apply argsAt_silent rest h.2
    intro part hpart
    rw [partsOf_eq] at hpart
    obtain ⟨entry, hentry, hmem⟩ := List.mem_flatMap.1 hpart
    -- an earlier value may be gone, but nothing else comes in
    rcases Keyed.mem_insert hentry with rfl | hold
    · exact harg part hmem
    · exact hdone part (partsOf_eq done ▸ List.mem_flatMap.2 ⟨entry, hold, hmem⟩)
end

/-- A top-level argument has a payload exactly if it is a long text: structures have none
in them. -/
theorem argAt_payloads {arg : Arg} (h : arg.WellFormed) (offset : Nat) :
    (argAt decoder data offset arg).parts.countP isPayload = arg.isLongText.toNat := by
  cases arg with
  | leaf place kind => exact leafAt_payloads offset kind
  | struct place members =>
    rw [Arg.WellFormed, Arg.anyLongText_eq_false_iff] at h
    rw [argAt, parts]
    exact List.countP_eq_zero.2 (argsAt_silent members h.2.2.1 offset [] nofun)

/-- Arguments of different names do not take each other's payloads. -/
theorem argsAt_payloads (args : List Arg) (h : Arg.AllWellFormed args)
    (hnodup : (args.map Arg.name).Nodup) (offset : Nat) (done : Keyed String Value)
    (hfresh : ∀ arg ∈ args, arg.name ∉ Keyed.keys done) :
    (partsOf (argsAt decoder data offset args done)).countP isPayload =
      (partsOf done).countP isPayload + args.countP Arg.isLongText := by
  induction args generalizing offset done with
  | nil => rfl
  | cons arg rest ih =>
    obtain ⟨harg, hrest⟩ := h
    obtain ⟨hname, hnames⟩ := List.nodup_cons.1 hnodup
    obtain ⟨hnew, hlater⟩ := List.forall_mem_cons.1 hfresh
    -- under a new name the value stands beside the earlier ones and replaces none
    have hinsert := Keyed.insert_perm hnew (argAt decoder data offset arg)
    have hcount : (partsOf (Keyed.insert arg.name (argAt decoder data offset arg) done)).countP
        isPayload = arg.isLongText.toNat + (partsOf done).countP isPayload := by
      rw [partsOf_eq, (hinsert.flatMap_right _).countP_eq, List.flatMap_cons, List.countP_append,
        ← partsOf_eq, argAt_payloads harg]
    rw [argsAt, ih hrest hnames, hcount, List.countP_cons]
    · rw [Nat.add_comm arg.isLongText.toNat, Nat.add_assoc, Nat.add_comm (rest.countP _)]
      cases arg.isLongText <;> rfl
    · intro later hmem hkey
      rcases Keyed.mem_keys_update.1 hkey with heq | hold
      · exact hname (heq ▸ List.mem_map_of_mem hmem)
      · exact hlater later hmem hold

/-- A decoded hit has one payload if its description has a long text, and none else. -/
theorem decode_payloads (h : decoder.spec.Accepted) {cpu : Int} {hit : Hit}
    (hhit : decoder.decode cpu data = .ok hit) :
    hit.payloads.length = decoder.spec.longText?.isSome.toNat := by
  obtain ⟨-, rfl⟩ := (decode_eq_ok_iff h cpu).1 hhit
  have hcount : (decoder.hitAt data cpu).payloads.length =
      decoder.spec.args.countP Arg.isLongText := by
    rw [Hit.payloads, ← List.countP_eq_length_filter]
    exact (argsAt_payloads decoder.spec.args h.wellFormed h.names_nodup headerSize [] nofun).trans
      (Nat.zero_add _)
  rw [hcount, ← ProbeSpec.longTexts_length, h.longTexts_length]

end RecordDecoder
end ProbeTrace
