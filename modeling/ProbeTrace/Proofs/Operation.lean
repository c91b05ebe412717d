import ProbeTrace.Operation
import ProbeTrace.Proofs.Keyed

/-!
# Operations under way

An arena keeps one operation for each handle, and none of them has seen a closing
hit. They are listed by the time at which they began, those of one time by their
handles, so the listing does not depend on how they are kept.
-/

set_option autoImplicit false

namespace ProbeTrace

instance strictTotalOrderUInt64 : IsStrictTotalOrder UInt64 (· < ·) where
  trichotomous _ _ hab hba := UInt64.le_antisymm (UInt64.not_lt.1 hba) (UInt64.not_lt.1 hab)
  irrefl := UInt64.lt_irrefl
  trans _ _ _ := UInt64.lt_trans

def Hit.handle? (key : String) (hit : Hit) : Option UInt64 :=
  (hit.arg? key).bind Value.asUInt64?

/-- The hits that carry a handle, in order. -/
def ofHandle (key : String) (handle : UInt64) (hits : List Hit) : List Hit :=
  hits.filter fun hit => hit.handle? key = some handle

theorem ofHandle_append (key : String) (handle : UInt64) (a b : List Hit) :
    ofHandle key handle (a ++ b) = ofHandle key handle a ++ ofHandle key handle b :=
  List.filter_append a b

namespace Operation

def last (operation : Operation) : Hit :=
  operation.hits.getLast (List.cons_ne_nil _ _)

theorem dropLast_concat_last (operation : Operation) :
    operation.hits.dropLast ++ [operation.last] = operation.hits :=
  List.dropLast_concat_getLast _

theorem firstNs_eq (operation : Operation) :
    (operation.hits.map Hit.ns).min? = some operation.firstNs := by
  rw [hits, List.map_cons, List.min?_cons', firstNs, List.foldl_map]

/-- Whether an operation begins before another, or at the same time with a smaller handle. -/
def Before (a b : Operation) : Prop :=
  ∃ s t, (a.hits.map Hit.ns).min? = some s ∧ (b.hits.map Hit.ns).min? = some t ∧
    (s < t ∨ s = t ∧ a.handle < b.handle)

theorem precedes_iff {a b : Operation} :
    a.precedes b ↔ a.firstNs < b.firstNs ∨ a.firstNs = b.firstNs ∧ a.handle ≤ b.handle := by
  simp [precedes]

theorem precedes_trans (a b c : Operation) (hab : a.precedes b) (hbc : b.precedes c) :
    a.precedes c := by
  rw [precedes_iff] at *
  rcases hab with hab | ⟨hab, hhandle⟩ <;> rcases hbc with hbc | ⟨hbc, hhandle'⟩
  · exact .inl (Nat.lt_trans hab hbc)
  · exact .inl (hbc ▸ hab)
  · exact .inl (hab ▸ hbc)
  · exact .inr ⟨hab.trans hbc, UInt64.le_trans hhandle hhandle'⟩

theorem precedes_total (a b : Operation) : a.precedes b || b.precedes a := by
  rw [Bool.or_eq_true, precedes_iff, precedes_iff]
  rcases Nat.lt_trichotomy a.firstNs b.firstNs with hlt | heq | hgt
  · exact .inl (.inl hlt)
  · rcases UInt64.le_total a.handle b.handle with hle | hge
    · exact .inl (.inr ⟨heq, hle⟩)
    · exact .inr (.inr ⟨heq.symm, hge⟩)
  · exact .inr (.inl hgt)

theorem precedes_antisymm {a b : Operation} (hab : a.precedes b) (hba : b.precedes a) :
    a.handle = b.handle := by
  rw [precedes_iff] at hab hba
  rcases hab with hab | ⟨hab, hhandle⟩ <;> rcases hba with hba | ⟨hba, hhandle'⟩
  · omega
  · omega
  · omega
  · exact UInt64.le_antisymm hhandle hhandle'

theorem Before.of_precedes {a b : Operation} (h : a.precedes b) (hne : a.handle ≠ b.handle) :
    a.Before b := by
  refine ⟨_, _, a.firstNs_eq, b.firstNs_eq, ?_⟩
  rcases precedes_iff.1 h with hlt | ⟨heq, hle⟩
  · exact .inl hlt
  · exact .inr ⟨heq, UInt64.lt_of_le_of_ne hle hne⟩

/-- The hits of the operations of one handle, one operation after the other. -/
def hitsUnder (handle : UInt64) (operations : List Operation) : List Hit :=
  (operations.filter fun operation => operation.handle = handle).flatMap hits

theorem hitsUnder_append (handle : UInt64) (a b : List Operation) :
    hitsUnder handle (a ++ b) = hitsUnder handle a ++ hitsUnder handle b := by
  simp [hitsUnder]

end Operation

namespace Arena

theorem handle?_eq (arena : Arena) (hit : Hit) : arena.handle? hit = hit.handle? arena.key :=
  rfl

/-- The hits of a handle that are under way. -/
def pending (arena : Arena) (handle : UInt64) : List Hit :=
  ((arena.get? handle).map Operation.hits).getD []

/-- The operation of a handle together with a further hit. -/
def joined (arena : Arena) (handle : UInt64) (hit : Hit) : Operation :=
  match arena.get? handle with
  | some operation => operation.add hit
  | none => ⟨handle, hit, []⟩

/-- Operations stand under their handles, in order, and none has seen a closing hit. -/
structure Sound (closeOn : List String) (arena : Arena) : Prop where
  sorted : arena.operations.Sorted
  filed : ∀ handle operation, arena.get? handle = some operation →
    operation.handle = handle ∧ ∀ hit ∈ operation.hits, hit.probe ∉ closeOn

theorem empty_sound (closeOn : List String) (key : String) : (empty key).Sound closeOn :=
  ⟨.nil, fun _ _ h => nomatch h⟩

theorem empty_pending (key : String) (handle : UInt64) : (empty key).pending handle = [] :=
  rfl

theorem joined_hits (arena : Arena) (handle : UInt64) (hit : Hit) :
    (arena.joined handle hit).hits = arena.pending handle ++ [hit] := by
  unfold joined pending
  cases arena.get? handle <;> rfl

theorem joined_last (arena : Arena) (handle : UInt64) (hit : Hit) :
    (arena.joined handle hit).last = hit := by
  simp [Operation.last, joined_hits]

theorem get?_erase (arena : Arena) (handle other : UInt64) :
    (arena.erase handle).get? other = if handle = other then none else arena.get? other :=
  Keyed.get?_erase handle other arena.operations

variable {closeOn : List String} {arena : Arena}

theorem Sound.joined_handle (h : arena.Sound closeOn) (handle : UInt64) (hit : Hit) :
    (arena.joined handle hit).handle = handle := by
  unfold joined
  cases hget : arena.get? handle with
  | none => rfl
  | some operation => exact (h.filed handle operation hget).1

theorem Sound.get?_record (h : arena.Sound closeOn) (handle other : UInt64) (hit : Hit) :
    (arena.record handle hit).get? other =
      if handle = other then some (arena.joined handle hit) else arena.get? other := by
  rw [get?, record, h.sorted.get?_update]
  unfold joined get?
  cases Keyed.get? handle arena.operations <;> rfl

theorem Sound.pending_unclosed (h : arena.Sound closeOn) (handle : UInt64) :
    ∀ hit ∈ arena.pending handle, hit.probe ∉ closeOn := by
  intro hit hhit
  cases hget : arena.get? handle with
  | none => simp [pending, hget] at hhit
  | some operation =>
    simp only [pending, hget, Option.map_some, Option.getD_some] at hhit
    exact (h.filed handle operation hget).2 hit hhit

theorem Sound.mem_values (h : arena.Sound closeOn) {operation : Operation} :
    operation ∈ arena.operations.values ↔ arena.get? operation.handle = some operation := by
  constructor
  · intro hmem
    obtain ⟨entry, hentry, rfl⟩ := List.mem_map.1 hmem
    have hget : arena.get? entry.1 = some entry.2 := h.sorted.mem_iff.1 hentry
    rw [(h.filed _ _ hget).1, hget]
  · intro hget
    have hentry : (operation.handle, operation) ∈ arena.operations := h.sorted.mem_iff.2 hget
    exact List.mem_map_of_mem hentry

theorem Sound.handles (h : arena.Sound closeOn) :
    arena.operations.values.map Operation.handle = Keyed.keys arena.operations := by
  rw [Keyed.values, Keyed.keys, List.map_map]
  apply List.map_congr_left
  intro entry hentry
  exact (h.filed _ _ (h.sorted.mem_iff.1 hentry)).1

theorem outstanding_perm (arena : Arena) : arena.outstanding.Perm arena.operations.values :=
  List.mergeSort_perm _ _

theorem Sound.outstanding_handles (h : arena.Sound closeOn) :
    arena.outstanding.Pairwise fun a b => a.handle ≠ b.handle := by
  have hnodup : (arena.outstanding.map Operation.handle).Nodup := by
    rw [(arena.outstanding_perm.map Operation.handle).nodup_iff, h.handles]
    exact h.sorted.keys_nodup
  exact List.pairwise_map.1 hnodup

theorem Sound.outstanding_before (h : arena.Sound closeOn) :
    arena.outstanding.Pairwise Operation.Before := by
  have hsorted : arena.outstanding.Pairwise fun a b => a.precedes b :=
    List.pairwise_mergeSort Operation.precedes_trans Operation.precedes_total _
  exact (hsorted.and h.outstanding_handles).imp fun hab => .of_precedes hab.1 hab.2

/-- Operations come out in one order, however they are listed before. -/
theorem Sound.sort_listing (h : arena.Sound closeOn) {listing : List Operation}
    (hlisting : listing.Perm arena.operations.values) :
    listing.mergeSort Operation.precedes = arena.outstanding := by
  have hsorted : ∀ operations : List Operation,
      (operations.mergeSort Operation.precedes).Pairwise fun a b => a.precedes b :=
    List.pairwise_mergeSort Operation.precedes_trans Operation.precedes_total
  have hperm : (listing.mergeSort Operation.precedes).Perm arena.outstanding :=
    (List.mergeSort_perm _ _).trans (hlisting.trans arena.outstanding_perm.symm)
  refine List.Perm.eq_of_pairwise ?_ (hsorted listing) (hsorted _) hperm
  intro a b ha hb hab hba
  have hhandle := Operation.precedes_antisymm hab hba
  have hgeta := h.mem_values.1 (arena.outstanding_perm.mem_iff.1 (hperm.mem_iff.1 ha))
  have hgetb := h.mem_values.1 (arena.outstanding_perm.mem_iff.1 hb)
  rw [hhandle, hgetb] at hgeta
  exact (Option.some.inj hgeta).symm

theorem Sound.outstanding_ofHandle (h : arena.Sound closeOn) (handle : UInt64) :
    (arena.outstanding.filter fun operation => operation.handle = handle) =
      (arena.get? handle).toList := by
  have hnodup : arena.outstanding.Nodup :=
    h.outstanding_handles.imp fun hne heq => hne (congrArg Operation.handle heq)
  have hperm : (arena.outstanding.filter fun operation => operation.handle = handle).Perm
      (arena.get? handle).toList := by
    apply (List.perm_ext_iff_of_nodup (hnodup.filter _) ?_).2
    · intro operation
      rw [List.mem_filter, arena.outstanding_perm.mem_iff, h.mem_values, decide_eq_true_eq,
        Option.mem_toList]
      constructor
      · rintro ⟨hget, rfl⟩
        exact hget
      · intro hget
        have hhandle := (h.filed handle operation hget).1
        exact ⟨hhandle.symm ▸ hget, hhandle⟩
    · cases arena.get? handle <;> simp
  cases hget : arena.get? handle with
  | none =>
    rw [hget] at hperm
    exact hperm.eq_nil
  | some operation =>
    rw [hget] at hperm
    exact hperm.eq_singleton

theorem Sound.outstanding_hitsUnder (h : arena.Sound closeOn) (handle : UInt64) :
    Operation.hitsUnder handle arena.outstanding = arena.pending handle := by
  rw [Operation.hitsUnder, h.outstanding_ofHandle, pending]
  cases arena.get? handle <;> simp

theorem Sound.outstanding_eq_nil_iff (h : arena.Sound closeOn) :
    arena.outstanding = [] ↔ ∀ handle, arena.pending handle = [] := by
  constructor
  · intro hnil handle
    rw [← h.outstanding_hitsUnder, hnil]
    rfl
  · intro hpending
    apply List.eq_nil_iff_forall_not_mem.2
    intro operation hmem
    have hget := h.mem_values.1 (arena.outstanding_perm.mem_iff.1 hmem)
    have hnone := hpending operation.handle
    rw [pending, hget] at hnone
    cases hnone

theorem eq_empty_of_outstanding (h : arena.outstanding = []) : arena = empty arena.key := by
  obtain ⟨key, operations⟩ := arena
  have hvalues : Keyed.values operations = [] := by
    have hperm := outstanding_perm ⟨key, operations⟩
    rw [h] at hperm
    exact hperm.nil_eq.symm
  rw [List.map_eq_nil_iff.1 hvalues]
  rfl

theorem Sound.record (h : arena.Sound closeOn) {handle : UInt64} {hit : Hit}
    (hopen : hit.probe ∉ closeOn) : (arena.record handle hit).Sound closeOn := by
  refine ⟨h.sorted.update handle _, ?_⟩
  intro other operation hget
  rw [h.get?_record] at hget
  by_cases hother : handle = other
  · rw [if_pos hother, Option.some.injEq] at hget
    subst hget
    refine ⟨(h.joined_handle handle hit).trans hother, ?_⟩
    intro seen hseen
    rw [joined_hits, List.mem_append, List.mem_singleton] at hseen
    rcases hseen with hseen | rfl
    · exact h.pending_unclosed handle seen hseen
    · exact hopen
  · rw [if_neg hother] at hget
    exact h.filed other operation hget

theorem Sound.complete (h : arena.Sound closeOn) (handle : UInt64) (hit : Hit) :
    ((arena.record handle hit).erase handle).Sound closeOn := by
  refine ⟨(h.sorted.update handle _).erase handle, ?_⟩
  intro other operation hget
  rw [get?_erase, h.get?_record] at hget
  by_cases hother : handle = other
  · simp [hother] at hget
  · rw [if_neg hother, if_neg hother] at hget
    exact h.filed other operation hget

end Arena

end ProbeTrace
