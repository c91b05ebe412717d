import Mathlib.Data.List.Nodup
import Mathlib.Data.List.Perm.Basic
import Mathlib.Data.String.Basic
import Mathlib.Order.RelClasses
import ProbeTrace.Keyed

/-!
# Laws of keyed lists

A keyed list in increasing order of its keys is a finite map: an update changes
what is found at its own key only, and the order survives it.
-/

set_option autoImplicit false

namespace ProbeTrace.Keyed

variable {κ α : Type}

theorem mem_keys_iff_isSome [DecidableEq κ] {k : κ} {map : Keyed κ α} :
    k ∈ keys map ↔ (get? k map).isSome := by
  induction map with
  | nil => simp [keys, get?]
  | cons entry rest ih =>
    obtain ⟨key, a⟩ := entry
    by_cases hk : key = k
    · simp [keys, get?, hk]
    · simp only [get?, if_neg hk, ← ih]
      simp [keys, Ne.symm hk]

theorem get?_map [DecidableEq κ] {β : Type} (f : α → β) (k : κ) (map : Keyed κ α) :
    get? k (map.map fun entry => (entry.1, f entry.2)) = (get? k map).map f := by
  induction map with
  | nil => rfl
  | cons entry rest ih =>
    obtain ⟨key, a⟩ := entry
    by_cases hk : key = k <;> simp [get?, hk, ih]

theorem get?_erase [DecidableEq κ] (k j : κ) (map : Keyed κ α) :
    get? j (erase k map) = if k = j then none else get? j map := by
  induction map with
  | nil => by_cases h : k = j <;> simp [erase, get?, h]
  | cons entry rest ih =>
    obtain ⟨key, a⟩ := entry
    by_cases hk : key = k
    · subst hk
      by_cases hj : key = j <;> simpa [erase, get?, hj] using ih
    · by_cases hj : key = j
      · subst hj
        simp [erase, get?, hk, Ne.symm hk]
      · simpa [erase, get?, hk, hj] using ih

/-- An entry is found if no other entry has its key. -/
theorem get?_eq_some_iff [DecidableEq κ] {k : κ} {a : α} {map : Keyed κ α}
    (h : (keys map).Nodup) : get? k map = some a ↔ (k, a) ∈ map := by
  induction map with
  | nil => simp [get?]
  | cons entry rest ih =>
    obtain ⟨key, b⟩ := entry
    obtain ⟨hfirst, hrest⟩ := List.nodup_cons.1 h
    by_cases hk : key = k
    · subst hk
      have hnot : (key, a) ∉ rest := fun hmem =>
        hfirst (List.mem_map.2 ⟨_, hmem, rfl⟩)
      simp [get?, hnot, eq_comm]
    · simp [get?, hk, Ne.symm hk, ih hrest]

/-- If the keys differ, their order does not matter to what is found. -/
theorem get?_perm [DecidableEq κ] {a b : Keyed κ α} (hperm : a.Perm b) (h : (keys a).Nodup)
    (k : κ) : get? k a = get? k b := by
  have hkeys : (keys b).Nodup := (hperm.map Prod.fst).nodup h
  apply Option.ext
  intro value
  rw [get?_eq_some_iff h, get?_eq_some_iff hkeys, hperm.mem_iff]

theorem get?_filter [DecidableEq κ] (p : α → Bool) {map : Keyed κ α} (h : (keys map).Nodup)
    (k : κ) : get? k (map.filter fun entry => p entry.2) = (get? k map).filter p := by
  apply Option.ext
  intro a
  have hkeys : (keys (map.filter fun entry => p entry.2)).Nodup :=
    h.sublist (List.filter_sublist.map Prod.fst)
  rw [get?_eq_some_iff hkeys, List.mem_filter, Option.filter_eq_some_iff, get?_eq_some_iff h]

variable [LT κ]

def Sorted (map : Keyed κ α) : Prop :=
  map.Pairwise fun a b => a.1 < b.1

theorem Sorted.keys_nodup [IsStrictTotalOrder κ (· < ·)] {map : Keyed κ α} (h : Sorted map) :
    (keys map).Nodup := by
  rw [keys, List.Nodup, List.pairwise_map]
  apply h.imp
  intro a b hlt heq
  exact irrefl_of (· < ·) b.1 (heq ▸ hlt)

theorem Sorted.map {β : Type} {map : Keyed κ α} (h : Sorted map) (f : α → β) :
    Sorted (map.map fun entry => (entry.1, f entry.2)) :=
  List.pairwise_map.2 h

variable [DecidableEq κ]

theorem Sorted.erase {map : Keyed κ α} (h : Sorted map) (k : κ) : Sorted (erase k map) :=
  List.Pairwise.sublist List.filter_sublist h

theorem Sorted.mem_iff [IsStrictTotalOrder κ (· < ·)] {map : Keyed κ α} (h : Sorted map)
    {entry : κ × α} : entry ∈ map ↔ get? entry.1 map = some entry.2 :=
  (get?_eq_some_iff h.keys_nodup).symm

/-- Maps in order are equal when they hold the same at every key. -/
theorem Sorted.ext [IsStrictTotalOrder κ (· < ·)] {a b : Keyed κ α} (ha : Sorted a)
    (hb : Sorted b) (h : ∀ k, get? k a = get? k b) : a = b := by
  have hperm : a.Perm b := by
    apply (List.perm_ext_iff_of_nodup (List.Nodup.of_map Prod.fst ha.keys_nodup)
      (List.Nodup.of_map Prod.fst hb.keys_nodup)).2
    intro entry
    rw [ha.mem_iff, hb.mem_iff, h]
  refine List.Perm.eq_of_pairwise ?_ ha hb hperm
  intro x y _ _ hxy hyx
  exact absurd hyx (asymm_of (· < ·) hxy)

/-- Looking every key up gives back what is stored, in order. -/
theorem Sorted.filterMap_get?_keys [IsStrictTotalOrder κ (· < ·)] {map : Keyed κ α}
    (h : Sorted map) :
    (keys map).filterMap (get? · map) = values map := by
  induction map with
  | nil => rfl
  | cons entry rest ih =>
    obtain ⟨key, a⟩ := entry
    obtain ⟨hhead, hrest⟩ := List.pairwise_cons.1 h
    have hothers : (keys rest).filterMap (get? · ((key, a) :: rest)) =
        (keys rest).filterMap (get? · rest) := by
      apply List.filterMap_congr
      intro k hk
      obtain ⟨later, hlater, rfl⟩ := List.mem_map.1 hk
      have hne : key ≠ later.1 := fun heq =>
        irrefl_of (· < ·) key (heq.symm ▸ hhead later hlater)
      simp [get?, hne]
    have hcons := ih hrest
    rw [← hothers] at hcons
    simpa [keys, values, get?] using hcons

variable [DecidableLT κ]

theorem mem_keys_update {j k : κ} {f : Option α → α} {map : Keyed κ α} :
    j ∈ keys (update k f map) ↔ j = k ∨ j ∈ keys map := by
  induction map with
  | nil => simp [keys, update]
  | cons entry rest ih =>
    obtain ⟨key, a⟩ := entry
    simp only [update]
    split
    · rename_i hk
      simp [keys, hk]
    · split
      · simp [keys]
      · simp only [keys, List.map_cons, List.mem_cons] at ih ⊢
        rw [ih, or_left_comm]

theorem Sorted.update [IsStrictTotalOrder κ (· < ·)] {map : Keyed κ α} (h : Sorted map)
    (k : κ) (f : Option α → α) :
    Sorted (update k f map) := by
  induction map with
  | nil => simp [Keyed.update, Sorted]
  | cons entry rest ih =>
    obtain ⟨key, a⟩ := entry
    obtain ⟨hhead, hrest⟩ := List.pairwise_cons.1 h
    simp only [Keyed.update]
    split
    · exact List.pairwise_cons.2 ⟨hhead, hrest⟩
    · rename_i hne
      split
      · rename_i hlt
        refine List.pairwise_cons.2 ⟨?_, h⟩
        intro later hlater
        rcases List.mem_cons.1 hlater with rfl | hlater
        · exact hlt
        · exact trans_of (· < ·) hlt (hhead later hlater)
      · rename_i hnot
        have hkey : key < k := by
          rcases trichotomous_of (· < ·) key k with hlt | heq | hgt
          · exact hlt
          · exact absurd heq hne
          · exact absurd hgt hnot
        refine List.pairwise_cons.2 ⟨?_, ih hrest⟩
        intro later hlater
        rcases mem_keys_update.1 (List.mem_map_of_mem hlater) with heq | hmem
        · exact heq ▸ hkey
        · obtain ⟨old, hold, heq⟩ := List.mem_map.1 hmem
          exact heq ▸ hhead old hold

theorem Sorted.get?_update [IsStrictTotalOrder κ (· < ·)] {map : Keyed κ α} (h : Sorted map)
    (k j : κ) (f : Option α → α) :
    get? j (Keyed.update k f map) = if k = j then some (f (get? k map)) else get? j map :=
  Keyed.get?_update k j f map (irrefl_of (· < ·)) (trans_of (· < ·)) h

theorem update_update [IsStrictTotalOrder κ (· < ·)] (k : κ) (f g : Option α → α)
    (map : Keyed κ α) :
    Keyed.update k g (Keyed.update k f map) = Keyed.update k (fun a => g (some (f a))) map := by
  induction map with
  | nil => simp [Keyed.update]
  | cons entry rest ih =>
    obtain ⟨key, a⟩ := entry
    by_cases hk : key = k
    · simp [Keyed.update, hk]
    · by_cases hlt : k < key <;> simp [Keyed.update, hk, hlt, ih]

theorem update_comm_of_lt [IsStrictTotalOrder κ (· < ·)] {k j : κ} (hlt : k < j)
    (f g : Option α → α) (map : Keyed κ α) :
    Keyed.update j g (Keyed.update k f map) = Keyed.update k f (Keyed.update j g map) := by
  have hne : k ≠ j := ne_of_irrefl hlt
  have hnot : ¬ j < k := asymm_of (· < ·) hlt
  induction map with
  | nil => simp [Keyed.update, hne, hne.symm, hlt, hnot]
  | cons entry rest ih =>
    obtain ⟨key, a⟩ := entry
    by_cases hk : key = k
    · subst hk
      simp [Keyed.update, hne, hnot]
    · by_cases hkey : k < key
      · by_cases hj : key = j
        · subst hj
          simp [Keyed.update, hk, hne, hnot, hlt]
        · by_cases hjkey : j < key <;>
            simp [Keyed.update, hk, hj, hne, hne.symm, hlt, hnot, hkey, hjkey]
      · have hj : key ≠ j := fun heq => hkey (heq ▸ hlt)
        have hjkey : ¬ j < key := fun h => hkey (trans_of (· < ·) hlt h)
        simp [Keyed.update, hk, hj, hkey, hjkey, ih]

/-- Updates at two keys do not touch each other. -/
theorem update_comm [IsStrictTotalOrder κ (· < ·)] {k j : κ} (hne : k ≠ j)
    (f g : Option α → α) (map : Keyed κ α) :
    Keyed.update j g (Keyed.update k f map) = Keyed.update k f (Keyed.update j g map) := by
  rcases trichotomous_of (· < ·) k j with hlt | heq | hgt
  · exact update_comm_of_lt hlt f g map
  · exact absurd heq hne
  · exact (update_comm_of_lt hgt g f map).symm

/-- Inserts entries from left to right, a later one in place of an earlier. -/
def insertAll (entries : List (κ × α)) (map : Keyed κ α) : Keyed κ α :=
  entries.foldl (fun map entry => insert entry.1 entry.2 map) map

theorem insertAll_cons (entry : κ × α) (rest : List (κ × α)) (map : Keyed κ α) :
    insertAll (entry :: rest) map = insertAll rest (insert entry.1 entry.2 map) :=
  rfl

theorem mem_keys_insertAll {j : κ} {entries : List (κ × α)} {map : Keyed κ α} :
    j ∈ keys (insertAll entries map) ↔ j ∈ entries.map Prod.fst ∨ j ∈ keys map := by
  induction entries generalizing map with
  | nil => simp [insertAll]
  | cons entry rest ih =>
    rw [insertAll_cons, ih, insert, mem_keys_update]
    simp only [List.map_cons, List.mem_cons]
    tauto

variable [IsStrictTotalOrder κ (· < ·)]

theorem Sorted.insert {map : Keyed κ α} (h : Sorted map) (k : κ) (a : α) :
    Sorted (insert k a map) :=
  h.update k fun _ => a

theorem Sorted.get?_insert {map : Keyed κ α} (h : Sorted map) (k j : κ) (a : α) :
    get? j (Keyed.insert k a map) = if k = j then some a else get? j map :=
  h.get?_update k j fun _ => a

theorem Sorted.insertAll {map : Keyed κ α} (h : Sorted map) (entries : List (κ × α)) :
    Sorted (Keyed.insertAll entries map) := by
  induction entries generalizing map with
  | nil => exact h
  | cons entry rest ih => exact ih (h.insert entry.1 entry.2)

theorem Sorted.get?_insertAll_of_not_mem {map : Keyed κ α} (h : Sorted map) {k : κ}
    {entries : List (κ × α)} (hk : k ∉ entries.map Prod.fst) :
    get? k (Keyed.insertAll entries map) = get? k map := by
  induction entries generalizing map with
  | nil => rfl
  | cons entry rest ih =>
    simp only [List.map_cons, List.mem_cons, not_or] at hk
    rw [insertAll_cons, ih (h.insert entry.1 entry.2) hk.2, h.get?_insert, if_neg (Ne.symm hk.1)]

/-- Entries whose keys differ are all found. -/
theorem Sorted.get?_insertAll {map : Keyed κ α} (h : Sorted map) {entries : List (κ × α)}
    (hnodup : (entries.map Prod.fst).Nodup) {entry : κ × α} (hentry : entry ∈ entries) :
    get? entry.1 (Keyed.insertAll entries map) = some entry.2 := by
  induction entries generalizing map with
  | nil => cases hentry
  | cons first rest ih =>
    obtain ⟨hfirst, hrest⟩ := List.nodup_cons.1 hnodup
    have hinsert := h.insert first.1 first.2
    rw [insertAll_cons]
    rcases List.mem_cons.1 hentry with rfl | hentry
    · rw [hinsert.get?_insertAll_of_not_mem hfirst, h.get?_insert, if_pos rfl]
    · exact ih hinsert hrest hentry

/-- Every entry keeps a place of its own exactly when the keys differ. -/
theorem keys_insertAll_perm_iff (entries : List (κ × α)) :
    (keys (insertAll entries [])).Perm (entries.map Prod.fst) ↔ (entries.map Prod.fst).Nodup := by
  have hkeys : (keys (insertAll entries [])).Nodup := (Sorted.insertAll .nil entries).keys_nodup
  constructor
  · intro hperm
    exact hperm.nodup_iff.1 hkeys
  · intro hnodup
    apply (List.perm_ext_iff_of_nodup hkeys hnodup).2
    intro k
    rw [mem_keys_insertAll]
    simp [keys]

end ProbeTrace.Keyed
