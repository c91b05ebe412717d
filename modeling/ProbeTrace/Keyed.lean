/-!
# Keyed lists

Finite maps as lists of pairs in strictly increasing order of their keys. The
order of a report is the order of its keys, so the list is at once the map and
the way it is shown.
-/

set_option autoImplicit false

namespace ProbeTrace

abbrev Keyed (κ α : Type) := List (κ × α)

namespace Keyed

variable {κ α : Type} [LT κ] [DecidableLT κ] [DecidableEq κ]

def get? (k : κ) : Keyed κ α → Option α
  | [] => none
  | (key, a) :: rest => if key = k then some a else get? k rest

/-- Replaces what is at a key, or puts something there, keeping the order. -/
def update (k : κ) (f : Option α → α) : Keyed κ α → Keyed κ α
  | [] => [(k, f none)]
  | (key, a) :: rest =>
    if key = k then (key, f (some a)) :: rest
    else if k < key then (k, f none) :: (key, a) :: rest
    else (key, a) :: update k f rest

def insert (k : κ) (a : α) (map : Keyed κ α) : Keyed κ α :=
  update k (fun _ => a) map

def erase (k : κ) (map : Keyed κ α) : Keyed κ α :=
  map.filter fun entry => entry.1 ≠ k

def keys (map : Keyed κ α) : List κ :=
  map.map Prod.fst

def values (map : Keyed κ α) : List α :=
  map.map Prod.snd

theorem get?_update (k j : κ) (f : Option α → α) (map : Keyed κ α)
    (irrefl : ∀ x : κ, ¬ x < x) (trans : ∀ {x y z : κ}, x < y → y < z → x < z)
    (sorted : map.Pairwise fun a b => a.1 < b.1) :
    get? j (update k f map) = if k = j then some (f (get? k map)) else get? j map := by
  induction map with
  | nil => by_cases h : k = j <;> simp [update, get?, h]
  | cons entry rest ih =>
    obtain ⟨key, a⟩ := entry
    have hrest := (List.pairwise_cons.1 sorted).2
    have hhead := (List.pairwise_cons.1 sorted).1
    by_cases hk : key = k
    · subst hk
      by_cases hj : key = j <;> simp [update, get?, hj]
    · by_cases hlt : k < key
      · have hnone : ∀ l : Keyed κ α, (∀ b ∈ l, key < b.1) → get? k l = none := by
          intro l hl
          induction l with
          | nil => rfl
          | cons b l ihl =>
            have hb : ¬ b.1 = k := by
              intro e
              exact irrefl k (trans hlt (e ▸ hl b (by simp)))
            simp only [get?, hb, if_false]
            exact ihl fun c hc => hl c (by simp [hc])
        by_cases hj : k = j
        · subst hj
          simp [update, get?, hk, hlt, hnone rest hhead]
        · simp [update, get?, hk, hlt, hj]
      · by_cases hj : key = j
        · subst hj
          have hkj : ¬ k = key := fun e => hk e.symm
          simp [update, get?, hk, hlt, hkj]
        · simp [update, get?, hk, hlt, hj, ih hrest]

end Keyed
end ProbeTrace
