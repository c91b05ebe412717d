import Mathlib.Data.List.Infix
import ProbeTrace.Program.Names

/-!
# Endings of names

A name in a program is that of a probe with an ending. Where no ending ends with
another, the name tells both. The tag of a shape ends in the indices of an
argument, and tells the probe and the indices.
-/

set_option autoImplicit false

namespace ProbeTrace

/-- Of two endings of one text, one ends with the other. -/
theorem suffix_of_append_eq {p q e f : String} (h : p ++ e = q ++ f) :
    e.toList <:+ f.toList ∨ f.toList <:+ e.toList := by
  have htext : p.toList ++ e.toList = q.toList ++ f.toList := by
    rw [← String.toList_append, h, String.toList_append]
  have hsuffix : e.toList <:+ q.toList ++ f.toList := htext ▸ List.suffix_append _ _
  exact List.suffix_or_suffix_of_suffix hsuffix (List.suffix_append _ _)

/-- No ending ends with another. -/
def Apart (endings : List String) : Prop :=
  ∀ e ∈ endings, ∀ f ∈ endings, e.toList <:+ f.toList → e = f

instance (endings : List String) : Decidable (Apart endings) :=
  inferInstanceAs (Decidable (∀ e ∈ endings, ∀ f ∈ endings, _ → _))

theorem Apart.append_inj {endings : List String} (h : Apart endings) {p q e f : String}
    (he : e ∈ endings) (hf : f ∈ endings) (heq : p ++ e = q ++ f) : p = q ∧ e = f := by
  have hending : e = f := by
    rcases suffix_of_append_eq heq with hsuffix | hsuffix
    · exact h e he f hf hsuffix
    · exact (h f hf e he hsuffix).symm
  subst hending
  exact ⟨(String.append_left_inj e).1 heq, rfl⟩

/-! ## Indices -/

/-- A character that a text of indices may have. -/
def isIndexChar (c : Char) : Bool :=
  c.isDigit || c = '_'

theorem toString_isDigit (n : Nat) : ∀ c ∈ (toString n).toList, c.isDigit := by
  intro c hc
  rw [Nat.toString_eq_repr, Nat.toList_repr] at hc
  exact Nat.isDigit_of_mem_toDigits (by decide) (by decide) hc

theorem toString_nat_injective {m n : Nat} (h : toString m = toString n) : m = n := by
  have hvalue := congrArg (fun text => Nat.ofDigitChars 10 text.toList 0) h
  simpa [Nat.toString_eq_repr, Nat.toList_repr] using hvalue

namespace Place

theorem suffixOf_cons_toList (i : Nat) (indices : List Nat) :
    (suffixOf (i :: indices)).toList =
      '_' :: ((toString i).toList ++ (suffixOf indices).toList) := by
  rw [suffixOf, String.toList_append, String.toList_append, List.append_assoc]
  rfl

theorem suffixOf_isIndexChar (indices : List Nat) :
    ∀ c ∈ (suffixOf indices).toList, isIndexChar c := by
  induction indices with
  | nil => exact nofun
  | cons i rest ih =>
    rw [suffixOf_cons_toList, List.forall_mem_cons, List.forall_mem_append]
    refine ⟨rfl, fun c hc => ?_, ih⟩
    rw [isIndexChar, toString_isDigit i c hc, Bool.true_or]

/-- A text of indices does not go on with a digit. -/
theorem suffixOf_takeWhile (indices : List Nat) :
    (suffixOf indices).toList.takeWhile Char.isDigit = [] := by
  cases indices with
  | nil => rfl
  | cons i rest =>
    rw [suffixOf_cons_toList]
    rfl

theorem suffixOf_cons_ne (i : Nat) (indices : List Nat) :
    suffixOf (i :: indices) ≠ suffixOf [] := by
  intro h
  have htext := congrArg String.toList h
  rw [suffixOf_cons_toList] at htext
  cases htext

theorem suffixOf_injective {a b : List Nat} (h : suffixOf a = suffixOf b) : a = b := by
  induction a generalizing b with
  | nil =>
    cases b with
    | nil => rfl
    | cons j b => exact absurd h.symm (suffixOf_cons_ne j b)
  | cons i a ih =>
    cases b with
    | nil => exact absurd h (suffixOf_cons_ne i a)
    | cons j b =>
      have htext := congrArg String.toList h
      rw [suffixOf_cons_toList, suffixOf_cons_toList, List.cons.injEq] at htext
      -- the first index ends where the digits do
      have hfirst : toString i = toString j := by
        have hdigits := congrArg (List.takeWhile Char.isDigit) htext.2
        rw [List.takeWhile_append_of_pos (toString_isDigit i),
          List.takeWhile_append_of_pos (toString_isDigit j), suffixOf_takeWhile,
          suffixOf_takeWhile, List.append_nil, List.append_nil] at hdigits
        exact String.toList_inj.1 hdigits
      obtain rfl := toString_nat_injective hfirst
      rw [ih (String.toList_inj.1 (List.append_cancel_left htext.2))]

/-- What the field of a place has behind the name. -/
def behindName (place : Place) : String :=
  ((place.field.dropPrefix? place.name).map String.Slice.copy).getD ""

theorem behindName_eq (place : Place) : place.behindName = place.suffix := by
  rw [behindName]
  cases hdrop : place.field.dropPrefix? place.name with
  | none =>
    have hstarts : place.field.toSlice.startsWith place.name = false := by
      rw [← String.Slice.dropPrefix?_eq_none_iff, ← String.dropPrefix?_eq_dropPrefix?_toSlice]
      exact hdrop
    have hname : place.name.toList <+: place.field.toSlice.copy.toList := by
      rw [String.copy_toSlice, field, String.toList_append]
      exact List.prefix_append _ _
    exact absurd (String.Slice.startsWith_string_iff.2 hname) (Bool.eq_false_iff.1 hstarts)
  | some rest =>
    have hfield := String.eq_append_of_dropPrefix?_string_eq_some hdrop
    exact ((String.append_right_inj place.name).1 hfield).symm

end Place

namespace Program.Names

/-- What the tag of a shape has behind the name of its probe. -/
def shapeEnding (place : Place) : String :=
  "_level" ++ Place.suffixOf (place.depth :: place.index :: place.enclosing)

theorem shape_eq (probe : String) (place : Place) :
    shape probe place = probe ++ shapeEnding place := by
  have hlevel : "_level_" = "_level" ++ "_" := rfl
  simp only [shape, hlevel, shapeEnding, Place.suffixOf, Place.suffix, String.append_assoc]

/-- A list is cut at the last place of an element. -/
theorem append_cons_inj {α : Type} {c : α} {a b s t : List α} (hs : c ∉ s) (ht : c ∉ t)
    (h : a ++ c :: s = b ++ c :: t) : a = b ∧ s = t := by
  rcases List.append_eq_append_iff.1 h with ⟨x, rfl, hx⟩ | ⟨x, rfl, hx⟩
  · cases x with
    | nil => exact ⟨(List.append_nil a).symm, (List.cons.inj hx).2⟩
    | cons d x =>
      refine absurd ?_ hs
      rw [(List.cons.inj hx).2]
      simp
  · cases x with
    | nil => exact ⟨List.append_nil b, (List.cons.inj hx).2.symm⟩
    | cons d x =>
      refine absurd ?_ ht
      rw [(List.cons.inj hx).2]
      simp

/-- Behind the last letter of the tag there are indices only. -/
theorem append_level_inj {p q : String} {a b : List Nat}
    (h : p ++ ("_level" ++ Place.suffixOf a) = q ++ ("_level" ++ Place.suffixOf b)) :
    p = q ∧ a = b := by
  have hletter (indices : List Nat) : 'l' ∉ (Place.suffixOf indices).toList := fun hmem =>
    absurd (Place.suffixOf_isIndexChar indices _ hmem) (by decide)
  have hlevel (text : String) (indices : List Nat) :
      (text ++ ("_level" ++ Place.suffixOf indices)).toList =
        (text ++ "_leve").toList ++ 'l' :: (Place.suffixOf indices).toList := by
    simp
  have htext := congrArg String.toList h
  -- the last letter of either text is the one that ends the level
  rw [hlevel, hlevel] at htext
  obtain ⟨hprobe, hindices⟩ := append_cons_inj (hletter a) (hletter b) htext
  exact ⟨(String.append_left_inj _).1 (String.toList_inj.1 hprobe),
    Place.suffixOf_injective (String.toList_inj.1 hindices)⟩

theorem shapeEnding_inj {p q : String} {a b : Place}
    (h : p ++ shapeEnding a = q ++ shapeEnding b) :
    p = q ∧ a.index :: a.enclosing = b.index :: b.enclosing := by
  obtain ⟨hprobe, hindices⟩ := append_level_inj h
  exact ⟨hprobe, (List.cons.inj hindices).2⟩

/-- The tag of a shape does not end in a letter. -/
theorem append_ne_shapeEnding {p q e : String} (place : Place)
    (he : ∃ c ∈ e.toList.getLast?, ¬ isIndexChar c) : p ++ e ≠ q ++ shapeEnding place := by
  intro h
  obtain ⟨c, hlast, hletter⟩ := he
  have hne : (Place.suffixOf (place.depth :: place.index :: place.enclosing)).toList ≠ [] := by
    rw [Place.suffixOf_cons_toList]
    exact List.cons_ne_nil _ _
  have hends := congrArg (fun text => text.toList.getLast?) h
  rw [shapeEnding, ← String.append_assoc, String.toList_append, String.toList_append,
    List.getLast?_append_of_ne_nil _ hne, List.getLast?_append, hlast, Option.some_or] at hends
  exact hletter (Place.suffixOf_isIndexChar _ c (List.mem_of_getLast? hends.symm))

end Program.Names
end ProbeTrace
