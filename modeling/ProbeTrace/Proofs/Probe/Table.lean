import ProbeTrace.Probe.Table
import ProbeTrace.Proofs.Probe.Accepted

/-!
# Tables that were read

A table that is read without an error has descriptions that passed their checks,
no two of them of one name.
-/

set_option autoImplicit false

namespace ProbeTrace.ProbeTable

open Outcome

theorem buildEntry_ok {overrides : Overrides} {entry : ProbeEntry} {spec : ProbeSpec}
    (h : buildEntry overrides entry = .ok spec) : spec.name = entry.name ∧ spec.Accepted := by
  obtain ⟨built, hbuilt, hspec⟩ := bind_eq_ok_iff.1 h
  have haccepted := ProbeSpec.accepted_of_build hbuilt
  obtain ⟨-, -, -, -, -, rfl⟩ := ProbeSpec.build_eq_ok_iff.1 hbuilt
  cases hprovider : entry.provider with
  | none =>
    rw [hprovider] at hspec
    obtain rfl := Except.ok.inj hspec
    exact ⟨rfl, haccepted⟩
  | some provider =>
    rw [hprovider] at hspec
    obtain rfl := Except.ok.inj hspec
    exact ⟨rfl, haccepted.withProvider provider⟩

/-- The names that were given are not used again, and no new one is used twice. -/
theorem buildEntries_ok {overrides : Overrides} {names : List String}
    {entries : List ProbeEntry} {specs : List ProbeSpec}
    (h : buildEntries overrides names entries = .ok specs) :
    (∀ spec ∈ specs, spec.name ∉ names) ∧ (specs.map ProbeSpec.name).Nodup ∧
      ∀ spec ∈ specs, spec.Accepted := by
  induction entries generalizing names specs with
  | nil =>
    obtain rfl := Except.ok.inj h
    simp
  | cons entry rest ih =>
    simp only [buildEntries, error_bind, guard_eq_ok_iff] at h
    obtain ⟨hfresh, h⟩ := h
    obtain ⟨spec, hspec, h⟩ := bind_eq_ok_iff.1 h
    obtain ⟨later, hlater, h⟩ := bind_eq_ok_iff.1 h
    obtain rfl := Except.ok.inj h
    obtain ⟨hname, haccepted⟩ := buildEntry_ok hspec
    obtain ⟨hnames, hnodup, hrest⟩ := ih hlater
    have hother : spec.name ∉ later.map ProbeSpec.name := by
      intro hmem
      obtain ⟨other, hother, heq⟩ := List.mem_map.1 hmem
      exact hnames other hother (heq ▸ hname ▸ List.mem_cons_self)
    refine ⟨?_, List.nodup_cons.2 ⟨hother, hnodup⟩, List.forall_mem_cons.2 ⟨haccepted, hrest⟩⟩
    rw [List.forall_mem_cons]
    exact ⟨hname ▸ hfresh, fun other hmem hin => hnames other hmem (List.mem_cons_of_mem _ hin)⟩

theorem read_ok {data : Bytes} {overrides : Overrides} {table : ProbeTable}
    (h : read data overrides = .ok table) :
    (table.probes.map ProbeSpec.name).Nodup ∧ ∀ spec ∈ table.probes, spec.Accepted := by
  rw [read] at h
  split at h
  · cases h
  · rename_i entry _
    split at h
    · cases h
    · rename_i built hbuilt
      obtain rfl := Except.ok.inj h
      obtain ⟨specs, hspecs, hbuilt⟩ := bind_eq_ok_iff.1 hbuilt
      obtain rfl := Except.ok.inj hbuilt
      exact (buildEntries_ok hspecs).2

end ProbeTrace.ProbeTable
