import Mathlib.Data.List.Forall2
import ProbeTrace.Attach.Attach
import ProbeTrace.Proofs.Attach.Start

/-!
# Attaching groups

A group that makes too large a program is split, so the programs that run in the
end are pieces of the groups, in order. Any other error ends the attachment.
-/

set_option autoImplicit false

namespace ProbeTrace.Attachment

/-- The error with which an action ends. -/
def failure? : Except StartFault Unit → Option AttachError
  | .ok () => none
  | .error fault => some fault.error

/-- What the log of attaching some probes tells of the programs that run since and of the
result. -/
structure Traced (specs : List ProbeSpec) (log : List Exchange) (programs : List Program)
    (result : Except StartFault Unit) : Prop where
  ledger : Ledger [] log programs
  fatal : ∀ probes, firstFatal probes log = failure? result
  whole : result = .ok () → programs.flatMap Program.probes = specs ∧
    ∀ program ∈ programs, program.probes ≠ []

/-- Programs that are tried for a group of probes: each is for some of them in a row. -/
structure Share (group : List ProbeSpec) (programs : List Program) : Prop where
  length_le : programs.length ≤ 2 * group.length - 1
  infix_group : ∀ program ∈ programs, program.probes <:+: group

namespace Traced

variable {a b : List ProbeSpec} {log rest : List Exchange} {p q : List Program}
  {result : Except StartFault Unit}

theorem nil : Traced [] [] [] (.ok ()) where
  ledger := .nil []
  fatal _ := rfl
  whole _ := ⟨rfl, fun _ hprogram => nomatch hprogram⟩

theorem append (ha : Traced a log p (.ok ())) (hb : Traced b rest q result) :
    Traced (a ++ b) (log ++ rest) (p ++ q) result where
  ledger := ha.ledger.join hb.ledger
  fatal probes := by
    rw [firstFatal_append hb.fatal, ha.fatal]
    rfl
  whole hresult := by
    obtain ⟨hpa, hp⟩ := ha.whole rfl
    obtain ⟨hqb, hq⟩ := hb.whole hresult
    rw [List.flatMap_append, hpa, hqb, List.forall_mem_append]
    exact ⟨rfl, hp, hq⟩

/-- After an error it does not matter which probes were to follow. -/
theorem stopped {fault : StartFault} (h : Traced a log p (.error fault)) :
    Traced b log p (.error fault) where
  ledger := h.ledger
  fatal := h.fatal
  whole hresult := nomatch hresult

end Traced

theorem share_nil (group : List ProbeSpec) : Share group [] :=
  ⟨Nat.zero_le _, fun _ hprogram => nomatch hprogram⟩

theorem share_singleton {group : List ProbeSpec} (h : group ≠ []) : Share group [⟨group⟩] := by
  have hlength := List.length_pos_iff.2 h
  constructor
  · rw [List.length_singleton]
    omega
  · intro program hprogram
    obtain rfl := List.mem_singleton.1 hprogram
    exact List.infix_rfl

/-- The programs tried for the halves of a group add up, with the one that was split. -/
theorem share_split {group left right : List ProbeSpec} {p q : List Program}
    (hgroup : left ++ right = group) (hleft : left ≠ []) (hright : right ≠ [])
    (hp : Share left p) (hq : Share right q) : Share group (⟨group⟩ :: (p ++ q)) := by
  subst hgroup
  have hl := List.length_pos_iff.2 hleft
  have hr := List.length_pos_iff.2 hright
  obtain ⟨hplength, hpwithin⟩ := hp
  obtain ⟨hqlength, hqwithin⟩ := hq
  constructor
  · rw [List.length_cons, List.length_append, List.length_append]
    omega
  · rw [List.forall_mem_cons, List.forall_mem_append]
    refine ⟨List.infix_rfl, fun program hprogram => ?_, fun program hprogram => ?_⟩
    · exact (hpwithin program hprogram).trans (List.prefix_append left right).isInfix
    · exact (hqwithin program hprogram).trans (List.suffix_append left right).isInfix

theorem halves_ne_nil {group : List ProbeSpec} (h : 1 < group.length) :
    group.take (group.length / 2) ≠ [] ∧ group.drop (group.length / 2) ≠ [] := by
  rw [← List.length_pos_iff, ← List.length_pos_iff, List.length_take, List.length_drop]
  omega

section Faults

variable {backend : Backend} {target : AttachTarget} {group : List ProbeSpec}
  {state after : Attachment} {error : AttachError}
  (hstart : (start backend target ⟨group⟩).run state = (.error (.refused error), after))
include hstart

theorem attachGroup_failed (h : ¬error.splits group.length) :
    (attachGroup backend target group).run state = (.error (.refused error), after) := by
  rw [attachGroup, run_catch_error hstart]
  cases error with
  | limitExceeded reason =>
    have hshort : ¬1 < group.length := fun hlong => h (AttachError.splits_iff.2 ⟨reason, rfl, hlong⟩)
    simp only [StartFault.oversize?, dif_neg hshort]
    rfl
  | _ => rfl

/-- A group that is too large is attached as its halves are, one after the other. -/
theorem attachGroup_split (h : error.splits group.length) :
    ∃ told, told.exchanges = after.exchanges ∧ told.running = after.running ∧
      (attachGroup backend target group).run state =
        (do
          attachGroup backend target (group.take (group.length / 2))
          attachGroup backend target (group.drop (group.length / 2))).run told := by
  obtain ⟨reason, rfl, hlong⟩ := AttachError.splits_iff.1 h
  rw [attachGroup, run_catch_error hstart]
  simp only [StartFault.oversize?, dif_pos hlong]
  have htell : (tell (.splitting group.length reason)).run after =
      (.ok (), { after with notices := after.notices ++ [.splitting group.length reason] }) := rfl
  refine ⟨_, ?_, ?_, run_bind_ok htell _⟩
  · rfl
  · rfl

end Faults

section Calm

variable {backend : Backend} (hcalm : backend.Calm) (target : AttachTarget)
include hcalm

theorem attachGroup_run {group : List ProbeSpec} (hgroup : group ≠ []) (state : Attachment) :
    ∃ log programs result after,
      (attachGroup backend target group).run state = (result, after) ∧
        Adds state log programs after ∧ Traced group log programs result ∧
        Share group (tried log) := by
  induction group using attachGroup.induct generalizing state with
  | case1 group ihleft ihright =>
    obtain ⟨log, programs, result, after, hstart, hadds, hattempt⟩ :=
      start_run hcalm target ⟨group⟩ state
    have hshare : Share group (tried log) := by
      rw [hattempt.tried]
      exact share_singleton hgroup
    rcases hattempt.ends with ⟨rfl, rfl, hfatal⟩ | ⟨error, rfl, rfl, hfatal⟩
    case inl =>
      refine ⟨log, [⟨group⟩], .ok (), after, ?_, hadds, ⟨hattempt.ledger, hfatal, fun _ => ?_⟩,
        hshare⟩
      · rw [attachGroup]
        exact run_catch_ok hstart _
      · rw [List.flatMap_singleton, List.forall_mem_singleton]
        exact ⟨rfl, hgroup⟩
    by_cases hsplits : error.splits group.length
    case neg =>
      refine ⟨log, [], .error (.refused error), after, attachGroup_failed hstart hsplits, hadds,
        ⟨hattempt.ledger, fun probes => ?_, fun hresult => nomatch hresult⟩, hshare⟩
      rw [hfatal, if_neg hsplits]
      rfl
    -- the log up to here is that of a start of nothing that succeeds
    have hnothing : Traced [] log [] (.ok ()) := by
      refine ⟨hattempt.ledger, fun probes => ?_, fun _ => ⟨rfl, fun _ h => nomatch h⟩⟩
      rw [hfatal, if_pos hsplits]
      rfl
    obtain ⟨-, -, hlong⟩ := AttachError.splits_iff.1 hsplits
    obtain ⟨hleft, hright⟩ := halves_ne_nil hlong
    have hhalves := List.take_append_drop (group.length / 2) group
    obtain ⟨told, hexchanges, hrunning, hsplit⟩ := attachGroup_split hstart hsplits
    have htold : Adds state log [] told := ⟨hexchanges.trans hadds.1, hrunning.trans hadds.2⟩
    rw [hsplit]
    obtain ⟨leftLog, p, leftResult, between, hleftRun, hleftAdds, hleftTraced, hleftShare⟩ :=
      ihleft hlong hleft told
    cases leftResult with
    | error fault =>
      refine ⟨_, _, .error fault, between, run_bind_error hleftRun _, htold.trans hleftAdds,
        hnothing.append hleftTraced.stopped, ?_⟩
      have hshare := share_split hhalves hleft hright hleftShare (share_nil _)
      rwa [tried_append, hattempt.tried, ← List.append_nil (tried leftLog)]
    | ok =>
      obtain ⟨rightLog, q, result, after, hrightRun, hrightAdds, hrightTraced, hrightShare⟩ :=
        ihright hlong hright between
      refine ⟨_, _, result, after, (run_bind_ok hleftRun _).trans hrightRun,
        htold.trans (hleftAdds.trans hrightAdds), ?_, ?_⟩
      · have htraced := hnothing.append (hleftTraced.append hrightTraced)
        rwa [hhalves] at htraced
      · rw [tried_append, tried_append, hattempt.tried, List.singleton_append]
        exact share_split hhalves hleft hright hleftShare hrightShare

theorem attachGroups_run {groups : List (List ProbeSpec)} (h : ∀ group ∈ groups, group ≠ [])
    (state : Attachment) :
    ∃ log programs result after shares,
      (groups.forM (attachGroup backend target)).run state = (result, after) ∧
        Adds state log programs after ∧ Traced groups.flatten log programs result ∧
        tried log = shares.flatten ∧ List.Forall₂ Share groups shares := by
  induction groups generalizing state with
  | nil =>
    exact ⟨[], [], .ok (), state, [], rfl, adds_nothing state, .nil, rfl, .nil⟩
  | cons group groups ih =>
    rw [List.forall_mem_cons] at h
    rw [List.forM, List.flatten_cons]
    obtain ⟨log, p, result, between, hrun, hadds, htraced, hshare⟩ :=
      attachGroup_run hcalm target h.1 state
    cases result with
    | error fault =>
      refine ⟨log, p, .error fault, between, tried log :: groups.map fun _ => [],
        run_bind_error hrun _, hadds, htraced.stopped, ?_, .cons hshare ?_⟩
      · simp
      · rw [List.forall₂_map_right_iff, List.forall₂_same]
        exact fun group _ => share_nil group
    | ok =>
      obtain ⟨rest, q, result, after, shares, hrestRun, hrestAdds, hrestTraced, htried, hshares⟩ :=
        ih h.2 between
      refine ⟨log ++ rest, p ++ q, result, after, tried log :: shares,
        (run_bind_ok hrun _).trans hrestRun, hadds.trans hrestAdds, htraced.append hrestTraced,
        ?_, .cons hshare hshares⟩
      rw [tried_append, htried, List.flatten_cons]

end Calm

end ProbeTrace.Attachment
