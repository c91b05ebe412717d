import ProbeTrace.Attach.Start

/-!
# Logs of attaching

The log of all calls tells which programs were tried, which of them are loaded and
not released at its end, and which error came first that is no reason to split.
-/

set_option autoImplicit false

namespace ProbeTrace

namespace Call

/-- A call that concerns a single probe of a program. -/
def AboutProbe : Call → Prop
  | .enable _ _ _ | .chunks _ | .stream _ => True
  | .compile _ | .load _ _ | .cleanup _ => False

def answered (call : Call) : Exchange :=
  ⟨call, .done⟩

end Call

/-- An error for which a program of so many probes is split. -/
def AttachError.splits (probes : Nat) : AttachError → Bool
  | .limitExceeded _ => 1 < probes
  | _ => false

theorem AttachError.splits_iff {error : AttachError} {probes : Nat} :
    error.splits probes = true ↔ ∃ reason, error = .limitExceeded reason ∧ 1 < probes := by
  cases error <;> simp [splits]

namespace Exchange

/-- The program that begins to be started. -/
def tried? (exchange : Exchange) : Option Program :=
  match exchange.call with
  | .compile program => some program
  | _ => none

/-- The program that is loaded since. -/
def loaded? : Exchange → Option Program
  | ⟨.load program _, .done⟩ => some program
  | _ => none

/-- The program that is not loaded any more. -/
def released? : Exchange → Option Program
  | ⟨.cleanup program, _⟩ => some program
  | _ => none

/-- The number of probes that are being started, if it was some number before. -/
def size (exchange : Exchange) (before : Nat) : Nat :=
  exchange.tried?.elim before fun program => program.probes.length

/-- The error of an exchange about so many probes, if it is no reason to split them. The
reply to a release does not count. -/
def fatal? (probes : Nat) : Exchange → Option AttachError
  | ⟨.cleanup _, _⟩ => none
  | ⟨_, .refused error⟩ => if error.splits probes then none else some error
  | _ => none

theorem none_of_aboutProbe {exchange : Exchange} (h : exchange.call.AboutProbe) :
    exchange.tried? = none ∧ exchange.loaded? = none ∧ exchange.released? = none := by
  obtain ⟨call, reply⟩ := exchange
  cases call with
  | enable | chunks | stream => exact ⟨rfl, rfl, rfl⟩
  | compile | load | cleanup => cases h

theorem size_of_aboutProbe {exchange : Exchange} (h : exchange.call.AboutProbe) (before : Nat) :
    exchange.size before = before := by
  rw [size, (none_of_aboutProbe h).1, Option.elim_none]

theorem fatal?_answered (call : Call) (probes : Nat) : fatal? probes call.answered = none := by
  cases call <;> rfl

end Exchange

/-- All programs that were tried, in order. -/
def tried (log : List Exchange) : List Program :=
  log.filterMap Exchange.tried?

def loaded (log : List Exchange) : List Program :=
  log.filterMap Exchange.loaded?

def released (log : List Exchange) : List Program :=
  log.filterMap Exchange.released?

/-- The first error in a log that is no reason to split a program, where the program
started before the log has so many probes. -/
def firstFatal : Nat → List Exchange → Option AttachError
  | _, [] => none
  | probes, exchange :: rest =>
    (exchange.fatal? (exchange.size probes)).or (firstFatal (exchange.size probes) rest)

/-- A log that leads from some loaded programs to others. Only a program that is loaded
can be released, and it is not loaded any more then. -/
inductive Ledger : List Program → List Exchange → List Program → Prop where
  | nil (held : List Program) : Ledger held [] held
  | load {held after : List Program} {program : Program} {pid : Nat} {log : List Exchange} :
      Ledger (held ++ [program]) log after →
      Ledger held (⟨.load program pid, .done⟩ :: log) after
  | cleanup {front back after : List Program} {program : Program} {reply : Reply}
      {log : List Exchange} :
      Ledger (front ++ back) log after →
      Ledger (front ++ program :: back) (⟨.cleanup program, reply⟩ :: log) after
  | other {held after : List Program} {exchange : Exchange} {log : List Exchange} :
      exchange.loaded? = none → exchange.released? = none → Ledger held log after →
      Ledger held (exchange :: log) after

theorem tried_append (a b : List Exchange) : tried (a ++ b) = tried a ++ tried b :=
  List.filterMap_append

theorem firstFatal_append {rest : List Exchange} {found : Option AttachError}
    (h : ∀ probes, firstFatal probes rest = found) (log : List Exchange) (probes : Nat) :
    firstFatal probes (log ++ rest) = (firstFatal probes log).or found := by
  induction log generalizing probes with
  | nil => exact h probes
  | cons exchange log ih => rw [List.cons_append, firstFatal, firstFatal, ih, Option.or_assoc]

namespace Ledger

theorem cleanup_head {back after : List Program} {program : Program} {reply : Reply}
    {log : List Exchange} (h : Ledger back log after) :
    Ledger (program :: back) (⟨.cleanup program, reply⟩ :: log) after :=
  @cleanup [] back after program reply log h

theorem append {before between after : List Program} {a b : List Exchange}
    (ha : Ledger before a between) (hb : Ledger between b after) :
    Ledger before (a ++ b) after := by
  induction ha with
  | nil => exact hb
  | load _ ih => exact load (ih hb)
  | cleanup _ ih => exact cleanup (ih hb)
  | other hloaded hreleased _ ih => exact other hloaded hreleased (ih hb)

/-- Programs that are loaded besides are left alone. -/
theorem frame {before after : List Program} {log : List Exchange} (h : Ledger before log after)
    (besides : List Program) : Ledger (besides ++ before) log (besides ++ after) := by
  induction h with
  | nil => exact nil _
  | load _ ih =>
    apply load
    rwa [List.append_assoc]
  | cleanup _ ih =>
    rw [← List.append_assoc] at ih ⊢
    exact cleanup ih
  | other hloaded hreleased _ ih => exact other hloaded hreleased ih

theorem join {a b : List Program} {log rest : List Exchange} (ha : Ledger [] log a)
    (hb : Ledger [] rest b) : Ledger [] (log ++ rest) (a ++ b) := by
  apply ha.append
  simpa using hb.frame a

theorem aboutProbe {log : List Exchange} (h : ∀ exchange ∈ log, exchange.call.AboutProbe)
    (held : List Program) : Ledger held log held := by
  induction log with
  | nil => exact nil held
  | cons exchange log ih =>
    rw [List.forall_mem_cons] at h
    obtain ⟨-, hloaded, hreleased⟩ := Exchange.none_of_aboutProbe h.1
    exact other hloaded hreleased (ih h.2)

/-- Each program that is there before or is loaded is either released once or still there. -/
theorem perm {before after : List Program} {log : List Exchange} (h : Ledger before log after) :
    (before ++ loaded log).Perm (released log ++ after) := by
  induction h with
  | nil held =>
    change (held ++ []).Perm ([] ++ held)
    rw [List.append_nil, List.nil_append]
  | @load held after program pid log _ ih =>
    rw [List.append_assoc] at ih
    exact ih
  | @cleanup front back after program reply log _ ih =>
    have hmiddle : (front ++ program :: back).Perm (program :: (front ++ back)) :=
      List.perm_middle
    exact (hmiddle.append_right (loaded log)).trans (ih.cons program)
  | @other held after exchange log hloaded hreleased _ ih =>
    rw [loaded, List.filterMap_cons_none hloaded, released, List.filterMap_cons_none hreleased]
    exact ih

end Ledger

theorem tried_aboutProbe {log : List Exchange}
    (h : ∀ exchange ∈ log, exchange.call.AboutProbe) : tried log = [] := by
  rw [tried, List.filterMap_eq_nil_iff]
  intro exchange hexchange
  exact (Exchange.none_of_aboutProbe (h exchange hexchange)).1

/-- One of some calls is refused, after those before it were answered. -/
def RefusedIn (calls : List Call) (log : List Exchange) (error : AttachError) : Prop :=
  ∃ front call back, calls = front ++ call :: back ∧
    log = front.map Call.answered ++ [⟨call, .refused error⟩]

section AboutProbes

variable {calls : List Call} (h : ∀ call ∈ calls, call.AboutProbe)
include h

theorem aboutProbe_answered : ∀ exchange ∈ calls.map Call.answered, exchange.call.AboutProbe := by
  intro exchange hexchange
  obtain ⟨call, hcall, rfl⟩ := List.mem_map.1 hexchange
  exact h call hcall

theorem firstFatal_answered (rest : List Exchange) (probes : Nat) :
    firstFatal probes (calls.map Call.answered ++ rest) = firstFatal probes rest := by
  induction calls with
  | nil => rfl
  | cons call calls ih =>
    rw [List.forall_mem_cons] at h
    have hsize : call.answered.size probes = probes := Exchange.size_of_aboutProbe h.1 probes
    rw [List.map_cons, List.cons_append, firstFatal, Exchange.fatal?_answered, Option.none_or,
      hsize, ih h.2]

variable {log : List Exchange} {error : AttachError} (hrefused : RefusedIn calls log error)
include hrefused

theorem aboutProbe_refused : ∀ exchange ∈ log, exchange.call.AboutProbe := by
  obtain ⟨front, call, back, rfl, rfl⟩ := hrefused
  rw [List.forall_mem_append, List.forall_mem_cons] at h
  rw [List.forall_mem_append, List.forall_mem_singleton]
  exact ⟨aboutProbe_answered h.1, h.2.1⟩

theorem firstFatal_refused (rest : List Exchange) (probes : Nat) :
    firstFatal probes (log ++ rest) =
      (if error.splits probes then none else some error).or (firstFatal probes rest) := by
  obtain ⟨front, call, back, rfl, rfl⟩ := hrefused
  rw [List.forall_mem_append, List.forall_mem_cons] at h
  have hsize : Exchange.size ⟨call, .refused error⟩ probes = probes :=
    Exchange.size_of_aboutProbe h.2.1 probes
  rw [List.append_assoc, firstFatal_answered h.1, List.singleton_append, firstFatal, hsize]
  congr 1
  cases call with
  | enable | chunks | stream => rfl
  | compile | load | cleanup => cases h.2.1

end AboutProbes
end ProbeTrace
