import ProbeTrace.Program.Entry
import ProbeTrace.Proofs.Probe.Accepted
import ProbeTrace.Proofs.Program.Courses

/-!
# Stores of entry functions

The function that runs when a probe fires either gives up before it fills
anything, or fills the header and then the slots of all arguments, each once and
in the order of the layout, and hands the record on.
-/

set_option autoImplicit false

namespace ProbeTrace.Program.Entry

open Code CopyRoutine RecordLayout

theorem fills_out {field : String} {value : Expr} (h : value.stores = []) :
    Fills [.assign (out field) value] [field] := by
  apply fills_assign
  simp [Action.stores, h, out, var, Expr.recordField?]

theorem fills_var {name : String} {value : Expr} (h : value.stores = []) :
    Fills [.assign (var name) value] [] := by
  apply fills_assign
  simp [Action.stores, h, var, Expr.recordField?]

theorem fills_readText {function field : String} {source : Expr} (h : source.stores = [])
    (hfunction : function ≠ "bpf_perf_event_output") :
    Fills [readText function field source] [field] := by
  apply fills_run
  · simpa [Action.isSend] using hfunction
  · simp [Expr.stores, Expr.storesOf, h, out, var, Expr.recordField?]

theorem fills_fetchArg (index : Nat) : Fills [fetchArg index] [] := by
  apply fills_run
  · rfl
  · simp [Expr.stores, Expr.storesOf, var, Expr.recordField?]

mutual
theorem memberStores_fills {source : Expr} (h : source.stores = []) : (arg : Arg) →
    (arg.leaves.any fun leaf => leaf.2.isLongText) = false →
    Fills (memberStores source arg) (fieldsOf arg.leaves)
  | .leaf place kind, hlong => by
    have hdot : (Expr.dot source place.name).stores = [] := by rw [Expr.stores, h]
    cases kind with
    | text length => exact fills_readText hdot (by decide)
    | longText lengthArg => cases hlong
    | _ => exact fills_out hdot
  | .struct place members, hlong => by
    have hdot : (Expr.dot source place.name).stores = [] := by rw [Expr.stores, h]
    exact memberStoresOf_fills hdot members hlong

theorem memberStoresOf_fills {source : Expr} (h : source.stores = []) : (args : List Arg) →
    Arg.anyLongText args = false →
    Fills (memberStoresOf source args) (fieldsOf (Arg.leavesOf args))
  | [], _ => fills_nil
  | arg :: rest, hlong => by
    rw [Arg.anyLongText, Arg.leavesOf, List.any_append, Bool.or_eq_false_iff] at hlong
    rw [memberStoresOf, Arg.leavesOf, fieldsOf_append]
    exact (memberStores_fills h arg hlong.1).append (memberStoresOf_fills h rest hlong.2)
end

/-- However the length is found, it is stored. -/
theorem payloadStores_fills (probe field : String) (lengthArg : Option Nat) :
    Fills (payloadStores probe field lengthArg) [lengthField field] := by
  have hcopy : Fills [copyPayload probe field] [lengthField field] :=
    fills_out (by simp [Expr.stores, Expr.storesOf, var, Expr.recordField?])
  cases lengthArg with
  | some index =>
    exact ((fills_fetchArg index).append (fills_var rfl)).append hcopy
  | none =>
    refine fills_choose (fills_run rfl ?_) (fills_out rfl) hcopy
    simp [Expr.stores, Expr.storesOf, var, Expr.recordField?]

/-- Reading a whole structure leaves the record alone. -/
theorem fills_readStruct (field : String) :
    Fills [.run (.call "bpf_probe_read_user" [.addressOf (.arrow (var "structs") field),
      .sizeOf (.arrow (var "structs") field), userPointer])] [] := by
  refine fills_run rfl ?_
  simp [Expr.stores, Expr.storesOf, var, Expr.recordField?, userPointer]

theorem argStores_fills (probe : String) {arg : Arg} (h : arg.WellFormed) :
    Fills (argStores probe arg) (fieldsOf arg.leaves) := by
  cases arg with
  | leaf place kind =>
    cases kind with
    | text length => exact fills_readText rfl (by decide)
    | longText lengthArg =>
      have hsource : Fills [.assign (var "src") (.cast (.pointer (.constant .char)) (var "arg"))]
          [] := fills_var rfl
      exact (hsource.append (payloadStores_fills probe place.field lengthArg)).append
        (fills_out rfl)
    | _ => exact fills_out rfl
  | struct place members =>
    obtain ⟨-, -, hlong, -⟩ := h
    exact (fills_readStruct place.field).append (memberStoresOf_fills rfl members hlong)

theorem argParagraph_fills (probe : String) (index : Nat) {arg : Arg} (h : arg.WellFormed) :
    Fills (argParagraph probe index arg) (fieldsOf arg.leaves) :=
  (fills_fetchArg index).append (argStores_fills probe h)

theorem argParagraphs_fills (probe : String) {args : List Arg} (h : Arg.AllWellFormed args)
    (index : Nat) :
    Fills (argParagraphs probe index args).flatten (fieldsOf (Arg.leavesOf args)) := by
  induction args generalizing index with
  | nil => exact fills_nil
  | cons arg rest ih =>
    rw [argParagraphs, List.flatten_cons, Arg.leavesOf, fieldsOf_append]
    exact (argParagraph_fills probe index h.1).append (ih h.2 (index + 1))

theorem header_fills : Fills header ["ns", "pid", "tid", "comm"] := by
  intro course hcourse
  rw [List.mem_singleton.1 hcourse]
  exact ⟨rfl, rfl, rfl⟩

theorem send_handsOn (probe : String) : HandsOn (send probe) [] := by
  intro course hcourse
  rw [List.mem_singleton.1 hcourse]
  exact ⟨rfl, rfl, rfl⟩

theorem gate_quiet (probe : String) : Quiet (gate probe) :=
  quiet_when_give rfl rfl 0

theorem takeScratch_quiet (name map : String) : Quiet (takeScratch name map) := by
  have htake : Fills [.assign (var name) (lookup map "zero")] [] := fills_var rfl
  exact htake.quiet.append (quiet_when_give rfl rfl 0)

/-- The statements before the header. -/
def entrance (spec : ProbeSpec) (sampled : Bool) : List Stmt :=
  (if sampled then gate spec.name else []) ++
    (takeScratch "out" (Names.scratch spec.name) ++
      if spec.args.any Arg.isStruct then takeScratch "structs" (Names.structScratch spec.name)
      else [])

theorem function_body (spec : ProbeSpec) (sampled : Bool) :
    (function spec sampled).body.flatten = entrance spec sampled ++
      (header ++ ((argParagraphs spec.name 0 spec.args).flatten ++ send spec.name)) := by
  cases sampled <;> simp [function, entrance, List.append_assoc]

theorem entrance_quiet (spec : ProbeSpec) (sampled : Bool) : Quiet (entrance spec sampled) := by
  refine Quiet.append ?_ ((takeScratch_quiet _ _).append ?_)
  · split
    · exact gate_quiet spec.name
    · exact fills_nil.quiet
  · split
    · exact takeScratch_quiet _ _
    · exact fills_nil.quiet

/-- What follows the entrance fills the whole record. -/
theorem body_handsOn {spec : ProbeSpec} (h : spec.Accepted) :
    HandsOn (header ++ ((argParagraphs spec.name 0 spec.args).flatten ++ send spec.name))
      (["ns", "pid", "tid", "comm"] ++ spec.layout.slots.map Slot.name) := by
  have hslots : spec.layout.slots.map Slot.name = fieldsOf (Arg.leavesOf spec.args) ++ [] := by
    rw [ProbeSpec.layout, ofArgs, arrange_names, slotsOf_names, List.append_nil]
  rw [hslots]
  exact header_fills.append_handsOn
    ((argParagraphs_fills spec.name h.wellFormed 0).append_handsOn (send_handsOn spec.name))

/-- A course either gives up with nothing filled or fills the record and hands it on. -/
theorem function_course {spec : ProbeSpec} (h : spec.Accepted) (sampled : Bool) {course : Course}
    (hcourse : course ∈ courses (function spec sampled).body.flatten) :
    course.ended = true ∧
      (course.sends = false ∧ course.stores = [] ∨
        course.sends = true ∧
          course.fields = ["ns", "pid", "tid", "comm"] ++ spec.layout.slots.map Slot.name) := by
  rw [function_body] at hcourse
  rcases (entrance_quiet spec sampled).mem_append hcourse with
    ⟨hended, hquiet, hnone⟩ | ⟨second, hsecond, hended, hsends, hstores⟩
  · exact ⟨hended, .inl ⟨hquiet, hnone⟩⟩
  · obtain ⟨hend, hsent, hfields⟩ := body_handsOn h second hsecond
    refine ⟨hended.trans hend, .inr ⟨hsends.trans hsent, ?_⟩⟩
    rw [Course.fields, hstores]
    exact hfields

theorem function_exists_send {spec : ProbeSpec} (h : spec.Accepted) (sampled : Bool) :
    ∃ course ∈ courses (function spec sampled).body.flatten, course.sends = true := by
  obtain ⟨second, hsecond⟩ := exists_course
    (header ++ ((argParagraphs spec.name 0 spec.args).flatten ++ send spec.name))
  obtain ⟨course, hcourse, -, hsends⟩ := (entrance_quiet spec sampled).exists_append hsecond
  exact ⟨course, function_body spec sampled ▸ hcourse,
    hsends.trans (body_handsOn h second hsecond).2.1⟩

/-- What the paragraphs of the arguments store, a course that hands the record on stores. -/
theorem function_stores {spec : ProbeSpec} {sampled : Bool} {course : Course}
    (hcourse : course ∈ courses (function spec sampled).body.flatten)
    (hsends : course.sends = true) {field : String} {source : Expr}
    (hstores : AlwaysStores (argParagraphs spec.name 0 spec.args).flatten field source) :
    (field, some source) ∈ course.stores := by
  have hbody : AlwaysStores
      (header ++ ((argParagraphs spec.name 0 spec.args).flatten ++ send spec.name)) field source :=
    hstores.append_left.append_right header_fills
  rw [function_body] at hcourse
  rcases (entrance_quiet spec sampled).mem_append hcourse with
    ⟨-, hquiet, -⟩ | ⟨second, hsecond, -, -, hsame⟩
  · exact absurd (hquiet.symm.trans hsends) Bool.false_ne_true
  · exact hsame ▸ hbody second hsecond

/-! ## Members of structures -/

/-- An expression for a member, by the names that lead to it. -/
def access (source : Expr) (names : List String) : Expr :=
  names.foldl Expr.dot source

theorem alwaysStores_readText (function field : String) (source : Expr) :
    AlwaysStores [readText function field source] field source := by
  intro course hcourse
  rw [courses_singleton, readText, Stmt.courses, List.mem_singleton] at hcourse
  subst hcourse
  simp [Course.stores, Action.stores, Expr.stores, out, var, Expr.recordField?]

theorem alwaysStores_out (field : String) (value : Expr) :
    AlwaysStores [.assign (out field) value] field value := by
  intro course hcourse
  rw [courses_singleton, Stmt.courses, List.mem_singleton] at hcourse
  subst hcourse
  simp [Course.stores, Action.stores, out, var, Expr.recordField?]

end ProbeTrace.Program.Entry
