import ProbeTrace.Program.Code

/-!
# Courses of a program

The ways in which a list of statements may be run. At a condition a course goes
either way, and it ends where the function returns. What a course does to the
record that `out` points to can be read off its actions.
-/

set_option autoImplicit false

namespace ProbeTrace.Code

inductive Action where
  | set (target value : Expr)
  | evaluate (e : Expr)

structure Course where
  actions : List Action
  /-- Whether the function has returned. -/
  ended : Bool

namespace Course

def empty : Course :=
  ⟨[], false⟩

def andThen (first later : Course) : Course :=
  ⟨first.actions ++ later.actions, later.ended⟩

/-- Goes on with any of the courses, unless the function has returned. -/
def continued (first : Course) (later : List Course) : List Course :=
  if first.ended then [first] else later.map first.andThen

end Course

def Stmt.courses : Stmt → List Course
  | .assign target value => [⟨[.set target value], false⟩]
  | .decrease target amount => [⟨[.set target (.binary .sub target amount)], false⟩]
  | .run e => [⟨[.evaluate e], false⟩]
  | .give e => [⟨[.evaluate e], true⟩]
  | .when condition body =>
    ⟨[.evaluate condition], false⟩ ::
      body.courses.map (Course.andThen ⟨[.evaluate condition], false⟩)
  | .choose condition yes no =>
    (yes.courses ++ no.courses).map (Course.andThen ⟨[.evaluate condition], false⟩)

def courses : List Stmt → List Course
  | [] => [.empty]
  | stmt :: rest => stmt.courses.flatMap fun first => first.continued (courses rest)

/-! ## The record -/

/-- The field of the record that an expression is or points to. -/
def Expr.recordField? : Expr → Option String
  | .arrow (.name pointer) field => if pointer = "out" then some field else none
  | .addressOf e => e.recordField?
  | _ => none

mutual
/-- The fields that are filled while an expression is evaluated, each with what it is filled
from. A call fills what its first argument points to, from its third if there is one. -/
def Expr.stores : Expr → List (String × Option Expr)
  | .name _ | .number _ | .sizeOf _ | .sizeOfType _ => []
  | .deref e | .addressOf e | .not e | .arrow e _ | .dot e _ | .cast _ e => e.stores
  | .binary _ a b => a.stores ++ b.stores
  | .choose condition a b => condition.stores ++ a.stores ++ b.stores
  | .call _ args =>
    Expr.storesOf args ++
      ((args.head?.bind Expr.recordField?).map fun field => (field, args[2]?)).toList

def Expr.storesOf : List Expr → List (String × Option Expr)
  | [] => []
  | e :: rest => e.stores ++ Expr.storesOf rest
end

def Action.stores : Action → List (String × Option Expr)
  | .set target value =>
    value.stores ++ (target.recordField?.map fun field => (field, some value)).toList
  | .evaluate e => e.stores

/-- Whether a record is handed on to user space. -/
def Action.isSend : Action → Bool
  | .evaluate (.call function _) => function = "bpf_perf_event_output"
  | _ => false

namespace Course

def stores (course : Course) : List (String × Option Expr) :=
  course.actions.flatMap Action.stores

/-- The fields in the order in which they are filled. -/
def fields (course : Course) : List String :=
  course.stores.map Prod.fst

def sends (course : Course) : Bool :=
  course.actions.any Action.isSend

theorem andThen_stores (first later : Course) :
    (first.andThen later).stores = first.stores ++ later.stores :=
  List.flatMap_append

theorem andThen_fields (first later : Course) :
    (first.andThen later).fields = first.fields ++ later.fields := by
  rw [fields, andThen_stores, List.map_append]
  rfl

theorem andThen_sends (first later : Course) :
    (first.andThen later).sends = (first.sends || later.sends) :=
  List.any_append

theorem mem_continued {first course : Course} {later : List Course} :
    course ∈ first.continued later ↔
      first.ended = true ∧ course = first ∨
        first.ended = false ∧ ∃ second ∈ later, course = first.andThen second := by
  cases hended : first.ended <;> simp [continued, hended, eq_comm]

/-- What comes after two courses comes after the second of them. -/
theorem continued_flatMap (first : Course) (later last : List Course) :
    (first.continued later).flatMap (fun course => course.continued last) =
      first.continued (later.flatMap fun course => course.continued last) := by
  cases hended : first.ended with
  | true => simp [continued, hended]
  | false =>
    have hfirst (next : List Course) : first.continued next = next.map first.andThen := by
      simp [continued, hended]
    have hsecond (second : Course) : (first.andThen second).continued last =
        (second.continued last).map first.andThen := by
      cases hlast : second.ended <;> simp [continued, hlast, andThen]
    rw [hfirst, hfirst, List.flatMap_map, List.map_flatMap]
    simp only [hsecond]

end Course

/-! ## Statements one after the other -/

theorem courses_append (a b : List Stmt) :
    courses (a ++ b) = (courses a).flatMap fun first => first.continued (courses b) := by
  induction a with
  | nil =>
    rw [courses, List.flatMap_singleton]
    exact (List.map_id _).symm
  | cons stmt rest ih =>
    -- where the first statement returns, neither list goes on
    rw [List.cons_append, courses, courses, ih, List.flatMap_assoc]
    exact congrArg (stmt.courses.flatMap ·)
      (funext fun first => (first.continued_flatMap _ _).symm)

theorem mem_courses_append {a b : List Stmt} {course : Course} :
    course ∈ courses (a ++ b) ↔ ∃ first ∈ courses a,
      first.ended = true ∧ course = first ∨
        first.ended = false ∧ ∃ second ∈ courses b, course = first.andThen second := by
  simp only [courses_append, List.mem_flatMap, Course.mem_continued]

theorem courses_singleton (stmt : Stmt) : courses [stmt] = stmt.courses := by
  have hself (first : Course) : first.continued [.empty] = [first] := by
    obtain ⟨actions, ended⟩ := first
    cases ended <;> simp [Course.continued, Course.andThen, Course.empty]
  rw [courses, courses]
  simp only [hself, List.flatMap_singleton']

/-- A choice is either of two lists of statements. -/
theorem courses_choose (condition : Expr) (yes no : Stmt) :
    courses [.choose condition yes no] =
      courses [.run condition, yes] ++ courses [.run condition, no] := by
  have hrun (branch : Stmt) : courses [.run condition, branch] =
      branch.courses.map (Course.andThen ⟨[.evaluate condition], false⟩) := by
    rw [courses, Stmt.courses, List.flatMap_singleton, courses_singleton]
    rfl
  rw [courses_singleton, Stmt.courses, List.map_append, hrun, hrun]

theorem Stmt.exists_course : (stmt : Stmt) → ∃ course, course ∈ stmt.courses
  | .assign _ _ | .decrease _ _ | .run _ | .give _ | .when _ _ => ⟨_, List.mem_cons_self⟩
  | .choose _ yes _ => by
    obtain ⟨course, hcourse⟩ := yes.exists_course
    exact ⟨_, List.mem_map_of_mem (List.mem_append_left _ hcourse)⟩

theorem exists_course (stmts : List Stmt) : ∃ course, course ∈ courses stmts := by
  induction stmts with
  | nil => exact ⟨.empty, List.mem_singleton.2 rfl⟩
  | cons stmt rest ih =>
    obtain ⟨first, hfirst⟩ := stmt.exists_course
    obtain ⟨second, hsecond⟩ := ih
    cases hended : first.ended with
    | true =>
      exact ⟨first, List.mem_flatMap.2 ⟨first, hfirst, Course.mem_continued.2 (.inl ⟨hended, rfl⟩)⟩⟩
    | false =>
      exact ⟨_, List.mem_flatMap.2 ⟨first, hfirst,
        Course.mem_continued.2 (.inr ⟨hended, second, hsecond, rfl⟩)⟩⟩

/-- However the statements are run, they come to their end, hand on nothing and fill the
given fields in order. -/
def Fills (stmts : List Stmt) (fields : List String) : Prop :=
  ∀ course ∈ courses stmts,
    course.ended = false ∧ course.sends = false ∧ course.fields = fields

theorem fills_nil : Fills [] [] := by
  intro course hcourse
  rw [List.mem_singleton.1 hcourse]
  exact ⟨rfl, rfl, rfl⟩

/-- After statements that come to their end, a course is one through what follows. -/
theorem Fills.mem_append {a b : List Stmt} {x : List String} (ha : Fills a x) {course : Course}
    (h : course ∈ courses (a ++ b)) :
    ∃ second ∈ courses b, course.ended = second.ended ∧ course.sends = second.sends ∧
      course.fields = x ++ second.fields ∧ second.stores ⊆ course.stores := by
  obtain ⟨first, hfirst, ⟨hended, -⟩ | ⟨-, second, hsecond, rfl⟩⟩ := mem_courses_append.1 h
  · exact absurd ((ha first hfirst).1.symm.trans hended) Bool.false_ne_true
  · obtain ⟨-, hquiet, hfields⟩ := ha first hfirst
    refine ⟨second, hsecond, rfl, ?_, ?_, ?_⟩
    · rw [Course.andThen_sends, hquiet, Bool.false_or]
    · rw [Course.andThen_fields, hfields]
    · rw [Course.andThen_stores]
      exact List.subset_append_right _ _

theorem Fills.append {a b : List Stmt} {x y : List String} (ha : Fills a x) (hb : Fills b y) :
    Fills (a ++ b) (x ++ y) := by
  intro course hcourse
  obtain ⟨second, hsecond, hended, hsends, hfields, -⟩ := ha.mem_append hcourse
  obtain ⟨hend, hquiet, hmore⟩ := hb second hsecond
  exact ⟨hended.trans hend, hsends.trans hquiet, hfields.trans (congrArg (x ++ ·) hmore)⟩

theorem fills_assign {target value : Expr} {fields : List String}
    (h : (Action.set target value).stores.map Prod.fst = fields) :
    Fills [.assign target value] fields := by
  intro course hcourse
  rw [courses_singleton, Stmt.courses, List.mem_singleton] at hcourse
  subst hcourse
  refine ⟨rfl, rfl, ?_⟩
  simpa [Course.fields, Course.stores] using h

theorem fills_run {e : Expr} {fields : List String} (hquiet : (Action.evaluate e).isSend = false)
    (h : e.stores.map Prod.fst = fields) : Fills [.run e] fields := by
  intro course hcourse
  rw [courses_singleton, Stmt.courses, List.mem_singleton] at hcourse
  subst hcourse
  refine ⟨rfl, ?_, ?_⟩
  · simpa [Course.sends] using hquiet
  · simpa [Course.fields, Course.stores, Action.stores] using h

theorem fills_choose {condition : Expr} {yes no : Stmt} {fields : List String}
    (hcondition : Fills [.run condition] []) (hyes : Fills [yes] fields)
    (hno : Fills [no] fields) : Fills [.choose condition yes no] fields := by
  intro course hcourse
  rw [courses_choose, List.mem_append] at hcourse
  rcases hcourse with htaken | hnot
  · exact hcondition.append hyes course htaken
  · exact hcondition.append hno course hnot

/-- However the statements are run, a field is filled from an expression. -/
def AlwaysStores (stmts : List Stmt) (field : String) (source : Expr) : Prop :=
  ∀ course ∈ courses stmts, (field, some source) ∈ course.stores

section

variable {a b : List Stmt} {field : String} {source : Expr}

theorem AlwaysStores.append_left (h : AlwaysStores a field source) :
    AlwaysStores (a ++ b) field source := by
  intro course hcourse
  obtain ⟨first, hfirst, ⟨-, rfl⟩ | ⟨-, second, -, rfl⟩⟩ := mem_courses_append.1 hcourse
  · exact h course hfirst
  · rw [Course.andThen_stores]
    exact List.mem_append_left _ (h first hfirst)

theorem AlwaysStores.append_right {fields : List String} (ha : Fills a fields)
    (h : AlwaysStores b field source) : AlwaysStores (a ++ b) field source := by
  intro course hcourse
  obtain ⟨second, hsecond, -, -, -, hstores⟩ := ha.mem_append hcourse
  exact hstores (h second hsecond)

end

/-- However the statements are run, nothing is filled and nothing handed on; they may come to
their end. -/
structure Quiet (stmts : List Stmt) : Prop where
  silent : ∀ course ∈ courses stmts, course.sends = false ∧ course.stores = []
  passes : ∃ course ∈ courses stmts, course.ended = false

theorem Fills.quiet {stmts : List Stmt} (h : Fills stmts []) : Quiet stmts := by
  constructor
  · intro course hcourse
    obtain ⟨-, hquiet, hfields⟩ := h course hcourse
    exact ⟨hquiet, List.map_eq_nil_iff.1 hfields⟩
  · obtain ⟨course, hcourse⟩ := exists_course stmts
    exact ⟨course, hcourse, (h course hcourse).1⟩

/-- A condition on which the function gives up. -/
theorem quiet_when_give {condition : Expr} (hquiet : (Action.evaluate condition).isSend = false)
    (h : condition.stores = []) (n : Nat) : Quiet [.when condition (.give (.number n))] := by
  have hcourses : courses [.when condition (.give (.number n))] =
      [⟨[.evaluate condition], false⟩, ⟨[.evaluate condition, .evaluate (.number n)], true⟩] :=
    courses_singleton _
  have hnumber : (Action.evaluate (.number n)).isSend = false := rfl
  constructor
  · rw [hcourses]
    simp [Course.sends, Course.stores, Action.stores, Expr.stores, hquiet, hnumber, h]
  · exact ⟨_, hcourses ▸ List.mem_cons_self, rfl⟩

/-- A course through quiet statements and others ends in the quiet ones, or is like one
through the others. -/
theorem Quiet.mem_append {a b : List Stmt} (ha : Quiet a) {course : Course}
    (h : course ∈ courses (a ++ b)) :
    (course.ended = true ∧ course.sends = false ∧ course.stores = []) ∨
      ∃ second ∈ courses b, course.ended = second.ended ∧ course.sends = second.sends ∧
        course.stores = second.stores := by
  obtain ⟨first, hfirst, hcase⟩ := mem_courses_append.1 h
  obtain ⟨hquiet, hnone⟩ := ha.silent first hfirst
  rcases hcase with ⟨hended, rfl⟩ | ⟨-, second, hsecond, rfl⟩
  · exact .inl ⟨hended, hquiet, hnone⟩
  · refine .inr ⟨second, hsecond, rfl, ?_, ?_⟩
    · rw [Course.andThen_sends, hquiet, Bool.false_or]
    · rw [Course.andThen_stores, hnone, List.nil_append]

theorem Quiet.exists_append {a b : List Stmt} (ha : Quiet a) {second : Course}
    (h : second ∈ courses b) :
    ∃ course ∈ courses (a ++ b), course.ended = second.ended ∧ course.sends = second.sends := by
  obtain ⟨first, hfirst, hpasses⟩ := ha.passes
  refine ⟨first.andThen second, mem_courses_append.2 ⟨first, hfirst, .inr ⟨hpasses, second, h,
    rfl⟩⟩, rfl, ?_⟩
  rw [Course.andThen_sends, (ha.silent first hfirst).1, Bool.false_or]

theorem Quiet.append {a b : List Stmt} (ha : Quiet a) (hb : Quiet b) : Quiet (a ++ b) := by
  constructor
  · -- a course that gives up in the first part has done nothing either
    intro course hcourse
    rcases ha.mem_append hcourse with ⟨-, hquiet, hnone⟩ | ⟨second, hsecond, -, hsends, hstores⟩
    · exact ⟨hquiet, hnone⟩
    · rw [hsends, hstores]
      exact hb.silent second hsecond
  · obtain ⟨second, hsecond, hpasses⟩ := hb.passes
    obtain ⟨course, hcourse, hended, -⟩ := ha.exists_append hsecond
    exact ⟨course, hcourse, hended.trans hpasses⟩

/-- However the statements are run, they fill the given fields in order, hand the record on
and return. -/
def HandsOn (stmts : List Stmt) (fields : List String) : Prop :=
  ∀ course ∈ courses stmts,
    course.ended = true ∧ course.sends = true ∧ course.fields = fields

theorem Fills.append_handsOn {a b : List Stmt} {x y : List String} (ha : Fills a x)
    (hb : HandsOn b y) : HandsOn (a ++ b) (x ++ y) := by
  intro course hcourse
  obtain ⟨second, hsecond, hended, hsends, hfields, -⟩ := ha.mem_append hcourse
  obtain ⟨hend, hsent, hmore⟩ := hb second hsecond
  exact ⟨hended.trans hend, hsends.trans hsent, hfields.trans (congrArg (x ++ ·) hmore)⟩

end ProbeTrace.Code
