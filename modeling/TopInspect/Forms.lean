import Mathlib.Logic.Function.Basic
import Mathlib.Data.List.Induction

/-! The form hook of hooks/use-form.ts. Each call is taken to see a fresh render: React renders
after an event, so a handler's closure reads the data that the updates of earlier events have
left. Two calls from one closure are not modelled. What the error map shows is compared with the
history of the form alone. -/
namespace TopInspect.Forms

variable {Field Value : Type} [DecidableEq Field]

/-- An object schema: the keys of its shape, and what a field's own schema says of a value. -/
structure Schema (Field Value : Type) where
  shape : List Field
  safeParse : Field → Value → Except (List String) Unit
  key : Field → String
  undefined : Value
  blank : Value

structure Form (Field Value : Type) where
  data : Field → Value
  errors : Field → Option String

/-- The first message that is not empty stands for the field; a failure always has one. -/
def validateField (schema : Schema Field Value) (field : Field) (value : Value) : Option String :=
  match schema.safeParse field value with
  | .ok _ => none
  | .error issues =>
      some (((issues.head?).filter (· ≠ "")).getD (schema.key field ++ " is invalid"))

def updateFieldError (errors : Field → Option String) (field : Field)
    (errorMessage : Option String) :
    Field → Option String :=
  Function.update errors field errorMessage

/-- A field without a default starts undefined where its schema lets it, and blank elsewhere. -/
def useForm (schema : Schema Field Value) (initialData : Field → Option Value) :
    Form Field Value where
  data := fun field =>
    if field ∈ schema.shape then
      match initialData field with
      | some value => value
      | none =>
          match schema.safeParse field schema.undefined with
          | .ok _ => schema.undefined
          | .error _ => schema.blank
    else schema.undefined
  errors := fun _ => none

namespace Form

def set (form : Form Field Value) (field : Field) (value : Value) : Form Field Value where
  data := Function.update form.data field value
  errors := updateFieldError form.errors field none

/-- One round of the loop over the fields, on the verdict and the errors so far. -/
def check (schema : Schema Field Value) (data : Field → Value)
    (verdict : Bool × (Field → Option String)) (field : Field) :
    Bool × (Field → Option String) :=
  if field ∈ schema.shape then
    match validateField schema field (data field) with
    | none => verdict
    | some message => (false, Function.update verdict.2 field (some message))
  else verdict

def validate (schema : Schema Field Value) (form : Form Field Value) (field : Option Field) :
    Form Field Value × Bool :=
  let fieldsToValidate := match field with
    | some field => [field]
    | none => schema.shape
  let verdict := fieldsToValidate.foldl (check schema form.data) (true, fun _ => none)
  let errors := match field with
    | some field => updateFieldError form.errors field (verdict.2 field)
    | none => verdict.2
  ({ form with errors }, verdict.1)

@[simp] theorem set_data (form : Form Field Value) (field : Field) (value : Value) :
    (form.set field value).data = Function.update form.data field value := rfl

@[simp] theorem validate_data (schema : Schema Field Value) (form : Form Field Value)
    (field : Option Field) : (form.validate schema field).1.data = form.data := rfl

section Loop
variable (schema : Schema Field Value) (data : Field → Value)

def issue (field : Field) : Option String :=
  if field ∈ schema.shape then validateField schema field (data field) else none

theorem check_field (verdict : Bool × (Field → Option String)) (field : Field) :
    check schema data verdict field =
      match issue schema data field with
      | none => verdict
      | some message => (false, Function.update verdict.2 field (some message)) := by
  unfold check issue
  split
  · rfl
  · rfl

/-- The loop reports every field that it meets with its own issue, and no other. -/
theorem checked_errors (fields : List Field) (verdict : Bool × (Field → Option String))
    (field : Field) :
    (fields.foldl (check schema data) verdict).2 field =
      if field ∈ fields ∧ (issue schema data field).isSome then issue schema data field
      else verdict.2 field := by
  induction fields generalizing verdict with
  | nil => simp
  | cons first rest ih =>
      rw [List.foldl_cons, ih, check_field]
      by_cases later : field ∈ rest ∧ (issue schema data field).isSome
      · simp [later.1, later.2]
      · rw [if_neg later]
        by_cases same : field = first
        · subst same
          cases found : issue schema data field with
          | none => simp
          | some message => simp
        · have other : ¬ (field ∈ first :: rest ∧ (issue schema data field).isSome) := by
            rintro ⟨member, present⟩
            rcases List.mem_cons.mp member with here | there
            · exact same here
            · exact later ⟨there, present⟩
          rw [if_neg other]
          cases issue schema data first with
          | none => rfl
          | some message => exact Function.update_of_ne same _ _

theorem checked_verdict (fields : List Field) (verdict : Bool × (Field → Option String)) :
    (fields.foldl (check schema data) verdict).1 = true ↔
      verdict.1 = true ∧ ∀ field ∈ fields, issue schema data field = none := by
  induction fields generalizing verdict with
  | nil => simp
  | cons first rest ih =>
      rw [List.foldl_cons, ih, check_field]
      cases found : issue schema data first with
      | none => simp [found]
      | some message => simp [found]

end Loop

variable (schema : Schema Field Value) (form : Form Field Value)

theorem validate_one (field other : Field) :
    (form.validate schema (some field)).1.errors other =
      if other = field then issue schema form.data field else form.errors other := by
  have loop := checked_errors schema form.data [field] (true, fun _ => none) field
  simp only [validate, updateFieldError, Function.update_apply]
  split
  · rw [loop]
    cases issue schema form.data field <;> simp
  · rfl

theorem validate_all (field : Field) :
    (form.validate schema none).1.errors field = issue schema form.data field := by
  have loop := checked_errors schema form.data schema.shape (true, fun _ => none) field
  simp only [validate]
  rw [loop]
  by_cases member : field ∈ schema.shape
  · cases found : issue schema form.data field <;> simp [member]
  · simp [issue, member]

theorem validate_verdict (field : Option Field) :
    (form.validate schema field).2 = true ↔
      ∀ one ∈ (match field with | some field => [field] | none => schema.shape),
        issue schema form.data one = none := by
  have loop := checked_verdict schema form.data
    (match field with | some field => [field] | none => schema.shape) (true, fun _ => none)
  exact loop.trans (and_iff_right rfl)

end Form

/-! What has happened to a form. -/
section History

inductive Edit (Field Value : Type) where
  | set (field : Field) (value : Value)
  | validate (field : Option Field)

def apply (schema : Schema Field Value) (form : Form Field Value) : Edit Field Value →
    Form Field Value
  | .set field value => form.set field value
  | .validate field => (form.validate schema field).1

def run (schema : Schema Field Value) (form : Form Field Value) (edits : List (Edit Field Value)) :
    Form Field Value :=
  edits.foldl (apply schema) form

def enter (field : Field) (value : Value) : Edit Field Value → Value
  | .set other next => if other = field then next else value
  | .validate _ => value

def inspect (field : Field) (seen : Bool) : Edit Field Value → Bool
  | .set other _ => if other = field then false else seen
  | .validate none => true
  | .validate (some other) => if other = field then true else seen

def entered (field : Field) (start : Value) (edits : List (Edit Field Value)) : Value :=
  edits.foldl (enter field) start

/-- The field has been validated since it was last set. -/
def inspected (field : Field) (edits : List (Edit Field Value)) : Bool :=
  edits.foldl (inspect field) false

theorem entered_snoc (field : Field) (start : Value) (edits : List (Edit Field Value))
    (edit : Edit Field Value) :
    entered field start (edits ++ [edit]) = enter field (entered field start edits) edit := by
  simp [entered]

theorem inspected_snoc (field : Field) (edits : List (Edit Field Value)) (edit : Edit Field Value) :
    inspected field (edits ++ [edit]) = inspect field (inspected field edits) edit := by
  simp [inspected]

/-- A form holds what was entered last, and shows the issues of the fields that have been
validated since, each with the value that it has; it is told valid when no field asked about has
an issue. -/
structure Accounts (schema : Schema Field Value) (start : Form Field Value)
    (edits : List (Edit Field Value)) (form : Form Field Value) : Prop where
  data : ∀ field, form.data field = entered field (start.data field) edits
  errors : ∀ field, form.errors field =
    if inspected field edits then Form.issue schema form.data field else none
  verdict : ∀ target, (form.validate schema target).2 = true ↔
    ∀ field ∈ (match target with | some field => [field] | none => schema.shape),
      Form.issue schema form.data field = none

theorem issue_congr (schema : Schema Field Value) (data other : Field → Value) (field : Field)
    (same : data field = other field) :
    Form.issue schema data field = Form.issue schema other field := by
  unfold Form.issue
  rw [same]

theorem accounts_apply (schema : Schema Field Value) (start form : Form Field Value)
    (edits : List (Edit Field Value)) (edit : Edit Field Value)
    (accounts : Accounts schema start edits form) :
    Accounts schema start (edits ++ [edit]) (apply schema form edit) := by
  refine ⟨?_, ?_, Form.validate_verdict schema _⟩
  · intro field
    rw [entered_snoc, ← accounts.data field]
    cases edit with
    | set other value =>
        simp only [apply, enter, Form.set_data, Function.update_apply, eq_comm (a := field)]
    | validate target => rfl
  · intro field
    rw [inspected_snoc]
    cases edit with
    | set other value =>
        by_cases same : other = field
        · simp [apply, Form.set, updateFieldError, inspect, same]
        · -- another field has been set: the value, and so the issue, is what it was
          have value_kept : (form.set other value).data field = form.data field :=
            Function.update_of_ne (Ne.symm same) _ _
          have error_kept : (form.set other value).errors field = form.errors field :=
            Function.update_of_ne (Ne.symm same) _ _
          simp only [apply, inspect, same, if_false]
          rw [issue_congr schema _ form.data field value_kept, error_kept]
          exact accounts.errors field
    | validate target =>
        cases target with
        | none => simp only [apply, Form.validate_all, Form.validate_data, inspect, if_true]
        | some other =>
            simp only [apply, Form.validate_one, Form.validate_data, inspect, eq_comm (a := field)]
            by_cases same : other = field
            · simp [same]
            · simp only [same, if_false]
              exact accounts.errors field

/-- Over any run of edits the form's data and errors are those of its history. -/
theorem form_accounts (schema : Schema Field Value) (initialData : Field → Option Value)
    (edits : List (Edit Field Value)) :
    Accounts schema (useForm schema initialData) edits
      (run schema (useForm schema initialData) edits) := by
  induction edits using List.reverseRecOn with
  | nil => exact ⟨fun _ => rfl, fun _ => rfl, Form.validate_verdict schema _⟩
  | append_singleton edits edit ih =>
      have next := accounts_apply schema _ _ edits edit ih
      rw [run, List.foldl_append]
      exact next

end History

end TopInspect.Forms
