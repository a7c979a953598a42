import InspectionForms.Proofs.JsonText
import InspectionForms.Proofs.TableSteps

namespace InspectionForms

theorem Status.ofText?_code (status : Status) : Status.ofText? status.code = some status := by
  cases status <;> rfl

/-- Reading a list of things succeeds if reading each of them does. -/
theorem isOk_mapM_iff {α β ε : Type} {f : α → Except ε β} {xs : List α} :
    (xs.mapM f).isOk ↔ ∀ x ∈ xs, (f x).isOk := by
  induction xs with
  | nil => exact ⟨fun _ x member => (nomatch member), fun _ => rfl⟩
  | cons x xs ih =>
    rw [List.mapM_cons, List.forall_mem_cons, ← ih]
    cases first : f x with
    | error cause => exact ⟨fun h => (nomatch h), fun h => (nomatch h.1)⟩
    | ok y =>
      cases xs.mapM f with
      | error cause => exact ⟨fun h => (nomatch h), fun h => (nomatch h.2)⟩
      | ok ys => exact ⟨fun _ => ⟨rfl, rfl⟩, fun _ => rfl⟩

/-- What is wrong with a list that cannot be read is wrong with one of its members. -/
theorem exists_of_mapM_eq_error {α β ε : Type} {f : α → Except ε β} {xs : List α} {cause : ε}
    (failed : xs.mapM f = .error cause) : ∃ x ∈ xs, f x = .error cause := by
  induction xs with
  | nil => cases failed
  | cons x xs ih =>
    rw [List.mapM_cons] at failed
    cases first : f x with
    | error other =>
      rw [first] at failed
      obtain rfl : other = cause := Except.error.inj failed
      exact ⟨x, List.mem_cons_self, first⟩
    | ok y =>
      rw [first] at failed
      cases rest : xs.mapM f with
      | error other =>
        rw [rest] at failed
        obtain rfl : other = cause := Except.error.inj failed
        obtain ⟨z, member, broken⟩ := ih rest
        exact ⟨z, List.mem_cons_of_mem x member, broken⟩
      | ok ys =>
        rw [rest] at failed
        cases failed

theorem map_some_eq_ok_iff {α ε : Type} {result : Except ε α} {value : α} :
    result.map some = .ok (some value) ↔ result = .ok value := by
  cases result <;> simp [Except.map]

namespace Json

/-- Each binary64 number in a value is read as itself where it has been written. -/
def DoublesReadBack (json : Json) : Prop :=
  ∀ d, Number.double d ∈ json.numbers → Number.ofChars? (Number.double d).text = some (.double d)

/-- Each binary64 number in a value is read as some number where it has been written. -/
def DoublesRead (json : Json) : Prop :=
  ∀ d, Number.double d ∈ json.numbers → (Number.ofChars? (Number.double d).text).isSome

variable {json : Json}

theorem reread?_eq_self_iff_doubles : json.reread? = some json ↔ json.DoublesReadBack := by
  rw [reread?_eq_self_iff]
  refine ⟨fun h d member => h _ member, fun h n member => ?_⟩
  cases n with
  | integer i inRange => exact Number.ofChars?_text_integer i inRange
  | double d => exact h d member

theorem isSome_reread?_iff_doubles : json.reread?.isSome ↔ json.DoublesRead := by
  rw [isSome_reread?_iff]
  refine ⟨fun h d member => h _ member, fun h n member => ?_⟩
  cases n with
  | integer i inRange =>
    rw [Number.ofChars?_text_integer i inRange]
    rfl
  | double d => exact h d member

end Json

namespace StoredRow

variable {status : Status} {json : Json}

/-- A row whose payload is a written value is read unless that is nested too deep or holds a number that is none
when it is read. -/
theorem read_of_written (row : StoredRow) (code : row.statusText = status.code) (isNormal : json.IsNormal)
    (written : row.payloadText = json.compact) :
    row.read = match if json.depth ≤ Json.nestingLimit then json.reread? else none with
      | none => .error (.payloadNotJson row.payloadText)
      | some payload => .ok ⟨row.id, row.formId, payload, status, row.createdAt, row.updatedAt⟩ := by
  have parsed := Json.parse?_compact isNormal
  cases again : if json.depth ≤ Json.nestingLimit then json.reread? else none with
  | none =>
    rw [again] at parsed
    simp only [read, code, Status.ofText?_code, written, parsed]
  | some payload =>
    rw [again] at parsed
    simp only [read, code, Status.ofText?_code, written, parsed]

theorem isOk_read_iff {row : StoredRow} (code : row.statusText = status.code) (isNormal : json.IsNormal)
    (written : row.payloadText = json.compact) :
    row.read.isOk ↔ json.depth ≤ Json.nestingLimit ∧ json.DoublesRead := by
  rw [read_of_written row code isNormal written, ← Json.isSome_reread?_iff_doubles]
  by_cases shallow : json.depth ≤ Json.nestingLimit
  · rw [if_pos shallow, and_iff_right shallow]
    cases json.reread? with
    | none => exact ⟨fun h => (nomatch h), fun h => (nomatch h)⟩
    | some payload => exact ⟨fun _ => rfl, fun _ => rfl⟩
  · rw [if_neg shallow]
    exact ⟨fun h => (nomatch h), fun h => absurd h.1 shallow⟩

variable {record : SubmissionRecord}

theorem read_ofRecord (id : Int) (isNormal : record.payload.IsNormal) :
    (ofRecord id record).read =
      match if record.payload.depth ≤ Json.nestingLimit then record.payload.reread? else none with
      | none => .error (.payloadNotJson record.payload.compact)
      | some payload => .ok ⟨id, record.formId, payload, record.status, record.createdAt, record.updatedAt⟩ :=
  read_of_written (ofRecord id record) rfl isNormal rfl

theorem read_ofRecord_iff (id : Int) (isNormal : record.payload.IsNormal) :
    (ofRecord id record).read =
        .ok ⟨id, record.formId, record.payload, record.status, record.createdAt, record.updatedAt⟩ ↔
      record.payload.depth ≤ Json.nestingLimit ∧ record.payload.DoublesReadBack := by
  rw [read_ofRecord id isNormal, ← Json.reread?_eq_self_iff_doubles]
  by_cases shallow : record.payload.depth ≤ Json.nestingLimit
  · rw [if_pos shallow, and_iff_right shallow]
    cases again : record.payload.reread? with
    | none => exact ⟨fun h => (nomatch h), fun h => (nomatch h)⟩
    | some payload => simp
  · rw [if_neg shallow]
    exact ⟨fun h => (nomatch h), fun h => absurd h.1 shallow⟩

theorem read_ofRecord_of_deep (id : Int) (isNormal : record.payload.IsNormal)
    (deep : ¬ record.payload.depth ≤ Json.nestingLimit) :
    (ofRecord id record).read = .error (.payloadNotJson record.payload.compact) := by
  rw [read_ofRecord id isNormal, if_neg deep]

end StoredRow

end InspectionForms
