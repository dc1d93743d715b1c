import Flowline.Proofs.Ident
import Flowline.Proofs.Instant
import Flowline.Proofs.Json.Document
import Flowline.Store.Document

/-!
# The texts of stored records

What is stored for a record is read back with its revision.  Every field comes back as it
was written, and every instant as its text shows it.
-/

namespace Flowline

open Json Json.Document

/-! ## Values -/

theorem Ident.decode?_encode {kind : IdentKind} (ident : Ident kind) :
    decode? kind (ofValue ident.encode) = some ident := by
  rw [encode, ofValue, decode?, Ulid.parse_text]
  rfl

theorem Instant.decode?_encode {instant : Instant} (allowed : instant.Allowed) :
    decode? (ofValue instant.encode) = some instant.settled :=
  parse?_text allowed

theorem text?_string (text : String) : text? (ofValue (.string text)) = some text := rfl

theorem natBelow?_ofNat {bound count : Nat} (fits : count < bound) :
    natBelow? bound (ofValue (.ofNat count)) = some count := by
  simp [Json.ofNat, Json.ofInt, ofValue, natBelow?, fits]

theorem LogLevel.decode?_name (setAside : Bool) (level : LogLevel) :
    decode? setAside (ofValue (.string level.name)) = some level := by
  cases level <;> rfl

theorem Execution.Status.decode?_name (setAside : Bool) (status : Execution.Status) :
    decode? setAside (ofValue (.string status.name)) = some status := by
  cases status <;> rfl

/-! ## Fields -/

namespace Json.Document.Record

variable {α β : Type} {record : Record} {name : String} {read : Document → Option α}

theorem required_of {value : Json} {result : α}
    (found : Keyed.get? name record.found = some (ofValue value))
    (reads : read (ofValue value) = some result) : record.required name read = some result := by
  rw [required, found]
  exact reads

theorem optional_of {encode : β → Json} {field : Option β} {keep : β → α}
    (found : Keyed.get? name record.found = (field.map encode).map ofValue)
    (filled : ∀ value, encode value ≠ .null)
    (reads : ∀ value ∈ field, read (ofValue (encode value)) = some (keep value)) :
    record.optional name read = some (field.map keep) := by
  rw [optional, defaulted, found]
  cases field with
  | none => rfl
  | some value =>
      have reads := reads value rfl
      have filled := filled value
      rw [Option.map_some, Option.map_some]
      simp only
      cases same : encode value with
      | null => exact (filled same).elim
      | _ =>
          rw [same] at reads
          simpa [optional?, ofValue] using reads

/-- A field that comes back as it was written. -/
theorem optional_self {encode : α → Json} {field : Option α}
    (found : Keyed.get? name record.found = (field.map encode).map ofValue)
    (filled : ∀ value, encode value ≠ .null)
    (reads : ∀ value ∈ field, read (ofValue (encode value)) = some value) :
    record.optional name read = some field := by
  have kept : record.optional name read = some (field.map id) := optional_of found filled reads
  rwa [Option.map_id_fun, id_eq] at kept

end Json.Document.Record

theorem mapM_encode {α β : Type} {read : Document → Option α} {encode : β → Json} {keep : β → α}
    {items : List β} (reads : ∀ item ∈ items, read (ofValue (encode item)) = some (keep item)) :
    (ofItems (items.map encode)).mapM read = some (items.map keep) := by
  induction items with
  | nil => rfl
  | cons item rest ih =>
      obtain ⟨first, behind⟩ := List.forall_mem_cons.mp reads
      rw [List.map_cons, ofItems, List.mapM_cons, first, ih behind]
      rfl

/-! ## Records -/

/-- A line as its text shows it. -/
def LogLine.settled (line : LogLine) : LogLine :=
  { line with timestamp := line.timestamp.settled }

theorem LogLine.decode?_encode (setAside : Bool) {line : LogLine}
    (allowed : line.timestamp.Allowed) :
    decode? setAside (ofValue line.encode) = some line.settled := by
  obtain ⟨record, known, found⟩ := record?_of_written ["timestamp", "level", "message", "nodeId"]
    (rfl : line.encode = presentMembers _) (by simp)
  have nodeId : record.optional "nodeId" text? = some line.nodeId :=
    Record.optional_self (found "nodeId" (by simp)) (fun _ => Json.noConfusion) fun _ _ => rfl
  rw [decode?, known]
  simp [Record.required, found, List.lookup_cons, nodeId, Instant.decode?_encode allowed,
    LogLevel.decode?_name, text?_string, settled]

theorem ErrorSummary.decode?_encode (summary : ErrorSummary) :
    decode? (ofValue summary.encode) = some summary := by
  obtain ⟨record, known, found⟩ := record?_of_written ["message", "stack"]
    (rfl : summary.encode = presentMembers _) (by simp)
  have stack : record.optional "stack" text? = some summary.stack :=
    Record.optional_self (found "stack" (by simp)) (fun _ => Json.noConfusion) fun _ _ => rfl
  rw [decode?, known]
  simp [Record.required, found, stack, text?_string]

namespace Execution

/-- A record as its text shows it. -/
def settled (record : Execution) : Execution :=
  { record with
    startedAt := record.startedAt.settled
    completedAt := record.completedAt.map Instant.settled
    logs := record.logs.map LogLine.settled }

@[simp] theorem settled_id (record : Execution) : record.settled.id = record.id := rfl

/-- A record whose numbers have their widths and whose instants are of some kind. -/
structure Fits (kind : Instant → Prop) (record : Execution) : Prop where
  workflowVersion : record.workflowVersion < UInt32.size
  duration : ∀ milliseconds ∈ record.duration, milliseconds < UInt64.size
  startedAt : kind record.startedAt
  completedAt : ∀ instant ∈ record.completedAt, kind instant
  logs : ∀ line ∈ record.logs, kind line.timestamp

instance (kind : Instant → Prop) [DecidablePred kind] (record : Execution) :
    Decidable (record.Fits kind) :=
  decidable_of_iff (record.workflowVersion < UInt32.size ∧
    (∀ milliseconds ∈ record.duration, milliseconds < UInt64.size) ∧ kind record.startedAt ∧
    (∀ instant ∈ record.completedAt, kind instant) ∧ ∀ line ∈ record.logs, kind line.timestamp)
    ⟨fun ⟨workflowVersion, duration, startedAt, completedAt, logs⟩ =>
      ⟨workflowVersion, duration, startedAt, completedAt, logs⟩,
    fun ⟨workflowVersion, duration, startedAt, completedAt, logs⟩ =>
      ⟨workflowVersion, duration, startedAt, completedAt, logs⟩⟩

theorem Fits.mono {kind other : Instant → Prop} {record : Execution} (fits : record.Fits kind)
    (weaker : ∀ {instant}, kind instant → other instant) : record.Fits other where
  workflowVersion := fits.workflowVersion
  duration := fits.duration
  startedAt := weaker fits.startedAt
  completedAt instant there := weaker (fits.completedAt instant there)
  logs line listed := weaker (fits.logs line listed)

/-- With regular instants a record is as its text shows it. -/
theorem Fits.settled {record : Execution} (fits : record.Fits Instant.Regular) :
    record.settled = record := by
  have completedAt : record.completedAt.map Instant.settled = record.completedAt := by
    cases there : record.completedAt with
    | none => rfl
    | some instant => rw [Option.map_some, (fits.completedAt instant there).settled]
  have logs : record.logs.map LogLine.settled = record.logs := by
    rw [List.map_congr_left fun line listed => ?_, List.map_id]
    rw [LogLine.settled, (fits.logs line listed).settled]
    rfl
  rw [Execution.settled, fits.startedAt.settled, completedAt, logs]

/-- The fields of a record are read from wherever they are found. -/
theorem decodeRecord?_of_found {record : Execution} (fits : record.Fits Instant.Allowed)
    {fields : Record} (found : ∀ name ∈ fieldNames, Keyed.get? name fields.found =
      (record.encodeFields.lookup name).join.map ofValue) :
    decodeRecord? true fields = some record.settled := by
  simp only [fieldNames, encodeFields, List.mem_cons, List.not_mem_nil, or_false, List.lookup_cons,
    forall_eq_or_imp, forall_eq, BEq.rfl, Option.join_some, Option.map_some,
    String.reduceBEq] at found
  obtain ⟨id, workflowId, workflowName, workflowVersion, status, startedAt, completedAt, duration,
    error, logs⟩ := found
  have id := Record.required_of id (Ident.decode?_encode record.id)
  have workflowId := Record.required_of workflowId (Ident.decode?_encode record.workflowId)
  have workflowName := Record.required_of workflowName (text?_string record.workflowName)
  have workflowVersion := Record.required_of workflowVersion (natBelow?_ofNat fits.workflowVersion)
  have status := Record.required_of status (Status.decode?_name true record.status)
  have startedAt := Record.required_of startedAt (Instant.decode?_encode fits.startedAt)
  have completedAt := Record.optional_of completedAt (fun _ => Json.noConfusion)
    fun instant there => Instant.decode?_encode (fits.completedAt instant there)
  have duration := Record.optional_self duration (fun _ => Json.noConfusion)
    fun milliseconds there => natBelow?_ofNat (fits.duration milliseconds there)
  have error := Record.optional_self error (fun _ => Json.noConfusion)
    fun summary _ => summary.decode?_encode
  have lines : list? (LogLine.decode? true) (ofValue (.array (record.logs.map LogLine.encode))) =
      some (record.logs.map LogLine.settled) :=
    mapM_encode fun line listed => LogLine.decode?_encode true (fits.logs line listed)
  simp only [decodeRecord?, count32?, count64?, Record.defaulted, id, workflowId, workflowName,
    workflowVersion, status, startedAt, completedAt, duration, error, logs, lines]
  rfl

end Execution

/-! ## Texts -/

theorem printable_ofNat {levels count : Nat} (fits : count < UInt64.size) :
    Printable levels (.ofNat count) := by
  unfold Json.ofNat Json.ofInt Printable
  exact Numeral.legible_natCast fits

theorem LogLine.printable_encode (levels : Nat) (line : LogLine) :
    Printable (levels + 1) line.encode :=
  printable_presentMembers (by simp [Printable, Instant.encode])

theorem ErrorSummary.printable_encode (levels : Nat) (summary : ErrorSummary) :
    Printable (levels + 1) summary.encode :=
  printable_presentMembers (by simp [Printable])

theorem LogLine.printable_encodeAll (levels : Nat) (lines : List LogLine) :
    PrintableItems (levels + 1) (lines.map encode) := by
  induction lines with
  | nil => trivial
  | cons line rest ih => exact ⟨line.printable_encode levels, ih⟩

theorem Execution.printable_encodeFields (levels : Nat) {record : Execution}
    (fits : record.Fits Instant.Allowed) :
    ∀ member ∈ record.encodeFields, ∀ value ∈ member.2, Printable (levels + 2) value := by
  have version : Printable (levels + 2) (.ofNat record.workflowVersion) :=
    printable_ofNat (fits.workflowVersion.trans (by decide))
  have duration (milliseconds : Nat) (there : record.duration = some milliseconds) :
      Printable (levels + 2) (.ofNat milliseconds) :=
    printable_ofNat (fits.duration milliseconds there)
  have logs := LogLine.printable_encodeAll levels record.logs
  have error (summary : ErrorSummary) := summary.printable_encode (levels + 1)
  simpa [encodeFields, Printable, Instant.encode, Ident.encode, version, logs, error] using duration

namespace Versioned

/-- A stored text is read back with its revision. -/
theorem ofText?_toText {versioned : Versioned} (fits : versioned.record.Fits Instant.Allowed)
    (counted : versioned.revision.number < UInt64.size) :
    ofText? versioned.toText = some ⟨versioned.record.settled, versioned.revision⟩ := by
  have printable : Printable nestingLimit versioned.encode := by
    have revision : Printable 126 (.ofNat versioned.revision.number) := printable_ofNat counted
    apply printable_presentMembers
    rw [List.forall_mem_append]
    constructor
    · simpa [Printable] using revision
    · exact Execution.printable_encodeFields 124 fits
  obtain ⟨fields, known, found⟩ := record?_of_written (["type", "revision"] ++ Execution.fieldNames)
    (rfl : versioned.encode = presentMembers _) (by simp [Execution.encodeFields])
  have type : fields.required "type" text? = some tag :=
    Record.required_of (found "type" (by simp)) (text?_string tag)
  have revision : fields.required "revision" count64? = some versioned.revision.number :=
    Record.required_of (found "revision" (by simp)) (natBelow?_ofNat counted)
  have record : Execution.decodeRecord? true fields = some versioned.record.settled := by
    apply Execution.decodeRecord?_of_found fits
    intro name listed
    have other : name ≠ "type" ∧ name ≠ "revision" := by
      constructor <;> rintro rfl <;> simp [Execution.fieldNames] at listed
    rw [found name (List.mem_append_right _ listed)]
    simp [List.lookup_cons, beq_false_of_ne other.1, beq_false_of_ne other.2]
  obtain ⟨members, whole⟩ : ∃ members, ofValue versioned.encode = .object (ofMembers members) :=
    ⟨_, rfl⟩
  rw [whole] at known
  rw [ofText?, toText, parse?_indented printable, Option.bind_some, whole]
  simp only [decode?, readableMembers_ofMembers, if_true, known]
  simp only [Option.bind_eq_bind, Option.bind_some, type, revision, record]

end Versioned

end Flowline
