import Flowline.Proofs.Store.Document
import Flowline.Proofs.Workflow.Reading

/-!
# Workflow documents written back

A workflow is written in a form of its own: fields have names, missing ones are filled in or left
out, and members that are not known are gone.  What is read from that form is the workflow that
was written, except that a temperature too large for 32 bits is written as null.
-/

namespace Flowline

open Json Json.Document Number

/-! ## Temperatures -/

namespace Number.Binary

variable {number : Binary32}

/-- A whole number of 32 bits is written as one of 64 bits that is read as it again, and one that
is too large as null. -/
theorem Rounded.encodes (rounded : number.Rounded) :
    (number.isFinite = true ∧ ∃ value : Binary64, encodeBinary32 number = .number (.float value) ∧
      Numeral.Given value ∧ (Document.number (.float value)).binary32? = some number) ∨
    (number.isFinite = false ∧ encodeBinary32 number = .null) := by
  obtain ⟨held, whole⟩ := rounded
  unfold encodeBinary32
  by_cases finite : number.isFinite = true
  · rw [if_pos finite]
    refine .inl ⟨finite, ?_⟩
    by_cases zero : number.units = 0
    · obtain ⟨negative, units⟩ := number
      obtain rfl : units = 0 := zero
      exact ⟨⟨negative, 0⟩, rfl, ⟨Format.holds_zero _, Format.limit_pos _⟩,
        congrArg some (convert_zero negative)⟩
    · obtain ⟨point, exponent, found, less, holds, back⟩ :=
        Binary.convert_toBinary_shortest held zero (isWhole_of_dvd finite whole)
      rw [if_neg zero, found]
      exact ⟨_, rfl, ⟨holds, less⟩, congrArg some back⟩
  · rw [if_neg finite]
    exact .inr ⟨Bool.eq_false_iff.mpr finite, rfl⟩

end Number.Binary

/-! ## What is written comes back -/

namespace Json.Document.Record

variable {α : Type} {record : Record} {name : String} {read : Document → Option α}

theorem defaulted_of {value : Json} {result missing : α}
    (found : Keyed.get? name record.found = some (ofValue value))
    (reads : read (ofValue value) = some result) :
    record.defaulted name read missing = some result := by
  rw [defaulted, found]
  exact reads

/-- A field that is null where it has no value. -/
theorem optional_nullable {encode : α → Json} {field : Option α}
    (found : Keyed.get? name record.found = some (ofValue (nullable encode field)))
    (reads : ∀ value ∈ field, encode value ≠ .null ∧ read (ofValue (encode value)) = some value) :
    record.optional name read = some field := by
  rw [optional, defaulted, found]
  cases field with
  | none => rfl
  | some value =>
      obtain ⟨filled, reads⟩ := reads value rfl
      simp only [nullable]
      cases same : encode value with
      | null => exact (filled same).elim
      | _ =>
          rw [same] at reads
          simpa [optional?, ofValue] using reads

/-- A text that is null where there is none. -/
theorem optional_text {field : Option String}
    (found : Keyed.get? name record.found = some (ofValue (nullable .string field))) :
    record.optional name text? = some field :=
  optional_nullable found fun _ _ => ⟨Json.noConfusion, rfl⟩

/-- A count that is null where there is none. -/
theorem optional_count {bound : Nat} {field : Option Nat}
    (found : Keyed.get? name record.found = some (ofValue (nullable .ofNat field)))
    (fits : ∀ count ∈ field, count < bound) :
    record.optional name (natBelow? bound) = some field :=
  optional_nullable found fun count there =>
    ⟨Json.noConfusion, natBelow?_ofNat (fits count there)⟩

/-- A temperature that is null where there is none, or where it is too large. -/
theorem optional_temperature {field : Option Binary32}
    (found : Keyed.get? name record.found = some (ofValue (nullable encodeBinary32 field)))
    (rounded : ∀ number ∈ field, number.Rounded) :
    record.optional name binary32? = some (field.filter Binary.isFinite) := by
  cases field with
  | none => exact optional_nullable found nofun
  | some number =>
      have encodes := (rounded number rfl).encodes
      rw [nullable] at found
      generalize encodeBinary32 number = encoded at encodes found
      rw [optional, defaulted, found]
      obtain ⟨finite, value, rfl, -, back⟩ | ⟨infinite, rfl⟩ := encodes
      · rw [Option.filter_some, if_pos finite]
        exact congrArg (Option.map some) back
      · rw [Option.filter_some, if_neg (by simp [infinite])]
        rfl

end Json.Document.Record

/-- Texts in the order of their keys. -/
theorem keyed?_encodeTexts {texts : Keyed String} (ascending : texts.Ascending) :
    keyed? text? (ofValue (encodeTexts texts)) = some texts := by
  have written : encodeTexts texts = .object (texts.map fun entry => (entry.1, .string entry.2)) :=
    congrArg Json.object (Keyed.Ascending.ofList (List.pairwise_map.mpr ascending))
  obtain ⟨readEntry, all, reads⟩ :
      ∃ readEntry : Option String × Document → Option (String × String),
        (∀ members, keyed? text? (.object members) = (members.mapM readEntry).map Keyed.ofList) ∧
          ∀ key text, readEntry (some key, .string text) = some (key, text) :=
    ⟨_, fun _ => rfl, fun _ _ => rfl⟩
  have every : (Document.ofMembers (texts.map fun entry => (entry.1, Json.string entry.2))).mapM
      readEntry = some texts := by
    clear written ascending
    induction texts with
    | nil => rfl
    | cons entry rest ih =>
        rw [List.map_cons, Document.ofMembers, List.mapM_cons, ih, ofValue, reads]
        rfl
  rw [written, ofValue, all, every, Option.map_some, ascending.ofList]

theorem HttpMethod.decode?_name (setAside : Bool) (method : HttpMethod) :
    decode? setAside (ofValue (.string method.name)) = some method := by
  cases method <;> rfl

theorem Workflow.Status.decode?_name (status : Workflow.Status) :
    decode? (ofValue (.string status.name)) = some status := by
  cases status <;> rfl

/-- Without a temperature that is too large. -/
def AiGenerateConfig.kept (config : AiGenerateConfig) : AiGenerateConfig :=
  { config with temperature := config.temperature.filter Binary.isFinite }

namespace NodeConfig

/-- Without a temperature that is too large. -/
def kept : NodeConfig → NodeConfig
  | aiGenerate config => .aiGenerate config.kept
  | config => config

theorem lookup_map_some {α : Type} (name : String) (members : List (String × α)) :
    ((members.map fun member => (member.1, some member.2)).lookup name).join =
      members.lookup name := by
  induction members with
  | nil => rfl
  | cons member rest ih =>
      rw [List.map_cons, List.lookup_cons, List.lookup_cons]
      cases name == member.1 <;> simp [ih]

/-- The tag of a written configuration is its type, and its fields are behind it. -/
theorem tagged?_encode (config : NodeConfig) :
    ∃ rest, (ofValue config.encode).tagged? = some (config.type.name, .object rest) ∧
      ∀ names : List String, "type" ∉ names →
        ∃ record, (Document.object rest).record? names = some record ∧
          ∀ name ∈ names,
            Keyed.get? name record.found = (config.encodeFields.lookup name).map ofValue := by
  obtain ⟨rest, tagged, fields⟩ := @tagged?_of_written config.type.name config.encode
    (config.encodeFields.map fun member => (member.1, some member.2))
    (by cases config <;> rfl) (by cases config <;> simp [encodeFields])
  simp only [lookup_map_some] at fields
  exact ⟨rest, tagged, fields⟩

theorem decodeHttpRequest?_of_found {levels : Nat} {config : HttpRequestConfig}
    (fits : config.Fits levels) {document : Document} {record : Record}
    (known : document.record? ["method", "url", "headers", "query", "body", "timeoutMs"] =
      some record)
    (found : ∀ name ∈ ["method", "url", "headers", "query", "body", "timeoutMs"],
      Keyed.get? name record.found =
        ((httpRequest config).encodeFields.lookup name).map ofValue) :
    decodeHttpRequest? document = some config := by
  simp only [encodeFields, List.mem_cons, List.not_mem_nil, or_false, List.lookup_cons,
    forall_eq_or_imp, forall_eq, BEq.rfl, Option.map_some, String.reduceBEq] at found
  obtain ⟨method, url, headers, query, body, timeout⟩ := found
  have method := @Record.defaulted_of _ _ _ _ _ _ HttpMethod.get method
    (HttpMethod.decode?_name true config.method)
  have url := Record.required_of url (text?_string config.url)
  have headers := @Record.defaulted_of _ _ _ _ _ _ [] headers (keyed?_encodeTexts fits.headers)
  have query := @Record.defaulted_of _ _ _ _ _ _ [] query (keyed?_encodeTexts fits.query)
  have body := Record.optional_nullable body fun value there =>
    ⟨(fits.body value there).1, (fits.body value there).2.reads⟩
  have timeout := Record.optional_count timeout fits.timeout
  rw [decodeHttpRequest?, known]
  simp only [Option.bind_eq_bind, Option.bind_some, method, url, headers, query, body, count64?,
    timeout]

theorem decodeIntegration?_of_found {levels : Nat} {config : IntegrationConfig}
    (fits : config.Fits levels) {document : Document} {record : Record}
    (known : document.record? ["connector", "operation", "parameters", "credentials"] =
      some record)
    (found : ∀ name ∈ ["connector", "operation", "parameters", "credentials"],
      Keyed.get? name record.found =
        ((integration config).encodeFields.lookup name).map ofValue) :
    decodeIntegration? document = some config := by
  simp only [encodeFields, List.mem_cons, List.not_mem_nil, or_false, List.lookup_cons,
    forall_eq_or_imp, forall_eq, BEq.rfl, Option.map_some, String.reduceBEq] at found
  obtain ⟨connector, operation, parameters, credentials⟩ := found
  have connector := Record.required_of connector (text?_string config.connector)
  have operation := Record.required_of operation (text?_string config.operation)
  have parameters := @Record.defaulted_of _ _ _ _ _ _ (.object []) parameters fits.parameters.reads
  have credentials :=
    @Record.defaulted_of _ _ _ _ _ _ [] credentials (keyed?_encodeTexts fits.credentials)
  rw [decodeIntegration?, known]
  simp only [Option.bind_eq_bind, Option.bind_some, connector, operation, parameters, credentials]

theorem decodeAiGenerate?_of_found {config : AiGenerateConfig} (fits : config.Fits)
    {document : Document} {record : Record}
    (known : document.record? ["prompt", "system", "model", "maxTokens", "temperature"] =
      some record)
    (found : ∀ name ∈ ["prompt", "system", "model", "maxTokens", "temperature"],
      Keyed.get? name record.found =
        ((aiGenerate config).encodeFields.lookup name).map ofValue) :
    decodeAiGenerate? document = some config.kept := by
  simp only [encodeFields, List.mem_cons, List.not_mem_nil, or_false, List.lookup_cons,
    forall_eq_or_imp, forall_eq, BEq.rfl, Option.map_some, String.reduceBEq] at found
  obtain ⟨prompt, system, model, maxTokens, temperature⟩ := found
  have prompt := Record.required_of prompt (text?_string config.prompt)
  have system := Record.optional_text system
  have model := Record.optional_text model
  have maxTokens := Record.optional_count maxTokens fits.maxTokens
  have temperature := Record.optional_temperature temperature fits.temperature
  rw [decodeAiGenerate?, known]
  simp only [Option.bind_eq_bind, Option.bind_some, prompt, system, model, count32?, maxTokens,
    temperature, AiGenerateConfig.kept]

/-- A configuration comes back, but for a temperature that is too large. -/
theorem decode?_encode {levels : Nat} {config : NodeConfig} (fits : config.Fits levels) :
    decode? (ofValue config.encode) = some config.kept := by
  obtain ⟨rest, tagged, fields⟩ := config.tagged?_encode
  rw [decode?, tagged]
  cases config with
  | webhook path =>
      obtain ⟨record, known, found⟩ := fields ["path"] (by decide)
      have path := Record.optional_text (found "path" List.mem_cons_self)
      simp only [type, NodeType.name, decodeTagged?, Option.bind_eq_bind, Option.bind_some, known,
        path, kept]
  | manual | unknown => rfl
  | schedule cron timezone =>
      obtain ⟨record, known, found⟩ := fields ["cron", "timezone"] (by decide)
      simp only [encodeFields, List.mem_cons, List.not_mem_nil, or_false, List.lookup_cons,
        forall_eq_or_imp, forall_eq, BEq.rfl, Option.map_some, String.reduceBEq] at found
      have cron := Record.required_of found.1 (text?_string cron)
      have timezone := Record.optional_text found.2
      simp only [type, NodeType.name, decodeTagged?, decodeSchedule?, Option.bind_eq_bind,
        Option.bind_some, known, cron, timezone, kept]
  | httpRequest config =>
      obtain ⟨record, known, found⟩ :=
        fields ["method", "url", "headers", "query", "body", "timeoutMs"] (by decide)
      simp only [type, NodeType.name, decodeTagged?, Option.bind_eq_bind, Option.bind_some,
        decodeHttpRequest?_of_found fits known found, Option.map_some, kept]
  | integration config =>
      obtain ⟨record, known, found⟩ :=
        fields ["connector", "operation", "parameters", "credentials"] (by decide)
      simp only [type, NodeType.name, decodeTagged?, Option.bind_eq_bind, Option.bind_some,
        decodeIntegration?_of_found fits known found, Option.map_some, kept]
  | aiGenerate config =>
      obtain ⟨record, known, found⟩ :=
        fields ["prompt", "system", "model", "maxTokens", "temperature"] (by decide)
      simp only [type, NodeType.name, decodeTagged?, Option.bind_eq_bind, Option.bind_some,
        decodeAiGenerate?_of_found fits known found, Option.map_some, kept]
  | setVariables values =>
      obtain ⟨record, known, found⟩ := fields ["values"] (by decide)
      have reads : members? (ofValue (.object values)) = some values := by
        rw [members?, Stays.reads fits]
      have values := Record.required_of (found "values" List.mem_cons_self) reads
      simp only [type, NodeType.name, decodeTagged?, Option.bind_eq_bind, Option.bind_some, known,
        values, kept]
  | delay milliseconds =>
      obtain ⟨record, known, found⟩ := fields ["durationMs"] (by decide)
      have milliseconds := Record.required_of (found "durationMs" List.mem_cons_self)
        (natBelow?_ofNat fits)
      simp only [type, NodeType.name, decodeTagged?, Option.bind_eq_bind, Option.bind_some, known,
        count64?, milliseconds, kept]
  | log level message =>
      obtain ⟨record, known, found⟩ := fields ["level", "message"] (by decide)
      simp only [encodeFields, List.mem_cons, List.not_mem_nil, or_false, List.lookup_cons,
        forall_eq_or_imp, forall_eq, BEq.rfl, Option.map_some, String.reduceBEq] at found
      have level := @Record.defaulted_of _ _ _ _ _ _ LogLevel.info found.1
        (LogLevel.decode?_name true level)
      have message := Record.required_of found.2 (text?_string message)
      simp only [type, NodeType.name, decodeTagged?, decodeLog?, Option.bind_eq_bind,
        Option.bind_some, known, level, message, kept]
  | condition expression =>
      obtain ⟨record, known, found⟩ := fields ["condition"] (by decide)
      have expression := Record.required_of (found "condition" List.mem_cons_self)
        (text?_string expression)
      simp only [type, NodeType.name, decodeTagged?, Option.bind_eq_bind, Option.bind_some, known,
        expression, kept]

end NodeConfig

theorem NodePolicy.decode?_encode {policy : NodePolicy} (fits : policy.Fits) :
    decode? (ofValue policy.encode) = some policy := by
  obtain ⟨record, known, found⟩ := @record?_of_written
    ["retries", "retryDelayMs", "timeoutMs", "continueOnError", "parallel"] policy.encode
    [("retries", some (.ofNat policy.retries)),
      ("retryDelayMs", some (nullable .ofNat policy.retryDelay)),
      ("timeoutMs", some (nullable .ofNat policy.timeout)),
      ("continueOnError", some (.bool policy.continueOnError)),
      ("parallel", some (.bool policy.parallel))] rfl (by simp)
  simp only [List.mem_cons, List.not_mem_nil, or_false, List.lookup_cons, forall_eq_or_imp, forall_eq,
    BEq.rfl, Option.join_some, Option.map_some, String.reduceBEq] at found
  obtain ⟨retries, retryDelay, timeout, continueOnError, parallel⟩ := found
  have retries := @Record.defaulted_of _ _ _ _ _ _ 0 retries (natBelow?_ofNat fits.retries)
  have retryDelay := Record.optional_count retryDelay fits.retryDelay
  have timeout := Record.optional_count timeout fits.timeout
  have continueOnError := @Record.defaulted_of _ _ _ bool? _ _ false continueOnError rfl
  have parallel := @Record.defaulted_of _ _ _ bool? _ _ false parallel rfl
  rw [decode?, known]
  simp only [Option.bind_eq_bind, Option.bind_some, count32?, count64?, retries, retryDelay,
    timeout, continueOnError, parallel]

/-- Without a temperature that is too large. -/
def Node.kept (node : Node) : Node := { node with config := node.config.kept }

theorem Node.decode?_encode {levels : Nat} {node : Node} (fits : node.Fits levels) :
    decode? (ofValue node.encode) = some node.kept := by
  obtain ⟨record, known, found⟩ := record?_of_written
    ["id", "name", "config", "execution", "errorHandler"]
    (rfl : node.encode = presentMembers _) (by simp)
  simp only [List.mem_cons, List.not_mem_nil, or_false, List.lookup_cons, forall_eq_or_imp, forall_eq,
    BEq.rfl, Option.join_some, Option.map_some, String.reduceBEq] at found
  obtain ⟨id, name, config, policy, errorHandler⟩ := found
  have id := Record.required_of id (text?_string node.id)
  have name := Record.required_of name (text?_string node.name)
  have config := Record.required_of config (NodeConfig.decode?_encode fits.config)
  have policy := Record.optional_self policy (fun _ => Json.noConfusion)
    fun policy there => NodePolicy.decode?_encode (fits.policy policy there)
  have errorHandler : record.defaulted "errorHandler" bool? false = some node.errorHandler := by
    rw [Record.defaulted, errorHandler]
    cases node.errorHandler <;> rfl
  rw [decode?, known]
  simp only [Option.bind_eq_bind, Option.bind_some, id, name, config, policy, errorHandler,
    Node.kept]

theorem Connection.decode?_encode (connection : Connection) :
    decode? (ofValue connection.encode) = some connection := by
  obtain ⟨record, known, found⟩ := record?_of_written ["from", "to", "condition"]
    (rfl : connection.encode = presentMembers _) (by simp)
  simp only [List.mem_cons, List.not_mem_nil, or_false, List.lookup_cons, forall_eq_or_imp, forall_eq,
    BEq.rfl, Option.join_some, Option.map_some, String.reduceBEq] at found
  obtain ⟨source, target, guard⟩ := found
  have source := Record.required_of source (text?_string connection.source)
  have target := Record.required_of target (text?_string connection.target)
  have guard := Record.optional_self guard (fun _ => Json.noConfusion)
    fun guard _ => text?_string guard
  rw [decode?, known]
  simp only [Option.bind_eq_bind, Option.bind_some, source, target, guard]

namespace Workflow

/-- Without the temperatures that are too large. -/
def kept (workflow : Workflow) : Workflow :=
  { workflow with nodes := workflow.nodes.map Node.kept }

/-- A workflow comes back, whoever reads it and whenever, but for the temperatures that are too
large. -/
theorem decode?_encode {levels : Nat} {workflow : Workflow} (fits : workflow.Fits levels)
    (created : Instant.yearAllowed workflow.createdAt.year = true)
    (updated : Instant.yearAllowed workflow.updatedAt.year = true)
    (freshId : WorkflowId) (now : Instant) :
    decode? freshId now (ofValue workflow.encode) = some workflow.kept := by
  have created : workflow.createdAt.Allowed := ⟨created, fits.createdAt.fraction⟩
  have updated : workflow.updatedAt.Allowed := ⟨updated, fits.updatedAt.fraction⟩
  obtain ⟨record, known, found⟩ := @record?_of_written
    ["id", "name", "status", "nodes", "connections", "trigger", "version", "createdAt",
      "updatedAt"] workflow.encode
    [("id", some workflow.id.encode), ("name", some (.string workflow.name)),
      ("status", some (.string workflow.status.name)),
      ("nodes", some (.array (workflow.nodes.map Node.encode))),
      ("connections", some (.array (workflow.connections.map Connection.encode))),
      ("trigger", some (.string workflow.trigger)), ("version", some (.ofNat workflow.version)),
      ("createdAt", some workflow.createdAt.encode),
      ("updatedAt", some workflow.updatedAt.encode)] rfl (by simp)
  simp only [List.mem_cons, List.not_mem_nil, or_false, List.lookup_cons, forall_eq_or_imp, forall_eq,
    BEq.rfl, Option.join_some, Option.map_some, String.reduceBEq] at found
  obtain ⟨id, name, status, nodes, connections, trigger, version, createdAt, updatedAt⟩ := found
  have id := @Record.defaulted_of _ _ _ _ _ _ freshId id (Ident.decode?_encode workflow.id)
  have name := Record.required_of name (text?_string workflow.name)
  have status := @Record.defaulted_of _ _ _ _ _ _ Status.draft status
    (Status.decode?_name workflow.status)
  have eachNode : list? Node.decode? (ofValue (.array (workflow.nodes.map Node.encode))) =
      some (workflow.nodes.map Node.kept) :=
    mapM_encode fun node listed => Node.decode?_encode (fits.nodes node listed)
  have eachConnection : list? Connection.decode?
      (ofValue (.array (workflow.connections.map Connection.encode))) =
      some (workflow.connections.map fun connection => connection) :=
    mapM_encode fun connection _ => connection.decode?_encode
  rw [List.map_id'] at eachConnection
  have nodes := Record.required_of nodes eachNode
  have connections := @Record.defaulted_of _ _ _ _ _ _ [] connections eachConnection
  have trigger := Record.required_of trigger (text?_string workflow.trigger)
  have version := @Record.defaulted_of _ _ _ _ _ _ 1 version (natBelow?_ofNat fits.version)
  have createdAt := @Record.defaulted_of _ _ _ _ _ _ now createdAt (Instant.decode?_encode created)
  have updatedAt := @Record.defaulted_of _ _ _ _ _ _ now updatedAt (Instant.decode?_encode updated)
  rw [decode?, known]
  simp only [Option.bind_eq_bind, Option.bind_some, count32?, id, name, status, nodes, connections,
    trigger, version, createdAt, updatedAt, fits.createdAt.settled, fits.updatedAt.settled, kept]

end Workflow

/-! ## What is written is printed -/

section Printing

variable {levels : Nat}

theorem printable_nullable {α : Type} {encode : α → Json} {field : Option α}
    (printable : ∀ value ∈ field, Printable levels (encode value)) :
    Printable levels (nullable encode field) := by
  cases field with
  | none => trivial
  | some value => exact printable value rfl

theorem printable_nullable_text (field : Option String) :
    Printable levels (nullable .string field) :=
  printable_nullable fun _ _ => trivial

theorem printable_nullable_count {bound : Nat} {field : Option Nat} (within : bound ≤ UInt64.size)
    (fits : ∀ count ∈ field, count < bound) : Printable levels (nullable .ofNat field) :=
  printable_nullable fun count there => printable_ofNat ((fits count there).trans_le within)

theorem printable_encodeTexts (texts : Keyed String) :
    Printable (levels + 1) (encodeTexts texts) := by
  refine printable_ofMembers fun member listed => ?_
  obtain ⟨entry, -, rfl⟩ := List.mem_map.mp listed
  trivial

theorem printable_array {α : Type} {encode : α → Json} {items : List α}
    (printable : ∀ item ∈ items, Printable levels (encode item)) :
    Printable (levels + 1) (.array (items.map encode)) := by
  have all : PrintableItems levels (items.map encode) := by
    induction items with
    | nil => trivial
    | cons item rest ih =>
        obtain ⟨first, behind⟩ := List.forall_mem_cons.mp printable
        exact ⟨first, ih behind⟩
  exact all

theorem NodeConfig.printable_encode {config : NodeConfig} (fits : config.Fits (levels + 1)) :
    Printable (levels + 2) config.encode := by
  have fields : ∀ member ∈ config.encodeFields, Printable (levels + 1) member.2 := by
    cases config with
    | httpRequest config =>
        have body : Printable (levels + 1) (nullable id config.body) :=
          printable_nullable fun value there => (fits.body value there).2.printable
        have timeout : Printable (levels + 1) (nullable .ofNat config.timeout) :=
          printable_nullable_count le_rfl fits.timeout
        simp [encodeFields, body, timeout, printable_encodeTexts, Printable]
    | integration config =>
        simp [encodeFields, fits.parameters.printable, printable_encodeTexts, Printable]
    | aiGenerate config =>
        have maxTokens : Printable (levels + 1) (nullable .ofNat config.maxTokens) :=
          printable_nullable_count (by decide) fits.maxTokens
        have temperature : Printable (levels + 1) (nullable encodeBinary32 config.temperature) := by
          refine printable_nullable fun number there => ?_
          have encodes := (fits.temperature number there).encodes
          generalize encodeBinary32 number = encoded at encodes
          obtain ⟨-, value, rfl, given, -⟩ | ⟨-, rfl⟩ := encodes
          · exact Numeral.legible_float given
          · trivial
        simp [encodeFields, maxTokens, temperature, printable_nullable_text, Printable]
    | setVariables values =>
        have values : Printable (levels + 1) (.object values) := Stays.printable fits
        simp [encodeFields, values]
    | delay milliseconds =>
        have milliseconds : Printable (levels + 1) (.ofNat milliseconds) := printable_ofNat fits
        simp [encodeFields, milliseconds]
    | _ => simp [encodeFields, printable_nullable_text, Printable]
  exact printable_ofMembers (List.forall_mem_cons.mpr ⟨trivial, fields⟩)

theorem NodePolicy.printable_encode {policy : NodePolicy} (fits : policy.Fits) :
    Printable (levels + 1) policy.encode := by
  have retries : Printable levels (.ofNat policy.retries) :=
    printable_ofNat (fits.retries.trans (by decide))
  have retryDelay : Printable levels (nullable .ofNat policy.retryDelay) :=
    printable_nullable_count le_rfl fits.retryDelay
  have timeout : Printable levels (nullable .ofNat policy.timeout) :=
    printable_nullable_count le_rfl fits.timeout
  refine printable_ofMembers ?_
  simp [retries, retryDelay, timeout, Printable]

theorem Node.printable_encode {node : Node} (fits : node.Fits (levels + 1)) :
    Printable (levels + 3) node.encode := by
  have config := NodeConfig.printable_encode fits.config
  have policy (policy : NodePolicy) (there : node.policy = some policy) :
      Printable (levels + 2) policy.encode :=
    NodePolicy.printable_encode (fits.policy policy there)
  refine printable_presentMembers ?_
  cases node.errorHandler <;> simpa [config, Printable] using policy

theorem Connection.printable_encode (connection : Connection) :
    Printable (levels + 1) connection.encode :=
  printable_presentMembers (by simp [Printable])

-- The value stands for itself, as unifying with one that is computed would compute it.
theorem Workflow.printable_encode {workflow : Workflow} {value : Json}
    (fits : workflow.Fits (levels + 1)) (encoded : workflow.encode = value) :
    Printable (levels + 5) value := by
  have nodes : Printable (levels + 4) (.array (workflow.nodes.map Node.encode)) :=
    printable_array fun node listed => Node.printable_encode (fits.nodes node listed)
  have connections : Printable (levels + 4) (.array (workflow.connections.map Connection.encode)) :=
    printable_array fun connection _ => connection.printable_encode
  have version : Printable (levels + 4) (.ofNat workflow.version) :=
    printable_ofNat (fits.version.trans (by decide))
  rw [← encoded]
  refine printable_ofMembers ?_
  simp only [List.forall_mem_cons]
  exact ⟨trivial, trivial, trivial, nodes, connections, trivial, version, trivial, trivial,
    by simp⟩

end Printing

/-! ## Unknown types -/

namespace NodeConfig

theorem decodeTagged?_of_unknown {tag : String} (other : tag ∉ NodeType.all.map NodeType.name)
    (rest : Document) : decodeTagged? tag rest = rest.nothing?.map fun _ => .unknown := by
  unfold decodeTagged?
  split
  case h_11 => rfl
  all_goals exact (other (by decide)).elim

/-- A configuration of a type that is not known is read as such, unless it is a list and there is
something behind its tag. -/
theorem decode?_eq_unknown_iff {document rest : Document} {tag : String}
    (tagged : document.tagged? = some (tag, rest))
    (other : tag ∉ NodeType.all.map NodeType.name) :
    decode? document = some .unknown ↔
      ∀ item items, document ≠ .array (.string tag :: item :: items) := by
  have reads : decode? document = rest.nothing?.map fun _ => .unknown := by
    rw [decode?, tagged]
    exact decodeTagged?_of_unknown other rest
  rw [reads]
  unfold tagged? at tagged
  split at tagged
  · split at tagged
    · split at tagged
      · cases tagged
        simp [nothing?]
      · cases tagged
    · cases tagged
  next items =>
    split at tagged
    · cases tagged
      cases items <;> simp [nothing?]
    · cases tagged
  · cases tagged

end NodeConfig

/-! ## Texts of workflows -/

/-- The temperature of a text to be generated. -/
def NodeConfig.temperature? : NodeConfig → Option Binary32
  | aiGenerate config => config.temperature
  | _ => none

theorem NodeConfig.kept_eq_self_iff {config : NodeConfig} :
    config.kept = config ↔ ∀ number ∈ config.temperature?, number.isFinite = true := by
  cases config with
  | aiGenerate config =>
      obtain ⟨prompt, system, model, maxTokens, temperature⟩ := config
      cases temperature with
      | none => simp [kept, AiGenerateConfig.kept, temperature?]
      | some number => simp [kept, AiGenerateConfig.kept, temperature?, Option.filter]
  | _ => simp [kept, temperature?]

namespace Workflow

/-- The temperatures of the texts that a workflow generates. -/
def temperatures (workflow : Workflow) : List Binary32 :=
  workflow.nodes.filterMap fun node => node.config.temperature?

/-- Nothing is lost exactly if no temperature is too large. -/
theorem kept_eq_self_iff {workflow : Workflow} :
    workflow.kept = workflow ↔ ∀ number ∈ workflow.temperatures, number.isFinite = true := by
  have each (node : Node) : node.kept = node ↔
      ∀ number ∈ node.config.temperature?, number.isFinite = true := by
    rw [← NodeConfig.kept_eq_self_iff]
    cases node
    simp [Node.kept]
  have all : workflow.nodes.map Node.kept = workflow.nodes.map (fun node => node) ↔
      ∀ node ∈ workflow.nodes, node.kept = node := List.map_inj_left
  have same : workflow.kept = workflow ↔
      workflow.nodes.map Node.kept = workflow.nodes.map fun node => node := by
    rw [List.map_id']
    cases workflow
    simp [kept]
  rw [same, all]
  simp only [each, temperatures, List.mem_filterMap]
  constructor
  · rintro finite number ⟨node, listed, there⟩
    exact finite node listed number there
  · intro finite node listed number there
    exact finite number ⟨node, listed, there⟩

/-- A workflow that was read from a text without fractions survives being written back: its
document is read from either text of it, and the workflow comes back from that document exactly
if none of its temperatures is too large for 32 bits.  A type of node that is not known is read
as such, except where it stands at the front of a list that goes on. -/
theorem survives_rewriting {text : String} {document : Document} {freshId : WorkflowId}
    {now : Instant} {workflow : Workflow} (parsed : Document.parse? text = some document)
    (decoded : decode? freshId now document = some workflow)
    (whole : ∀ numeral ∈ document.numbers, numeral.isWhole = true)
    (current : now.nanoseconds < Instant.nanosecondsPerSecond)
    (created : Instant.yearAllowed workflow.createdAt.year = true)
    (updated : Instant.yearAllowed workflow.updatedAt.year = true) :
    (∀ written ∈ [workflow.encode.compact, workflow.encode.indented],
      Document.parse? written = some (ofValue workflow.encode)) ∧
    (∀ otherId later, decode? otherId later (ofValue workflow.encode) = some workflow ↔
      ∀ number ∈ workflow.temperatures, number.isFinite = true) ∧
    ∀ configuration rest tag, configuration.tagged? = some (tag, rest) →
      tag ∉ NodeType.all.map NodeType.name →
      (NodeConfig.decode? configuration = some .unknown ↔
        ∀ item items, configuration ≠ .array (.string tag :: item :: items)) := by
  have within : document.Within Numeral.Plain (122 + 5) :=
    ((within_of_parse parsed).and whole).mono fun holds => ⟨holds.1, holds.2⟩
  have fits : workflow.Fits (122 + 1) := fits_of_decode? current within decoded
  have comes := decode?_encode fits created updated
  generalize encoded : workflow.encode = value at comes ⊢
  have printable : Printable nestingLimit value := printable_encode fits encoded
  refine ⟨?_, fun otherId later => ?_, fun _ _ _ => NodeConfig.decode?_eq_unknown_iff⟩
  · simp only [List.forall_mem_cons]
    exact ⟨parse?_compact printable, parse?_indented printable, by simp⟩
  · rw [comes, Option.some.injEq]
    exact kept_eq_self_iff

/-- The lines of a workflow with missing fields, null ones and ones that are not known, and with
records given as lists. -/
def mixedLines : List String := [
  "\x7b\"name\":\"mixed\",\"colour\":\"red\",",
  "\"trigger\":\"start\",\"nodes\":[",
  "[\"start\",\"Start\",[\"manual\"]],",
  "\x7b\"id\":\"fax\",\"name\":\"Fax\",\"config\":",
  "\x7b\"type\":\"fax_machine\",\"number\":5\x7d\x7d,",
  "\x7b\"id\":\"ask\",\"name\":\"Ask\",\"config\":",
  "\x7b\"type\":\"ai_generate\",\"prompt\":\"Hi\",",
  "\"system\":null,\"temperature\":1\x7d,",
  "\"execution\":[2,null,1000]\x7d],",
  "\"connections\":[[\"start\",\"ask\"],",
  "\x7b\"from\":\"ask\",\"to\":\"fax\",\"condition\":null\x7d],",
  "\"createdAt\":\"2024-03-01 10:00:00 +01:00\"\x7d"]

theorem survives_rewriting_mixed :
    ∃ document workflow, Document.parse? ("\n".intercalate mixedLines) = some document ∧
      decode? ⟨⟨1⟩⟩ ⟨0, 500⟩ document = some workflow ∧
      (Document.parse? workflow.encode.compact).bind (decode? ⟨⟨2⟩⟩ ⟨86400, 0⟩) =
        some workflow := by
  have evaluated : ((Document.parse? ("\n".intercalate mixedLines)).bind fun document =>
      (decode? ⟨⟨1⟩⟩ ⟨0, 500⟩ document).map fun workflow =>
        (document.numbers.all Numeral.isWhole, Instant.yearAllowed workflow.createdAt.year,
          Instant.yearAllowed workflow.updatedAt.year,
          workflow.temperatures.all Binary.isFinite)) = some (true, true, true, true) := by
    -- Line by line, as taking a long literal apart is slow.
    rw [Document.parse?, String.toList_intercalate]
    decide +kernel
  obtain ⟨document, parsed, evaluated⟩ := Option.bind_eq_some_iff.mp evaluated
  obtain ⟨workflow, decoded, evaluated⟩ := Option.map_eq_some_iff.mp evaluated
  simp only [Prod.mk.injEq, List.all_eq_true] at evaluated
  obtain ⟨whole, created, updated, finite⟩ := evaluated
  obtain ⟨reads, comes, -⟩ :=
    survives_rewriting parsed decoded whole (by decide) created updated
  refine ⟨document, workflow, parsed, decoded, ?_⟩
  rw [reads _ List.mem_cons_self, Option.bind_some]
  exact (comes ⟨⟨2⟩⟩ ⟨86400, 0⟩).mpr finite

/-- The lines of a workflow whose last node is configured as given. -/
def configuredLines (configuration : String) : List String := [
  "\x7b\"connections\":[\x7b\"from\":\"s\",\"to\":\"fax\"\x7d],",
  "\"name\":\"Flow\",\"nodes\":[",
  "\x7b\"config\":\x7b\"type\":\"manual\"\x7d,",
  "\"id\":\"s\",\"name\":\"Start\"\x7d,",
  "\x7b\"config\":",
  configuration,
  ",\"id\":\"fax\",\"name\":\"Send fax\"\x7d],",
  "\"trigger\":\"s\"\x7d"]

/-- A workflow with a node of a type that is not known is read where the configuration of the
node is an object, and not where it is a list of the same. -/
theorem unknown_type_in_list :
    (Document.parse? ("\n".intercalate (configuredLines "[\"fax_machine\",\"555-0100\"]"))).map
        (fun document => (decode? ⟨⟨1⟩⟩ ⟨0, 500⟩ document).map fun workflow =>
          workflow.nodes.map Node.config) = some none ∧
    (Document.parse? ("\n".intercalate
        (configuredLines "\x7b\"type\":\"fax_machine\",\"number\":\"555-0100\"\x7d"))).map
        (fun document => (decode? ⟨⟨1⟩⟩ ⟨0, 500⟩ document).map fun workflow =>
          workflow.nodes.map Node.config) = some (some [.manual, .unknown]) := by
  rw [Document.parse?, Document.parse?, String.toList_intercalate, String.toList_intercalate]
  decide +kernel

end Workflow

end Flowline
