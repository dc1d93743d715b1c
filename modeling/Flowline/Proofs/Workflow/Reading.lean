import Flowline.Proofs.Instant
import Flowline.Proofs.Json.Reading
import Flowline.Proofs.Number.Narrowing
import Flowline.Workflow.Document

/-!
# Workflows that were read

What the fields of a workflow can hold once it has been read from a document without fractions:
counts have their widths, texts are in the order of their keys, free values stay as they are
when they are written again, temperatures are whole or too large, and instants are as their
texts show them.
-/

namespace Flowline

open Json Json.Document Number

/-! ## Whole numbers -/

/-- Whether a number has no fraction. -/
def Json.Numeral.isWhole : Json.Numeral → Bool
  | integer _ => true
  | float value => value.isWhole

/-- What a whole number becomes in 32 bits. -/
structure Number.Binary.Rounded (number : Binary32) : Prop where
  held : Format.single.Holds number.units
  whole : 2 ^ Format.single.scale ∣ number.units

theorem Number.Binary.rounded_of_binary32? {numeral : Numeral} {number : Binary32}
    (whole : numeral.isWhole = true)
    (reads : (Document.number numeral).binary32? = some number) : number.Rounded := by
  cases numeral with
  | integer value =>
      cases reads
      exact ⟨held_ofFraction (by decide) Nat.one_pos _ _, dvd_ofInt value⟩
  | float value =>
      cases reads
      exact ⟨held_convert (by decide) value, dvd_convert whole⟩

/-! ## What a field holds once it has been read -/

/-- A number without a fraction that is read back from its text. -/
structure Json.Numeral.Plain (numeral : Numeral) : Prop where
  legible : numeral.Legible
  whole : numeral.isWhole = true

/-- A request whose texts are in the order of their keys and whose body stays. -/
structure HttpRequestConfig.Fits (levels : Nat) (config : HttpRequestConfig) : Prop where
  headers : Keyed.Ascending config.headers
  query : Keyed.Ascending config.query
  body : ∀ value ∈ config.body, value ≠ .null ∧ Stays levels value
  timeout : ∀ milliseconds ∈ config.timeout, milliseconds < UInt64.size

/-- A call whose parameters stay. -/
structure IntegrationConfig.Fits (levels : Nat) (config : IntegrationConfig) : Prop where
  parameters : Stays levels config.parameters
  credentials : Keyed.Ascending config.credentials

/-- A text to be generated with a temperature that was a whole number. -/
structure AiGenerateConfig.Fits (config : AiGenerateConfig) : Prop where
  maxTokens : ∀ count ∈ config.maxTokens, count < UInt32.size
  temperature : ∀ number ∈ config.temperature, number.Rounded

def NodeConfig.Fits (levels : Nat) : NodeConfig → Prop
  | .httpRequest config => config.Fits levels
  | .integration config => config.Fits levels
  | .aiGenerate config => config.Fits
  | .setVariables values => Stays levels (.object values)
  | .delay milliseconds => milliseconds < UInt64.size
  | .webhook _ | .manual | .schedule _ _ | .log _ _ | .condition _ | .unknown => True

/-- A policy whose counts have their widths. -/
structure NodePolicy.Fits (policy : NodePolicy) : Prop where
  retries : policy.retries < UInt32.size
  retryDelay : ∀ milliseconds ∈ policy.retryDelay, milliseconds < UInt64.size
  timeout : ∀ milliseconds ∈ policy.timeout, milliseconds < UInt64.size

structure Node.Fits (levels : Nat) (node : Node) : Prop where
  config : node.config.Fits levels
  policy : ∀ policy ∈ node.policy, policy.Fits

/-- A workflow whose nodes fit and whose instants are as their texts show them. -/
structure Workflow.Fits (levels : Nat) (workflow : Workflow) : Prop where
  nodes : ∀ node ∈ workflow.nodes, node.Fits levels
  version : workflow.version < UInt32.size
  createdAt : workflow.createdAt.Shown
  updatedAt : workflow.updatedAt.Shown

section Reading

variable {levels : Nat} {document : Document}

theorem stays_of_plain {value : Json} (within : document.Within Numeral.Plain levels)
    (reads : document.value? = some value) : Stays levels value :=
  stays_of_value? (within.mono Numeral.Plain.legible) reads

theorem Number.Binary.rounded_of_plain {number : Binary32}
    (within : document.Within Numeral.Plain levels)
    (reads : document.binary32? = some number) : number.Rounded := by
  cases within with
  | number plain => exact rounded_of_binary32? plain.whole reads
  | _ => cases reads

theorem Json.Document.Record.ascending_of_defaulted {record : Record} {name : String}
    {entries : Keyed String} (fields : ∀ entry ∈ record.found, entry.2.Within Numeral.Plain levels)
    (reads : record.defaulted name (keyed? text?) [] = some entries) : entries.Ascending := by
  rcases exists_of_defaulted fields reads with missing | ⟨_, -, reads⟩
  · rw [missing]
    exact List.Pairwise.nil
  · exact ascending_of_keyed? reads

theorem Json.Document.Record.lt_of_optional {record : Record} {name : String} {bound : Nat}
    {field : Option Nat} (fields : ∀ entry ∈ record.found, entry.2.Within Numeral.Plain levels)
    (reads : record.optional name (natBelow? bound) = some field) :
    ∀ count ∈ field, count < bound := by
  intro count there
  obtain ⟨_, -, -, reads⟩ := exists_of_optional fields reads count there
  exact lt_of_natBelow? reads

theorem Json.Document.Record.lt_of_defaulted {record : Record} {name : String}
    {bound count missing : Nat}
    (fields : ∀ entry ∈ record.found, entry.2.Within Numeral.Plain levels)
    (reads : record.defaulted name (natBelow? bound) missing = some count)
    (fits : missing < bound) : count < bound := by
  rcases exists_of_defaulted fields reads with rfl | ⟨_, -, reads⟩
  · exact fits
  · exact lt_of_natBelow? reads

namespace NodeConfig

theorem fits_of_decodeHttpRequest? {config : HttpRequestConfig}
    (within : document.Within Numeral.Plain (levels + 1))
    (decoded : decodeHttpRequest? document = some config) : config.Fits levels := by
  simp only [decodeHttpRequest?, bind, Option.bind_eq_some_iff, Option.some.injEq] at decoded
  obtain ⟨record, found, method, -, url, -, headers, headersRead, query, queryRead, body, bodyRead,
    timeout, timeoutRead, rfl⟩ := decoded
  have fields := within_of_record? within found
  refine ⟨Record.ascending_of_defaulted fields headersRead,
    Record.ascending_of_defaulted fields queryRead, fun value there => ?_,
    Record.lt_of_optional fields timeoutRead⟩
  obtain ⟨_, filled, inside, reads⟩ := Record.exists_of_optional fields bodyRead value there
  refine ⟨?_, stays_of_plain inside reads⟩
  rintro rfl
  exact filled (eq_null_of_value? reads)

theorem fits_of_decodeIntegration? {config : IntegrationConfig}
    (within : document.Within Numeral.Plain (levels + 2))
    (decoded : decodeIntegration? document = some config) : config.Fits (levels + 1) := by
  simp only [decodeIntegration?, bind, Option.bind_eq_some_iff, Option.some.injEq] at decoded
  obtain ⟨record, found, connector, -, operation, -, parameters, parametersRead, credentials,
    credentialsRead, rfl⟩ := decoded
  have fields := within_of_record? within found
  refine ⟨?_, Record.ascending_of_defaulted fields credentialsRead⟩
  rcases Record.exists_of_defaulted fields parametersRead with missing | ⟨_, inside, reads⟩
  · rw [missing]
    exact ⟨trivial, rfl⟩
  · exact stays_of_plain inside reads

theorem fits_of_decodeAiGenerate? {config : AiGenerateConfig}
    (within : document.Within Numeral.Plain (levels + 1))
    (decoded : decodeAiGenerate? document = some config) : config.Fits := by
  simp only [decodeAiGenerate?, bind, Option.bind_eq_some_iff, Option.some.injEq] at decoded
  obtain ⟨record, found, prompt, -, system, -, model, -, maxTokens, maxTokensRead, temperature,
    temperatureRead, rfl⟩ := decoded
  have fields := within_of_record? within found
  refine ⟨Record.lt_of_optional fields maxTokensRead, fun number there => ?_⟩
  obtain ⟨_, -, inside, reads⟩ := Record.exists_of_optional fields temperatureRead number there
  exact Binary.rounded_of_plain inside reads

/-- What is read as a configuration fits. -/
theorem fits_of_decode? {config : NodeConfig}
    (within : document.Within Numeral.Plain (levels + 2))
    (decoded : decode? document = some config) : config.Fits (levels + 1) := by
  obtain ⟨⟨tag, rest⟩, tagged, decoded⟩ := Option.bind_eq_some_iff.mp decoded
  have within := within_of_tagged? within tagged
  simp only [decodeTagged?] at decoded
  split at decoded
  all_goals simp only [decodeSchedule?, decodeLog?, bind, Option.bind_eq_some_iff,
    Option.map_eq_some_iff, Option.some.injEq] at decoded
  · obtain ⟨_, -, _, -, rfl⟩ := decoded
    trivial
  · obtain ⟨_, -, rfl⟩ := decoded
    trivial
  · obtain ⟨_, -, _, -, _, -, rfl⟩ := decoded
    trivial
  · obtain ⟨request, read, rfl⟩ := decoded
    exact fits_of_decodeHttpRequest? within read
  · obtain ⟨call, read, rfl⟩ := decoded
    exact fits_of_decodeIntegration? within read
  · obtain ⟨generation, read, rfl⟩ := decoded
    exact fits_of_decodeAiGenerate? within read
  · obtain ⟨record, found, values, valuesRead, rfl⟩ := decoded
    obtain ⟨document, inside, reads⟩ :=
      Record.exists_of_required (within_of_record? within found) valuesRead
    unfold members? at reads
    split at reads
    next value =>
      cases reads
      exact stays_of_plain inside value
    next => cases reads
  · obtain ⟨record, found, milliseconds, read, rfl⟩ := decoded
    obtain ⟨_, -, reads⟩ := Record.exists_of_required (within_of_record? within found) read
    exact lt_of_natBelow? reads
  · obtain ⟨_, -, _, -, _, -, rfl⟩ := decoded
    trivial
  · obtain ⟨_, -, _, -, rfl⟩ := decoded
    trivial
  · obtain ⟨_, -, rfl⟩ := decoded
    trivial

end NodeConfig

theorem NodePolicy.fits_of_decode? {policy : NodePolicy}
    (within : document.Within Numeral.Plain (levels + 1))
    (decoded : decode? document = some policy) : policy.Fits := by
  simp only [decode?, bind, Option.bind_eq_some_iff, Option.some.injEq] at decoded
  obtain ⟨record, found, retries, retriesRead, retryDelay, retryDelayRead, timeout, timeoutRead,
    continueOnError, -, parallel, -, rfl⟩ := decoded
  have fields := within_of_record? within found
  exact ⟨Record.lt_of_defaulted fields retriesRead (by decide),
    Record.lt_of_optional fields retryDelayRead, Record.lt_of_optional fields timeoutRead⟩

theorem Node.fits_of_decode? {node : Node} (within : document.Within Numeral.Plain (levels + 3))
    (decoded : decode? document = some node) : node.Fits (levels + 1) := by
  simp only [decode?, bind, Option.bind_eq_some_iff, Option.some.injEq] at decoded
  obtain ⟨record, found, id, -, name, -, config, configRead, policy, policyRead, errorHandler, -,
    rfl⟩ := decoded
  have fields := within_of_record? within found
  constructor
  · obtain ⟨_, inside, reads⟩ := Record.exists_of_required fields configRead
    exact NodeConfig.fits_of_decode? inside reads
  · intro policy there
    obtain ⟨_, -, inside, reads⟩ := Record.exists_of_optional fields policyRead policy there
    exact NodePolicy.fits_of_decode? inside reads

theorem Instant.shown_of_defaulted {record : Record} {name : String} {now instant : Instant}
    (fields : ∀ entry ∈ record.found, entry.2.Within Numeral.Plain levels)
    (reads : record.defaulted name Instant.decode? now = some instant)
    (current : now.nanoseconds < nanosecondsPerSecond) : instant.Shown := by
  rcases Record.exists_of_defaulted fields reads with rfl | ⟨document, -, reads⟩
  · exact .inl current
  · cases document with
    | string text => exact shown_of_parse reads
    | _ => cases reads

/-- What is read as a workflow fits. -/
theorem Workflow.fits_of_decode? {workflow : Workflow} {freshId : WorkflowId} {now : Instant}
    (current : now.nanoseconds < Instant.nanosecondsPerSecond)
    (within : document.Within Numeral.Plain (levels + 5))
    (decoded : decode? freshId now document = some workflow) : workflow.Fits (levels + 1) := by
  simp only [decode?, bind, Option.bind_eq_some_iff, Option.some.injEq] at decoded
  obtain ⟨record, found, id, -, name, -, status, -, nodes, nodesRead, connections, -, trigger, -,
    version, versionRead, createdAt, createdRead, updatedAt, updatedRead, rfl⟩ := decoded
  have fields := within_of_record? within found
  refine ⟨fun node listed => ?_, Record.lt_of_defaulted fields versionRead (by decide),
    Instant.shown_of_defaulted fields createdRead current,
    Instant.shown_of_defaulted fields updatedRead current⟩
  obtain ⟨_, inside, reads⟩ := Record.exists_of_required fields nodesRead
  obtain ⟨_, inside, reads⟩ := exists_of_list? inside reads node listed
  exact Node.fits_of_decode? inside reads

end Reading

end Flowline
