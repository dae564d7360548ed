import AmqpBus.Proofs.Ticks
import AmqpBus.Proofs.Time.Rfc3339
import AmqpBus.Proofs.Trace
import AmqpBus.Proofs.Uuid

/-!
# Properties read back

What a publisher wrote into the properties of a message is what the consumer reads.  The
headers are made of three layers that may hold the same names: the entries of the trace,
the headers of the caller above them and the two headers of the context on top.  So
nothing that a caller or a trace puts there can pass for the context of the message, and no
scalar can pass for the list of deaths that only the broker keeps.  The identifier of the
context travels twice, and its second carrier is enough.
-/

namespace AmqpBus

open Amqp (Field Scalar Table)

/-! ### Scalars and their fields -/

/-- When a field carries a scalar: it has the type of the scalar and its value. -/
inductive Amqp.Field.Carries : Field → Scalar → Prop
  | shortString (text : String) : Carries (.shortString text) (.shortString text)
  | longString (text : String) : Carries (.longString text.toUTF8) (.longString text)
  | boolean (value : Bool) : Carries (.boolean value) (.boolean value)
  | int16 (value : Int16) : Carries (.int16 value) (.int16 value)
  | int32 (value : Int32) : Carries (.int32 value) (.int32 value)
  | int64 (value : Int64) : Carries (.int64 value) (.int64 value)
  | uint32 (value : UInt32) : Carries (.uint32 value) (.uint32 value)
  | timestamp (value : UInt64) : Carries (.timestamp value) (.timestamp value)

theorem Amqp.Scalar.carries_field (scalar : Scalar) :
  scalar.field.Carries scalar
  := by
  cases scalar <;> constructor

/-! ### Dictionaries with names removed -/

namespace Dictionary

variable {α : Type}

/-- The dictionary without the entries under some names. -/
def without (d : Dictionary α) (names : List String) : Dictionary α :=
  ⟨d.entries.filter fun entry => entry.1 ∉ names, d.ordered.filter _⟩

theorem get?_without_of_mem (d : Dictionary α) {names : List String} {name : String}
    (h : name ∈ names) :
  (d.without names).get? name = none
  := by
  cases hget : (d.without names).get? name with
  | none => rfl
  | some value =>
      have hmem := (mem_entries (d.without names) name value).mpr hget
      simp [without, h] at hmem

end Dictionary

namespace Outbound

variable (message : Outbound) (trace : List (String × String))

/-! ### The layers of the headers -/

/-- What the headers of a message must hold under a name. -/
inductive Header (name : String) : Option Field → Prop
  /-- The context says when it began. -/
  | createdAt (h : name = createdAtHeader) :
    Header name (some (.longString message.context.createdAt.text.toUTF8))
  /-- The context says who it is. -/
  | contextId (h : name = contextIdHeader) :
    Header name (some (.longString message.context.id.text.toUTF8))
  /-- The caller gave a value under a name that the context does not need. -/
  | given (hcreatedAt : name ≠ createdAtHeader) (hcontextId : name ≠ contextIdHeader)
      {scalar : Scalar} (h : message.options.headers.get? name = some scalar)
      {field : Field} (hcarries : field.Carries scalar) :
    Header name (some field)
  /-- Only the trace has entries of a name, and the last of them counts. -/
  | traced (hcreatedAt : name ≠ createdAtHeader) (hcontextId : name ≠ contextIdHeader)
      (h : message.options.headers.get? name = none)
      {value : String} (hlast : Trace.last? trace name = some value) :
    Header name (some (.longString value.toUTF8))
  /-- Nobody has anything to say under a name. -/
  | absent (hcreatedAt : name ≠ createdAtHeader) (hcontextId : name ≠ contextIdHeader)
      (h : message.options.headers.get? name = none) (hlast : Trace.last? trace name = none) :
    Header name none

/-- Every header is the one that it must be. -/
theorem header_get?_headers (name : String) :
  message.Header trace name ((message.headers trace).get? name)
  := by
  rw [headers, Dictionary.get?_insert]
  split
  · rename_i hcreatedAt
    apply Header.createdAt hcreatedAt
  · rename_i hcreatedAt
    rw [Dictionary.get?_insert]
    split
    · rename_i hcontextId
      apply Header.contextId hcontextId
    · rename_i hcontextId
      rw [Dictionary.get?_overlay, Amqp.fieldsOf, Dictionary.get?_map, Trace.get?_injectAll,
        Dictionary.get?_empty, Option.or_none]
      cases hgiven : message.options.headers.get? name with
      | some scalar =>
          apply Header.given hcreatedAt hcontextId hgiven scalar.carries_field
      | none =>
          cases hlast : Trace.last? trace name with
          | some value =>
              apply Header.traced hcreatedAt hcontextId hgiven hlast
          | none =>
              apply Header.absent hcreatedAt hcontextId hgiven hlast

variable {message trace}

/-- No header of a message is a list. -/
theorem Header.ne_array {name : String} {header : Option Field}
    (h : message.Header trace name header) (items : List Field) :
  header ≠ some (.array items)
  := by
  rintro rfl
  cases h with
  | given hcreatedAt hcontextId h hcarries => cases hcarries

theorem Header.eq_contextId {header : Option Field}
    (h : message.Header trace contextIdHeader header) :
  header = some (.longString message.context.id.text.toUTF8)
  := by
  cases h with
  | contextId => rfl
  | createdAt | given | traced | absent => contradiction

theorem Header.eq_createdAt {header : Option Field}
    (h : message.Header trace createdAtHeader header) :
  header = some (.longString message.context.createdAt.text.toUTF8)
  := by
  cases h with
  | createdAt => rfl
  | contextId | given | traced | absent => contradiction

variable (message trace)

/-! ### What the consumer reads -/

open DeliveryHeaders

theorem countOf_headers :
  countOf (message.headers trace) = 0
  := by
  have hnone : deaths? (message.headers trace) = none := by
    have hheader := message.header_get?_headers trace "x-death"
    rw [deaths?]
    cases hget : (message.headers trace).get? "x-death" with
    | none => rfl
    | some field =>
        cases field with
        | array items => exact absurd hget (hheader.ne_array items)
        | _ => rfl
  rw [countOf, hnone]

theorem header?_contextId :
  header? (message.headers trace) contextIdHeader = some message.context.id.text
  := by
  rw [header?, (message.header_get?_headers trace contextIdHeader).eq_contextId]
  apply fromUTF8?_toUTF8

theorem header?_createdAt :
  header? (message.headers trace) createdAtHeader = some message.context.createdAt.text
  := by
  rw [header?, (message.header_get?_headers trace createdAtHeader).eq_createdAt]
  apply fromUTF8?_toUTF8

/-- The type is read unless it is empty. -/
theorem messageType_ofProperties (messageId : Uuid) :
  (ofProperties (message.properties trace messageId)).messageType
    = if message.route.messageType = "" then none else some message.route.messageType
  := by
  simp only [ofProperties, properties, Option.filter_some]
  split <;> simp_all

/-- Everything that is read from the properties of a message: its type unless that is
empty, no deaths, and the context. -/
theorem ofProperties_properties (messageId : Uuid)
    (hfirst : 0 ≤ message.context.createdAt.date.year)
    (hlast : message.context.createdAt.date.year ≤ 9999)
    (hnano : message.context.createdAt.time.nano < 1000000000) :
  ofProperties (message.properties trace messageId)
    = { messageType :=
          if message.route.messageType = "" then none else some message.route.messageType
        count := 0
        contextId := some message.context.id
        createdAt := some message.context.createdAt }
  := by
  have hid : Uuid.ofText? message.context.id.text = some message.context.id :=
    message.context.id.ofText?_text
  have hcreatedAt : Time.Moment.ofText? message.context.createdAt.text
      = some message.context.createdAt := Time.Moment.ofText?_text hfirst hlast hnano
  have htype := message.messageType_ofProperties trace messageId
  simp only [ofProperties, properties, Option.getD_some, countOf_headers, header?_contextId,
    header?_createdAt, Option.some_or, Option.bind_some, hid, hcreatedAt] at htype ⊢
  rw [htype]

/-- The correlation identifier is enough to know the context by. -/
theorem contextId_of_correlation (messageId : Uuid) {headers : Table}
    (h : headers.get? contextIdHeader = none) :
  (ofProperties { message.properties trace messageId with headers := some headers }).contextId
    = some message.context.id
  := by
  have hheader : header? headers contextIdHeader = none := by
    rw [header?, h]
    rfl
  have hid : Uuid.ofText? message.context.id.text = some message.context.id :=
    message.context.id.ofText?_text
  simp only [ofProperties, properties, Option.getD_some, hheader, Option.none_or,
    Option.bind_some, hid]

/-- A consumer reads back what the publisher wrote, whatever the headers of the caller and
the entries of the trace are: the type, no deaths, and a context of the same identifier and
beginning, to the nanosecond.  The headers are the three layers and nothing else, and without
those of the context its identifier is still known. -/
theorem properties_read_back (messageId : Uuid)
    (hfirst : 0 ≤ message.context.createdAt.date.year)
    (hlast : message.context.createdAt.date.year ≤ 9999)
    (hnano : message.context.createdAt.time.nano < 1000000000) :
  let sent := message.properties trace messageId
  let received := ofProperties sent
  received.messageType
      = (if message.route.messageType = "" then none else some message.route.messageType)
    ∧ received.count = 0
    ∧ received.contextId = some message.context.id
    ∧ received.createdAt = some message.context.createdAt
    ∧ (∀ (fresh : Uuid) (now arrival : Time.Moment),
        (received.context fresh now).recordDelivery received.count arrival
          = { id := message.context.id
              retries := 0
              createdAt := message.context.createdAt
              deliveredAt := some arrival })
    ∧ ∃ headers : Table, sent.headers = some headers
      ∧ (∀ name, message.Header trace name (headers.get? name))
      ∧ (ofProperties { sent with
            headers := some (headers.without [contextIdHeader, createdAtHeader]) }).contextId
          = some message.context.id
  := by
  have hreceived := message.ofProperties_properties trace messageId hfirst hlast hnano
  dsimp only
  rw [hreceived]
  refine ⟨rfl, rfl, rfl, rfl, fun fresh now arrival => rfl, message.headers trace, rfl,
    message.header_get?_headers trace, ?_⟩
  apply contextId_of_correlation
  apply Dictionary.get?_without_of_mem
  apply List.mem_cons_self

end Outbound

/-- A tick of a leap day, failed before, whose caller claims another context and a list of
deaths. -/
def forgedTick : Outbound where
  route := tickRoute
  payload := ByteArray.empty
  context :=
    { id := ⟨List.replicate 32 ⟨10, by decide⟩, rfl⟩
      retries := 3
      createdAt :=
        { date := ⟨2024, 2, 29, by decide, by decide, by decide, by decide⟩
          time := ⟨23, 59, 59, 123456789, by decide, by decide, by decide, by decide⟩ } }
  options :=
    { headers := Dictionary.ofList
        [(contextIdHeader, .shortString "00000000000000000000000000000000"),
          (createdAtHeader, .longString "1970-01-01T00:00:00+00:00"), ("x-death", .int64 7)]
      expiration := some (.ofSeconds 60)
      priority := some 9
      persistent := true }

/-- A trace that claims deaths and a context too. -/
def forgedTrace : List (String × String) :=
  [("traceparent", "00-1-1-01"), ("X-Death", "7"), ("X-Context-Id", "none")]

/-- The tick is known for what it is. -/
theorem properties_read_back_forgedTick :
  0 ≤ forgedTick.context.createdAt.date.year
    ∧ forgedTick.context.createdAt.date.year ≤ 9999
    ∧ forgedTick.context.createdAt.time.nano < 1000000000
    ∧ DeliveryHeaders.ofProperties (forgedTick.properties forgedTrace forgedTick.context.id)
      = { messageType := some "clock.Tick"
          count := 0
          contextId := some forgedTick.context.id
          createdAt := some forgedTick.context.createdAt }
  := by
  have hfirst : 0 ≤ forgedTick.context.createdAt.date.year := by decide
  have hlast : forgedTick.context.createdAt.date.year ≤ 9999 := by decide
  have hnano : forgedTick.context.createdAt.time.nano < 1000000000 := by decide
  obtain ⟨htype, hcount, hid, hcreatedAt, -⟩ :=
    forgedTick.properties_read_back forgedTrace forgedTick.context.id hfirst hlast hnano
  have htick : forgedTick.route.messageType = "clock.Tick" := rfl
  rw [htick, if_neg (by decide)] at htype
  refine ⟨hfirst, hlast, hnano, ?_⟩
  generalize DeliveryHeaders.ofProperties
    (forgedTick.properties forgedTrace forgedTick.context.id) = received at *
  cases received
  simp_all

end AmqpBus
