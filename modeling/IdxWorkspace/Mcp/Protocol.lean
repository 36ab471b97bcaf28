import Mathlib.Data.List.Basic

/-!
The JSON-RPC messages of the SDK and how they travel. A message is written as an
object without its absent fields, whatever its variant; a reader looks only at
which fields are there. So some messages arrive as another variant, or not at
all, and a field that holds null arrives as absent.
-/

namespace IdxWorkspace.Mcp

/-- The numbers of `serde_json`: `negInt` below zero, and a float by its bits. -/
inductive Number where
  | posInt (n : UInt64)
  | negInt (n : Int)
  | float (bits : UInt64)

/-- `serde_json::Value`. The entries of an object are in the order of its map, by
ascending keys. -/
inductive Value where
  | null
  | bool (b : Bool)
  | number (n : Number)
  | string (s : String)
  | array (items : List Value)
  | object (entries : List (String × Value))

def Value.get : Value → String → Option Value
  | .object entries, key => entries.lookup key
  | _, _ => none

def Value.asStr : Value → Option String
  | .string s => some s
  | _ => none

def Value.asObject : Value → Option (List (String × Value))
  | .object entries => some entries
  | _ => none

/-- A field under `skip_serializing_if = "Option::is_none"`. -/
def field (name : String) (v : Option Value) : List (String × Value) :=
  v.toList.map (name, ·)

/-- What the reader of a struct sees of its fields: an array gives them by position. -/
def fieldsOf (names : List String) : Value → Option (String → Option Value)
  | .object entries => some (entries.lookup ·)
  | .array items =>
      if items.length = names.length then some ((names.zip items).lookup ·) else none
  | _ => none

def required {α : Type} (read : Value → Option α) (v : Option Value) : Option α :=
  v.bind read

/-- `Option<T>` reads a null like an absent field. -/
def optional {α : Type} (read : Value → Option α) : Option Value → Option (Option α)
  | none => some none
  | some .null => some none
  | some v => (read v).map some

def readU64 : Value → Option UInt64
  | .number (.posInt n) => some n
  | _ => none

def readI32 : Value → Option Int32
  | .number (.posInt n) => if n.toNat ≤ 2147483647 then some (Int32.ofInt n.toNat) else none
  | .number (.negInt n) => if -2147483648 ≤ n then some (Int32.ofInt n) else none
  | _ => none

def writeI32 (n : Int32) : Value :=
  if 0 ≤ n.toInt then .number (.posInt (UInt64.ofNat n.toInt.toNat)) else .number (.negInt n.toInt)

structure ErrorData where
  code : Int32
  message : String
  data : Option Value

structure JsonRpcRequest where
  jsonrpc : String
  id : Option UInt64
  method : String
  params : Option Value

structure JsonRpcResponse where
  jsonrpc : String
  id : Option UInt64
  result : Option Value
  error : Option ErrorData

structure JsonRpcNotification where
  jsonrpc : String
  method : String
  params : Option Value

structure JsonRpcError where
  jsonrpc : String
  id : Option UInt64
  error : ErrorData

inductive JsonRpcMessage where
  | request (r : JsonRpcRequest)
  | response (r : JsonRpcResponse)
  | notification (n : JsonRpcNotification)
  | error (e : JsonRpcError)
  | nil

structure JsonRpcRaw where
  jsonrpc : String
  id : Option UInt64
  method : Option String
  params : Option Value
  result : Option Value
  error : Option ErrorData

def PARSE_ERROR : Int32 := -32700
def INVALID_REQUEST : Int32 := -32600
def METHOD_NOT_FOUND : Int32 := -32601
def INVALID_PARAMS : Int32 := -32602
def INTERNAL_ERROR : Int32 := -32603

/-- The `{:?}` of an optional id. -/
def debugId : Option UInt64 → String
  | none => "None"
  | some n => "Some(" ++ toString n.toNat ++ ")"

def JsonRpcRaw.tryFrom (raw : JsonRpcRaw) : Except String JsonRpcMessage :=
  match raw.error with
  | some error => .ok (.error { jsonrpc := raw.jsonrpc, id := raw.id, error := error })
  | none =>
    if raw.result.isSome then
      .ok (.response
        { jsonrpc := raw.jsonrpc, id := raw.id, result := raw.result, error := none })
    else
      match raw.method with
      | some method =>
          if raw.id.isNone then
            .ok (.notification { jsonrpc := raw.jsonrpc, method := method, params := raw.params })
          else
            .ok (.request
              { jsonrpc := raw.jsonrpc, id := raw.id, method := method, params := raw.params })
      | none =>
          if raw.id.isNone then .ok .nil
          -- the other three are absent here, and are shown so
          else .error ("Invalid JSON-RPC message format: id=" ++ debugId raw.id ++
            ", method=None, result=None, error=None")

def writeId (id : Option UInt64) : List (String × Value) :=
  field "id" (id.map fun n => .number (.posInt n))

def ErrorData.encode (e : ErrorData) : Value :=
  .object ([("code", writeI32 e.code)] ++ field "data" e.data ++ [("message", .string e.message)])

def JsonRpcRequest.encode (r : JsonRpcRequest) : Value :=
  .object (writeId r.id ++ [("jsonrpc", .string r.jsonrpc), ("method", .string r.method)] ++
    field "params" r.params)

def JsonRpcResponse.encode (r : JsonRpcResponse) : Value :=
  .object (field "error" (r.error.map ErrorData.encode) ++ writeId r.id ++
    [("jsonrpc", .string r.jsonrpc)] ++ field "result" r.result)

def JsonRpcNotification.encode (n : JsonRpcNotification) : Value :=
  .object ([("jsonrpc", .string n.jsonrpc), ("method", .string n.method)] ++
    field "params" n.params)

def JsonRpcError.encode (e : JsonRpcError) : Value :=
  .object ([("error", e.error.encode)] ++ writeId e.id ++ [("jsonrpc", .string e.jsonrpc)])

def JsonRpcRaw.encode (raw : JsonRpcRaw) : Value :=
  .object (field "error" (raw.error.map ErrorData.encode) ++ writeId raw.id ++
    [("jsonrpc", .string raw.jsonrpc)] ++ field "method" (raw.method.map .string) ++
    field "params" raw.params ++ field "result" raw.result)

/-- The variants are untagged. -/
def JsonRpcMessage.encode : JsonRpcMessage → Value
  | .request r => r.encode
  | .response r => r.encode
  | .notification n => n.encode
  | .error e => e.encode
  | .nil => .null

def ErrorData.read (v : Value) : Option ErrorData := do
  let field ← fieldsOf ["code", "message", "data"] v
  let code ← required readI32 (field "code")
  let message ← required Value.asStr (field "message")
  let data ← optional some (field "data")
  return { code, message, data }

def JsonRpcRaw.read (v : Value) : Option JsonRpcRaw := do
  let field ← fieldsOf ["jsonrpc", "id", "method", "params", "result", "error"] v
  let jsonrpc ← required Value.asStr (field "jsonrpc")
  let id ← optional readU64 (field "id")
  let method ← optional Value.asStr (field "method")
  let params ← optional some (field "params")
  let result ← optional some (field "result")
  let error ← optional ErrorData.read (field "error")
  return { jsonrpc, id, method, params, result, error }

/-- Deserialisation of a message; `rejects` is what `serde` says of a value that
is no `JsonRpcRaw`. -/
def JsonRpcMessage.decode (rejects : Value → String) (v : Value) :
    Except String JsonRpcMessage :=
  match JsonRpcRaw.read v with
  | none => .error (rejects v)
  | some raw => raw.tryFrom

/-- A null field arrives as absent. -/
def nonNull : Option Value → Option Value
  | some .null => none
  | v => v

/-- A message that is written as it can be read back. -/
def JsonRpcMessage.Faithful : JsonRpcMessage → Prop
  | .request r => r.id ≠ none ∧ r.params ≠ some .null
  | .response r => r.error = none ∧ r.result ≠ none ∧ r.result ≠ some .null
  | .notification n => n.params ≠ some .null
  | .error e => e.error.data ≠ some .null
  | .nil => False

theorem lookup_entry (key name : String) (v : Value) (entries : List (String × Value)) :
    ((name, v) :: entries).lookup key = if key = name then some v else entries.lookup key := by
  by_cases h : key = name
  · simp [h]
  · have hkey : (key == name) = false := beq_eq_false_iff_ne.mpr h
    rw [List.lookup_cons, hkey, if_neg h]

theorem lookup_field (key name : String) (v : Option Value) :
    (field name v).lookup key = if key = name then v else none := by
  cases v with
  | none => simp [field]
  | some v => simp [field, lookup_entry]

theorem required_string (s : String) : required Value.asStr (some (.string s)) = some s := rfl

@[simp]
theorem optional_absent {α : Type} (read : Value → Option α) : optional read none = some none := rfl

@[simp]
theorem optional_string (s : String) :
    optional Value.asStr (some (.string s)) = some (some s) := rfl

@[simp]
theorem optional_readU64 (id : Option UInt64) :
    optional readU64 (id.map fun n => .number (.posInt n)) = some id := by
  cases id <;> rfl

@[simp]
theorem optional_some (v : Option Value) : optional some v = some (nonNull v) := by
  rcases v with _ | v
  · rfl
  · cases v <;> rfl

theorem nonNull_eq_iff (v : Option Value) : nonNull v = v ↔ v ≠ some .null := by
  rcases v with _ | v
  · simp [nonNull]
  · cases v <;> simp [nonNull]

theorem nonNull_ne_null (v : Option Value) : nonNull v ≠ some .null := by
  rcases v with _ | v
  · simp [nonNull]
  · cases v <;> simp [nonNull]

theorem readI32_writeI32 (n : Int32) : readI32 (writeI32 n) = some n := by
  have hlow := Int32.le_toInt n
  have hhigh := Int32.toInt_lt n
  unfold writeI32
  by_cases h : 0 ≤ n.toInt
  · have hnat : (UInt64.ofNat n.toInt.toNat).toNat = n.toInt.toNat := by
      apply UInt64.toNat_ofNat_of_lt'
      simp only [UInt64.size]
      omega
    have hcast : (n.toInt.toNat : Int) = n.toInt := Int.toNat_of_nonneg h
    rw [if_pos h, readI32, hnat, if_pos (by omega), hcast, Int32.ofInt_toInt]
  · rw [if_neg h, readI32, if_pos (by omega), Int32.ofInt_toInt]

theorem ErrorData.read_encode (e : ErrorData) :
    ErrorData.read e.encode = some { e with data := nonNull e.data } := by
  simp [ErrorData.read, ErrorData.encode, fieldsOf, required, lookup_entry, lookup_field,
    List.lookup_append, readI32_writeI32, Value.asStr]

theorem optional_error (e : ErrorData) :
    optional ErrorData.read (some e.encode) = some (some { e with data := nonNull e.data }) := by
  have hobject : optional ErrorData.read (some e.encode) = (ErrorData.read e.encode).map some := rfl
  rw [hobject, ErrorData.read_encode, Option.map_some]

/-- A reader finds the fields that were written, but for the null ones. -/
theorem JsonRpcRaw.read_encode (raw : JsonRpcRaw) :
    JsonRpcRaw.read raw.encode = some
      { raw with
        params := nonNull raw.params
        result := nonNull raw.result
        error := raw.error.map fun e => { e with data := nonNull e.data } } := by
  rcases raw with ⟨jsonrpc, id, method, params, result, error⟩
  cases method <;> cases error <;>
    simp [JsonRpcRaw.read, JsonRpcRaw.encode, fieldsOf, required_string, writeId, lookup_entry,
      lookup_field, List.lookup_append, optional_error]

theorem JsonRpcRequest.encode_raw (r : JsonRpcRequest) :
    r.encode = JsonRpcRaw.encode ⟨r.jsonrpc, r.id, some r.method, r.params, none, none⟩ := by
  simp [JsonRpcRequest.encode, JsonRpcRaw.encode, field]

theorem JsonRpcNotification.encode_raw (n : JsonRpcNotification) :
    n.encode = JsonRpcRaw.encode ⟨n.jsonrpc, none, some n.method, n.params, none, none⟩ := by
  simp [JsonRpcNotification.encode, JsonRpcRaw.encode, writeId, field]

theorem JsonRpcResponse.encode_raw (r : JsonRpcResponse) :
    r.encode = JsonRpcRaw.encode ⟨r.jsonrpc, r.id, none, none, r.result, r.error⟩ := by
  simp [JsonRpcResponse.encode, JsonRpcRaw.encode, field]

theorem JsonRpcError.encode_raw (e : JsonRpcError) :
    e.encode = JsonRpcRaw.encode ⟨e.jsonrpc, e.id, none, none, none, some e.error⟩ := by
  simp [JsonRpcError.encode, JsonRpcRaw.encode, field]

variable (rejects : Value → String)

/-- A request is read back as one only if it has an id. -/
theorem decode_request (r : JsonRpcRequest) :
    JsonRpcMessage.decode rejects r.encode =
      if r.id.isNone then
        .ok (.notification
          { jsonrpc := r.jsonrpc, method := r.method, params := nonNull r.params })
      else .ok (.request { r with params := nonNull r.params }) := by
  rw [JsonRpcMessage.decode, r.encode_raw, JsonRpcRaw.read_encode]
  rfl

theorem decode_notification (n : JsonRpcNotification) :
    JsonRpcMessage.decode rejects n.encode =
      .ok (.notification { n with params := nonNull n.params }) := by
  rw [JsonRpcMessage.decode, n.encode_raw, JsonRpcRaw.read_encode]
  rfl

theorem decode_error (e : JsonRpcError) :
    JsonRpcMessage.decode rejects e.encode =
      .ok (.error { e with error := { e.error with data := nonNull e.error.data } }) := by
  rw [JsonRpcMessage.decode, e.encode_raw, JsonRpcRaw.read_encode]
  rfl

/-- A response with an error arrives as an error, and one without a result to
show arrives as nothing, or not at all. -/
theorem decode_response (r : JsonRpcResponse) :
    JsonRpcMessage.decode rejects r.encode =
      match r.error, nonNull r.result with
      | some e, _ => .ok (.error
          { jsonrpc := r.jsonrpc, id := r.id, error := { e with data := nonNull e.data } })
      | none, some result => .ok (.response
          { jsonrpc := r.jsonrpc, id := r.id, result := some result, error := none })
      | none, none =>
          if r.id.isNone then .ok .nil
          else .error ("Invalid JSON-RPC message format: id=" ++ debugId r.id ++
            ", method=None, result=None, error=None") := by
  rw [JsonRpcMessage.decode, r.encode_raw, JsonRpcRaw.read_encode]
  cases r.error with
  | some e => rfl
  | none => cases nonNull r.result <;> simp [JsonRpcRaw.tryFrom]

theorem decode_nil : JsonRpcMessage.decode rejects .null = .error (rejects .null) := rfl

/-- A faithful message comes back from the wire as it was sent. -/
theorem decode_of_faithful {m : JsonRpcMessage} (h : m.Faithful) :
    JsonRpcMessage.decode rejects m.encode = .ok m := by
  cases m with
  | request r =>
      obtain ⟨hid, hparams⟩ := h
      rw [JsonRpcMessage.encode, decode_request, (nonNull_eq_iff r.params).mpr hparams, if_neg]
      simpa using hid
  | response r =>
      obtain ⟨jsonrpc, id, result, error⟩ := r
      obtain ⟨rfl, hsome, hresult⟩ := h
      obtain ⟨v, rfl⟩ := Option.ne_none_iff_exists'.mp hsome
      rw [JsonRpcMessage.encode, decode_response, (nonNull_eq_iff _).mpr hresult]
  | notification n =>
      rw [JsonRpcMessage.encode, decode_notification, (nonNull_eq_iff n.params).mpr h]
  | error e =>
      rw [JsonRpcMessage.encode, decode_error, (nonNull_eq_iff e.error.data).mpr h]
  | nil => exact h.elim

theorem ErrorData.data_of_read {v : Value} {e : ErrorData} (h : ErrorData.read v = some e) :
    e.data ≠ some .null := by
  simp only [ErrorData.read, Option.bind_eq_bind, Option.bind_eq_some_iff, optional_some] at h
  obtain ⟨_, _, _, _, _, _, _, ⟨⟩, ⟨⟩⟩ := h
  exact nonNull_ne_null _

/-- A value that has been read holds no null. -/
theorem JsonRpcRaw.nonNull_of_read {v : Value} {raw : JsonRpcRaw}
    (h : JsonRpcRaw.read v = some raw) :
    raw.params ≠ some .null ∧ raw.result ≠ some .null ∧
      ∀ e, raw.error = some e → e.data ≠ some .null := by
  simp only [JsonRpcRaw.read, Option.bind_eq_bind, Option.bind_eq_some_iff, optional_some] at h
  obtain ⟨fields, _, _, _, _, _, _, _, _, ⟨⟩, _, ⟨⟩, error, herror, ⟨⟩⟩ := h
  refine ⟨nonNull_ne_null _, nonNull_ne_null _, ?_⟩
  rintro e rfl
  have hread : ∃ v, ErrorData.read v = some e := by
    unfold optional at herror
    split at herror
    · cases herror
    · cases herror
    · obtain ⟨e', he', heq⟩ := Option.map_eq_some_iff.mp herror
      cases heq
      exact ⟨_, he'⟩
  obtain ⟨v, hv⟩ := hread
  exact ErrorData.data_of_read hv

/-- Whatever a reader accepts it could send on unchanged. -/
theorem decode_faithful {v : Value} {m : JsonRpcMessage}
    (h : JsonRpcMessage.decode rejects v = .ok m) : m = .nil ∨ m.Faithful := by
  unfold JsonRpcMessage.decode at h
  split at h
  · cases h
  · rename_i raw hraw
    obtain ⟨hparams, hresult, herror⟩ := JsonRpcRaw.nonNull_of_read hraw
    unfold JsonRpcRaw.tryFrom at h
    split at h
    · rename_i e he
      cases h
      exact Or.inr (herror e he)
    · split at h
      · rename_i hsome
        cases h
        exact Or.inr ⟨rfl, Option.isSome_iff_ne_none.mp hsome, hresult⟩
      · split at h
        · split at h
          · cases h
            exact Or.inr hparams
          · rename_i hid
            cases h
            exact Or.inr ⟨fun hnone => hid (Option.isNone_iff_eq_none.mpr hnone), hparams⟩
        · split at h
          · cases h
            exact Or.inl rfl
          · cases h

/-- Exactly the faithful messages come back from the wire as they were sent. A message
that is not faithful is lost on the way, because a null among its fields reads as an
absent one, or comes back as another kind of message. -/
theorem decode_encode_iff (m : JsonRpcMessage) :
    JsonRpcMessage.decode rejects m.encode = .ok m ↔ m.Faithful := by
  constructor
  · intro h
    rcases decode_faithful rejects h with rfl | hfaithful
    · rw [JsonRpcMessage.encode, decode_nil] at h
      cases h
    · exact hfaithful
  · exact decode_of_faithful rejects

/-- A message that was accepted can be sent on unchanged, unless it is nothing. -/
theorem relay_iff {v : Value} {m : JsonRpcMessage}
    (h : JsonRpcMessage.decode rejects v = .ok m) :
    JsonRpcMessage.decode rejects m.encode = .ok m ↔ m ≠ .nil := by
  constructor
  · rintro hagain rfl
    rw [JsonRpcMessage.encode, decode_nil] at hagain
    cases hagain
  · intro hsome
    exact decode_of_faithful rejects ((decode_faithful rejects h).resolve_left hsome)

end IdxWorkspace.Mcp
