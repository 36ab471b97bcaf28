import IdxWorkspace.Mcp.Server

/-!
`McpClient` over a service that carries one message and returns another. A
request is answered by what the service returns under the request's own id. The
operations ask for nothing before `initialize` has succeeded, nor for what the
server did not announce.
-/

namespace IdxWorkspace.Mcp

open Library Library.Effect

/-- Why a service call fails. -/
inductive ServiceError where
  | notConnected
  | channelClosed
  | unsupportedMessage
  | stdioProcessError (message : String)
  | timeout

inductive ClientError where
  | rpcError (code : Int32) (message : String)
  | serialization (e : String)
  | unexpectedResponse (message : String)
  | notInitialized
  | mcpServerError (method server : String) (source : ServiceError)

structure ClientInfo where
  name : String
  version : String

structure InitializeParams where
  protocolVersion : String
  clientInfo : ClientInfo

/-- The client has no capabilities to write. -/
def InitializeParams.encode (p : InitializeParams) : Value :=
  .object [("capabilities", .object []),
    ("clientInfo", .object [("name", .string p.clientInfo.name),
      ("version", .string p.clientInfo.version)]),
    ("protocolVersion", .string p.protocolVersion)]

structure ClientState (σ : Type) where
  service : σ
  nextId : UInt64
  serverCapabilities : Option ServerCapabilities
  serverInfo : Option Implementation

variable {σ R : Type}

abbrev Client (σ α : Type) := EStateM ClientError (ClientState σ) α

def newClient (service : σ) : ClientState σ :=
  { service := service, nextId := 1, serverCapabilities := none, serverInfo := none }

/-- `service.call(..)`, whose errors name the method and the server. -/
def callService (service : JsonRpcMessage → EStateM ServiceError σ JsonRpcMessage)
    (method : String) (m : JsonRpcMessage) : Client σ JsonRpcMessage := fun s =>
  match (service m).run s.service with
  | .ok reply t => .ok reply { s with service := t }
  | .error e t =>
      .error (.mcpServerError method ((s.serverInfo.map Implementation.name).getD "") e)
        { s with service := t }

/-- What `send_request` makes of the message the service returns. -/
def conclude (parse : Value → Except String R) (expected : UInt64) :
    JsonRpcMessage → Except ClientError R
  | .response r =>
      if r.id ≠ some expected then
        .error (.unexpectedResponse "id mismatch for JsonRpcResponse")
      else
        match r.error, r.result with
        | some err, _ => .error (.rpcError err.code err.message)
        | none, some result => (parse result).mapError .serialization
        | none, none => .error (.unexpectedResponse "missing result")
  | .error e =>
      if e.id ≠ some expected then
        .error (.unexpectedResponse "id mismatch for JsonRpcError")
      else .error (.rpcError e.error.code e.error.message)
  | _ => .error (.unexpectedResponse "unexpected message type")

variable (service : JsonRpcMessage → EStateM ServiceError σ JsonRpcMessage)

/-- `next_id.fetch_add(1)` -/
def takeId : Client σ UInt64 := fun s => .ok s.nextId { s with nextId := s.nextId + 1 }

def newRequest (id : UInt64) (method : String) (params : Value) : JsonRpcRequest :=
  { jsonrpc := "2.0", id := some id, method := method, params := some params }

def sendRequest (parse : Value → Except String R) (method : String) (params : Value) :
    Client σ R := do
  let id ← takeId
  let reply ← callService service method (.request (newRequest id method params))
  let s ← get
  ofExcept (conclude parse (s.nextId - 1) reply)

def sendNotification (method : String) (params : Value) : Client σ Unit := do
  let _ ← callService service method (.notification
    { jsonrpc := "2.0", method := method, params := some params })

def initializeClient (parse : Value → Except String InitializeResult) (info : ClientInfo) :
    Client σ InitializeResult := do
  let params : InitializeParams := { protocolVersion := "1.0.0", clientInfo := info }
  let result ← sendRequest service parse "initialize" params.encode
  sendNotification service "notifications/initialized" (.object [])
  modify fun s => { s with
    serverCapabilities := some result.capabilities, serverInfo := some result.serverInfo }
  return result

/-- An operation on a capability: `absent` is what it comes to without. -/
def operate (supported : ServerCapabilities → Bool) (absent : Except ClientError R)
    (parse : Value → Except String R) (method : String) (params : Value) : Client σ R := do
  match (← get).serverCapabilities with
  | none => throw .notInitialized
  | some capabilities =>
      if supported capabilities then sendRequest service parse method params
      else ofExcept absent

def cursorPayload (nextCursor : Option String) : Value :=
  match nextCursor with
  | some cursor => .object [("cursor", .string cursor)]
  | none => .object []

def unsupported (capability : String) : Except ClientError R :=
  .error (.rpcError METHOD_NOT_FOUND
    ("Server does not support '" ++ capability ++ "' capability"))

def listResources (parse : Value → Except String ListResourcesResult)
    (nextCursor : Option String) : Client σ ListResourcesResult :=
  operate service (·.resources.isSome) (.ok { resources := [], nextCursor := none }) parse
    "resources/list" (cursorPayload nextCursor)

def readResource (parse : Value → Except String ReadResourceResult) (uri : String) :
    Client σ ReadResourceResult :=
  operate service (·.resources.isSome) (unsupported "resources") parse
    "resources/read" (.object [("uri", .string uri)])

def listTools (parse : Value → Except String ListToolsResult) (nextCursor : Option String) :
    Client σ ListToolsResult :=
  operate service (·.tools.isSome) (.ok { tools := [], nextCursor := none }) parse
    "tools/list" (cursorPayload nextCursor)

def callTool (parse : Value → Except String CallToolResult) (name : String)
    (arguments : Value) : Client σ CallToolResult :=
  operate service (·.tools.isSome) (unsupported "tools") parse
    "tools/call" (.object [("arguments", arguments), ("name", .string name)])

/-- The only list that is an error without its capability. -/
def listPrompts (parse : Value → Except String ListPromptsResult) (nextCursor : Option String) :
    Client σ ListPromptsResult :=
  operate service (·.prompts.isSome) (unsupported "prompts") parse
    "prompts/list" (cursorPayload nextCursor)

def getPrompt (parse : Value → Except String GetPromptResult) (name : String)
    (arguments : Value) : Client σ GetPromptResult :=
  operate service (·.prompts.isSome) (unsupported "prompts") parse
    "prompts/get" (.object [("arguments", arguments), ("name", .string name)])

variable {service}

theorem callService_run (method : String) (m : JsonRpcMessage) (s : ClientState σ) :
    (callService service method m).run s =
      match (service m).run s.service with
      | .ok reply t => .ok reply { s with service := t }
      | .error e t =>
          .error (.mcpServerError method ((s.serverInfo.map Implementation.name).getD "") e)
            { s with service := t } := rfl

theorem run_ofExcept (v : Except ClientError R) (s : ClientState σ) :
    (ofExcept v : Client σ R).run s =
      match v with
      | .ok r => .ok r s
      | .error e => .error e s := by
  cases v <;> rfl

/-- A request is sent under the next id, and its reply is expected under the same. -/
theorem sendRequest_run (parse : Value → Except String R) (method : String) (params : Value)
    (s : ClientState σ) :
    (sendRequest service parse method params).run s =
      match (service (.request (newRequest s.nextId method params))).run s.service with
      | .ok reply t => (ofExcept (conclude parse s.nextId reply) : Client σ R).run
          { s with service := t, nextId := s.nextId + 1 }
      | .error e t =>
          .error (.mcpServerError method ((s.serverInfo.map Implementation.name).getD "") e)
            { s with service := t, nextId := s.nextId + 1 } := by
  have hid : s.nextId + 1 - 1 = s.nextId := UInt64.add_sub_cancel _ _
  have htake : (takeId : Client σ UInt64).run s =
      .ok s.nextId { s with nextId := s.nextId + 1 } := rfl
  rw [sendRequest, EStateM.run_bind, htake]
  simp only [EStateM.run_bind, callService_run]
  cases (service (.request (newRequest s.nextId method params))).run s.service with
  | ok reply t => simp [hid]
  | error e t => rfl

/-- Whatever comes of it, a request takes one id and changes nothing that the
client knows of the server. -/
theorem sendRequest_after (parse : Value → Except String R) (method : String) (params : Value)
    (s : ClientState σ) :
    ∃ t, after ((sendRequest service parse method params).run s) =
      { s with service := t, nextId := s.nextId + 1 } := by
  rw [sendRequest_run]
  cases (service (.request (newRequest s.nextId method params))).run s.service with
  | error e t => exact ⟨t, rfl⟩
  | ok reply t =>
      refine ⟨t, ?_⟩
      simp only [run_ofExcept]
      cases conclude parse s.nextId reply <;> rfl

theorem sendNotification_after (method : String) (params : Value) (s : ClientState σ) :
    ∃ t, after ((sendNotification service method params).run s) = { s with service := t } := by
  rw [sendNotification, EStateM.run_bind, callService_run]
  cases (service (.notification ⟨"2.0", method, some params⟩)).run s.service with
  | error e t => exact ⟨t, rfl⟩
  | ok reply t => exact ⟨t, rfl⟩

theorem sendRequest_capabilities (parse : Value → Except String R) (method : String)
    (params : Value) :
    Preserves ClientState.serverCapabilities (sendRequest service parse method params) := by
  intro s
  obtain ⟨t, h⟩ := sendRequest_after parse method params s
  rw [h]

theorem sendNotification_capabilities (method : String) (params : Value) :
    Preserves ClientState.serverCapabilities (sendNotification service method params) := by
  intro s
  obtain ⟨t, h⟩ := sendNotification_after method params s
  rw [h]

theorem operate_run (supported : ServerCapabilities → Bool) (absent : Except ClientError R)
    (parse : Value → Except String R) (method : String) (params : Value) (s : ClientState σ) :
    (operate service supported absent parse method params).run s =
      match s.serverCapabilities with
      | none => .error .notInitialized s
      | some c => (if supported c then sendRequest service parse method params
          else ofExcept absent : Client σ R).run s := by
  have hrun : (operate service supported absent parse method params).run s =
      (match s.serverCapabilities with
        | none => throw .notInitialized
        | some c => if supported c then sendRequest service parse method params
            else ofExcept absent : Client σ R).run s := rfl
  rw [hrun]
  cases s.serverCapabilities <;> rfl

theorem operate_announced {supported : ServerCapabilities → Bool} {s : ClientState σ}
    {c : ServerCapabilities} (hknown : s.serverCapabilities = some c) (h : supported c = true)
    (absent : Except ClientError R) (parse : Value → Except String R) (method : String)
    (params : Value) :
    (operate service supported absent parse method params).run s =
      (sendRequest service parse method params).run s := by
  rw [operate_run, hknown]
  simp only [h, if_true]

/-- The client takes over what the server announced only once the whole exchange
of `initialize` has succeeded. -/
theorem initializeClient_capabilities (parse : Value → Except String InitializeResult)
    (info : ClientInfo) (s : ClientState σ) :
    match (initializeClient service parse info).run s with
    | .ok result s' => s'.serverCapabilities = some result.capabilities
    | .error _ s' => s'.serverCapabilities = s.serverCapabilities := by
  cases hrun : (initializeClient service parse info).run s with
  | ok result s' =>
      obtain ⟨_, _, _, hnext⟩ := bind_ok hrun
      obtain ⟨_, _, _, hlast⟩ := bind_ok hnext
      cases hlast
      rfl
  | error e s' =>
      rcases bind_error hrun with hrequest | ⟨result, mid, hrequest, hnext⟩
      · exact (sendRequest_capabilities parse _ _).of_error hrequest
      · have hmid := (sendRequest_capabilities parse _ _).of_ok hrequest
        rcases bind_error hnext with hnotify | ⟨_, _, _, hlast⟩
        · exact ((sendNotification_capabilities _ _).of_error hnotify).trans hmid
        · cases hlast

end IdxWorkspace.Mcp
