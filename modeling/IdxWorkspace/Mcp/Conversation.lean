import IdxWorkspace.Mcp.Client

/-!
A client and a server put together, one request at a time. Both directions go
through the encoding of messages, which changes the form of a reply with an
error but not what the client concludes from it.
-/

namespace IdxWorkspace.Mcp

open Library Library.Effect

variable {σ R : Type} (rejects : Value → String) (router : Router σ)

/-- The service a client gets of a server whose replies can be written: its
message arrives, and what the server writes comes back. -/
def exchange (m : JsonRpcMessage) : EStateM ServiceError σ JsonRpcMessage := fun s =>
  let arrived := (JsonRpcMessage.decode rejects m.encode).mapError .json
  match (run (call router) (fun _ => none) [arrived]).run { service := s, written := [] } with
  | .error _ s' => .error .timeout s'.service
  | .ok _ s' =>
      match s'.written with
      | [] => .ok .nil s'.service
      | reply :: _ =>
          match JsonRpcMessage.decode rejects reply.encode with
          | .ok m' => .ok m' s'.service
          | .error _ => .error .timeout s'.service

/-- The form in which a response arrives. -/
def arrival (response : JsonRpcResponse) : JsonRpcMessage :=
  match response.error with
  | some e => .error { jsonrpc := response.jsonrpc, id := response.id, error := e }
  | none => .response response

theorem decode_newRequest {params : Value} (h : params ≠ .null) (id : UInt64) (method : String) :
    JsonRpcMessage.decode rejects (JsonRpcMessage.request (newRequest id method params)).encode =
      .ok (.request (newRequest id method params)) := by
  apply decode_of_faithful
  exact ⟨by simp [newRequest], by simpa [newRequest] using h⟩

/-- A reply of the server is brought back whole. -/
theorem decode_says {req : JsonRpcRequest} {response : JsonRpcResponse} (h : Says req response) :
    JsonRpcMessage.decode rejects (JsonRpcMessage.response response).encode =
      .ok (arrival response) := by
  rw [JsonRpcMessage.encode, decode_response, arrival]
  rcases response with ⟨jsonrpc, id, result, error⟩
  cases h with
  | result h =>
      obtain ⟨entries, rfl⟩ := h.result
      obtain rfl := h.error
      rfl
  | unknown _ h =>
      obtain rfl := h.error
      rfl
  | raised e h =>
      cases h
      rfl

/-- From a reply and from the form it arrives in the client concludes the same. -/
theorem conclude_arrival (parse : Value → Except String R) {req : JsonRpcRequest}
    {response : JsonRpcResponse} (h : Says req response) {id : UInt64} (hid : req.id = some id) :
    conclude parse id (arrival response) =
      match response.error, response.result with
      | some e, _ => .error (.rpcError e.code e.message)
      | none, some result => (parse result).mapError .serialization
      | none, none => .error (.unexpectedResponse "missing result") := by
  have hresponse : response.id = some id := h.id.2.trans hid
  unfold arrival
  cases herror : response.error with
  | some e => simp [conclude, hresponse]
  | none =>
      cases hresult : response.result <;> simp [conclude, hresponse, herror, hresult]

/-- A request alone is answered by one message. -/
theorem run_request (service : JsonRpcRequest → EStateM String σ JsonRpcResponse)
    (req : JsonRpcRequest) (s : σ) :
    (run service (fun _ => none) [.ok (.request req)]).run { service := s, written := [] } =
      match (respondTo service req).run { service := s, written := [] } with
      | .ok response s' => .ok () { s' with written := s'.written ++ [.response response] }
      | .error e s' => .error e s' := by
  have hround : run service (fun _ => none) [.ok (.request req)] =
      (respondTo service req >>= fun response =>
        writeMessage (fun _ => none) (.response response)) >>= fun _ => pure () := rfl
  rw [hround, EStateM.run_bind, EStateM.run_bind]
  cases (respondTo service req).run { service := s, written := [] } <;> rfl

/-- A reply of the service comes back in the form it arrives in. -/
theorem exchange_of_respondTo {params : Value} (h : params ≠ .null) {id : UInt64}
    {method : String} {response : JsonRpcResponse} {s t : σ}
    (hrespond : (respondTo (call router) (newRequest id method params)).run
        { service := s, written := [] } = .ok response { service := t, written := [] }) :
    (exchange rejects router (.request (newRequest id method params))).run s =
      .ok (arrival response) t := by
  have hsays := respondTo_returns _ _ _ _ hrespond
  have hrun : (exchange rejects router (.request (newRequest id method params))).run s =
      exchange rejects router (.request (newRequest id method params)) s := rfl
  rw [hrun, exchange, decode_newRequest rejects h, Except.mapError, run_request, hrespond]
  simp only [List.nil_append, decode_says rejects hsays]

/-- What the router does with a request, as the client sees it. -/
theorem exchange_request {params : Value} (h : params ≠ .null) (id : UInt64) (method : String)
    (s : σ) :
    (exchange rejects router (.request (newRequest id method params))).run s =
      match (handle router (newRequest id method params)).run s with
      | .ok response t => .ok (arrival response) t
      | .error e t => .ok (.error
          { jsonrpc := "2.0", id := some id,
            error := { code := INTERNAL_ERROR, message := e.display, data := none } }) t := by
  have hrespond : (respondTo (call router) (newRequest id method params)).run
      { service := s, written := [] } = respondTo (call router) (newRequest id method params)
      { service := s, written := [] } := rfl
  cases hhandle : (handle router (newRequest id method params)).run s with
  | ok response t =>
      have hcall : (call router (newRequest id method params)).run s = .ok response t :=
        adaptExcept_ok_iff.mpr hhandle
      have hreturned : (respondTo (call router) (newRequest id method params)).run
          { service := s, written := [] } = .ok response { service := t, written := [] } := by
        rw [hrespond, respondTo]
        simp only [hcall]
      exact exchange_of_respondTo rejects router h hreturned
  | error e t =>
      have hcall : (call router (newRequest id method params)).run s = .error e.display t :=
        adaptExcept_error_iff.mpr ⟨e, hhandle, rfl⟩
      have hraised : (respondTo (call router) (newRequest id method params)).run
          { service := s, written := [] } = .ok
            { jsonrpc := "2.0", id := some id, result := none,
              error := some { code := INTERNAL_ERROR, message := e.display, data := none } }
            { service := t, written := [] } := by
        rw [hrespond, respondTo]
        simp only [hcall]
        rfl
      exact exchange_of_respondTo rejects router h hraised

/-- A request that goes through a server comes to the method's result, or to an
error that has the text of what the method raised. -/
theorem sendRequest_served (parse : Value → Except String R) {params : Value}
    (h : params ≠ .null) (method : String) (s : ClientState σ) :
    (sendRequest (exchange rejects router) parse method params).run s =
      match (handle router (newRequest s.nextId method params)).run s.service with
      | .ok response t =>
          (ofExcept (match response.error, response.result with
            | some e, _ => .error (.rpcError e.code e.message)
            | none, some result => (parse result).mapError .serialization
            | none, none => .error (.unexpectedResponse "missing result")) : Client σ R).run
            { s with service := t, nextId := s.nextId + 1 }
      | .error e t => .error (.rpcError INTERNAL_ERROR e.display)
          { s with service := t, nextId := s.nextId + 1 } := by
  rw [sendRequest_run, exchange_request rejects router h]
  cases hhandle : (handle router (newRequest s.nextId method params)).run s.service with
  | ok response t =>
      have hreturns := handle_returns (newRequest s.nextId method params) _ _ _ hhandle
      have hsays : Says (newRequest s.nextId method params) response := by
        rcases hreturns with ⟨_, hanswers⟩ | ⟨hmethod, hrefuses⟩
        · exact .result hanswers
        · exact .unknown hmethod hrefuses
      simp only [conclude_arrival parse hsays rfl]
  | error e t => simp [conclude, run_ofExcept]

/-- What `serde` makes of a value as a result type with the given reader. -/
def fromValue (read : Value → Option R) (v : Value) : Except String R :=
  match read v with
  | some r => .ok r
  | none => .error (rejects v)

theorem exchange_notification (n : JsonRpcNotification) (s : σ) :
    (exchange rejects router (.notification n)).run s = .ok .nil s := by
  have hrun : (exchange rejects router (.notification n)).run s =
      exchange rejects router (.notification n) s := rfl
  rw [hrun, exchange, JsonRpcMessage.encode, decode_notification]
  rfl

section Operations

variable {router} {s : ClientState σ} {capabilities : ServerCapabilities}

/-- An announced operation comes to what its method returns. -/
theorem operate_served {supported : ServerCapabilities → Bool}
    (hknown : s.serverCapabilities = some capabilities) (hsupported : supported capabilities = true)
    {params : Value} (hparams : params ≠ .null) {read : Value → Option R} {encode : R → Value}
    {r : R} (hread : read (encode r) = some r) {method : String} {t : σ}
    (hhandle : (handle router (newRequest s.nextId method params)).run s.service =
      .ok (respond (some s.nextId) (encode r)) t) (absent : Except ClientError R) :
    (operate (exchange rejects router) supported absent (fromValue rejects read) method params).run s =
      .ok r { s with service := t, nextId := s.nextId + 1 } := by
  rw [operate_announced hknown hsupported, sendRequest_served rejects router _ hparams, hhandle]
  simp [respond, createResponse, fromValue, hread, Except.mapError, run_ofExcept]

/-- What its method raises, the client is told as an internal error. -/
theorem operate_raised {supported : ServerCapabilities → Bool}
    (hknown : s.serverCapabilities = some capabilities) (hsupported : supported capabilities = true)
    {params : Value} (hparams : params ≠ .null) {method : String} {e : RouterError} {t : σ}
    (hhandle : (handle router (newRequest s.nextId method params)).run s.service = .error e t)
    (absent : Except ClientError R) (parse : Value → Except String R) :
    (operate (exchange rejects router) supported absent parse method params).run s =
      .error (.rpcError INTERNAL_ERROR e.display)
        { s with service := t, nextId := s.nextId + 1 } := by
  rw [operate_announced hknown hsupported, sendRequest_served rejects router _ hparams, hhandle]

theorem cursorPayload_ne_null (nextCursor : Option String) : cursorPayload nextCursor ≠ .null := by
  cases nextCursor <;> simp [cursorPayload]

end Operations

/-- After the handshake the client knows exactly what the router announces. -/
theorem initializeClient_served (info : ClientInfo) (s : ClientState σ) :
    (initializeClient (exchange rejects router) (fromValue rejects InitializeResult.read) info).run
        s =
      .ok
        { protocolVersion := "2024-11-05"
          capabilities := router.capabilities
          serverInfo := { name := router.name, version := packageVersion }
          instructions := some router.instructions }
        { s with
          nextId := s.nextId + 1
          serverCapabilities := some router.capabilities
          serverInfo := some { name := router.name, version := packageVersion } } := by
  have hhandle : (handle router (newRequest s.nextId "initialize"
      (InitializeParams.encode { protocolVersion := "1.0.0", clientInfo := info }))).run s.service =
        .ok (respond (some s.nextId) (InitializeResult.encode
          { protocolVersion := "2024-11-05"
            capabilities := router.capabilities
            serverInfo := { name := router.name, version := packageVersion }
            instructions := some router.instructions })) s.service := rfl
  rw [initializeClient, EStateM.run_bind,
    sendRequest_served rejects router _ (by simp [InitializeParams.encode]), hhandle]
  simp only [respond, createResponse, fromValue, InitializeResult.read_encode, Except.mapError,
    run_ofExcept]
  simp only [sendNotification, EStateM.run_bind, callService_run, exchange_notification]
  rfl

end IdxWorkspace.Mcp
