import IdxWorkspace.Library.Sequential
import IdxWorkspace.Mcp.Annotated
import IdxWorkspace.Mcp.Conversation

/-!
A whole session between a client and a router. `locally` says what an operation
is meant to do, with no messages in between: what the router supplies, what it
refuses, or what an operation comes to without its capability. After the
handshake any list of operations does that.
-/

namespace IdxWorkspace.Mcp.Session

open Library Library.Effect Library.Sequential

/-- The operations of `McpClientTrait` on an initialised client. -/
inductive Operation where
  | listResources (nextCursor : Option String)
  | readResource (uri : String)
  | listTools (nextCursor : Option String)
  | callTool (name : String) (arguments : Value)
  | listPrompts (nextCursor : Option String)
  | getPrompt (name : String) (arguments : Value)

inductive Result where
  | resources (r : ListResourcesResult)
  | resource (r : ReadResourceResult)
  | tools (r : ListToolsResult)
  | called (r : CallToolResult)
  | prompts (r : ListPromptsResult)
  | prompt (r : GetPromptResult)

variable {σ : Type}

section Remote

variable (service : JsonRpcMessage → EStateM ServiceError σ JsonRpcMessage)
variable (rejects : Value → String) (scalars : Scalars)

/-- The operation of a client. -/
def remotely : Operation → Client σ Result
  | .listResources nextCursor =>
      Result.resources <$> listResources service
        (fromValue rejects (ListResourcesResult.read scalars)) nextCursor
  | .readResource uri =>
      Result.resource <$> readResource service (fromValue rejects ReadResourceResult.read) uri
  | .listTools nextCursor =>
      Result.tools <$> listTools service (fromValue rejects ListToolsResult.read) nextCursor
  | .callTool name arguments =>
      Result.called <$> callTool service (fromValue rejects (CallToolResult.read scalars)) name
        arguments
  | .listPrompts nextCursor =>
      Result.prompts <$> listPrompts service (fromValue rejects ListPromptsResult.read) nextCursor
  | .getPrompt name arguments =>
      Result.prompt <$> getPrompt service (fromValue rejects (GetPromptResult.read scalars)) name
        arguments

end Remote

section Local

variable (router : Router σ)

/-- A prompt with its checks and its holes filled. -/
def promptOf (name : String) (arguments : Value) : EStateM RouterError σ GetPromptResult := do
  let arguments ← okOr arguments.asObject (.invalidParams "Missing arguments object")
  let prompt ← okOr ((router.listPrompts (← get)).find? (·.name = name))
    (.promptNotFound ("Prompt '" ++ name ++ "' not found"))
  ofExcept ((prompt.arguments.getD []).forM (checkRequired arguments))
  let description ← (router.getPrompt name).adaptExcept fun e => .internal e.display
  ofExcept (arguments.forM checkArgument)
  if 10000 < description.utf8ByteSize then
    throw (.internal "Prompt description exceeds maximum allowed length")
  let filled := fillDescription arguments description
  return { description := some filled, messages := [newTextMessage .user filled] }

def reading {R : Type} (f : σ → R) : EStateM RouterError σ R := do
  return f (← get)

/-- A tool that fails is no error of the call. -/
def outcomeOf (name : String) (arguments : Value) : EStateM RouterError σ CallToolResult := do
  match ← attempt (router.callTool name arguments) with
  | .ok content => return { content := content, isError := none }
  | .error e => return { content := [Content.ofText e.display], isError := some true }

def contentsOf (uri : String) : EStateM RouterError σ ReadResourceResult := do
  let text ← (router.readResource uri).adaptExcept ResourceError.toRouterError
  return { contents := [.textResourceContents uri (some "text/plain") text] }

/-- What the router does for an operation. -/
def supply : Operation → EStateM RouterError σ Result
  | .listResources _ =>
      Result.resources <$> reading fun s =>
        { resources := router.listResources s, nextCursor := none }
  | .readResource uri => Result.resource <$> contentsOf router uri
  | .listTools _ =>
      Result.tools <$> reading fun s => { tools := router.listTools s, nextCursor := none }
  | .callTool name arguments => Result.called <$> outcomeOf router name arguments
  | .listPrompts _ => Result.prompts <$> reading fun s => { prompts := router.listPrompts s }
  | .getPrompt name arguments => Result.prompt <$> promptOf router name arguments

/-- Whether the capability of an operation is announced. -/
def supported (capabilities : ServerCapabilities) : Operation → Bool
  | .listResources _ | .readResource _ => capabilities.resources.isSome
  | .listTools _ | .callTool _ _ => capabilities.tools.isSome
  | .listPrompts _ | .getPrompt _ _ => capabilities.prompts.isSome

/-- What an operation comes to without its capability. -/
def withoutCapability : Operation → Except ClientError Result
  | .listResources _ => .ok (.resources { resources := [], nextCursor := none })
  | .listTools _ => .ok (.tools { tools := [], nextCursor := none })
  | .readResource _ => unsupported "resources"
  | .callTool _ _ => unsupported "tools"
  | .listPrompts _ | .getPrompt _ _ => unsupported "prompts"

/-- What an operation does, without a client. -/
def locally (op : Operation) : EStateM ClientError σ Result :=
  if supported router.capabilities op then
    (supply router op).adaptExcept fun e => .rpcError INTERNAL_ERROR e.display
  else ofExcept (withoutCapability op)

end Local

variable {router : Router σ} {rejects : Value → String} {scalars : Scalars}

/-- An initialised client of the router, and the router's own state. -/
structure Connected (router : Router σ) (s : ClientState σ) (t : σ) : Prop where
  service : s.service = t
  capabilities : s.serverCapabilities = some router.capabilities

/-- What a method computes before it is put into a response. -/
def Computes {R : Type} (router : Router σ) (method : String) (params : Value)
    (x : EStateM RouterError σ R) (encode : R → Value) : Prop :=
  ∀ id t, (handle router (newRequest id method params)).run t =
    (x >>= fun r => pure (respond (some id) (encode r))).run t

theorem Computes.after {R : Type} {method : String} {params : Value}
    {x : EStateM RouterError σ R} {encode : R → Value} (h : Computes router method params x encode)
    (id : UInt64) (t : σ) :
    after (x.run t) = after ((handle router (newRequest id method params)).run t) := by
  rw [h id t, EStateM.run_bind]
  cases x.run t <;> rfl

/-- An operation of the client mirrors what its method computes. -/
theorem operate_mirrors {R : Type} (supports : ServerCapabilities → Bool)
    (absent : Except ClientError R) {method : String} {params : Value} (hparams : params ≠ .null)
    {x : EStateM RouterError σ R} {encode : R → Value} {read : Value → Option R}
    (hmethod : Computes router method params x encode)
    (hread : ∀ t r t', x.run t = .ok r t' → read (encode r) = some r) :
    Mirrors (Connected router)
      (operate (exchange rejects router) supports absent (fromValue rejects read) method params)
      (if supports router.capabilities then
        x.adaptExcept fun e => .rpcError INTERNAL_ERROR e.display
      else ofExcept absent) := by
  rintro s t ⟨rfl, hknown⟩
  by_cases hsupported : supports router.capabilities = true
  · rw [if_pos hsupported]
    have hhandle := hmethod s.nextId s.service
    rw [EStateM.run_bind] at hhandle
    rw [run_adaptExcept]
    cases hx : x.run s.service with
    | ok r t' =>
        rw [hx] at hhandle
        rw [operate_served rejects hknown hsupported hparams (hread _ r t' hx) hhandle]
        exact ⟨rfl, rfl, hknown⟩
    | error e t' =>
        rw [hx] at hhandle
        rw [operate_raised rejects hknown hsupported hparams hhandle]
        exact ⟨rfl, rfl, hknown⟩
  · rw [if_neg hsupported, operate_run, hknown]
    simp only [hsupported]
    exact Mirrors.ofExcept absent s s.service ⟨rfl, hknown⟩

theorem computes_readResource (uri : String) :
    Computes router "resources/read" (.object [("uri", .string uri)]) (contentsOf router uri)
      ReadResourceResult.encode := by
  intro id t
  change (((router.readResource uri).adaptExcept ResourceError.toRouterError) >>= fun contents =>
    pure (respond (some id) (ReadResourceResult.encode
      { contents := [.textResourceContents uri (some "text/plain") contents] }))).run t = _
  rw [contentsOf, bind_assoc]
  rfl

theorem outcomeOf_run (name : String) (arguments : Value) (t : σ) :
    (outcomeOf router name arguments).run t =
      match (router.callTool name arguments).run t with
      | .ok content t' => .ok { content := content, isError := none } t'
      | .error e t' => .ok { content := [Content.ofText e.display], isError := some true } t' := by
  rw [outcomeOf, EStateM.run_bind, run_attempt]
  cases (router.callTool name arguments).run t <;> rfl

theorem computes_callTool (name : String) (arguments : Value) :
    Computes router "tools/call" (.object [("arguments", arguments), ("name", .string name)])
      (outcomeOf router name arguments) CallToolResult.encode := by
  intro id t
  let params : Value := .object [("arguments", arguments), ("name", .string name)]
  have hnamed : (handleToolsCall router (newRequest id "tools/call" params)).run t = _ :=
    handleToolsCall_named rfl rfl t
  have harguments : (params.get "arguments").getD .null = arguments := rfl
  rw [harguments] at hnamed
  change (handleToolsCall router (newRequest id "tools/call" params)).run t = _
  rw [hnamed, EStateM.run_bind, outcomeOf_run]
  cases (router.callTool name arguments).run t <;> rfl

theorem computes_getPrompt (name : String) (arguments : Value) :
    Computes router "prompts/get" (.object [("arguments", arguments), ("name", .string name)])
      (promptOf router name arguments) GetPromptResult.encode := by
  intro id t
  let params : Value := .object [("arguments", arguments), ("name", .string name)]
  change (handlePromptsGet router (newRequest id "prompts/get" params)).run t = _
  have hparams : (newRequest id "prompts/get" params).params = some params := rfl
  have hname : (params.get "name").bind Value.asStr = some name := rfl
  have harguments : (params.get "arguments").bind Value.asObject = arguments.asObject := rfl
  simp only [handlePromptsGet, promptOf, hparams, okOr, pure_bind, hname, harguments, bind_assoc]
  refine congrArg (fun x => EStateM.run x t) ?_
  refine bind_congr fun arguments => bind_congr fun listed => bind_congr fun prompt =>
    bind_congr fun _ => bind_congr fun description => bind_congr fun _ => ?_
  by_cases hlength : 10000 < description.utf8ByteSize
  · rw [if_pos hlength, if_pos hlength]
    rfl
  · rw [if_neg hlength, if_neg hlength]
    rfl

/-- A prompt is one text message. -/
theorem promptOf_returns (name : String) (arguments : Value) :
    Returns (promptOf router name arguments) fun r => ∃ filled,
      r = { description := some filled, messages := [newTextMessage .user filled] } := by
  refine Returns.bind (Returns.trivial _) fun arguments _ => ?_
  refine Returns.bind (Returns.trivial _) fun listed _ => ?_
  refine Returns.bind (Returns.trivial _) fun prompt _ => ?_
  refine Returns.bind (Returns.trivial _) fun _ _ => ?_
  refine Returns.bind (Returns.trivial _) fun description _ => ?_
  refine Returns.bind (Returns.trivial _) fun _ _ => ?_
  split
  · exact Returns.bind (Returns.throw _ fun _ => False) fun _ => False.elim
  · exact Returns.pure ⟨_, rfl⟩

/-- The annotations a router supplies are such as were written. -/
structure WrittenBy (scalars : Scalars) (router : Router σ) : Prop where
  resources : ∀ s, ∀ x ∈ router.listResources s, ∀ a, x.annotations = some a → a.Written scalars
  contents : ∀ name arguments s content t,
    (router.callTool name arguments).run s = .ok content t →
      ∀ c ∈ content, ∀ a, c.annotations = some a → a.Written scalars

/-- The operation of a client, with its result put among those of a session. -/
theorem gated_mirrors {R : Type} (f : R → Result) (supports : ServerCapabilities → Bool)
    {absent : Except ClientError R} {method : String} {params : Value} (hparams : params ≠ .null)
    {x : EStateM RouterError σ R} {encode : R → Value} {read : Value → Option R}
    (hmethod : Computes router method params x encode)
    (hread : ∀ t r t', x.run t = .ok r t' → read (encode r) = some r) :
    Mirrors (Connected router)
      (f <$> operate (exchange rejects router) supports absent (fromValue rejects read) method params)
      (if supports router.capabilities then
        (f <$> x).adaptExcept fun e => .rpcError INTERNAL_ERROR e.display
      else ofExcept (f <$> absent)) := by
  have hoperate : Mirrors (Connected router)
      (operate (exchange rejects router) supports absent (fromValue rejects read) method params) _ :=
    operate_mirrors supports absent hparams hmethod hread
  have hmirrors := hoperate.map f
  cases hsupported : supports router.capabilities with
  | true =>
      simp only [hsupported, if_true] at hmirrors ⊢
      rw [adaptExcept_map]
      exact hmirrors
  | false =>
      simp only [hsupported, Bool.false_eq_true, if_false] at hmirrors ⊢
      have hgiven : (ofExcept (f <$> absent) : EStateM ClientError σ Result) =
          f <$> ofExcept absent := by
        cases absent <;> rfl
      rw [hgiven]
      exact hmirrors

/-- Each operation of the client does what it is meant to do. -/
theorem remotely_mirrors (h : WrittenBy scalars router) (op : Operation) :
    Mirrors (Connected router) (remotely (exchange rejects router) rejects scalars op)
      (locally router op) := by
  cases op with
  | listResources nextCursor =>
      apply gated_mirrors Result.resources (·.resources.isSome) (cursorPayload_ne_null nextCursor)
      · exact fun id t => rfl
      · rintro t r t' ⟨⟩
        exact ListResourcesResult.read_encode (h.resources t)
  | readResource uri =>
      apply gated_mirrors Result.resource (·.resources.isSome) (by simp) (computes_readResource uri)
      exact fun t r t' _ => ReadResourceResult.read_encode r
  | listTools nextCursor =>
      apply gated_mirrors Result.tools (·.tools.isSome) (cursorPayload_ne_null nextCursor)
      · exact fun id t => rfl
      · exact fun t r t' _ => ListToolsResult.read_encode r
  | callTool name arguments =>
      apply gated_mirrors Result.called (·.tools.isSome) (by simp)
        (computes_callTool name arguments)
      intro t r t' hrun
      apply CallToolResult.read_encode
      rw [outcomeOf_run] at hrun
      cases hcall : (router.callTool name arguments).run t with
      | ok content t'' =>
          rw [hcall] at hrun
          cases hrun
          exact h.contents name arguments t content _ hcall
      | error e t'' =>
          rw [hcall] at hrun
          cases hrun
          simp [Content.ofText, Content.annotations]
  | listPrompts nextCursor =>
      apply gated_mirrors Result.prompts (·.prompts.isSome) (cursorPayload_ne_null nextCursor)
      · exact fun id t => rfl
      · exact fun t r t' _ => ListPromptsResult.read_encode r
  | getPrompt name arguments =>
      apply gated_mirrors Result.prompt (·.prompts.isSome) (by simp)
        (computes_getPrompt name arguments)
      intro t r t' hrun
      obtain ⟨filled, rfl⟩ := promptOf_returns name arguments t r t' hrun
      apply GetPromptResult.read_encode
      simp [newTextMessage, PromptMessageContent.annotations]

section Unannounced

variable (service : JsonRpcMessage → EStateM ServiceError σ JsonRpcMessage)

variable (rejects scalars)

end Unannounced

/-- The handshake of a new client connects it to the router. -/
theorem handshake_connects (rejects : Value → String) (router : Router σ) (info : ClientInfo)
    (service : σ) :
    ∃ result ready,
      (initializeClient (exchange rejects router) (fromValue rejects InitializeResult.read)
        info).run (newClient service) = .ok result ready ∧ Connected router ready service :=
  ⟨_, _, initializeClient_served rejects router info (newClient service), ⟨rfl, rfl⟩⟩

end IdxWorkspace.Mcp.Session
