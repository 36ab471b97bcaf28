import IdxWorkspace.Library.Effect
import IdxWorkspace.Library.Template
import IdxWorkspace.Mcp.Content

/-!
`RouterService`: the seven methods a server answers, over a router that supplies
tools, resources and prompts. A method either returns a response or raises; what
it raises is turned into an error response by the server.
-/

namespace IdxWorkspace.Mcp

open Library Library.Effect

inductive ToolError where
  | invalidParameters (message : String)
  | executionError (message : String)
  | schemaError (message : String)
  | notFound (message : String)

def ToolError.display : ToolError → String
  | .invalidParameters message => "Invalid parameters: " ++ message
  | .executionError message => "Execution failed: " ++ message
  | .schemaError message => "Schema error: " ++ message
  | .notFound message => "Tool not found: " ++ message

inductive ResourceError where
  | executionError (message : String)
  | notFound (message : String)

inductive PromptError where
  | invalidParameters (message : String)
  | internalError (message : String)
  | notFound (message : String)

def PromptError.display : PromptError → String
  | .invalidParameters message => "Invalid parameters: " ++ message
  | .internalError message => "Internal error: " ++ message
  | .notFound message => "Prompt not found: " ++ message

inductive RouterError where
  | methodNotFound (message : String)
  | invalidParams (message : String)
  | internal (message : String)
  | toolNotFound (message : String)
  | resourceNotFound (message : String)
  | promptNotFound (message : String)

def RouterError.display : RouterError → String
  | .methodNotFound message => "Method not found: " ++ message
  | .invalidParams message => "Invalid parameters: " ++ message
  | .internal message => "Internal error: " ++ message
  | .toolNotFound message => "Tool not found: " ++ message
  | .resourceNotFound message => "Resource not found: " ++ message
  | .promptNotFound message => "Not found: " ++ message

def RouterError.toErrorData : RouterError → ErrorData
  | .methodNotFound message => { code := METHOD_NOT_FOUND, message := message, data := none }
  | .invalidParams message => { code := INVALID_PARAMS, message := message, data := none }
  | .internal message => { code := INTERNAL_ERROR, message := message, data := none }
  | .toolNotFound message => { code := INVALID_REQUEST, message := message, data := none }
  | .resourceNotFound message => { code := INVALID_REQUEST, message := message, data := none }
  | .promptNotFound message => { code := INVALID_REQUEST, message := message, data := none }

def ResourceError.toRouterError : ResourceError → RouterError
  | .notFound message => .resourceNotFound message
  | .executionError _ => .internal "Unknown resource error"

/-- The `Router` trait; its methods share a state behind `&self`. -/
structure Router (σ : Type) where
  name : String
  instructions : String
  capabilities : ServerCapabilities
  listTools : σ → List Tool
  callTool : String → Value → EStateM ToolError σ (List Content)
  listResources : σ → List Resource
  readResource : String → EStateM ResourceError σ String
  listPrompts : σ → List Prompt
  getPrompt : String → EStateM PromptError σ String

variable {σ : Type} (router : Router σ)

def createResponse (id : Option UInt64) : JsonRpcResponse :=
  { jsonrpc := "2.0", id := id, result := none, error := none }

/-- How the methods end; `to_value` does not fail on what they return. -/
def respond (id : Option UInt64) (result : Value) : JsonRpcResponse :=
  { createResponse id with result := some result }

def okOr {ε α : Type} (v : Option α) (e : ε) : EStateM ε σ α :=
  match v with
  | some a => pure a
  | none => throw e

/-- `env!("CARGO_PKG_VERSION")` -/
def packageVersion : String := "1.0.7"

def handleInitialize (req : JsonRpcRequest) : EStateM RouterError σ JsonRpcResponse :=
  let result : InitializeResult :=
    { protocolVersion := "2024-11-05"
      capabilities := router.capabilities
      serverInfo := { name := router.name, version := packageVersion }
      instructions := some router.instructions }
  pure (respond req.id result.encode)

def handleToolsList (req : JsonRpcRequest) : EStateM RouterError σ JsonRpcResponse := do
  let result : ListToolsResult := { tools := router.listTools (← get), nextCursor := none }
  return respond req.id result.encode

def handleToolsCall (req : JsonRpcRequest) : EStateM RouterError σ JsonRpcResponse := do
  let params ← okOr req.params (.invalidParams "Missing parameters")
  let name ← okOr ((params.get "name").bind Value.asStr) (.invalidParams "Missing tool name")
  let arguments := (params.get "arguments").getD .null
  let result ← attempt (router.callTool name arguments)
  let result : CallToolResult :=
    match result with
    | .ok content => { content := content, isError := none }
    | .error err => { content := [Content.ofText err.display], isError := some true }
  return respond req.id result.encode

def handleResourcesList (req : JsonRpcRequest) : EStateM RouterError σ JsonRpcResponse := do
  let result : ListResourcesResult :=
    { resources := router.listResources (← get), nextCursor := none }
  return respond req.id result.encode

def handleResourcesRead (req : JsonRpcRequest) : EStateM RouterError σ JsonRpcResponse := do
  let params ← okOr req.params (.invalidParams "Missing parameters")
  let uri ← okOr ((params.get "uri").bind Value.asStr) (.invalidParams "Missing resource URI")
  let contents ← (router.readResource uri).adaptExcept ResourceError.toRouterError
  let result : ReadResourceResult :=
    { contents := [.textResourceContents uri (some "text/plain") contents] }
  return respond req.id result.encode

def handlePromptsList (req : JsonRpcRequest) : EStateM RouterError σ JsonRpcResponse := do
  let result : ListPromptsResult := { prompts := router.listPrompts (← get) }
  return respond req.id result.encode

/-- A required argument has to be there, as a text that is not empty. -/
def checkRequired (arguments : List (String × Value)) (arg : PromptArgument) :
    Except RouterError Unit :=
  if arg.required = some true ∧ ((arguments.lookup arg.name).isNone ∨
      ((arguments.lookup arg.name).bind Value.asStr).all String.isEmpty) then
    .error (.invalidParams ("Missing required argument: '" ++ arg.name ++ "'"))
  else .ok ()

def contains (text pattern : String) : Bool := decide (pattern.toList <:+: text.toList)

def dangerousPatterns : List String :=
  ["../", "//", "\\\\", "<script>", "\x7b\x7b", "\x7d\x7d"]

def checkPattern (key value pattern : String) : Except RouterError Unit :=
  if contains key pattern || contains value pattern then
    .error (.invalidParams ("Arguments contain potentially unsafe pattern: " ++ pattern))
  else .ok ()

/-- One round of the validation loop. Lengths are in bytes. -/
def checkArgument (argument : String × Value) : Except RouterError Unit :=
  let value := argument.2.asStr.getD ""
  if argument.1.isEmpty || 1000 < argument.1.utf8ByteSize then
    .error (.invalidParams "Argument keys must be between 1-1000 characters")
  else if 1000 < value.utf8ByteSize then
    .error (.invalidParams "Argument values must not exceed 1000 characters")
  else dangerousPatterns.forM (checkPattern argument.1 value)

/-- `str::replace` -/
def replace (text word new : String) : String :=
  String.ofList (Template.replace word.toList new.toList text.toList)

def fillDescription (arguments : List (String × Value)) (description : String) : String :=
  arguments.foldl
    (fun filled argument =>
      replace filled ("\x7b" ++ argument.1 ++ "\x7d") (argument.2.asStr.getD ""))
    description

def handlePromptsGet (req : JsonRpcRequest) : EStateM RouterError σ JsonRpcResponse := do
  let params ← okOr req.params (.invalidParams "Missing parameters")
  let promptName ← okOr ((params.get "name").bind Value.asStr)
    (.invalidParams "Missing prompt name")
  let arguments ← okOr ((params.get "arguments").bind Value.asObject)
    (.invalidParams "Missing arguments object")
  let prompt ← okOr ((router.listPrompts (← get)).find? (·.name = promptName))
    (.promptNotFound ("Prompt '" ++ promptName ++ "' not found"))
  ofExcept ((prompt.arguments.getD []).forM (checkRequired arguments))
  let description ← (router.getPrompt promptName).adaptExcept fun e => .internal e.display
  ofExcept (arguments.forM checkArgument)
  if 10000 < description.utf8ByteSize then
    throw (.internal "Prompt description exceeds maximum allowed length")
  let filled := fillDescription arguments description
  let result : GetPromptResult :=
    { description := some filled, messages := [newTextMessage .user filled] }
  return respond req.id result.encode

/-- The `match` of `RouterService::call`. -/
def handle (req : JsonRpcRequest) : EStateM RouterError σ JsonRpcResponse :=
  match req.method with
  | "initialize" => handleInitialize router req
  | "tools/list" => handleToolsList router req
  | "tools/call" => handleToolsCall router req
  | "resources/list" => handleResourcesList router req
  | "resources/read" => handleResourcesRead router req
  | "prompts/list" => handlePromptsList router req
  | "prompts/get" => handlePromptsGet router req
  | _ =>
      pure { createResponse req.id with
        error := some (RouterError.methodNotFound req.method).toErrorData }

/-- `RouterService::call`; a boxed error is known by its text. -/
def call (req : JsonRpcRequest) : EStateM String σ JsonRpcResponse :=
  (handle router req).adaptExcept RouterError.display

def methods : List String :=
  ["initialize", "tools/list", "tools/call", "resources/list", "resources/read", "prompts/list",
    "prompts/get"]

/-- A response that gives a result. -/
structure Answers (req : JsonRpcRequest) (response : JsonRpcResponse) : Prop where
  jsonrpc : response.jsonrpc = "2.0"
  id : response.id = req.id
  result : ∃ entries, response.result = some (.object entries)
  error : response.error = none

/-- The response to a method the server does not have. -/
structure Refuses (req : JsonRpcRequest) (response : JsonRpcResponse) : Prop where
  jsonrpc : response.jsonrpc = "2.0"
  id : response.id = req.id
  result : response.result = none
  error : response.error = some { code := METHOD_NOT_FOUND, message := req.method, data := none }

variable {router}

theorem respond_answers (req : JsonRpcRequest) (entries : List (String × Value)) :
    Answers req (respond req.id (.object entries)) := ⟨rfl, rfl, ⟨entries, rfl⟩, rfl⟩

theorem handleInitialize_answers (req : JsonRpcRequest) :
    Returns (handleInitialize router req) (Answers req) := Returns.pure (respond_answers req _)

theorem handleToolsList_answers (req : JsonRpcRequest) :
    Returns (handleToolsList router req) (Answers req) :=
  Returns.bind (Returns.trivial _) fun _ _ => Returns.pure (respond_answers req _)

theorem handleToolsCall_answers (req : JsonRpcRequest) :
    Returns (handleToolsCall router req) (Answers req) :=
  Returns.bind (Returns.trivial _) fun _ _ => Returns.bind (Returns.trivial _) fun _ _ =>
    Returns.bind (Returns.trivial _) fun _ _ => Returns.pure (respond_answers req _)

theorem handleResourcesList_answers (req : JsonRpcRequest) :
    Returns (handleResourcesList router req) (Answers req) :=
  Returns.bind (Returns.trivial _) fun _ _ => Returns.pure (respond_answers req _)

theorem handleResourcesRead_answers (req : JsonRpcRequest) :
    Returns (handleResourcesRead router req) (Answers req) :=
  Returns.bind (Returns.trivial _) fun _ _ => Returns.bind (Returns.trivial _) fun _ _ =>
    Returns.bind (Returns.trivial _) fun _ _ => Returns.pure (respond_answers req _)

theorem handlePromptsList_answers (req : JsonRpcRequest) :
    Returns (handlePromptsList router req) (Answers req) :=
  Returns.bind (Returns.trivial _) fun _ _ => Returns.pure (respond_answers req _)

theorem okOr_ok_iff {ε α : Type} {v : Option α} {e : ε} {a : α} {s s' : σ} :
    (okOr v e : EStateM ε σ α).run s = .ok a s' ↔ v = some a ∧ s = s' := by
  cases v with
  | some b => simp [okOr]
  | none => simp [okOr, throw_ok_iff]

/-- A call of a tool by its name comes to a response, whether the tool fails or not. -/
theorem handleToolsCall_named {req : JsonRpcRequest} {params : Value} {name : String}
    (hparams : req.params = some params)
    (hname : (params.get "name").bind Value.asStr = some name) (s : σ) :
    (handleToolsCall router req).run s =
      match (router.callTool name ((params.get "arguments").getD .null)).run s with
      | .ok content t =>
          .ok (respond req.id (CallToolResult.encode { content := content, isError := none })) t
      | .error e t =>
          .ok (respond req.id (CallToolResult.encode
            { content := [Content.ofText e.display], isError := some true })) t := by
  have hcall : handleToolsCall router req =
      attempt (router.callTool name ((params.get "arguments").getD .null)) >>= fun result =>
        pure (respond req.id (CallToolResult.encode (match result with
          | .ok content => { content := content, isError := none }
          | .error err => { content := [Content.ofText err.display], isError := some true }))) := by
    rw [handleToolsCall, hparams]
    change (okOr ((params.get "name").bind Value.asStr) _ >>= _) = _
    rw [hname]
    rfl
  rw [hcall, EStateM.run_bind, run_attempt]
  cases (router.callTool name ((params.get "arguments").getD .null)).run s <;> rfl

/-- A call that names no tool calls none. -/
theorem handleToolsCall_unnamed {req : JsonRpcRequest}
    (h : (req.params.bind (·.get "name")).bind Value.asStr = none) (s : σ) :
    ∃ message, (handleToolsCall router req).run s = .error (.invalidParams message) s := by
  cases hparams : req.params with
  | none =>
      rw [handleToolsCall, hparams]
      exact ⟨_, rfl⟩
  | some params =>
      rw [hparams] at h
      rw [handleToolsCall, hparams]
      change ∃ message, (okOr ((params.get "name").bind Value.asStr) _ >>= _ :
        EStateM RouterError σ JsonRpcResponse).run s = .error (.invalidParams message) s
      have hname : (params.get "name").bind Value.asStr = none := h
      rw [hname]
      exact ⟨_, rfl⟩

/-- An argument that is there, as a text that is not empty. -/
def Given (arguments : List (String × Value)) (name : String) : Prop :=
  ∃ value, arguments.lookup name = some (.string value) ∧ value ≠ ""

/-- What the validation loop lets through. -/
structure Safe (argument : String × Value) : Prop where
  key_ne : argument.1 ≠ ""
  key_le : argument.1.utf8ByteSize ≤ 1000
  value_le : (argument.2.asStr.getD "").utf8ByteSize ≤ 1000
  harmless : ∀ pattern ∈ dangerousPatterns,
    ¬ pattern.toList <:+: argument.1.toList ∧
      ¬ pattern.toList <:+: (argument.2.asStr.getD "").toList

theorem checkRequired_ok_iff (arguments : List (String × Value)) (arg : PromptArgument) :
    checkRequired arguments arg = .ok () ↔
      (arg.required = some true → Given arguments arg.name) := by
  have hgiven : Given arguments arg.name ↔ ¬ ((arguments.lookup arg.name).isNone ∨
      ((arguments.lookup arg.name).bind Value.asStr).all String.isEmpty) := by
    cases hlookup : arguments.lookup arg.name with
    | none => simp [Given, hlookup]
    | some v => cases v <;> simp [Given, hlookup, Value.asStr]
  unfold checkRequired
  by_cases hrequired : arg.required = some true
  · by_cases hg : Given arguments arg.name
    · rw [if_neg fun h => hgiven.mp hg h.2]
      simp [hg]
    · rw [if_pos ⟨hrequired, not_not.mp (hgiven.not.mp hg)⟩]
      simp [hrequired, hg]
  · rw [if_neg fun h => hrequired h.1]
    simp [hrequired]

theorem checkPattern_ok_iff (key value pattern : String) :
    checkPattern key value pattern = .ok () ↔
      ¬ pattern.toList <:+: key.toList ∧ ¬ pattern.toList <:+: value.toList := by
  unfold checkPattern contains
  by_cases hkey : pattern.toList <:+: key.toList
  · simp [hkey]
  · by_cases hvalue : pattern.toList <:+: value.toList <;> simp [hkey, hvalue]

theorem checkArgument_ok_iff (argument : String × Value) :
    checkArgument argument = .ok () ↔ Safe argument := by
  unfold checkArgument
  extract_lets value
  split
  · rename_i h
    simp only [reduceCtorEq, false_iff]
    intro hsafe
    rcases Bool.or_eq_true_iff.mp h with hempty | hlong
    · exact hsafe.key_ne (String.isEmpty_iff.mp hempty)
    · exact absurd hsafe.key_le (by simpa using hlong)
  · rename_i hkey
    simp only [Bool.or_eq_true, not_or, String.isEmpty_iff, decide_eq_true_eq, not_lt] at hkey
    split
    · rename_i hlong
      simp only [reduceCtorEq, false_iff]
      intro hsafe
      exact absurd hsafe.value_le (Nat.not_le.mpr hlong)
    · rename_i hvalue
      rw [forM_checks_iff]
      constructor
      · intro h
        exact ⟨hkey.1, hkey.2, Nat.le_of_not_lt hvalue,
          fun pattern hp => (checkPattern_ok_iff _ _ _).mp (h pattern hp)⟩
      · intro hsafe pattern hp
        exact (checkPattern_ok_iff _ _ _).mpr (hsafe.harmless pattern hp)

/-- A prompt is returned exactly when everything the method checks holds. -/
theorem handlePromptsGet_ok_iff {req : JsonRpcRequest} {response : JsonRpcResponse} {s s' : σ} :
    (handlePromptsGet router req).run s = .ok response s' ↔
      ∃ params promptName arguments prompt description,
        req.params = some params ∧
        (params.get "name").bind Value.asStr = some promptName ∧
        (params.get "arguments").bind Value.asObject = some arguments ∧
        (router.listPrompts s).find? (·.name = promptName) = some prompt ∧
        (∀ arg ∈ prompt.arguments.getD [],
          arg.required = some true → Given arguments arg.name) ∧
        (router.getPrompt promptName).run s = .ok description s' ∧
        (∀ argument ∈ arguments, Safe argument) ∧
        description.utf8ByteSize ≤ 10000 ∧
        response = respond req.id (GetPromptResult.encode
          { description := some (fillDescription arguments description)
            messages := [newTextMessage .user (fillDescription arguments description)] }) := by
  have hsafe (arguments : List (String × Value)) :
      arguments.forM checkArgument = .ok () ↔ ∀ argument ∈ arguments, Safe argument := by
    rw [forM_checks_iff]
    exact forall₂_congr fun argument _ => checkArgument_ok_iff argument
  have hgiven (arguments : List (String × Value)) (args : List PromptArgument) :
      args.forM (checkRequired arguments) = .ok () ↔
        ∀ arg ∈ args, arg.required = some true → Given arguments arg.name := by
    rw [forM_checks_iff]
    exact forall₂_congr fun arg _ => checkRequired_ok_iff arguments arg
  simp only [handlePromptsGet, bind_ok_iff, okOr_ok_iff, ofExcept_ok_iff, adaptExcept_ok_iff]
  constructor
  · rintro ⟨params, _, ⟨hparams, rfl⟩, promptName, _, ⟨hname, rfl⟩, arguments, _, ⟨harguments, rfl⟩,
      listed, _, hget, prompt, _, ⟨hprompt, rfl⟩, _, _, ⟨hrequired, rfl⟩, description, _,
      hdescription, _, _, ⟨hvalid, rfl⟩, hrest⟩
    cases hget
    split at hrest
    · cases hrest
    · rename_i hlength
      obtain ⟨rfl, rfl⟩ := pure_ok_iff.mp hrest
      exact ⟨params, promptName, arguments, prompt, description, hparams, hname, harguments,
        hprompt, (hgiven _ _).mp hrequired, hdescription, (hsafe _).mp hvalid,
        Nat.le_of_not_lt hlength, rfl⟩
  · rintro ⟨params, promptName, arguments, prompt, description, hparams, hname, harguments, hprompt,
      hrequired, hdescription, hvalid, hlength, rfl⟩
    refine ⟨params, _, ⟨hparams, rfl⟩, promptName, _, ⟨hname, rfl⟩, arguments, _,
      ⟨harguments, rfl⟩, s, s, rfl, prompt, _, ⟨hprompt, rfl⟩, _, _,
      ⟨(hgiven _ _).mpr hrequired, rfl⟩, description, _, hdescription, _, _,
      ⟨(hsafe _).mpr hvalid, rfl⟩, ?_⟩
    rw [if_neg (Nat.not_lt.mpr hlength)]
    rfl

theorem handlePromptsGet_answers (req : JsonRpcRequest) :
    Returns (handlePromptsGet router req) (Answers req) := by
  intro s response s' hrun
  obtain ⟨_, _, _, _, _, _, _, _, _, _, _, _, _, rfl⟩ := handlePromptsGet_ok_iff.mp hrun
  exact respond_answers req _

/-- A request that is handled gets a result from the method it names, or is told
that there is no such method. -/
theorem handle_returns (req : JsonRpcRequest) :
    Returns (handle router req) fun response =>
      (req.method ∈ methods ∧ Answers req response) ∨
        (req.method ∉ methods ∧ Refuses req response) := by
  have hknown {x : EStateM RouterError σ JsonRpcResponse} (hmethod : req.method ∈ methods)
      (hx : Returns x (Answers req)) : Returns x fun response =>
        (req.method ∈ methods ∧ Answers req response) ∨
          (req.method ∉ methods ∧ Refuses req response) :=
    fun s response s' hrun => Or.inl ⟨hmethod, hx s response s' hrun⟩
  unfold handle
  split
  · exact hknown (by simp [methods, *]) (handleInitialize_answers req)
  · exact hknown (by simp [methods, *]) (handleToolsList_answers req)
  · exact hknown (by simp [methods, *]) (handleToolsCall_answers req)
  · exact hknown (by simp [methods, *]) (handleResourcesList_answers req)
  · exact hknown (by simp [methods, *]) (handleResourcesRead_answers req)
  · exact hknown (by simp [methods, *]) (handlePromptsList_answers req)
  · exact hknown (by simp [methods, *]) (handlePromptsGet_answers req)
  · have hunknown : req.method ∉ methods := by
      simp only [methods, List.mem_cons, List.not_mem_nil, or_false, not_or]
      exact ⟨‹_›, ‹_›, ‹_›, ‹_›, ‹_›, ‹_›, ‹_›⟩
    exact Returns.pure (Or.inr ⟨hunknown, rfl, rfl, rfl, rfl⟩)

/-- A method the server has is never refused for its name. -/
theorem handle_refuses_iff {req : JsonRpcRequest} {response : JsonRpcResponse} {s s' : σ}
    (h : (handle router req).run s = .ok response s') :
    response.error ≠ none ↔ req.method ∉ methods := by
  rcases handle_returns req s response s' h with ⟨hmethod, hanswer⟩ | ⟨hmethod, hrefusal⟩
  · simp [hmethod, hanswer.error]
  · simp [hmethod, hrefusal.error]

/-- A prompt is given if and only if it is there, every required argument is given,
every argument is harmless, and the description is not too long. The lengths are
those of UTF-8 bytes, and the checks read the description before its arguments are
filled in. The router is arbitrary, and so are the request and the state. -/
theorem promptsGet_served_iff (router : Router σ) (req : JsonRpcRequest)
    (response : JsonRpcResponse) (s s' : σ) :
    (call router { req with method := "prompts/get" }).run s = .ok response s' ↔
      ∃ params promptName arguments prompt description,
        req.params = some params ∧
        (params.get "name").bind Value.asStr = some promptName ∧
        (params.get "arguments").bind Value.asObject = some arguments ∧
        (router.listPrompts s).find? (·.name = promptName) = some prompt ∧
        (∀ arg ∈ prompt.arguments.getD [],
          arg.required = some true → Given arguments arg.name) ∧
        (router.getPrompt promptName).run s = .ok description s' ∧
        (∀ argument ∈ arguments, Safe argument) ∧
        description.utf8ByteSize ≤ 10000 ∧
        response = respond req.id (GetPromptResult.encode
          { description := some (fillDescription arguments description)
            messages := [newTextMessage .user (fillDescription arguments description)] }) := by
  rw [call, adaptExcept_ok_iff]
  exact handlePromptsGet_ok_iff

section Frame

variable {τ : Type} {view : σ → τ}

theorem okOr_frame {ε α : Type} (v : Option α) (e : ε) :
    Preserves view (okOr v e : EStateM ε σ α) := by
  cases v with
  | some a => exact Preserves.pure view a
  | none => exact Preserves.throw view e

theorem handleToolsCall_frame (req : JsonRpcRequest)
    (htool : ∀ name arguments, Preserves view (router.callTool name arguments)) :
    Preserves view (handleToolsCall router req) := by
  apply Preserves.bind (okOr_frame _ _)
  intro params
  apply Preserves.bind (okOr_frame _ _)
  intro name
  apply Preserves.bind (htool _ _).attempt
  intro result
  exact Preserves.pure view _

theorem handleResourcesRead_frame (req : JsonRpcRequest)
    (hresource : ∀ uri, Preserves view (router.readResource uri)) :
    Preserves view (handleResourcesRead router req) := by
  apply Preserves.bind (okOr_frame _ _)
  intro params
  apply Preserves.bind (okOr_frame _ _)
  intro uri
  exact Preserves.bind ((hresource uri).adaptExcept _) fun _ => Preserves.pure view _

theorem handlePromptsGet_frame (req : JsonRpcRequest)
    (hprompt : ∀ name, Preserves view (router.getPrompt name)) :
    Preserves view (handlePromptsGet router req) := by
  apply Preserves.bind (okOr_frame _ _)
  intro params
  apply Preserves.bind (okOr_frame _ _)
  intro name
  apply Preserves.bind (okOr_frame _ _)
  intro arguments
  apply Preserves.bind (Preserves.get view)
  intro s
  apply Preserves.bind (okOr_frame _ _)
  intro prompt
  apply Preserves.bind (Preserves.ofExcept view _)
  intro _
  apply Preserves.bind ((hprompt name).adaptExcept _)
  intro description
  apply Preserves.bind (Preserves.ofExcept view _)
  intro _
  apply Preserves.ite
  · exact Preserves.bind (Preserves.throw view _) fun _ => Preserves.pure view _
  · exact Preserves.pure view _

/-- A request changes what its router changes, and a tool is called by one method only. -/
theorem handle_frame {req : JsonRpcRequest}
    (htool : req.method = "tools/call" →
      ∀ name arguments, Preserves view (router.callTool name arguments))
    (hresource : ∀ uri, Preserves view (router.readResource uri))
    (hprompt : ∀ name, Preserves view (router.getPrompt name)) :
    Preserves view (handle router req) := by
  have hlist (f : σ → Value) : Preserves view (do
      return respond req.id (f (← get)) : EStateM RouterError σ JsonRpcResponse) :=
    Preserves.bind (Preserves.get view) fun _ => Preserves.pure view _
  unfold handle
  split
  · exact Preserves.pure view _
  · exact hlist _
  · exact handleToolsCall_frame req (htool ‹_›)
  · exact hlist _
  · exact handleResourcesRead_frame req hresource
  · exact hlist _
  · exact handlePromptsGet_frame req hprompt
  · exact Preserves.pure view _

end Frame

/-- The text and the value of an argument, as letters. -/
def letters (argument : String × Value) : List Char × List Char :=
  (argument.1.toList, (argument.2.asStr.getD "").toList)

theorem replace_placeholder (text : List Char) (argument : String × Value) :
    replace (String.ofList text) ("\x7b" ++ argument.1 ++ "\x7d") (argument.2.asStr.getD "") =
      String.ofList (Template.replace (Template.mark '\x7b' '\x7d' (letters argument).1)
        (letters argument).2 text) := by
  have hword : ("\x7b" ++ argument.1 ++ "\x7d").toList =
      Template.mark '\x7b' '\x7d' argument.1.toList := by
    rw [String.toList_append, String.toList_append]
    rfl
  rw [replace, hword, String.toList_ofList]
  rfl

theorem fillDescription_ofList (arguments : List (String × Value)) (text : List Char) :
    fillDescription arguments (String.ofList text) =
      String.ofList (Template.fill '\x7b' '\x7d' (arguments.map letters) text) := by
  induction arguments generalizing text with
  | nil => rfl
  | cons argument arguments ih =>
      have hround : fillDescription (argument :: arguments) (String.ofList text) =
          fillDescription arguments (replace (String.ofList text)
            ("\x7b" ++ argument.1 ++ "\x7d") (argument.2.asStr.getD "")) := rfl
      rw [hround, replace_placeholder, ih]
      rfl

/-- A prompt text without marks of its own has each of its holes filled with the
argument of that name, provided no argument brings a mark in. Then it does not matter
in which order the loop takes the arguments, though each of its rounds goes over the
text that the rounds before have filled. -/
theorem fillDescription_render {pieces : List (Template.Piece Char)}
    {arguments : List (String × Value)}
    (hplain : ∀ p ∈ pieces, p.Plain '\x7b' '\x7d')
    (harguments : ∀ a ∈ arguments,
      Template.Unmarked '\x7b' '\x7d' (letters a).1 ∧ '\x7b' ∉ (letters a).2) :
    fillDescription arguments (String.ofList (Template.render '\x7b' '\x7d' pieces)) =
      String.ofList (Template.render '\x7b' '\x7d'
        (pieces.map (Template.Piece.substitute (arguments.map letters)))) := by
  rw [fillDescription_ofList, Template.fill_render (by decide) hplain]
  intro a ha
  obtain ⟨b, hb, rfl⟩ := List.mem_map.mp ha
  exact harguments b hb

theorem fillDescription_render_twice :
    let hole : Template.Piece Char := .hole ['a']
    let pieces := [hole, .text ['-'], hole]
    fillDescription [("a", .string "x\x7d"), ("b", .string "y")]
      (String.ofList (Template.render '\x7b' '\x7d' pieces)) = "x\x7d-x\x7d" := by
  intro hole pieces
  rw [fillDescription_render]
  · rfl
  · simp [pieces, hole, Template.Piece.Plain, Template.Unmarked]
  · simp [letters, Template.Unmarked, Value.asStr]

end IdxWorkspace.Mcp
