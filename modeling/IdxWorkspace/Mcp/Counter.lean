import IdxWorkspace.Mcp.Session

/-!
The counter server: a router on one number, which two of its tools change. What
it lists is what it has, every request that reaches it counts once, and a client
is shown the tally of the tools it called. The number wraps around, as it does in
a release build.
-/

namespace IdxWorkspace.Mcp.Counter

open Library Library.Effect Library.Sequential Session

def increment : EStateM ToolError Int32 Int32 := do
  modify (· + 1)
  get

def decrement : EStateM ToolError Int32 Int32 := do
  modify (· - 1)
  get

def getValue : EStateM ToolError Int32 Int32 := get

/-- The schema of a tool without arguments. -/
def noArguments : Value :=
  .object [("properties", .object []), ("required", .array []), ("type", .string "object")]

def listTools : List Tool :=
  [{ name := "increment", description := "Increment the counter by 1",
      inputSchema := noArguments },
    { name := "decrement", description := "Decrement the counter by 1",
      inputSchema := noArguments },
    { name := "get_value", description := "Get the current counter value",
      inputSchema := noArguments }]

def callTool (toolName : String) (_arguments : Value) : EStateM ToolError Int32 (List Content) :=
  match toolName with
  | "increment" => do
      let value ← increment
      return [Content.ofText (toString value.toInt)]
  | "decrement" => do
      let value ← decrement
      return [Content.ofText (toString value.toInt)]
  | "get_value" => do
      let value ← getValue
      return [Content.ofText (toString value.toInt)]
  | _ => throw (.notFound ("Tool " ++ toolName ++ " not found"))

/-- `_create_resource_text`, at the time `now`. -/
def createResourceText (now uri name : String) : Resource :=
  Resource.new now uri (some "text/plain") name

def listResources (now : String) : List Resource :=
  [createResourceText now "str:////Users/to/some/path/" "cwd",
    createResourceText now "memo://insights" "memo-name"]

def readResource (uri : String) : EStateM ResourceError Int32 String :=
  match uri with
  | "str:////Users/to/some/path/" => pure "/Users/to/some/path/"
  | "memo://insights" =>
      pure "Business Intelligence Memo\n\nAnalysis has revealed 5 key insights ..."
  | _ => throw (.notFound ("Resource " ++ uri ++ " not found"))

def listPrompts : List Prompt :=
  [{ name := "example_prompt"
     description := some "This is an example prompt that takes one required agrument, message"
     arguments := some [{ name := "message", description := some "A message to put in the prompt",
                          required := some true }] }]

def getPrompt (promptName : String) : EStateM PromptError Int32 String :=
  match promptName with
  | "example_prompt" =>
      pure "This is an example prompt with your message here: '\x7bmessage\x7d'"
  | _ => throw (.notFound ("Prompt " ++ promptName ++ " not found"))

/-- `CounterRouter`, whose resources are stamped with the time they are listed at. -/
def counterRouter (now : String) : Router Int32 :=
  { name := "counter"
    instructions := "This server provides a counter tool that can increment and decrement values. The counter starts at 0 and can be modified using the 'increment' and 'decrement' tools. Use 'get_value' to check the current count."
    capabilities :=
      { prompts := some { listChanged := some false }
        resources := some { subscribe := some false, listChanged := some false }
        tools := some { listChanged := some false } }
    listTools := fun _ => listTools
    callTool := callTool
    listResources := fun _ => listResources now
    readResource := readResource
    listPrompts := fun _ => listPrompts
    getPrompt := getPrompt }

/-- By how much a tool changes the counter, if there is such a tool. -/
def change : String → Option Int
  | "increment" => some 1
  | "decrement" => some (-1)
  | "get_value" => some 0
  | _ => none

/-- A tool does its change and shows the number it comes to. -/
theorem callTool_run (name : String) (arguments : Value) (n : Int32) :
    (callTool name arguments).run n =
      match change name with
      | some d => .ok [Content.ofText (toString (n + Int32.ofInt d).toInt)] (n + Int32.ofInt d)
      | none => .error (.notFound ("Tool " ++ name ++ " not found")) n := by
  unfold callTool change
  split
  · rfl
  · have hminus : n + Int32.ofInt (-1) = n - 1 := (Int32.sub_eq_add_neg n 1).symm
    simp only [hminus]
    rfl
  · have hsame : n + Int32.ofInt 0 = n := Int32.add_zero n
    simp only [hsame]
    rfl
  · rfl

/-- The tools, resources and prompts that are listed are those that are there. -/
structure Consistent {σ : Type} (router : Router σ) : Prop where
  tools : ∀ s name arguments,
    (∃ message, (router.callTool name arguments).run s = .error (.notFound message) s) ↔
      name ∉ (router.listTools s).map Tool.name
  resources : ∀ s uri, (∃ message, (router.readResource uri).run s = .error (.notFound message) s) ↔
    uri ∉ (router.listResources s).map Resource.uri
  prompts : ∀ s name, (∃ message, (router.getPrompt name).run s = .error (.notFound message) s) ↔
    name ∉ (router.listPrompts s).map Prompt.name

theorem change_eq_none_iff (name : String) :
    change name = none ↔ name ∉ listTools.map Tool.name := by
  unfold change
  split <;> simp_all [listTools]

theorem counterRouter_consistent (now : String) : Consistent (counterRouter now) := by
  constructor
  · intro n name arguments
    refine Iff.trans ?_ (change_eq_none_iff name)
    change (∃ message, (callTool name arguments).run n = .error (.notFound message) n) ↔ _
    rw [callTool_run]
    cases change name <;> simp
  · intro n uri
    change (∃ message, (readResource uri).run n = .error (.notFound message) n) ↔
      uri ∉ (listResources now).map Resource.uri
    have hnames : (listResources now).map Resource.uri =
        ["str:////Users/to/some/path/", "memo://insights"] := rfl
    rw [hnames]
    unfold readResource
    split
    · simp
    · simp
    · exact iff_of_true ⟨_, rfl⟩ (by simp_all)
  · intro n name
    change (∃ message, (getPrompt name).run n = .error (.notFound message) n) ↔
      name ∉ listPrompts.map Prompt.name
    unfold getPrompt
    split
    · simp [listPrompts]
    · exact iff_of_true ⟨_, rfl⟩ (by simp_all [listPrompts])

/-- The tool a request calls. -/
def calledTool (req : JsonRpcRequest) : Option String :=
  if req.method = "tools/call" then (req.params.bind (·.get "name")).bind Value.asStr else none

/-- By how much an incoming message is to change the counter. -/
def tally : Incoming → Int
  | .ok (.request req) => ((calledTool req).bind change).getD 0
  | _ => 0

/-- What a list of messages comes to. -/
def total : List Incoming → Int
  | [] => 0
  | item :: incoming => tally item + total incoming

theorem callTool_state (name : String) (arguments : Value) (n : Int32) :
    after ((callTool name arguments).run n) = n + Int32.ofInt ((change name).getD 0) := by
  rw [callTool_run]
  cases change name with
  | some d => rfl
  | none => exact (Int32.add_zero n).symm

/-- A request changes the counter as the tool it calls does, and by nothing else. -/
theorem handle_state (now : String) (req : JsonRpcRequest) (n : Int32) :
    after ((handle (counterRouter now) req).run n) =
      n + Int32.ofInt (tally (.ok (.request req))) := by
  have hsame : n + Int32.ofInt 0 = n := Int32.add_zero n
  by_cases hmethod : req.method = "tools/call"
  · have hhandle : handle (counterRouter now) req = handleToolsCall (counterRouter now) req := by
      simp only [handle, hmethod]
    rw [hhandle]
    cases hcalled : (req.params.bind (·.get "name")).bind Value.asStr with
    | none =>
        obtain ⟨message, hrun⟩ : ∃ message, (handleToolsCall (counterRouter now) req).run n =
          .error (.invalidParams message) n := handleToolsCall_unnamed hcalled n
        rw [hrun]
        simp [tally, calledTool, hmethod, hcalled]
    | some name =>
        obtain ⟨value, hvalue, hname⟩ := Option.bind_eq_some_iff.mp hcalled
        obtain ⟨params, hparams, hget⟩ := Option.bind_eq_some_iff.mp hvalue
        have htally : tally (.ok (.request req)) = (change name).getD 0 := by
          simp [tally, calledTool, hmethod, hcalled]
        have htool : (counterRouter now).callTool = callTool := rfl
        rw [handleToolsCall_named hparams (by rw [hget]; exact hname), htool, htally,
          ← callTool_state name ((params.get "arguments").getD .null) n]
        cases (callTool name ((params.get "arguments").getD .null)).run n <;> rfl
  · have hframe : Preserves (fun n : Int32 => n) (handle (counterRouter now) req) := by
      apply handle_frame
      · exact fun h => absurd h hmethod
      · intro uri
        change Preserves _ (readResource uri)
        unfold readResource
        split
        · exact Preserves.pure _ _
        · exact Preserves.pure _ _
        · exact Preserves.throw _ _
      · intro name
        change Preserves _ (getPrompt name)
        unfold getPrompt
        split
        · exact Preserves.pure _ _
        · exact Preserves.throw _ _
    have htally : tally (.ok (.request req)) = 0 := by
      simp [tally, calledTool, hmethod]
    rw [htally, hsame]
    exact hframe n

variable {now : String} {fails : List JsonRpcMessage → Option String} {incoming : List Incoming}
variable {s s' : ServerState Int32}

theorem foldl_served (n : Int32) :
    incoming.foldl (served (call (counterRouter now))) n =
      n + Int32.ofInt (total incoming) := by
  induction incoming generalizing n with
  | nil => exact (Int32.add_zero n).symm
  | cons item incoming ih =>
      have hitem : served (call (counterRouter now)) n item = n + Int32.ofInt (tally item) := by
        cases item with
        | error e => exact (Int32.add_zero n).symm
        | ok m =>
            cases m with
            | request req =>
                rw [served, call, after_adaptExcept, handle_state]
            | response r | notification r | error e | nil => exact (Int32.add_zero n).symm
      rw [List.foldl_cons, ih, hitem, total, Int32.ofInt_add, Int32.add_assoc]

/-- Whatever comes in, every call of a tool counts once. -/
theorem run_counts (h : (run (call (counterRouter now)) fails incoming).run s = .ok () s') :
    s'.service = s.service + Int32.ofInt (total incoming) := by
  rw [run_state h, foldl_served]

/-- A tally that fits into the counter is exact. Only the tally at the end has to fit:
what the counter goes through on the way may come round and back. The loop is assumed to
have got through the messages, which are any, and the writes may fail as they like. -/
theorem run_counts_exact (h : (run (call (counterRouter now)) fails incoming).run s = .ok () s')
    (hlow : -2147483648 ≤ s.service.toInt + total incoming)
    (hhigh : s.service.toInt + total incoming ≤ 2147483647) :
    s'.service.toInt = s.service.toInt + total incoming := by
  have hsum : s'.service = Int32.ofInt (s.service.toInt + total incoming) := by
    rw [run_counts h, Int32.ofInt_add, Int32.ofInt_toInt]
  rw [hsum, Int32.toInt_ofInt_of_le (by omega) (by omega)]

theorem run_counts_exact_twice :
    let params : Value := .object [("arguments", .object []), ("name", .string "increment")]
    let incoming : List Incoming :=
      [.ok (.request (newRequest 1 "tools/call" params)), .error (.io "reset"),
        .ok (.request (newRequest 2 "tools/call" params))]
    ∃ s', (run (call (counterRouter "2025-01-01T00:00:00Z")) (fun _ => none) incoming).run
      { service := 40, written := [] } = .ok () s' ∧ s'.service.toInt = 42 := by
  intro params incoming
  obtain ⟨_, s', hrun, _⟩ := run_finishes (call (counterRouter "2025-01-01T00:00:00Z"))
    (fun _ => rfl) incoming { service := 40, written := [] } trivial
  have htotal : total incoming = 2 := by decide
  refine ⟨s', hrun, ?_⟩
  rw [run_counts_exact hrun (by rw [htotal]; decide) (by rw [htotal]; decide), htotal]
  rfl

section Client

/-- By how much an operation is to change the counter. -/
def changeOf : Operation → Int
  | .callTool name _ => (change name).getD 0
  | _ => 0

/-- What the operations of a session come to. -/
def totalChange : List Operation → Int
  | [] => 0
  | op :: ops => changeOf op + totalChange ops

/-- An operation changes the counter as the tool it calls does, and by nothing else. -/
theorem locally_state (op : Operation) (n : Int32) :
    after ((locally (counterRouter now) op).run n) = n + Int32.ofInt (changeOf op) := by
  have hannounced : supported (counterRouter now).capabilities op = true := by
    cases op <;> rfl
  have hsame : n + Int32.ofInt 0 = n := Int32.add_zero n
  rw [locally, if_pos hannounced, after_adaptExcept]
  cases op with
  | callTool name arguments =>
      have htool : ((counterRouter now).callTool name arguments).run n =
          (callTool name arguments).run n := rfl
      rw [supply, run_map, outcomeOf_run, htool, callTool_run, changeOf]
      cases change name with
      | some d => rfl
      | none => exact hsame.symm
  | readResource uri =>
      rw [supply, after_map, (computes_readResource uri).after 0, handle_state]
      rfl
  | getPrompt name arguments =>
      rw [supply, after_map, (computes_getPrompt name arguments).after 0, handle_state]
      rfl
  | listResources nextCursor | listTools nextCursor | listPrompts nextCursor => exact hsame.symm

theorem perform_locally_state (ops : List Operation) (n : Int32) :
    (perform (locally (counterRouter now)) n ops).2 = n + Int32.ofInt (totalChange ops) := by
  induction ops generalizing n with
  | nil => exact (Int32.add_zero n).symm
  | cons op ops ih =>
      rw [perform, ih, locally_state, totalChange, Int32.ofInt_add, Int32.add_assoc]

theorem counterRouter_writtenBy {scalars : Scalars}
    (hstamp : (Annotations.forResource now).Written scalars) :
    WrittenBy scalars (counterRouter now) := by
  constructor
  · intro t x hx a ha
    rcases List.mem_cons.mp hx with rfl | hrest
    · cases ha
      exact hstamp
    · cases List.mem_singleton.mp hrest
      cases ha
      exact hstamp
  · intro name arguments t content t' hrun
    have htool : ((counterRouter now).callTool name arguments).run t =
        (callTool name arguments).run t := rfl
    rw [htool, callTool_run] at hrun
    cases hchange : change name with
    | some d =>
        rw [hchange] at hrun
        cases hrun
        simp [Content.ofText, Content.annotations]
    | none =>
        rw [hchange] at hrun
        cases hrun

/-- Scalars that are read as they were written. -/
theorem forResource_written (now : String) :
    (Annotations.forResource now).Written ⟨some, some⟩ := by
  constructor
  · rintro v ⟨⟩
    exact ⟨nofun, rfl⟩
  · exact fun t _ => rfl

/-- Whatever a client does in a session, also with tools that are not there,
`get_value` then shows the tally of the tools it called, come round at 32 bits as a
build without overflow checks has it. The time stamp of the resources is assumed to be
read back as it was written. -/
theorem session_value {rejects : Value → String} {scalars : Scalars}
    (hstamp : (Annotations.forResource now).Written scalars) (info : ClientInfo) (n : Int32)
    (ops : List Operation) :
    ∃ result ready,
      (initializeClient (exchange rejects (counterRouter now))
        (fromValue rejects InitializeResult.read) info).run (newClient n) = .ok result ready ∧
      (perform (remotely (exchange rejects (counterRouter now)) rejects scalars) ready
          (ops ++ [.callTool "get_value" (.object [])])).1.getLast? =
        some (.ok (.called
          { content := [Content.ofText (toString (n + Int32.ofInt (totalChange ops)).toInt)]
            isError := none })) := by
  have hwritten : WrittenBy scalars (counterRouter now) := counterRouter_writtenBy hstamp
  obtain ⟨result, ready, hready, hconnected⟩ :=
    handshake_connects rejects (counterRouter now) info n
  obtain ⟨hshown, _⟩ := Mirrors.perform (remotely_mirrors hwritten) hconnected
    (ops ++ [.callTool "get_value" (.object [])])
  refine ⟨result, ready, hready, ?_⟩
  rw [hshown, perform_snoc, List.getLast?_concat, perform_locally_state]
  rfl

theorem session_value_three :
    let ops : List Operation :=
      [.callTool "increment" (.object []), .callTool "reset" (.object []),
        .callTool "decrement" (.object []), .callTool "increment" .null]
    ∃ result ready,
      (initializeClient (exchange (fun _ => "") (counterRouter "2025-01-01T00:00:00Z"))
        (fromValue (fun _ => "") InitializeResult.read) ⟨"client", "1.0.0"⟩).run (newClient 2) =
          .ok result ready ∧
      (perform (remotely (exchange (fun _ => "") (counterRouter "2025-01-01T00:00:00Z"))
          (fun _ => "") ⟨some, some⟩) ready
            (ops ++ [.callTool "get_value" (.object [])])).1.getLast? =
        some (.ok (.called { content := [Content.ofText "3"], isError := none })) := by
  intro ops
  have hthree : toString (2 + Int32.ofInt (totalChange ops)).toInt = "3" := by decide
  rw [← hthree]
  exact session_value (forResource_written _) ⟨"client", "1.0.0"⟩ 2 ops

end Client

end IdxWorkspace.Mcp.Counter
