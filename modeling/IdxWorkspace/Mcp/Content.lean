import IdxWorkspace.Mcp.Protocol

/-!
What a server lists and returns, and the objects that are written for it. What it
announces of itself, its lists of tools and prompts and the contents of a resource
are read back by the client as they were.
-/

namespace IdxWorkspace.Mcp

/-- `Role`, and `PromptMessageRole`, which is written the same way. -/
inductive Role where
  | user
  | assistant

def Role.encode : Role → Value
  | .user => .string "user"
  | .assistant => .string "assistant"

/-- The priority and the timestamp are kept as they are written. -/
structure Annotations where
  audience : Option (List Role)
  priority : Option Value
  timestamp : Option String

def Annotations.encode (a : Annotations) : Value :=
  .object (field "audience" (a.audience.map fun roles => .array (roles.map Role.encode)) ++
    field "priority" a.priority ++ field "timestamp" (a.timestamp.map .string))

def writeAnnotations (a : Option Annotations) : List (String × Value) :=
  field "annotations" (a.map Annotations.encode)

inductive ResourceContents where
  | textResourceContents (uri : String) (mimeType : Option String) (text : String)
  | blobResourceContents (uri : String) (mimeType : Option String) (blob : String)

/-- The renaming of the enumeration is one of its variants, not of their fields. -/
def ResourceContents.encode : ResourceContents → Value
  | .textResourceContents uri mimeType text =>
      .object (field "mime_type" (mimeType.map .string) ++
        [("text", .string text), ("uri", .string uri)])
  | .blobResourceContents uri mimeType blob =>
      .object ([("blob", .string blob)] ++ field "mime_type" (mimeType.map .string) ++
        [("uri", .string uri)])

structure TextContent where
  text : String
  annotations : Option Annotations

structure ImageContent where
  data : String
  mimeType : String
  annotations : Option Annotations

structure EmbeddedResource where
  resource : ResourceContents
  annotations : Option Annotations

def ImageContent.entries (i : ImageContent) : List (String × Value) :=
  writeAnnotations i.annotations ++ [("data", .string i.data), ("mimeType", .string i.mimeType)]

def EmbeddedResource.entries (r : EmbeddedResource) : List (String × Value) :=
  writeAnnotations r.annotations ++ [("resource", r.resource.encode)]

inductive Content where
  | text (t : TextContent)
  | image (i : ImageContent)
  | resource (r : EmbeddedResource)

/-- The tag stands among the fields of what it tags. -/
def Content.encode : Content → Value
  | .text t => .object (writeAnnotations t.annotations ++
      [("text", .string t.text), ("type", .string "text")])
  | .image i => .object (i.entries ++ [("type", .string "image")])
  | .resource r => .object (r.entries ++ [("type", .string "resource")])

/-- `Content::text` -/
def Content.ofText (text : String) : Content := .text { text := text, annotations := none }

structure Tool where
  name : String
  description : String
  inputSchema : Value

def Tool.encode (t : Tool) : Value :=
  .object [("description", .string t.description), ("inputSchema", t.inputSchema),
    ("name", .string t.name)]

structure Resource where
  uri : String
  name : String
  description : Option String
  mimeType : String
  annotations : Option Annotations

def Resource.encode (r : Resource) : Value :=
  .object (writeAnnotations r.annotations ++ field "description" (r.description.map .string) ++
    [("mimeType", .string r.mimeType), ("name", .string r.name), ("uri", .string r.uri)])

/-- `Annotations::for_resource`, at the lowest priority. -/
def Annotations.forResource (timestamp : String) : Annotations :=
  { audience := none, priority := some (.number (.float 0)), timestamp := some timestamp }

/-- `Resource::new` under a given name, on a URI that parses: a type other than
the two it knows is replaced. -/
def Resource.new (now uri : String) (mimeType : Option String) (name : String) : Resource :=
  { uri := uri
    name := name
    description := none
    mimeType := match mimeType with
      | some t => if t = "text" ∨ t = "blob" then t else "text"
      | none => "text"
    annotations := some (Annotations.forResource now) }

structure PromptArgument where
  name : String
  description : Option String
  required : Option Bool

def PromptArgument.encode (a : PromptArgument) : Value :=
  .object (field "description" (a.description.map .string) ++ [("name", .string a.name)] ++
    field "required" (a.required.map .bool))

structure Prompt where
  name : String
  description : Option String
  arguments : Option (List PromptArgument)

def Prompt.encode (p : Prompt) : Value :=
  .object (field "arguments" (p.arguments.map fun args =>
      .array (args.map PromptArgument.encode)) ++
    field "description" (p.description.map .string) ++ [("name", .string p.name)])

inductive PromptMessageContent where
  | text (text : String)
  | image (image : ImageContent)
  | resource (resource : EmbeddedResource)

/-- Here the parts keep an object of their own. -/
def PromptMessageContent.encode : PromptMessageContent → Value
  | .text s => .object [("text", .string s), ("type", .string "text")]
  | .image i => .object [("image", .object i.entries), ("type", .string "image")]
  | .resource r => .object [("resource", .object r.entries), ("type", .string "resource")]

structure PromptMessage where
  role : Role
  content : PromptMessageContent

def PromptMessage.encode (m : PromptMessage) : Value :=
  .object [("content", m.content.encode), ("role", m.role.encode)]

/-- `PromptMessage::new_text` -/
def newTextMessage (role : Role) (text : String) : PromptMessage :=
  { role := role, content := .text text }

structure PromptsCapability where
  listChanged : Option Bool

structure ResourcesCapability where
  subscribe : Option Bool
  listChanged : Option Bool

structure ToolsCapability where
  listChanged : Option Bool

structure ServerCapabilities where
  prompts : Option PromptsCapability
  resources : Option ResourcesCapability
  tools : Option ToolsCapability

/-- A field without `skip_serializing_if` is written as null when it is absent. -/
def nullable (b : Option Bool) : Value := (b.map Value.bool).getD .null

def PromptsCapability.encode (c : PromptsCapability) : Value :=
  .object [("listChanged", nullable c.listChanged)]

def ResourcesCapability.encode (c : ResourcesCapability) : Value :=
  .object [("listChanged", nullable c.listChanged), ("subscribe", nullable c.subscribe)]

def ToolsCapability.encode (c : ToolsCapability) : Value :=
  .object [("listChanged", nullable c.listChanged)]

def ServerCapabilities.encode (c : ServerCapabilities) : Value :=
  .object (field "prompts" (c.prompts.map PromptsCapability.encode) ++
    field "resources" (c.resources.map ResourcesCapability.encode) ++
    field "tools" (c.tools.map ToolsCapability.encode))

structure Implementation where
  name : String
  version : String

structure InitializeResult where
  protocolVersion : String
  capabilities : ServerCapabilities
  serverInfo : Implementation
  instructions : Option String

def Implementation.encode (i : Implementation) : Value :=
  .object [("name", .string i.name), ("version", .string i.version)]

def InitializeResult.encode (r : InitializeResult) : Value :=
  .object ([("capabilities", r.capabilities.encode)] ++
    field "instructions" (r.instructions.map .string) ++
    [("protocolVersion", .string r.protocolVersion), ("serverInfo", r.serverInfo.encode)])

structure ListToolsResult where
  tools : List Tool
  nextCursor : Option String

def ListToolsResult.encode (r : ListToolsResult) : Value :=
  .object (field "nextCursor" (r.nextCursor.map .string) ++
    [("tools", .array (r.tools.map Tool.encode))])

structure CallToolResult where
  content : List Content
  isError : Option Bool

def CallToolResult.encode (r : CallToolResult) : Value :=
  .object ([("content", .array (r.content.map Content.encode))] ++
    field "isError" (r.isError.map .bool))

structure ListResourcesResult where
  resources : List Resource
  nextCursor : Option String

def ListResourcesResult.encode (r : ListResourcesResult) : Value :=
  .object (field "nextCursor" (r.nextCursor.map .string) ++
    [("resources", .array (r.resources.map Resource.encode))])

structure ReadResourceResult where
  contents : List ResourceContents

def ReadResourceResult.encode (r : ReadResourceResult) : Value :=
  .object [("contents", .array (r.contents.map ResourceContents.encode))]

structure ListPromptsResult where
  prompts : List Prompt

def ListPromptsResult.encode (r : ListPromptsResult) : Value :=
  .object [("prompts", .array (r.prompts.map Prompt.encode))]

structure GetPromptResult where
  description : Option String
  messages : List PromptMessage

def GetPromptResult.encode (r : GetPromptResult) : Value :=
  .object (field "description" (r.description.map .string) ++
    [("messages", .array (r.messages.map PromptMessage.encode))])

def readArray {α : Type} (read : Value → Option α) : Value → Option (List α)
  | .array items => items.mapM read
  | _ => none

def readBool : Value → Option Bool
  | .bool b => some b
  | _ => none

def Tool.read (v : Value) : Option Tool := do
  let field ← fieldsOf ["name", "description", "inputSchema"] v
  let name ← required Value.asStr (field "name")
  let description ← required Value.asStr (field "description")
  let inputSchema ← required some (field "inputSchema")
  return { name, description, inputSchema }

def ListToolsResult.read (v : Value) : Option ListToolsResult := do
  let field ← fieldsOf ["tools", "nextCursor"] v
  let tools ← required (readArray Tool.read) (field "tools")
  let nextCursor ← optional Value.asStr (field "nextCursor")
  return { tools, nextCursor }

def PromptArgument.read (v : Value) : Option PromptArgument := do
  let field ← fieldsOf ["name", "description", "required"] v
  let name ← Mcp.required Value.asStr (field "name")
  let description ← optional Value.asStr (field "description")
  let required ← optional readBool (field "required")
  return { name, description, required }

def Prompt.read (v : Value) : Option Prompt := do
  let field ← fieldsOf ["name", "description", "arguments"] v
  let name ← required Value.asStr (field "name")
  let description ← optional Value.asStr (field "description")
  let arguments ← optional (readArray PromptArgument.read) (field "arguments")
  return { name, description, arguments }

def ListPromptsResult.read (v : Value) : Option ListPromptsResult := do
  let field ← fieldsOf ["prompts"] v
  let prompts ← required (readArray Prompt.read) (field "prompts")
  return { prompts }

/-- The variants are tried in order. Without a tag they are not read by position. -/
def ResourceContents.read : Value → Option ResourceContents
  | .object entries =>
      (do
        let uri ← required Value.asStr (entries.lookup "uri")
        let mimeType ← optional Value.asStr (entries.lookup "mime_type")
        let text ← required Value.asStr (entries.lookup "text")
        return .textResourceContents uri mimeType text) <|>
      (do
        let uri ← required Value.asStr (entries.lookup "uri")
        let mimeType ← optional Value.asStr (entries.lookup "mime_type")
        let blob ← required Value.asStr (entries.lookup "blob")
        return .blobResourceContents uri mimeType blob)
  | _ => none

def ReadResourceResult.read (v : Value) : Option ReadResourceResult := do
  let field ← fieldsOf ["contents"] v
  let contents ← required (readArray ResourceContents.read) (field "contents")
  return { contents }

def PromptsCapability.read (v : Value) : Option PromptsCapability := do
  let field ← fieldsOf ["listChanged"] v
  let listChanged ← optional readBool (field "listChanged")
  return { listChanged }

def ResourcesCapability.read (v : Value) : Option ResourcesCapability := do
  let field ← fieldsOf ["subscribe", "listChanged"] v
  let subscribe ← optional readBool (field "subscribe")
  let listChanged ← optional readBool (field "listChanged")
  return { subscribe, listChanged }

def ToolsCapability.read (v : Value) : Option ToolsCapability := do
  let field ← fieldsOf ["listChanged"] v
  let listChanged ← optional readBool (field "listChanged")
  return { listChanged }

def ServerCapabilities.read (v : Value) : Option ServerCapabilities := do
  let field ← fieldsOf ["prompts", "resources", "tools"] v
  let prompts ← optional PromptsCapability.read (field "prompts")
  let resources ← optional ResourcesCapability.read (field "resources")
  let tools ← optional ToolsCapability.read (field "tools")
  return { prompts, resources, tools }

def Implementation.read (v : Value) : Option Implementation := do
  let field ← fieldsOf ["name", "version"] v
  let name ← required Value.asStr (field "name")
  let version ← required Value.asStr (field "version")
  return { name, version }

def InitializeResult.read (v : Value) : Option InitializeResult := do
  let field ← fieldsOf ["protocolVersion", "capabilities", "serverInfo", "instructions"] v
  let protocolVersion ← required Value.asStr (field "protocolVersion")
  let capabilities ← required ServerCapabilities.read (field "capabilities")
  let serverInfo ← required Implementation.read (field "serverInfo")
  let instructions ← optional Value.asStr (field "instructions")
  return { protocolVersion, capabilities, serverInfo, instructions }

/-- A list is read back if its elements are. -/
theorem readArray_map {α : Type} {read : Value → Option α} {write : α → Value} {xs : List α}
    (h : ∀ a ∈ xs, read (write a) = some a) :
    readArray read (.array (xs.map write)) = some xs := by
  rw [readArray]
  induction xs with
  | nil => rfl
  | cons x xs ih =>
      have hrest := ih fun a ha => h a (List.mem_cons_of_mem x ha)
      simp [h, hrest]

theorem optional_readArray {α : Type} {read : Value → Option α} {write : α → Value}
    {xs : Option (List α)} (h : ∀ as, xs = some as → ∀ a ∈ as, read (write a) = some a) :
    optional (readArray read) (xs.map fun xs => .array (xs.map write)) = some xs := by
  cases xs with
  | none => rfl
  | some xs =>
      have hsome : optional (readArray read) (some (.array (xs.map write))) =
          (readArray read (.array (xs.map write))).map some := rfl
      rw [Option.map_some, hsome, readArray_map (h xs rfl), Option.map_some]

@[simp]
theorem optional_asStr (s : Option String) :
    optional Value.asStr (s.map .string) = some s := by
  cases s <;> rfl

@[simp]
theorem optional_readBool (b : Option Bool) : optional readBool (b.map .bool) = some b := by
  cases b <;> rfl

theorem Tool.read_encode (t : Tool) : Tool.read t.encode = some t := by
  simp [Tool.read, Tool.encode, fieldsOf, lookup_entry, required, Value.asStr]

theorem ListToolsResult.read_encode (r : ListToolsResult) :
    ListToolsResult.read r.encode = some r := by
  simp [ListToolsResult.read, ListToolsResult.encode, fieldsOf, List.lookup_append, lookup_field,
    lookup_entry, required, readArray_map fun _ _ => Tool.read_encode _]

theorem PromptArgument.read_encode (a : PromptArgument) :
    PromptArgument.read a.encode = some a := by
  simp [PromptArgument.read, PromptArgument.encode, fieldsOf, List.lookup_append, lookup_field,
    lookup_entry, Mcp.required, Value.asStr]

theorem Prompt.read_encode (p : Prompt) : Prompt.read p.encode = some p := by
  simp [Prompt.read, Prompt.encode, fieldsOf, List.lookup_append, lookup_field, lookup_entry,
    required, Value.asStr, optional_readArray fun _ _ _ _ => PromptArgument.read_encode _]

theorem ListPromptsResult.read_encode (r : ListPromptsResult) :
    ListPromptsResult.read r.encode = some r := by
  simp [ListPromptsResult.read, ListPromptsResult.encode, fieldsOf, lookup_entry, required,
    readArray_map fun _ _ => Prompt.read_encode _]

theorem ResourceContents.read_encode (c : ResourceContents) :
    ResourceContents.read c.encode = some c := by
  cases c with
  | textResourceContents uri mimeType text =>
      simp [ResourceContents.read, ResourceContents.encode, List.lookup_append, lookup_field,
        lookup_entry, required, Value.asStr]
  | blobResourceContents uri mimeType blob =>
      simp [ResourceContents.read, ResourceContents.encode, List.lookup_append, lookup_field,
        lookup_entry, required, Value.asStr]

theorem ReadResourceResult.read_encode (r : ReadResourceResult) :
    ReadResourceResult.read r.encode = some r := by
  simp [ReadResourceResult.read, ReadResourceResult.encode, fieldsOf, lookup_entry, required,
    readArray_map fun _ _ => ResourceContents.read_encode _]

theorem optional_nullable (b : Option Bool) : optional readBool (some (nullable b)) = some b := by
  cases b <;> rfl

/-- A part that is written as an object is read back if it is there. -/
theorem optional_object {α : Type} {read : Value → Option α} {write : α → Value} {v : Option α}
    (hobject : ∀ a, ∃ entries, write a = .object entries)
    (h : ∀ a, v = some a → read (write a) = some a) : optional read (v.map write) = some v := by
  cases v with
  | none => rfl
  | some a =>
      obtain ⟨entries, hentries⟩ := hobject a
      have hread := h a rfl
      rw [hentries] at hread
      rw [Option.map_some, hentries]
      have hsome : optional read (some (.object entries)) = (read (.object entries)).map some := rfl
      rw [hsome, hread, Option.map_some]

theorem PromptsCapability.read_encode (c : PromptsCapability) :
    PromptsCapability.read c.encode = some c := by
  simp [PromptsCapability.read, PromptsCapability.encode, fieldsOf, lookup_entry,
    optional_nullable]

theorem ResourcesCapability.read_encode (c : ResourcesCapability) :
    ResourcesCapability.read c.encode = some c := by
  simp [ResourcesCapability.read, ResourcesCapability.encode, fieldsOf, lookup_entry,
    optional_nullable]

theorem ToolsCapability.read_encode (c : ToolsCapability) :
    ToolsCapability.read c.encode = some c := by
  simp [ToolsCapability.read, ToolsCapability.encode, fieldsOf, lookup_entry, optional_nullable]

theorem ServerCapabilities.read_encode (c : ServerCapabilities) :
    ServerCapabilities.read c.encode = some c := by
  have hprompts : optional PromptsCapability.read (c.prompts.map PromptsCapability.encode) =
      some c.prompts :=
    optional_object (fun _ => ⟨_, rfl⟩) fun _ _ => PromptsCapability.read_encode _
  have hresources :
      optional ResourcesCapability.read (c.resources.map ResourcesCapability.encode) =
        some c.resources :=
    optional_object (fun _ => ⟨_, rfl⟩) fun _ _ => ResourcesCapability.read_encode _
  have htools : optional ToolsCapability.read (c.tools.map ToolsCapability.encode) = some c.tools :=
    optional_object (fun _ => ⟨_, rfl⟩) fun _ _ => ToolsCapability.read_encode _
  simp [ServerCapabilities.read, ServerCapabilities.encode, fieldsOf, List.lookup_append,
    lookup_field, hprompts, hresources, htools]

theorem Implementation.read_encode (i : Implementation) :
    Implementation.read i.encode = some i := by
  simp [Implementation.read, Implementation.encode, fieldsOf, lookup_entry, required, Value.asStr]

theorem InitializeResult.read_encode (r : InitializeResult) :
    InitializeResult.read r.encode = some r := by
  simp [InitializeResult.read, InitializeResult.encode, fieldsOf, List.lookup_append, lookup_field,
    lookup_entry, required, ServerCapabilities.read_encode, Implementation.read_encode,
    Value.asStr]

end IdxWorkspace.Mcp
