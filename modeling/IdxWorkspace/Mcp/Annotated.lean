import IdxWorkspace.Mcp.Content

/-!
How the client reads what may carry annotations: tool results, resources and the
messages of prompts. They come back as they were, as far as their priorities and
timestamps are such as `serde_json` and `chrono` write.
-/

namespace IdxWorkspace.Mcp

/-- How an `f32` and a `DateTime<Utc>` are read, each given back as it is written. -/
structure Scalars where
  priority : Value → Option Value
  timestamp : String → Option String

variable (scalars : Scalars)

/-- What is read for a variant without fields. In what `serde` buffers, the fields
of a tagged enumeration, an empty object does as well as a null. -/
def isUnit (buffered : Bool) : Value → Bool
  | .null => true
  | .object [] => buffered
  | _ => false

/-- A variant without fields is a name, or an object with that name. -/
def Role.read (buffered : Bool) : Value → Option Role
  | .string "user" => some .user
  | .string "assistant" => some .assistant
  | .object [("user", v)] => if isUnit buffered v then some .user else none
  | .object [("assistant", v)] => if isUnit buffered v then some .assistant else none
  | _ => none

def Annotations.read (buffered : Bool) (v : Value) : Option Annotations := do
  let field ← fieldsOf ["audience", "priority", "timestamp"] v
  let audience ← optional (readArray (Role.read buffered)) (field "audience")
  let priority ← optional scalars.priority (field "priority")
  let timestamp ← optional (fun v => v.asStr.bind scalars.timestamp) (field "timestamp")
  return { audience, priority, timestamp }

/-- The tag of an enumeration under `tag = "type"`. -/
def tagOf : Value → Option String
  | .object entries => (entries.lookup "type").bind Value.asStr
  | .array (.string tag :: _) => some tag
  | _ => none

/-- The names of the fields are those of the struct, after the tag if there is one.
It only stands in tagged enumerations, and so is buffered. -/
def ImageContent.read (tag : List String) (v : Value) : Option ImageContent := do
  let field ← fieldsOf (tag ++ ["data", "mimeType", "annotations"]) v
  let data ← required Value.asStr (field "data")
  let mimeType ← required Value.asStr (field "mimeType")
  let annotations ← optional (Annotations.read scalars true) (field "annotations")
  return { data, mimeType, annotations }

def EmbeddedResource.read (tag : List String) (v : Value) : Option EmbeddedResource := do
  let field ← fieldsOf (tag ++ ["resource", "annotations"]) v
  let resource ← required ResourceContents.read (field "resource")
  let annotations ← optional (Annotations.read scalars true) (field "annotations")
  return { resource, annotations }

def Content.read (v : Value) : Option Content :=
  match tagOf v with
  | some "text" => do
      let field ← fieldsOf ["type", "text", "annotations"] v
      let text ← required Value.asStr (field "text")
      let annotations ← optional (Annotations.read scalars true) (field "annotations")
      return .text { text, annotations }
  | some "image" => (ImageContent.read scalars ["type"] v).map .image
  | some "resource" => (EmbeddedResource.read scalars ["type"] v).map .resource
  | _ => none

def CallToolResult.read (v : Value) : Option CallToolResult := do
  let field ← fieldsOf ["content", "isError"] v
  let content ← required (readArray (Content.read scalars)) (field "content")
  let isError ← optional readBool (field "isError")
  return { content, isError }

/-- `default_mime_type` stands in for a field that is absent, not for a null. -/
def readMimeType : Option Value → Option String
  | none => some "text"
  | some v => v.asStr

def Resource.read (v : Value) : Option Resource := do
  let field ← fieldsOf ["uri", "name", "description", "mimeType", "annotations"] v
  let uri ← required Value.asStr (field "uri")
  let name ← required Value.asStr (field "name")
  let description ← optional Value.asStr (field "description")
  let mimeType ← readMimeType (field "mimeType")
  let annotations ← optional (Annotations.read scalars false) (field "annotations")
  return { uri, name, description, mimeType, annotations }

def ListResourcesResult.read (v : Value) : Option ListResourcesResult := do
  let field ← fieldsOf ["resources", "nextCursor"] v
  let resources ← required (readArray (Resource.read scalars)) (field "resources")
  let nextCursor ← optional Value.asStr (field "nextCursor")
  return { resources, nextCursor }

def PromptMessageContent.read (v : Value) : Option PromptMessageContent :=
  match tagOf v with
  | some "text" => do
      let field ← fieldsOf ["type", "text"] v
      let s ← required Value.asStr (field "text")
      return .text s
  | some "image" => do
      let field ← fieldsOf ["type", "image"] v
      let i ← required (ImageContent.read scalars []) (field "image")
      return .image i
  | some "resource" => do
      let field ← fieldsOf ["type", "resource"] v
      let r ← required (EmbeddedResource.read scalars []) (field "resource")
      return .resource r
  | _ => none

def PromptMessage.read (v : Value) : Option PromptMessage := do
  let field ← fieldsOf ["role", "content"] v
  let role ← required (Role.read false) (field "role")
  let content ← required (PromptMessageContent.read scalars) (field "content")
  return { role, content }

def GetPromptResult.read (v : Value) : Option GetPromptResult := do
  let field ← fieldsOf ["description", "messages"] v
  let description ← optional Value.asStr (field "description")
  let messages ← required (readArray (PromptMessage.read scalars)) (field "messages")
  return { description, messages }

/-- The priority and the timestamp are such as were written. -/
structure Annotations.Written (a : Annotations) : Prop where
  priority : ∀ v, a.priority = some v → v ≠ .null ∧ scalars.priority v = some v
  timestamp : ∀ t, a.timestamp = some t → scalars.timestamp t = some t

def Content.annotations : Content → Option Annotations
  | .text t => t.annotations
  | .image i => i.annotations
  | .resource r => r.annotations

def PromptMessageContent.annotations : PromptMessageContent → Option Annotations
  | .text _ => none
  | .image i => i.annotations
  | .resource r => r.annotations

variable {scalars}

@[simp]
theorem Role.read_encode (buffered : Bool) (r : Role) :
    Role.read buffered r.encode = some r := by
  cases r <;> rfl

theorem Annotations.read_encode {a : Annotations} (h : a.Written scalars) (buffered : Bool) :
    Annotations.read scalars buffered a.encode = some a := by
  have haudience : optional (readArray (Role.read buffered))
      (a.audience.map fun roles => .array (roles.map Role.encode)) = some a.audience :=
    optional_readArray fun _ _ _ _ => Role.read_encode _ _
  have hpriority : optional scalars.priority a.priority = some a.priority := by
    cases hp : a.priority with
    | none => rfl
    | some v =>
        obtain ⟨hnull, hread⟩ := h.priority v hp
        cases v with
        | null => exact absurd rfl hnull
        | bool | number | string | array | object => simp [optional, hread]
  have htimestamp : optional (fun v => v.asStr.bind scalars.timestamp)
      (a.timestamp.map .string) = some a.timestamp := by
    cases ht : a.timestamp with
    | none => rfl
    | some t => simp [optional, Value.asStr, h.timestamp t ht]
  simp [Annotations.read, Annotations.encode, fieldsOf, List.lookup_append, lookup_field,
    haudience, hpriority, htimestamp]

/-- Annotations come back from wherever they stand. -/
theorem optional_annotations {a : Option Annotations} (h : ∀ b, a = some b → b.Written scalars)
    (buffered : Bool) :
    optional (Annotations.read scalars buffered) (a.map Annotations.encode) = some a :=
  optional_object (fun _ => ⟨_, rfl⟩) fun b hb => Annotations.read_encode (h b hb) buffered

theorem ImageContent.read_entries {i : ImageContent}
    (h : ∀ a, i.annotations = some a → a.Written scalars) (tag : List String)
    {rest : List (String × Value)} (hrest : rest.lookup "annotations" = none) :
    ImageContent.read scalars tag (.object (i.entries ++ rest)) = some i := by
  simp [ImageContent.read, ImageContent.entries, writeAnnotations, fieldsOf, lookup_field, hrest,
    List.lookup_append, lookup_entry, required, Value.asStr, optional_annotations h]

theorem EmbeddedResource.read_entries {r : EmbeddedResource}
    (h : ∀ a, r.annotations = some a → a.Written scalars) (tag : List String)
    {rest : List (String × Value)} (hrest : rest.lookup "annotations" = none) :
    EmbeddedResource.read scalars tag (.object (r.entries ++ rest)) = some r := by
  simp [EmbeddedResource.read, EmbeddedResource.entries, writeAnnotations, fieldsOf, lookup_field,
    hrest, List.lookup_append, lookup_entry, required, ResourceContents.read_encode,
    optional_annotations h]

theorem Content.read_encode {c : Content}
    (h : ∀ a, c.annotations = some a → a.Written scalars) :
    Content.read scalars c.encode = some c := by
  cases c with
  | text t =>
      have hannotations : optional (Annotations.read scalars true)
          (t.annotations.map Annotations.encode) = some t.annotations := optional_annotations h true
      simp [Content.read, Content.encode, tagOf, writeAnnotations, fieldsOf, lookup_field,
        List.lookup_append, lookup_entry, required, Value.asStr, hannotations]
  | image i =>
      have htag : tagOf (.object (i.entries ++ [("type", .string "image")])) = some "image" := by
        simp [tagOf, ImageContent.entries, writeAnnotations, lookup_field, List.lookup_append,
          lookup_entry, Value.asStr]
      simp only [Content.read, Content.encode, htag]
      rw [ImageContent.read_entries h _ (by simp [lookup_entry]), Option.map_some]
  | resource r =>
      have htag : tagOf (.object (r.entries ++ [("type", .string "resource")])) =
          some "resource" := by
        simp [tagOf, EmbeddedResource.entries, writeAnnotations, lookup_field, List.lookup_append,
          lookup_entry, Value.asStr]
      simp only [Content.read, Content.encode, htag]
      rw [EmbeddedResource.read_entries h _ (by simp [lookup_entry]), Option.map_some]

theorem CallToolResult.read_encode {r : CallToolResult}
    (h : ∀ c ∈ r.content, ∀ a, c.annotations = some a → a.Written scalars) :
    CallToolResult.read scalars r.encode = some r := by
  have hcontent : readArray (Content.read scalars) (.array (r.content.map Content.encode)) =
      some r.content :=
    readArray_map fun c hc => Content.read_encode (h c hc)
  simp [CallToolResult.read, CallToolResult.encode, fieldsOf, lookup_field, lookup_entry, required,
    hcontent]

theorem Resource.read_encode {r : Resource}
    (h : ∀ a, r.annotations = some a → a.Written scalars) :
    Resource.read scalars r.encode = some r := by
  simp [Resource.read, Resource.encode, writeAnnotations, fieldsOf, List.lookup_append,
    lookup_field, lookup_entry, required, Value.asStr, readMimeType, optional_annotations h]

theorem ListResourcesResult.read_encode {r : ListResourcesResult}
    (h : ∀ x ∈ r.resources, ∀ a, x.annotations = some a → a.Written scalars) :
    ListResourcesResult.read scalars r.encode = some r := by
  have hresources : readArray (Resource.read scalars) (.array (r.resources.map Resource.encode)) =
      some r.resources :=
    readArray_map fun x hx => Resource.read_encode (h x hx)
  simp [ListResourcesResult.read, ListResourcesResult.encode, fieldsOf, List.lookup_append,
    lookup_field, lookup_entry, required, hresources]

theorem PromptMessageContent.read_encode {c : PromptMessageContent}
    (h : ∀ a, c.annotations = some a → a.Written scalars) :
    PromptMessageContent.read scalars c.encode = some c := by
  cases c with
  | text s =>
      simp [PromptMessageContent.read, PromptMessageContent.encode, tagOf, fieldsOf, lookup_entry,
        required, Value.asStr]
  | image i =>
      have hread := ImageContent.read_entries h [] (List.lookup_nil)
      rw [List.append_nil] at hread
      simp [PromptMessageContent.read, PromptMessageContent.encode, tagOf, fieldsOf, lookup_entry,
        required, Value.asStr, hread]
  | resource r =>
      have hread := EmbeddedResource.read_entries h [] (List.lookup_nil)
      rw [List.append_nil] at hread
      simp [PromptMessageContent.read, PromptMessageContent.encode, tagOf, fieldsOf, lookup_entry,
        required, Value.asStr, hread]

theorem PromptMessage.read_encode {m : PromptMessage}
    (h : ∀ a, m.content.annotations = some a → a.Written scalars) :
    PromptMessage.read scalars m.encode = some m := by
  simp [PromptMessage.read, PromptMessage.encode, fieldsOf, lookup_entry, required,
    PromptMessageContent.read_encode h]

theorem GetPromptResult.read_encode {r : GetPromptResult}
    (h : ∀ m ∈ r.messages, ∀ a, m.content.annotations = some a → a.Written scalars) :
    GetPromptResult.read scalars r.encode = some r := by
  have hmessages : readArray (PromptMessage.read scalars)
      (.array (r.messages.map PromptMessage.encode)) = some r.messages :=
    readArray_map fun m hm => PromptMessage.read_encode (h m hm)
  simp [GetPromptResult.read, GetPromptResult.encode, fieldsOf, List.lookup_append, lookup_field,
    lookup_entry, required, hmessages]

end IdxWorkspace.Mcp
