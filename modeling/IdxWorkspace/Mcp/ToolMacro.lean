import IdxWorkspace.Library.History
import IdxWorkspace.Mcp.Router

/-!
The attribute `tool`, which makes a tool handler of a function. The names and
descriptions come from its arguments, where a later one replaces an earlier one;
the handler reads the parameters of the function by their names, calls it, and
reports whatever error it returns as a failed execution.
-/

namespace IdxWorkspace.Mcp.ToolMacro

open Library Library.History

/-- A literal, as far as it is looked at. -/
inductive Expr where
  | str (value : String)
  | other

/-- A path, if it is no more than an identifier. -/
abbrev Path := Option String

/-- Why there is no expansion: `get_ident` was unwrapped, or `syn` finds fault. -/
inductive Abort where
  | panicked
  | malformed (message : String)

/-- `syn::Meta`, a list with the items it is parsed into. -/
inductive Meta where
  | path
  | list (path : Path) (tokens : Except Abort (List Meta))
  | nameValue (path : Path) (value : Expr)

structure MacroArgs where
  name : Option String
  description : Option String
  paramDescriptions : String → Option String

def MacroArgs.empty : MacroArgs :=
  { name := none, description := none, paramDescriptions := fun _ => none }

/-- An item of `params(..)`. Only the path of a string is looked at. -/
def visitParam (args : MacroArgs) : Meta → Except Abort MacroArgs
  | .nameValue path (.str value) =>
      match path with
      | some paramName => .ok
          { args with
            paramDescriptions := Function.update args.paramDescriptions paramName (some value) }
      | none => .error .panicked
  | _ => .ok args

/-- An argument of the attribute. -/
def visit (args : MacroArgs) : Meta → Except Abort MacroArgs
  | .nameValue path value =>
      match path, value with
      | none, _ => .error .panicked
      | some ident, .str value =>
          match ident with
          | "name" => .ok { args with name := some value }
          | "description" => .ok { args with description := some value }
          | _ => .ok args
      | some _, .other => .ok args
  | .list path tokens =>
      if path = some "params" then do
        let nested ← tokens
        nested.foldlM visitParam args
      else .ok args
  | .path => .ok args

def MacroArgs.parse (metaList : List Meta) : Except Abort MacroArgs :=
  metaList.foldlM visit MacroArgs.empty

/-- A type of parameters: how its values are written, and how `serde` reads a field of it. -/
structure ArgType where
  type : Type
  write : type → Value
  read : Option Value → Option type
  read_write : ∀ a, read (some (write a)) = some a

structure Param where
  name : String
  ty : ArgType

/-- The arguments of a call. -/
def Args : List Param → Type
  | [] => Unit
  | p :: ps => p.ty.type × Args ps

structure ItemFn where
  ident : String
  inputs : List Param
  /-- Its result or the text of its error, unless it panics or its result has no JSON. -/
  body : Args inputs → Option (Except String Value)

/-- What the macro implements `ToolHandler` with. The schema is made of the fields of
the parameters, each with its description. -/
structure ToolHandler where
  name : String
  description : String
  fields : List (String × String)
  call : Value → Option (Except ToolError Value)

/-- The parameters, field by field. -/
def readArgs (field : String → Option Value) : (ps : List Param) → Option (Args ps)
  | [] => some ()
  | p :: ps => do
      let arg ← p.ty.read (field p.name)
      let args ← readArgs field ps
      return (arg, args)

/-- `serde_json::from_value` for the struct of the parameters -/
def readParams (ps : List Param) (params : Value) : Option (Args ps) := do
  let field ← fieldsOf (ps.map Param.name) params
  readArgs field ps

variable (rejects : Value → String)

/-- The handler of a function. -/
def handler (args : MacroArgs) (inputFn : ItemFn) : ToolHandler where
  name := args.name.getD inputFn.ident
  description := args.description.getD ""
  fields := inputFn.inputs.map fun p => (p.name, (args.paramDescriptions p.name).getD "")
  call params :=
    match readParams inputFn.inputs params with
    | none => some (.error (.invalidParameters (rejects params)))
    | some args =>
        match inputFn.body args with
        | none => none
        | some (.ok result) => some (.ok result)
        | some (.error e) => some (.error (.executionError e))

/-- The attribute on a function. -/
def tool (metaList : List Meta) (inputFn : ItemFn) : Except Abort ToolHandler := do
  let args ← MacroArgs.parse metaList
  return handler rejects args inputFn

/-- The string that an item gives to a name. -/
def literal (key : String) : Meta → Option String
  | .nameValue (some ident) (.str value) => if ident = key then some value else none
  | _ => none

/-- The items an argument has for the parameters. -/
def nested : Meta → List Meta
  | .list (some "params") (.ok items) => items
  | _ => []

/-- The last string given to a name. -/
def lastLiteral (key : String) (items : List Meta) : Option String :=
  (items.filterMap (literal key)).getLast?

theorem lastLiteral_append (key : String) (items more : List Meta) :
    lastLiteral key (items ++ more) = (lastLiteral key more).or (lastLiteral key items) := by
  rw [lastLiteral, List.filterMap_append, List.getLast?_append]
  rfl

theorem lastLiteral_flatMap (key : String) (metaList : List Meta) :
    lastLiteral key (metaList.flatMap nested) =
      (metaList.filterMap fun item => lastLiteral key (nested item)).getLast? := by
  induction metaList with
  | nil => rfl
  | cons item metaList ih =>
      rw [List.flatMap_cons, lastLiteral_append, ih, List.filterMap_cons]
      cases h : lastLiteral key (nested item) with
      | none => simp
      | some value => simp [List.getLast?_cons, Option.or_some]

theorem visitParam_ok {args args' : MacroArgs} {item : Meta}
    (h : visitParam args item = .ok args') :
    args'.name = args.name ∧ args'.description = args.description ∧
      ∀ p, args'.paramDescriptions p = (literal p item).or (args.paramDescriptions p) := by
  unfold visitParam at h
  split at h
  · split at h <;> cases h
    rename_i value paramName
    refine ⟨rfl, rfl, fun p => ?_⟩
    by_cases hp : p = paramName
    · simp [literal, hp]
    · simp [literal, hp, Ne.symm hp]
  · rename_i hother
    cases h
    refine ⟨rfl, rfl, fun p => ?_⟩
    have hnone : literal p item = none := by
      unfold literal
      split
      · rename_i ident value
        exact absurd rfl (hother (some ident) value)
      · rfl
    rw [hnone, Option.none_or]

theorem visitParams_ok {args args' : MacroArgs} {items : List Meta}
    (h : items.foldlM visitParam args = .ok args') :
    args'.name = args.name ∧ args'.description = args.description ∧
      ∀ p, args'.paramDescriptions p = (lastLiteral p items).or (args.paramDescriptions p) := by
  have hnone (v : Option String) : ((items.filterMap fun _ => none).getLast?).or v = v := by
    simp
  refine ⟨?_, ?_, fun p => ?_⟩
  · rw [← hnone args.name]
    exact foldlM_last h fun _ _ _ hstep => (visitParam_ok hstep).1
  · rw [← hnone args.description]
    exact foldlM_last h fun _ _ _ hstep => (visitParam_ok hstep).2.1
  · exact foldlM_last h fun _ _ _ hstep => (visitParam_ok hstep).2.2 p

theorem visit_ok {args args' : MacroArgs} {item : Meta} (h : visit args item = .ok args') :
    args'.name = (literal "name" item).or args.name ∧
      args'.description = (literal "description" item).or args.description ∧
      ∀ p, args'.paramDescriptions p =
        (lastLiteral p (nested item)).or (args.paramDescriptions p) := by
  cases item with
  | path =>
      cases h
      exact ⟨rfl, rfl, fun _ => rfl⟩
  | list path tokens =>
      simp only [visit] at h
      split at h
      · rename_i hparams
        cases tokens with
        | error e => cases h
        | ok items =>
            obtain ⟨hname, hdescription, hdescriptions⟩ := visitParams_ok h
            rw [hparams]
            exact ⟨hname, hdescription, hdescriptions⟩
      · rename_i hother
        cases h
        refine ⟨rfl, rfl, fun p => ?_⟩
        have hnone : nested (.list path tokens) = [] := by
          unfold nested
          split
          · rename_i hlist
            cases hlist
            exact absurd rfl hother
          · rfl
        rw [hnone]
        rfl
  | nameValue path value =>
      cases path with
      | none => cases h
      | some ident =>
          cases value with
          | other =>
              cases h
              exact ⟨rfl, rfl, fun _ => rfl⟩
          | str value =>
              simp only [visit] at h
              split at h <;> cases h
              · exact ⟨rfl, rfl, fun _ => rfl⟩
              · exact ⟨rfl, rfl, fun _ => rfl⟩
              · rename_i hname hdescription
                refine ⟨?_, ?_, fun _ => rfl⟩
                · rw [literal, if_neg hname, Option.none_or]
                · rw [literal, if_neg hdescription, Option.none_or]

/-- Of the strings given to a name the last one counts. -/
theorem parse_ok {metaList : List Meta} {args : MacroArgs}
    (h : MacroArgs.parse metaList = .ok args) :
    args.name = lastLiteral "name" metaList ∧
      args.description = lastLiteral "description" metaList ∧
      ∀ p, args.paramDescriptions p = lastLiteral p (metaList.flatMap nested) := by
  refine ⟨?_, ?_, fun p => ?_⟩
  · have hname : args.name = (lastLiteral "name" metaList).or MacroArgs.empty.name :=
      foldlM_last h fun _ _ _ hstep => (visit_ok hstep).1
    rw [hname, MacroArgs.empty, Option.or_none]
  · have hdescription : args.description =
        (lastLiteral "description" metaList).or MacroArgs.empty.description :=
      foldlM_last h fun _ _ _ hstep => (visit_ok hstep).2.1
    rw [hdescription, MacroArgs.empty, Option.or_none]
  · have hdescriptions : args.paramDescriptions p =
        ((metaList.filterMap fun item => lastLiteral p (nested item)).getLast?).or
          (MacroArgs.empty.paramDescriptions p) :=
      foldlM_last h fun _ _ _ hstep => (visit_ok hstep).2.2 p
    rw [hdescriptions, lastLiteral_flatMap, MacroArgs.empty, Option.or_none]

/-- What the handler makes of what its function does. -/
def answered : Option (Except String Value) → Option (Except ToolError Value)
  | none => none
  | some (.ok result) => some (.ok result)
  | some (.error e) => some (.error (.executionError e))

theorem handler_call_of_read {args : MacroArgs} {inputFn : ItemFn} {params : Value}
    {given : Args inputFn.inputs} (h : readParams inputFn.inputs params = some given) :
    (handler rejects args inputFn).call params = answered (inputFn.body given) := by
  simp only [handler, h]
  rfl

variable {rejects} {metaList : List Meta} {inputFn : ItemFn} {made : ToolHandler}

theorem tool_ok (h : tool rejects metaList inputFn = .ok made) :
    ∃ args, MacroArgs.parse metaList = .ok args ∧ made = handler rejects args inputFn := by
  unfold tool at h
  cases hparse : MacroArgs.parse metaList with
  | error e =>
      rw [hparse] at h
      cases h
  | ok args =>
      rw [hparse] at h
      cases h
      exact ⟨args, rfl, rfl⟩

/-- What a tool is called and described as: the last string given, or else the
function's own name, or nothing. This holds of every list of arguments that the
attribute expands with, also of one that gives a name many times, in several
`params` or not as a string. -/
theorem tool_described (h : tool rejects metaList inputFn = .ok made) :
    made.name = (lastLiteral "name" metaList).getD inputFn.ident ∧
      made.description = (lastLiteral "description" metaList).getD "" ∧
      made.fields = inputFn.inputs.map fun p =>
        (p.name, (lastLiteral p.name (metaList.flatMap nested)).getD "") := by
  obtain ⟨args, hparse, rfl⟩ := tool_ok h
  obtain ⟨hname, hdescription, hdescriptions⟩ := parse_ok hparse
  simp only [handler, hname, hdescription, hdescriptions, and_self]

end IdxWorkspace.Mcp.ToolMacro
