import IdxWorkspace.Mcp.ToolMacro

/-!
The calculator, a tool made by the attribute. What it returns is exact or wraps
around, as the build has it; a division that does not fit always panics. The
errors it tells apart arrive as one kind, that of a failed execution.
-/

namespace IdxWorkspace.Mcp.Calculator

open ToolMacro

/-- An operation on `i32`, with its exact result and its wrapped one. -/
def checked (overflowChecks : Bool) (exact : Int) (wrapped : Int32) : Option Int32 :=
  if overflowChecks ∧ wrapped.toInt ≠ exact then none else some wrapped

/-- The function under the attribute; nothing if it panics. -/
def calculator (overflowChecks : Bool) (x y : Int32) (operation : String) :
    Option (Except ToolError Int32) :=
  match operation with
  | "add" => (checked overflowChecks (x.toInt + y.toInt) (x + y)).map .ok
  | "subtract" => (checked overflowChecks (x.toInt - y.toInt) (x - y)).map .ok
  | "multiply" => (checked overflowChecks (x.toInt * y.toInt) (x * y)).map .ok
  | "divide" =>
      if y = 0 then some (.error (.executionError "Division by zero"))
      else if x = Int32.minValue ∧ y = -1 then none
      else some (.ok (x / y))
  | _ => some (.error (.invalidParameters ("Unknown operation: " ++ operation)))

def i32 : ArgType where
  type := Int32
  write := writeI32
  read := required readI32
  read_write := readI32_writeI32

def string : ArgType where
  type := String
  write := .string
  read := required Value.asStr
  read_write := required_string

def inputs : List Param := [⟨"x", i32⟩, ⟨"y", i32⟩, ⟨"operation", string⟩]

def inputFn (overflowChecks : Bool) : ItemFn where
  ident := "calculator"
  inputs := inputs
  body args :=
    (calculator overflowChecks args.1 args.2.1 args.2.2.1).map fun result =>
      (result.map writeI32).mapError ToolError.display

/-- The arguments of the attribute. -/
def metaList : List Meta :=
  [.nameValue (some "name") (.str "calculator"),
    .nameValue (some "description") (.str "Perform basic arithmetic operations"),
    .list (some "params") (.ok
      [.nameValue (some "x") (.str "First number in the calculation"),
        .nameValue (some "y") (.str "Second number in the calculation"),
        .nameValue (some "operation")
          (.str "The operation to perform (add, subtract, multiply, divide)")])]

/-- The attribute of the example with a name and a parameter given once more. -/
def repeated : List Meta :=
  metaList ++ [.nameValue (some "name") (.str "arithmetic"),
    .list (some "params") (.ok [.nameValue (some "x") (.str "The first operand")])]

theorem tool_described_calculator :
    ∃ made, tool (fun _ => "") repeated (inputFn true) = .ok made ∧
      made.name = "arithmetic" ∧ ("x", "The first operand") ∈ made.fields := by
  obtain ⟨made, hmade⟩ : ∃ made, tool (fun _ => "") repeated (inputFn true) = .ok made := ⟨_, rfl⟩
  obtain ⟨hname, _, hfields⟩ := tool_described hmade
  refine ⟨made, hmade, hname, ?_⟩
  rw [hfields]
  exact List.mem_cons_self

/-- The result on integers, where there is one. -/
def onIntegers (x y : Int) : String → Option Int
  | "add" => some (x + y)
  | "subtract" => some (x - y)
  | "multiply" => some (x * y)
  | "divide" => if y = 0 then none else some (x.tdiv y)
  | _ => none

/-- The text of the error, where there is no result. -/
def refusal (operation : String) : String :=
  if operation = "divide" then "Execution failed: Division by zero"
  else "Invalid parameters: Unknown operation: " ++ operation

def Fits (n : Int) : Prop := -2147483648 ≤ n ∧ n ≤ 2147483647

instance (n : Int) : Decidable (Fits n) := inferInstanceAs (Decidable (_ ∧ _))

/-- The calculator on integers: a result that does not fit panics or wraps around. -/
def outcome (overflowChecks : Bool) (x y : Int32) (operation : String) :
    Option (Except String Value) :=
  match onIntegers x.toInt y.toInt operation with
  | none => some (.error (refusal operation))
  | some r =>
      if Fits r ∨ overflowChecks = false ∧ operation ≠ "divide" then
        some (.ok (writeI32 (Int32.ofInt r)))
      else none

theorem fits_toInt (n : Int32) : Fits n.toInt := by
  have hlow := Int32.le_toInt n
  have hhigh := Int32.toInt_lt n
  constructor <;> omega

theorem toInt_ofInt_iff (n : Int) : (Int32.ofInt n).toInt = n ↔ Fits n := by
  constructor
  · intro h
    rw [← h]
    exact fits_toInt _
  · rintro ⟨hlow, hhigh⟩
    exact Int32.toInt_ofInt_of_le hlow (by omega)

/-- A checked operation panics exactly when its result does not fit. -/
theorem checked_ofInt (overflowChecks : Bool) (r : Int) :
    checked overflowChecks r (Int32.ofInt r) =
      if Fits r ∨ overflowChecks = false then some (Int32.ofInt r) else none := by
  simp only [checked, ne_eq, toInt_ofInt_iff]
  cases overflowChecks with
  | false => simp
  | true => by_cases hfits : Fits r <;> simp [hfits]

theorem add_eq_ofInt (x y : Int32) : x + y = Int32.ofInt (x.toInt + y.toInt) := by
  rw [Int32.ofInt_add, Int32.ofInt_toInt, Int32.ofInt_toInt]

theorem sub_eq_ofInt (x y : Int32) : x - y = Int32.ofInt (x.toInt - y.toInt) := by
  rw [Int32.ofInt_sub, Int32.ofInt_toInt, Int32.ofInt_toInt]

theorem mul_eq_ofInt (x y : Int32) : x * y = Int32.ofInt (x.toInt * y.toInt) := by
  rw [Int32.ofInt_mul, Int32.ofInt_toInt, Int32.ofInt_toInt]

theorem div_eq_ofInt (x y : Int32) : x / y = Int32.ofInt (x.toInt.tdiv y.toInt) := by
  have hx := fits_toInt x
  have hy := fits_toInt y
  rw [Int32.ofInt_tdiv hx.1 hx.2 hy.1 hy.2, Int32.ofInt_toInt, Int32.ofInt_toInt]

/-- The one division that does not fit is the one that panics. -/
theorem fits_tdiv_iff (x y : Int32) :
    Fits (x.toInt.tdiv y.toInt) ↔ ¬(x = Int32.minValue ∧ y = -1) := by
  constructor
  · rintro hfits ⟨rfl, rfl⟩
    revert hfits
    decide
  · intro h
    rcases not_and_or.mp h with hx | hy
    · rw [← Int32.toInt_div_of_ne_left x y hx]
      exact fits_toInt _
    · rw [← Int32.toInt_div_of_ne_right x y hy]
      exact fits_toInt _

/-- The calculator computes on integers, as far as the results fit. -/
theorem body_exact (overflowChecks : Bool) (x y : Int32) (operation : String) :
    (inputFn overflowChecks).body (x, y, operation, ()) =
      outcome overflowChecks x y operation := by
  have hchecked (r : Int) : ((checked overflowChecks r (Int32.ofInt r)).map Except.ok).map
      (fun result => (result.map writeI32).mapError ToolError.display) =
        if Fits r ∨ overflowChecks = false then some (.ok (writeI32 (Int32.ofInt r)))
        else none := by
    rw [checked_ofInt]
    split <;> rfl
  change (calculator overflowChecks x y operation).map
    (fun result => (result.map writeI32).mapError ToolError.display) = _
  unfold calculator outcome
  split
  · rw [add_eq_ofInt, hchecked]
    simp [onIntegers]
  · rw [sub_eq_ofInt, hchecked]
    simp [onIntegers]
  · rw [mul_eq_ofInt, hchecked]
    simp [onIntegers]
  · have hzero : y.toInt = 0 ↔ y = 0 := Int32.toInt_inj (y := 0)
    by_cases hy : y = 0
    · rw [if_pos hy, onIntegers, if_pos (hzero.mpr hy)]
      rfl
    · rw [if_neg hy, onIntegers, if_neg (mt hzero.mp hy)]
      simp only [fits_tdiv_iff, div_eq_ofInt]
      by_cases hmin : x = Int32.minValue ∧ y = -1
      · simp [hmin]
      · simp only [hmin, not_false_eq_true, true_or, if_true, if_false]
        rfl
  · rename_i hadd hsubtract hmultiply hdivide
    have hnone : onIntegers x.toInt y.toInt operation = none := by
      rw [onIntegers] <;> assumption
    have hunknown : ¬ operation = "divide" := hdivide
    simp only [hnone, refusal, hunknown, if_false]
    rfl

/-- What is read of the parameters. -/
def arguments (params : Value) : Option (Int32 × Int32 × String) :=
  (readParams inputs params).map fun args => (args.1, args.2.1, args.2.2.1)

/-- What a call of the tool comes to, whatever it is called with: parameters that
cannot be read are invalid, but an operation that is not known is a failed execution.
The build checks overflows or does not, and where the result does not fit it panics or
comes round accordingly, except for the one division that always panics. -/
theorem calculator_answers (rejects : Value → String) (overflowChecks : Bool) :
    ∃ made, tool rejects metaList (inputFn overflowChecks) = .ok made ∧ ∀ params, made.call params =
      match arguments params with
      | none => some (.error (.invalidParameters (rejects params)))
      | some (x, y, operation) => answered (outcome overflowChecks x y operation) := by
  obtain ⟨made, hmade⟩ : ∃ made, tool rejects metaList (inputFn overflowChecks) = .ok made :=
    ⟨_, rfl⟩
  obtain ⟨args, _, rfl⟩ := tool_ok hmade
  refine ⟨_, hmade, fun params => ?_⟩
  rw [arguments]
  cases hread : readParams inputs params with
  | none =>
      have hnone : readParams (inputFn overflowChecks).inputs params = none := hread
      simp only [handler, hnone]
      rfl
  | some given =>
      obtain ⟨x, y, operation, ⟨⟩⟩ := given
      have hgiven : readParams (inputFn overflowChecks).inputs params =
          some (x, y, operation, ()) := hread
      rw [handler_call_of_read rejects hgiven]
      exact congrArg answered (body_exact overflowChecks x y operation)

end IdxWorkspace.Mcp.Calculator
