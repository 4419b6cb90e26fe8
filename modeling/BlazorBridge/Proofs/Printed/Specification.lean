import BlazorBridge.Extraction
import BlazorBridge.Proofs.Text.Marks

/-!
# Printed specifications

A specification says what a documented function is: its name, its parameters, the types of some of
them, its result and its keywords. It is printed as a documentation block with one tag for each type,
the head of the function and an empty body. `Describes` says which function a specification stands
for. The fields of a specification carry the conditions under which it can be printed.
-/

namespace BlazorBridge

/-- A type that can stand in a tag. -/
structure TypeText where
  text : Text
  nonblank : Text.isBlank text = false
  plain : ∀ c ∈ ['\n', '\x7d', '@', '(', '/', '*'], c ∉ text

namespace TypeText

theorem trim_ne_nil (r : TypeText) : Text.trim r.text ≠ [] := by
  rw [Ne, Text.trim_eq_nil_iff, r.nonblank]
  simp

theorem text_ne_nil (r : TypeText) : r.text ≠ [] := by
  intro h
  exact r.trim_ne_nil (by rw [h]; rfl)

end TypeText

/-- What a documented function is. `types` assigns types to some of the parameters, in the order in
which they are documented. -/
structure FunctionSpec where
  name : Text
  parameters : List Text
  types : List (Text × TypeText)
  result : Option TypeText
  isExported : Bool
  isAsync : Bool
  isName : Text.IsName name
  areNames : ∀ p ∈ parameters, Text.IsName p
  distinct : parameters.Nodup
  assignedOnce : (types.map Prod.fst).Nodup
  assignedOwn : ∀ e ∈ types, e.1 ∈ parameters
  documented : types ≠ [] ∨ result.isSome = true

namespace FunctionSpec

/-! ## Printing -/

/-- The tag that states the type of a parameter. -/
def parameterTag (e : Text × TypeText) : Text :=
  "@param \x7b".toList ++ e.2.text ++ "\x7d ".toList ++ e.1

/-- The tag that states the type of the result. -/
def resultTag (r : TypeText) : Text := "@returns \x7b".toList ++ r.text ++ "\x7d".toList

/-- The tags of a function: one for each type, that of the result last. -/
def tags (s : FunctionSpec) : List Text :=
  s.types.map parameterTag ++ s.result.toList.map resultTag

/-- The lines of the documentation block. -/
def block (s : FunctionSpec) : List Text :=
  ["/**".toList] ++ s.tags.map (" * ".toList ++ ·) ++ [" */".toList]

/-- The head of the function up to its parameters. -/
def lead (s : FunctionSpec) : Text :=
  (if s.isExported then "export ".toList else []) ++ (if s.isAsync then "async ".toList else []) ++
    "function ".toList ++ s.name

/-- The head of the function. -/
def head (s : FunctionSpec) : Text :=
  s.lead ++ "(".toList ++ Text.join ", ".toList s.parameters ++ ") \x7b".toList

/-- A function as it is printed: its documentation block, its head, a closing brace and an empty
line. -/
def print (s : FunctionSpec) : Text :=
  Text.ofLines (s.block ++ [s.head, "\x7d".toList, []])

/-- Functions as they are printed, one after another. -/
def printAll (specs : List FunctionSpec) : Text := specs.flatMap print

example :
    print
      { name := "area".toList
        parameters := ["w".toList, "h".toList]
        types := [("h".toList, ⟨"number".toList, by decide, by simp⟩)]
        result := none
        isExported := true
        isAsync := false
        isName := by decide
        areNames := by decide
        distinct := by decide
        assignedOnce := by decide
        assignedOwn := by decide
        documented := Or.inl (by decide) } =
      "/**\n * @param \x7bnumber\x7d h\n */\nexport function area(w, h) \x7b\n\x7d\n\n".toList := by
  decide

/-! ## What is described -/

/-- The parameter of the function with a given name. One without a type is an object. -/
def parameter (s : FunctionSpec) (name : Text) : Parameter where
  name := name
  type :=
    match s.types.lookup name with
    | some t => WrapperType.ofAnnotation t.text
    | none => WrapperType.object

/-- The type of the result. One that is not documented is void. -/
def resultType (s : FunctionSpec) : Text :=
  match s.result with
  | some r => WrapperType.ofAnnotation r.text
  | none => WrapperType.void

/-- The function is the one that is specified. It may count as asynchronous also where the keyword is
not its own. -/
structure Describes (s : FunctionSpec) (f : JsFunction) : Prop where
  name : f.name = s.name
  parameters : f.parameters = s.parameters.map s.parameter
  result : f.result = s.resultType
  documentation : f.documentation = s.tags
  async : s.isAsync = true → f.isAsync = true

end FunctionSpec

end BlazorBridge
