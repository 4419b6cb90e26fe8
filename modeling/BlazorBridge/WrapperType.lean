import BlazorBridge.Text.Blank
import BlazorBridge.Text.Case

/-!
# Types

JavaScript type annotations and the C# types that stand for them. A promise becomes a task, a
known name becomes its counterpart whatever its case, and everything else becomes an object.
-/

namespace BlazorBridge.WrapperType

/-- The type of a value of which nothing is known. -/
def object : Text := "object".toList

/-- The absence of a result. -/
def void : Text := "void".toList

/-- A task without a result. -/
def task : Text := "Task".toList

/-- A task with a result. -/
def taskOf (result : Text) : Text := "Task<".toList ++ result ++ ">".toList

/-- The annotation names with a counterpart, in small letters. No annotation counts as void. -/
def counterparts : List (Text × Text) :=
  [("string".toList, "string".toList), ("number".toList, "double".toList),
   ("boolean".toList, "bool".toList), ("object".toList, object),
   ("array".toList, "object[]".toList), ("void".toList, void),
   ("promise".toList, task), ([], void)]

/-- The counterpart of a name, whatever its case. -/
def ofName (name : Text) : Text := ((counterparts.lookup (Text.lower name)).getD object)

/-- What stands between the opening text and the closing angle bracket, when a text has both. -/
def enclosed (opening t : Text) : Option Text :=
  match Text.after? opening t with
  | some rest => if Text.endsWith ['>'] rest then some rest.dropLast else none
  | none => none

theorem enclosed_length {opening t inner : Text} (h : enclosed opening t = some inner) :
    inner.length + opening.length + 1 = t.length := by
  unfold enclosed at h
  split at h
  · rename_i rest hr
    have hlen := congrArg List.length (Text.after?_eq_some_iff.1 hr)
    rw [List.length_append] at hlen
    split at h
    · rename_i hend
      have : rest ≠ [] := by
        rintro rfl
        simp [Text.endsWith] at hend
      have := List.length_pos_iff.2 this
      simp only [Option.some.injEq] at h
      subst h
      simp only [List.length_dropLast]
      omega
    · simp at h
  · simp at h

/-- The C# type for an annotation. White space around it, and around the content of a promise,
does not count. -/
def ofAnnotation (written : Text) : Text :=
  match _h : enclosed "Promise<".toList (Text.trim written) with
  | some content =>
    let inner := ofAnnotation content
    if inner = void then task else taskOf inner
  | none => ofName (Text.trim written)
termination_by written.length
decreasing_by
  have h₁ := enclosed_length _h
  have h₂ := Text.length_trim_le written
  omega

/-- Whether a type is rendered without a result. -/
def isVoidLike (type : Text) : Bool := type = void || type = task

/-- A type with one layer of task removed. -/
def unwrap (type : Text) : Text :=
  if type = task then void else (enclosed "Task<".toList type).getD type

end BlazorBridge.WrapperType
