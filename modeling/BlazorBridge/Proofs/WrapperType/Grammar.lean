import BlazorBridge.Proofs.Text.Marks
import BlazorBridge.WrapperType

/-!
# The grammar of types

Whatever an annotation says, its C# type is void or one of a few types of values, which only tasks
nest (`isType_ofAnnotation`). Unwrapping a task stays among these types (`IsType.unwrap`), and none of
them holds a character from outside a small set (`IsType.not_mem`).
-/

namespace BlazorBridge.WrapperType

/-- The types of values. -/
inductive IsValue : Text → Prop where
  | string : IsValue "string".toList
  | double : IsValue "double".toList
  | bool : IsValue "bool".toList
  | object : IsValue object
  | array : IsValue "object[]".toList
  | task : IsValue task
  | taskOf {inner : Text} : IsValue inner → IsValue (taskOf inner)

/-- The types that annotations stand for. -/
def IsType (type : Text) : Prop := type = void ∨ IsValue type

/-! ## Annotations -/

/-- White space around an annotation does not count. -/
theorem ofAnnotation_trim (written : Text) :
    ofAnnotation (Text.trim written) = ofAnnotation written := by
  unfold ofAnnotation
  rw [Text.trim_trim]

theorem isType_of_mem_counterparts {e : Text × Text} (h : e ∈ counterparts) : IsType e.2 := by
  simp only [counterparts, List.mem_cons, List.not_mem_nil, or_false] at h
  rcases h with rfl | rfl | rfl | rfl | rfl | rfl | rfl | rfl
  · exact .inr .string
  · exact .inr .double
  · exact .inr .bool
  · exact .inr .object
  · exact .inr .array
  · exact .inl rfl
  · exact .inr .task
  · exact .inl rfl

theorem isType_ofName (name : Text) : IsType (ofName name) := by
  unfold ofName
  cases h : counterparts.lookup (Text.lower name) with
  | none => exact .inr .object
  | some type =>
    obtain ⟨before, after, heq, -⟩ := List.lookup_eq_some_iff.1 h
    exact isType_of_mem_counterparts (e := (Text.lower name, type)) (by simp [heq])

/-- An annotation stands for a type of the grammar, whatever it says. -/
theorem isType_ofAnnotation (written : Text) : IsType ( ofAnnotation written) := by
  fun_induction ofAnnotation written with
  | case1 written content henclosed inner hvoid ih => exact .inr .task
  | case2 written content henclosed inner hvoid ih =>
    rcases ih with ih | ih
    · exact absurd ih hvoid
    · exact .inr (.taskOf ih)
  | case3 written henclosed => exact isType_ofName _

/-! ## Unwrapping -/

/-- What is enclosed is all that stands between the opening text and the last bracket. -/
theorem enclosed_eq_some_iff {opening t inner : Text} :
    enclosed opening t = some inner ↔ t = opening ++ inner ++ ['>'] := by
  unfold enclosed
  constructor
  · intro h
    split at h
    · rename_i rest hrest
      split at h
      · rename_i hend
        obtain ⟨front, rfl⟩ := Text.endsWith_iff.1 hend
        rw [Option.some.injEq, List.dropLast_concat] at h
        rw [Text.after?_eq_some_iff.1 hrest, h, List.append_assoc]
      · simp at h
    · simp at h
  · rintro rfl
    rw [List.append_assoc, Text.after?_append]
    simp [Text.endsWith_iff]

theorem taskOf_eq (inner : Text) : taskOf inner = "Task<".toList ++ inner ++ ['>'] := rfl

theorem length_taskOf (inner : Text) : (taskOf inner).length = inner.length + 6 := by
  have hopening : "Task<".toList.length = 5 := rfl
  rw [taskOf_eq, List.length_append, List.length_append, hopening, List.length_singleton]
  omega

theorem taskOf_ne_task (inner : Text) : taskOf inner ≠ task := by
  intro h
  have hlength := congrArg List.length h
  have htask : task.length = 4 := rfl
  rw [length_taskOf] at hlength
  omega

theorem taskOf_ne_void (inner : Text) : taskOf inner ≠ void := by
  intro h
  have hlength := congrArg List.length h
  have hvoid : void.length = 4 := rfl
  rw [length_taskOf] at hlength
  omega

/-- The layer that is put around a type is the one that is removed. -/
theorem unwrap_taskOf (inner : Text) : unwrap (taskOf inner) = inner := by
  unfold unwrap
  rw [if_neg (taskOf_ne_task inner), enclosed_eq_some_iff.2 (taskOf_eq inner), Option.getD_some]

theorem IsType.unwrap {type : Text} (h : IsType type) : IsType (unwrap type) := by
  rcases h with rfl | h
  · exact .inl rfl
  · cases h with
    | string => exact .inr .string
    | double => exact .inr .double
    | bool => exact .inr .bool
    | object => exact .inr .object
    | array => exact .inr .array
    | task => exact .inl rfl
    | taskOf h =>
      rw [unwrap_taskOf]
      exact .inr h

/-! ## Characters -/

/-- The characters that types are written with. -/
def letters : List Char := "abcdegijklnorstuvT<>[]".toList

theorem IsValue.subset_letters {type : Text} (h : IsValue type) : type ⊆ letters := by
  induction h with
  | taskOf _ ih =>
    rw [taskOf_eq]
    exact List.append_subset.2 ⟨List.append_subset.2 ⟨by decide, ih⟩, by decide⟩
  | _ => decide

/-- A character that types are not written with is in none of them. -/
theorem IsType.not_mem {type : Text} (h : IsType type) {c : Char} (hc : c ∉ letters) : c ∉ type := by
  rcases h with rfl | h
  · exact fun hmem => hc ((by decide : void ⊆ letters) hmem)
  · exact fun hmem => hc (h.subset_letters hmem)

end BlazorBridge.WrapperType
