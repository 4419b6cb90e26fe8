import BlazorBridge.Proofs.Declaration.Overlaps
import BlazorBridge.Proofs.Documentation.Gate
import BlazorBridge.Proofs.WrapperType.Grammar
import BlazorBridge.Wrapper

/-!
# The types in a module

Types reach a module by annotations, by documentation and by default, and whatever the text says they
are types of the grammar. A type of the grammar closes the brackets it opens (`IsType.closes`), names
void only as a whole (`IsType.eq_void_of_infix`), and is without a result, once a task around it is
removed, in three cases only (`IsType.isVoidLike_unwrap_iff`).

Main statement (`types_of_module_in_grammar`): all this holds of every type in the module that is
extracted from a text, and the results of its methods are void or types of values.
-/

namespace BlazorBridge

namespace WrapperType

/-! ## Brackets -/

/-- Whether a text closes the brackets it opens and those that are due, the nearest first, each by the
bracket that belongs to it. -/
def closes (due : List Char) : Text → Bool
  | [] => due.isEmpty
  | '<' :: rest => closes ('>' :: due) rest
  | '[' :: rest => closes (']' :: due) rest
  | c :: rest =>
    if c = '>' || c = ']' then due.head? == some c && closes due.tail rest else closes due rest

/-- A type of values neither closes a bracket from outside nor leaves one open. -/
theorem IsValue.closes_append {type : Text} (h : IsValue type) (due : List Char) (rest : Text) :
    closes due (type ++ rest) = closes due rest := by
  induction h generalizing due rest with
  | taskOf _ ih =>
    rename_i inner _
    have hopened : closes due (WrapperType.taskOf inner ++ rest) = closes ('>' :: due) (inner ++ '>' :: rest) := by
      rw [taskOf_eq, List.append_assoc, List.append_assoc]
      rfl
    rw [hopened, ih]
    rfl
  | _ => rfl

/-- The brackets of a type are balanced. -/
theorem IsType.closes {type : Text} (h : IsType type) : closes [] type = true := by
  rcases h with rfl | h
  · rfl
  · have hempty := h.closes_append [] []
    rwa [List.append_nil] at hempty

/-! ## Void -/

/-- The letter that tells void from the types of values. -/
theorem IsValue.not_mem_v {type : Text} (h : IsValue type) : 'v' ∉ type := by
  induction h with
  | taskOf _ ih =>
    rw [taskOf_eq]
    exact List.not_mem_append (List.not_mem_append (by decide) ih) (by decide)
  | _ => decide

theorem IsValue.ne_void {type : Text} (h : IsValue type) : type ≠ void := by
  rintro rfl
  exact h.not_mem_v (by decide)

/-- Void stands in no type but itself. -/
theorem IsType.eq_void_of_infix {type : Text} (h : IsType type) (hvoid : void <:+: type) :
    type = void := by
  rcases h with rfl | h
  · rfl
  · exact absurd (hvoid.subset (by decide)) h.not_mem_v

/-! ## Types without a result -/

theorem taskOf_injective {a b : Text} (h : taskOf a = taskOf b) : a = b := by
  rw [← unwrap_taskOf a, h, unwrap_taskOf]

theorem isVoidLike_iff {type : Text} : isVoidLike type = true ↔ type = void ∨ type = task := by
  simp [isVoidLike]

/-- Once a task around it is removed, a type is without a result in three cases only. -/
theorem IsType.isVoidLike_unwrap_iff {type : Text} (h : IsType type) :
    isVoidLike ( WrapperType.unwrap type) = true ↔ type = void ∨ type = task ∨ type = taskOf task := by
  rcases h with rfl | h
  · exact iff_of_true (by decide) (.inl rfl)
  · cases h with
    | taskOf h =>
      rw [unwrap_taskOf, isVoidLike_iff]
      constructor
      · rintro (rfl | rfl)
        · exact absurd rfl h.ne_void
        · exact .inr (.inr rfl)
      · rintro (heq | heq | heq)
        · exact absurd heq (IsValue.taskOf h).ne_void
        · exact absurd heq (taskOf_ne_task _)
        · exact .inr (taskOf_injective heq)
    | _ => decide

end WrapperType

/-! ## Methods -/

namespace Wrapper

open WrapperType (IsType IsValue void task taskOf)

/-- A method is without a result exactly if its function gives nothing, a task, or a task of a task. -/
theorem methodResult_eq_void_iff {f : JsFunction} (h : IsType f.result) :
    methodResult f = void ↔ f.result = void ∨ f.result = task ∨ f.result = taskOf task := by
  rw [← h.isVoidLike_unwrap_iff]
  unfold methodResult
  dsimp only
  split
  · rename_i hlike
    exact iff_of_true rfl hlike
  · rename_i hlike
    refine iff_of_false (fun heq => hlike ?_) hlike
    rw [heq]
    decide

theorem isValue_methodResult {f : JsFunction} (h : IsType f.result) (hvoid : methodResult f ≠ void) :
    IsValue (methodResult f) := by
  unfold methodResult at hvoid ⊢
  dsimp only at hvoid ⊢
  split at hvoid
  · exact absurd rfl hvoid
  · rename_i hlike
    rw [if_neg hlike]
    exact h.unwrap.resolve_left hvoid

end Wrapper

/-! ## Where types come from -/

open WrapperType (IsType IsValue void task taskOf)

namespace Parameter

theorem isType_nameAndType (tags : TypeTags) (t : Text) : IsType (nameAndType tags t).2 := by
  unfold nameAndType
  split
  · exact WrapperType.isType_ofAnnotation _
  · dsimp only
    split
    · exact WrapperType.isType_ofAnnotation _
    · exact .inr .object

theorem isType_ofSegment (tags : TypeTags) (segment : Text) : IsType (ofSegment tags segment).type := by
  unfold ofSegment
  dsimp only
  split
  · exact isType_nameAndType tags _
  · exact isType_nameAndType tags _

theorem isType_of_mem_ofList {tags : TypeTags} {list : Text} {p : Parameter}
    (h : p ∈ ofList tags list) : IsType p.type := by
  obtain ⟨segment, -, rfl⟩ := List.mem_map.1 h
  exact isType_ofSegment tags segment

end Parameter

/-- The types of a function: that of its result and those of its parameters. -/
def JsFunction.types (f : JsFunction) : List Text := f.result :: f.parameters.map Parameter.type

namespace Extraction

/-- The functions of a module are those that candidates are accepted as. -/
theorem mem_functions_iff {t source : Text} {f : JsFunction} :
    f ∈ (moduleOf source (outcomes t)).functions ↔ ∃ c ∈ Candidate.ofText t, build t c = .ok f := by
  rw [outcomes_eq]
  simp only [moduleOf, accepted, List.mem_filterMap, List.mem_map]
  constructor
  · rintro ⟨_, ⟨c, hc, rfl⟩, hf⟩
    cases hbuild : build t c with
    | ok g =>
      simp only [hbuild, Option.some.injEq] at hf
      exact ⟨c, hc, by rw [hbuild, hf]⟩
    | error r => simp [hbuild] at hf
  · rintro ⟨c, hc, hf⟩
    exact ⟨_, ⟨c, hc, rfl⟩, by simp [hf]⟩

/-- The types of a function that is accepted are types of the grammar. -/
theorem isType_of_build {t : Text} {c : Candidate} {f : JsFunction} (h : build t c = .ok f) :
    ∀ type ∈ f.types, IsType type := by
  obtain ⟨-, -, rfl⟩ := buildBelow_eq_ok_iff.1 h
  intro type htype
  rcases List.mem_cons.1 htype with rfl | htype
  · exact WrapperType.isType_ofAnnotation _
  · obtain ⟨p, hp, rfl⟩ := List.mem_map.1 htype
    exact Parameter.isType_of_mem_ofList hp

/-- **Only types of the grammar stand in a module.** Whatever a text says, every type of every function
of its module is void or a type of values. Its brackets are balanced, and void stands in it only as a
whole. The result of a method is void exactly if its function gives void, a task, or a task of a task,
and otherwise it is a type of values. -/
theorem types_of_module_in_grammar (t source : Text) (f : JsFunction)
    (hf : f ∈ (moduleOf source (outcomes t)).functions) :
    (∀ type ∈ f.types,
      IsType type ∧ WrapperType.closes [] type = true ∧ (void <:+: type → type = void)) ∧
    (Wrapper.methodResult f = void ↔
      f.result = void ∨ f.result = task ∨ f.result = taskOf task) ∧
    (Wrapper.methodResult f ≠ void → IsValue (Wrapper.methodResult f)) := by
  obtain ⟨c, -, hbuild⟩ := mem_functions_iff.1 hf
  have htypes := isType_of_build hbuild
  have hresult : IsType f.result := htypes f.result List.mem_cons_self
  refine ⟨fun type htype => ?_, Wrapper.methodResult_eq_void_iff hresult,
    Wrapper.isValue_methodResult hresult⟩
  have h := htypes type htype
  exact ⟨h, h.closes, h.eq_void_of_infix⟩

/-- A function whose result is a promise of a promise, and whose parameters are annotated with two
promises and with a promise of nothing. -/
def tangled : Text :=
  "/** @param \x7bPromise<a> | Promise<b>\x7d x\n@returns \x7bPromise<Promise>\x7d */\n".toList ++
    "function f(x, y: Promise<void>) \x7b".toList

/-- The function that it is extracted as. -/
def untangled : JsFunction where
  name := ['f']
  parameters := [⟨['x'], taskOf WrapperType.object, .required⟩, ⟨['y'], task, .required⟩]
  result := taskOf task
  documentation := ["@param \x7bPromise<a> | Promise<b>\x7d x".toList,
    "@returns \x7bPromise<Promise>\x7d".toList]

theorem tangled_accepted : untangled ∈ (moduleOf [] (outcomes tangled)).functions := by
  let c : Candidate := ⟨['f'], "x, y: Promise<void>".toList, [], 70, 103, false, .function⟩
  have hc : c ∈ Candidate.ofText tangled := by
    rw [Candidate.ofText_eq_functions (by decide +kernel)]
    decide +kernel
  refine mem_functions_iff.2 ⟨c, hc, ?_⟩
  decide +kernel

theorem types_of_tangled_in_grammar :
    untangled ∈ (moduleOf [] (outcomes tangled)).functions ∧
      Wrapper.methodResult untangled = void :=
  ⟨tangled_accepted, (types_of_module_in_grammar tangled [] untangled tangled_accepted).2.1.2
    (.inr (.inr rfl))⟩

end Extraction

end BlazorBridge
