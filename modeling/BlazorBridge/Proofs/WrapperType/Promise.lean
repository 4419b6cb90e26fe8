import BlazorBridge.Proofs.Extraction.Types

/-!
# Promises

The type of a promise is a task around the type of its content (`ofAnnotation_promiseOf`), whatever the
content says: brackets that do not match and white space at its ends are no exception, and a task of
nothing is a bare task.

Main statement (`promise_transparent`): removing a layer of task from the type of a promise gives the
type of its content. The methods of two functions, one declared with a content and one with the promise
of it, have the same result exactly if the content is not itself a promise of something. One layer is
removed for the method, so a promise within a promise shows.
-/

namespace BlazorBridge

namespace WrapperType

/-- The annotation for a promise of what another annotation stands for. -/
def promiseOf (content : Text) : Text := "Promise<".toList ++ content ++ ['>']

/-- No white space stands at the ends of a promise, whatever its content is. -/
theorem trim_promiseOf (content : Text) : Text.trim (promiseOf content) = promiseOf content :=
  Text.trim_framed (by decide) (by decide) ("romise<".toList ++ content)

/-- A promise is a task around the type of its content, and a bare task if that is void. -/
theorem ofAnnotation_promiseOf (content : Text) :
    ofAnnotation (promiseOf content) =
      if ofAnnotation content = void then task else taskOf ( ofAnnotation content) := by
  have henclosed : enclosed "Promise<".toList (Text.trim (promiseOf content)) = some content := by
    rw [trim_promiseOf]
    exact enclosed_eq_some_iff.2 rfl
  rw [ ofAnnotation]
  split
  · rename_i inner hinner
    rw [henclosed, Option.some.injEq] at hinner
    rw [hinner]
  · rename_i hnone
    rw [henclosed] at hnone
    exact absurd hnone (by simp)

/-- The task of a promise is removed again. -/
theorem unwrap_ofAnnotation_promiseOf (content : Text) :
    unwrap ( ofAnnotation (promiseOf content)) = ofAnnotation content := by
  rw [ ofAnnotation_promiseOf]
  split
  · rename_i hvoid
    rw [hvoid]
    rfl
  · exact unwrap_taskOf _

/-- Where there is no layer of task, none is removed. -/
theorem unwrap_eq_self {type : Text} (hbare : type ≠ task) (hlayer : ¬ ∃ inner, type = taskOf inner) :
    unwrap type = type := by
  have hnone : enclosed "Task<".toList type = none := by
    rw [Option.eq_none_iff_forall_not_mem]
    intro inner hinner
    exact hlayer ⟨inner, enclosed_eq_some_iff.1 hinner⟩
  rw [unwrap, if_neg hbare, hnone, Option.getD_none]

end WrapperType

namespace Wrapper

open WrapperType (promiseOf ofAnnotation isVoidLike unwrap void task taskOf)

/-- The result of a method is the type that is left once a task is removed; void if that is a task. -/
theorem methodResult_eq (f : JsFunction) :
    methodResult f = if isVoidLike (unwrap f.result) then void else unwrap f.result := rfl

theorem isVoidLike_taskOf (inner : Text) : isVoidLike (taskOf inner) = false := by
  rw [Bool.eq_false_iff, Ne, WrapperType.isVoidLike_iff, not_or]
  exact ⟨WrapperType.taskOf_ne_void inner, WrapperType.taskOf_ne_task inner⟩

/-- A layer of task is always seen in what is left of a type. -/
theorem taskOf_ne_result (inner : Text) :
    taskOf inner ≠ if isVoidLike inner then void else inner := by
  split
  · exact WrapperType.taskOf_ne_void inner
  · intro h
    have hlength := congrArg List.length h
    rw [WrapperType.length_taskOf] at hlength
    omega

/-- **A promise is transparent.** Its task is removed again, whatever its content. A function that is
declared with a content and one that is declared with the promise of it have methods with the same
result, exactly if the type of the content is not a task of something. -/
theorem promise_transparent (content : Text) :
    unwrap ( ofAnnotation (promiseOf content)) = ofAnnotation content ∧
    ∀ f g : JsFunction, f.result = ofAnnotation content → g.result = ofAnnotation (promiseOf content) →
      (methodResult f = methodResult g ↔ ¬ ∃ inner, ofAnnotation content = taskOf inner) := by
  have hunwrap := WrapperType.unwrap_ofAnnotation_promiseOf content
  refine ⟨hunwrap, fun f g hf hg => ?_⟩
  rw [methodResult_eq, methodResult_eq, hf, hg, hunwrap]
  generalize ofAnnotation content = type
  constructor
  · rintro h ⟨inner, rfl⟩
    rw [isVoidLike_taskOf, WrapperType.unwrap_taskOf] at h
    exact taskOf_ne_result inner h.symm
  · intro hlayer
    by_cases hbare : type = task
    · subst hbare
      rfl
    · rw [WrapperType.unwrap_eq_self hbare hlayer]

/-- A bare promise counts as a promise of nothing, so one around it changes nothing. One around a promise
of a text does. -/
theorem promise_transparent_bare :
    unwrap ( ofAnnotation "Promise< Promise\t>".toList) = task ∧
    methodResult ⟨['f'], [], ofAnnotation " Promise\t".toList, false, []⟩ =
      methodResult ⟨['g'], [], ofAnnotation "Promise< Promise\t>".toList, false, []⟩ ∧
    methodResult ⟨['f'], [], ofAnnotation "Promise<string>".toList, false, []⟩ ≠
      methodResult ⟨['g'], [], ofAnnotation "Promise<Promise<string>>".toList, false, []⟩ := by
  obtain ⟨hbare, hsame⟩ := promise_transparent " Promise\t".toList
  obtain ⟨-, hlayer⟩ := promise_transparent "Promise<string>".toList
  have htask : ofAnnotation " Promise\t".toList = task := by decide +kernel
  have hstring : ofAnnotation "Promise<string>".toList = taskOf "string".toList := by decide +kernel
  refine ⟨hbare.trans htask, (hsame _ _ rfl rfl).2 ?_, fun h => (hlayer _ _ rfl rfl).1 h ⟨_, hstring⟩⟩
  rintro ⟨inner, h⟩
  exact WrapperType.taskOf_ne_task inner (h.symm.trans htask)

end Wrapper

end BlazorBridge
