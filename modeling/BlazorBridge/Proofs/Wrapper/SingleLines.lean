import BlazorBridge.Proofs.Parameter.Rendering
import BlazorBridge.Proofs.Parameter.Segment
import BlazorBridge.Proofs.WrapperType.Grammar
import BlazorBridge.Wrapper

/-!
# One line each

The lines of a class are joined by line feeds, so a reader can tell them apart only if none of them
holds one. Names in Pascal case hold none, because no letter has a line feed for its capital or small
form; types hold none by their grammar; default values and documentation are taken as given. Main
statement: no line of a method holds a line feed (`not_mem_method`).
-/

namespace BlazorBridge

/-! ## Letter case -/

theorem ofNat_ne_lineFeed {n : Nat} (h : 10 < n) : Char.ofNat n ≠ '\n' := by
  intro heq
  have hn : (Char.ofNat n).toNat = 10 := congrArg Char.toNat heq
  unfold Char.ofNat at hn
  by_cases hvalid : n.isValidChar
  · rw [dif_pos hvalid] at hn
    change n = 10 at hn
    omega
  · rw [dif_neg hvalid] at hn
    exact absurd hn (by decide)

/-- A letter that a table moves lands above a bound that all its runs land above. -/
theorem CaseRun.lt_of_find? {runs : List CaseRun} {k n m : Nat}
    (h : ∀ run ∈ runs, (k : Int) < run.first + run.shift) (hm : find? runs n = some m) : k < m := by
  induction runs with
  | nil => simp [find?] at hm
  | cons run runs ih =>
    have hrun := h run (by simp)
    rw [find?] at hm
    split at hm
    · simp at hm
    · split at hm
      · obtain rfl := Option.some.inj hm
        omega
      · exact ih (fun r hr => h r (by simp [hr])) hm

theorem not_mem_capital {c : Char} (h : c ≠ '\n') : '\n' ∉ capital c := by
  unfold capital
  split
  · rename_i codes hcodes
    obtain ⟨before, after, heq, -⟩ := List.lookup_eq_some_iff.1 hcodes
    have htable : ∀ e ∈ longCapitals, ∀ n ∈ e.2, 10 < n := by decide +kernel
    intro hmem
    obtain ⟨n, hn, hc⟩ := List.mem_map.1 hmem
    exact ofNat_ne_lineFeed (htable (c.toNat, codes) (by simp [heq]) n hn) hc
  · split
    · rename_i n hn
      have htable : ∀ run ∈ capitalRuns, ((10 : Nat) : Int) < run.first + run.shift := by
        decide +kernel
      have hlt : 10 < n := CaseRun.lt_of_find? htable hn
      simpa using (ofNat_ne_lineFeed hlt).symm
    · simpa using h.symm

theorem not_mem_small {c : Char} (h : c ≠ '\n') : '\n' ∉ small c := by
  unfold small
  split
  · decide
  · split
    · rename_i n hn
      have htable : ∀ run ∈ smallRuns, ((10 : Nat) : Int) < run.first + run.shift := by
        decide +kernel
      have hlt : 10 < n := CaseRun.lt_of_find? htable hn
      simpa using (ofNat_ne_lineFeed hlt).symm
    · simpa using h.symm

theorem Text.not_mem_lowerAfter {t : Text} (h : '\n' ∉ t) (cased : Bool) :
    '\n' ∉ Text.lowerAfter cased t := by
  induction t generalizing cased with
  | nil => simp [lowerAfter]
  | cons c t ih =>
    rw [List.mem_cons, not_or] at h
    simp only [lowerAfter, List.mem_append, not_or]
    refine ⟨?_, ih h.2 _⟩
    split
    · split <;> decide
    · exact not_mem_small (Ne.symm h.1)

namespace Naming

theorem not_mem_capitalize {t : Text} (h : '\n' ∉ t) : '\n' ∉ capitalize t := by
  cases t with
  | nil => simp [capitalize]
  | cons c t =>
    rw [List.mem_cons, not_or] at h
    rw [capitalize, List.mem_append, not_or]
    exact ⟨not_mem_capital (Ne.symm h.1), Text.not_mem_lowerAfter h.2 false⟩

/-- The words of a name are parts of it, and their letters stay on the line. -/
theorem not_mem_pascalCase {name : Text} : '\n' ∉ pascalCase name := by
  rw [pascalCase, List.mem_flatMap]
  rintro ⟨word, hword, hmem⟩
  have hsplit : word ∈ Text.split isSeparator name := (List.mem_filter.1 hword).1
  refine not_mem_capitalize (fun hn => ?_) hmem
  have := Text.not_sep_of_mem_split hsplit hn
  exact absurd this (by decide)

theorem not_mem_escape {name : Text} {c : Char} (hat : c ≠ '@') (h : c ∉ name) :
    c ∉ escape name := by
  unfold escape
  split
  · simp [hat, h]
  · exact h

end Naming

/-! ## Default values -/

/-- A character that no other character is replaced by is in the replaced text only where it was
before. -/
theorem Text.not_mem_flatMap {c : Char} {replace : Char → Text} (hr : ∀ d, d ≠ c → c ∉ replace d)
    {t : Text} (h : c ∉ t) : c ∉ t.flatMap replace := by
  rw [List.mem_flatMap]
  rintro ⟨d, hd, hmem⟩
  exact hr d (fun hdc => h (hdc ▸ hd)) hmem

namespace Default

theorem bareQuotes_subset (t : Text) : bareQuotes t ⊆ t := by
  fun_induction bareQuotes t with
  | case1 => exact List.Subset.refl _
  | case2 rest ih =>
    exact List.cons_subset.2 ⟨by simp, List.Subset.trans ih (by simp)⟩
  | case3 c rest _ ih => exact List.cons_subset_cons c ih

theorem unquote?_subset {t inner : Text} (h : unquote? t = some inner) : inner ⊆ t := by
  obtain ⟨quote, -, rfl⟩ := unquote?_eq_some_iff.1 h
  exact List.Subset.trans (List.subset_append_left inner [quote]) (List.subset_cons_self quote _)

/-- A default value without line feeds is written without them. -/
theorem not_mem_render {written : Text} (h : '\n' ∉ written) : '\n' ∉ render written := by
  have hvalue : '\n' ∉ Text.trim written := fun hmem => h ((Text.infix_trim written).subset hmem)
  unfold render
  dsimp only
  split
  · exact hvalue
  · split
    · decide
    · split
      · rename_i inner hinner
        have hinner' : '\n' ∉ bareQuotes inner := fun hmem =>
          hvalue (unquote?_subset hinner (bareQuotes_subset inner hmem))
        have hescaped : '\n' ∉ escapeQuotes (bareQuotes inner) := by
          refine Text.not_mem_flatMap (fun d hd => ?_) hinner'
          split
          · decide
          · simpa using hd.symm
        simp [hescaped]
      · split
        · exact hvalue
        · decide

end Default

/-! ## What is written -/

theorem isWord_of_smallLetter {c : Char} (h : 0x61 ≤ c.toNat ∧ c.toNat < 0x7b) : isWord c = true := by
  have hinside (later : List Nat) : CharSet.inside false
      (0x30 :: 0x3a :: 0x41 :: 0x5b :: 0x5f :: 0x60 :: 0x61 :: 0x7b :: later) c.toNat = true := by
    simp only [CharSet.inside]
    rw [if_neg (by omega), if_neg (by omega), if_neg (by omega), if_neg (by omega),
      if_neg (by omega), if_neg (by omega), if_neg (by omega), if_pos h.2]
    rfl
  exact hinside (wordCharacters.changes.drop 8)

/-- Small letters and dollar signs make a run. -/
theorem Parameter.isRun_of_smallLetters {t : Text} (hne : t ≠ [])
    (h : (t.all fun c => c == '$' || (0x61 ≤ c.toNat && c.toNat < 0x7b)) = true) : IsRun t := by
  refine ⟨hne, fun c hc => ?_⟩
  have hc := List.all_eq_true.1 h c hc
  simp only [Bool.or_eq_true, beq_iff_eq, Bool.and_eq_true, decide_eq_true_eq] at hc
  rcases hc with rfl | hletter
  · simp [isNameChar]
  · simp [isNameChar, isWord_of_smallLetter hletter]

/-- A parameter whose name is a run of name characters, whose type comes from an annotation, and whose
default value stands on one line. -/
structure Parameter.Plain (p : Parameter) : Prop where
  name : Parameter.IsRun p.name
  type : ∃ written, p.type = WrapperType.ofAnnotation written
  default : ∀ value, p.default? = some value → '\n' ∉ value

/-- A function with a name and parameters of that kind, whose result type comes from an annotation, and
whose documentation is made of lines. -/
structure JsFunction.Plain (f : JsFunction) : Prop where
  name : Parameter.IsRun f.name
  parameters : ∀ p ∈ f.parameters, p.Plain
  result : ∃ written, f.result = WrapperType.ofAnnotation written
  documentation : ∀ line ∈ f.documentation, '\n' ∉ line

theorem Parameter.Plain.isType {p : Parameter} (h : p.Plain) : WrapperType.IsType p.type := by
  obtain ⟨written, hw⟩ := h.type
  rw [hw]
  exact WrapperType.isType_ofAnnotation written

namespace Wrapper

theorem isType_methodResult {f : JsFunction} (h : f.Plain) : WrapperType.IsType (methodResult f) := by
  obtain ⟨written, hw⟩ := h.result
  unfold methodResult
  dsimp only
  split
  · exact .inl rfl
  · rw [hw]
    exact ( WrapperType.isType_ofAnnotation written).unwrap

theorem not_mem_escapeMarkup {t : Text} (h : '\n' ∉ t) : '\n' ∉ escapeMarkup t := by
  refine Text.not_mem_flatMap (fun d hd => ?_) h
  split
  · decide
  · split
    · decide
    · split
      · decide
      · simpa using hd.symm

theorem not_mem_summary {documentation : List Text} (h : ∀ line ∈ documentation, '\n' ∉ line) :
    ∀ line ∈ summary documentation, '\n' ∉ line := by
  intro line hline
  unfold summary at hline
  split at hline
  · simp at hline
  · simp only [List.mem_append, List.mem_singleton, List.mem_map] at hline
    rcases hline with (rfl | ⟨raw, hraw, rfl⟩) | rfl
    · decide
    · rw [List.mem_append, not_or]
      exact ⟨by decide, not_mem_escapeMarkup (h raw hraw)⟩
    · decide

theorem not_mem_parameterNote {p : Parameter} (h : p.Plain) : '\n' ∉ parameterNote p := by
  have hname : '\n' ∉ p.name := h.name.not_mem (by decide)
  have htype : '\n' ∉ escapeMarkup p.type := not_mem_escapeMarkup (h.isType.not_mem (by decide))
  have hfront : '\n' ∉ "/// <param name=\"".toList ++ p.name := List.not_mem_append (by decide) hname
  exact List.not_mem_append
    (List.not_mem_append (List.not_mem_append hfront (by decide)) htype) (by decide)

theorem not_mem_parameter {p : Parameter} (h : p.Plain) : '\n' ∉ parameter p := by
  have hname : '\n' ∉ Naming.escape p.name :=
    Naming.not_mem_escape (by decide) (h.name.not_mem (by decide))
  have htype : '\n' ∉ p.type := h.isType.not_mem (by decide)
  have hdefault := h.default
  unfold Parameter.default? at hdefault
  unfold parameter
  split
  · simp [htype, hname]
  · rename_i value hvalue
    rw [hvalue] at hdefault
    have hnullable : '\n' ∉ nullable p.type := by
      unfold nullable
      split
      · exact htype
      · simp [htype]
    have hrendered : '\n' ∉ (value.map Default.render).getD "null".toList := by
      cases value with
      | none => decide
      | some value => exact Default.not_mem_render (hdefault value rfl)
    have htyped : '\n' ∉ nullable p.type ++ [' '] ++ Naming.escape p.name :=
      List.not_mem_append (List.not_mem_append hnullable (by decide)) hname
    exact List.not_mem_append (List.not_mem_append htyped (by decide)) hrendered

theorem not_mem_head {f : JsFunction} (h : f.Plain) : '\n' ∉ head f := by
  have hresult : '\n' ∉ methodResult f := (isType_methodResult h).not_mem (by decide)
  have htask : '\n' ∉ if methodResult f = WrapperType.void then WrapperType.task
      else WrapperType.taskOf (methodResult f) := by
    split
    · decide
    · exact List.not_mem_append (List.not_mem_append (by decide) hresult) (by decide)
  have hparameters : '\n' ∉ Text.join ", ".toList (f.parameters.map parameter) := by
    refine Text.not_mem_join (by decide) fun row hrow => ?_
    obtain ⟨p, hp, rfl⟩ := List.mem_map.1 hrow
    exact not_mem_parameter (h.parameters p hp)
  have hname : '\n' ∉ methodName f := by
    rw [methodName, List.mem_append, not_or]
    exact ⟨Naming.not_mem_pascalCase, by decide⟩
  have hfront : '\n' ∉ "public async ".toList ++ (if methodResult f = WrapperType.void
      then WrapperType.task else WrapperType.taskOf (methodResult f)) ++ [' '] ++ methodName f :=
    List.not_mem_append (List.not_mem_append (List.not_mem_append (by decide) htask) (by decide))
      hname
  exact List.not_mem_append
    (List.not_mem_append (List.not_mem_append hfront (by decide)) hparameters) (by decide)

/-- What is called, and with what. -/
def target (f : JsFunction) : Text :=
  "(\"".toList ++ f.name ++ "\", _modulePath".toList ++
    (f.parameters.flatMap fun p => ", ".toList ++ Naming.escape p.name) ++ ");".toList

/-- A call is made in one of two ways, according to its result. -/
theorem call_eq (f : JsFunction) :
    call f =
      if methodResult f = WrapperType.void then
        "await _jsRuntime.InvokeVoidAsync".toList ++ target f
      else
        "return await _jsRuntime.InvokeAsync<".toList ++ methodResult f ++ ">".toList ++ target f :=
  rfl

theorem not_mem_call {f : JsFunction} (h : f.Plain) : '\n' ∉ call f := by
  have hresult : '\n' ∉ methodResult f := (isType_methodResult h).not_mem (by decide)
  have harguments : '\n' ∉ f.parameters.flatMap fun p => ", ".toList ++ Naming.escape p.name := by
    rw [List.mem_flatMap]
    rintro ⟨p, hp, hmem⟩
    rcases List.mem_append.1 hmem with hmem | hmem
    · exact absurd hmem (by decide)
    · exact Naming.not_mem_escape (by decide) ((h.parameters p hp).name.not_mem (by decide)) hmem
  have hname : '\n' ∉ f.name := h.name.not_mem (by decide)
  have htarget : '\n' ∉ target f :=
    List.not_mem_append (List.not_mem_append (List.not_mem_append
      (List.not_mem_append (by decide) hname) (by decide)) harguments) (by decide)
  rw [call_eq]
  split
  · exact List.not_mem_append (by decide) htarget
  · exact List.not_mem_append
      (List.not_mem_append (List.not_mem_append (by decide) hresult) (by decide)) htarget

/-- No line of a method holds a line feed. -/
theorem not_mem_method {f : JsFunction} (h : f.Plain) : ∀ line ∈ method f, '\n' ∉ line := by
  intro line hline
  simp only [method, List.mem_append, List.mem_map, List.mem_cons, List.not_mem_nil,
    or_false] at hline
  rcases hline with (hline | ⟨p, hp, rfl⟩) | rfl | rfl | rfl | rfl
  · exact not_mem_summary h.documentation line hline
  · exact not_mem_parameterNote (h.parameters p hp)
  · exact not_mem_head h
  · decide
  · exact List.not_mem_append (by decide) (not_mem_call h)
  · decide

end Wrapper

end BlazorBridge
