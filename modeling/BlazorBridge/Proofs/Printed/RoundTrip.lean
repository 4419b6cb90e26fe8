import BlazorBridge.Proofs.Declaration.Barriers
import BlazorBridge.Proofs.Declaration.Overlaps
import BlazorBridge.Proofs.Parameter.Names
import BlazorBridge.Proofs.Printed.Block
import BlazorBridge.Proofs.WrapperType.Grammar

/-!
# Printed functions are extracted

Main statement (`printed_extracted`): whatever functions are printed one after another, extraction
rejects nothing and gives them back, one for each specification and in order.

Of a printed function only its head is a declaration: the block in front of it and the brace behind
it are barred, and a head holds no equals sign in front of its parameters, so nothing is an arrow.
-/

namespace BlazorBridge

/-! ## Reading types back -/

/-- Where no key stands twice, looking from the end finds the same. -/
theorem lookup_reverse {α : Type} {l : List (Text × α)} (h : (l.map Prod.fst).Nodup) (key : Text) :
    l.reverse.lookup key = l.lookup key := by
  induction l with
  | nil => rfl
  | cons e l ih =>
    obtain ⟨k, a⟩ := e
    obtain ⟨hk, hl⟩ := List.nodup_cons.1 h
    rw [List.reverse_cons, List.lookup_append, ih hl]
    by_cases heq : key = k
    · subst heq
      have hnone : l.lookup key = none := by
        rw [List.lookup_eq_none_iff]
        intro e he
        rw [bne_iff_ne]
        rintro rfl
        exact hk (List.mem_map.2 ⟨e, he, rfl⟩)
      simp [hnone]
    · have hne : (key == k) = false := beq_eq_false_iff_ne.2 heq
      simp [List.lookup_cons, hne]

theorem lookup_map_snd {α β : Type} (f : α → β) (l : List (Text × α)) (key : Text) :
    (l.map fun e => (e.1, f e.2)).lookup key = (l.lookup key).map f := by
  induction l with
  | nil => rfl
  | cons e l ih =>
    rw [List.map_cons, List.lookup_cons, List.lookup_cons, ih]
    split <;> rfl

namespace FunctionSpec

theorem parameter?_stated (s : FunctionSpec) (name : Text) :
    s.stated.parameter? name = (s.types.lookup name).map fun r => Text.trim r.text := by
  have hkeys : (s.types.map fun e => (e.1, Text.trim e.2.text)).map Prod.fst =
      s.types.map Prod.fst := by
    rw [List.map_map]
    rfl
  unfold TypeTags.parameter? stated
  rw [lookup_reverse (by rw [hkeys]; exact s.assignedOnce)]
  exact lookup_map_snd (fun r => Text.trim r.text) s.types name

/-- A parameter has the type of its tag. -/
theorem typeOf_stated (s : FunctionSpec) (name : Text) :
    (⟨name, Parameter.typeOf s.stated name, .required⟩ : Parameter) = s.parameter name := by
  have hstated := s.parameter?_stated name
  unfold parameter
  cases hlookup : s.types.lookup name with
  | none =>
    rw [hlookup, Option.map_none] at hstated
    rw [Parameter.typeOf, hstated]
  | some r =>
    rw [hlookup, Option.map_some] at hstated
    rw [Parameter.typeOf_of_stated hstated r.trim_ne_nil, WrapperType.ofAnnotation_trim]

theorem stated_stated (s : FunctionSpec) : s.stated.stated = true := by
  unfold TypeTags.stated stated
  rcases s.documented with h | h
  · simp [h]
  · obtain ⟨r, hr⟩ := Option.isSome_iff_exists.1 h
    have hne := r.trim_ne_nil
    simp [hr, hne]

/-- The result of a function without annotation has the type of its tag. -/
theorem resultType_stated (s : FunctionSpec) {c : Candidate} (h : c.result = []) :
    Extraction.resultType s.stated c = s.resultType := by
  have hvoid : WrapperType.ofAnnotation [] = WrapperType.void := by
    unfold WrapperType.ofAnnotation
    rfl
  unfold Extraction.resultType resultType stated
  rw [h]
  dsimp only
  cases s.result with
  | none => exact hvoid
  | some r => exact WrapperType.ofAnnotation_trim r.text

/-! ## Where the printed functions are found -/

/-- The signature of a printed function. -/
def signature (s : FunctionSpec) : Signature where
  name := s.name
  parameters := Text.join ", ".toList s.parameters
  result := []
  isAsync := s.isAsync

/-- What is printed behind the head of a function. -/
def closing : Text := "\n\x7d\n\n".toList

theorem print_eq (s : FunctionSpec) : s.print = Text.ofLines s.block ++ (s.head ++ closing) := by
  have hclosing : Text.ofLines [s.head, "\x7d".toList, []] = s.head ++ closing := by
    simp [Text.ofLines, closing]
  rw [print, Text.ofLines_append, hclosing]

theorem printAll_cons (s : FunctionSpec) (specs : List FunctionSpec) :
    printAll (s :: specs) = s.print ++ printAll specs := List.flatMap_cons

theorem not_mem_parameters (s : FunctionSpec) {c : Char} (hsep : c ∉ ", ".toList)
    (hc : isWord c = false) : c ∉ Text.join ", ".toList s.parameters :=
  Text.not_mem_join hsep fun p hp => (s.areNames p hp).not_mem hc

theorem not_mem_lead (s : FunctionSpec) {c : Char} (hword : isWord c = false) (hc : c ≠ ' ') :
    c ∉ s.lead := by
  have hfixed : ∀ w ∈ ["export ".toList, "async ".toList, "function ".toList],
      (w.all fun c => isWord c || c == ' ') = true := by decide
  have hout : ∀ w ∈ ["export ".toList, "async ".toList, "function ".toList], c ∉ w := by
    intro w hw hmem
    have hall := List.all_eq_true.1 (hfixed w hw) c hmem
    simp [hword, hc] at hall
  unfold lead
  simp only [List.mem_append, not_or]
  refine ⟨⟨⟨?_, ?_⟩, hout _ (by simp)⟩, s.isName.not_mem hword⟩
  · split
    · exact hout _ (by simp)
    · simp
  · split
    · exact hout _ (by simp)
    · simp

/-- The head of a printed function is a function of the grammar. -/
theorem functionForm_head (s : FunctionSpec) : Signature.FunctionForm s.signature s.head := by
  have hoptional : ∀ (word : Text) (given : Bool),
      Signature.OptionalForm word given (if given then word ++ [' '] else []) := by
    intro word given
    cases given with
    | false => exact .absent
    | true => exact .given ⟨[' '], isGap_space, rfl⟩
  have hkeyword : Signature.KeywordForm "function".toList ("function".toList ++ [' ']) :=
    ⟨[' '], isGap_space, rfl⟩
  have hlist : ')' ∉ s.signature.parameters := s.not_mem_parameters (by decide) (by decide)
  have hform := Signature.FunctionForm.intro (s := s.signature)
    (hoptional "export".toList s.isExported) (hoptional "async".toList s.isAsync) hkeyword s.isName
    (show Text.isBlank [] = true from rfl) hlist (show Text.isBlank [' '] = true by decide)
    Signature.ResultForm.absent (show Text.isBlank [] = true from rfl)
  have hhead : s.head = [if s.isExported then "export".toList ++ [' '] else [],
      if s.isAsync then "async".toList ++ [' '] else [], "function".toList ++ [' '],
      s.signature.name, [], ['('], s.signature.parameters, [')'], [' '], [], [],
      ['\x7b']].flatten := by
    unfold head lead signature
    cases s.isExported <;> cases s.isAsync <;> simp
  rw [hhead]
  exact hform

/-- The end of a documentation block. -/
theorem ofLines_block (s : FunctionSpec) :
    Text.ofLines s.block =
      Text.ofLines (["/**".toList] ++ s.tags.map (" * ".toList ++ ·)) ++ " *".toList ++
        '/' :: ['\n'] := by
  rw [block, Text.ofLines_append, List.append_assoc]
  rfl

section

variable {read : Text → Option (Signature × Text)} {form : Signature → Text → Text → Prop}

/-- No declaration begins in a documentation block: its last character but one bars all before it. -/
theorem scanFrom_block (shape : Shape) (h : Signature.Reads read form) (ho : Signature.Opens form)
    (s : FunctionSpec) (before rest : Text) :
    Place.scanFrom (Candidate.atPlace shape read) 0 before (Text.ofLines s.block ++ rest) =
      Place.scanFrom (Candidate.atPlace shape read) 0 ((Text.ofLines s.block).reverse ++ before)
        rest := by
  have hrows : ∀ row ∈ ["/**".toList] ++ s.tags.map (" * ".toList ++ ·), '(' ∉ row := by
    intro row hrow
    rcases List.mem_append.1 hrow with hrow | hrow
    · rw [List.mem_singleton.1 hrow]
      decide
    · obtain ⟨tag, htag, rfl⟩ := List.mem_map.1 hrow
      rw [List.mem_append, not_or]
      exact ⟨by decide, not_mem_tag htag (by decide)⟩
  have hparen : '(' ∉ Text.ofLines (["/**".toList] ++ s.tags.map (" * ".toList ++ ·)) ++
      " *".toList := by
    rw [List.mem_append, not_or]
    refine ⟨?_, by decide⟩
    intro hmem
    obtain ⟨row, hrow, hc⟩ := List.mem_flatMap.1 hmem
    rcases List.mem_append.1 hc with hc | hc
    · exact hrows row hrow hc
    · exact absurd hc (by decide)
  rw [ofLines_block]
  exact Candidate.scanFrom_barred shape h ho hparen (by decide) (by decide) (by decide) before rest

/-- No declaration begins behind a part without parentheses that the closing brace ends. -/
theorem scanFrom_closing (shape : Shape) (h : Signature.Reads read form) (ho : Signature.Opens form)
    {u : Text} (hu : '(' ∉ u) (before rest : Text) :
    Place.scanFrom (Candidate.atPlace shape read) 0 before (u ++ closing ++ rest) =
      Place.scanFrom (Candidate.atPlace shape read) 0 ((u ++ closing).reverse ++ before) rest := by
  have hclosing : u ++ closing = (u ++ ['\n']) ++ '\x7d' :: "\n\n".toList := by
    rw [List.append_assoc]
    rfl
  have hparen : '(' ∉ u ++ ['\n'] := by
    rw [List.mem_append, not_or]
    exact ⟨hu, by decide⟩
  rw [hclosing]
  exact Candidate.scanFrom_barred shape h ho hparen (by decide) (by decide) (by decide) before rest

end

/-- A printed function adds its head to a scan for functions. -/
theorem scanFrom_function_print (s : FunctionSpec) (before rest : Text) :
    Place.scanFrom (Candidate.atPlace .function Signature.function?) 0 before.reverse
        (s.print ++ rest) =
      Candidate.ofMatch .function (before ++ Text.ofLines s.block ++ (s.head ++ (closing ++ rest)))
          ⟨(before ++ Text.ofLines s.block).length, s.signature,
            (before ++ Text.ofLines s.block).length + s.head.length⟩ ::
        Place.scanFrom (Candidate.atPlace .function Signature.function?) 0
          (before ++ s.print).reverse rest := by
  have hbound : WordBoundary (before ++ Text.ofLines s.block) (s.head ++ (closing ++ rest)) := by
    obtain ⟨c, u, hcu, hc⟩ := s.functionForm_head.eq_cons
    have hword : isWord '\n' = false := by decide
    rw [hcu, List.cons_append, ← Candidate.startsWithWord_reverse_iff hc, ofLines_block]
    simpa [Text.startsWithWord] using hword
  have hne : s.head ≠ [] := by
    obtain ⟨c, u, hcu, -⟩ := s.functionForm_head.eq_cons
    rw [hcu]
    simp
  have hread := Candidate.atPlace_append .function Signature.reads_function hbound s.functionForm_head
  have hclosing := scanFrom_closing .function Signature.reads_function Signature.opens_function
    (u := []) (by simp) (s.head.reverse ++ (before ++ Text.ofLines s.block).reverse) rest
  rw [List.nil_append] at hclosing
  rw [print_eq, List.append_assoc, List.append_assoc,
    scanFrom_block .function Signature.reads_function Signature.opens_function, ← List.reverse_append,
    Place.scanFrom_append_of_some hne hread, hclosing]
  simp only [List.reverse_append, List.append_assoc]

/-- A printed function adds nothing to a scan for arrows. -/
theorem scanFrom_arrow_print (s : FunctionSpec) (before rest : Text) :
    Place.scanFrom (Candidate.atPlace .arrow Signature.arrow?) 0 before (s.print ++ rest) =
      Place.scanFrom (Candidate.atPlace .arrow Signature.arrow?) 0 (s.print.reverse ++ before)
        rest := by
  have hparen : '(' ∉ Text.join ", ".toList s.parameters ++ ") \x7b".toList := by
    rw [List.mem_append, not_or]
    exact ⟨s.not_mem_parameters (by decide) (by decide), by decide⟩
  have hprint : s.print = Text.ofLines s.block ++ ((s.lead ++ ['(']) ++
      (Text.join ", ".toList s.parameters ++ ") \x7b".toList ++ closing)) := by
    have hopen : "(".toList = ['('] := rfl
    rw [print_eq, head, hopen]
    simp only [List.append_assoc]
  rw [hprint, List.append_assoc, List.append_assoc,
    scanFrom_block .arrow Signature.reads_arrow Signature.opens_arrow,
    Candidate.scanFrom_unbound (s.not_mem_lead (by decide) (by decide))
      (s.not_mem_lead (by decide) (by decide)),
    scanFrom_closing .arrow Signature.reads_arrow Signature.opens_arrow hparen]
  simp only [List.reverse_append, List.append_assoc]

/-- A candidate is the head of a printed function in a text. -/
structure Located (t : Text) (s : FunctionSpec) (c : Candidate) : Prop where
  place : ∃ above below, t = above ++ Text.ofLines s.block ++ below ∧ Clear above ∧
    c.start = (above ++ Text.ofLines s.block).length
  name : c.name = s.name
  parameters : c.parameters = Text.join ", ".toList s.parameters
  result : c.result = []
  async : s.isAsync = true → c.isAsync = true

theorem clear_print (above : Text) (s : FunctionSpec) : Clear (above ++ s.print) := by
  refine Or.inr ⟨above ++ (Text.ofLines s.block ++ (s.head ++ ['\n', '\x7d'])), ?_⟩
  have hclosing : closing = ['\n', '\x7d'] ++ "\n\n".toList := rfl
  rw [print_eq, hclosing]
  simp only [List.append_assoc]

/-- A scan for functions finds the heads of the printed functions. -/
theorem scanFrom_function_printAll (specs : List FunctionSpec) {before : Text} (h : Clear before) :
    List.Forall₂ (Located (before ++ printAll specs)) specs
      (Place.scanFrom (Candidate.atPlace .function Signature.function?) 0 before.reverse
        (printAll specs)) := by
  induction specs generalizing before with
  | nil => exact List.Forall₂.nil
  | cons s specs ih =>
    have hplace : before ++ s.print ++ printAll specs =
        before ++ Text.ofLines s.block ++ (s.head ++ (closing ++ printAll specs)) := by
      rw [print_eq]
      simp only [List.append_assoc]
    rw [printAll_cons, ← List.append_assoc, scanFrom_function_print]
    refine List.Forall₂.cons ?_ (ih (clear_print before s))
    refine ⟨⟨before, s.head ++ (closing ++ printAll specs), hplace, h, rfl⟩, rfl, rfl, rfl, ?_⟩
    intro hasync
    simp [Candidate.ofMatch, signature, hasync]

/-- A scan for arrows finds nothing. -/
theorem scanFrom_arrow_printAll (specs : List FunctionSpec) (before : Text) :
    Place.scanFrom (Candidate.atPlace .arrow Signature.arrow?) 0 before (printAll specs) = [] := by
  induction specs generalizing before with
  | nil => rfl
  | cons s specs ih => rw [printAll_cons, scanFrom_arrow_print, ih]

/-- The candidates in printed functions are their heads, in order. -/
theorem ofText_printAll (specs : List FunctionSpec) :
    List.Forall₂ (Located (printAll specs)) specs (Candidate.ofText (printAll specs)) := by
  have harrows : Candidate.arrows (printAll specs) = [] := scanFrom_arrow_printAll specs []
  rw [Candidate.ofText_eq_functions harrows]
  exact scanFrom_function_printAll specs (Or.inl rfl)

/-! ## What is built -/

/-- The head of a printed function is accepted, as the function that is specified. -/
theorem Located.build_eq {t : Text} {s : FunctionSpec} {c : Candidate} (h : Located t s c) :
    ∃ f, Extraction.build t c = .ok f ∧ s.Describes f := by
  obtain ⟨above, below, ht, hclear, hstart⟩ := h.place
  obtain ⟨higher, hstops, hlines⟩ := linesAbove_printed s hclear
  have hbefore : Text.upTo c.start t = above ++ Text.ofLines s.block := by
    rw [hstart, Text.upTo_natCast, ht, List.take_left]
  have hparameters :
      Parameter.ofList s.stated c.parameters = s.parameters.map s.parameter := by
    rw [h.parameters, Parameter.ofList_join s.stated s.areNames]
    exact List.map_congr_left fun name _ => s.typeOf_stated name
  have hnames : ((s.parameters.map s.parameter).map Parameter.name).Nodup := by
    have hself : (s.parameters.map s.parameter).map Parameter.name = s.parameters := by
      rw [List.map_map]
      exact List.map_id s.parameters
    rw [hself]
    exact s.distinct
  unfold Extraction.build
  rw [hbefore, hlines]
  refine ⟨_, Extraction.buildBelow_eq_ok_iff.2 ⟨?_, ?_, rfl⟩, ?_⟩
  · rw [typeTags_printed]
    exact s.stated_stated
  · rw [typeTags_printed, hparameters]
    exact hnames
  · rw [typeTags_printed, commentLines_printed s hstops]
    exact ⟨h.name, hparameters, s.resultType_stated h.result, rfl, h.async⟩

end FunctionSpec

namespace Extraction

/-- Where every candidate is accepted as described, nothing is rejected and all are given back. -/
theorem accepted_of_forall₂ {t : Text} {specs : List FunctionSpec} {cs : List Candidate}
    (h : List.Forall₂ (FunctionSpec.Located t) specs cs) :
    rejected (cs.map fun c => (c, build t c)) = [] ∧
      List.Forall₂ FunctionSpec.Describes specs (accepted (cs.map fun c => (c, build t c))) := by
  induction h with
  | nil => exact ⟨rfl, List.Forall₂.nil⟩
  | cons hlocated _ ih =>
    obtain ⟨f, hbuild, hf⟩ := hlocated.build_eq
    obtain ⟨hrejected, haccepted⟩ := ih
    rw [List.map_cons, hbuild]
    exact ⟨hrejected, List.Forall₂.cons hf haccepted⟩

/-- **Printed functions are extracted.** Whatever functions are printed one after another, and
whatever file they stand in, nothing is rejected, and the module holds one function for each
specification, in order: with its name, its parameters, its types and its tags as documentation. -/
theorem printed_extracted (specs : List FunctionSpec) (source : Text) :
    rejected (outcomes (FunctionSpec.printAll specs)) = [] ∧
      List.Forall₂ FunctionSpec.Describes specs
        (moduleOf source (outcomes (FunctionSpec.printAll specs))).functions := by
  have hcandidates := FunctionSpec.ofText_printAll specs
  rw [outcomes_eq]
  exact accepted_of_forall₂ hcandidates

end Extraction

end BlazorBridge
