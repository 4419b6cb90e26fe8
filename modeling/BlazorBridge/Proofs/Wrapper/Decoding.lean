import BlazorBridge.Proofs.Wrapper.SingleLines
import Mathlib.Data.List.Basic
import Mathlib.Data.List.Forall2

/-!
# Reading a class back

A class is a flat stream of lines, and what its callers depend on can be read back from it. A blank
line ends each method, and no other line of a method is blank. Inside a method, a documentation line
holds no opening angle bracket, because those are replaced, so it is neither a mark of the summary nor
the note of a parameter; the notes give the names and types of the parameters, and the call gives the
name of the function and its result.

Main statement (`render_determines_methods`): two modules with the same class agree, method for method,
on all of this. Not determined: default values that are written alike, and whether a function is
asynchronous.
-/

namespace BlazorBridge.Wrapper

/-! ## Cutting at a mark -/

/-- What stands before the first mark, and what behind it, is settled by the whole. -/
theorem append_mark_inj {α : Type} {x : α} {a b u v : List α} (ha : x ∉ a) (hb : x ∉ b)
    (h : a ++ x :: u = b ++ x :: v) : a = b ∧ u = v := by
  induction a generalizing b with
  | nil =>
    cases b with
    | nil => exact ⟨rfl, (List.cons.inj h).2⟩
    | cons y b => exact absurd (List.cons.inj h).1 (fun hxy => hb (by simp [hxy]))
  | cons z a ih =>
    cases b with
    | nil => exact absurd (List.cons.inj h).1 (fun hzx => ha (by simp [hzx]))
    | cons y b =>
      rw [List.mem_cons, not_or] at ha hb
      obtain ⟨rfl, htail⟩ := List.cons.inj h
      obtain ⟨rfl, rfl⟩ := ih ha.2 hb.2 htail
      exact ⟨rfl, rfl⟩

/-- The same between two fixed texts, the second of which begins with the mark. -/
theorem framed_inj {x : Char} {front middle back a b u v : Text} (hx : middle.head? = some x)
    (ha : x ∉ a) (hb : x ∉ b)
    (h : front ++ a ++ middle ++ u ++ back = front ++ b ++ middle ++ v ++ back) : a = b ∧ u = v := by
  obtain ⟨rest, rfl⟩ := List.head?_eq_some_iff.1 hx
  simp only [List.append_assoc, List.cons_append] at h
  obtain ⟨hab, huv⟩ := append_mark_inj ha hb (List.append_cancel_left h)
  exact ⟨hab, List.append_cancel_right (List.append_cancel_left huv)⟩

/-- The same in front of texts that begin with the mark. -/
theorem headed_inj {x : Char} {front middle a b u v : Text} (hu : u.head? = some x)
    (hv : v.head? = some x) (ha : x ∉ a) (hb : x ∉ b) (hm : x ∉ middle)
    (h : front ++ a ++ middle ++ u = front ++ b ++ middle ++ v) : a = b ∧ u = v := by
  obtain ⟨u, rfl⟩ := List.head?_eq_some_iff.1 hu
  obtain ⟨v, rfl⟩ := List.head?_eq_some_iff.1 hv
  rw [List.append_assoc front, List.append_assoc front, List.append_assoc front,
    List.append_assoc front] at h
  obtain ⟨hab, rfl⟩ := append_mark_inj (List.not_mem_append ha hm) (List.not_mem_append hb hm)
    (List.append_cancel_left h)
  exact ⟨List.append_cancel_right hab, rfl⟩

/-! ## Text in comments -/

/-- What one character of a documentation comment is replaced by. -/
def escapeChar (c : Char) : Text :=
  if c = '&' then "&amp;".toList
  else if c = '<' then "&lt;".toList
  else if c = '>' then "&gt;".toList
  else [c]

theorem escapeMarkup_cons (c : Char) (t : Text) :
    escapeMarkup (c :: t) = escapeChar c ++ escapeMarkup t := rfl

theorem escapeChar_ne_nil (c : Char) : escapeChar c ≠ [] := by
  unfold escapeChar
  split
  · decide
  · split
    · decide
    · split
      · decide
      · simp

/-- No replacement begins another, so the first character can be read back whatever follows. -/
theorem escapeChar_append_inj {c d : Char} {u v : Text}
    (h : escapeChar c ++ u = escapeChar d ++ v) : c = d ∧ u = v := by
  have hamp : "&amp;".toList = ['&', 'a', 'm', 'p', ';'] := rfl
  have hlt : "&lt;".toList = ['&', 'l', 't', ';'] := rfl
  have hgt : "&gt;".toList = ['&', 'g', 't', ';'] := rfl
  unfold escapeChar at h
  rw [hamp, hlt, hgt] at h
  grind

theorem escapeMarkup_injective : Function.Injective escapeMarkup := by
  intro s
  induction s with
  | nil =>
    intro t h
    cases t with
    | nil => rfl
    | cons d t =>
      rw [escapeMarkup_cons] at h
      exact absurd (List.append_eq_nil_iff.1 h.symm).1 (escapeChar_ne_nil d)
  | cons c s ih =>
    intro t h
    cases t with
    | nil =>
      rw [escapeMarkup_cons] at h
      exact absurd (List.append_eq_nil_iff.1 h).1 (escapeChar_ne_nil c)
    | cons d t =>
      rw [escapeMarkup_cons, escapeMarkup_cons] at h
      obtain ⟨rfl, htail⟩ := escapeChar_append_inj h
      rw [ih htail]

/-- No opening angle bracket is left in a comment. -/
theorem bracket_not_mem_escapeMarkup (t : Text) : '<' ∉ escapeMarkup t := by
  induction t with
  | nil => decide
  | cons c t ih =>
    rw [escapeMarkup_cons]
    refine List.not_mem_append ?_ ih
    unfold escapeChar
    split
    · decide
    · split
      · decide
      · rename_i hc
        split
        · decide
        · simpa using Ne.symm hc

/-! ## Summaries -/

/-- A documentation line is not the mark that ends the summary. -/
theorem summaryEnd_not_mem (documentation : List Text) :
    "/// </summary>".toList ∉ documentation.map fun line => "/// ".toList ++ escapeMarkup line := by
  intro hmem
  obtain ⟨line, -, heq⟩ := List.mem_map.1 hmem
  have hsplit : "/// ".toList ++ escapeMarkup line = "/// ".toList ++ "</summary>".toList := heq
  have htail : escapeMarkup line = "</summary>".toList := List.append_cancel_left hsplit
  exact bracket_not_mem_escapeMarkup line (by rw [htail]; decide)

/-- The documentation can be read back from in front of lines that do not begin with a summary. -/
theorem summary_append_inj {d e u v : List Text} (hu : u.head? ≠ some "/// <summary>".toList)
    (hv : v.head? ≠ some "/// <summary>".toList) (h : summary d ++ u = summary e ++ v) :
    d = e ∧ u = v := by
  have hopening (documentation : List Text) (hne : documentation ≠ []) :
      summary documentation = "/// <summary>".toList ::
        ((documentation.map fun line => "/// ".toList ++ escapeMarkup line) ++
          ["/// </summary>".toList]) := by
    simp [summary, hne]
  by_cases hd : d = []
  · by_cases he : e = []
    · subst hd he
      exact ⟨rfl, h⟩
    · rw [hd, hopening e he] at h
      exact absurd (by rw [show u = _ from h]; rfl) hu
  · by_cases he : e = []
    · rw [he, hopening d hd] at h
      exact absurd (by rw [show v = _ from h.symm]; rfl) hv
    · rw [hopening d hd, hopening e he, List.cons_append, List.cons_append, List.append_assoc,
        List.append_assoc] at h
      obtain ⟨hlines, hrest⟩ :=
        append_mark_inj (summaryEnd_not_mem d) (summaryEnd_not_mem e) (List.cons.inj h).2
      refine ⟨List.map_injective_iff.2 (fun a b hab => ?_) hlines, hrest⟩
      exact escapeMarkup_injective (List.append_cancel_left hab)

/-! ## Notes on parameters -/

/-- The note of a parameter gives its name and its type. -/
theorem parameterNote_inj {p q : Parameter} (hp : p.Plain) (hq : q.Plain)
    (h : parameterNote p = parameterNote q) : p.name = q.name ∧ p.type = q.type := by
  obtain ⟨hname, htype⟩ := framed_inj (x := '"') rfl (hp.name.not_mem (by decide))
    (hq.name.not_mem (by decide)) h
  exact ⟨hname, escapeMarkup_injective htype⟩

/-- The notes end in front of the first line that is no comment. -/
theorem notes_append_inj {ps qs : List Parameter} (hps : ∀ p ∈ ps, p.Plain)
    (hqs : ∀ q ∈ qs, q.Plain) {x y : Text} {u v : List Text} (hx : x.head? ≠ some '/')
    (hy : y.head? ≠ some '/')
    (h : ps.map parameterNote ++ x :: u = qs.map parameterNote ++ y :: v) :
    ps.map Parameter.name = qs.map Parameter.name ∧ ps.map Parameter.type = qs.map Parameter.type ∧
      x = y ∧ u = v := by
  induction ps generalizing qs with
  | nil =>
    cases qs with
    | nil =>
      obtain ⟨rfl, rfl⟩ := List.cons.inj h
      exact ⟨rfl, rfl, rfl, rfl⟩
    | cons q qs => exact absurd (by rw [(List.cons.inj h).1]; rfl) hx
  | cons p ps ih =>
    cases qs with
    | nil => exact absurd (by rw [← (List.cons.inj h).1]; rfl) hy
    | cons q qs =>
      obtain ⟨hnote, htail⟩ := List.cons.inj h
      obtain ⟨hname, htype⟩ := parameterNote_inj (hps p (by simp)) (hqs q (by simp)) hnote
      obtain ⟨hnames, htypes, hxy, huv⟩ :=
        ih (fun p hp => hps p (by simp [hp])) (fun q hq => hqs q (by simp [hq])) htail
      exact ⟨by simp [hname, hnames], by simp [htype, htypes], hxy, huv⟩

/-! ## Calls -/

/-- What is called gives the name of the function. -/
theorem target_inj {f g : JsFunction} (hf : f.Plain) (hg : g.Plain) (h : target f = target g) :
    f.name = g.name :=
  (framed_inj (x := '"') rfl (hf.name.not_mem (by decide)) (hg.name.not_mem (by decide)) h).1

/-- A call gives the name of the function and the result of the method. -/
theorem call_inj {f g : JsFunction} (hf : f.Plain) (hg : g.Plain) (h : call f = call g) :
    f.name = g.name ∧ methodResult f = methodResult g := by
  rw [call_eq, call_eq] at h
  by_cases hvf : methodResult f = WrapperType.void
  · by_cases hvg : methodResult g = WrapperType.void
    · rw [if_pos hvf, if_pos hvg] at h
      exact ⟨target_inj hf hg (List.append_cancel_left h), hvf.trans hvg.symm⟩
    · rw [if_pos hvf, if_neg hvg] at h
      have hfirst : some 'a' = some 'r' := congrArg List.head? h
      exact absurd hfirst (by decide)
  · by_cases hvg : methodResult g = WrapperType.void
    · rw [if_neg hvf, if_pos hvg] at h
      have hfirst : some 'r' = some 'a' := congrArg List.head? h
      exact absurd hfirst (by decide)
    · rw [if_neg hvf, if_neg hvg] at h
      obtain ⟨hresult, htarget⟩ := headed_inj (x := '(') rfl rfl
        ((isType_methodResult hf).not_mem (by decide))
        ((isType_methodResult hg).not_mem (by decide)) (by decide) h
      exact ⟨target_inj hf hg htarget, hresult⟩

/-! ## Methods -/

/-- What the callers of a method depend on: the name that it calls, the names and types of its
parameters in order, its documentation, and its result. -/
structure SameForCallers (f g : JsFunction) : Prop where
  name : f.name = g.name
  parameterNames : f.parameters.map Parameter.name = g.parameters.map Parameter.name
  parameterTypes : f.parameters.map Parameter.type = g.parameters.map Parameter.type
  documentation : f.documentation = g.documentation
  result : methodResult f = methodResult g

/-- The lines behind a summary do not begin with another. -/
theorem head?_notes_ne (ps : List Parameter) (f : JsFunction) (u : List Text) :
    (ps.map parameterNote ++ head f :: u).head? ≠ some "/// <summary>".toList := by
  cases ps with
  | nil =>
    intro h
    have hfirst : some 'p' = some '/' := congrArg List.head? (Option.some.inj h)
    exact absurd hfirst (by decide)
  | cons p ps =>
    intro h
    have hsixth : some 'p' = some 's' := congrArg (·[5]?) (Option.some.inj h)
    exact absurd hsixth (by decide)

theorem method_inj {f g : JsFunction} (hf : f.Plain) (hg : g.Plain) (h : method f = method g) :
    SameForCallers f g := by
  unfold method at h
  rw [List.append_assoc, List.append_assoc] at h
  obtain ⟨hdocumentation, hrest⟩ :=
    summary_append_inj (head?_notes_ne _ f _) (head?_notes_ne _ g _) h
  have hhead (r : JsFunction) : (head r).head? ≠ some '/' := by
    intro h
    have hfirst : some 'p' = some '/' := h
    exact absurd hfirst (by decide)
  obtain ⟨hnames, htypes, -, hbody⟩ :=
    notes_append_inj hf.parameters hg.parameters (hhead f) (hhead g) hrest
  have hcall : call f = call g := by
    have := (List.cons.inj (List.cons.inj hbody).2).1
    exact List.append_cancel_left this
  obtain ⟨hname, hresult⟩ := call_inj hf hg hcall
  exact ⟨hname, hnames, htypes, hdocumentation, hresult⟩

/-! ## Classes -/

/-- The lines of a class behind its opening. -/
def body (fs : List JsFunction) : List Text :=
  fs.flatMap (fun f => (method f).map indent ++ [[]]) ++ ["\x7d".toList, []]

theorem body_cons (f : JsFunction) (fs : List JsFunction) :
    body (f :: fs) = (method f).map indent ++ [] :: body fs := by
  simp [body]

theorem indent_injective : Function.Injective indent := fun _ _ h => List.append_cancel_left h

theorem nil_not_mem_method (f : JsFunction) : [] ∉ (method f).map indent := by
  simp [indent]

/-- A method does not begin with the brace that ends a class. -/
theorem body_cons_ne_nil (f : JsFunction) (fs : List JsFunction) : body (f :: fs) ≠ body [] := by
  intro h
  obtain ⟨line, rest, hmethod⟩ : ∃ line rest, method f = line :: rest := by
    refine List.exists_cons_of_ne_nil ?_
    simp [method]
  rw [body_cons, hmethod] at h
  have hfirst : some ' ' = some '\x7d' := congrArg List.head? (List.cons.inj h).1
  exact absurd hfirst (by decide)

/-- The methods can be read back one by one: the first blank line ends the first of them. -/
theorem body_inj {fs gs : List JsFunction} (hfs : ∀ f ∈ fs, f.Plain) (hgs : ∀ g ∈ gs, g.Plain)
    (h : body fs = body gs) : List.Forall₂ SameForCallers fs gs := by
  induction fs generalizing gs with
  | nil =>
    cases gs with
    | nil => exact .nil
    | cons g gs => exact absurd h.symm (body_cons_ne_nil g gs)
  | cons f fs ih =>
    cases gs with
    | nil => exact absurd h (body_cons_ne_nil f fs)
    | cons g gs =>
      rw [body_cons, body_cons] at h
      obtain ⟨hmethod, hrest⟩ :=
        append_mark_inj (nil_not_mem_method f) (nil_not_mem_method g) h
      refine .cons (method_inj (hfs f (by simp)) (hgs g (by simp)) ?_)
        (ih (fun f hf => hfs f (by simp [hf])) (fun g hg => hgs g (by simp [hg])) hrest)
      exact List.map_injective_iff.2 indent_injective hmethod

theorem not_mem_body {fs : List JsFunction} (h : ∀ f ∈ fs, f.Plain) :
    ∀ line ∈ body fs, '\n' ∉ line := by
  induction fs with
  | nil => decide
  | cons f fs ih =>
    intro line hline
    rw [body_cons, List.mem_append, List.mem_cons, List.mem_map] at hline
    rcases hline with ⟨raw, hraw, rfl⟩ | rfl | hline
    · exact List.not_mem_append (by decide) (not_mem_method (h f (by simp)) raw hraw)
    · simp
    · exact ih (fun f hf => h f (by simp [hf])) line hline

/-- The opening comes first and depends on the module only by its name and source. -/
theorem render_eq (options : Options) (m : JsModule) :
    render options m =
      Text.join ['\n'] (opening options m) ++ ['\n'] ++ Text.join ['\n'] (body m.functions) := by
  unfold render lines
  rw [List.append_assoc]
  exact Text.join_append ['\n'] (by simp [opening]) (by simp)

/-- **A class determines what its callers depend on.** Two modules of the same name and source with the
same class have equally many functions, and these agree one by one on the name that is called, the names
and types of the parameters, the documentation and the result of the method. -/
theorem render_determines_methods (options : Options) {m n : JsModule} (hname : m.name = n.name)
    (hsource : m.source = n.source) (hm : ∀ f ∈ m.functions, f.Plain)
    (hn : ∀ f ∈ n.functions, f.Plain) (h : render options m = render options n) :
    m.functions.length = n.functions.length ∧
      List.Forall₂ SameForCallers m.functions n.functions := by
  have hopening : opening options m = opening options n := by
    unfold opening className
    rw [hname, hsource]
  have hne (fs : List JsFunction) : body fs ≠ [] := by simp [body]
  rw [render_eq, render_eq, hopening] at h
  have hsplit := congrArg (Text.split (· == '\n')) (List.append_cancel_left h)
  rw [Text.split_join (hne _) (not_mem_body hm), Text.split_join (hne _) (not_mem_body hn)] at hsplit
  have hsame := body_inj hm hn hsplit
  exact ⟨hsame.length_eq, hsame⟩

/-- A module with one function, whose documentation imitates the marks around it and whose parameter is
named by a reserved word. -/
def imitation (isAsync : Bool) (default : Option Text) : JsModule where
  name := "Store".toList
  source := "store.js".toList
  functions :=
    [{ name := "load$".toList
       parameters := [⟨"class".toList, "double".toList, .optional default⟩]
       result := "bool".toList
       isAsync
       documentation := ["</summary>".toList, "<param name=\"id\">".toList] }]

theorem plain_imitation (isAsync : Bool) (default : Option Text)
    (h : ∀ value, default = some value → '\n' ∉ value) :
    ∀ f ∈ (imitation isAsync default).functions, f.Plain := by
  have hfunction : Parameter.IsRun "load$".toList :=
    Parameter.isRun_of_smallLetters (by decide) (by decide)
  have hparameter : Parameter.IsRun "class".toList :=
    Parameter.isRun_of_smallLetters (by decide) (by decide)
  have hlines : ∀ line ∈ ["</summary>".toList, "<param name=\"id\">".toList], '\n' ∉ line := by decide
  have htype : WrapperType.ofAnnotation "number".toList = "double".toList := by
    rw [ WrapperType.ofAnnotation]
    rfl
  have hresult : WrapperType.ofAnnotation "boolean".toList = "bool".toList := by
    rw [ WrapperType.ofAnnotation]
    rfl
  intro f hf
  obtain rfl := List.mem_singleton.1 hf
  refine ⟨hfunction, fun p hp => ?_, ⟨_, hresult.symm⟩, hlines⟩
  obtain rfl := List.mem_singleton.1 hp
  exact ⟨hparameter, ⟨_, htype.symm⟩, h⟩

/-- Two modules that differ in their default values and in being asynchronous have the same class. -/
theorem render_determines_imitation :
    imitation true (some "undefined".toList) ≠ imitation false none ∧
      render Options.standard (imitation true (some "undefined".toList)) =
        render Options.standard (imitation false none) ∧
      List.Forall₂ SameForCallers (imitation true (some "undefined".toList)).functions
        (imitation false none).functions := by
  have hrender : render Options.standard (imitation true (some "undefined".toList)) =
      render Options.standard (imitation false none) := rfl
  have hplain := plain_imitation true (some "undefined".toList) (by simp)
  have hplain' := plain_imitation false none (by simp)
  have hsame := render_determines_methods Options.standard
    (m := imitation true (some "undefined".toList)) (n := imitation false none) rfl rfl hplain hplain'
    hrender
  exact ⟨by decide, hrender, hsame.2⟩

end BlazorBridge.Wrapper
