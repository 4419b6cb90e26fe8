import BlazorBridge.Declaration.Shape
import BlazorBridge.Proofs.Text.Runs

/-!
# The grammar of declarations

The two shapes of declaration as sets of texts, one clause for each part, with no regard to how they
are read. White space may be spread over the parts in more than one way; the readers still agree with
the grammar in both directions, so a text has at most one signature and one end in each shape.

Main statements: `function?_eq_some_iff` and `arrow?_eq_some_iff`.
-/

namespace BlazorBridge.Signature

open BlazorBridge.Text (IsGap IsName IsSolid)

/-! ## Parts -/

/-- A keyword with the white space behind it. -/
def KeywordForm (word w : Text) : Prop := ∃ gap, IsGap gap ∧ w = word ++ gap

/-- A keyword that may be left out. -/
inductive OptionalForm (word : Text) : Bool → Text → Prop where
  | absent : OptionalForm word false []
  | given {w : Text} (keyword : KeywordForm word w) : OptionalForm word true w

/-- A result annotation that may be left out: a colon and a text without `stop` that is not empty.
White space around the text does not count. -/
inductive ResultForm (stop : Char) : Text → Text → Prop where
  | absent : ResultForm stop [] []
  | given {body : Text} (nonempty : body ≠ []) (free : stop ∉ body) :
      ResultForm stop (Text.trim body) (':' :: body)

theorem keyword?_eq_some_iff {word t rest : Text} :
    keyword? word t = some rest ↔ ∃ w, KeywordForm word w ∧ t = w ++ rest ∧ IsSolid rest := by
  unfold keyword?
  constructor
  · intro h
    split at h
    · rename_i c u hu
      split at h
      · rename_i hc
        obtain ⟨w, hw, ht⟩ := Text.exists_blank_append_trimFront u
        simp only [Option.some.injEq] at h
        subst h
        refine ⟨word ++ c :: w, ⟨c :: w, ⟨by simp, Text.isBlank_cons.2 ⟨hc, hw⟩⟩, rfl⟩, ?_,
          Text.isSolid_trimFront u⟩
        rw [Text.after?_eq_some_iff.1 hu, List.append_assoc, List.cons_append, ← ht]
      · simp at h
    · simp at h
  · rintro ⟨w, ⟨gap, ⟨hne, hgap⟩, rfl⟩, rfl, hs⟩
    cases gap with
    | nil => exact absurd rfl hne
    | cons c gap =>
      rw [List.append_assoc, Text.after?_append, List.cons_append]
      obtain ⟨hc, hg⟩ := Text.isBlank_cons.1 hgap
      simp only [hc, if_true, Option.some.injEq]
      exact Text.trimFront_blank_append hg hs

/-- No keyword is read where another character stands first. -/
theorem keyword?_cons_of_ne {c d : Char} (h : c ≠ d) (word t : Text) :
    keyword? (c :: word) (d :: t) = none := by
  simp [keyword?, Text.after?, h]

/-- A keyword begins with its first character. -/
theorem KeywordForm.eq_cons {c : Char} {word w : Text} (h : KeywordForm (c :: word) w) :
    ∃ u, w = c :: u := by
  obtain ⟨gap, -, rfl⟩ := h
  exact ⟨word ++ gap, rfl⟩

/-- With an optional keyword in front, a text begins with the keyword's first character or its own. -/
theorem OptionalForm.append_eq_cons {a b : Char} {word w : Text} {given : Bool}
    (h : OptionalForm (a :: word) given w) (t : Text) :
    ∃ c u, w ++ b :: t = c :: u ∧ (c = a ∨ c = b) := by
  cases h with
  | absent => exact ⟨b, t, rfl, Or.inr rfl⟩
  | given h =>
    obtain ⟨u, rfl⟩ := h.eq_cons
    exact ⟨a, u ++ b :: t, rfl, Or.inl rfl⟩

theorem optionalForm_of_eq {word t rest : Text} {given : Bool}
    (h : optionalKeyword word t = (given, rest)) :
    ∃ w, OptionalForm word given w ∧ t = w ++ rest := by
  unfold optionalKeyword at h
  split at h
  · rename_i u hu
    obtain ⟨w, hw, ht, -⟩ := keyword?_eq_some_iff.1 hu
    obtain ⟨rfl, rfl⟩ := Prod.mk.inj h
    exact ⟨w, .given hw, ht⟩
  · obtain ⟨rfl, rfl⟩ := Prod.mk.inj h
    exact ⟨[], .absent, rfl⟩

/-- An optional keyword is read as the grammar has it where what follows is no such keyword. -/
theorem optionalKeyword_append {word w rest : Text} {given : Bool} (h : OptionalForm word given w)
    (hs : IsSolid rest) (hrest : keyword? word rest = none) :
    optionalKeyword word (w ++ rest) = (given, rest) := by
  cases h with
  | absent => rw [List.nil_append, optionalKeyword, hrest]
  | given hw => rw [optionalKeyword, keyword?_eq_some_iff.2 ⟨w, hw, rfl, hs⟩]

theorem name?_eq_some {t n rest : Text} (h : name? t = some (n, rest)) :
    ∃ w, IsName n ∧ Text.isBlank w = true ∧ t = n ++ w ++ rest := by
  unfold name? at h
  split at h
  · simp at h
  · rename_i c u hu
    obtain ⟨rfl, rfl⟩ := Prod.mk.inj (Option.some.inj h)
    obtain ⟨w, hw, hd⟩ := Text.exists_blank_append_trimFront (t.dropWhile isWord)
    refine ⟨w, ⟨by simp, ?_⟩, hw, ?_⟩
    · intro d hd
      rw [← hu] at hd
      exact List.mem_takeWhile_imp hd
    · rw [List.append_assoc, ← hd, ← hu, List.takeWhile_append_dropWhile]

theorem name?_append {n w rest : Text} (hn : IsName n) (hw : Text.isBlank w = true)
    (hs : IsSolid rest) (hrest : Text.startsWithWord rest = false) :
    name? (n ++ (w ++ rest)) = some (n, rest) := by
  have hstop := Text.startsWithWord_blank_append hw hrest
  unfold name?
  rw [hn.takeWhile_append hstop, hn.dropWhile_append hstop, Text.trimFront_blank_append hw hs]
  cases n with
  | nil => exact absurd rfl hn.1
  | cons c n => rfl

theorem parameters?_eq_some {t list rest : Text} (h : parameters? t = some (list, rest)) :
    ∃ w, ')' ∉ list ∧ Text.isBlank w = true ∧ t = '(' :: (list ++ ')' :: (w ++ rest)) := by
  unfold parameters? at h
  split at h
  · rename_i u
    obtain ⟨⟨a, b⟩, hab, hp⟩ := Option.map_eq_some_iff.1 h
    obtain ⟨rfl, rfl⟩ := Prod.mk.inj hp
    obtain ⟨hu, hfree⟩ := Text.cut_eq_some_iff.1 hab
    obtain ⟨w, hw, hb⟩ := Text.exists_blank_append_trimFront b
    exact ⟨w, hfree, hw, by rw [hu, ← hb]⟩
  · simp at h

theorem parameters?_append {list w : Text} (hlist : ')' ∉ list) (hw : Text.isBlank w = true)
    (t : Text) : parameters? ('(' :: (list ++ ')' :: (w ++ t))) = some (list, Text.trimFront t) := by
  have hc : Text.cut ')' (list ++ ')' :: (w ++ t)) = some (list, w ++ t) :=
    Text.cut_eq_some_iff.2 ⟨rfl, hlist⟩
  rw [parameters?, hc, Option.map_some]
  dsimp only
  rw [Text.trimFront_append_of_isBlank hw]

theorem resultForm_of_eq {stop : Char} {t result rest : Text}
    (h : result? stop t = some (result, rest)) :
    ∃ w, ResultForm stop result w ∧ t = w ++ rest := by
  unfold result? at h
  split at h
  · rename_i u
    split at h
    · rename_i c body next after hbody hafter
      obtain ⟨rfl, rfl⟩ := Prod.mk.inj (Option.some.inj h)
      refine ⟨':' :: c :: body, .given (by simp) ?_, ?_⟩
      · intro hs
        rw [← hbody] at hs
        simpa using List.mem_takeWhile_imp hs
      · rw [List.cons_append, ← hbody, ← hafter, List.takeWhile_append_dropWhile]
    · simp at h
  · obtain ⟨rfl, rfl⟩ := Prod.mk.inj (Option.some.inj h)
    exact ⟨[], .absent, rfl⟩

/-- White space in front of the stop belongs to the annotation, and does not count there. -/
theorem result?_trimFront {stop : Char} {w result space rest : Text} (h : ResultForm stop result w)
    (hspace : Text.isBlank space = true) (hblank : isBlank stop = false) (hcolon : stop ≠ ':') :
    result? stop (Text.trimFront (w ++ (space ++ stop :: rest))) = some (result, stop :: rest) := by
  have hstop : stop ∉ space := by
    intro hs
    rw [Text.isBlank_iff.1 hspace stop hs] at hblank
    simp at hblank
  cases h with
  | absent =>
    rw [List.nil_append, Text.trimFront_blank_append hspace (Text.isSolid_cons.2 hblank)]
    unfold result?
    split
    · rename_i heq
      exact absurd (List.cons.inj heq).1 hcolon
    · rfl
  | @given body hne hfree =>
    have hsolid : IsSolid (':' :: (body ++ (space ++ stop :: rest))) :=
      Text.isSolid_cons.2 (by decide)
    have hpos : ∀ c ∈ body ++ space, (c != stop) = true := by
      intro c hc
      rw [bne_iff_ne]
      rintro rfl
      rcases List.mem_append.1 hc with hc | hc
      · exact hfree hc
      · exact hstop hc
    rw [List.cons_append, hsolid, result?, ← List.append_assoc,
      List.takeWhile_append_of_pos hpos, List.dropWhile_append_of_pos hpos,
      List.takeWhile_cons_of_neg (by simp), List.dropWhile_cons_of_neg (by simp), List.append_nil]
    have htrim := Text.trim_append_of_isBlank body hspace
    cases body with
    | nil => exact absurd rfl hne
    | cons c body =>
      rw [List.cons_append] at htrim ⊢
      simp only [htrim]

/-! ## Functions -/

/-- `[export] [async] function NAME ( PARAMETERS ) [: RESULT] {` -/
inductive FunctionForm (s : Signature) : Text → Prop where
  | intro {exported : Bool} {w₁ w₂ w₃ w₄ w₅ w₆ w₇ : Text}
      (exportWord : OptionalForm "export".toList exported w₁)
      (asyncWord : OptionalForm "async".toList s.isAsync w₂)
      (functionWord : KeywordForm "function".toList w₃)
      (name : IsName s.name) (space₁ : Text.isBlank w₄ = true)
      (parameters : ')' ∉ s.parameters) (space₂ : Text.isBlank w₅ = true)
      (result : ResultForm '{' s.result w₆) (space₃ : Text.isBlank w₇ = true) :
      FunctionForm s
        [w₁, w₂, w₃, s.name, w₄, ['('], s.parameters, [')'], w₅, w₆, w₇, ['{']].flatten

theorem functionForm_of_eq {t rest : Text} {s : Signature} (h : function? t = some (s, rest)) :
    ∃ w, FunctionForm s w ∧ t = w ++ rest := by
  unfold function? at h
  rcases h₁ : optionalKeyword "export".toList t with ⟨exported, t₁⟩
  rcases h₂ : optionalKeyword "async".toList t₁ with ⟨isAsync, t₂⟩
  simp only [h₁, h₂, Option.bind_eq_bind, Option.bind_eq_some_iff, Option.pure_def,
    Option.some.injEq, Prod.mk.injEq, Prod.exists] at h
  obtain ⟨t₃, h₃, name, t₄, h₄, list, t₅, h₅, result, t₆, h₆, t₇, h₇, rfl, rfl⟩ := h
  obtain ⟨w₁, hw₁, rfl⟩ := optionalForm_of_eq h₁
  obtain ⟨w₂, hw₂, rfl⟩ := optionalForm_of_eq h₂
  obtain ⟨w₃, hw₃, rfl, -⟩ := keyword?_eq_some_iff.1 h₃
  obtain ⟨w₄, hname, hw₄, rfl⟩ := name?_eq_some h₄
  obtain ⟨w₅, hlist, hw₅, rfl⟩ := parameters?_eq_some h₅
  obtain ⟨w₆, hw₆, rfl⟩ := resultForm_of_eq h₆
  rw [Text.after?_eq_some_iff] at h₇
  refine ⟨_, .intro hw₁ hw₂ hw₃ hname hw₄ hlist hw₅ hw₆ (show Text.isBlank [] = true from rfl), ?_⟩
  rw [h₇]
  simp

theorem function?_append {s : Signature} {w : Text} (h : FunctionForm s w) (rest : Text) :
    function? (w ++ rest) = some (s, rest) := by
  cases h with
  | @intro exported w₁ w₂ w₃ w₄ w₅ w₆ w₇ h₁ h₂ h₃ hname h₄ hlist h₅ h₆ h₇ =>
  simp only [List.flatten_cons, List.flatten_nil, List.append_assoc, List.append_nil,
    List.cons_append, List.nil_append]
  have hasync (t : Text) : IsSolid (w₃ ++ t) ∧ keyword? "async".toList (w₃ ++ t) = none := by
    obtain ⟨u, rfl⟩ := KeywordForm.eq_cons (c := 'f') h₃
    exact ⟨Text.isSolid_cons.2 (by decide), keyword?_cons_of_ne (by decide) _ _⟩
  have hexport (t : Text) :
      IsSolid (w₂ ++ (w₃ ++ t)) ∧ keyword? "export".toList (w₂ ++ (w₃ ++ t)) = none := by
    obtain ⟨u, rfl⟩ := KeywordForm.eq_cons (c := 'f') h₃
    obtain ⟨c, v, hv, hc⟩ := h₂.append_eq_cons (b := 'f') (u ++ t)
    rw [List.cons_append, hv]
    rcases hc with rfl | rfl
    · exact ⟨Text.isSolid_cons.2 (by decide), keyword?_cons_of_ne (by decide) _ _⟩
    · exact ⟨Text.isSolid_cons.2 (by decide), keyword?_cons_of_ne (by decide) _ _⟩
  have hkeyword (t : Text) (ht : IsSolid t) : keyword? "function".toList (w₃ ++ t) = some t :=
    keyword?_eq_some_iff.2 ⟨w₃, h₃, rfl, ht⟩
  have hparen : isWord '(' = false := by decide
  have hbrace : Text.after? ['{'] ('{' :: rest) = some rest := Text.after?_append ['{'] rest
  unfold function?
  rw [optionalKeyword_append h₁ (hexport _).1 (hexport _).2]
  dsimp only
  rw [optionalKeyword_append h₂ (hasync _).1 (hasync _).2]
  dsimp only
  rw [hkeyword _ (hname.isSolid_append _)]
  simp only [Option.bind_eq_bind, Option.bind_some]
  rw [name?_append hname h₄ (Text.isSolid_cons.2 (by decide)) hparen, Option.bind_some,
    parameters?_append hlist h₅, Option.bind_some,
    result?_trimFront h₆ h₇ (by decide) (by decide), Option.bind_some, hbrace]
  rfl

/-- Reading a function agrees with the grammar. -/
theorem function?_eq_some_iff {t rest : Text} {s : Signature} :
    function? t = some (s, rest) ↔ ∃ w, FunctionForm s w ∧ t = w ++ rest := by
  constructor
  · exact functionForm_of_eq
  · rintro ⟨w, hw, rfl⟩
    exact function?_append hw rest

/-! ## Arrows -/

/-- The keywords that bind a name. -/
def binders : List Text := ["const".toList, "let".toList, "var".toList]

/-- `[export] const|let|var NAME = [async] ( PARAMETERS ) [: RESULT] =>` -/
inductive ArrowHead (s : Signature) : Text → Prop where
  | intro {exported : Bool} {binder w₁ w₂ w₃ w₄ w₅ w₆ w₇ w₈ : Text}
      (exportWord : OptionalForm "export".toList exported w₁)
      (bound : binder ∈ binders) (binderWord : KeywordForm binder w₂)
      (name : IsName s.name) (space₁ : Text.isBlank w₃ = true) (space₂ : Text.isBlank w₄ = true)
      (asyncWord : OptionalForm "async".toList s.isAsync w₅)
      (parameters : ')' ∉ s.parameters) (space₃ : Text.isBlank w₆ = true)
      (result : ResultForm '=' s.result w₇) (space₄ : Text.isBlank w₈ = true) :
      ArrowHead s [w₁, w₂, s.name, w₃, ['='], w₄, w₅, ['('], s.parameters, [')'], w₆, w₇, w₈,
        ['=', '>']].flatten

/-- What may stand behind an arrow: white space and an opening brace. -/
inductive ArrowTail : Text → Prop where
  | bare {w : Text} (space : Text.isBlank w = true) : ArrowTail w
  | brace {w : Text} (space : Text.isBlank w = true) : ArrowTail (w ++ ['{'])

/-- An arrow declaration in front of `rest`: its tail is taken as long as possible. -/
inductive ArrowForm (s : Signature) (rest : Text) : Text → Prop where
  | intro {head tail : Text} (arrow : ArrowHead s head) (behind : ArrowTail tail)
      (longest : ∀ v, ArrowTail v → v <+: tail ++ rest → v.length ≤ tail.length) :
      ArrowForm s rest (head ++ tail)

theorem binder?_eq_some {t rest : Text} (h : binder? t = some rest) :
    ∃ binder w, binder ∈ binders ∧ KeywordForm binder w ∧ t = w ++ rest := by
  unfold binder? at h
  simp only [Option.orElse_eq_orElse, Option.orElse_eq_or, Option.or_eq_some_iff] at h
  rcases h with h | ⟨-, h | ⟨-, h⟩⟩
  all_goals
    obtain ⟨w, hw, ht, -⟩ := keyword?_eq_some_iff.1 h
    exact ⟨_, w, by simp [binders], hw, ht⟩

theorem binder?_append {binder w : Text} (hb : binder ∈ binders) (hw : KeywordForm binder w)
    {t : Text} (ht : IsSolid t) : binder? (w ++ t) = some t := by
  have hk := keyword?_eq_some_iff.2 ⟨w, hw, rfl, ht⟩
  unfold binder?
  simp only [binders, List.mem_cons, List.not_mem_nil, or_false] at hb
  rcases hb with rfl | rfl | rfl
  · rw [hk]
    rfl
  · obtain ⟨u, rfl⟩ := KeywordForm.eq_cons (c := 'l') hw
    have hconst : keyword? "const".toList ('l' :: u ++ t) = none :=
      keyword?_cons_of_ne (by decide) _ _
    rw [hconst, hk]
    rfl
  · obtain ⟨u, rfl⟩ := KeywordForm.eq_cons (c := 'v') hw
    have hconst : keyword? "const".toList ('v' :: u ++ t) = none :=
      keyword?_cons_of_ne (by decide) _ _
    have hlet : keyword? "let".toList ('v' :: u ++ t) = none :=
      keyword?_cons_of_ne (by decide) _ _
    rw [hconst, hlet, hk]
    rfl

/-- A keyword that binds a name begins with none of the letters of the other keywords. -/
theorem KeywordForm.binder_eq_cons {binder w : Text} (hb : binder ∈ binders)
    (hw : KeywordForm binder w) :
    ∃ c u, w = c :: u ∧ isWord c = true ∧ c ≠ 'e' ∧ c ≠ 'a' ∧ c ≠ 'f' := by
  simp only [binders, List.mem_cons, List.not_mem_nil, or_false] at hb
  rcases hb with rfl | rfl | rfl
  · obtain ⟨u, rfl⟩ := KeywordForm.eq_cons (c := 'c') hw
    exact ⟨'c', u, rfl, by decide⟩
  · obtain ⟨u, rfl⟩ := KeywordForm.eq_cons (c := 'l') hw
    exact ⟨'l', u, rfl, by decide⟩
  · obtain ⟨u, rfl⟩ := KeywordForm.eq_cons (c := 'v') hw
    exact ⟨'v', u, rfl, by decide⟩

theorem arrowTail_nil : ArrowTail [] := .bare rfl

theorem arrowTail_cons_iff {c : Char} {v : Text} :
    ArrowTail (c :: v) ↔ isBlank c = true ∧ ArrowTail v ∨ c = '{' ∧ v = [] := by
  constructor
  · intro h
    generalize hu : c :: v = u at h
    cases h with
    | bare h =>
      subst hu
      exact Or.inl ⟨(Text.isBlank_cons.1 h).1, .bare (Text.isBlank_cons.1 h).2⟩
    | @brace w h =>
      cases w with
      | nil => exact Or.inr (List.cons.inj hu)
      | cons d w =>
        obtain ⟨rfl, rfl⟩ := List.cons.inj hu
        exact Or.inl ⟨(Text.isBlank_cons.1 h).1, .brace (Text.isBlank_cons.1 h).2⟩
  · rintro (⟨hc, hv⟩ | ⟨rfl, rfl⟩)
    · cases hv with
      | bare h => exact .bare (Text.isBlank_cons.2 ⟨hc, h⟩)
      | @brace w h => exact .brace (w := c :: w) (Text.isBlank_cons.2 ⟨hc, h⟩)
    · exact .brace (w := []) rfl

/-- The longest tail in front of a text: the white space there and a brace behind it. -/
theorem exists_longest_tail (t : Text) :
    ∃ tail, ArrowTail tail ∧
      t = tail ++ (Text.after? ['{'] (Text.trimFront t)).getD (Text.trimFront t) ∧
      ∀ v, ArrowTail v → v <+: t → v.length ≤ tail.length := by
  induction t with
  | nil => exact ⟨[], arrowTail_nil, rfl, fun v _ hv => hv.length_le⟩
  | cons c t ih =>
    cases hc : isBlank c with
    | true =>
      obtain ⟨tail, htail, ht, hmax⟩ := ih
      have htrim : Text.trimFront (c :: t) = Text.trimFront t :=
        List.dropWhile_cons_of_pos hc
      refine ⟨c :: tail, arrowTail_cons_iff.2 (Or.inl ⟨hc, htail⟩), ?_, ?_⟩
      · rw [htrim, List.cons_append, ← ht]
      · intro v hv hpre
        cases v with
        | nil => simp
        | cons d v =>
          obtain ⟨rfl, hv'⟩ := List.cons_prefix_cons.1 hpre
          rcases arrowTail_cons_iff.1 hv with ⟨-, hv⟩ | ⟨-, rfl⟩
          · simpa using hmax v hv hv'
          · simp
    | false =>
      have htrim : Text.trimFront (c :: t) = c :: t := Text.isSolid_cons.2 hc
      rw [htrim]
      by_cases hbrace : c = '{'
      · subst hbrace
        refine ⟨['{'], arrowTail_cons_iff.2 (Or.inr ⟨rfl, rfl⟩), rfl, ?_⟩
        intro v hv hpre
        cases v with
        | nil => simp
        | cons d v =>
          obtain ⟨rfl, -⟩ := List.cons_prefix_cons.1 hpre
          rcases arrowTail_cons_iff.1 hv with ⟨hd, -⟩ | ⟨-, rfl⟩
          · exact absurd hd (by decide)
          · simp
      · refine ⟨[], arrowTail_nil, ?_, ?_⟩
        · simp [Text.after?, Ne.symm hbrace]
        · intro v hv hpre
          cases v with
          | nil => simp
          | cons d v =>
            obtain ⟨rfl, -⟩ := List.cons_prefix_cons.1 hpre
            rcases arrowTail_cons_iff.1 hv with ⟨hd, -⟩ | ⟨hd, -⟩
            · rw [hc] at hd
              exact absurd hd (by simp)
            · exact absurd hd hbrace

theorem arrowForm_of_eq {t rest : Text} {s : Signature} (h : arrow? t = some (s, rest)) :
    ∃ w, ArrowForm s rest w ∧ t = w ++ rest := by
  unfold arrow? at h
  rcases h₁ : optionalKeyword "export".toList t with ⟨exported, t₁⟩
  simp only [h₁, Option.bind_eq_bind, Option.bind_eq_some_iff, Option.pure_def,
    Option.some.injEq, Prod.mk.injEq, Prod.exists] at h
  obtain ⟨t₂, h₂, name, t₃, h₃, t₄, h₄, list, t₅, h₅, result, t₆, h₆, t₇, h₇, rfl, rfl⟩ := h
  obtain ⟨w₁, hw₁, rfl⟩ := optionalForm_of_eq h₁
  obtain ⟨binder, w₂, hbound, hw₂, rfl⟩ := binder?_eq_some h₂
  obtain ⟨w₃, hname, hw₃, rfl⟩ := name?_eq_some h₃
  rw [Text.after?_eq_some_iff] at h₄
  obtain ⟨w₄, hw₄, ht₄⟩ := Text.exists_blank_append_trimFront t₄
  obtain ⟨w₅, hw₅, ht₅⟩ := optionalForm_of_eq (Prod.eta (optionalKeyword _ (Text.trimFront t₄))).symm
  obtain ⟨w₆, hlist, hw₆, ht₆⟩ := parameters?_eq_some h₅
  obtain ⟨w₇, hw₇, rfl⟩ := resultForm_of_eq h₆
  rw [Text.after?_eq_some_iff] at h₇
  obtain ⟨tail, htail, ht₇, hmax⟩ := exists_longest_tail t₇
  rw [ht₇] at hmax
  refine ⟨_, .intro (.intro hw₁ hbound hw₂ hname hw₃ hw₄ hw₅ hlist hw₆ hw₇
    (show Text.isBlank [] = true from rfl)) htail hmax, ?_⟩
  rw [h₄, ht₄, ht₅, ht₆, h₇]
  simp [← ht₇]

theorem arrow?_append {s : Signature} {w rest : Text} (h : ArrowForm s rest w) :
    arrow? (w ++ rest) = some (s, rest) := by
  cases h with
  | @intro head tail harrow htail hmax =>
  cases harrow with
  | @intro exported binder w₁ w₂ w₃ w₄ w₅ w₆ w₇ w₈ h₁ hbound h₂ hname h₃ h₄ h₅ hlist h₆ h₇ h₈ =>
  simp only [List.flatten_cons, List.flatten_nil, List.append_assoc, List.append_nil,
    List.cons_append, List.nil_append]
  have hexport (t : Text) : IsSolid (w₂ ++ t) ∧ keyword? "export".toList (w₂ ++ t) = none := by
    obtain ⟨c, u, rfl, hc, hne, -⟩ := KeywordForm.binder_eq_cons hbound h₂
    exact ⟨Text.isSolid_cons.2 (isBlank_of_isWord hc), keyword?_cons_of_ne (Ne.symm hne) _ _⟩
  have hasync (t : Text) : IsSolid (w₅ ++ '(' :: t) := by
    obtain ⟨c, v, hv, hc⟩ := h₅.append_eq_cons (b := '(') t
    rw [hv]
    rcases hc with rfl | rfl
    · exact Text.isSolid_cons.2 (by decide)
    · exact Text.isSolid_cons.2 (by decide)
  have hparen (t : Text) : keyword? "async".toList ('(' :: t) = none :=
    keyword?_cons_of_ne (by decide) _ _
  have hequals : isWord '=' = false := by decide
  have hafter (t : Text) : Text.after? ['='] ('=' :: t) = some t := Text.after?_append ['='] t
  have harrow (t : Text) : Text.after? "=>".toList ('=' :: '>' :: t) = some t :=
    Text.after?_append "=>".toList t
  have htail : (Text.after? ['{'] (Text.trimFront (tail ++ rest))).getD
      (Text.trimFront (tail ++ rest)) = rest := by
    obtain ⟨tail', htail', heq, hmax'⟩ := exists_longest_tail (tail ++ rest)
    have h₁ := hmax tail' htail' ⟨_, heq.symm⟩
    have h₂ := hmax' tail htail ⟨_, rfl⟩
    exact (List.append_inj heq (by omega)).2.symm
  unfold arrow?
  rw [optionalKeyword_append h₁ (hexport _).1 (hexport _).2]
  dsimp only
  rw [binder?_append hbound h₂ (hname.isSolid_append _)]
  simp only [Option.bind_eq_bind, Option.bind_some]
  rw [name?_append hname h₃ (Text.isSolid_cons.2 (by decide)) hequals, Option.bind_some, hafter,
    Option.bind_some, Text.trimFront_blank_append h₄ (hasync _),
    optionalKeyword_append h₅ (Text.isSolid_cons.2 (by decide)) (hparen _),
    parameters?_append hlist h₆, Option.bind_some,
    result?_trimFront h₇ h₈ (by decide) (by decide), Option.bind_some, harrow, Option.bind_some,
    htail]
  rfl

/-- Reading an arrow agrees with the grammar. -/
theorem arrow?_eq_some_iff {t rest : Text} {s : Signature} :
    arrow? t = some (s, rest) ↔ ∃ w, ArrowForm s rest w ∧ t = w ++ rest := by
  constructor
  · exact arrowForm_of_eq
  · rintro ⟨w, hw, rfl⟩
    exact arrow?_append hw

end BlazorBridge.Signature
