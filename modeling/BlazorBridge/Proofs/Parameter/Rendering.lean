import BlazorBridge.Proofs.Parameter.Numeral

/-!
# Written default values

What a default value is written as, case by case, and where writing comes to rest. Quotes are written in
two passes, one that bares the escaped ones and one that escapes all. The second pass is undone exactly
by the first (`bareQuotes_escapeQuotes`), so together they only escape the quotes that were bare
(`requote_eq_self_iff`).

Main statement (`rendering_stable`): a default value that is written once more stays as it is, and the
values that stay as they are are exactly those that are written: truth values, null, numbers, and texts
between double quotes in which every double quote stands behind a backslash.
-/

namespace BlazorBridge.Default

/-! ## Quotes -/

theorem bareQuotes_cons {c : Char} {t : Text} (h : c = '\\' → t.head? ≠ some '"') :
    bareQuotes (c :: t) = c :: bareQuotes t := by
  rw [bareQuotes]
  rintro rest rfl rfl
  exact h rfl rfl

theorem escapeQuotes_quote (t : Text) : escapeQuotes ('"' :: t) = '\\' :: '"' :: escapeQuotes t := rfl

theorem escapeQuotes_cons {c : Char} (h : c ≠ '"') (t : Text) :
    escapeQuotes (c :: t) = c :: escapeQuotes t := by
  rw [escapeQuotes, List.flatMap_cons, if_neg h]
  rfl

/-- An escaped text does not begin with a quote. -/
theorem head?_escapeQuotes (t : Text) : (escapeQuotes t).head? ≠ some '"' := by
  cases t with
  | nil => simp [escapeQuotes]
  | cons c t =>
    by_cases hc : c = '"'
    · rw [hc, escapeQuotes_quote]
      simp
    · rw [escapeQuotes_cons hc]
      simpa using hc

/-- Escaping is undone exactly: every quote that is escaped has its own backslash in front of it, whatever
backslashes the text has. -/
theorem bareQuotes_escapeQuotes (t : Text) : bareQuotes (escapeQuotes t) = t := by
  induction t with
  | nil => rfl
  | cons c t ih =>
    by_cases hc : c = '"'
    · rw [hc, escapeQuotes_quote, bareQuotes, ih]
    · rw [escapeQuotes_cons hc, bareQuotes_cons fun _ => head?_escapeQuotes t, ih]

/-! ## Both passes together -/

/-- A text with every double quote escaped that was not. -/
def requote (t : Text) : Text := escapeQuotes (bareQuotes t)

theorem requote_nil : requote [] = [] := rfl

theorem requote_escaped (t : Text) : requote ('\\' :: '"' :: t) = '\\' :: '"' :: requote t := rfl

theorem requote_quote (t : Text) : requote ('"' :: t) = '\\' :: '"' :: requote t := by
  rw [requote, bareQuotes_cons (by simp), escapeQuotes_quote, requote]

theorem requote_cons {c : Char} {t : Text} (hc : c ≠ '"') (hpair : c = '\\' → t.head? ≠ some '"') :
    requote (c :: t) = c :: requote t := by
  rw [requote, bareQuotes_cons hpair, escapeQuotes_cons hc, requote]

theorem requote_requote (t : Text) : requote (requote t) = requote t := by
  rw [requote, requote, bareQuotes_escapeQuotes]

/-- Every double quote stands behind a backslash. -/
def IsGuarded (t : Text) : Prop := ∀ front back, t = front ++ '"' :: back → front.getLast? = some '\\'

theorem isGuarded_escapeQuotes (t : Text) : IsGuarded (escapeQuotes t) := by
  induction t with
  | nil =>
    intro front back h
    exact absurd h (by simp [escapeQuotes])
  | cons c t ih =>
    intro front back h
    by_cases hc : c = '"'
    · rw [hc, escapeQuotes_quote] at h
      match front with
      | [] => simp at h
      | [d] =>
        obtain ⟨rfl, -⟩ := List.cons.inj h
        rfl
      | d :: e :: front =>
        simp only [List.cons_append, List.cons.injEq] at h
        obtain ⟨rfl, rfl, h⟩ := h
        simp [List.getLast?_cons, ih front back h]
    · rw [escapeQuotes_cons hc] at h
      cases front with
      | nil => exact absurd (List.cons.inj h).1 hc
      | cons d front => simp [List.getLast?_cons, ih front back (List.cons.inj h).2]

/-- What stands behind the front of a guarded text is guarded, unless the front guards its first quote. -/
theorem IsGuarded.of_append {t : Text} (lead : Text) (h : IsGuarded (lead ++ t))
    (hlead : lead.getLast? = some '\\' → t.head? ≠ some '"') : IsGuarded t := by
  intro front back ht
  have hlast := h (lead ++ front) back (by rw [ht, List.append_assoc])
  rw [List.getLast?_append] at hlast
  cases hfront : front.getLast? with
  | some d =>
    rw [hfront] at hlast
    exact hlast
  | none =>
    rw [hfront, Option.none_or] at hlast
    rw [List.getLast?_eq_none_iff] at hfront
    exact absurd (by rw [ht, hfront]; rfl) (hlead hlast)

/-- A text stays as it is exactly if every double quote stands behind a backslash already. -/
theorem requote_eq_self_iff {t : Text} : requote t = t ↔ IsGuarded t := by
  constructor
  · intro h
    rw [← h]
    exact isGuarded_escapeQuotes _
  · intro h
    fun_induction bareQuotes t with
    | case1 => rfl
    | case2 rest ih =>
      rw [requote_escaped, ih (IsGuarded.of_append ['\\', '"'] h (by simp))]
    | case3 c rest hpair ih =>
      have hc : c ≠ '"' := by
        rintro rfl
        exact absurd (h [] rest rfl) (by simp)
      have hrest : c = '\\' → rest.head? ≠ some '"' := by
        intro hc hhead
        obtain ⟨behind, rfl⟩ := List.head?_eq_some_iff.1 hhead
        exact hpair behind hc rfl
      rw [requote_cons hc hrest, ih (IsGuarded.of_append [c] h (by simpa using hrest))]

/-! ## Cases -/

/-- What stands between two equal quotes is found exactly if it does. -/
theorem unquote?_eq_some_iff {t inner : Text} :
    unquote? t = some inner ↔
      ∃ quote, (quote = '\'' ∨ quote = '"') ∧ t = quote :: (inner ++ [quote]) := by
  cases t with
  | nil => simp [unquote?]
  | cons quote rest =>
    rw [unquote?]
    constructor
    · intro h
      split at h
      · rename_i hquote
        simp only [Bool.and_eq_true, Bool.or_eq_true, decide_eq_true_eq, beq_iff_eq] at hquote
        obtain ⟨front, rfl⟩ := List.getLast?_eq_some_iff.1 hquote.2
        rw [Option.some.injEq, List.dropLast_concat] at h
        exact ⟨quote, hquote.1, by rw [h]⟩
      · simp at h
    · rintro ⟨quote', hquote, heq⟩
      obtain ⟨rfl, rfl⟩ := List.cons.inj heq
      rw [if_pos (by simpa using hquote), List.dropLast_concat]

/-- A default value is written as a truth value or null, as a text between double quotes, or as the number
that it is. -/
theorem render_cases (written : Text) :
    render written ∈ ["true".toList, "false".toList, "null".toList] ∨
    (∃ inner, unquote? (Text.trim written) = some inner ∧
      render written = '"' :: (requote inner ++ ['"'])) ∨
    (isNumber (Text.trim written) = true ∧ unquote? (Text.trim written) = none ∧
      render written = Text.trim written) := by
  have hnull : "null".toList ∈ ["true".toList, "false".toList, "null".toList] :=
    List.mem_cons_of_mem _ (List.mem_cons_of_mem _ List.mem_cons_self)
  unfold render
  dsimp only
  split
  · rename_i h
    refine .inl ?_
    simp only [Bool.or_eq_true, decide_eq_true_eq] at h
    rw [List.mem_cons, List.mem_cons, List.mem_singleton]
    exact or_assoc.1 h
  · split
    · exact .inl hnull
    · split
      · rename_i inner hinner
        exact .inr (.inl ⟨inner, hinner, rfl⟩)
      · rename_i hquoted
        split
        · rename_i hnumber
          exact .inr (.inr ⟨hnumber, hquoted, rfl⟩)
        · exact .inl hnull

/-- Truth values and null stay as they are. -/
theorem render_word {t : Text} (h : t ∈ ["true".toList, "false".toList, "null".toList]) :
    render t = t := by
  simp only [List.mem_cons, List.not_mem_nil, or_false] at h
  rcases h with rfl | rfl | rfl <;> decide +kernel

/-- What is none of the words is told by its quotes, and then by its digits. -/
theorem render_of_not_word {t : Text} (htrim : Text.trim t = t)
    (hword : t ∉ ["true".toList, "false".toList, "null".toList, "undefined".toList]) :
    render t =
      match unquote? t with
      | some inner => '"' :: (requote inner ++ ['"'])
      | none => if isNumber t then t else "null".toList := by
  simp only [List.mem_cons, List.not_mem_nil, or_false, not_or] at hword
  obtain ⟨htrue, hfalse, hnull, hundefined⟩ := hword
  unfold render
  dsimp only
  rw [htrim, if_neg, if_neg hundefined]
  · rfl
  · simp only [Bool.or_eq_true, decide_eq_true_eq, not_or]
    exact ⟨⟨htrue, hfalse⟩, hnull⟩

/-- Numbers stay as they are. -/
theorem render_number {t : Text} (h : isNumber t = true) : render t = t := by
  have hword : t ∉ ["true".toList, "false".toList, "null".toList, "undefined".toList] := by
    have hwords : ∀ w ∈ ["true".toList, "false".toList, "null".toList, "undefined".toList],
        isNumber w = false := by
      decide +kernel
    intro hmem
    exact Bool.false_ne_true ((hwords t hmem).symm.trans h)
  have hquoted : unquote? t = none := by
    rw [Option.eq_none_iff_forall_not_mem]
    intro inner hinner
    obtain ⟨quote, hquote, rfl⟩ := unquote?_eq_some_iff.1 hinner
    refine not_mem_of_isNumber h ?_ ?_ (List.mem_cons_self (a := quote))
    · rcases hquote with rfl | rfl <;> decide
    · rcases hquote with rfl | rfl <;> decide
  rw [render_of_not_word (trim_of_isNumber h) hword, hquoted]
  exact if_pos h

/-- A quoted text is put between double quotes, and its double quotes are escaped. -/
theorem render_text {quote : Char} (hquote : quote = '\'' ∨ quote = '"') (body : Text) :
    render (quote :: (body ++ [quote])) = '"' :: (requote body ++ ['"']) := by
  have htrim : Text.trim (quote :: (body ++ [quote])) = quote :: (body ++ [quote]) := by
    rcases hquote with rfl | rfl
    · exact Text.trim_framed (by decide) (by decide) body
    · exact Text.trim_framed (by decide) (by decide) body
  have hword : quote :: (body ++ [quote]) ∉
      ["true".toList, "false".toList, "null".toList, "undefined".toList] := by
    have hwords : ∀ w ∈ ["true".toList, "false".toList, "null".toList, "undefined".toList],
        w.head? ≠ some '\'' ∧ w.head? ≠ some '"' := by
      decide +kernel
    intro hmem
    obtain ⟨hsingle, hdouble⟩ := hwords _ hmem
    rcases hquote with rfl | rfl
    · exact hsingle rfl
    · exact hdouble rfl
  rw [render_of_not_word htrim hword, unquote?_eq_some_iff.2 ⟨quote, hquote, rfl⟩]

/-! ## Where writing comes to rest -/

/-- What default values are written as. -/
inductive IsRendered : Text → Prop where
  | word {t : Text} (h : t ∈ ["true".toList, "false".toList, "null".toList]) : IsRendered t
  | number (n : Numeral isDigit) : IsRendered n.written
  | text {body : Text} (h : IsGuarded body) : IsRendered ('"' :: (body ++ ['"']))

theorem isRendered_render (written : Text) : IsRendered (render written) := by
  rcases render_cases written with hword | ⟨inner, -, htext⟩ | ⟨hnumber, -, hkept⟩
  · exact .word hword
  · rw [htext]
    exact .text (isGuarded_escapeQuotes _)
  · obtain ⟨n, hn⟩ := isNumber_iff.1 hnumber
    rw [hkept, ← hn]
    exact .number n

theorem IsRendered.render_eq {t : Text} (h : IsRendered t) : render t = t := by
  cases h with
  | word h => exact render_word h
  | number n => exact render_number (isNumber_iff.2 ⟨n, rfl⟩)
  | text h => rw [render_text (.inr rfl), requote_eq_self_iff.2 h]

/-- **Writing comes to rest after one step.** What a default value is written as stays as it is, and
nothing else does. In particular the quotes of a text are escaped once and for all. -/
theorem rendering_stable (written : Text) :
    render (render written) = render written ∧
    (render written = written ↔ IsRendered written) ∧
    requote (requote written) = requote written := by
  refine ⟨(isRendered_render written).render_eq, ⟨fun h => ?_, IsRendered.render_eq⟩,
    requote_requote written⟩
  rw [← h]
  exact isRendered_render written

end BlazorBridge.Default
