import BlazorBridge.Parameter
import BlazorBridge.Proofs.WrapperType.Grammar

/-!
# Segments of parameter lists

A segment states one parameter: a name, perhaps a question mark, perhaps an annotation behind a colon and
perhaps a default value behind an equals sign, with white space in front of each. The default value may
be any text, also one with colons, equals signs and question marks, because the signs are looked for in
this order: the mark directly behind the name, then the first equals sign, then the first colon in front
of it.

Main statement (`segment_read_back`): every segment is read as the parameter that it states.
-/

namespace BlazorBridge.Parameter

/-! ## Names -/

/-- A run of characters that can stand in a name. -/
def IsRun (t : Text) : Prop := t ≠ [] ∧ ∀ c ∈ t, isNameChar c = true

theorem IsRun.not_mem {t : Text} (h : IsRun t) {c : Char} (hc : isNameChar c = false) : c ∉ t := by
  intro hmem
  rw [h.2 c hmem] at hc
  exact absurd hc (by simp)

theorem isRun_of_isName {t : Text} (h : Text.IsName t) : IsRun t :=
  ⟨h.1, fun c hc => by rw [isNameChar, h.2 c hc, Bool.true_or]⟩

theorem isBlank_of_isNameChar {c : Char} (h : isNameChar c = true) : isBlank c = false := by
  rcases Bool.or_eq_true_iff.1 h with h | h
  · exact isBlank_of_isWord h
  · rw [beq_iff_eq.1 h]
    decide

theorem isNameChar_of_isBlank {c : Char} (h : isBlank c = true) : isNameChar c = false := by
  rw [Bool.eq_false_iff]
  intro hc
  rw [isBlank_of_isNameChar hc] at h
  exact absurd h (by simp)

/-- Around a name and what follows it, white space is trimmed, and nothing of the name is. -/
theorem IsRun.trim_append {name : Text} (h : IsRun name) {front : Text} (hfront : Text.isBlank front = true)
    (rest : Text) : Text.trim (front ++ (name ++ rest)) = name ++ Text.trimBack rest := by
  obtain ⟨hne, hchars⟩ := h
  have hsolid : Text.IsSolid (name ++ rest) := by
    obtain ⟨c, name, rfl⟩ := List.exists_cons_of_ne_nil hne
    exact Text.isSolid_cons.2 (isBlank_of_isNameChar (hchars c (by simp)))
  obtain ⟨init, last, rfl⟩ := (List.eq_nil_or_concat name).resolve_left hne
  have hlast := isBlank_of_isNameChar (hchars last (by simp))
  rw [Text.trim_blank_append hfront, Text.trim, hsolid, List.concat_eq_append, List.append_assoc,
    List.singleton_append, Text.trimBack_append_cons hlast, List.append_assoc, List.singleton_append]

theorem IsRun.trim_append_of_isBlank {name w : Text} (h : IsRun name) (hw : Text.isBlank w = true) :
    Text.trim (name ++ w) = name := by
  have hfront : Text.isBlank [] = true := rfl
  have htrim := h.trim_append hfront []
  rw [Text.trim_append_of_isBlank _ hw]
  simpa [Text.trimBack] using htrim

/-- Neither a name nor the white space behind it holds a sign. -/
theorem IsRun.not_mem_append {name w : Text} (h : IsRun name) (hw : Text.isBlank w = true) {c : Char}
    (hname : isNameChar c = false) (hblank : isBlank c = false) : c ∉ name ++ w := by
  rw [List.mem_append, not_or]
  refine ⟨h.not_mem hname, fun hmem => ?_⟩
  rw [Text.isBlank_iff.1 hw c hmem] at hblank
  exact absurd hblank (by simp)

/-! ## The mark -/

section

variable {name w rest : Text}

/-- A name ends in front of what begins with no character of a name. -/
theorem dropMark?_append (hname : IsRun name) (hrest : ∀ c ∈ rest.head?, isNameChar c = false) :
    dropMark? (name ++ rest) =
      match Text.trimFront rest with
      | '?' :: behind => some (name ++ behind)
      | _ => none := by
  obtain ⟨hne, hchars⟩ := hname
  have htake : (name ++ rest).takeWhile isNameChar = name := by
    rw [List.takeWhile_append_of_pos hchars]
    cases rest with
    | nil => simp
    | cons c rest => simp [List.takeWhile_cons_of_neg, hrest c rfl]
  have hdrop : (name ++ rest).dropWhile isNameChar = rest := by
    rw [List.dropWhile_append_of_pos hchars]
    cases rest with
    | nil => rfl
    | cons c rest => simp [List.dropWhile_cons_of_neg, hrest c rfl]
  unfold dropMark?
  rw [htake, hdrop]
  obtain ⟨c, name, rfl⟩ := List.exists_cons_of_ne_nil hne
  rfl

/-- A name ends in front of white space too. -/
theorem head?_blank_append (hw : Text.isBlank w = true) (hrest : ∀ c ∈ rest.head?, isNameChar c = false) :
    ∀ c ∈ (w ++ rest).head?, isNameChar c = false := by
  intro c hc
  cases w with
  | nil => exact hrest c hc
  | cons d w =>
    obtain rfl : d = c := by simpa using hc
    exact isNameChar_of_isBlank (Text.isBlank_cons.1 hw).1

/-- A mark behind a name is dropped, with the white space in front of it. -/
theorem dropMark?_mark (hname : IsRun name) (hw : Text.isBlank w = true) :
    dropMark? (name ++ (w ++ '?' :: rest)) = some (name ++ rest) := by
  have hmark : ∀ c ∈ ('?' :: rest).head?, isNameChar c = false := by
    rintro c ⟨⟩
    decide
  rw [dropMark?_append hname (head?_blank_append hw hmark),
    Text.trimFront_blank_append hw (Text.isSolid_cons.2 (by decide))]
  rfl

/-- Where a colon, an equals sign or nothing follows a name, there is no mark. -/
theorem dropMark?_sign (hname : IsRun name) (hw : Text.isBlank w = true)
    (hrest : ∀ c ∈ rest.head?, c = ':' ∨ c = '=') : dropMark? (name ++ (w ++ rest)) = none := by
  have hsign : ∀ c ∈ rest.head?, isNameChar c = false := by
    intro c hc
    rcases hrest c hc with rfl | rfl <;> decide
  have hsolid : Text.IsSolid rest := by
    cases rest with
    | nil => rfl
    | cons c rest => rcases hrest c rfl with rfl | rfl <;> exact Text.isSolid_cons.2 (by decide)
  rw [dropMark?_append hname (head?_blank_append hw hsign), Text.trimFront_blank_append hw hsolid]
  split
  · rename_i behind
    rcases hrest '?' rfl with h | h <;> exact absurd h (by decide)
  · rfl

end

/-! ## The type -/

/-- The type that the tags give a parameter without annotation. -/
def typeOf (tags : TypeTags) (name : Text) : Text :=
  match tags.parameter? name with
  | some (c :: written) => WrapperType.ofAnnotation (c :: written)
  | _ => WrapperType.object

theorem typeOf_of_stated {tags : TypeTags} {name type : Text} (h : tags.parameter? name = some type)
    (hne : type ≠ []) : typeOf tags name = WrapperType.ofAnnotation type := by
  obtain ⟨c, written, rfl⟩ := List.exists_cons_of_ne_nil hne
  rw [typeOf, h]

section

variable (tags : TypeTags) {name w : Text}

theorem nameAndType_bare (hname : IsRun name) (hw : Text.isBlank w = true) :
    nameAndType tags (name ++ w) = (name, typeOf tags name) := by
  have hcolon : Text.cut ':' (name ++ w) = none := by
    rw [Text.cut_eq_none_iff]
    exact hname.not_mem_append hw (by decide) (by decide)
  unfold nameAndType typeOf
  rw [hcolon]
  dsimp only
  rw [hname.trim_append_of_isBlank hw]
  rcases tags.parameter? name with _ | _ | ⟨c, written⟩
  · rfl
  · rfl
  · rfl

theorem nameAndType_annotated (hname : IsRun name) (hw : Text.isBlank w = true) (written : Text) :
    nameAndType tags (name ++ (w ++ ':' :: written)) =
      (name, WrapperType.ofAnnotation written) := by
  have hcolon : Text.cut ':' (name ++ (w ++ ':' :: written)) = some (name ++ w, written) := by
    rw [Text.cut_eq_some_iff, List.append_assoc]
    exact ⟨rfl, hname.not_mem_append hw (by decide) (by decide)⟩
  unfold nameAndType
  rw [hcolon]
  dsimp only
  rw [hname.trim_append_of_isBlank hw]

end

/-! ## Segments -/

/-- White space, perhaps none. -/
abbrev Blanks := { w : Text // Text.isBlank w = true }

/-- A segment that states a parameter. White space may stand in front of each part and at the end; behind a
sign it belongs to what the sign introduces. -/
structure Segment where
  front : Blanks
  name : Text
  mark : Option Blanks
  annotated : Option (Blanks × Text)
  default : Option (Blanks × Text)
  back : Blanks
  isRun : IsRun name
  noEquals : ∀ e ∈ annotated, '=' ∉ e.2

namespace Segment

variable (s : Segment)

/-- The question mark. -/
def markText : Text :=
  match s.mark with
  | none => []
  | some w => w ++ ['?']

/-- The colon and the annotation. -/
def annotationText : Text :=
  match s.annotated with
  | none => []
  | some (w, annotation) => w ++ ':' :: annotation

/-- The equals sign and the default value. -/
def defaultText : Text :=
  match s.default with
  | none => []
  | some (w, default) => w ++ '=' :: default

/-- What stands behind the question mark. -/
def rest : Text := s.annotationText ++ (s.defaultText ++ s.back)

/-- A segment as it is written. -/
def written : Text := s.front ++ (s.name ++ (s.markText ++ s.rest))

/-- The type that a segment states: that of its annotation, and without one that of the tags. -/
def type (tags : TypeTags) : Text :=
  match s.annotated with
  | none => typeOf tags s.name
  | some (_, annotation) => WrapperType.ofAnnotation annotation

/-- The default value that a segment states. -/
def value : Option Text := s.default.map fun e => Text.trim e.2

/-- Whether a segment states that a call may leave the parameter out. -/
def isOptional : Bool := s.mark.isSome || s.default.isSome

/-! ## Reading a segment -/

/-- Behind the mark a segment goes on with a colon or an equals sign, if at all. -/
theorem exists_sign : ∃ w behind, Text.isBlank w = true ∧ Text.trimBack s.rest = w ++ behind ∧
    ∀ c ∈ behind.head?, c = ':' ∨ c = '=' := by
  have hsign : ∀ (w : Blanks) (c : Char) (behind : Text), c = ':' ∨ c = '=' →
      ∃ w' behind', Text.isBlank w' = true ∧ Text.trimBack (w ++ c :: behind) = w' ++ behind' ∧
        ∀ d ∈ behind'.head?, d = ':' ∨ d = '=' := by
    intro w c behind hc
    have hsolid : isBlank c = false := by
      rcases hc with rfl | rfl <;> decide
    exact ⟨w, c :: Text.trimBack behind, w.2, Text.trimBack_append_cons hsolid w behind,
      by simpa using hc⟩
  unfold rest annotationText defaultText
  cases s.annotated with
  | some e =>
    obtain ⟨w, annotation⟩ := e
    dsimp only
    rw [List.append_assoc, List.cons_append]
    exact hsign w ':' _ (.inl rfl)
  | none =>
    rw [List.nil_append]
    cases s.default with
    | some e =>
      obtain ⟨w, default⟩ := e
      dsimp only
      rw [List.append_assoc, List.cons_append]
      exact hsign w '=' _ (.inr rfl)
    | none => exact ⟨[], [], rfl, Text.trimBack_append_of_isBlank [] s.back.2, by simp⟩

theorem trim_written : Text.trim s.written = s.name ++ Text.trimBack (s.markText ++ s.rest) :=
  s.isRun.trim_append s.front.2 _

/-- The mark is dropped if there is one. -/
theorem dropMark?_written :
    dropMark? (Text.trim s.written) = s.mark.map fun _ => s.name ++ Text.trimBack s.rest := by
  rw [s.trim_written, markText]
  cases s.mark with
  | none =>
    obtain ⟨w, behind, hw, heq, hbehind⟩ := s.exists_sign
    rw [List.nil_append, heq, dropMark?_sign s.isRun hw hbehind]
    rfl
  | some w =>
    dsimp only
    rw [List.append_assoc, List.singleton_append, Text.trimBack_append_cons (by decide),
      dropMark?_mark s.isRun w.2]
    rfl

/-- With or without mark, the same is read on. -/
theorem unmarked :
    (dropMark? (Text.trim s.written)).getD (Text.trim s.written) =
      s.name ++ Text.trimBack s.rest := by
  rw [s.dropMark?_written, s.trim_written, markText]
  cases s.mark with
  | none => rfl
  | some w => rfl

theorem equals_not_mem (w : Blanks) : '=' ∉ s.name ++ (s.annotationText ++ w) := by
  have hblank : ∀ w : Blanks, '=' ∉ w.1 := fun w hmem =>
    absurd (Text.isBlank_iff.1 w.2 '=' hmem) (by decide)
  have hannotation : '=' ∉ s.annotationText := by
    unfold annotationText
    split
    · simp
    · rename_i w' annotation heq
      have hplain := s.noEquals _ heq
      simp [hblank w', hplain]
  simp [s.isRun.not_mem (c := '=') (by decide), hannotation, hblank w]

/-- The default value stands behind the first equals sign. -/
theorem cut_equals :
    Text.cut '=' (s.name ++ Text.trimBack s.rest) = s.default.map fun e =>
      (s.name ++ (s.annotationText ++ e.1), Text.trimBack (e.2 ++ s.back)) := by
  unfold rest defaultText
  cases s.default with
  | none =>
    rw [Option.map_none, Text.cut_eq_none_iff, List.nil_append]
    obtain ⟨w, -, hw⟩ := Text.exists_trimBack_append (s.annotationText ++ s.back)
    intro hmem
    refine s.equals_not_mem s.back ?_
    rw [hw, ← List.append_assoc]
    exact List.mem_append_left w hmem
  | some e =>
    obtain ⟨w, default⟩ := e
    have hsplit : s.annotationText ++ (w ++ '=' :: default ++ s.back) =
        (s.annotationText ++ w) ++ '=' :: (default ++ s.back) := by
      simp
    rw [Option.map_some, Text.cut_eq_some_iff]
    dsimp only
    rw [hsplit, Text.trimBack_append_cons (by decide), ← List.append_assoc]
    exact ⟨rfl, s.equals_not_mem w⟩

/-- In front of the default value stand the name and the type. -/
theorem nameAndType_front (tags : TypeTags) (w : Blanks) :
    nameAndType tags (s.name ++ (s.annotationText ++ w)) = (s.name, s.type tags) := by
  unfold annotationText type
  cases s.annotated with
  | none => exact nameAndType_bare tags s.isRun w.2
  | some e =>
    obtain ⟨w', annotation⟩ := e
    dsimp only
    rw [List.append_assoc, List.cons_append, nameAndType_annotated tags s.isRun w'.2,
      ← WrapperType.ofAnnotation_trim, Text.trim_append_of_isBlank _ w.2,
      WrapperType.ofAnnotation_trim]

theorem nameAndType_rest (tags : TypeTags) (hdefault : s.default = none) :
    nameAndType tags (s.name ++ Text.trimBack s.rest) = (s.name, s.type tags) := by
  unfold rest annotationText defaultText type
  rw [hdefault]
  cases s.annotated with
  | none =>
    have hblank : Text.trimBack s.back = [] := Text.trimBack_append_of_isBlank [] s.back.2
    dsimp only
    rw [List.nil_append, List.nil_append, hblank]
    exact nameAndType_bare tags s.isRun rfl
  | some e =>
    obtain ⟨w', annotation⟩ := e
    dsimp only
    rw [List.append_assoc, List.cons_append, List.nil_append, Text.trimBack_append_cons (by decide),
      nameAndType_annotated tags s.isRun w'.2, ← WrapperType.ofAnnotation_trim, Text.trim_trimBack,
      Text.trim_append_of_isBlank _ s.back.2, WrapperType.ofAnnotation_trim]

end Segment

/-- A parameter is made of its fields, and of no others. -/
theorem ofFields?_eq_some_iff {name type : Text} {isOptional : Bool} {default : Option Text}
    {p : Parameter} :
    ofFields? name type isOptional default = some p ↔
      p.name = name ∧ p.type = type ∧ p.isOptional = isOptional ∧ p.default? = default := by
  obtain ⟨name', type', presence⟩ := p
  unfold ofFields? Parameter.isOptional default?
  cases isOptional with
  | true => cases presence <;> simp [eq_comm]
  | false =>
    cases default with
    | none => cases presence <;> simp [eq_comm]
    | some value => cases presence <;> simp

/-- A segment is read as what it states. -/
theorem ofSegment_written (tags : TypeTags) (s : Segment) :
    ofFields? s.name (s.type tags) s.isOptional s.value = some (ofSegment tags s.written) := by
  unfold ofSegment Segment.isOptional Segment.value
  dsimp only
  rw [s.unmarked, s.cut_equals, s.dropMark?_written]
  cases hdefault : s.default with
  | some e =>
    simp only [Option.map_some, s.nameAndType_front, Text.trim_trimBack,
      Text.trim_append_of_isBlank _ s.back.2]
    simp [ofFields?]
  | none =>
    simp only [Option.map_none, s.nameAndType_rest tags hdefault]
    cases s.mark with
    | none => rfl
    | some w => rfl

/-- **Every segment is read as the parameter it states.** A parameter can be made of what it states, and it
is the one that is read. It has the name of the segment, and the type of the annotation, or else that of
the tags. It may be left out exactly if there is a mark or a default value, and its default value is that
of the segment, trimmed. -/
theorem segment_read_back (tags : TypeTags) (s : Segment) :
    ofFields? s.name (s.type tags) s.isOptional s.value = some (ofSegment tags s.written) ∧
    (ofSegment tags s.written).name = s.name ∧
    (ofSegment tags s.written).type = s.type tags ∧
    (ofSegment tags s.written).isOptional = (s.mark.isSome || s.default.isSome) ∧
    (ofSegment tags s.written).default? = s.default.map fun e => Text.trim e.2 :=
  ⟨ofSegment_written tags s, ofFields?_eq_some_iff.1 (ofSegment_written tags s)⟩

example :
    ofSegment {} "\ta$ ? : Promise<x> = 'b=c: d?' ".toList =
      ⟨"a$".toList, "Task<object>".toList, .optional (some "'b=c: d?'".toList)⟩ := by
  decide +kernel

end BlazorBridge.Parameter
