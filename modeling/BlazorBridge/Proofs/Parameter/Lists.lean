import BlazorBridge.Proofs.Parameter.Segment
import BlazorBridge.Proofs.Text.Marks
import Mathlib.Data.List.Forall2

/-!
# Parameter lists

A list is cut at its commas, and each segment that is not blank is read on its own. What a segment
states may be anything (`statedName`, `statedDefault`, `statesOptional`), and a parameter is made of it
only if it passes the check that a default value belongs to a parameter that may be left out (`make?`).
It always passes (`make?_eq`).

Main statement (`list_read_by_segments`): lists are read segment by segment, a parameter is made of every
segment that is not blank, and its name is trimmed and holds none of the signs that cut a list.
-/

namespace BlazorBridge.Parameter

/-! ## What a segment states -/

/-- A segment without the white space around it and without the mark behind its name. -/
def withoutMark (segment : Text) : Text := (dropMark? (Text.trim segment)).getD (Text.trim segment)

/-- The part of a segment that the default value and its sign are cut off from. -/
def front (segment : Text) : Text := (withoutMark segment).takeWhile (· != '=')

/-- The name and the type that a segment states. -/
def statedName (tags : TypeTags) (segment : Text) : Text × Text := nameAndType tags (front segment)

/-- The default value that a segment states: what stands behind its first equals sign, trimmed. -/
def statedDefault (segment : Text) : Option Text :=
  (Text.cut '=' (withoutMark segment)).map fun (_, value) => Text.trim value

/-- Whether a segment states that a call may leave the parameter out: by a mark or an equals sign. -/
def statesOptional (segment : Text) : Bool :=
  (dropMark? (Text.trim segment)).isSome || (withoutMark segment).contains '='

/-- The parameter made of what a segment states. There is none if it states a default value and not that
the parameter may be left out. -/
def make? (tags : TypeTags) (segment : Text) : Option Parameter :=
  ofFields? (statedName tags segment).1 (statedName tags segment).2 (statesOptional segment)
    (statedDefault segment)

/-- Of every segment a parameter is made, and it is the one that is read. -/
theorem make?_eq (tags : TypeTags) (segment : Text) :
    make? tags segment = some (ofSegment tags segment) := by
  unfold make? statedName statedDefault statesOptional front ofSegment
  dsimp only
  rw [← withoutMark]
  cases hcut : Text.cut '=' (withoutMark segment) with
  | none =>
    have hequals := Text.cut_eq_none_iff.1 hcut
    have hcontains : (withoutMark segment).contains '=' = false := by simpa using hequals
    rw [Text.takeWhile_ne_of_not_mem hequals, hcontains, Bool.or_false]
    cases (dropMark? (Text.trim segment)).isSome <;> rfl
  | some parts =>
    obtain ⟨before, value⟩ := parts
    have hcontains : (withoutMark segment).contains '=' = true := by
      simp [(Text.cut_eq_some_iff.1 hcut).1]
    rw [Text.takeWhile_ne_of_cut hcut, hcontains, Bool.or_true]
    rfl

/-! ## Names -/

theorem dropMark?_subset {t rest : Text} (h : dropMark? t = some rest) : rest ⊆ t := by
  unfold dropMark? at h
  split at h
  · simp at h
  · rename_i c name hname
    split at h
    · rename_i behind hbehind
      obtain rfl := Option.some.inj h
      have hback : behind ⊆ t := by
        have hmark : '?' :: behind <:+ t := hbehind ▸
          (List.dropWhile_suffix _).trans (List.dropWhile_suffix isNameChar)
        exact fun d hd => hmark.subset (List.mem_cons_of_mem _ hd)
      exact List.append_subset.2 ⟨hname ▸ (List.takeWhile_prefix isNameChar).subset, hback⟩
    · simp at h

/-- All that is left of a segment in front of its default value stands in the segment. -/
theorem front_subset (segment : Text) : front segment ⊆ segment := by
  have htrim : Text.trim segment ⊆ segment := (Text.infix_trim segment).subset
  have hmark : withoutMark segment ⊆ segment := by
    unfold withoutMark
    cases hdrop : dropMark? (Text.trim segment) with
    | none => exact htrim
    | some rest => exact fun c hc => htrim (dropMark?_subset hdrop hc)
  exact fun c hc => hmark ((List.takeWhile_prefix _).subset hc)

/-- The name stands in front of the first colon, and is trimmed. -/
theorem nameAndType_fst (tags : TypeTags) (t : Text) :
    (nameAndType tags t).1 = Text.trim (t.takeWhile (· != ':')) := by
  unfold nameAndType
  cases hcut : Text.cut ':' t with
  | none =>
    dsimp only
    rw [Text.takeWhile_ne_of_not_mem (Text.cut_eq_none_iff.1 hcut)]
    split <;> rfl
  | some parts =>
    rw [Text.takeWhile_ne_of_cut hcut]

/-- The name that a segment is read with is trimmed, stands in the segment, and holds no equals sign and
no colon. -/
theorem name_ofSegment (tags : TypeTags) (segment : Text) :
    Text.trim (ofSegment tags segment).name = (ofSegment tags segment).name ∧
      (ofSegment tags segment).name ⊆ segment ∧
      '=' ∉ (ofSegment tags segment).name ∧ ':' ∉ (ofSegment tags segment).name := by
  have hname : (ofSegment tags segment).name =
      Text.trim ((front segment).takeWhile (· != ':')) := by
    rw [(ofFields?_eq_some_iff.1 (make?_eq tags segment)).1, statedName, nameAndType_fst]
  have hsubset : (ofSegment tags segment).name ⊆ (front segment).takeWhile (· != ':') :=
    hname ▸ (Text.infix_trim _).subset
  have hfront : (ofSegment tags segment).name ⊆ front segment := fun c hc =>
    (List.takeWhile_prefix _).subset (hsubset hc)
  refine ⟨by rw [hname, Text.trim_trim], fun c hc => front_subset segment (hfront hc), ?_, ?_⟩
  · intro hmem
    simpa using List.mem_takeWhile_imp (hfront hmem)
  · intro hmem
    simpa using List.mem_takeWhile_imp (hsubset hmem)

/-! ## Lists -/

/-- A comma parts the parameters in front of it from those behind it. -/
theorem ofList_append (tags : TypeTags) (a b : Text) :
    ofList tags (a ++ ',' :: b) = ofList tags a ++ ofList tags b := by
  unfold ofList
  rw [Text.split_append_sep (by decide), List.filter_append, List.map_append]

/-- A parameter of a list is read from a segment without commas. -/
theorem exists_segment {tags : TypeTags} {list : Text} {p : Parameter} (h : p ∈ ofList tags list) :
    ∃ segment, ',' ∉ segment ∧ ofSegment tags segment = p := by
  obtain ⟨segment, hsegment, rfl⟩ := List.mem_map.1 h
  refine ⟨segment, fun hcomma => ?_, rfl⟩
  simpa using Text.not_sep_of_mem_split (List.mem_filter.1 hsegment).1 hcomma

/-- **Parameter lists are read segment by segment.** A list that is two lists with a comma between them is
read as the parameters of the first and then those of the second. Every list is segments with commas
between them, and of each segment that is not blank, in order, one parameter is made, which passes the
check on its default value. The name of every parameter is trimmed and holds no comma, equals sign or
colon, and only one that may be left out has a default value. -/
theorem list_read_by_segments (tags : TypeTags) (list : Text) :
    (∀ a b, ofList tags (a ++ ',' :: b) = ofList tags a ++ ofList tags b) ∧
    (∃ segments, segments ≠ [] ∧ (∀ segment ∈ segments, ',' ∉ segment) ∧
      Text.join [','] segments = list ∧
      List.Forall₂ (fun segment p => make? tags segment = some p)
        (segments.filter (!Text.isBlank ·)) (ofList tags list)) ∧
    ∀ p ∈ ofList tags list, Text.trim p.name = p.name ∧
      ',' ∉ p.name ∧ '=' ∉ p.name ∧ ':' ∉ p.name ∧ (p.default?.isSome → p.isOptional) := by
  refine ⟨ofList_append tags, ⟨Text.split (· == ',') list, Text.split_ne_nil _ _, ?_,
    Text.join_split ',' list, ?_⟩, ?_⟩
  · intro segment hsegment hcomma
    simpa using Text.not_sep_of_mem_split hsegment hcomma
  · unfold ofList
    rw [List.forall₂_map_right_iff]
    exact List.forall₂_same.2 fun segment _ => make?_eq tags segment
  · intro p hp
    obtain ⟨segment, hcomma, rfl⟩ := exists_segment hp
    obtain ⟨htrim, hsubset, hequals, hcolon⟩ := name_ofSegment tags segment
    refine ⟨htrim, fun hmem => hcomma (hsubset hmem), hequals, hcolon, ?_⟩
    unfold default? isOptional
    cases (ofSegment tags segment).presence <;> simp

example :
    ofList {} " a , ,=1,b?:x=,".toList =
      [⟨"a".toList, "object".toList, .required⟩, ⟨[], "object".toList, .optional (some ['1'])⟩,
        ⟨['b'], "object".toList, .optional (some [])⟩] := by
  decide +kernel

end BlazorBridge.Parameter
