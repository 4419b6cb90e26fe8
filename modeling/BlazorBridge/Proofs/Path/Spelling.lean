import BlazorBridge.Path
import BlazorBridge.Proofs.Text.Marks
import BlazorBridge.Text.Utf8

/-!
# Paths as they are spelled

The parts of a path that was read are plain: none is empty, none is a single dot, and none holds a slash
(`isPlain_ofText`). A path with plain parts is written so that it is read back (`ofText_toText`), and so
are its parts alone, joined by slashes (`ofText_join`). Following one path from another does not depend
on where a path is cut (`join_assoc`).
-/

namespace BlazorBridge.Path

variable {p q : Path}

/-! ## Plain parts -/

/-- A part that a path can be read to have: it is not empty and no single dot, and holds no slash. -/
structure IsPlainPart (part : Text) : Prop where
  nonempty : part ≠ []
  notSelf : part ≠ selfPart
  noSlash : '/' ∉ part

/-- A path that can be read. -/
def IsPlain (p : Path) : Prop := ∀ part ∈ p.parts, IsPlainPart part

theorem isPlain_ofText (t : Text) : (ofText t).IsPlain := by
  intro part hpart
  obtain ⟨hpiece, hkept⟩ := List.mem_filter.1 hpart
  simp only [Bool.and_eq_true, Bool.not_eq_true', List.isEmpty_eq_false_iff, bne_iff_ne] at hkept
  refine ⟨hkept.1, hkept.2, fun hslash => ?_⟩
  simpa using Text.not_sep_of_mem_split hpiece hslash

theorem IsPlain.join (hp : p.IsPlain) (hq : q.IsPlain) : (p.join q).IsPlain := by
  unfold Path.join
  split
  · intro part hpart
    exact (List.mem_append.1 hpart).elim (hp part) (hq part)
  · exact hq

/-! ## Reading back -/

theorem filter_plain {parts : List Text} (h : ∀ part ∈ parts, IsPlainPart part) :
    (parts.filter fun part => !part.isEmpty && part != selfPart) = parts := by
  refine List.filter_eq_self.2 fun part hpart => ?_
  have hplain := h part hpart
  simp [hplain.nonempty, hplain.notSelf]

/-- An anchor in front of joined parts is read back, and so are the parts. -/
theorem ofText_anchor_join (a : Anchor) {parts : List Text} (h : ∀ part ∈ parts, IsPlainPart part) :
    ofText (a.text ++ Text.join ['/'] parts) = ⟨a, parts⟩ := by
  cases parts with
  | nil => cases a <;> rfl
  | cons first rest =>
    have hsplit := Text.split_join (c := '/') (List.cons_ne_nil first rest) fun part hpart =>
      (h part hpart).noSlash
    -- No slash begins the joined parts, so the run of slashes in front of them is the anchor.
    have hrun : (Text.join ['/'] (first :: rest)).takeWhile (· == '/') = [] := by
      have hfirst := h first (by simp)
      obtain ⟨c, cs, rfl⟩ := List.exists_cons_of_ne_nil hfirst.nonempty
      have hc : c ≠ '/' := fun heq => hfirst.noSlash (by simp [heq])
      rw [Text.join_cons, List.cons_append, List.takeWhile_cons_of_neg (by simpa using hc)]
    unfold ofText
    cases a with
    | relative =>
      rw [Anchor.text, List.nil_append, hsplit, filter_plain h, anchorOf, hrun]
      rfl
    | root =>
      rw [Anchor.text, List.singleton_append, Text.split_cons_sep (by simp), hsplit,
        List.filter_cons_of_neg (by simp), filter_plain h, anchorOf,
        List.takeWhile_cons_of_pos (by simp), hrun]
      rfl
    | doubleRoot =>
      rw [Anchor.text, List.cons_append, List.singleton_append, Text.split_cons_sep (by simp),
        Text.split_cons_sep (by simp), hsplit, List.filter_cons_of_neg (by simp),
        List.filter_cons_of_neg (by simp), filter_plain h, anchorOf,
        List.takeWhile_cons_of_pos (by simp), List.takeWhile_cons_of_pos (by simp), hrun]
      rfl

/-- **A path is read back.** What is written for a path that can be read is read as that path. -/
theorem ofText_toText (h : p.IsPlain) : ofText p.toText = p := by
  have hread := ofText_anchor_join p.anchor h
  unfold toText
  split
  · rename_i hnil
    rw [hnil] at hread
    have hdot : ofText ['.'] = ofText [] := rfl
    rw [hdot, hread]
  · exact hread

/-- Parts joined by slashes are read as a relative path. -/
theorem ofText_join {parts : List Text} (h : ∀ part ∈ parts, IsPlainPart part) :
    ofText (Text.join ['/'] parts) = ⟨.relative, parts⟩ :=
  ofText_anchor_join .relative h

/-- A path with an anchor starts over, wherever it is followed from. -/
theorem join_of_anchor {a : Anchor} (h : a ≠ .relative) (p : Path) (parts : List Text) :
    p.join ⟨a, parts⟩ = ⟨a, parts⟩ := by
  cases a with
  | relative => exact absurd rfl h
  | root => rfl
  | doubleRoot => rfl

theorem join_of_relative {a : Anchor} (h : a = .relative) (p : Path) (parts : List Text) :
    p.join ⟨a, parts⟩ = ⟨p.anchor, p.parts ++ parts⟩ := by
  rw [h]
  rfl

theorem join_assoc (p q r : Path) : (p.join q).join r = p.join (q.join r) := by
  obtain ⟨a, xs⟩ := q
  obtain ⟨b, ys⟩ := r
  cases a <;> cases b <;> simp [Path.join]

/-! ## Directories and names -/

theorem parent_join_name {p : Path} (h : p.parts ≠ []) :
    p.parent.join ⟨.relative, [p.name]⟩ = p := by
  obtain ⟨anchor, parts⟩ := p
  obtain ⟨front, last, rfl⟩ := (List.eq_nil_or_concat parts).resolve_left h
  rw [join_of_relative rfl, parent, name]
  simp

theorem name_join {q : Path} (h : q.parts ≠ []) (p : Path) : (p.join q).name = q.name := by
  obtain ⟨anchor, parts⟩ := q
  obtain ⟨front, last, rfl⟩ := (List.eq_nil_or_concat parts).resolve_left h
  cases anchor <;> simp [join, name, ← List.append_assoc]

theorem parts_join_ne_nil {q : Path} (h : q.parts ≠ []) (p : Path) : (p.join q).parts ≠ [] := by
  obtain ⟨anchor, parts⟩ := q
  cases anchor with
  | relative => exact List.append_ne_nil_of_right_ne_nil _ h
  | root => exact h
  | doubleRoot => exact h

theorem name_mem_parts {p : Path} (h : p.parts ≠ []) : p.name ∈ p.parts := by
  obtain ⟨anchor, parts⟩ := p
  obtain ⟨front, last, rfl⟩ := (List.eq_nil_or_concat parts).resolve_left h
  simp [name]

theorem hasNull_eq {p : Path} (h : p.parts ≠ []) :
    p.hasNull = (p.parent.hasNull || p.name.contains (Char.ofNat 0)) := by
  obtain ⟨anchor, parts⟩ := p
  obtain ⟨front, last, rfl⟩ := (List.eq_nil_or_concat parts).resolve_left h
  simp [hasNull, parent, name, List.any_append]

/-- The path of a directory has no more bytes than the path of a place in it, unless it is a dot or an
anchor. -/
theorem length_toText_parent (anchor : Anchor) (front : List Text) (last : Text) :
    (Utf8.encode (toText ⟨anchor, front⟩)).length ≤ 2 ∨
      (Utf8.encode (toText ⟨anchor, front⟩)).length ≤
        (Utf8.encode (toText ⟨anchor, front ++ [last]⟩)).length := by
  by_cases hfront : front = []
  · rw [hfront]
    cases anchor <;> exact .inl (by decide)
  · unfold toText
    rw [Text.join_append ['/'] hfront (by simp), ← List.append_assoc, ← List.append_assoc]
    cases hfirst : anchor.text ++ Text.join ['/'] front with
    | nil => exact .inl (by decide)
    | cons c text =>
      right
      simp only [List.cons_append, Utf8.encode, List.flatMap_cons, List.flatMap_append,
        List.length_append]
      omega

end BlazorBridge.Path
