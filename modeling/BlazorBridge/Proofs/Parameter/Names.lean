import BlazorBridge.Proofs.Parameter.Segment
import BlazorBridge.Proofs.Text.Marks

/-!
# Lists of names

A parameter list that holds nothing but names is read as one parameter for each name, in order. Each
must be given, and its type is the one that the tags state (`ofList_join`).
-/

namespace BlazorBridge.Parameter

open BlazorBridge.Text (IsName)

/-- A list of names is cut at its commas, and a space stays in front of all names but the first. -/
theorem split_join_names {ps : List Text} (h : ∀ p ∈ ps, ',' ∉ p) {p : Text} (hp : ',' ∉ p) :
    Text.split (· == ',') (Text.join ", ".toList (p :: ps)) = p :: ps.map ([' '] ++ ·) := by
  rw [Text.join_cons]
  induction ps generalizing p with
  | nil =>
    rw [List.flatMap_nil, List.append_nil]
    exact Text.split_of_not_mem hp
  | cons q qs ih =>
    have hcomma : p ++ List.flatMap (", ".toList ++ ·) (q :: qs) =
        p ++ ',' :: (([' '] ++ q) ++ List.flatMap (", ".toList ++ ·) qs) := by
      simp
    have hq : ',' ∉ [' '] ++ q := by
      rw [List.mem_append, not_or]
      exact ⟨by decide, h q (by simp)⟩
    rw [hcomma, Text.split_append_sep rfl, ih (fun r hr => h r (by simp [hr])) hq,
      Text.split_of_not_mem hp]
    rfl

/-- A bare name is a parameter that must be given. -/
theorem ofSegment_name (tags : TypeTags) {segment name : Text} (hname : IsName name)
    (htrim : Text.trim segment = name) :
    ofSegment tags segment = ⟨name, typeOf tags name, .required⟩ := by
  obtain ⟨u, v, hu, hv, hsegment⟩ := Text.exists_trim_eq segment
  let bare : Segment := ⟨⟨u, hu⟩, name, none, none, none, ⟨v, hv⟩, isRun_of_isName hname, by simp⟩
  have hwritten : bare.written = segment := by
    rw [hsegment, htrim, List.append_assoc]
    rfl
  have hread := ofSegment_written tags bare
  rw [hwritten] at hread
  exact (Option.some.inj hread).symm

/-- A list of names is read as parameters that must be given. -/
theorem ofList_join (tags : TypeTags) {names : List Text} (h : ∀ n ∈ names, IsName n) :
    ofList tags (Text.join ", ".toList names) =
      names.map fun n => ⟨n, typeOf tags n, .required⟩ := by
  have hsegment : ∀ n, IsName n → Text.trim ([' '] ++ n) = n := by
    intro n hn
    rw [Text.trim_blank_append (by decide), hn.trim_eq]
  have hblank : ∀ n, IsName n → ∀ segment, Text.trim segment = n → Text.isBlank segment = false := by
    intro n hn segment hs
    rw [← Bool.not_eq_true, ← Text.trim_eq_nil_iff, hs]
    exact hn.1
  cases names with
  | nil => rfl
  | cons n ns =>
    have hn := h n (by simp)
    have hns : ∀ m ∈ ns, IsName m := fun m hm => h m (by simp [hm])
    have hcomma : isWord ',' = false := by decide
    unfold ofList
    rw [split_join_names (fun m hm => (hns m hm).not_mem hcomma) (hn.not_mem hcomma),
      List.filter_eq_self.2, List.map_cons, List.map_map, ofSegment_name tags hn hn.trim_eq,
      List.map_cons]
    · refine congrArg _ (List.map_congr_left fun m hm => ?_)
      exact ofSegment_name tags (hns m hm) (hsegment m (hns m hm))
    · intro segment hs
      rcases List.mem_cons.1 hs with rfl | hs
      · rw [hblank _ hn _ hn.trim_eq]
        rfl
      · obtain ⟨m, hm, rfl⟩ := List.mem_map.1 hs
        rw [hblank m (hns m hm) _ (hsegment m (hns m hm))]
        rfl

end BlazorBridge.Parameter
