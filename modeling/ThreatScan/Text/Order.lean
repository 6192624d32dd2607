/-!
Texts in order of their code points, without repetition.
-/
namespace ThreatScan.Text

/-- A text put into a strictly increasing list. -/
def insertText (s : String) : List String → List String
  | [] => [s]
  | t :: rest => if s < t then s :: t :: rest else if s = t then t :: rest else t :: insertText s rest

/-- The members of a list in strictly increasing order. -/
def sortedTexts (ss : List String) : List String := ss.foldr insertText []

theorem mem_insertText {s t : String} {ss : List String} : t ∈ insertText s ss ↔ t = s ∨ t ∈ ss := by
  induction ss with
  | nil => simp [insertText]
  | cons u rest ih =>
    unfold insertText
    split
    · simp
    · split
      · next h => subst h; simp
      · simp [ih, or_left_comm]

@[simp] theorem mem_sortedTexts {t : String} {ss : List String} : t ∈ sortedTexts ss ↔ t ∈ ss := by
  induction ss with
  | nil => simp [sortedTexts]
  | cons s rest ih =>
    have h : sortedTexts (s :: rest) = insertText s (sortedTexts rest) := rfl
    rw [h, mem_insertText, ih, List.mem_cons]

theorem pairwise_insertText {s : String} {ss : List String} (h : ss.Pairwise (· < ·)) :
    (insertText s ss).Pairwise (· < ·) := by
  induction ss with
  | nil => exact List.pairwise_singleton _ s
  | cons t rest ih =>
    obtain ⟨hlt, hrest⟩ := List.pairwise_cons.mp h
    unfold insertText
    split
    · next hst =>
      refine List.pairwise_cons.mpr ⟨fun u hu => ?_, h⟩
      rcases List.mem_cons.mp hu with rfl | hu
      · exact hst
      · exact String.lt_trans hst (hlt u hu)
    · next hst =>
      split
      · exact h
      · next hne =>
        refine List.pairwise_cons.mpr ⟨fun u hu => ?_, ih hrest⟩
        rcases mem_insertText.mp hu with rfl | hu
        · exact Decidable.byContradiction fun hts => hne (String.le_antisymm hts hst)
        · exact hlt u hu

theorem pairwise_sortedTexts (ss : List String) : (sortedTexts ss).Pairwise (· < ·) := by
  induction ss with
  | nil => exact List.Pairwise.nil
  | cons s rest ih => exact pairwise_insertText ih

end ThreatScan.Text
