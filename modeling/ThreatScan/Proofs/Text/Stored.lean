import ThreatScan.Proofs.Text.Reading
import ThreatScan.Proofs.Text.Search
/-!
The lines of a text that was stored in a file.

A file is read with uniform line ends and cut at line feeds (`storedLines`). What stands in front of the first line end
belongs to the first line (`storedLines_append`), and a text that ends in a line feed can be read on its own, whatever comes
behind it (`storedLines_ended`): a carriage return at its end does not run into the next text. A text without line ends
stands in the stored text if and only if it stands in one of its lines (`exists_mem_storedLines_iff`).
-/
namespace ThreatScan.Text

def storedLines (s : List Char) : List (List Char) := cutAt '\n' (uniformLines s)

def OneLine (s : List Char) : Prop := '\n' ∉ s ∧ '\r' ∉ s

instance (s : List Char) : Decidable (OneLine s) := inferInstanceAs (Decidable (_ ∧ _))

theorem OneLine.append {s t : List Char} (hs : OneLine s) (ht : OneLine t) : OneLine (s ++ t) := by
  constructor
  · rw [List.mem_append, not_or]
    exact ⟨hs.1, ht.1⟩
  · rw [List.mem_append, not_or]
    exact ⟨hs.2, ht.2⟩

theorem OneLine.cons {c : Char} {s : List Char} (hc : c ≠ '\n' ∧ c ≠ '\r') (hs : OneLine s) : OneLine (c :: s) :=
  ⟨List.not_mem_cons_of_ne_of_not_mem hc.1.symm hs.1, List.not_mem_cons_of_ne_of_not_mem hc.2.symm hs.2⟩

theorem cutAt_append_sep (sep : Char) (s t : List Char) : cutAt sep (s ++ sep :: t) = cutAt sep s ++ cutAt sep t := by
  induction s with
  | nil => simp [cutAt]
  | cons c rest ih =>
    rw [List.cons_append, cutAt, cutAt, ih]
    split
    · rfl
    · cases hr : cutAt sep rest with
      | nil => exact absurd hr (cutAt_ne_nil sep rest)
      | cons piece pieces => rfl

theorem lines_joined (s t : String) : lines (s ++ "\n" ++ t) = lines s ++ lines t := by
  have hfeed : (s ++ "\n" ++ t).toList = s.toList ++ '\n' :: t.toList := by simp
  rw [lines, hfeed, cutAt_append_sep, List.map_append]
  rfl

theorem cutAt_append {sep : Char} {p s first : List Char} {others : List (List Char)} (hp : sep ∉ p)
    (hs : cutAt sep s = first :: others) : cutAt sep (p ++ s) = (p ++ first) :: others := by
  induction p with
  | nil => exact hs
  | cons c rest ih =>
    rw [List.cons_append, cutAt, if_neg (List.ne_of_not_mem_cons hp).symm, ih (List.not_mem_of_not_mem_cons hp)]
    rfl

/-- A text without line ends stays what it is, whatever is around it. -/
theorem uniformLines_around {x : List Char} (hx : OneLine x) (hne : x ≠ []) (before after : List Char) :
    uniformLines (before ++ (x ++ after)) = uniformLines before ++ (x ++ uniformLines after) := by
  have hhead : (x ++ after).head? ≠ some '\n' := by
    obtain ⟨c, rest, rfl⟩ := List.exists_cons_of_ne_nil hne
    rw [List.cons_append, List.head?_cons, ne_eq, Option.some.injEq]
    exact (List.ne_of_not_mem_cons hx.1).symm
  rw [uniformLines_append before hhead, uniformLines_append_of_not_mem hx.2]

theorem storedLines_append {p s first : List Char} {others : List (List Char)} (hp : OneLine p)
    (hs : storedLines s = first :: others) : storedLines (p ++ s) = (p ++ first) :: others := by
  unfold storedLines
  rw [uniformLines_append_of_not_mem hp.2]
  exact cutAt_append hp.1 hs

/-- A line end is read as one, also where its first half ends the text before it. -/
theorem exists_uniformLines_lineFeed (s : List Char) :
    ∃ t, ∀ rest, uniformLines (s ++ '\n' :: rest) = t ++ '\n' :: uniformLines rest := by
  fun_induction uniformLines s with
  | case1 => exact ⟨[], fun rest => uniformLines_cons (by decide) rest⟩
  | case2 s ih =>
    obtain ⟨t, ht⟩ := ih
    refine ⟨'\n' :: t, fun rest => ?_⟩
    rw [List.cons_append, List.cons_append, uniformLines, ht, List.cons_append]
  | case3 c s hne ih =>
    obtain ⟨t, ht⟩ := ih
    by_cases hc : c = '\r' ∧ s = []
    · obtain ⟨rfl, rfl⟩ := hc
      exact ⟨[], fun rest => by rw [List.cons_append, List.nil_append, uniformLines, List.nil_append]⟩
    · refine ⟨(if c = '\r' then '\n' else c) :: t, fun rest => ?_⟩
      rw [List.cons_append, uniformLines, ht, List.cons_append]
      intro more hr hs
      cases s with
      | nil => exact hc ⟨hr, rfl⟩
      | cons d ds => exact hne ds hr (by rw [(List.cons.inj hs).1])

/-- A text that ends in a line feed is read on its own. -/
theorem storedLines_ended (s : List Char) :
    ∃ ls, storedLines (s ++ ['\n']) = ls ++ [[]] ∧ ∀ rest, storedLines (s ++ '\n' :: rest) = ls ++ storedLines rest := by
  obtain ⟨t, ht⟩ := exists_uniformLines_lineFeed s
  refine ⟨cutAt '\n' t, ?_, fun rest => ?_⟩
  · unfold storedLines
    rw [ht, cutAt_append_sep]
    rfl
  · unfold storedLines
    rw [ht, cutAt_append_sep]

/-! ## Texts in lines -/

/-- A text is not behind characters of which its first is none. -/
theorem infix_of_infix_append {c : Char} {x p s : List Char} (hp : c ∉ p) (h : c :: x <:+: p ++ s) : c :: x <:+: s := by
  induction p with
  | nil => exact h
  | cons d rest ih =>
    rcases List.infix_cons_iff.mp h with h | h
    · exact absurd (List.cons_prefix_cons.mp h).1 (List.ne_of_not_mem_cons hp)
    · exact ih (List.not_mem_of_not_mem_cons hp) h

theorem suffix_of_suffix_append {c : Char} {x p s : List Char} (hp : c ∉ p) (h : c :: x <:+ p ++ s) : c :: x <:+ s := by
  induction p with
  | nil => exact h
  | cons d rest ih =>
    rcases List.suffix_cons_iff.mp h with h | h
    · exact absurd (List.cons.inj h).1 (List.ne_of_not_mem_cons hp)
    · exact ih (List.not_mem_of_not_mem_cons hp) h

theorem infix_of_infix_concat {c : Char} {x s : List Char} (hx : c ∉ x) (h : x <:+: s ++ [c]) : x <:+: s := by
  rcases List.infix_concat_iff.mp h with h | h
  · rcases List.suffix_concat_iff.mp h with rfl | ⟨t, rfl, -⟩
    · exact List.nil_infix
    · exact absurd (List.mem_append_right t List.mem_cons_self) hx
  · exact h

theorem infix_of_mem_cutAt {sep : Char} {s l : List Char} (h : l ∈ cutAt sep s) : l <:+: s := by
  -- the first piece is a beginning, which the next step needs
  suffices hall : ∀ first others, cutAt sep s = first :: others → first <+: s ∧ ∀ l ∈ others, l <:+: s by
    obtain ⟨first, others, hcut⟩ := List.exists_cons_of_ne_nil (cutAt_ne_nil sep s)
    rw [hcut] at h
    rcases List.mem_cons.mp h with rfl | h
    · exact (hall _ _ hcut).1.isInfix
    · exact (hall _ _ hcut).2 l h
  clear h
  induction s with
  | nil =>
    intro first others hcut
    obtain ⟨rfl, rfl⟩ := List.cons.inj hcut
    exact ⟨List.prefix_refl _, fun l hl => absurd hl List.not_mem_nil⟩
  | cons c rest ih =>
    intro first others hcut
    obtain ⟨first', others', hcut'⟩ := List.exists_cons_of_ne_nil (cutAt_ne_nil sep rest)
    obtain ⟨hfirst, hothers⟩ := ih first' others' hcut'
    have hrest : ∀ l ∈ others', l <:+: c :: rest := fun l hl => List.infix_cons (hothers l hl)
    rw [cutAt, hcut'] at hcut
    split at hcut
    · obtain ⟨rfl, rfl⟩ := List.cons.inj hcut
      refine ⟨List.nil_prefix, fun l hl => ?_⟩
      rcases List.mem_cons.mp hl with rfl | hl
      · exact List.infix_cons hfirst.isInfix
      · exact hrest l hl
    · obtain ⟨rfl, rfl⟩ := List.cons.inj hcut
      exact ⟨List.cons_prefix_cons.mpr ⟨rfl, hfirst⟩, hrest⟩

/-- The first piece of a text goes on behind what comes before it. -/
theorem exists_cutAt_append {sep : Char} (p : List Char) {s first : List Char} {others : List (List Char)}
    (hs : cutAt sep s = first :: others) : ∃ ls l, cutAt sep (p ++ s) = ls ++ (l ++ first) :: others := by
  induction p with
  | nil => exact ⟨[], [], hs⟩
  | cons c rest ih =>
    obtain ⟨ls, l, hcut⟩ := ih
    rw [List.cons_append, cutAt, hcut]
    split
    · exact ⟨[] :: ls, l, rfl⟩
    · cases ls with
      | nil => exact ⟨[], c :: l, rfl⟩
      | cons k ks => exact ⟨(c :: k) :: ks, l, rfl⟩

theorem exists_mem_cutAt_iff {sep : Char} {x s : List Char} (hx : sep ∉ x) :
    (∃ l ∈ cutAt sep s, x <:+: l) ↔ x <:+: s := by
  constructor
  · rintro ⟨l, hl, hxl⟩
    exact hxl.trans (infix_of_mem_cutAt hl)
  · rintro ⟨a, b, rfl⟩
    obtain ⟨first, others, hb⟩ := List.exists_cons_of_ne_nil (cutAt_ne_nil sep b)
    obtain ⟨ls, l, hcut⟩ := exists_cutAt_append a (cutAt_append hx hb)
    refine ⟨l ++ (x ++ first), ?_, ⟨l, first, List.append_assoc _ _ _⟩⟩
    rw [List.append_assoc, hcut]
    exact List.mem_append_right _ List.mem_cons_self

theorem not_mem_of_mem_cutAt {sep : Char} {s l : List Char} (h : l ∈ cutAt sep s) : sep ∉ l := by
  induction s generalizing l with
  | nil => rw [List.mem_singleton.mp h]; exact List.not_mem_nil
  | cons c rest ih =>
    obtain ⟨first, others, hcut⟩ := List.exists_cons_of_ne_nil (cutAt_ne_nil sep rest)
    rw [cutAt, hcut] at h
    rw [hcut] at ih
    split at h
    · rcases List.mem_cons.mp h with rfl | h
      · exact List.not_mem_nil
      · exact ih h
    · next hc =>
      rcases List.mem_cons.mp h with rfl | h
      · exact List.not_mem_cons_of_ne_of_not_mem (Ne.symm hc) (ih List.mem_cons_self)
      · exact ih (List.mem_cons_of_mem _ h)

theorem prefix_uniformLines {x s : List Char} (hx : OneLine x) (h : x <+: uniformLines s) : x <+: s := by
  fun_induction uniformLines s generalizing x with
  | case1 => exact h
  | case2 rest ih =>
    cases x with
    | nil => exact List.nil_prefix
    | cons d y => exact absurd (List.cons_prefix_cons.mp h).1 (List.ne_of_not_mem_cons hx.1).symm
  | case3 c rest _ ih =>
    cases x with
    | nil => exact List.nil_prefix
    | cons d y =>
      obtain ⟨hd, hy⟩ := List.cons_prefix_cons.mp h
      have hc : d = c := by
        split at hd
        · exact absurd hd (List.ne_of_not_mem_cons hx.1).symm
        · exact hd
      exact List.cons_prefix_cons.mpr ⟨hc, ih ⟨List.not_mem_of_not_mem_cons hx.1, List.not_mem_of_not_mem_cons hx.2⟩ hy⟩

theorem infix_uniformLines_iff {x s : List Char} (hx : OneLine x) : x <:+: uniformLines s ↔ x <:+: s := by
  constructor
  · intro h
    fun_induction uniformLines s with
    | case1 => exact h
    | case2 rest ih =>
      rcases List.infix_cons_iff.mp h with h | h
      · cases x with
        | nil => exact List.nil_infix
        | cons d y => exact absurd (List.cons_prefix_cons.mp h).1 (List.ne_of_not_mem_cons hx.1).symm
      · exact List.infix_cons (List.infix_cons (ih h))
    | case3 c rest hne ih =>
      rcases List.infix_cons_iff.mp h with h | h
      · refine (prefix_uniformLines (s := c :: rest) hx ?_).isInfix
        rw [uniformLines]
        · exact h
        · exact hne
      · exact List.infix_cons (ih h)
  · rintro ⟨a, b, rfl⟩
    cases x with
    | nil => exact List.nil_infix
    | cons c y =>
      have hhead : (c :: y ++ b).head? ≠ some '\n' := fun h => List.ne_of_not_mem_cons hx.1 (Option.some.inj h).symm
      rw [List.append_assoc, uniformLines_append a hhead, uniformLines_append_of_not_mem hx.2]
      exact ⟨_, _, List.append_assoc _ _ _⟩

theorem exists_mem_storedLines_iff {x s : List Char} (hx : OneLine x) : (∃ l ∈ storedLines s, x <:+: l) ↔ x <:+: s := by
  unfold storedLines
  rw [exists_mem_cutAt_iff hx.1, infix_uniformLines_iff hx]

theorem oneLine_of_mem_storedLines {s l : List Char} (h : l ∈ storedLines s) : OneLine l :=
  ⟨not_mem_of_mem_cutAt h, fun hr => not_mem_uniformLines s ((infix_of_mem_cutAt h).subset hr)⟩

theorem exists_storedLines (s : List Char) : ∃ first others, storedLines s = first :: others := by
  cases h : storedLines s with
  | nil => exact absurd h (cutAt_ne_nil '\n' _)
  | cons first others => exact ⟨first, others, rfl⟩

end ThreatScan.Text
