import Mathlib.Data.List.Infix
import ThreatScan.Text.Basic
/-!
Searching in texts, cutting them and joining them, as relations.

A text holds another exactly if it is an infix of it (`hasInfix_iff`). A text cut at a character loses nothing but that
character (`mem_iff_of_cutAt`), pieces joined by a character are found again (`cutAt_joinWith`), and the first occurrence of
a character divides a text in one way (`append_cons_inj`). A key that does not overlap with itself (`Unbordered`) is found
where it first occurs, so what is read behind a key (`readAfter?`) is read there.

What a reader of markup goes by is not the whole text but the brackets and quotes in it. `kept` takes out of a text the
characters that pass a test, in their order; of a text that is put together it is put together in the same way.
-/
namespace ThreatScan.Text

theorem hasInfix_iff {needle s : List Char} : hasInfix needle s = true ↔ needle <:+: s := by
  induction s with
  | nil => rw [hasInfix, List.isEmpty_iff, List.infix_nil]
  | cons c rest ih => rw [hasInfix, Bool.or_eq_true, List.isPrefixOf_iff_prefix, ih, List.infix_cons_iff]

theorem contains_iff {s needle : String} : contains s needle = true ↔ needle.toList <:+: s.toList := hasInfix_iff

@[simp] theorem contains_self (s : String) : contains s s = true := contains_iff.mpr (List.infix_refl _)

theorem mem_consHead {c x : Char} {pieces : List (List Char)} :
    (∃ p ∈ consHead c pieces, x ∈ p) ↔ x = c ∨ ∃ p ∈ pieces, x ∈ p := by
  cases pieces with
  | nil => simp [consHead]
  | cons p ps => simp [consHead, or_assoc]

/-- The pieces of a text hold all of its characters but the one that it is cut at. -/
theorem mem_iff_of_cutAt {sep x : Char} (hx : x ≠ sep) (s : List Char) : (∃ p ∈ cutAt sep s, x ∈ p) ↔ x ∈ s := by
  induction s with
  | nil => simp [cutAt]
  | cons c rest ih =>
    by_cases hc : c = sep
    · simp [cutAt, hc, hx, ih]
    · rw [cutAt, if_neg hc, mem_consHead, ih, List.mem_cons]

theorem cutAt_of_not_mem {sep : Char} {p : List Char} (h : sep ∉ p) : cutAt sep p = [p] := by
  induction p with
  | nil => rfl
  | cons c rest ih =>
    rw [cutAt, if_neg (List.ne_of_not_mem_cons h).symm, ih (List.not_mem_of_not_mem_cons h)]
    rfl

theorem cutAt_append_cons {sep : Char} {p : List Char} (h : sep ∉ p) (s : List Char) :
    cutAt sep (p ++ sep :: s) = p :: cutAt sep s := by
  induction p with
  | nil => rw [List.nil_append, cutAt, if_pos rfl]
  | cons c rest ih =>
    rw [List.cons_append, cutAt, if_neg (List.ne_of_not_mem_cons h).symm, ih (List.not_mem_of_not_mem_cons h)]
    rfl

/-- Pieces joined by a character that none of them holds are found again. -/
theorem cutAt_joinWith {sep : Char} {pieces : List (List Char)} (hne : pieces ≠ []) (h : ∀ p ∈ pieces, sep ∉ p) :
    cutAt sep (joinWith [sep] pieces) = pieces := by
  induction pieces with
  | nil => exact absurd rfl hne
  | cons p rest ih =>
    have hp : sep ∉ p := h p List.mem_cons_self
    cases rest with
    | nil => exact cutAt_of_not_mem hp
    | cons q rest =>
      rw [joinWith, List.append_assoc, List.singleton_append, cutAt_append_cons hp]
      · rw [ih (List.cons_ne_nil q rest) fun x hx => h x (List.mem_cons_of_mem p hx)]
      · exact List.cons_ne_nil q rest

/-- The first occurrence of a character divides a text in one way. -/
theorem append_cons_inj {c : Char} {x y s t : List Char} (hx : c ∉ x) (hy : c ∉ y) (h : x ++ c :: s = y ++ c :: t) :
    x = y ∧ s = t := by
  induction x generalizing y with
  | nil =>
    cases y with
    | nil => exact ⟨rfl, (List.cons.inj h).2⟩
    | cons d rest => exact absurd (List.cons.inj h).1 (List.ne_of_not_mem_cons hy)
  | cons d rest ih =>
    cases y with
    | nil => exact absurd (List.cons.inj h).1.symm (List.ne_of_not_mem_cons hx)
    | cons e others =>
      obtain ⟨rfl, hrest⟩ := List.cons.inj h
      obtain ⟨rfl, hst⟩ := ih (List.not_mem_of_not_mem_cons hx) (List.not_mem_of_not_mem_cons hy) hrest
      exact ⟨rfl, hst⟩

/-- A joined text around one of its pieces. -/
theorem joinWith_append_cons (sep y : List Char) (xs zs : List (List Char)) :
    joinWith sep (xs ++ y :: zs) = xs.flatMap (· ++ sep) ++ (y ++ zs.flatMap (sep ++ ·)) := by
  have hlast : ∀ y, joinWith sep (y :: zs) = y ++ zs.flatMap (sep ++ ·) := by
    induction zs with
    | nil => simp [joinWith]
    | cons z rest ih => intro y; simp [joinWith, ih]
  induction xs with
  | nil => simpa using hlast y
  | cons x rest ih => cases rest <;> simp_all [joinWith]

theorem not_mem_joinWith {c : Char} {sep : List Char} {pieces : List (List Char)} (hsep : c ∉ sep) (h : ∀ p ∈ pieces, c ∉ p) :
    c ∉ joinWith sep pieces := by
  fun_induction joinWith sep pieces with
  | case1 => exact List.not_mem_nil
  | case2 piece => exact h piece List.mem_cons_self
  | case3 piece pieces _ ih =>
    rw [List.mem_append, List.mem_append, not_or, not_or]
    exact ⟨⟨h piece List.mem_cons_self, hsep⟩, ih fun p hp => h p (List.mem_cons_of_mem piece hp)⟩

/-- Reading the pieces finds what was joined, if an empty piece is passed over. -/
theorem filterMap_cutAt_joinWith {α : Type} {read : List Char → Option α} (hread : read [] = none) {sep : Char}
    {pieces : List (List Char)} (h : ∀ p ∈ pieces, sep ∉ p) :
    (cutAt sep (joinWith [sep] pieces)).filterMap read = pieces.filterMap read := by
  cases pieces with
  | nil => simp [joinWith, cutAt, hread]
  | cons p pieces => rw [cutAt_joinWith (List.cons_ne_nil p pieces) h]

/-! ## The first occurrence -/

theorem breakAt?_append_cons {c : Char} {a : List Char} (h : c ∉ a) (b : List Char) :
    breakAt? [c] (a ++ c :: b) = some (a, b) := by
  induction a with
  | nil => simp [breakAt?]
  | cons d rest ih =>
    have hd : ¬ [c].isPrefixOf (d :: (rest ++ c :: b)) = true := by
      simpa [List.isPrefixOf] using List.ne_of_not_mem_cons h
    rw [List.cons_append, breakAt?, if_neg hd, ih (List.not_mem_of_not_mem_cons h)]
    rfl

/-- No end of the text is a beginning of it, but for the text itself. -/
def Unbordered (x : List Char) : Prop := ∀ k < x.length, 0 < k → ¬ x.drop k <+: x

instance (x : List Char) : Decidable (Unbordered x) := Nat.decidableBallLT _ _

/-- Such a text does not start in front of its first occurrence. -/
theorem Unbordered.not_isPrefix {x p : List Char} (hx : Unbordered x) (hp : ¬ x <:+: p) (hne : p ≠ []) (s : List Char) :
    ¬ x <+: p ++ (x ++ s) := by
  intro h
  rcases Nat.le_total x.length p.length with hle | hle
  · exact hp (List.prefix_of_prefix_length_le h (List.prefix_append p _) hle).isInfix
  · obtain ⟨y, rfl⟩ := List.prefix_of_prefix_length_le (List.prefix_append p _) h hle
    have hy : y <+: (p ++ y) ++ s := (List.prefix_append_right_inj p).mp h
    have hpos := List.length_pos_iff.mpr hne
    have hend : y <+: p ++ y := List.prefix_of_prefix_length_le hy (List.prefix_append _ s) (by simp)
    cases y with
    | nil => exact hp (by simp)
    | cons c y => exact hx p.length (by simp) hpos (by simpa using hend)

/-- Behind its start such a text occurs again only behind its end. -/
theorem Unbordered.isInfix_of_drop {x s : List Char} (hx : Unbordered x) {k : Nat} (hk : 0 < k) (h : x <:+: x.drop k ++ s) :
    x <:+: s := by
  rcases Nat.lt_or_ge k x.length with hlt | hge
  · rw [List.drop_eq_getElem_cons hlt, List.cons_append] at h
    rcases List.infix_cons_iff.mp h with hstart | hrest
    · rw [← List.cons_append, ← List.drop_eq_getElem_cons hlt] at hstart
      have hend : x.drop k <+: x := List.prefix_of_prefix_length_le (List.prefix_append _ s) hstart (by simp)
      exact absurd hend (hx k hlt hk)
    · exact hx.isInfix_of_drop (Nat.succ_pos k) hrest
  · rwa [List.drop_eq_nil_of_le hge, List.nil_append] at h
termination_by x.length - k

theorem breakAt?_of_not_isInfix {x s : List Char} (h : ¬ x <:+: s) : breakAt? x s = none := by
  induction s with
  | nil =>
    have hne : x ≠ [] := fun hx => h (by simp [hx])
    simpa [breakAt?] using hne
  | cons c rest ih =>
    obtain ⟨hstart, hrest⟩ := not_or.mp (mt List.infix_cons_iff.mpr h)
    rw [breakAt?, if_neg (by rwa [List.isPrefixOf_iff_prefix]), ih hrest]
    rfl

theorem breakAt?_append {x before : List Char} (hx : Unbordered x) (hne : x ≠ []) (hfirst : ¬ x <:+: before) (s : List Char) :
    breakAt? x (before ++ (x ++ s)) = some (before, s) := by
  induction before with
  | nil =>
    obtain ⟨c, y, rfl⟩ := List.exists_cons_of_ne_nil hne
    have hstart : (c :: y).isPrefixOf (c :: (y ++ s)) = true := List.isPrefixOf_iff_prefix.mpr (List.prefix_append (c :: y) s)
    rw [List.nil_append, List.cons_append, breakAt?, if_pos hstart]
    simp
  | cons c rest ih =>
    have hstart : ¬ x <+: c :: (rest ++ (x ++ s)) := hx.not_isPrefix hfirst (List.cons_ne_nil c rest) s
    rw [List.cons_append, breakAt?, if_neg (by rwa [List.isPrefixOf_iff_prefix]), ih fun h => hfirst (List.infix_cons h)]
    rfl

/-- What is read behind an occurrence of the key, the first one behind which something can be read. -/
def readAfter? {α : Type} (key : List Char) (read : List Char → Option α) : List Char → Option α
  | [] => none
  | c :: rest =>
    match if key.isPrefixOf (c :: rest) then read ((c :: rest).drop key.length) else none with
    | some a => some a
    | none => readAfter? key read rest

section ReadAfter
variable {α : Type} {key : List Char} {read : List Char → Option α}

theorem readAfter?_cons {c : Char} {s : List Char} (h : ¬ key <+: c :: s) :
    readAfter? key read (c :: s) = readAfter? key read s := by
  rw [readAfter?, if_neg (by rwa [List.isPrefixOf_iff_prefix])]

theorem readAfter?_of_not_isInfix {s : List Char} (h : ¬ key <:+: s) : readAfter? key read s = none := by
  induction s with
  | nil => rfl
  | cons c rest ih =>
    rw [readAfter?_cons fun hstart => h hstart.isInfix]
    exact ih fun hrest => h (List.infix_cons hrest)

/-- Nothing is read in front of the first occurrence. -/
theorem readAfter?_append (hkey : Unbordered key) {before : List Char} (hfirst : ¬ key <:+: before) (s : List Char) :
    readAfter? key read (before ++ (key ++ s)) = readAfter? key read (key ++ s) := by
  induction before with
  | nil => rfl
  | cons c rest ih =>
    have hstart : ¬ key <+: c :: (rest ++ (key ++ s)) := hkey.not_isPrefix hfirst (List.cons_ne_nil c rest) s
    rw [List.cons_append, readAfter?_cons hstart]
    exact ih fun h => hfirst (List.infix_cons h)

theorem readAfter?_key (hkey : Unbordered key) (hne : key ≠ []) {s : List Char} (h : (read s).isSome ∨ ¬ key <:+: s) :
    readAfter? key read (key ++ s) = read s := by
  obtain ⟨c, rest, rfl⟩ := List.exists_cons_of_ne_nil hne
  have hstart : (c :: rest).isPrefixOf (c :: (rest ++ s)) = true :=
    List.isPrefixOf_iff_prefix.mpr (List.prefix_append (c :: rest) s)
  have hdrop : (c :: (rest ++ s)).drop (c :: rest).length = s := by simp
  rw [List.cons_append, readAfter?, hstart, if_pos rfl, hdrop]
  cases hread : read s with
  | some a => rfl
  | none =>
    have hlater : ¬ c :: rest <:+: s := by simpa [hread] using h
    exact readAfter?_of_not_isInfix fun hrest => hlater (hkey.isInfix_of_drop Nat.one_pos hrest)

end ReadAfter

/-! ## The characters that pass a test -/

/-- A run of characters that pass a test ends in front of one that does not. -/
theorem span_append {p : Char → Bool} {a b : List Char} (ha : ∀ c ∈ a, p c = true) (hb : ∀ c ∈ b.head?, p c = false) :
    (a ++ b).takeWhile p = a ∧ (a ++ b).dropWhile p = b := by
  rw [List.takeWhile_append_of_pos ha, List.dropWhile_append_of_pos ha]
  cases b with
  | nil => simp
  | cons c rest => simp [hb c rfl]


def kept (p : Char → Bool) (s : String) : List Char := s.toList.filter p

section Kept
variable {p : Char → Bool}

@[simp] theorem kept_append (s t : String) : kept p (s ++ t) = kept p s ++ kept p t := by
  simp [kept]

@[simp] theorem kept_ofList (cs : List Char) : kept p (String.ofList cs) = cs.filter p := by
  simp [kept]

theorem kept_eq_nil {s : String} : kept p s = [] ↔ ∀ c ∈ s.toList, p c = false := by
  simp [kept, List.filter_eq_nil_iff]

/-- Pieces that are joined by a separator of which nothing is kept. -/
theorem kept_join {sep : String} (h : kept p sep = []) (pieces : List String) :
    kept p (join sep pieces) = pieces.flatMap (kept p) := by
  unfold join
  rw [kept_ofList]
  induction pieces with
  | nil => rfl
  | cons piece rest ih =>
    cases rest with
    | nil => simp [joinWith, kept]
    | cons next rest =>
      have hsep : sep.toList.filter p = [] := h
      rw [List.map_cons, List.flatMap_cons, ← ih]
      simp [joinWith, kept, hsep]

end Kept

end ThreatScan.Text
