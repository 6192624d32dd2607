import ThreatScan.Proofs.Text.Words
import ThreatScan.Snippet.Markup
/-!
Escaped texts.

Replacing one character goes character by character (`replaceFrom_singleton`). So the five replacements of `escape` put an
entity for each ampersand, bracket and quote and leave all other characters (`toList_escape`), and no bracket and no quote is
left (`kept_escape`).

One replacement after another cannot be taken back in general: a later one may hit what an earlier one put in. Here it does
not, since every text put in starts with the same mark. After each replacement every mark starts one of the texts put in so
far (`MarksStart.flatMap`), so the next text can be told from all of them and its replacement is undone
(`replaceFrom_flatMap`); along all replacements, `replaceEach_undone`. So an escaped text is found again, by taking the
replacements back in the opposite order (`unescape_escape`) or by reading all entities at once (`readEntities_flatMap`):
escaping is faithful (`escape_faithful`).
-/
namespace ThreatScan

namespace Text

/-- What stands for a character after one character was replaced. -/
def replacedChar (c : Char) (new : String) (x : Char) : List Char := if x = c then new.toList else [x]

theorem replaceFrom_singleton (c : Char) (new : String) (s : List Char) :
    replaceFrom [c] new.toList 0 s = s.flatMap (replacedChar c new) := by
  induction s with
  | nil => rfl
  | cons x rest ih =>
    by_cases h : x = c
    · simp [replaceFrom, replacedChar, h, ih]
    · simp [replaceFrom, replacedChar, h, Ne.symm h, ih]

theorem toList_replace (c : Char) {old : String} (h : old.toList = [c]) (s new : String) :
    (replace s old new).toList = s.toList.flatMap (replacedChar c new) := by
  rw [replace, h, replaceFrom_singleton, String.toList_ofList]

/-! ## A replacement undone -/

/-- Every occurrence of the mark starts one of the texts. -/
def MarksStart (mark : Char) (texts : List (List Char)) (s : List Char) : Prop :=
  ∀ rest, mark :: rest <:+ s → ∃ e ∈ texts, e <+: mark :: rest

/-- The new text can stand for a character beside the earlier texts: it has one mark, at its start, no earlier text holds the
character, and neither the new text nor an earlier one starts with the other. -/
structure StandsBeside (mark c : Char) (new : List Char) (texts : List (List Char)) : Prop where
  marked : ∃ w, new = mark :: w ∧ mark ∉ w
  apart : ∀ e ∈ texts, c ∉ e ∧ ¬ e <+: new ∧ ¬ new <+: e

section Replaced
variable {mark c : Char} {new : String} {texts : List (List Char)} {s : List Char}

theorem flatMap_replacedChar_of_not_mem {e : List Char} (h : c ∉ e) : e.flatMap (replacedChar c new) = e := by
  induction e with
  | nil => rfl
  | cons x rest ih =>
    rw [List.flatMap_cons, ih (List.not_mem_of_not_mem_cons h), replacedChar, if_neg (List.ne_of_not_mem_cons h).symm]
    rfl

/-- Where an earlier text starts, it starts after the replacement too. -/
theorem exists_isPrefix_of_mark (new : String) (hs : mark = c ∨ MarksStart mark texts s) (hapart : ∀ e ∈ texts, c ∉ e)
    {rest : List Char} (hrest : mark :: rest <:+ s) (hne : mark ≠ c) :
    ∃ e ∈ texts, e <+: mark :: rest.flatMap (replacedChar c new) := by
  obtain ⟨e, he, t, ht⟩ := (hs.resolve_left hne) rest hrest
  have hkept : (mark :: rest).flatMap (replacedChar c new) = e ++ t.flatMap (replacedChar c new) := by
    rw [← ht, List.flatMap_append, flatMap_replacedChar_of_not_mem (hapart e he)]
  rw [List.flatMap_cons, replacedChar, if_neg hne, List.singleton_append] at hkept
  exact ⟨e, he, hkept ▸ List.prefix_append e _⟩

/-- A character of a flattened text belongs to one piece, and the pieces behind that one follow. -/
theorem exists_piece_of_isSuffix {f : Char → List Char} {m : Char} {rest : List Char} (h : m :: rest <:+ s.flatMap f) :
    ∃ x t a b, x :: t <:+ s ∧ f x = a ++ m :: b ∧ rest = b ++ t.flatMap f := by
  induction s with
  | nil => simp at h
  | cons x t ih =>
    have hlater : m :: rest <:+ t.flatMap f →
        ∃ y u a b, y :: u <:+ x :: t ∧ f y = a ++ m :: b ∧ rest = b ++ u.flatMap f := by
      intro hsuffix
      obtain ⟨y, u, a, b, hu, hy⟩ := ih hsuffix
      exact ⟨y, u, a, b, hu.trans (List.suffix_cons x t), hy⟩
    obtain ⟨p, hp⟩ := h
    rw [List.flatMap_cons] at hp
    rcases List.append_eq_append_iff.mp hp with ⟨a, hx, hrest⟩ | ⟨a, -, hrest⟩
    · cases a with
      | nil => exact hlater (hrest ▸ List.suffix_refl _)
      | cons d b =>
        obtain ⟨rfl, rfl⟩ := List.cons.inj hrest
        exact ⟨x, t, p, b, List.suffix_refl _, hx, rfl⟩
    · exact hlater ⟨a, hrest.symm⟩

/-- After a replacement every mark starts the new text or an earlier one. Before the first replacement, that of the mark
itself, nothing needs to be known of the text. -/
theorem MarksStart.flatMap (hs : mark = c ∨ MarksStart mark texts s) (hnew : StandsBeside mark c new.toList texts) :
    MarksStart mark (new.toList :: texts) (s.flatMap (replacedChar c new)) := by
  obtain ⟨⟨w, hw, hmark⟩, hapart⟩ := hnew
  intro rest hrest
  obtain ⟨x, t, a, b, ht, hx, rfl⟩ := exists_piece_of_isSuffix hrest
  by_cases hxc : x = c
  · -- the only mark of the new text is its first character
    rw [replacedChar, if_pos hxc, hw] at hx
    cases a with
    | nil =>
      obtain ⟨-, rfl⟩ := List.cons.inj hx
      exact ⟨new.toList, List.mem_cons_self, hw ▸ List.prefix_append _ _⟩
    | cons d a =>
      obtain ⟨-, rfl⟩ := List.cons.inj hx
      exact absurd (List.mem_append_right a List.mem_cons_self) hmark
  · rw [replacedChar, if_neg hxc] at hx
    obtain ⟨rfl, rfl, rfl⟩ : a = [] ∧ x = mark ∧ b = [] := by
      cases a <;> simp_all
    obtain ⟨e, he, hstart⟩ := exists_isPrefix_of_mark new hs (fun e he => (hapart e he).1) ht hxc
    exact ⟨e, List.mem_cons_of_mem _ he, hstart⟩

/-- A replacement is undone: after it the new text starts where the character stood, and nowhere else. -/
theorem replaceFrom_flatMap (hs : mark = c ∨ MarksStart mark texts s) (hnew : StandsBeside mark c new.toList texts) :
    replaceFrom new.toList [c] 0 (s.flatMap (replacedChar c new)) = s := by
  obtain ⟨⟨w, hw, -⟩, hapart⟩ := hnew
  induction s with
  | nil => rfl
  | cons x t ih =>
    have ht : mark = c ∨ MarksStart mark texts t :=
      hs.imp_right fun h rest hrest => h rest (hrest.trans (List.suffix_cons x t))
    rw [List.flatMap_cons]
    by_cases hxc : x = c
    · have hstart : new.toList.isPrefixOf (mark :: (w ++ t.flatMap (replacedChar c new))) = true := by
        rw [List.isPrefixOf_iff_prefix, hw]
        exact List.prefix_append (mark :: w) _
      rw [replacedChar, if_pos hxc, hw, List.cons_append, replaceFrom, ← hw, if_pos hstart, hw, List.length_cons,
        Nat.add_sub_cancel, replaceFrom_skip, ← hw, ih ht, hxc]
      rfl
    · have hstart : ¬ new.toList <+: x :: t.flatMap (replacedChar c new) := by
        intro h
        obtain rfl : mark = x := by
          rw [hw] at h
          exact (List.cons_prefix_cons.mp h).1
        obtain ⟨e, he, hearlier⟩ :=
          exists_isPrefix_of_mark new hs (fun e he => (hapart e he).1) (List.suffix_refl _) hxc
        rcases List.prefix_or_prefix_of_prefix hearlier h with hpre | hpre
        · exact (hapart e he).2.1 hpre
        · exact (hapart e he).2.2 hpre
      rw [replacedChar, if_neg hxc, List.singleton_append, replaceFrom, if_neg (by rwa [List.isPrefixOf_iff_prefix]), ih ht]

end Replaced

/-! ## One replacement after another -/

def replaceEach (rs : List (Char × String)) (s : List Char) : List Char :=
  rs.foldl (fun s r => s.flatMap (replacedChar r.1 r.2)) s

def restoreEach (rs : List (Char × String)) (s : List Char) : List Char :=
  rs.foldr (fun r s => replaceFrom r.2.toList [r.1] 0 s) s

/-- Each text can stand for its character beside those of the replacements before it. -/
def Undoable (mark : Char) : List (List Char) → List (Char × String) → Prop
  | _, [] => True
  | texts, (c, new) :: rs => StandsBeside mark c new.toList texts ∧ Undoable mark (new.toList :: texts) rs

theorem replaceEach_undone {mark : Char} {texts : List (List Char)} {rs : List (Char × String)} {s : List Char}
    (hs : MarksStart mark texts s) (hrs : Undoable mark texts rs) :
    MarksStart mark ((rs.map (·.2.toList)).reverse ++ texts) (replaceEach rs s) ∧ restoreEach rs (replaceEach rs s) = s := by
  induction rs generalizing texts s with
  | nil => exact ⟨hs, rfl⟩
  | cons r rs ih =>
    obtain ⟨hnew, hrs⟩ := hrs
    obtain ⟨hmarks, hback⟩ := ih (MarksStart.flatMap (.inr hs) hnew) hrs
    refine ⟨by simpa [replaceEach] using hmarks, ?_⟩
    calc restoreEach (r :: rs) (replaceEach (r :: rs) s)
        = replaceFrom r.2.toList [r.1] 0 (restoreEach rs (replaceEach rs (s.flatMap (replacedChar r.1 r.2)))) := rfl
      _ = replaceFrom r.2.toList [r.1] 0 (s.flatMap (replacedChar r.1 r.2)) := by rw [hback]
      _ = s := replaceFrom_flatMap (.inr hs) hnew

end Text

namespace Markup

def entity (c : Char) : List Char :=
  if c = '&' then "&amp;".toList
  else if c = '<' then "&lt;".toList
  else if c = '>' then "&gt;".toList
  else if c = '"' then "&quot;".toList
  else if c = '\'' then "&#39;".toList
  else [c]

/-- The characters that divide markup into tags, attributes and text. -/
def isDivider (c : Char) : Bool := ['<', '>', '"', '\''].contains c

/-- Of the replacements that follow, none touches what an earlier one put in. -/
theorem flatMap_replacedChar (c : Char) :
    ((((Text.replacedChar '&' "&amp;" c).flatMap (Text.replacedChar '<' "&lt;")).flatMap
      (Text.replacedChar '>' "&gt;")).flatMap (Text.replacedChar '"' "&quot;")).flatMap
      (Text.replacedChar '\'' "&#39;") = entity c := by
  unfold entity
  split_ifs with hamp hlt hgt hquote hmark
  · rw [hamp]; rfl
  · rw [hlt]; rfl
  · rw [hgt]; rfl
  · rw [hquote]; rfl
  · rw [hmark]; rfl
  · simp [Text.replacedChar, hamp, hlt, hgt, hquote, hmark]

theorem toList_escape_steps (s : String) : (escape s).toList = ((((s.toList.flatMap (Text.replacedChar '&' "&amp;")).flatMap
    (Text.replacedChar '<' "&lt;")).flatMap (Text.replacedChar '>' "&gt;")).flatMap
    (Text.replacedChar '"' "&quot;")).flatMap (Text.replacedChar '\'' "&#39;") := by
  unfold escape
  rw [Text.toList_replace '\'' rfl, Text.toList_replace '"' rfl, Text.toList_replace '>' rfl,
    Text.toList_replace '<' rfl, Text.toList_replace '&' rfl]

/-- The replacements act on each character for itself. -/
theorem toList_escape (s : String) : (escape s).toList = s.toList.flatMap entity := by
  rw [toList_escape_steps]
  induction s.toList with
  | nil => rfl
  | cons c rest ih => simp only [List.flatMap_cons, List.flatMap_append, flatMap_replacedChar, ih]

theorem filter_entity (c : Char) : (entity c).filter isDivider = [] := by
  unfold entity
  split_ifs with hamp hlt hgt hquote hmark
  · decide
  · decide
  · decide
  · decide
  · decide
  · simp [isDivider, hlt, hgt, hquote, hmark]

theorem kept_escape (s : String) : Text.kept isDivider (escape s) = [] := by
  unfold Text.kept
  rw [toList_escape, List.filter_flatMap]
  simp [filter_entity]

/-! ## Entities read back -/

/-- The characters that are escaped, each with its entity, in the order in which they are replaced. -/
def entities : List (Char × String) :=
  [('&', "&amp;"), ('<', "&lt;"), ('>', "&gt;"), ('"', "&quot;"), ('\'', "&#39;")]

/-- The entities replaced by their characters, one after another and the last one first. -/
def unescape (s : String) : String := entities.foldr (fun e s => Text.replace s e.2 (String.singleton e.1)) s

/-- The entities replaced by their characters, all at once and from left to right. `skip` counts the characters of the last
entity that are still to be dropped. -/
def readEntities : Nat → List Char → List Char
  | _, [] => []
  | skip + 1, _ :: rest => readEntities skip rest
  | 0, c :: rest =>
    match entities.find? fun e => e.2.toList.isPrefixOf (c :: rest) with
    | some (d, e) => d :: readEntities (e.toList.length - 1) rest
    | none => c :: readEntities 0 rest

/-! ## All entities at once -/

theorem readEntities_of_ne {c : Char} (h : c ≠ '&') (s : List Char) : readEntities 0 (c :: s) = c :: readEntities 0 s := by
  have hnone : (entities.find? fun e => e.2.toList.isPrefixOf (c :: s)) = none := by
    simp [entities, Ne.symm h]
  rw [readEntities, hnone]

theorem readEntities_entity (c : Char) (s : List Char) : readEntities 0 (entity c ++ s) = c :: readEntities 0 s := by
  unfold entity
  split_ifs with hamp hlt hgt hquote hmark
  · rw [hamp]; rfl
  · rw [hlt]; rfl
  · rw [hgt]; rfl
  · rw [hquote]; rfl
  · rw [hmark]; rfl
  · exact readEntities_of_ne hamp s

theorem readEntities_flatMap (s : List Char) : readEntities 0 (s.flatMap entity) = s := by
  induction s with
  | nil => rfl
  | cons c rest ih => rw [List.flatMap_cons, readEntities_entity, ih]

/-! ## One entity after another -/

theorem standsBeside_amp : Text.StandsBeside '&' '&' "&amp;".toList [] :=
  ⟨⟨_, rfl, by decide⟩, fun _ he => absurd he List.not_mem_nil⟩

theorem undoable_entities : Text.Undoable '&' ["&amp;".toList] entities.tail :=
  ⟨⟨⟨_, rfl, by decide⟩, by decide⟩, ⟨⟨_, rfl, by decide⟩, by decide⟩, ⟨⟨_, rfl, by decide⟩, by decide⟩,
    ⟨⟨_, rfl, by decide⟩, by decide⟩, trivial⟩

/-- The ampersand goes first; the other replacements keep that every ampersand starts an entity. -/
theorem escape_undone (s : String) :
    Text.MarksStart '&' ((entities.tail.map (·.2.toList)).reverse ++ ["&amp;".toList]) (escape s).toList ∧
    Text.restoreEach entities.tail (escape s).toList = s.toList.flatMap (Text.replacedChar '&' "&amp;") := by
  have hsteps : (escape s).toList =
      Text.replaceEach entities.tail (s.toList.flatMap (Text.replacedChar '&' "&amp;")) := by
    simp only [toList_escape_steps, Text.replaceEach, entities, List.tail_cons, List.foldl_cons, List.foldl_nil]
  have hfirst : Text.MarksStart '&' ["&amp;".toList] (s.toList.flatMap (Text.replacedChar '&' "&amp;")) :=
    Text.MarksStart.flatMap (.inl rfl) standsBeside_amp
  rw [hsteps]
  exact Text.replaceEach_undone hfirst undoable_entities

theorem toList_unescape (s : String) : (unescape s).toList = Text.restoreEach entities s.toList := by
  simp [unescape, entities, Text.restoreEach, Text.replace]

theorem unescape_escape (s : String) : unescape (escape s) = s := by
  have hlast : Text.restoreEach entities (escape s).toList =
      Text.replaceFrom "&amp;".toList ['&'] 0 (Text.restoreEach entities.tail (escape s).toList) := by
    simp only [Text.restoreEach, entities, List.tail_cons, List.foldr_cons]
  rw [← String.toList_inj, toList_unescape, hlast, (escape_undone s).2]
  exact Text.replaceFrom_flatMap (.inl rfl) standsBeside_amp

/-- Every ampersand of an escaped text starts an entity. -/
theorem exists_entity_of_ampersand {s : String} {rest : List Char} (h : '&' :: rest <:+ (escape s).toList) :
    ∃ e ∈ entities, e.2.toList <+: '&' :: rest := by
  obtain ⟨e, he, hstart⟩ := (escape_undone s).1 rest h
  rcases List.mem_append.mp he with he | he
  · obtain ⟨r, hr, rfl⟩ := List.mem_map.mp (List.mem_reverse.mp he)
    exact ⟨r, List.mem_of_mem_tail hr, hstart⟩
  · rw [List.mem_singleton.mp he] at hstart
    exact ⟨('&', "&amp;"), List.mem_cons_self, hstart⟩

theorem escape_append (s t : String) : escape (s ++ t) = escape s ++ escape t := by
  rw [← String.toList_inj, String.toList_append, toList_escape, toList_escape, toList_escape, String.toList_append,
    List.flatMap_append]

/-- Escaping is a faithful encoding. The replacements one after another put for each character its entity, or leave it; no
bracket and no quote is left, and every ampersand starts an entity; texts are escaped piece by piece; and the text is found
again, by replacing the entities one after another or all at once, so no two texts are escaped alike. -/
theorem escape_faithful :
    (∀ t, (escape t).toList = t.toList.flatMap entity) ∧
    (∀ t, ∀ c ∈ ['<', '>', '"', '\''], c ∉ (escape t).toList) ∧
    (∀ t rest, '&' :: rest <:+ (escape t).toList → ∃ e ∈ entities, e.2.toList <+: '&' :: rest) ∧
    (∀ t u, escape (t ++ u) = escape t ++ escape u) ∧
    (∀ t, unescape (escape t) = t) ∧
    (∀ t, String.ofList (readEntities 0 (escape t).toList) = t) ∧
    Function.Injective escape := by
  refine ⟨toList_escape, ?_, fun t rest => exists_entity_of_ampersand, escape_append, unescape_escape, ?_,
    Function.LeftInverse.injective unescape_escape⟩
  · intro t c hc hmem
    have hkept := Text.kept_eq_nil.mp (kept_escape t) c hmem
    exact absurd (List.contains_iff_mem.mpr hc) (by simpa [isDivider] using hkept)
  · intro t
    rw [toList_escape, readEntities_flatMap, String.ofList_toList]

end Markup
end ThreatScan
