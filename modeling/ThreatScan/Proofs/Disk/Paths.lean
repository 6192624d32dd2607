import ThreatScan.Proofs.Disk.Files
import ThreatScan.Proofs.Text.Cut
/-!
Paths as texts.

A path is a head, which is empty or ends in a slash, and a base name without slashes (`headPart_append_baseName`). A name that
is joined to a directory is the base name of the whole (`baseName_join`), so different names in a directory make different
paths, and the directory of the whole is a leading part of the one it was joined to (`dirName_join_isPrefix`).
-/
namespace ThreatScan

/-- A character does not occur in a text, or has a last occurrence. -/
theorem Text.not_mem_or_last (c : Char) (s : List Char) : c ∉ s ∨ ∃ a b, s = a ++ c :: b ∧ c ∉ b := by
  induction s with
  | nil => exact .inl List.not_mem_nil
  | cons d rest ih =>
    rcases ih with h | ⟨a, b, rfl, hb⟩
    · by_cases hd : d = c
      · exact .inr ⟨[], rest, by rw [hd, List.nil_append], h⟩
      · left
        rw [List.mem_cons, not_or]
        exact ⟨Ne.symm hd, h⟩
    · exact .inr ⟨d :: a, b, rfl, hb⟩

namespace Path

/-! ## The base name of a path -/

theorem slash_toList : "/".toList = ['/'] := by decide

theorem pieces_eq (path : String) : pieces path = (Text.cutAt '/' path.toList).map String.ofList := by
  rw [pieces, Text.cut, slash_toList, Text.cutFrom_singleton]

theorem baseName_of_not_mem {s : List Char} (h : '/' ∉ s) : baseName (String.ofList s) = String.ofList s := by
  rw [baseName, pieces_eq, String.toList_ofList, Text.cutAt_of_not_mem h]
  rfl

theorem baseName_slash (a : List Char) {b : List Char} (h : '/' ∉ b) :
    baseName (String.ofList (a ++ '/' :: b)) = String.ofList b := by
  rw [baseName, pieces_eq, String.toList_ofList, Text.cutAt_append_sep, Text.cutAt_of_not_mem h]
  simp

/-- Only what stands behind the last slash is cut off. -/
theorem dropWhile_not_slash {b : List Char} (rest : List Char) (h : '/' ∉ b) :
    (b.reverse ++ rest).dropWhile (· != '/') = rest.dropWhile (· != '/') := by
  refine List.dropWhile_append_of_pos fun c hc => ?_
  have hne : c ≠ '/' := by
    rintro rfl
    exact h (List.mem_reverse.mp hc)
  simpa using hne

theorem headPart_of_not_mem {s : List Char} (h : '/' ∉ s) : headPart (String.ofList s) = [] := by
  have hdrop := dropWhile_not_slash [] h
  rw [List.append_nil] at hdrop
  rw [headPart, String.toList_ofList, hdrop]
  rfl

theorem headPart_slash (a : List Char) {b : List Char} (h : '/' ∉ b) :
    headPart (String.ofList (a ++ '/' :: b)) = a ++ ['/'] := by
  have hsplit : (a ++ '/' :: b).reverse = b.reverse ++ '/' :: a.reverse := by simp
  rw [headPart, String.toList_ofList, hsplit, dropWhile_not_slash _ h]
  simp

/-- A path is a head, which is empty or ends in a slash, and a base name without slashes. -/
theorem headPart_append_baseName (path : String) : path.toList = headPart path ++ (baseName path).toList ∧
    '/' ∉ (baseName path).toList ∧ (headPart path = [] ∨ ∃ a, headPart path = a ++ ['/']) := by
  rcases Text.not_mem_or_last '/' path.toList with h | ⟨a, b, hs, hb⟩
  · have hbase := baseName_of_not_mem h
    have hhead := headPart_of_not_mem h
    rw [String.ofList_toList] at hbase hhead
    rw [hbase, hhead]
    exact ⟨rfl, h, .inl rfl⟩
  · have hbase := baseName_slash a hb
    have hhead := headPart_slash a hb
    rw [← hs, String.ofList_toList] at hbase hhead
    rw [hbase, hhead, hs, String.toList_ofList]
    exact ⟨by simp, hb, .inr ⟨a, rfl⟩⟩

theorem last_baseName {path : String} {c : Char} (h : path.toList.getLast? = some c) (hc : c ≠ '/') :
    (baseName path).toList.getLast? = some c := by
  obtain ⟨hsplit, -, hhead⟩ := headPart_append_baseName path
  rw [hsplit, List.getLast?_append] at h
  cases hname : (baseName path).toList.getLast? with
  | some d =>
    rw [hname] at h
    exact h
  | none =>
    rw [hname, Option.none_or] at h
    rcases hhead with hnil | ⟨a, ha⟩
    · rw [hnil] at h
      cases h
    · rw [ha, List.getLast?_concat] at h
      exact absurd (Option.some.inj h).symm hc

/-! ## The directory of a path -/

theorem dropRight_slash (a : List Char) : Text.dropRight (· == '/') (a ++ ['/']) = Text.dropRight (· == '/') a := by
  rw [Text.dropRight, List.reverse_append]
  rfl

theorem dirName_isPrefix (path : String) : (dirName path).toList <+: path.toList := by
  have hhead : headPart path <+: path.toList := by
    obtain ⟨hsplit, -⟩ := headPart_append_baseName path
    exact ⟨_, hsplit.symm⟩
  rw [dirName]
  split
  · rwa [String.toList_ofList]
  · rw [String.toList_ofList]
    exact (Text.dropRight_isPrefix _ _).trans hhead

section Join
variable {dir name : String} (hn : '/' ∉ name.toList)
include hn

theorem isAbsolute_eq_false : isAbsolute name = false := by
  rw [Bool.eq_false_iff]
  intro h
  unfold isAbsolute Text.startsWith at h
  rw [slash_toList, List.isPrefixOf_iff_prefix] at h
  exact hn (h.subset List.mem_cons_self)

/-- A name is joined to a directory behind a slash, which is put there unless the directory ends in one. Without a directory
the name stands alone. -/
theorem toList_join (dir : String) : dir = "" ∧ join dir name = name ∨
    ∃ a, (join dir name).toList = a ++ '/' :: name.toList ∧ (dir.toList = a ++ ['/'] ∨ dir.toList = a ∧ ∃ c ∈ a, c ≠ '/') := by
  rw [join, isAbsolute_eq_false hn, if_neg (by decide)]
  by_cases hempty : dir = ""
  · subst hempty
    exact .inl ⟨rfl, String.empty_append⟩
  · right
    have hne : dir.toList ≠ [] := fun h => hempty (String.toList_eq_nil_iff.mp h)
    have hcond : dir.isEmpty = false := by simpa using hempty
    by_cases hslash : Text.endsWith dir "/" = true
    · rw [if_pos (by simp [hslash])]
      unfold Text.endsWith at hslash
      rw [slash_toList, List.isSuffixOf_iff_suffix] at hslash
      obtain ⟨a, ha⟩ := hslash
      exact ⟨a, by rw [String.toList_append, ← ha]; simp, .inl ha.symm⟩
    · rw [if_neg (by simp [hcond, hslash])]
      refine ⟨dir.toList, by simp [slash_toList], .inr ⟨rfl, ?_⟩⟩
      obtain ⟨a, c, ha⟩ := (List.eq_nil_or_concat dir.toList).resolve_left hne
      refine ⟨c, by simp [ha], ?_⟩
      rintro rfl
      apply hslash
      unfold Text.endsWith
      rw [slash_toList, List.isSuffixOf_iff_suffix, ha, List.concat_eq_append]
      exact ⟨a, rfl⟩

theorem baseName_join : baseName (join dir name) = name := by
  rcases toList_join hn dir with ⟨-, hjoin⟩ | ⟨a, hjoin, -⟩
  · rw [hjoin]
    have hbase := baseName_of_not_mem hn
    rwa [String.ofList_toList] at hbase
  · have hbase := baseName_slash a hn
    rwa [← hjoin, String.ofList_toList, String.ofList_toList] at hbase

theorem join_append {ending : String} (he : '/' ∉ ending.toList) : join dir name ++ ending = join dir (name ++ ending) := by
  have hboth : '/' ∉ (name ++ ending).toList := by simp [hn, he]
  rw [join, join, isAbsolute_eq_false hn, isAbsolute_eq_false hboth]
  simp only [Bool.false_eq_true, if_false]
  split
  · rw [String.append_assoc]
  · rw [String.append_assoc]

/-- The directories that a joined name needs lead to the directory that it was joined to. -/
theorem dirName_join_isPrefix : (dirName (join dir name)).toList <+: dir.toList := by
  rcases toList_join hn dir with ⟨-, hjoin⟩ | ⟨a, hjoin, hdir⟩
  · have hhead := headPart_of_not_mem hn
    rw [String.ofList_toList, ← hjoin] at hhead
    rw [dirName, hhead]
    exact List.nil_prefix
  · have hhead := headPart_slash a hn
    rw [← hjoin, String.ofList_toList] at hhead
    rw [dirName, hhead]
    rcases hdir with hdir | ⟨hdir, c, hc, hne⟩
    · rw [hdir]
      split
      · rw [String.toList_ofList]
      · rw [String.toList_ofList]
        exact Text.dropRight_isPrefix _ _
    · rw [hdir]
      split
      · next hall =>
        have hslash := List.all_eq_true.mp hall c (List.mem_append_left _ hc)
        exact absurd (eq_of_beq hslash) hne
      · rw [String.toList_ofList, dropRight_slash]
        exact Text.dropRight_isPrefix _ _

/-- The names on the way to a joined name are those on the way to the directory, and the name. -/
theorem mem_pieces_join {piece : String} (h : piece ∈ pieces (join dir name)) : piece ∈ pieces dir ∨ piece = name := by
  rcases toList_join hn dir with ⟨-, hjoin⟩ | ⟨a, hjoin, hdir⟩
  · rw [hjoin, pieces_eq, Text.cutAt_of_not_mem hn] at h
    right
    simpa using h
  · rw [pieces_eq, hjoin, Text.cutAt_append_sep, Text.cutAt_of_not_mem hn] at h
    rw [List.map_append, List.mem_append] at h
    rcases h with h | h
    · left
      rcases hdir with hdir | ⟨hdir, -⟩
      · rw [pieces_eq, hdir, Text.cutAt_append_sep, List.map_append]
        exact List.mem_append_left _ h
      · rwa [pieces_eq, hdir]
    · right
      simpa using h

end Join

end Path
end ThreatScan
