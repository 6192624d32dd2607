import ThreatScan.Language
import ThreatScan.Proofs.Disk.Paths
import ThreatScan.Proofs.Text.Lowered
/-!
The language that the extension of a file stands for.

`HasExtension path ext` says where the extension of a path is: behind the last dot of the base name, if more than dots come
before it. A path has the extension of its base name, whatever the directories are called (`HasExtension.below`), and
lower-casing a path lower-cases its extension (`HasExtension.lowered`), since dots and slashes have no case. So a path whose
base name has the extension of a known language, in any case, is a file of that language (`detect_of_extension`); what is in
the file does not matter, nor whether there is one.
-/
namespace ThreatScan

open Text (Lowered caseless_dot caseless_slash)

namespace Path

/-- Behind the last slash of the path come a stem, in which there is more than dots, and a last dot with the extension. -/
def HasExtension (path ext : List Char) : Prop :=
  ∃ head stem, path = head ++ (stem ++ '.' :: ext) ∧ (head = [] ∨ ∃ a, head = a ++ ['/']) ∧ '/' ∉ stem ++ '.' :: ext ∧
    (∃ c ∈ stem, c ≠ '.') ∧ '.' ∉ ext

/-- Only what stands behind the last dot is kept. -/
theorem takeWhile_not_dot {ext : List Char} (rest : List Char) (h : '.' ∉ ext) :
    (ext.reverse ++ rest).takeWhile (· != '.') = ext.reverse ++ rest.takeWhile (· != '.') := by
  refine List.takeWhile_append_of_pos fun c hc => ?_
  rw [bne_iff_ne]
  rintro rfl
  exact h (List.mem_reverse.mp hc)

theorem splitName_of_not_mem {name : List Char} (h : '.' ∉ name) : splitName name = (name, []) := by
  have hall := takeWhile_not_dot [] h
  rw [List.append_nil, List.takeWhile_nil, List.append_nil] at hall
  rw [splitName, hall, List.reverse_reverse, if_pos rfl]

theorem splitName_dot (stem : List Char) {ext : List Char} (h : '.' ∉ ext) : splitName (stem ++ '.' :: ext) =
    if stem.all (· == '.') then (stem ++ '.' :: ext, []) else (stem, '.' :: ext) := by
  have hext : ((stem ++ '.' :: ext).reverse.takeWhile (· != '.')).reverse = ext := by
    have hreverse : (stem ++ '.' :: ext).reverse = ext.reverse ++ '.' :: stem.reverse := by simp
    rw [hreverse, takeWhile_not_dot _ h]
    simp
  have hlength : (stem ++ '.' :: ext).length = stem.length + 1 + ext.length := by
    rw [List.length_append, List.length_cons]
    omega
  have htake : (stem ++ '.' :: ext).take (stem.length + 1 + ext.length - ext.length - 1) = stem := by
    rw [show stem.length + 1 + ext.length - ext.length - 1 = stem.length by omega, List.take_left]
  rw [splitName, hext, hlength, if_neg (by omega), htake]

theorem splitExt_snd (path : String) : (splitExt path).2.toList = (splitName (baseName path).toList).2 := by
  obtain ⟨hsplit, -⟩ := headPart_append_baseName path
  have hdrop : path.toList.drop (headPart path).length = (baseName path).toList := by
    rw [hsplit, List.drop_left]
  rw [splitExt, hdrop, String.toList_ofList]

theorem splitExt_snd_cases (path : String) : (splitExt path).2.toList = [] ∨
    ∃ ext, (splitExt path).2.toList = '.' :: ext ∧ HasExtension path.toList ext := by
  obtain ⟨hsplit, hslash, hhead⟩ := headPart_append_baseName path
  rw [splitExt_snd]
  rcases Text.not_mem_or_last '.' (baseName path).toList with hdot | ⟨stem, ext, hname, hext⟩
  · left
    rw [splitName_of_not_mem hdot]
  · rw [hname] at hslash hsplit
    rw [hname, splitName_dot stem hext]
    split
    · exact .inl rfl
    · next hstem =>
      have hmore : ∃ c ∈ stem, c ≠ '.' := by simpa using hstem
      exact .inr ⟨ext, rfl, headPart path, stem, hsplit, hhead, hslash, hmore, hext⟩

theorem splitExt_of_hasExtension {path : String} {ext : List Char} (h : HasExtension path.toList ext) :
    (splitExt path).2.toList = '.' :: ext := by
  obtain ⟨head, stem, hpath, hhead, hslash, hmore, hext⟩ := h
  have hbase : (baseName path).toList = stem ++ '.' :: ext := by
    rw [← String.ofList_toList (s := path), hpath]
    rcases hhead with rfl | ⟨a, rfl⟩
    · rw [List.nil_append, baseName_of_not_mem hslash, String.toList_ofList]
    · rw [List.append_assoc, List.singleton_append, baseName_slash a hslash, String.toList_ofList]
  rw [splitExt_snd, hbase, splitName_dot stem hext, if_neg (by simpa using hmore)]

namespace HasExtension

variable {path ext : List Char}

/-- A path in a directory has the extension that it has without the directory. -/
theorem below {dir : List Char} (hdir : dir = [] ∨ ∃ a, dir = a ++ ['/']) (h : HasExtension path ext) :
    HasExtension (dir ++ path) ext := by
  obtain ⟨head, stem, rfl, hhead, hrest⟩ := h
  refine ⟨dir ++ head, stem, (List.append_assoc ..).symm, ?_, hrest⟩
  rcases hhead with rfl | ⟨a, rfl⟩
  · rwa [List.append_nil]
  · exact .inr ⟨dir ++ a, (List.append_assoc ..).symm⟩

theorem lowered {low : List Char} (h : HasExtension path ext) (hlow : Lowered path low) :
    ∃ ext', Lowered ext ext' ∧ HasExtension low ext' := by
  obtain ⟨head, stem, rfl, hhead, hslash, hmore, hext⟩ := h
  obtain ⟨head', name', rfl, hhead', hname'⟩ := hlow.append_left
  obtain ⟨stem', rest', rfl, hstem', hrest'⟩ := hname'.append_left
  obtain ⟨ext', rfl, hext'⟩ := hrest'.cons_left caseless_dot
  refine ⟨ext', hext', head', stem', rfl, ?_, ?_, hstem'.exists_ne caseless_dot hmore, ?_⟩
  · rcases hhead with rfl | ⟨a, rfl⟩
    · cases hhead'
      exact .inl rfl
    · obtain ⟨a', slash, rfl, -, hslash'⟩ := hhead'.append_left
      obtain ⟨_, rfl, hnil⟩ := hslash'.cons_left caseless_slash
      cases hnil
      exact .inr ⟨a', rfl⟩
  · exact mt (hname'.mem_iff caseless_slash).mp hslash
  · exact mt (hext'.mem_iff caseless_dot).mp hext

end HasExtension
end Path

namespace Language

theorem extensions_plain {e : String × String} (he : e ∈ extensions) :
    extensions.lookup e.1 = some e.2 ∧ ∀ c ∈ e.1.toList, c.toNat < 128 := by
  have hall : (extensions.all fun e => extensions.lookup e.1 == some e.2 && e.1.toList.all fun c => decide (c.toNat < 128)) =
      true := by decide
  simpa using List.all_eq_true.mp hall e he

theorem exists_extension {ext : String} (h : [".py", ".go", ".java"].contains ext = true) :
    ∃ e ∈ extensions, e.2 ∈ supported ∧ ext = e.1 := by
  simp only [List.contains_iff_mem, List.mem_cons, List.not_mem_nil, or_false] at h
  rcases h with rfl | rfl | rfl
  · exact ⟨(".py", "python"), by decide, by decide, rfl⟩
  · exact ⟨(".go", "go"), by decide, by decide, rfl⟩
  · exact ⟨(".java", "java"), by decide, by decide, rfl⟩

theorem eq_python_iff {e : String × String} (he : e ∈ extensions) : e.2 = "python" ↔ e.1 = ".py" := by
  have hall : extensions.all (fun e => decide (e.2 = "python" ↔ e.1 = ".py")) = true := by decide
  exact of_decide_eq_true (List.all_eq_true.mp hall e he)

theorem lower_nil {s : String} (h : s.toList = []) : (Text.lower s).toList = [] := by
  rw [Text.lower, h, String.toList_ofList]
  rfl

theorem detect_of_lookup {path : String} {language : String} (d : Disk)
    (h : extensions.lookup (Path.splitExt (Text.lower path)).2 = some language) : detect d path = language := by
  have hne : path.isEmpty = false := by
    rw [Bool.eq_false_iff]
    intro hempty
    rw [String.isEmpty_iff] at hempty
    subst hempty
    have hnone : extensions.lookup (Path.splitExt (Text.lower "")).2 = none := by decide
    rw [hnone] at h
    cases h
  rw [detect, hne, if_neg (by decide), h]

/-- A file whose name has the extension of a known language, in any case, is a file of that language, in whatever directory it
is. -/
theorem detect_of_extension {e : String × String} (he : e ∈ extensions) {dir name : String}
    (hdir : dir = "" ∨ ∃ a, dir = a ++ "/") (hname : Text.lower (Path.splitExt name).2 = e.1) (d : Disk) :
    detect d (dir ++ name) = e.2 := by
  obtain ⟨hlookup, hascii⟩ := extensions_plain he
  rcases Path.splitExt_snd_cases name with hnone | ⟨ext, hext, hhas⟩
  · -- without an extension there is nothing to look up
    have hempty : e.1 = "" := by
      rw [← hname]
      exact String.toList_eq_nil_iff.mp (lower_nil hnone)
    rw [hempty] at hlookup
    cases hlookup
  · have hlow := Text.lowered_lower (Path.splitExt name).2
    rw [hext, hname] at hlow
    obtain ⟨low, hdot, hlow⟩ := hlow.cons_left caseless_dot
    rw [hdot] at hascii
    have hwhole : Path.HasExtension (dir ++ name).toList ext := by
      rw [String.toList_append]
      refine hhas.below ?_
      rcases hdir with rfl | ⟨a, rfl⟩
      · exact .inl rfl
      · exact .inr ⟨a.toList, by simp [Path.slash_toList]⟩
    obtain ⟨low', hlow', hhas'⟩ := hwhole.lowered (Text.lowered_lower (dir ++ name))
    -- the extension is lowered between other characters here, but in ASCII that makes no difference
    obtain rfl : low' = low := hlow.eq_of_ascii (fun c hc => hascii c (List.mem_cons_of_mem _ hc)) hlow'
    have hext' : (Path.splitExt (Text.lower (dir ++ name))).2 = e.1 := by
      rw [← String.toList_inj, Path.splitExt_of_hasExtension hhas', hdot]
    exact detect_of_lookup d (by rw [hext', hlookup])

theorem detect_of_name {e : String × String} (he : e ∈ extensions) {name : String}
    (hname : Text.lower (Path.splitExt name).2 = e.1) (d : Disk) : detect d name = e.2 := by
  have hdetect := detect_of_extension he (.inl rfl) hname d
  rw [String.empty_append] at hdetect
  exact hdetect

end Language
end ThreatScan
