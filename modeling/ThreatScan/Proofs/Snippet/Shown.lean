import ThreatScan.Proofs.Regex.Bounds
import ThreatScan.Proofs.Snippet.Dividers
import ThreatScan.Proofs.Snippet.Ranges
import ThreatScan.Proofs.Text.Placed
/-!
The lines that a reader shows of what was found.

Rules are tried on the pieces between line feeds, but the reader shows the lines between all line breaks. Both are numbered
from one, so the reader has the line of a match under its number exactly if no other line break comes before its end, and the
line is not the empty one at the end of the text (`match_shown_iff`). In that case every reading in which the line is marked
has it in its markup (`InReadings`): the parts around marked lines cover all of them (`exists_range_iff`).
-/
namespace ThreatScan.Snippet

open Text (placed)

/-! ## Lines in the markup -/

theorem toList_join_empty (xs : List String) : (Text.join "" xs).toList = (xs.map String.toList).flatten := by
  rw [Text.join, String.toList_ofList]
  generalize xs.map String.toList = ls
  induction ls with
  | nil => rfl
  | cons l rest ih =>
    cases rest with
    | nil => simp [Text.joinWith]
    | cons l' rest =>
      rw [Text.joinWith, ih]
      · simp
      · simp

theorem isInfix_join {x : String} {xs : List String} (h : x ∈ xs) : x.toList <:+: (Text.join "" xs).toList := by
  rw [toList_join_empty]
  exact List.infix_of_mem_flatten (List.mem_map_of_mem h)

section Markup
variable {lines : List String} {marks : LineMarks} {n : Int}

def HasLine (lines : List String) (marks : LineMarks) (n : Int) (html : String) : Prop :=
  ∃ shown, lineMarkup lines marks n = .ok shown ∧ shown.toList <:+: html.toList

theorem HasLine.mono {text html : String} (h : HasLine lines marks n text) (hpart : text.toList <:+: html.toList) :
    HasLine lines marks n html := by
  obtain ⟨shown, hshown, hin⟩ := h
  exact ⟨shown, hshown, hin.trans hpart⟩

theorem hasLine_snippet {number : Nat} {r : LineRange} {snippet : String}
    (h : snippetMarkup lines marks number r = .ok snippet) (hn : LineRange.Has r n) : HasLine lines marks n snippet := by
  obtain ⟨body, hbody, h⟩ := Checked.bind_eq_ok.mp h
  obtain ⟨shown, hshown⟩ := Checked.exists_of_mapM_eq_ok hbody (mem_numbersIn.mpr hn)
  have hmem : shown ∈ body := (Checked.mem_iff_of_mapM_eq_ok hbody shown).mpr ⟨n, mem_numbersIn.mpr hn, hshown⟩
  refine ⟨shown, hshown, (isInfix_join hmem).trans ?_⟩
  rw [← Checked.pure_eq_ok.mp h, String.toList_append, String.toList_append]
  exact List.infix_append _ _ _

theorem hasLine_snippets {number : Nat} {ranges : List LineRange} {snippets : List String}
    (h : snippetsFrom lines marks number ranges = .ok snippets) {r : LineRange} (hr : r ∈ ranges)
    (hn : LineRange.Has r n) : HasLine lines marks n (Text.join "" snippets) := by
  suffices hsnippet : ∃ snippet ∈ snippets, HasLine lines marks n snippet by
    obtain ⟨snippet, hmem, hline⟩ := hsnippet
    exact hline.mono (isInfix_join hmem)
  induction ranges generalizing number snippets with
  | nil => cases hr
  | cons first rest ih =>
    obtain ⟨snippet, hfirst, h⟩ := Checked.bind_eq_ok.mp h
    obtain ⟨others, hrest, h⟩ := Checked.bind_eq_ok.mp h
    rw [← Checked.pure_eq_ok.mp h]
    rcases List.mem_cons.mp hr with rfl | hr
    · exact ⟨snippet, List.mem_cons_self, hasLine_snippet hfirst hn⟩
    · obtain ⟨other, hmem, hline⟩ := ih hrest hr
      exact ⟨other, List.mem_cons_of_mem _ hmem, hline⟩

theorem firstRanges_of_le {limit : Int} {ranges : List LineRange} (h : ranges.length ≤ limit) :
    firstRanges limit ranges = ranges := by
  rw [firstRanges, if_pos (by omega)]
  exact List.take_of_length_le (by omega)

def partsAround (marks : LineMarks) (total context : Int) : List LineRange :=
  contextRanges (marks.lines.mergeSort fun a b => decide (a ≤ b)) total context

/-- A marked line that the text has is in the markup, if all parts are shown. -/
theorem hasLine_markup {context limit : Int} {html : String} (h : markup lines marks context limit = .ok html)
    (hmarked : n ∈ marks.lines) (hc : 0 ≤ context) (hlimit : (partsAround marks lines.length context).length ≤ limit)
    (hfirst : 1 ≤ n) (hlast : n ≤ lines.length) : HasLine lines marks n html := by
  unfold partsAround at hlimit
  obtain ⟨snippets, hsnippets, h⟩ := Checked.bind_eq_ok.mp h
  rw [firstRanges_of_le hlimit] at hsnippets
  have hsorted : n ∈ marks.lines.mergeSort fun a b => decide (a ≤ b) := List.mem_mergeSort.mpr hmarked
  obtain ⟨r, hr, hn⟩ := (exists_range_iff hsorted hc).mpr ⟨hfirst, hlast⟩
  refine (hasLine_snippets hsnippets hr hn).mono ?_
  rw [← Checked.pure_eq_ok.mp h]
  simp only [String.toList_append]
  exact (List.infix_append _ _ _).trans (List.prefix_append _ _).isInfix

end Markup

/-! ## Readings -/

theorem read_of_marks {source : String} {threats : List Value} {marks : LineMarks} (hs : source ≠ "")
    (h : LineMarks.ofThreats threats = .ok marks) (hne : marks ≠ []) (context limit : Int) :
    read (.str source) (.list threats) context limit =
      (do return .markup (← markup (Text.displayLines source) marks context limit)) := by
  rw [ofThreats_eq] at h
  obtain ⟨listed, hlisted, h⟩ := Checked.bind_eq_ok.mp h
  have hmarks := Checked.pure_eq_ok.mp h
  rw [← hmarks]
  refine read_of_listed hs hlisted ?_ context limit
  rintro rfl
  exact hne hmarks.symm

/-- Every reading in which the line is marked succeeds and has the line in its markup, with the text that the rules were tried
on. Marks have to be printable, and all parts around marked lines have to be shown. -/
def InReadings (source : String) (n : Nat) : Prop :=
  ∀ (threats : List Value) (marks : LineMarks) (context limit : Int),
    LineMarks.ofThreats threats = .ok marks → marks.Printable → (n : Int) ∈ marks.lines → 0 ≤ context →
    (partsAround marks (Text.displayLines source).length context).length ≤ limit →
    ∃ html, read (.str source) (.list threats) context limit = .ok (.markup html) ∧
      HasLine (Text.lines source) marks n html

theorem inReadings_of_displayed {source line : String} {i : Nat} (hsearched : (Text.lines source)[i]? = some line)
    (hdisplayed : (Text.displayLines source)[i]? = some line) : InReadings source (i + 1) := by
  intro threats marks context limit hthreats hprintable hmarked hc hlimit
  have hlt : i < (Text.displayLines source).length := (List.getElem?_eq_some_iff.mp hdisplayed).1
  have hs : source ≠ "" := by
    rintro rfl
    cases hlt
  have hne : marks ≠ [] := by
    rintro rfl
    cases hmarked
  obtain ⟨html, hhtml⟩ := exists_markup hprintable (Text.displayLines source) context limit
  refine ⟨html, ?_, ?_⟩
  · rw [read_of_marks hs hthreats hne, hhtml]
    rfl
  · obtain ⟨shown, hshown, hin⟩ := hasLine_markup hhtml hmarked hc hlimit (by omega) (by omega)
    refine ⟨shown, ?_, hin⟩
    have hindex : ((i + 1 : Nat) - 1 : Int).toNat = i := by omega
    rw [← hshown, lineMarkup, lineMarkup, hindex, hsearched, hdisplayed]

/-! ## Lines and displayed lines -/

theorem placed_ofList_iff {lines : List (List Char)} {i k : Nat} {line : String} :
    (placed String.length 0 (lines.map String.ofList))[i]? = some (k, line) ↔
      (placed List.length 0 lines)[i]? = some (k, line.toList) := by
  rw [Text.placed_map (fun l => String.length_ofList), List.getElem?_map, Option.map_eq_some_iff]
  constructor
  · rintro ⟨⟨k', l⟩, hl, h⟩
    cases h
    rw [hl, String.toList_ofList]
  · intro h
    exact ⟨_, h, by rw [String.ofList_toList]⟩

/-- Up to the end of the line nothing but line feeds breaks the text, and the line is not the empty one at its end. -/
def PlainUpTo (source : String) (start : Nat) (line : String) : Prop :=
  (∀ c ∈ source.toList.take (start + line.length), Text.isLineBreak c = true → c = '\n') ∧ start < source.length

/-- The line is displayed under its number exactly if the text is plain up to its end. -/
theorem displayed_iff_plainUpTo {source line : String} {i start : Nat} (hr : '\r' ∉ source.toList)
    (hsearched : (placed String.length 0 (Text.lines source))[i]? = some (start, line)) :
    (placed String.length 0 (Text.displayLines source))[i]? = some (start, line) ↔ PlainUpTo source start line := by
  rw [Text.lines, placed_ofList_iff, Text.cutAt_eq_cutWhere, Text.placed_cutWhere_iff] at hsearched
  have hbreak : ∀ c : Char, (c == '\n') = true → Text.isLineBreak c = true := by
    intro c hc
    rw [eq_of_beq hc]
    rfl
  rw [Text.displayLines, placed_ofList_iff, Text.displayLineAt_iff hr, Text.lineAt_finer_iff hbreak hsearched, PlainUpTo,
    String.length_toList, String.length_toList]
  simp only [beq_iff_eq]

/-! ## Matches and what is shown of them -/

/-- What a reader shows of a match on a line that begins at `start`. -/
structure MatchShown (source : String) (m : RuleMatch) (start : Nat) (line : String) : Prop where
  searched : 0 < m.line ∧ (placed String.length 0 (Text.lines source))[m.line - 1]? = some (start, line)
  matched : ∃ before after, line.toList = before ++ m.text.toList ++ after ∧ before.length = m.column
  displayed : (placed String.length 0 (Text.displayLines source))[m.line - 1]? = some (start, line) ↔
    PlainUpTo source start line
  read : PlainUpTo source start line → InReadings source m.line

/-- A match is on the line that it names, at its column, of the pieces between line feeds. The reader displays this line under
its number exactly if no other break comes before the end of the line and the line is not the empty one at the end; then every
reading in which it is marked has it. -/
theorem match_shown_iff {source : String} (hr : '\r' ∉ source.toList) {rules : List Value} {found : List RuleMatch}
    (hscan : Rule.scanValue (.str source) (.list rules) = .ok found) {m : RuleMatch} (hm : m ∈ found) :
    ∃ start line, MatchShown source m start line := by
  obtain ⟨text, records, rs, htext, -, -, hm⟩ := Rule.exists_of_mem_scanValue hscan hm
  cases htext
  obtain ⟨i, line, hline, hget, hmatched⟩ := Rule.exists_line_of_mem_scanAll hm
  obtain ⟨start, hsearched⟩ := Text.exists_placed String.length 0 hget
  have hi : m.line - 1 = i := by omega
  have hdisplayed := displayed_iff_plainUpTo hr hsearched
  refine ⟨start, line, ⟨by omega, hi ▸ hsearched⟩, hmatched, hi ▸ hdisplayed, fun hplain => ?_⟩
  rw [hline]
  exact inReadings_of_displayed hget (Text.getElem?_of_placed (hdisplayed.mpr hplain))

/-- In a text with line feeds only, the reader shows a match on the second line. -/
theorem second_line_in_readings :
    let source := "a\neval(x)\n"
    '\r' ∉ source.toList ∧
    ∃ found, Rule.scanValue (.str source) (.list [.dict (Rule.patternRecord "eval")]) = .ok found ∧
      found.map Rule.placeOf = [(2, 0, "eval")] ∧ InReadings source 2 := by
  intro source
  have hr : '\r' ∉ source.toList := by decide
  have hscan := @Rule.scanValue_records source (by decide) [Rule.patternRecord "eval"]
  have hfound : (Rule.scanAll regexEngine [Rule.ofRecord (Rule.patternRecord "eval")] source).map Rule.placeOf =
      [(2, 0, "eval")] := by
    rw [Rule.scanAll_eq_lineMajor]
    decide +kernel
  refine ⟨hr, _, hscan, hfound, ?_⟩
  obtain ⟨m, hm, hplace⟩ := List.exists_of_mem_map (hfound ▸ List.mem_singleton_self (2, 0, "eval"))
  have hline : m.line = 2 := congrArg Prod.fst hplace
  obtain ⟨start, line, hshown⟩ := match_shown_iff hr hscan hm
  have hsecond : (placed String.length 0 (Text.lines source))[1]? = some (2, "eval(x)") := by decide
  have hsearched := hshown.searched.2
  have hread := hshown.read
  rw [hline] at hsearched hread
  obtain ⟨rfl, rfl⟩ := Prod.mk.inj (Option.some.inj (hsearched.symm.trans hsecond))
  have hfeeds : (source.toList.take 9).all (fun c => !Text.isLineBreak c || c == '\n') = true := by decide
  refine hread ⟨fun c hc hbreak => ?_, by decide⟩
  simpa [hbreak] using List.all_eq_true.mp hfeeds c hc

namespace FormFeed

def source : String := "a\x0cb\neval(x)\n"

/-- The match is on the second line, but what the reader shows under its number is the end of the first. -/
theorem end_of_first_line_shown :
    (∃ found, Rule.scanValue (.str source) (.list [.dict (Rule.patternRecord "eval")]) = .ok found ∧
      found.map Rule.placeOf = [(2, 0, "eval")]) ∧
    (Text.lines source)[1]? = some "eval(x)" ∧ (Text.displayLines source)[1]? = some "b" := by
  have hscan := @Rule.scanValue_records source (by decide) [Rule.patternRecord "eval"]
  have hfound : (Rule.scanAll regexEngine [Rule.ofRecord (Rule.patternRecord "eval")] source).map Rule.placeOf =
      [(2, 0, "eval")] := by
    rw [Rule.scanAll_eq_lineMajor]
    decide +kernel
  exact ⟨⟨_, hscan, hfound⟩, by decide, by decide⟩

end FormFeed
end ThreatScan.Snippet
