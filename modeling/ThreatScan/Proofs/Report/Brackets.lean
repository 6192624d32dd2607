import ThreatScan.Proofs.Checked
import ThreatScan.Proofs.Value.Printed
import ThreatScan.Report.Html
/-!
Angle brackets in the page on an analysis.

The page shows the first pieces of evidence of each threat as documents, and nothing in them is escaped for markup. `Shows`
relates two texts that are put together in the same way around two lists of values: their brackets are the same if those of
the values are, and they differ in number as those of the values do. An item, the evidence of a threat, that of all threats
and the whole page show their evidence in this sense, one lemma for each.

What is proved: for two records whose threats are the same up to the values inside their evidence, the pages fail alike, and
the brackets of one page exceed those of the other exactly by the brackets in the texts of the evidence shown
(`page_brackets_of_evidence`). So a tag in the evidence is a tag of the page (`tag_in_evidence_on_page`).
-/
namespace ThreatScan.Report

open Checked (Agree)
open Markup (isAngle not_isAngle_of_isDigit)
open Text (kept kept_append kept_eq_nil kept_join)

def shownEvidence (threat : Value) : List Value :=
  ((do firstItems 5 (← threat.get "evidence" (.list []))).toOption).getD []

def textsIn (evidence : List Value) : List String := evidence.flatMap Value.texts

def bracketCount (evidence : List Value) : Nat := ((textsIn evidence).flatMap (kept isAngle)).length

/-- Threats that differ at most in what their pieces of evidence hold: these are as many, of the same kinds and with the same
keys. -/
structure SameButTexts (t t' : Value) : Prop where
  fields : ∀ key default, key ≠ "evidence" → t.get key default = t'.get key default
  evidence : ∃ xs ys, t.get "evidence" (.list []) = .ok (.list xs) ∧ t'.get "evidence" (.list []) = .ok (.list ys) ∧
    xs.map Value.shape = ys.map Value.shape

/-- Texts that are put together in the same way around values of the same shapes. -/
structure Shows (xs ys : List Value) (s t : String) : Prop where
  shapes : xs.map Value.shape = ys.map Value.shape
  same : xs.map Value.bare = ys.map Value.bare → kept isAngle s = kept isAngle t
  count : (kept isAngle s).length + bracketCount ys = (kept isAngle t).length + bracketCount xs

theorem bracketCount_append (xs ys : List Value) : bracketCount (xs ++ ys) = bracketCount xs + bracketCount ys := by
  simp [bracketCount, textsIn]

theorem bracketCount_eq_zero {xs : List Value} : bracketCount xs = 0 ↔ ∀ s ∈ textsIn xs, kept isAngle s = [] := by
  rw [bracketCount, List.length_eq_zero_iff, List.flatMap_eq_nil_iff]

theorem map_bare {xs : List Value} (h : ∀ s ∈ textsIn xs, kept isAngle s = []) :
    xs.map Value.bare = xs.map Value.shape := by
  apply List.map_congr_left
  intro v hv
  apply Value.bare_of_no_brackets
  intro s hs
  exact h s (List.mem_flatMap.mpr ⟨v, hv, hs⟩)

namespace Shows

theorem of_kept {s t : String} (h : kept isAngle s = kept isAngle t) : Shows [] [] s t where
  shapes := rfl
  same := fun _ => h
  count := by rw [h]

theorem refl (s : String) : Shows [] [] s s := of_kept rfl

theorem append {xs ys zs ws : List Value} {s t u v : String} (h : Shows xs ys s t) (h' : Shows zs ws u v) :
    Shows (xs ++ zs) (ys ++ ws) (s ++ u) (t ++ v) where
  shapes := by rw [List.map_append, List.map_append, h.shapes, h'.shapes]
  same := by
    intro hbare
    have hlength : (xs.map Value.bare).length = (ys.map Value.bare).length := by
      simpa using congrArg List.length h.shapes
    rw [List.map_append, List.map_append] at hbare
    obtain ⟨hxs, hzs⟩ := List.append_inj hbare hlength
    rw [kept_append, kept_append, h.same hxs, h'.same hzs]
  count := by
    have hs := h.count
    have hu := h'.count
    rw [kept_append, kept_append, List.length_append, List.length_append, bracketCount_append, bracketCount_append]
    omega

theorem between {xs ys : List Value} {s t : String} (h : Shows xs ys s t) (before after : String) :
    Shows xs ys (before ++ s ++ after) (before ++ t ++ after) := by
  have hall := ((refl before).append h).append (refl after)
  simpa using hall

/-- Without brackets in the texts on one side, the brackets are the same exactly if the other side has none either. -/
theorem kept_eq_iff {xs ys : List Value} {s t : String} (h : Shows xs ys s t)
    (hys : ∀ u ∈ textsIn ys, kept isAngle u = []) :
    kept isAngle s = kept isAngle t ↔ ∀ u ∈ textsIn xs, kept isAngle u = [] := by
  constructor
  · intro hsame
    have hcount := h.count
    rw [hsame, bracketCount_eq_zero.mpr hys] at hcount
    exact bracketCount_eq_zero.mp (by omega)
  · intro hxs
    apply h.same
    rw [map_bare hxs, map_bare hys, h.shapes]

end Shows

/-! ## Evidence -/

theorem shows_evidenceItem {v w : Value} (h : v.shape = w.shape) : Shows [v] [w] (evidenceItem v) (evidenceItem w) := by
  have hitem : Shows [v] [w] v.indented w.indented := by
    refine ⟨by simp [h], ?_, ?_⟩
    · intro hbare
      exact Value.kept_indented_of_bare (List.cons.inj hbare).1
    · simpa [bracketCount, textsIn] using Value.length_kept_indented h
  exact hitem.between "<div>" "</div><br>"

theorem shows_items {xs ys : List Value} (h : xs.map Value.shape = ys.map Value.shape) :
    Shows xs ys (String.join (xs.map evidenceItem)) (String.join (ys.map evidenceItem)) := by
  induction xs generalizing ys with
  | nil =>
    cases ys with
    | nil => exact Shows.refl _
    | cons w rest => cases h
  | cons v rest ih =>
    cases ys with
    | nil => cases h
    | cons w rest' =>
      obtain ⟨hhead, htail⟩ := List.cons.inj h
      rw [List.map_cons, List.map_cons, String.join_cons, String.join_cons]
      exact (shows_evidenceItem hhead).append (ih htail)

theorem exists_fields_of_get {v w default : Value} {key : String} (h : v.get key default = .ok w) :
    ∃ fields, v = .dict fields := by
  cases v with
  | dict fields => exact ⟨fields, rfl⟩
  | _ => cases h

theorem shownEvidence_of_get {t : Value} {xs : List Value} (h : t.get "evidence" (.list []) = .ok (.list xs)) :
    shownEvidence t = xs.take 5 := by
  rw [shownEvidence, h]
  rfl

/-- The evidence of a threat is shown between texts that do not depend on it. -/
theorem exists_evidenceBlock {t t' : Value} (h : SameButTexts t t') (n : Nat) : ∃ s s',
    evidenceBlock n t = .ok s ∧ evidenceBlock n t' = .ok s' ∧ Shows (shownEvidence t) (shownEvidence t') s s' := by
  obtain ⟨xs, ys, hx, hy, hshapes⟩ := h.evidence
  obtain ⟨fields, rfl⟩ := exists_fields_of_get hx
  obtain ⟨kind, hk⟩ : ∃ kind, (Value.dict fields).get "threat_type" (.str "未知") = .ok kind := ⟨_, rfl⟩
  have hk' : t'.get "threat_type" (.str "未知") = .ok kind := by
    rw [← h.fields "threat_type" _ (by decide), hk]
  have htake : (xs.take 5).map Value.shape = (ys.take 5).map Value.shape := by
    rw [List.map_take, List.map_take, hshapes]
  rw [shownEvidence_of_get hx, shownEvidence_of_get hy]
  unfold evidenceBlock
  rw [hk, hk', hx, hy]
  exact ⟨_, _, rfl, rfl, (shows_items htake).between _ _⟩

theorem exists_evidenceBlocks {ts ts' : List Value} (h : List.Forall₂ SameButTexts ts ts') (n : Nat) : ∃ ss ss',
    evidenceBlocks n ts = .ok ss ∧ evidenceBlocks n ts' = .ok ss' ∧
      Shows (ts.flatMap shownEvidence) (ts'.flatMap shownEvidence) (String.join ss) (String.join ss') := by
  induction h generalizing n with
  | nil => exact ⟨[], [], rfl, rfl, Shows.refl _⟩
  | @cons t t' ts ts' ht _ ih =>
    obtain ⟨s, s', hs, hs', hblock⟩ := exists_evidenceBlock ht n
    obtain ⟨ss, ss', hss, hss', hblocks⟩ := ih (n + 1)
    refine ⟨s :: ss, s' :: ss', ?_, ?_, ?_⟩
    · rw [evidenceBlocks, hs, hss]
      rfl
    · rw [evidenceBlocks, hs', hss']
      rfl
    · rw [List.flatMap_cons, List.flatMap_cons, String.join_cons, String.join_cons]
      exact hblock.append hblocks

/-! ## The page -/

theorem ofThreat_eq {t t' : Value} (h : SameButTexts t t') : ThreatRow.ofThreat t = ThreatRow.ofThreat t' := by
  unfold ThreatRow.ofThreat
  rw [h.fields "threat_type" _ (by decide), h.fields "severity" _ (by decide), h.fields "description" _ (by decide),
    h.fields "line_numbers" _ (by decide)]

theorem mapM_ofThreat_eq {ts ts' : List Value} (h : List.Forall₂ SameButTexts ts ts') :
    ts.mapM ThreatRow.ofThreat = ts'.mapM ThreatRow.ofThreat := by
  induction h with
  | nil => rfl
  | cons ht _ ih => rw [List.mapM_cons, List.mapM_cons, ofThreat_eq ht, ih]

theorem kept_reportText (now : Instant) : kept isAngle now.reportText = [] := by
  have hpadded : ∀ width n, kept isAngle (Text.padded width n) = [] := by
    intro width n
    rw [kept_eq_nil]
    intro c hc
    exact not_isAngle_of_isDigit (Text.isDigit_of_mem_padded hc)
  have hsigns : kept isAngle "年" = [] ∧ kept isAngle "月" = [] ∧ kept isAngle "日 " = [] ∧ kept isAngle ":" = [] := by
    decide
  simp only [Instant.reportText, Instant.time, kept_append, hpadded, hsigns, List.append_nil]

theorem kept_pageFoot (now now' : Instant) : kept isAngle (pageFoot now) = kept isAngle (pageFoot now') := by
  have hbreak : kept isAngle "\n" = [] := by decide
  unfold pageFoot
  rw [kept_join hbreak, kept_join hbreak]
  simp only [List.flatMap_cons, kept_append, kept_reportText]

theorem exists_level_of_ofRisk {risk : Value} {o : Overview} (h : Overview.ofRisk risk = .ok o) :
    ∃ level, risk.get "risk_level" (.str "low") = .ok level ∧ level.hashable = .ok () := by
  simp only [Overview.ofRisk, Checked.bind_eq_ok] at h
  obtain ⟨score, -, level, hl, count, -, breakdown, -, word, hword, -⟩ := h
  refine ⟨level, hl, ?_⟩
  cases level with
  | str s => rfl
  | _ => cases hword

def pageFront (o : Overview) (rows : List ThreatRow) : String :=
  Text.join "\n" (pageHead ++ overviewLines o ++ tableHead) ++ String.join (rows.map tableRow) ++ tableFoot

section Page
variable {results risk : Value} {ts : List Value} (hts : results.get "threats" (.list []) = .ok (.list ts))
  (hrisk : results.get "risk_assessment" (.dict []) = .ok risk)
include hts hrisk

theorem html_eq {ss : List String} (hss : evidenceBlocks 1 ts = .ok ss) (now : Instant) :
    html now results = do
      (← risk.get "risk_level" (.str "low")).hashable
      let o ← Overview.ofRisk risk
      let rows ← ts.mapM ThreatRow.ofThreat
      return pageFront o rows ++ String.join ss ++ pageFoot now := by
  obtain ⟨fields, rfl⟩ := exists_fields_of_get hts
  obtain ⟨found, hfound⟩ : ∃ v, (Value.dict fields).get "aggregated_results" (.dict []) = .ok v := ⟨_, rfl⟩
  unfold html
  rw [hts, hrisk, hfound]
  simp only [Checked.ok_bind, Value.items, hss]
  rfl

/-- A page can be written exactly if the assessment and every threat can be worded. -/
theorem exists_html_iff {ss : List String} (hss : evidenceBlocks 1 ts = .ok ss) (now : Instant) :
    (∃ h, html now results = .ok h) ↔
      (∃ o, Overview.ofRisk risk = .ok o) ∧ ∀ t ∈ ts, ∃ row, ThreatRow.ofThreat t = .ok row := by
  rw [html_eq hts hrisk hss]
  constructor
  · rintro ⟨h, hh⟩
    simp only [Checked.bind_eq_ok] at hh
    obtain ⟨_, -, _, -, o, ho, rows, hrows, -⟩ := hh
    exact ⟨⟨o, ho⟩, fun t ht => Checked.exists_of_mapM_eq_ok hrows ht⟩
  · rintro ⟨⟨o, ho⟩, hrows⟩
    obtain ⟨rows, hrows⟩ := Checked.exists_mapM_eq_ok hrows
    obtain ⟨level, hl, hhash⟩ := exists_level_of_ofRisk ho
    rw [hl, Checked.ok_bind, hhash, ho, hrows]
    exact ⟨_, rfl⟩

end Page

/-- The pages fail alike, or show their evidence in the same place. -/
theorem agree_html {results results' risk : Value} {ts ts' : List Value}
    (hts : results.get "threats" (.list []) = .ok (.list ts)) (hts' : results'.get "threats" (.list []) = .ok (.list ts'))
    (hrisk : results.get "risk_assessment" (.dict []) = .ok risk)
    (hrisk' : results'.get "risk_assessment" (.dict []) = .ok risk) (hsame : List.Forall₂ SameButTexts ts ts')
    (now now' : Instant) :
    Agree (Shows (ts.flatMap shownEvidence) (ts'.flatMap shownEvidence)) (html now results) (html now' results') := by
  obtain ⟨ss, ss', hss, hss', hblocks⟩ := exists_evidenceBlocks hsame 1
  have hfoot : Shows [] [] (pageFoot now) (pageFoot now') := Shows.of_kept (kept_pageFoot now now')
  have hpage : ∀ o rows, Shows (ts.flatMap shownEvidence) (ts'.flatMap shownEvidence)
      (pageFront o rows ++ String.join ss ++ pageFoot now) (pageFront o rows ++ String.join ss' ++ pageFoot now') := by
    intro o rows
    simpa using ((Shows.refl (pageFront o rows)).append hblocks).append hfoot
  rw [html_eq hts hrisk hss, html_eq hts' hrisk' hss', mapM_ofThreat_eq hsame]
  -- Up to the evidence both pages are computed from the same values.
  have hrefl : ∀ {α : Type} (x : Except Fault α), Agree Eq x x := fun x => Agree.refl (fun _ => rfl) x
  refine Agree.bind' (hrefl _) ?_
  rintro level _ rfl
  refine Agree.bind' (hrefl _) ?_
  rintro _ _ -
  refine Agree.bind' (hrefl _) ?_
  rintro o _ rfl
  refine Agree.bind' (hrefl _) ?_
  rintro rows _ rfl
  exact Agree.pure' (hpage o rows)

/-- What a page takes over from evidence: two records with the same assessment, whose threats are the same up to the values
inside their evidence, can be reported on only together. The brackets of their pages are the same if those of the texts in the
evidence shown are, they differ in number as those of these texts do, and if the texts of one record have none, the pages have
the same brackets exactly if those of the other have none. -/
theorem page_brackets_of_evidence {results results' risk : Value} {ts ts' : List Value}
    (hts : results.get "threats" (.list []) = .ok (.list ts)) (hts' : results'.get "threats" (.list []) = .ok (.list ts'))
    (hrisk : results.get "risk_assessment" (.dict []) = .ok risk)
    (hrisk' : results'.get "risk_assessment" (.dict []) = .ok risk) (hsame : List.Forall₂ SameButTexts ts ts')
    (now now' : Instant) :
    ((∃ h, html now results = .ok h) ↔
        (∃ o, Overview.ofRisk risk = .ok o) ∧ ∀ t ∈ ts, ∃ row, ThreatRow.ofThreat t = .ok row) ∧
      (∀ f, html now results = .error f ↔ html now' results' = .error f) ∧
      ∀ h h', html now results = .ok h → html now' results' = .ok h' →
        ((ts.flatMap shownEvidence).map Value.bare = (ts'.flatMap shownEvidence).map Value.bare →
          kept isAngle h = kept isAngle h') ∧
        (kept isAngle h).length + bracketCount (ts'.flatMap shownEvidence) =
          (kept isAngle h').length + bracketCount (ts.flatMap shownEvidence) ∧
        ((∀ s ∈ textsIn (ts'.flatMap shownEvidence), kept isAngle s = []) →
          (kept isAngle h = kept isAngle h' ↔ ∀ s ∈ textsIn (ts.flatMap shownEvidence), kept isAngle s = [])) := by
  have hpages := agree_html hts hts' hrisk hrisk' hsame now now'
  obtain ⟨ss, -, hss, -, -⟩ := exists_evidenceBlocks hsame 1
  refine ⟨exists_html_iff hts hrisk hss now, hpages.error_iff, ?_⟩
  intro h h' hh hh'
  obtain ⟨page, hpage, hshows⟩ := hpages.exists_ok hh
  have heq : page = h' := Except.ok.inj (hpage.symm.trans hh')
  subst heq
  exact ⟨hshows.same, hshows.count, hshows.kept_eq_iff⟩

/-! ## A tag in evidence -/

def matchedThreat (text : String) : Value :=
  .dict [("threat_type", .str "恶意代码"), ("severity", .str "high"),
    ("evidence", .list [.dict [("matched_text", .str text)]])]

def matchedResults (text : String) : Value := .dict [("threats", .list [matchedThreat text])]

theorem threats_matchedResults (s : String) :
    (matchedResults s).get "threats" (.list []) = .ok (.list [matchedThreat s]) := rfl

theorem risk_matchedResults (s : String) : (matchedResults s).get "risk_assessment" (.dict []) = .ok (.dict []) := rfl

theorem sameButTexts_matchedThreat (s t : String) : List.Forall₂ SameButTexts [matchedThreat s] [matchedThreat t] := by
  refine .cons ⟨?_, ?_⟩ .nil
  · intro key default hkey
    simp only [matchedThreat, Value.get, Value.fieldOf?, if_neg hkey.symm]
  · exact ⟨_, _, rfl, rfl, rfl⟩

theorem matchedResults_worded (s : String) : (∃ o, Overview.ofRisk (.dict []) = .ok o) ∧
    ∀ t ∈ [matchedThreat s], ∃ row, ThreatRow.ofThreat t = .ok row := by
  refine ⟨⟨_, rfl⟩, ?_⟩
  intro t ht
  rw [List.mem_singleton.mp ht]
  exact ⟨_, rfl⟩

/-- Matched texts without brackets leave the brackets of the page as they are. -/
theorem matched_texts_same_brackets :
    ∃ h h', html ⟨2024, 1, 2, 3, 4, 5, 0⟩ (matchedResults "eval(x)") = .ok h ∧
      html ⟨2024, 1, 2, 3, 4, 6, 0⟩ (matchedResults "os.system(\"ls\")") = .ok h' ∧ kept isAngle h = kept isAngle h' := by
  have hsame := sameButTexts_matchedThreat "eval(x)" "os.system(\"ls\")"
  obtain ⟨hwritten, hfail, hbrackets⟩ := page_brackets_of_evidence (threats_matchedResults _) (threats_matchedResults _)
    (risk_matchedResults _) (risk_matchedResults _) hsame ⟨2024, 1, 2, 3, 4, 5, 0⟩ ⟨2024, 1, 2, 3, 4, 6, 0⟩
  obtain ⟨h, hh⟩ := hwritten.mpr (matchedResults_worded _)
  cases hh' : html ⟨2024, 1, 2, 3, 4, 6, 0⟩ (matchedResults "os.system(\"ls\")") with
  | error f => rw [(hfail f).mpr hh'] at hh; cases hh
  | ok h' => exact ⟨h, h', hh, rfl, ((hbrackets h h' hh hh').2.2 (by decide)).mpr (by decide)⟩

/-- A tag that the analysed source holds is a tag of the page: the pages on two threats of the same shape differ by its
brackets. -/
theorem tag_in_evidence_on_page :
    ∃ h h', html ⟨2024, 1, 2, 3, 4, 5, 0⟩ (matchedResults "<b>") = .ok h ∧
      html ⟨2024, 1, 2, 3, 4, 5, 0⟩ (matchedResults "b") = .ok h' ∧
      List.Forall₂ SameButTexts [matchedThreat "<b>"] [matchedThreat "b"] ∧
      (kept isAngle h).length = (kept isAngle h').length + 2 ∧ kept isAngle h ≠ kept isAngle h' := by
  have hsame := sameButTexts_matchedThreat "<b>" "b"
  have hpages := agree_html (threats_matchedResults _) (threats_matchedResults _) (risk_matchedResults _)
    (risk_matchedResults _) hsame ⟨2024, 1, 2, 3, 4, 5, 0⟩ ⟨2024, 1, 2, 3, 4, 5, 0⟩
  obtain ⟨ss, -, hss, -, -⟩ := exists_evidenceBlocks hsame 1
  obtain ⟨h, hh⟩ := (exists_html_iff (threats_matchedResults _) (risk_matchedResults _) hss ⟨2024, 1, 2, 3, 4, 5, 0⟩).mpr
    (matchedResults_worded "<b>")
  obtain ⟨h', hh', hshows⟩ := hpages.exists_ok hh
  have hcount : (kept isAngle h).length + 0 = (kept isAngle h').length + 2 := hshows.count
  refine ⟨h, h', hh, hh', hsame, hcount, ?_⟩
  intro heq
  rw [heq] at hcount
  omega

end ThreatScan.Report
