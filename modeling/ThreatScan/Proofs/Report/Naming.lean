import Mathlib.Algebra.Group.Nat.Defs
import ThreatScan.Analysis.File
/-!
A JSON document names the file that it is about.

The characters of a text in JSON are written one after another, and where one ends can be told from its beginning
(`jsonChar_inj`), so a text in JSON can be told from what follows it (`jsonText_inj`). All documents of one time begin the same
up to the path of the file, so documents that are the same are about the same file (`path_of_json_eq`).
-/
namespace ThreatScan

namespace Text

theorem digitChar_inj {m n : Nat} (hm : m < 16) (hn : n < 16) (h : Nat.digitChar m = Nat.digitChar n) : m = n := by
  have hall : ∀ m < 16, ∀ n < 16, Nat.digitChar m = Nat.digitChar n → m = n := by decide
  exact hall m hm n hn h

theorem length_hexDigits (width n : Nat) : (hexDigits width n).length = width := by
  induction width generalizing n with
  | zero => rfl
  | succ width ih => rw [hexDigits, List.length_append, ih, List.length_singleton]

/-- A number is determined by so many of its digits as it has. -/
theorem hexDigits_inj {width m n : Nat} (hm : m < 16 ^ width) (hn : n < 16 ^ width)
    (h : hexDigits width m = hexDigits width n) : m = n := by
  induction width generalizing m n with
  | zero => omega
  | succ width ih =>
    rw [Nat.pow_succ] at hm hn
    rw [hexDigits, hexDigits] at h
    obtain ⟨hfront, hlast⟩ := List.append_inj' h rfl
    have hdiv : m / 16 = n / 16 := ih (by omega) (by omega) hfront
    have hmod : m % 16 = n % 16 := by
      refine digitChar_inj (Nat.mod_lt _ (by decide)) (Nat.mod_lt _ (by decide)) ?_
      simpa using hlast
    omega

end Text

namespace Value

def shortEscapes : List (Char × Char) :=
  [('"', '"'), ('\\', '\\'), ('n', '\n'), ('r', '\r'), ('t', '\t'), ('b', Char.ofNat 0x08), ('f', Char.ofNat 0x0C)]

/-- A character stands for itself, or is written with a backslash: by another character, or by the digits of its unit. -/
theorem jsonChar_cases (c : Char) : (jsonChar c = [c] ∧ c ≠ '\\' ∧ c ≠ '"') ∨
    (∃ e, (e, c) ∈ shortEscapes ∧ jsonChar c = ['\\', e]) ∨
    ∃ n < 16 ^ 4, jsonChar c = '\\' :: 'u' :: Text.hexDigits 4 n ∧ c = Text.charOfUnit n := by
  by_cases hshort : ∃ e, (e, c) ∈ shortEscapes
  · obtain ⟨e, he⟩ := hshort
    refine .inr (.inl ⟨e, he, ?_⟩)
    simp only [shortEscapes, List.mem_cons, Prod.mk.injEq, List.not_mem_nil, or_false] at he
    rcases he with ⟨rfl, rfl⟩ | ⟨rfl, rfl⟩ | ⟨rfl, rfl⟩ | ⟨rfl, rfl⟩ | ⟨rfl, rfl⟩ | ⟨rfl, rfl⟩ | ⟨rfl, rfl⟩ <;> rfl
  · have hnot : ∀ e d, (e, d) ∈ shortEscapes → c ≠ d := by
      rintro e d hmem rfl
      exact hshort ⟨e, hmem⟩
    have hcode : ∀ e n, (e, Char.ofNat n) ∈ shortEscapes → c.toNat ≠ n := by
      intro e n hmem hn
      exact hnot e _ hmem (by rw [← hn, Char.ofNat_toNat])
    have hplain : jsonChar c = if c.toNat < 0x20 then '\\' :: 'u' :: Text.hexDigits 4 c.toNat
        else (Text.halfOf? c).elim [c] fun n => '\\' :: 'u' :: Text.hexDigits 4 n := by
      rw [jsonChar, if_neg (hnot '"' _ (by decide)), if_neg (hnot '\\' _ (by decide)), if_neg (hnot 'n' _ (by decide)),
        if_neg (hnot 'r' _ (by decide)), if_neg (hnot 't' _ (by decide)), if_neg (hcode 'b' _ (by decide)),
        if_neg (hcode 'f' _ (by decide))]
      cases Text.halfOf? c <;> rfl
    rw [hplain]
    by_cases hlow : c.toNat < 0x20
    · refine .inr (.inr ⟨c.toNat, by omega, if_pos hlow, ?_⟩)
      have hhalf : Text.isHalfUnit c.toNat = false := by simp [Text.isHalfUnit]; omega
      rw [Text.charOfUnit, hhalf, if_neg (by decide), Char.ofNat_toNat]
    · rw [if_neg hlow]
      by_cases hhigh : 0x10D800 ≤ c.toNat ∧ c.toNat < 0x10E000
      · refine .inr (.inr ⟨c.toNat - 0x100000, by omega, by rw [Text.halfOf?, if_pos hhigh]; rfl, ?_⟩)
        have hhalf : Text.isHalfUnit (c.toNat - 0x100000) = true := by simp [Text.isHalfUnit]; omega
        have hsum : 0x100000 + (c.toNat - 0x100000) = c.toNat := by omega
        rw [Text.charOfUnit, hhalf, if_pos rfl, hsum, Char.ofNat_toNat]
      · exact .inl ⟨by rw [Text.halfOf?, if_neg hhigh]; rfl, hnot '\\' _ (by decide), hnot '"' _ (by decide)⟩

/-- Where a character ends can be told from its beginning. -/
theorem jsonChar_inj {c d : Char} {x y : List Char} (h : jsonChar c ++ x = jsonChar d ++ y) : c = d ∧ x = y := by
  have hshort : ∀ e ∈ shortEscapes, ∀ e' ∈ shortEscapes, e.1 = e'.1 → e.2 = e'.2 := by decide
  have hunit : ∀ e ∈ shortEscapes, e.1 ≠ 'u' := by decide
  rcases jsonChar_cases c with ⟨hc, hc', -⟩ | ⟨e, he, hc⟩ | ⟨n, hn, hc, hcn⟩
  · rcases jsonChar_cases d with ⟨hd, -, -⟩ | ⟨e', -, hd⟩ | ⟨m, -, hd, -⟩ <;> rw [hc, hd] at h
    · exact List.cons_eq_cons.mp h
    · exact absurd (List.cons_eq_cons.mp h).1 hc'
    · exact absurd (List.cons_eq_cons.mp h).1 hc'
  · rcases jsonChar_cases d with ⟨hd, hd', -⟩ | ⟨e', he', hd⟩ | ⟨m, -, hd, -⟩ <;> rw [hc, hd] at h
    · exact absurd (List.cons_eq_cons.mp h).1.symm hd'
    · obtain ⟨hee, hxy⟩ := List.cons_eq_cons.mp (List.cons_eq_cons.mp h).2
      exact ⟨hshort _ he _ he' hee, hxy⟩
    · exact absurd (List.cons_eq_cons.mp (List.cons_eq_cons.mp h).2).1 (hunit _ he)
  · rcases jsonChar_cases d with ⟨hd, hd', -⟩ | ⟨e', he', hd⟩ | ⟨m, hm, hd, hdm⟩ <;> rw [hc, hd] at h
    · exact absurd (List.cons_eq_cons.mp h).1.symm hd'
    · exact absurd (List.cons_eq_cons.mp (List.cons_eq_cons.mp h).2).1.symm (hunit _ he')
    · have hdigits := (List.cons_eq_cons.mp (List.cons_eq_cons.mp h).2).2
      obtain ⟨hnm, hxy⟩ := List.append_inj hdigits (by rw [Text.length_hexDigits, Text.length_hexDigits])
      rw [hcn, hdm, Text.hexDigits_inj hn hm hnm]
      exact ⟨rfl, hxy⟩

theorem jsonChar_ne_quote (c : Char) (x y : List Char) : jsonChar c ++ x ≠ '"' :: y := by
  intro h
  rcases jsonChar_cases c with ⟨hc, -, hc'⟩ | ⟨e, -, hc⟩ | ⟨n, -, hc, -⟩ <;> rw [hc] at h
  · exact hc' (List.cons_eq_cons.mp h).1
  · exact absurd (List.cons_eq_cons.mp h).1 (by decide)
  · exact absurd (List.cons_eq_cons.mp h).1 (by decide)

/-- Where a text ends can be told from its beginning. -/
theorem jsonText_inj {s t : String} {x y : List Char} (h : (jsonText s).toList ++ x = (jsonText t).toList ++ y) : s = t := by
  have hchars : ∀ (s t : List Char), s.flatMap jsonChar ++ '"' :: x = t.flatMap jsonChar ++ '"' :: y → s = t := by
    intro s
    induction s with
    | nil =>
      rintro (_ | ⟨d, t⟩) h
      · rfl
      · rw [List.flatMap_cons, List.append_assoc] at h
        exact absurd h.symm (jsonChar_ne_quote d _ _)
    | cons c s ih =>
      rintro (_ | ⟨d, t⟩) h
      · rw [List.flatMap_cons, List.append_assoc] at h
        exact absurd h (jsonChar_ne_quote c _ _)
      · rw [List.flatMap_cons, List.flatMap_cons, List.append_assoc, List.append_assoc] at h
        obtain ⟨rfl, hrest⟩ := jsonChar_inj h
        rw [ih t hrest]
  rw [jsonText, jsonText, String.toList_ofList, String.toList_ofList] at h
  rw [List.cons_append, List.cons_append, List.append_assoc, List.append_assoc] at h
  have h := (List.cons_eq_cons.mp h).2
  exact String.toList_inj.mp (hchars s.toList t.toList h)

end Value

namespace Report

open Value Analysis

/-- All documents of one time begin the same up to the path of the file. -/
theorem exists_json_beginning (now : Instant) : ∃ before, ∀ r : AnalysisResult, ∃ after,
    (json now (reportData r)).toList = before ++ ((jsonText r.path).toList ++ after) := by
  let metadata : Value := .dict [("generated_at", .str now.isoText), ("tool", .str "OSS-Guardian"), ("version", .str "1.0")]
  let before := "\x7b" ++ lineAt 1 ++ (jsonText "report_metadata" ++ ": " ++ indentedAt 1 metadata ++ "," ++ lineAt 1 ++
    (jsonText "analysis_results" ++ ": " ++ ("\x7b" ++ lineAt 2 ++ (jsonText "file_path" ++ ": "))))
  refine ⟨before.toList, fun r => ?_⟩
  let rest := [("aggregated_results", r.aggregatedValue), ("threats", .list r.threatValues), ("risk_assessment", r.riskValue)]
  let after := "," ++ lineAt 2 ++ indentedFields 2 rest ++ lineAt 1 ++ "\x7d" ++ lineAt 0 ++ "\x7d"
  have hjson : json now (reportData r) = "\x7b" ++ lineAt 1 ++ (jsonText "report_metadata" ++ ": " ++ indentedAt 1 metadata ++
      "," ++ lineAt 1 ++ (jsonText "analysis_results" ++ ": " ++ ("\x7b" ++ lineAt 2 ++ (jsonText "file_path" ++ ": " ++
        jsonText r.path ++ "," ++ lineAt 2 ++ indentedFields 2 rest) ++ lineAt 1 ++ "\x7d"))) ++ lineAt 0 ++ "\x7d" := by
    simp only [json, indented, reportData, indentedAt, indentedFields, metadata, rest]
  refine ⟨after.toList, ?_⟩
  rw [hjson, ← String.toList_append, ← String.toList_append]
  simp only [before, after, String.append_assoc]

/-- Documents that are the same are about the same file. -/
theorem path_of_json_eq {now : Instant} {r r' : AnalysisResult} (h : json now (reportData r) = json now (reportData r')) :
    r.path = r'.path := by
  obtain ⟨before, hbefore⟩ := exists_json_beginning now
  obtain ⟨after, hr⟩ := hbefore r
  obtain ⟨after', hr'⟩ := hbefore r'
  have htext := congrArg String.toList h
  rw [hr, hr', List.append_cancel_left_eq] at htext
  exact jsonText_inj htext

end Report
end ThreatScan
