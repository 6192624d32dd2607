import ThreatScan.Clock
import ThreatScan.Proofs.Text.Stored
/-!
Time stamps in logs.

A time stamp is made of digits, hyphens, blanks, colons and dots (`isStampChar_of_mem`). So it stands on one line and holds
no bracket and no letter. The minute stands between its first two colons (`exists_logText_minute`).
-/
namespace ThreatScan

namespace Text

theorem isDigit_of_mem_padded {width n : Nat} {c : Char} (h : c ∈ (padded width n).toList) : c.isDigit = true := by
  rw [padded, String.toList_ofList, List.mem_append] at h
  rcases h with h | h
  · rw [List.eq_of_mem_replicate h]
    decide
  · exact Nat.isDigit_of_mem_toDigits (by decide) (by decide) h

/-- Three numbers with a mark between them. -/
theorem isDigit_or_of_mem {w w' w'' a b d : Nat} {mark : String} {c : Char}
    (h : c ∈ (padded w a ++ mark ++ padded w' b ++ mark ++ padded w'' d).toList) : c.isDigit = true ∨ c ∈ mark.toList := by
  simp only [String.toList_append, List.mem_append, or_assoc] at h
  rcases h with h | h | h | h | h
  · exact .inl (isDigit_of_mem_padded h)
  · exact .inr h
  · exact .inl (isDigit_of_mem_padded h)
  · exact .inr h
  · exact .inl (isDigit_of_mem_padded h)

theorem padded_ne_nil {width n : Nat} : (padded width n).toList ≠ [] := by
  rw [padded, String.toList_ofList]
  exact List.append_ne_nil_of_right_ne_nil _ Nat.toDigits_ne_nil

theorem isDecimalDigit_of_isDigit {c : Char} (h : c.isDigit = true) : isDecimalDigit c = true := by
  simp only [Char.isDigit, Bool.and_eq_true, decide_eq_true_eq] at h
  have hascii : c.toNat < 0x80 := Nat.lt_of_le_of_lt (UInt32.le_iff_toNat_le.mp h.2) (by decide)
  unfold isDecimalDigit
  rw [if_pos hascii, Bool.and_eq_true, decide_eq_true_eq, decide_eq_true_eq]
  exact h

end Text

namespace Instant

def isStampChar (c : Char) : Bool := c.isDigit || ['-', ' ', ':', '.'].contains c

variable {t : Instant} {c : Char}

theorem mem_date (h : c ∈ t.date.toList) : c.isDigit = true ∨ c = '-' :=
  (Text.isDigit_or_of_mem h).imp_right List.mem_singleton.mp

theorem mem_time (h : c ∈ t.time.toList) : c.isDigit = true ∨ c = ':' :=
  (Text.isDigit_or_of_mem h).imp_right List.mem_singleton.mp

theorem isStampChar_of_mem (h : c ∈ t.logText.toList) : isStampChar c = true := by
  have hdigit : c.isDigit = true → isStampChar c = true := fun hd => by simp [isStampChar, hd]
  simp only [logText, String.toList_append, List.mem_append, or_assoc] at h
  rcases h with h | h | h | h | h
  · rcases mem_date h with hd | rfl
    · exact hdigit hd
    · decide
  · cases List.mem_singleton.mp h
    decide
  · rcases mem_time h with hd | rfl
    · exact hdigit hd
    · decide
  · cases List.mem_singleton.mp h
    decide
  · exact hdigit (Text.isDigit_of_mem_padded h)

theorem not_mem_logText (hc : isStampChar c = false) : c ∉ t.logText.toList := by
  intro h
  rw [isStampChar_of_mem h] at hc
  cases hc

theorem logText_ne_nil : t.logText.toList ≠ [] := by
  simp [logText]

theorem oneLine_logText : Text.OneLine t.logText.toList := ⟨not_mem_logText (by decide), not_mem_logText (by decide)⟩

def stamped (t : Instant) (line : List Char) : List Char := "[".toList ++ (t.logText.toList ++ ("] ".toList ++ line))

theorem not_mem_stamp (hc : isStampChar c = false) (hopen : c ≠ '[') (hclose : c ≠ ']') :
    c ∉ "[".toList ++ (t.logText.toList ++ "] ".toList) := by
  have hspace : c ≠ ' ' := by
    rintro rfl
    cases hc
  simp [hopen, hclose, hspace, not_mem_logText hc]

theorem oneLine_stamp : Text.OneLine ("[".toList ++ (t.logText.toList ++ "] ".toList)) :=
  ⟨not_mem_stamp (by decide) (by decide) (by decide), not_mem_stamp (by decide) (by decide) (by decide)⟩

theorem stamped_eq (t : Instant) (line : List Char) :
    t.stamped line = ("[".toList ++ (t.logText.toList ++ "] ".toList)) ++ line := by
  simp only [stamped, List.append_assoc]

/-- The minute stands between the first two colons. -/
theorem exists_logText_minute (t : Instant) : ∃ before after, ':' ∉ before ∧
    t.logText.toList = before ++ ':' :: ((Text.padded 2 t.minute).toList ++ ':' :: after) := by
  refine ⟨(t.date ++ " " ++ Text.padded 2 t.hour).toList,
    (Text.padded 2 t.second ++ "." ++ Text.padded 3 (t.micro / 1000)).toList, fun h => ?_, ?_⟩
  · simp only [String.toList_append, List.mem_append, or_assoc] at h
    rcases h with h | h | h
    · rcases mem_date h with hd | hd <;> cases hd
    · cases List.mem_singleton.mp h
    · cases Text.isDigit_of_mem_padded h
  · simp [logText, time]

end Instant
end ThreatScan
