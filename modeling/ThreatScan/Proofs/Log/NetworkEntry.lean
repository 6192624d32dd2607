import ThreatScan.Log.NetworkLog
import ThreatScan.Proofs.Checked
import ThreatScan.Proofs.Text.Expect
import ThreatScan.Proofs.Text.Stored
/-!
What is read from a log as network activity.

`IsEntry` says what an entry looks like: a time stamp in brackets and, behind a gap, a message (`IsMessage`). The reader
finds exactly these (`entry?_eq_some`), and it looks for them everywhere in a line: a line is read as activity if some end
of it is an entry (`Mentions`, `ofLine_eq_none`). A log is read line by line, so what is read from entries written one after
the other is what is read from each of them (`ofStored_append`).
-/
namespace ThreatScan.NetworkLog

open Text

/-- A message of network activity, with anything behind it. -/
def IsMessage (kind : String) (address s : List Char) : Prop :=
  (kind = "connect" ∨ kind = "bind") ∧ (address ≠ [] ∧ ∀ c ∈ address, isQuote c = false) ∧
    ∃ (g₁ g₂ g₃ g₄ g₅ rest : List Char) (q q' : Char), (IsGap g₁ ∧ IsGap g₂ ∧ IsGap g₃ ∧ IsGap g₄ ∧ IsGap g₅) ∧
      (isQuote q = true ∧ isQuote q' = true) ∧
      s = "[ALERT]".toList ++ (g₁ ++ ("NETWORK:".toList ++ (g₂ ++ ("socket.".toList ++ (kind.toList ++ (g₃ ++
        ("called".toList ++ (g₄ ++ ("with".toList ++ (g₅ ++ ("address=".toList ++ (q :: (address ++ q' :: rest)))))))))))))

/-- An entry of network activity: a time stamp in brackets, a gap, and the message. -/
def IsEntry (stamp : List Char) (kind : String) (address s : List Char) : Prop :=
  (stamp ≠ [] ∧ ']' ∉ stamp) ∧ ∃ g m, IsGap g ∧ IsMessage kind address m ∧
    s = "[".toList ++ (stamp ++ ("]".toList ++ (g ++ m)))

/-! ## The reader -/

theorem kind?_eq_some {s rest : List Char} {kind : String} :
    kind? s = some (kind, rest) ↔ (kind = "connect" ∨ kind = "bind") ∧ s = kind.toList ++ rest := by
  unfold kind?
  split
  · next r h =>
    rw [literal?_eq_some] at h
    constructor
    · intro hk
      obtain ⟨rfl, rfl⟩ := Prod.mk.inj (Option.some.inj hk)
      exact ⟨.inl rfl, h⟩
    · rintro ⟨rfl | rfl, hs⟩
      · rw [List.append_cancel_left (h.symm.trans hs)]
      · -- no text starts with both
        rw [h] at hs
        exact absurd (List.cons.inj hs).1 (by decide)
  · next h =>
    rw [Option.map_eq_some_iff]
    constructor
    · rintro ⟨r, hr, hk⟩
      obtain ⟨rfl, rfl⟩ := Prod.mk.inj hk
      exact ⟨.inr rfl, literal?_eq_some.mp hr⟩
    · rintro ⟨rfl | rfl, hs⟩
      · rw [hs, literal?_append] at h
        cases h
      · exact ⟨rest, literal?_eq_some.mpr hs, rfl⟩

theorem quoted?_eq_some {s text : List Char} : quoted? s = some text ↔
    (text ≠ [] ∧ ∀ c ∈ text, isQuote c = false) ∧ ∃ (rest : List Char) (q q' : Char),
      (isQuote q = true ∧ isQuote q' = true) ∧ s = q :: (text ++ q' :: rest) := by
  constructor
  · intro h
    unfold quoted? at h
    split at h
    · next q rest =>
      split at h
      · next hq =>
        split at h
        · next text' q' rest' hrun =>
          cases h
          obtain ⟨hne, hall, hstop, rfl⟩ := run?_eq_some.mp hrun
          refine ⟨⟨hne, fun c hc => by simpa using hall c hc⟩, rest', q, q', ⟨hq, ?_⟩, rfl⟩
          simpa using hstop q' rfl
        · cases h
      · cases h
    · cases h
  · rintro ⟨⟨hne, hall⟩, rest, q, q', ⟨hq, hq'⟩, rfl⟩
    have hrun : run? (!isQuote ·) (text ++ q' :: rest) = some (text, q' :: rest) :=
      run?_eq_some.mpr ⟨hne, fun c hc => by simp [hall c hc], by simp [hq'], rfl⟩
    simp only [quoted?, hq, if_true, hrun]

theorem gap?_append {g : List Char} (hg : IsGap g) (word : String) (hw : word.toList.head?.any (!isBlank ·) = true)
    (rest : List Char) : gap? (g ++ (word.toList ++ rest)) = some (word.toList ++ rest) := by
  refine gap?_eq_some.mpr ⟨g, hg, ?_, rfl⟩
  cases hword : word.toList with
  | nil => simp [hword] at hw
  | cons c cs => simpa [hword] using hw

/-! A step of the reader that expects a word or a gap takes it off the front. -/

section Steps
variable {α : Type} {s : List Char} {f : List Char → Option α} {a : α}

theorem exists_of_literal? {word : String} (h : (literal? word s).bind f = some a) :
    ∃ rest, s = word.toList ++ rest ∧ f rest = some a := by
  obtain ⟨rest, hs, hf⟩ := Option.bind_eq_some_iff.mp h
  exact ⟨rest, literal?_eq_some.mp hs, hf⟩

theorem exists_of_gap? (h : (gap? s).bind f = some a) : ∃ g rest, IsGap g ∧ s = g ++ rest ∧ f rest = some a := by
  obtain ⟨rest, hs, hf⟩ := Option.bind_eq_some_iff.mp h
  obtain ⟨g, hg, -, rfl⟩ := gap?_eq_some.mp hs
  exact ⟨g, rest, hg, rfl, hf⟩

end Steps

/-- The reader accepts exactly the entries. -/
theorem entry?_eq_some {s stamp address : List Char} {kind : String} :
    entry? s = some (stamp, kind, address) ↔ IsEntry stamp kind address s := by
  constructor
  · intro h
    obtain ⟨s₁, hs, h⟩ := exists_of_literal? h
    obtain ⟨⟨x, s₂⟩, hrun, h⟩ := Option.bind_eq_some_iff.mp h
    obtain ⟨hx, hstamp, -, hs₁⟩ := run?_eq_some.mp hrun
    obtain ⟨s₃, hs₂, h⟩ := exists_of_literal? h
    obtain ⟨g₀, s₄, hg₀, hs₃, h⟩ := exists_of_gap? h
    obtain ⟨s₅, hs₄, h⟩ := exists_of_literal? h
    obtain ⟨g₁, s₆, hg₁, hs₅, h⟩ := exists_of_gap? h
    obtain ⟨s₇, hs₆, h⟩ := exists_of_literal? h
    obtain ⟨g₂, s₈, hg₂, hs₇, h⟩ := exists_of_gap? h
    obtain ⟨s₉, hs₈, h⟩ := exists_of_literal? h
    obtain ⟨⟨k, t₁⟩, hkind, h⟩ := Option.bind_eq_some_iff.mp h
    obtain ⟨hk, hs₉⟩ := kind?_eq_some.mp hkind
    obtain ⟨g₃, t₂, hg₃, ht₁, h⟩ := exists_of_gap? h
    obtain ⟨t₃, ht₂, h⟩ := exists_of_literal? h
    obtain ⟨g₄, t₄, hg₄, ht₃, h⟩ := exists_of_gap? h
    obtain ⟨t₅, ht₄, h⟩ := exists_of_literal? h
    obtain ⟨g₅, t₆, hg₅, ht₅, h⟩ := exists_of_gap? h
    obtain ⟨t₇, ht₆, h⟩ := exists_of_literal? h
    obtain ⟨a, hquoted, h⟩ := Option.bind_eq_some_iff.mp h
    obtain ⟨ha, rest, q, q', hq, ht₇⟩ := quoted?_eq_some.mp hquoted
    cases h
    have hmessage : IsMessage kind address s₄ := by
      refine ⟨hk, ha, g₁, g₂, g₃, g₄, g₅, rest, q, q', ⟨hg₁, hg₂, hg₃, hg₄, hg₅⟩, hq, ?_⟩
      rw [hs₄, hs₅, hs₆, hs₇, hs₈, hs₉, ht₁, ht₂, ht₃, ht₄, ht₅, ht₆, ht₇]
    refine ⟨⟨hx, fun hmem => ?_⟩, g₀, s₄, hg₀, hmessage, by rw [hs, hs₁, hs₂, hs₃]⟩
    simpa using hstamp _ hmem
  · rintro ⟨⟨hne, hstamp⟩, g₀, _, hg₀, ⟨hk, ha, g₁, g₂, g₃, g₄, g₅, rest, q, q', ⟨hg₁, hg₂, hg₃, hg₄, hg₅⟩, hq, rfl⟩, rfl⟩
    have hrun : ∀ r, run? (· != ']') (stamp ++ ("]".toList ++ r)) = some (stamp, "]".toList ++ r) := by
      intro r
      refine run?_eq_some.mpr ⟨hne, fun c hc => ?_, ?_, rfl⟩
      · have : c ≠ ']' := fun e => hstamp (e ▸ hc)
        simpa using this
      · simp
    have hkind : ∀ r, kind? (kind.toList ++ r) = some (kind, r) := fun r => kind?_eq_some.mpr ⟨hk, rfl⟩
    have hquoted : quoted? (q :: (address ++ q' :: rest)) = some address := quoted?_eq_some.mpr ⟨ha, rest, q, q', hq, rfl⟩
    simp only [bind, entry?, literal?_append, hrun, Option.bind_some, gap?_append hg₀ "[ALERT]" (by decide),
      gap?_append hg₁ "NETWORK:" (by decide), gap?_append hg₂ "socket." (by decide), hkind,
      gap?_append hg₃ "called" (by decide), gap?_append hg₄ "with" (by decide), gap?_append hg₅ "address=" (by decide),
      hquoted]

/-! ## Lines -/

def Mentions (line : List Char) : Prop :=
  ∃ (t stamp : List Char) (kind : String) (address : List Char), t <:+ line ∧ IsEntry stamp kind address t

theorem firstOf?_entry?_eq_none {line : List Char} : firstOf? entry? line = none ↔ ¬ Mentions line := by
  rw [firstOf?_eq_none]
  constructor
  · rintro h ⟨t, stamp, kind, address, ht, he⟩
    rw [← entry?_eq_some, h t ht] at he
    cases he
  · intro h t ht
    cases he : entry? t with
    | none => rfl
    | some r => exact absurd ⟨t, r.1, r.2.1, r.2.2, ht, entry?_eq_some.mp he⟩ h

theorem ofLine_eq_none {line : String} : ofLine line = .ok none ↔ ¬ Mentions line.toList := by
  rw [← firstOf?_entry?_eq_none]
  unfold ofLine
  split
  · next h => simp [h]
  · next stamp kind address h =>
    rw [h]
    constructor
    · intro ho
      obtain ⟨a, -, ho⟩ := Checked.bind_eq_ok.mp ho
      cases Checked.pure_eq_ok.mp ho
    · intro hn
      cases hn

def ofLines (ls : List (List Char)) : Except Fault (List NetworkActivity) := do
  return (← ls.mapM fun l => ofLine (String.ofList l)).filterMap id

theorem ofLines_append (ls ks : List (List Char)) : ofLines (ls ++ ks) = do return (← ofLines ls) ++ (← ofLines ks) := by
  unfold ofLines
  rw [List.mapM_append]
  cases ls.mapM fun l => ofLine (String.ofList l) with
  | error e => rfl
  | ok as =>
    cases ks.mapM fun l => ofLine (String.ofList l) with
    | error e => rfl
    | ok bs => exact congrArg Except.ok List.filterMap_append

theorem ofLines_eq_nil {ls : List (List Char)} : ofLines ls = .ok [] ↔ ∀ l ∈ ls, ¬ Mentions l := by
  induction ls with
  | nil => exact ⟨fun _ l hl => absurd hl List.not_mem_nil, fun _ => rfl⟩
  | cons l rest ih =>
    rw [List.forall_mem_cons, ← ih, ← String.toList_ofList (l := l), ← ofLine_eq_none, String.toList_ofList]
    unfold ofLines
    rw [List.mapM_cons]
    cases ofLine (String.ofList l) with
    | error e => exact ⟨fun h => (by cases h), fun h => (by cases h.1)⟩
    | ok o =>
      cases rest.mapM fun l => ofLine (String.ofList l) with
      | error e => exact ⟨fun h => (by cases h), fun h => (by cases h.2)⟩
      | ok os =>
        simp only [Checked.ok_bind, Except.ok.injEq, bind_pure_comp]
        cases o with
        | none => simp
        | some a => simp

/-! ## Stored logs -/

def ofStored (text : String) : Except Fault (List NetworkActivity) := ofLines (storedLines text.toList)

theorem read_of_read {d : Disk} {path text : String} (h : d.read path = .ok (.text text)) :
    read d path = ofStored text := by
  unfold NetworkLog.read Disk.readText
  rw [h]
  simp only [Disk.textOf, ofText, ofStored, ofLines, Text.lines, String.toList_ofList, List.mapM_map, storedLines]
  rfl

theorem ofStored_empty : ofStored "" = .ok [] := rfl

theorem ofStored_append (s t : String) :
    ofStored (s ++ "\n" ++ t) = do return (← ofStored (s ++ "\n")) ++ (← ofStored t) := by
  obtain ⟨ls, hends, happend⟩ := storedLines_ended s.toList
  have hblank : ofLines [[]] = .ok [] := rfl
  have hline : (s ++ "\n").toList = s.toList ++ ['\n'] := String.toList_append
  have hall : (s ++ "\n" ++ t).toList = s.toList ++ '\n' :: t.toList := by
    rw [String.toList_append, hline, List.append_assoc]
    rfl
  unfold ofStored
  rw [hline, hall, hends, happend, ofLines_append, ofLines_append, hblank]
  cases ofLines ls with
  | error e => rfl
  | ok as => simp only [Checked.ok_bind, List.append_nil, pure_bind]

end ThreatScan.NetworkLog
