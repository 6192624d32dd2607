import ThreatScan.Proofs.Analysis.Batch
import ThreatScan.Proofs.Disk.Files
import ThreatScan.Proofs.Text.Reading
/-!
Files that an analysis passes over.

A file is passed over if each of its lines is blank or starts like a comment in one of the languages that are analysed. In
Python only `#` starts a comment, so a line of code (`IsCode`) may start like a comment elsewhere (`LooksForeign`): a starred
assignment does. A file with statements is passed over exactly if all its lines of code do so (`code_skipped_iff`). What a
parser makes of a text is left open, except that it finds no statement in blank lines and comments (`IgnoresComments`), so
that a file with a statement has a line of code.
-/
namespace ThreatScan.Analysis

open Act

/-! ## Lines -/

def lineBody (line : List Char) : List Char := line.dropWhile Text.isBlank

def IsCode (line : List Char) : Prop := lineBody line ≠ [] ∧ ¬ ['#'] <+: lineBody line

/-- The line starts like a comment of Go or Java, or like a line within one. -/
def LooksForeign (line : List Char) : Prop :=
  ['/', '/'] <+: lineBody line ∨ ['/', '*'] <+: lineBody line ∨ ['*'] <+: lineBody line

instance (line : List Char) : Decidable (IsCode line) := inferInstanceAs (Decidable (_ ∧ ¬ _))

instance (line : List Char) : Decidable (LooksForeign line) := inferInstanceAs (Decidable (_ ∨ _ ∨ _))

def linesOf (text : String) : List (List Char) := Text.cutAt '\n' text.toList

theorem isCommentLine_iff {line : List Char} : isCommentLine line = true ↔ (IsCode line → LooksForeign line) := by
  have hstart : ∀ p : List Char, (∀ c ∈ p, Text.isBlank c = false) →
      (p.isPrefixOf (Text.trimList line) = true ↔ p <+: lineBody line) := by
    intro p hp
    rw [List.isPrefixOf_iff_prefix]
    exact Text.prefix_trimList_iff hp
  unfold isCommentLine
  split
  · next hnil =>
    have hbody : lineBody line = [] := Text.trimList_eq_nil_iff.mp hnil
    simp [IsCode, hbody]
  · next hne =>
    have hbody : lineBody line ≠ [] := fun h => hne (Text.trimList_eq_nil_iff.mpr h)
    have hmarks : Text.isBlank '#' = false ∧ Text.isBlank '/' = false ∧ Text.isBlank '*' = false := by decide
    rw [Bool.or_eq_true, Bool.or_eq_true, Bool.or_eq_true, hstart ['#'] (by simp [hmarks]),
      hstart ['/', '/'] (by simp [hmarks]), hstart ['/', '*'] (by simp [hmarks]), hstart ['*'] (by simp [hmarks]),
      or_assoc, or_assoc]
    unfold IsCode LooksForeign
    constructor
    · rintro (hcomment | hforeign) hcode
      · exact absurd hcomment hcode.2
      · exact hforeign
    · intro h
      by_cases hcomment : ['#'] <+: lineBody line
      · exact .inl hcomment
      · exact .inr (h ⟨hbody, hcomment⟩)

theorem isEmptyText_iff {text : String} :
    isEmptyText text = true ↔ ∀ line ∈ linesOf text, IsCode line → LooksForeign line := by
  unfold isEmptyText linesOf
  rw [List.all_eq_true]
  exact forall₂_congr fun line _ => isCommentLine_iff

/-! ## Files -/

theorem not_isCode_of_isEmptyContent {c : Content} (h : isEmptyContent c = true) :
    ∀ line ∈ linesOf (Disk.lenientTextOf c), ¬ IsCode line := by
  have htext : Disk.lenientTextOf c = "" := by
    cases c with
    | text s => rw [String.isEmpty_iff.mp h]; rfl
    | bytes bs => rw [List.isEmpty_iff.mp h]; rfl
  rw [htext]
  decide

theorem isEffectivelyEmpty_iff {d : Disk} {path : String} {c : Content} (h : d.read path = .ok c) :
    isEffectivelyEmpty d path = true ↔
      ∀ line ∈ linesOf (Disk.lenientTextOf c), IsCode line → LooksForeign line := by
  unfold isEffectivelyEmpty
  rw [Disk.entry?_of_read h]
  simp only [Option.isNone_none, Bool.true_and, Bool.or_eq_true, isEmptyText_iff]
  constructor
  · rintro (hempty | hlines)
    · intro line hl hcode
      exact absurd hcode (not_isCode_of_isEmptyContent hempty line hl)
    · exact hlines
  · intro hlines
    exact .inr hlines

/-- The text of a source file is what it holds, or a character for each byte if that is no text. -/
theorem read_of_readSource {d : Disk} {path text : String} (h : d.readSource path = .ok text) :
    ∃ c, d.read path = .ok c ∧ (Disk.textOf c = .ok text ∨ Disk.byteTextOf c = text) := by
  unfold Disk.readSource at h
  split at h
  · cases h
  · split at h
    · cases h
    · split at h
      · cases h
      · cases h
      · next c hread =>
        refine ⟨c, hread, ?_⟩
        split at h
        · next s hs => exact .inl (by rw [hs, Except.ok.inj h])
        · exact .inr (Except.ok.inj h)

theorem textOf_eq_ok {c : Content} {text : String} (h : Disk.textOf c = .ok text) :
    text = Disk.lenientTextOf c ∧ '\r' ∉ text.toList := by
  cases c with
  | text s =>
    rw [← Except.ok.inj h]
    refine ⟨rfl, ?_⟩
    rw [String.toList_ofList]
    exact Text.not_mem_uniformLines _
  | bytes bs =>
    unfold Disk.textOf at h
    dsimp only at h
    cases hs : Text.strictly (Text.bytePieces 0 bs) with
    | error e => rw [hs] at h; cases h
    | ok cs =>
      rw [hs] at h
      rw [← Except.ok.inj h]
      refine ⟨by rw [Disk.lenientTextOf, Text.leniently_of_strictly hs], ?_⟩
      rw [String.toList_ofList]
      exact Text.not_mem_uniformLines _

theorem not_mem_byteTextOf (c : Content) : '\r' ∉ (Disk.byteTextOf c).toList := by
  cases c <;> (rw [Disk.byteTextOf, String.toList_ofList]; exact Text.not_mem_uniformLines _)

/-! ## Statements -/

/-- The parser finds no statement in a text of blank lines and comments. Line ends are uniform when it is asked. -/
def IgnoresComments (parser : Parser) : Prop :=
  ∀ text tree, '\r' ∉ text.toList → (∀ line ∈ linesOf text, ¬ IsCode line) → (parser text).tree = some tree →
    tree.partItems "body" = []

theorem tree_of_ofSource {parser : Parser} {d : Disk} {path text : String} {tree : Tree}
    (h : Tree.ofSource (parser.forFile d path) path text = .ok tree) : (parser text).tree = some tree := by
  unfold Tree.ofSource at h
  split at h
  · cases h
  · dsimp only at h
    split at h
    · cases h
    · next t hnone hsome =>
      rw [Except.ok.inj h] at hsome
      unfold Parser.forFile at hnone hsome
      split at hsome
      · cases hsome
      · exact hsome
    · cases h

theorem exists_isCode {parser : Parser} (hp : IgnoresComments parser) {d : Disk} {path text : String} {tree : Tree}
    (hr : '\r' ∉ text.toList) (htree : Tree.ofSource (parser.forFile d path) path text = .ok tree)
    (hbody : tree.partItems "body" ≠ []) : ∃ line ∈ linesOf text, IsCode line := by
  by_contra hnone
  apply hbody
  apply hp text tree hr _ (tree_of_ofSource htree)
  intro line hl hcode
  exact hnone ⟨line, hl, hcode⟩

/-! ## The analysis -/

theorem host_of_configOr {config : Option Value} {c : Value} {h h' : Host} (hc : Gives (configOr config) h c h') : h' = h := by
  have hload : ∀ (path : String) (default v : Value) (g g' : Host), Gives (Host.loadValue path default) g v g' → g' = g := by
    intro path default v g g' hg
    obtain ⟨g₁, g₂, hget, hg⟩ := gives_bind.mp hg
    obtain ⟨rfl, rfl⟩ := gives_get.mp hget
    split at hg
    · obtain ⟨text, g₃, htext, hg⟩ := gives_bind.mp hg
      obtain ⟨g₄, g₅, hget, htext⟩ := gives_bind.mp htext
      obtain ⟨rfl, rfl⟩ := gives_get.mp hget
      obtain ⟨-, rfl⟩ := gives_check.mp htext
      obtain ⟨g₆, g₇, hget, hg⟩ := gives_bind.mp hg
      obtain ⟨rfl, rfl⟩ := gives_get.mp hget
      exact (gives_check.mp hg).2.symm
    · exact (gives_pure.mp hg).2.symm
  cases config with
  | some c' => exact (gives_pure.mp hc).2.symm
  | none =>
    obtain ⟨settings, h₁, hs, hc⟩ := gives_bind.mp hc
    obtain ⟨rules, h₂, hr, hc⟩ := gives_bind.mp hc
    rw [← (gives_pure.mp hc).2, hload _ _ _ _ _ hr, hload _ _ _ _ _ hs]

def saysSkipped (record : Value) : Prop := record.field? "skipped" = some (.bool true)

theorem saysSkipped_iff {r : AnalysisResult} : saysSkipped r.toValue ↔ r.ending = .skipped := by
  unfold saysSkipped AnalysisResult.toValue
  cases r.ending with
  | complete => simp [Value.field?, Value.fieldOf?, AnalysisResult.endingFields]
  | failed message => simp [Value.field?, Value.fieldOf?, AnalysisResult.endingFields]
  | skipped => simp [Value.field?, Value.fieldOf?, AnalysisResult.endingFields]

theorem skipped_iff {config : Value} {path : String} {h : Host} :
    (∃ r h', Gives (analyzeWith config path) h r h' ∧ saysSkipped r.toValue) ↔ isEffectivelyEmpty h.disk path = true := by
  constructor
  · rintro ⟨r, h', hg, hs⟩
    have ha := analysed config path h
    rw [hg] at ha
    rw [saysSkipped_iff] at hs
    cases ha with
    | skipped hc => exact hc
    | broken hb hr => cases hs
    | completed hb hr =>
      rw [ending_of_passes hr] at hs
      cases hs
  · intro he
    exact ⟨_, _, gives_skip config he, saysSkipped_iff.mpr rfl⟩

/-- A file with statements has a line of code, and yet it is passed over exactly if all lines of code look like comments of
another language (and the configuration can be read). The lines looked at are those of the text without its broken bytes,
which is the text that is parsed if it has none. -/
theorem code_skipped_iff {h : Host} (hp : IgnoresComments h.parser) {path text : String}
    (htext : h.disk.readSource path = .ok text) {tree : Tree}
    (htree : Tree.ofSource (h.parser.forFile h.disk path) path text = .ok tree) (hbody : tree.partItems "body" ≠ [])
    (config : Option Value) :
    ∃ c, h.disk.read path = .ok c ∧ (∃ line ∈ linesOf text, IsCode line) ∧
      (Disk.textOf c = .ok text → Disk.lenientTextOf c = text) ∧
      ((∃ r h', Gives (analyze config path) h r h' ∧ saysSkipped r.toValue) ↔
        (∃ settings h', Gives (configOr config) h settings h') ∧
          ∀ line ∈ linesOf (Disk.lenientTextOf c), IsCode line → LooksForeign line) := by
  obtain ⟨c, hread, hsource⟩ := read_of_readSource htext
  have hr : '\r' ∉ text.toList := by
    rcases hsource with hstrict | hbytes
    · exact (textOf_eq_ok hstrict).2
    · rw [← hbytes]
      exact not_mem_byteTextOf c
  refine ⟨c, hread, exists_isCode hp hr htree hbody, fun hstrict => (textOf_eq_ok hstrict).1.symm, ?_⟩
  rw [← isEffectivelyEmpty_iff hread]
  constructor
  · rintro ⟨r, h', hg, hs⟩
    obtain ⟨settings, h₁, hc, hg⟩ := gives_bind.mp hg
    cases host_of_configOr hc
    exact ⟨⟨settings, h, hc⟩, skipped_iff.mp ⟨r, h', hg, hs⟩⟩
  · rintro ⟨⟨settings, h₁, hc⟩, he⟩
    cases host_of_configOr hc
    obtain ⟨r, h', hg, hs⟩ := skipped_iff.mpr he
    exact ⟨r, h', gives_bind.mpr ⟨settings, h, hc, hg⟩, hs⟩

namespace StarredAssignment

def nameAt (column : Nat) (x context : String) : Tree :=
  .node "Name" (some ⟨1, column⟩) [("id", .name x), ("ctx", .node context none [])]

/-- `*a, = eval(b)` -/
def statement : Tree :=
  .node "Assign" (some ⟨1, 0⟩)
    [("targets", .list [.node "Tuple" (some ⟨1, 0⟩)
        [("elts", .list [.node "Starred" (some ⟨1, 0⟩) [("value", nameAt 1 "a" "Store"), ("ctx", .node "Store" none [])]]),
         ("ctx", .node "Store" none [])]]),
     ("value", .node "Call" (some ⟨1, 6⟩)
        [("func", nameAt 6 "eval" "Load"), ("args", .list [nameAt 11 "b" "Load"]), ("keywords", .list [])]),
     ("type_comment", .absent)]

def moduleOf (body : List Tree) : Tree := .node "Module" none [("body", .list body), ("type_ignores", .list [])]

def source : String := "*a, = eval(b)\n"

def parser : Parser := fun text => ⟨some (moduleOf (if text = source then [statement] else [])), none, none⟩

def host : Host := { refusingHost [("a.py", source)] with parser := parser }

theorem ignoresComments_refusing : IgnoresComments parser := by
  intro text tree _ hlines htree
  have hne : text ≠ source := by
    rintro rfl
    revert hlines
    decide
  rw [← Option.some.inj htree, if_neg hne]
  rfl

theorem ofSource_source : Tree.ofSource (parser.forFile host.disk "a.py") "a.py" source = .ok (moduleOf [statement]) := by
  rfl

/-- The file is passed over although its text has a statement. -/
theorem starred_assignment_skipped :
    host.disk.readSource "a.py" = .ok source ∧
    Tree.ofSource (host.parser.forFile host.disk "a.py") "a.py" source = .ok (moduleOf [statement]) ∧
    (moduleOf [statement]).partItems "body" = [statement] ∧
    ∃ r h', Gives (analyze (some (.dict [])) "a.py") host r h' ∧ saysSkipped r.toValue :=
  ⟨rfl, ofSource_source, rfl, _, _, rfl, rfl⟩

/-- The one line of the file is code, and looks like a line within a comment. -/
theorem starred_assignment_looks_foreign :
    IgnoresComments host.parser ∧ host.disk.readSource "a.py" = .ok source ∧
    Tree.ofSource (host.parser.forFile host.disk "a.py") "a.py" source = .ok (moduleOf [statement]) ∧
    (moduleOf [statement]).partItems "body" ≠ [] ∧
    ∃ c, host.disk.read "a.py" = .ok c ∧ (∃ line ∈ linesOf source, IsCode line) ∧
      ∃ r h', Gives (analyze (some (.dict [])) "a.py") host r h' ∧ saysSkipped r.toValue := by
  have hbody : (moduleOf [statement]).partItems "body" ≠ [] := List.cons_ne_nil _ _
  obtain ⟨c, hread, hcode, -, hiff⟩ :=
    code_skipped_iff (h := host) ignoresComments_refusing rfl ofSource_source hbody (some (.dict []))
  refine ⟨ignoresComments_refusing, rfl, ofSource_source, hbody, c, hread, hcode, hiff.mpr ⟨⟨_, _, rfl⟩, ?_⟩⟩
  have hc : c = .text source := Except.ok.inj (hread.symm.trans rfl)
  rw [hc]
  decide

end StarredAssignment
end ThreatScan.Analysis
