import ThreatScan.Manifest.Project
import ThreatScan.Proofs.Disk.Files
import ThreatScan.Proofs.Text.Stored
/-!
Requirements that were written down are read back.

A requirement (`Declared`) is a name, and possibly signs and a version, over characters that cannot be taken for one another:
what a name is made of never starts the signs, and what the signs are made of never starts a version. So it can be read from
the start of its text (`read?_text`). None of these characters is a blank, a quote, a number sign or a bracket. A line of a
requirements file is therefore one requirement (`ofLines_joined`), and in a set-up script the first closing bracket ends the
list, whose quoted texts are the requirements (`listOf?_assigned`, `quoted_enumerated`).
-/
namespace ThreatScan

namespace Manifest

theorem dependenciesIn_of_read {d : Disk} {dir text : String} {m : Manifest}
    (h : d.read (Path.join dir m.file) = .ok (.text text)) :
    dependenciesIn d dir m = m.read m.file (String.ofList (Text.uniformLines text.toList)) := by
  unfold dependenciesIn
  rw [Disk.readText_of_read h]

theorem dependenciesIn_of_missing {d : Disk} {dir : String} {m : Manifest} (h : d.has (Path.join dir m.file) = false) :
    dependenciesIn d dir m = [] := by
  obtain ⟨e, he⟩ := Disk.exists_error_of_missing (Option.isNone_iff_eq_none.mp (by simpa [Disk.has] using h))
  unfold dependenciesIn
  rw [he]

theorem dependencies_java (d : Disk) (path : String) : d.dependencies path "java" =
    dependenciesIn d (Path.folder path) description ++ dependenciesIn d (Path.folder path) buildScript := by
  simp [Disk.dependencies, forLanguage]

end Manifest

namespace Requirement

/-- A requirement as it is declared: a name, and then nothing or signs and a version. -/
structure Declared where
  name : List Char
  bound : Option (List Char × List Char)
  name_ne_nil : name ≠ []
  name_chars : ∀ c ∈ name, Text.isWordChar c = true ∨ c = '-' ∨ c = '.'
  bound_ne_nil : ∀ b ∈ bound, b.1 ≠ [] ∧ b.2 ≠ []
  signs_chars : ∀ b ∈ bound, ∀ c ∈ b.1, c = '>' ∨ c = '<' ∨ c = '=' ∨ c = '!'
  version_chars : ∀ b ∈ bound, ∀ c ∈ b.2, Text.isWordChar c = true ∨ c = '.'

namespace Declared

def text (r : Declared) : List Char := r.name ++ r.bound.elim [] fun b => b.1 ++ b.2

def line (r : Declared) : String := String.ofList r.text

def dependency (source : String) (r : Declared) : Dependency where
  name := String.ofList r.name
  version := r.bound.elim "unknown" fun b => String.ofList b.2
  constraint := some (r.bound.elim "==" fun b => String.ofList b.1)
  source := source

end Declared

/-! ## One requirement -/

theorem not_isWordChar_of_isConstraintChar {c : Char} (h : isConstraintChar c = true) : Text.isWordChar c = false := by
  simp only [isConstraintChar, Bool.or_eq_true, beq_iff_eq] at h
  rcases h with ((rfl | rfl) | rfl) | rfl <;> decide

theorem isNameChar_of_isConstraintChar {c : Char} (h : isConstraintChar c = true) : isNameChar c = false := by
  have hword := not_isWordChar_of_isConstraintChar h
  simp only [isConstraintChar, Bool.or_eq_true, beq_iff_eq] at h
  rcases h with ((rfl | rfl) | rfl) | rfl <;> simp [isNameChar, hword]

theorem isConstraintChar_of_isVersionChar {c : Char} (h : isVersionChar c = true) : isConstraintChar c = false := by
  cases hc : isConstraintChar c with
  | false => rfl
  | true =>
    have hname := isNameChar_of_isConstraintChar hc
    simp only [isVersionChar, Bool.or_eq_true] at h
    simp only [isNameChar, Bool.or_eq_false_iff] at hname
    simp [hname] at h

namespace Declared

theorem isNameChar_of_mem {r : Declared} : ∀ c ∈ r.name, isNameChar c = true := by
  intro c hc
  rcases r.name_chars c hc with h | rfl | rfl
  · simp [isNameChar, h]
  · rfl
  · rfl

theorem isConstraintChar_of_mem {r : Declared} {b : List Char × List Char} (hb : b ∈ r.bound) :
    ∀ c ∈ b.1, isConstraintChar c = true := by
  intro c hc
  rcases r.signs_chars b hb c hc with rfl | rfl | rfl | rfl <;> rfl

theorem isVersionChar_of_mem {r : Declared} {b : List Char × List Char} (hb : b ∈ r.bound) :
    ∀ c ∈ b.2, isVersionChar c = true := by
  intro c hc
  rcases r.version_chars b hb c hc with h | rfl
  · simp [isVersionChar, h]
  · rfl

end Declared

theorem bound?_nil : bound? [] = none := rfl

theorem bound?_append {signs version : List Char} (hne : signs ≠ [] ∧ version ≠ [])
    (hsigns : ∀ c ∈ signs, isConstraintChar c = true) (hversion : ∀ c ∈ version, isVersionChar c = true) :
    bound? (signs ++ version) = some (signs, version) := by
  have hend : ∀ c ∈ version.head?, isConstraintChar c = false := fun c hc =>
    isConstraintChar_of_isVersionChar (hversion c (List.mem_of_mem_head? hc))
  obtain ⟨htake, hdrop⟩ := Text.span_append hsigns hend
  have hall : version.takeWhile isVersionChar = version := by
    simpa using (Text.span_append (b := []) hversion (by simp)).1
  unfold bound?
  rw [htake, hdrop, hall]
  simp [hne.1, hne.2]

theorem read?_text (source : String) (r : Declared) : read? source r.text = some (r.dependency source) := by
  have hne : r.name.isEmpty = false := by simpa using r.name_ne_nil
  unfold read?
  cases hbound : r.bound with
  | none =>
    have htext : r.text = r.name ++ [] := by rw [Declared.text, hbound]; rfl
    obtain ⟨htake, hdrop⟩ := Text.span_append (b := []) r.isNameChar_of_mem (by simp)
    rw [htext, htake, hdrop, bound?_nil]
    simp [hne, Declared.dependency, hbound, Dependency.unknownVersion]
  | some b =>
    have htext : r.text = r.name ++ (b.1 ++ b.2) := by rw [Declared.text, hbound]; rfl
    have hsigns := Declared.isConstraintChar_of_mem hbound
    have hbound_ne := r.bound_ne_nil b hbound
    -- the name ends where the signs start
    have hend : ∀ c ∈ (b.1 ++ b.2).head?, isNameChar c = false := by
      intro c hc
      obtain ⟨sign, rest, hcons⟩ := List.exists_cons_of_ne_nil hbound_ne.1
      rw [hcons] at hc hsigns
      obtain rfl : sign = c := by simpa using hc
      exact isNameChar_of_isConstraintChar (hsigns sign List.mem_cons_self)
    obtain ⟨htake, hdrop⟩ := Text.span_append r.isNameChar_of_mem hend
    rw [htext, htake, hdrop, bound?_append hbound_ne hsigns (Declared.isVersionChar_of_mem hbound)]
    simp [hne, Declared.dependency, hbound]

/-! ## One requirement to a line -/

def isPlain (c : Char) : Bool := isNameChar c || isConstraintChar c

theorem isBlank_of_isPlain {c : Char} (h : isPlain c = true) : Text.isBlank c = false := by
  simp only [isPlain, isNameChar, isConstraintChar, Bool.or_eq_true, beq_iff_eq] at h
  rcases h with ((h | rfl) | rfl) | (((rfl | rfl) | rfl) | rfl)
  · exact Text.isBlank_of_isWordChar h
  all_goals decide

namespace Declared

theorem isPlain_of_mem_text {r : Declared} : ∀ c ∈ r.text, isPlain c = true := by
  intro c hc
  rcases List.mem_append.mp hc with hc | hc
  · simp [isPlain, isNameChar_of_mem c hc]
  · cases hbound : r.bound with
    | none => simp [hbound] at hc
    | some b =>
      rw [hbound] at hc
      rcases List.mem_append.mp hc with hc | hc
      · simp [isPlain, isConstraintChar_of_mem hbound c hc]
      · have hversion := isVersionChar_of_mem hbound c hc
        simp only [isVersionChar, Bool.or_eq_true] at hversion
        rcases hversion with h | h <;> simp [isPlain, isNameChar, h]

theorem not_mem_text {r : Declared} {c : Char} (hc : isPlain c = false) : c ∉ r.text := by
  intro h
  rw [isPlain_of_mem_text c h] at hc
  cases hc

theorem text_ne_nil (r : Declared) : r.text ≠ [] := by
  simp [text, r.name_ne_nil]

end Declared

theorem ofLine?_text (source : String) (r : Declared) : ofLine? source r.text = some (r.dependency source) := by
  have htrim : Text.trimList r.text = r.text :=
    Text.trimList_of_not_blank fun c hc => isBlank_of_isPlain (Declared.isPlain_of_mem_text c hc)
  obtain ⟨c, rest, hcons⟩ := List.exists_cons_of_ne_nil r.text_ne_nil
  have hcomment : c ≠ '#' := by
    rintro rfl
    exact Declared.not_mem_text (r := r) (c := '#') (by decide) (hcons ▸ List.mem_cons_self)
  unfold ofLine?
  rw [htrim, hcons]
  dsimp only
  rw [if_neg hcomment, ← hcons, read?_text]

theorem filterMap_text {read : List Char → Option Dependency} {source : String}
    (h : ∀ r : Declared, read r.text = some (r.dependency source)) (rs : List Declared) :
    (rs.map Declared.text).filterMap read = rs.map (Declared.dependency source) := by
  rw [List.filterMap_map, ← List.filterMap_eq_map]
  exact congrArg (fun f => rs.filterMap f) (funext h)

theorem toList_join_line (rs : List Declared) :
    (Text.join "\n" (rs.map Declared.line)).toList = Text.joinWith ['\n'] (rs.map Declared.text) := by
  unfold Text.join
  rw [String.toList_ofList, List.map_map]
  exact congrArg (fun f => Text.joinWith ['\n'] (rs.map f)) (funext fun r => String.toList_ofList)

/-- The file holds one requirement to a line, whether or not the last line is ended. -/
theorem ofLines_joined (source : String) (rs : List Declared) {ending : String} (hending : ending ∈ ["", "\n"]) :
    ofLines source (String.ofList (Text.uniformLines (Text.join "\n" (rs.map Declared.line) ++ ending).toList)) =
      rs.map (Declared.dependency source) := by
  have hlines : ∀ l ∈ rs.map Declared.text, Text.OneLine l := by
    intro l hl
    obtain ⟨r, -, rfl⟩ := List.mem_map.mp hl
    exact ⟨Declared.not_mem_text (by decide), Declared.not_mem_text (by decide)⟩
  have hreturn : '\r' ∉ (Text.join "\n" (rs.map Declared.line) ++ ending).toList := by
    rw [String.toList_append, toList_join_line, List.mem_append, not_or]
    refine ⟨Text.not_mem_joinWith (by decide) fun l hl => (hlines l hl).2, ?_⟩
    rcases List.mem_pair.mp hending with rfl | rfl <;> decide
  have hcut : (Text.cutAt '\n' (Text.joinWith ['\n'] (rs.map Declared.text))).filterMap (ofLine? source) =
      rs.map (Declared.dependency source) := by
    rw [Text.filterMap_cutAt_joinWith rfl fun l hl => (hlines l hl).1, filterMap_text (ofLine?_text source)]
  unfold ofLines
  rw [Text.uniformLines_of_not_mem hreturn, String.toList_ofList, String.toList_append, toList_join_line]
  rcases List.mem_pair.mp hending with rfl | rfl
  · rw [String.toList_empty, List.append_nil, hcut]
  · rw [show "\n".toList = ['\n'] from rfl, Text.cutAt_append_sep, List.filterMap_append, hcut]
    simp [Text.cutAt, ofLine?, Text.trimList, Text.dropRight]

/-! ## Quoted requirements in a list -/

theorem isQuote_of_isPlain {c : Char} (h : isPlain c = true) : isQuote c = false := by
  cases hq : isQuote c with
  | false => rfl
  | true =>
    simp only [isQuote, Bool.or_eq_true, beq_iff_eq] at hq
    rcases hq with rfl | rfl <;> exact absurd h (by decide)

/-- Quoted texts with a comma between neighbours, and blanks anywhere outside of them. A comma may follow the last one. -/
inductive Enumerated : List (List Char) → List Char → Prop
  | empty {gap : List Char} (hgap : Text.Blank gap) : Enumerated [] gap
  | last {gap text gap' : List Char} {quote : Char} (hgap : Text.Blank gap) (hquote : isQuote quote = true)
      (hgap' : Text.Blank gap') : Enumerated [text] (gap ++ quote :: (text ++ quote :: gap'))
  | more {gap text gap' s : List Char} {texts : List (List Char)} {quote : Char} (hgap : Text.Blank gap)
      (hquote : isQuote quote = true) (hgap' : Text.Blank gap') (hrest : Enumerated texts s) :
      Enumerated (text :: texts) (gap ++ quote :: (text ++ quote :: (gap' ++ ',' :: s)))

theorem not_isQuote_of_blank {gap : List Char} (h : Text.Blank gap) : ∀ c ∈ gap, isQuote c = false := by
  intro c hc
  cases hq : isQuote c with
  | false => rfl
  | true =>
    simp only [isQuote, Bool.or_eq_true, beq_iff_eq] at hq
    rcases hq with rfl | rfl
    · exact absurd hc (h.not_mem (by decide))
    · exact absurd hc (h.not_mem (by decide))

theorem quotedFrom_length (a b : List Char) : quotedFrom a.length (a ++ b) = quotedFrom 0 b := by
  induction a with
  | nil => rfl
  | cons c rest ih => simpa [quotedFrom] using ih

theorem quoted_append {a : List Char} (ha : ∀ c ∈ a, isQuote c = false) (b : List Char) : quoted (a ++ b) = quoted b := by
  induction a with
  | nil => rfl
  | cons c rest ih =>
    have hc : isQuote c = false := ha c List.mem_cons_self
    rw [← ih fun d hd => ha d (List.mem_cons_of_mem c hd)]
    simp [quoted, quotedFrom, hc]

theorem quoted_of_blank {gap : List Char} (h : Text.Blank gap) : quoted gap = [] := by
  rw [← List.append_nil gap, quoted_append (not_isQuote_of_blank h)]
  rfl

theorem quoted_quote {text : List Char} {quote : Char} (hquote : isQuote quote = true) (hne : text ≠ [])
    (htext : ∀ c ∈ text, isQuote c = false) (b : List Char) :
    quoted (quote :: (text ++ quote :: b)) = text :: quoted b := by
  have htake : (text ++ quote :: b).takeWhile (!isQuote ·) = text :=
    (Text.span_append (fun c hc => by simp [htext c hc]) (by simp [hquote])).1
  have hskip : quotedFrom (text.length + 1) (text ++ quote :: b) = quotedFrom 0 b := by
    simpa using quotedFrom_length (text ++ [quote]) b
  unfold quoted
  rw [quotedFrom, htake]
  simp [hquote, hne, hskip]

theorem quoted_enumerated {texts : List (List Char)} {s : List Char} (h : Enumerated texts s)
    (htexts : ∀ t ∈ texts, t ≠ [] ∧ ∀ c ∈ t, isQuote c = false) : quoted s = texts := by
  induction h with
  | empty hgap => exact quoted_of_blank hgap
  | last hgap hquote hgap' =>
    obtain ⟨hne, htext⟩ := htexts _ List.mem_cons_self
    rw [quoted_append (not_isQuote_of_blank hgap), quoted_quote hquote hne htext, quoted_of_blank hgap']
  | more hgap hquote hgap' hrest ih =>
    obtain ⟨hne, htext⟩ := htexts _ List.mem_cons_self
    rw [quoted_append (not_isQuote_of_blank hgap), quoted_quote hquote hne htext,
      quoted_append (not_isQuote_of_blank hgap'), ← ih fun t ht => htexts t (List.mem_cons_of_mem _ ht)]
    rfl

theorem Enumerated.not_mem {texts : List (List Char)} {s : List Char} {c : Char} (h : Enumerated texts s)
    (hc : Text.isBlank c = false ∧ isQuote c = false ∧ c ≠ ',') (htexts : ∀ t ∈ texts, c ∉ t) : c ∉ s := by
  have hquote : ∀ {q : Char}, isQuote q = true → c ≠ q := by
    rintro q hq rfl
    exact absurd hq (by simp [hc.2.1])
  induction h with
  | empty hgap => exact hgap.not_mem hc.1
  | last hgap hq hgap' =>
    have htext := htexts _ List.mem_cons_self
    simp [hgap.not_mem hc.1, hgap'.not_mem hc.1, hquote hq, htext]
  | more hgap hq hgap' hrest ih =>
    have htext := htexts _ List.mem_cons_self
    have hothers := ih fun t ht => htexts t (List.mem_cons_of_mem _ ht)
    simp [hgap.not_mem hc.1, hgap'.not_mem hc.1, hquote hq, htext, hc.2.2, hothers]

/-- Uniform line ends leave the texts of a list alone. -/
theorem Enumerated.uniformLines {texts : List (List Char)} {s : List Char} (h : Enumerated texts s)
    (htexts : ∀ t ∈ texts, '\r' ∉ t) : Enumerated texts (Text.uniformLines s) := by
  have hquote : ∀ {q : Char}, isQuote q = true → q ≠ '\n' ∧ q ≠ '\r' := by
    intro q hq
    constructor <;> rintro rfl <;> exact absurd hq (by decide)
  induction h with
  | empty hgap => exact .empty hgap.uniformLines
  | last hgap hq hgap' =>
    obtain ⟨hfeed, hreturn⟩ := hquote hq
    rw [Text.uniformLines_append _ (by simp [hfeed]), Text.uniformLines_cons hreturn,
      Text.uniformLines_append_of_not_mem (htexts _ List.mem_cons_self), Text.uniformLines_cons hreturn]
    exact .last hgap.uniformLines hq hgap'.uniformLines
  | more hgap hq hgap' hrest ih =>
    obtain ⟨hfeed, hreturn⟩ := hquote hq
    rw [Text.uniformLines_append _ (by simp [hfeed]), Text.uniformLines_cons hreturn,
      Text.uniformLines_append_of_not_mem (htexts _ List.mem_cons_self), Text.uniformLines_cons hreturn,
      Text.uniformLines_append _ (by simp), Text.uniformLines_cons (by decide)]
    exact .more hgap.uniformLines hq hgap'.uniformLines (ih fun t ht => htexts t (List.mem_cons_of_mem _ ht))

/-- The script assigns the list of the texts to the key, and the key does not stand before that. -/
def Assigns (key : String) (texts : List (List Char)) (script : List Char) : Prop :=
  ∃ before gap gap' inside after, script = before ++ (key.toList ++ (gap ++ '=' :: (gap' ++ '[' :: (inside ++ ']' :: after)))) ∧
    ¬ key.toList <:+: before ∧ Text.Blank gap ∧ Text.Blank gap' ∧ Enumerated texts inside

theorem listStart?_assigned {gap gap' : List Char} (hgap : Text.Blank gap) (hgap' : Text.Blank gap') (rest : List Char) :
    listStart? (gap ++ '=' :: (gap' ++ '[' :: rest)) = some rest := by
  simp [listStart?, hgap.dropWhile (c := '=') (by decide), hgap'.dropWhile (c := '[') (by decide)]

theorem listOf?_eq (key s : List Char) :
    listOf? key s = (Text.readAfter? key listStart? s).bind fun inside => (Text.breakAt? [']'] inside).map (·.1) := by
  induction s with
  | nil => rfl
  | cons c rest ih =>
    rw [listOf?, Text.readAfter?]
    generalize (if key.isPrefixOf (c :: rest) then listStart? ((c :: rest).drop key.length) else none) = opened
    cases opened with
    | none => exact ih
    | some inside => rfl

/-- The list that a script assigns ends at the first closing bracket, since its texts have none. -/
theorem listOf?_assigned {key : String} {texts : List (List Char)} {script : List Char} (h : Assigns key texts script)
    (hkey : Text.Unbordered key.toList) (hne : key.toList ≠ []) (htexts : ∀ t ∈ texts, ']' ∉ t) :
    ∃ inside, listOf? key.toList script = some inside ∧ Enumerated texts inside := by
  obtain ⟨before, gap, gap', inside, after, rfl, hfirst, hgap, hgap', hinside⟩ := h
  have hclosed : ']' ∉ inside := hinside.not_mem (by decide) htexts
  have hstart := listStart?_assigned hgap hgap' (inside ++ ']' :: after)
  refine ⟨inside, ?_, hinside⟩
  rw [listOf?_eq, Text.readAfter?_append hkey hfirst, Text.readAfter?_key hkey hne (.inl (by rw [hstart]; rfl)), hstart]
  simp [Text.breakAt?_append_cons hclosed]

/-- A script that assigns a list still does when it is read back from a file. -/
theorem Assigns.uniformLines {key : String} {texts : List (List Char)} {script : List Char} (h : Assigns key texts script)
    (hkey : Text.OneLine key.toList) (hne : key.toList ≠ []) (htexts : ∀ t ∈ texts, '\r' ∉ t) :
    Assigns key texts (Text.uniformLines script) := by
  obtain ⟨before, gap, gap', inside, after, rfl, hfirst, hgap, hgap', hinside⟩ := h
  refine ⟨Text.uniformLines before, Text.uniformLines gap, Text.uniformLines gap', Text.uniformLines inside,
    Text.uniformLines after, ?_, ?_, hgap.uniformLines, hgap'.uniformLines, hinside.uniformLines htexts⟩
  · rw [Text.uniformLines_around hkey hne, Text.uniformLines_append gap (by simp), Text.uniformLines_cons (by decide), Text.uniformLines_append gap' (by simp),
      Text.uniformLines_cons (by decide), Text.uniformLines_append inside (by simp), Text.uniformLines_cons (by decide)]
  · rwa [Text.infix_uniformLines_iff hkey]

theorem ofSetup_assigned (source : String) (rs : List Declared) {script : List Char}
    (h : Assigns "install_requires" (rs.map Declared.text) script) :
    ofSetup source (String.ofList (Text.uniformLines script)) = rs.map (Declared.dependency source) := by
  have hplain : ∀ t ∈ rs.map Declared.text, ∀ c, isPlain c = false → c ∉ t := by
    intro t ht c hc
    obtain ⟨r, -, rfl⟩ := List.mem_map.mp ht
    exact Declared.not_mem_text hc
  have hquoted : ∀ t ∈ rs.map Declared.text, t ≠ [] ∧ ∀ c ∈ t, isQuote c = false := by
    intro t ht
    obtain ⟨r, -, rfl⟩ := List.mem_map.mp ht
    exact ⟨r.text_ne_nil, fun c hc => isQuote_of_isPlain (Declared.isPlain_of_mem_text c hc)⟩
  have hstored := h.uniformLines (by decide) (by decide) fun t ht => hplain t ht '\r' (by decide)
  obtain ⟨inside, hlist, hinside⟩ := listOf?_assigned hstored (by decide) (by decide) fun t ht => hplain t ht ']' (by decide)
  rw [ofSetup, String.toList_ofList (l := Text.uniformLines script), hlist]
  dsimp only
  rw [quoted_enumerated hinside hquoted, filterMap_text (read?_text source)]

/-- Requirements written to either manifest of a directory that lacks the other are its dependencies, in order. -/
theorem declared_requirements_read_back (d : Disk) (path : String) (rs : List Declared) :
    (∀ ending ∈ ["", "\n"],
      d.read (Path.join (Path.folder path) "requirements.txt") =
        .ok (.text (Text.join "\n" (rs.map Declared.line) ++ ending)) →
      d.has (Path.join (Path.folder path) "setup.py") = false →
      d.dependencies path "python" = rs.map (Declared.dependency "requirements.txt")) ∧
    (∀ script : String, Assigns "install_requires" (rs.map Declared.text) script.toList →
      d.read (Path.join (Path.folder path) "setup.py") = .ok (.text script) →
      d.has (Path.join (Path.folder path) "requirements.txt") = false →
      d.dependencies path "python" = rs.map (Declared.dependency "setup.py")) := by
  have hdependencies : d.dependencies path "python" =
      Manifest.dependenciesIn d (Path.folder path) Manifest.requirements ++
        Manifest.dependenciesIn d (Path.folder path) Manifest.setup := by
    simp [Disk.dependencies, Manifest.forLanguage]
  rw [hdependencies]
  constructor
  · intro ending hending hread hmissing
    have hrequirements := @Manifest.dependenciesIn_of_read d (Path.folder path) _ Manifest.requirements hread
    have hsetup := @Manifest.dependenciesIn_of_missing d (Path.folder path) Manifest.setup hmissing
    rw [hrequirements, hsetup, List.append_nil]
    dsimp only [Manifest.requirements]
    exact ofLines_joined "requirements.txt" rs hending
  · intro script hscript hread hmissing
    have hrequirements := @Manifest.dependenciesIn_of_missing d (Path.folder path) Manifest.requirements hmissing
    have hsetup := @Manifest.dependenciesIn_of_read d (Path.folder path) _ Manifest.setup hread
    rw [hrequirements, hsetup, List.nil_append]
    dsimp only [Manifest.setup]
    exact ofSetup_assigned "setup.py" rs hscript

namespace WebProject

/-- A version that binds, one that is excluded under a name with other letters, and no version at all. -/
def declared : List Declared :=
  [{ name := "requests".toList
     bound := some (">=".toList, "2.28_0".toList)
     name_ne_nil := by decide
     name_chars := by simp; decide
     bound_ne_nil := by simp
     signs_chars := by simp
     version_chars := by simp; decide },
   { name := "größe-x.y".toList
     bound := some ("!=".toList, "1.0".toList)
     name_ne_nil := by decide
     name_chars := by simp; decide
     bound_ne_nil := by simp
     signs_chars := by simp
     version_chars := by simp; decide },
   { name := "flask".toList
     bound := none
     name_ne_nil := by decide
     name_chars := by simp; decide
     bound_ne_nil := by simp
     signs_chars := by simp
     version_chars := by simp }]

/-- The list goes over lines, with both kinds of quotes and a comma at its end. -/
def list : List Char :=
  '"' :: ("requests>=2.28_0".toList ++ '"' :: ',' ::
    ("\r\n ".toList ++ '\'' :: ("größe-x.y!=1.0".toList ++ '\'' :: ',' ::
      ([' '] ++ '\'' :: ("flask".toList ++ ['\'', ','])))))

def script : String :=
  String.ofList ("setup('web',\r\n ".toList ++ ("install_requires".toList ++
    ([' '] ++ '=' :: ([' '] ++ '[' :: (list ++ ']' :: ", extras=['x'])".toList)))))

def disk (file text : String) : Disk := ⟨[([file], .file (.text text) none)]⟩

theorem list_enumerates : Enumerated (declared.map Declared.text) list := by
  have hlast := @Enumerated.more [' '] "flask".toList [] [] [] '\'' (by decide) rfl (by decide) (.empty (by decide))
  have hrest := @Enumerated.more "\r\n ".toList "größe-x.y!=1.0".toList [] _ _ '\'' (by decide) rfl (by decide) hlast
  exact @Enumerated.more [] "requests>=2.28_0".toList [] _ _ '"' (by decide) rfl (by decide) hrest

theorem script_assigns : Assigns "install_requires" (declared.map Declared.text) script.toList :=
  ⟨"setup('web',\r\n ".toList, [' '], [' '], list, ", extras=['x'])".toList, String.toList_ofList, by decide, by decide,
    by decide, list_enumerates⟩

theorem either_manifest_read_back :
    (disk "requirements.txt" (Text.join "\n" (declared.map Declared.line) ++ "\n")).dependencies "/app.py" "python" =
      declared.map (Declared.dependency "requirements.txt") ∧
    (disk "setup.py" script).dependencies "/app.py" "python" = declared.map (Declared.dependency "setup.py") :=
  ⟨(declared_requirements_read_back _ "/app.py" declared).1 "\n" (by decide) rfl rfl,
    (declared_requirements_read_back _ "/app.py" declared).2 script script_assigns rfl rfl⟩

end WebProject
end Requirement
end ThreatScan
