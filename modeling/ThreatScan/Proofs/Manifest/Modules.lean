import ThreatScan.Proofs.Manifest.Requirements
import ThreatScan.Proofs.Text.Expect
import ThreatScan.Proofs.Text.Words
/-!
Modules that a module file requires.

A module stands on a line of a block or on a line of its own behind the keyword (`Lists`). Neither its path nor its version
holds a blank, so they are the words of the line (`wordsFrom_pair`). But to leave out the keyword in front, the reader takes it
away wherever it stands, and so out of the middle of a path or of a version too. What is read is therefore known for every
file (`scan_listed`), and it is what was declared exactly if the keyword does not occur in a path or in a version
(`found_eq_iff`).
-/
namespace ThreatScan.ModuleFile

open Text (Blank IsGap without wordsFrom)

def keyword : List Char := "require".toList

/-- A module that is required: its path, and its version. -/
structure Required where
  path : List Char
  version : List Char
  path_ne_nil : path ≠ []
  path_chars : ∀ c ∈ path, Text.isWordChar c = true ∨ c = '.' ∨ c = '/' ∨ c = '-' ∨ c = '~'
  version_start : version.head? = some 'v'
  version_chars : ∀ c ∈ version, Text.isWordChar c = true ∨ c = '.' ∨ c = '-' ∨ c = '+'

namespace Required

def dependency (source : String) (m : Required) : Dependency where
  name := String.ofList m.path
  version := String.ofList m.version
  constraint := none
  source := source

/-- What is read: path and version without the keyword. If nothing is left of the path, the version is taken for it. -/
def found (source : String) (m : Required) : Dependency :=
  match without keyword m.path with
  | [] => ⟨String.ofList (without keyword m.version), "unknown", none, source⟩
  | c :: rest => ⟨String.ofList (c :: rest), String.ofList (without keyword m.version), none, source⟩

def Spared (m : Required) : Prop := ¬ keyword <:+: m.path ∧ ¬ keyword <:+: m.version

/-- The text has the path and the version on it, with blanks between them and around them. -/
def OnText (m : Required) (s : List Char) : Prop :=
  ∃ lead gap trail, s = lead ++ (m.path ++ (gap ++ (m.version ++ trail))) ∧ Blank lead ∧ IsGap gap ∧ Blank trail

end Required

/-- Lines that require the modules in order, in blocks or one by one. `inside` says whether a block is open at the first line.
In a block there may be blank lines, outside of blocks lines with something else on them. -/
inductive Lists : Bool → List Required → List (List Char) → Prop
  | nil : Lists false [] []
  | opening {ms : List Required} {ls : List (List Char)} {lead trail : List Char} (hlead : Blank lead) (htrail : Blank trail)
      (hrest : Lists true ms ls) : Lists false ms ((lead ++ ("require (".toList ++ trail)) :: ls)
  | closing {ms : List Required} {ls : List (List Char)} {lead trail : List Char} (hlead : Blank lead) (htrail : Blank trail)
      (hrest : Lists false ms ls) : Lists true ms ((lead ++ ([')'] ++ trail)) :: ls)
  | listed {m : Required} {ms : List Required} {ls : List (List Char)} {s : List Char} (hs : m.OnText s)
      (hrest : Lists true ms ls) : Lists true (m :: ms) (s :: ls)
  | single {m : Required} {ms : List Required} {ls : List (List Char)} {lead s : List Char} (hlead : Blank lead)
      (hs : m.OnText s) (hrest : Lists false ms ls) : Lists false (m :: ms) ((lead ++ (keyword ++ ' ' :: s)) :: ls)
  | empty {ms : List Required} {ls : List (List Char)} {s : List Char} (hs : Blank s) (hrest : Lists true ms ls) :
      Lists true ms (s :: ls)
  | other {ms : List Required} {ls : List (List Char)} {s : List Char} (hblock : Text.trimList s ≠ "require (".toList)
      (hsingle : ¬ "require ".toList <+: Text.trimList s) (hrest : Lists false ms ls) : Lists false ms (s :: ls)

/-! ## The words of a line -/

namespace Required
variable {m : Required} {s : List Char}

theorem isBlank_of_mem_path : ∀ c ∈ m.path, Text.isBlank c = false := by
  intro c hc
  rcases m.path_chars c hc with h | rfl | rfl | rfl | rfl
  · exact Text.isBlank_of_isWordChar h
  all_goals decide

theorem isBlank_of_mem_version : ∀ c ∈ m.version, Text.isBlank c = false := by
  intro c hc
  rcases m.version_chars c hc with h | rfl | rfl | rfl
  · exact Text.isBlank_of_isWordChar h
  all_goals decide

/-- The first letter of a version is none of the keyword's. -/
theorem exists_without_version (m : Required) : ∃ rest, without keyword m.version = 'v' :: rest := by
  cases hversion : m.version with
  | nil => exact absurd m.version_start (by simp [hversion])
  | cons c rest =>
    obtain rfl : c = 'v' := by simpa [hversion] using m.version_start
    exact ⟨_, Text.without_append_cons (a := []) (by decide) (by decide)⟩

end Required

theorem isBlank_of_mem_keyword : ∀ c ∈ keyword, Text.isBlank c = false :=
  fun c hc => by simpa using List.all_eq_true.mp (show keyword.all (!Text.isBlank ·) = true by decide) c hc

/-- The words of a line with two texts on it, of which the first may be empty. -/
theorem wordsFrom_pair {lead p gap v trail : List Char} (hlead : Blank lead) (hp : ∀ c ∈ p, Text.isBlank c = false)
    (hgap : IsGap gap) (hne : v ≠ []) (hv : ∀ c ∈ v, Text.isBlank c = false) (htrail : Blank trail) :
    wordsFrom [] (lead ++ (p ++ (gap ++ (v ++ trail)))) = if p = [] then [v] else [p, v] := by
  have hend : wordsFrom [] (gap ++ (v ++ trail)) = [v] := by
    rw [Text.wordsFrom_blank_append hgap.2, Text.wordsFrom_word hne hv, Text.wordsFrom_of_blank htrail]
    exact fun c hc => htrail c (List.mem_of_mem_head? hc)
  rw [Text.wordsFrom_blank_append hlead]
  split
  · next hp => rw [hp, List.nil_append, hend]
  · next hp' =>
    rw [Text.wordsFrom_word hp' hp, hend]
    obtain ⟨c, rest, rfl⟩ := List.exists_cons_of_ne_nil hgap.1
    simpa using hgap.2 c List.mem_cons_self

theorem Required.OnText.words {m : Required} {s : List Char} (h : m.OnText s) : wordsFrom [] s = [m.path, m.version] := by
  obtain ⟨lead, gap, trail, rfl, hlead, hgap, htrail⟩ := h
  have hne : m.version ≠ [] := by
    intro hnil
    simpa [hnil] using m.version_start
  rw [wordsFrom_pair hlead m.isBlank_of_mem_path hgap hne m.isBlank_of_mem_version htrail, if_neg m.path_ne_nil]

/-- The keyword is taken away from the path and from the version, each for itself. -/
theorem Required.OnText.words_without {m : Required} {s : List Char} (h : m.OnText s) :
    wordsFrom [] (without keyword s) =
      if without keyword m.path = [] then [without keyword m.version]
      else [without keyword m.path, without keyword m.version] := by
  obtain ⟨lead, gap, trail, rfl, hlead, hgap, htrail⟩ := h
  have hkey : keyword ≠ [] := by decide
  have hforeign : ∀ {b : List Char}, Blank b → ∀ c ∈ b, c ∉ keyword :=
    fun hb c hc hk => hb.not_mem (isBlank_of_mem_keyword c hk) hc
  obtain ⟨c, rest, rfl⟩ := List.exists_cons_of_ne_nil hgap.1
  obtain ⟨tail, hversion⟩ := m.exists_without_version
  have hrest : Blank rest := fun d hd => hgap.2 d (List.mem_cons_of_mem c hd)
  rw [Text.without_foreign_append hkey (hforeign hlead), List.cons_append,
    Text.without_append_cons hkey (hforeign hgap.2 c List.mem_cons_self), Text.without_foreign_append hkey (hforeign hrest),
    Text.without_append_foreign hkey (hforeign htrail), ← List.cons_append]
  refine wordsFrom_pair hlead ?_ hgap (by simp [hversion]) ?_ htrail
  · exact fun d hd => m.isBlank_of_mem_path d ((Text.without_sublist keyword m.path).subset hd)
  · exact fun d hd => m.isBlank_of_mem_version d ((Text.without_sublist keyword m.version).subset hd)

/-! ## The dependency on a line -/

theorem words_line (s : List Char) : Text.words (Text.trim (Text.replace (Text.trim (String.ofList s)) "require" "")) =
    (wordsFrom [] (without keyword s)).map String.ofList := by
  rw [← Text.wordsFrom_without_trimList (by decide) isBlank_of_mem_keyword, ← Text.wordsFrom_trimList]
  simp only [Text.words, Text.trim, Text.replace, String.toList_ofList]
  rfl

theorem entry?_of_words {source : String} {m : Required} {s : List Char}
    (h : wordsFrom [] (without keyword s) =
      if without keyword m.path = [] then [without keyword m.version]
      else [without keyword m.path, without keyword m.version]) :
    entry? source (Text.trim (String.ofList s)) = some (m.found source) := by
  unfold entry? Required.found
  rw [words_line, h]
  cases without keyword m.path with
  | nil => rfl
  | cons c rest => rfl

/-- Neither of the lines around a block has a path and a version on it. -/
theorem ne_of_words {m : Required} {s : List Char} (h : wordsFrom [] s = [m.path, m.version]) :
    Text.trimList s ≠ "require (".toList ∧ Text.trimList s ≠ [')'] := by
  have hwords : wordsFrom [] (Text.trimList s) = [m.path, m.version] := by rw [Text.wordsFrom_trimList, h]
  constructor
  · intro hopening
    have hversion : m.version = ['('] := by
      have hpair : wordsFrom [] "require (".toList = [keyword, ['(']] := by decide
      rw [hopening, hpair] at hwords
      exact (List.cons.inj (List.cons.inj hwords).2).1.symm
    have hstart := m.version_start
    rw [hversion] at hstart
    exact absurd hstart (by decide)
  · intro hclosing
    rw [hclosing] at hwords
    exact absurd hwords (by simp [wordsFrom, show Text.isBlank ')' = false by decide])

/-! ## The lines of a file -/

section Lines
variable {source : String} {inside : Bool} {s : List Char} {rest : List String}

theorem beq_trim {x : String} : (Text.trim (String.ofList s) == x) = decide (Text.trimList s = x.toList) := by
  rw [Bool.eq_iff_iff, beq_iff_eq, decide_eq_true_eq, Text.trim, String.toList_ofList, ← String.toList_inj, String.toList_ofList]

theorem scan_opening (h : Text.trimList s = "require (".toList) :
    scan source inside (Text.trim (String.ofList s) :: rest) = scan source true rest := by
  have hopening : (Text.trim (String.ofList s) == "require (") = true := beq_trim.trans (decide_eq_true h)
  rw [scan, if_pos hopening]

theorem scan_closing (h : Text.trimList s = [')']) :
    scan source true (Text.trim (String.ofList s) :: rest) = scan source false rest := by
  have hopening : Text.trimList s ≠ "require (".toList := by rw [h]; decide
  rw [scan, if_neg (by simpa only [beq_trim, decide_eq_true_eq] using hopening), if_pos (by simp only [beq_trim, h]; rfl)]

/-- A line that belongs to no block, or to an open one, gives what is on it. -/
theorem scan_entry (hopening : Text.trimList s ≠ "require (".toList) (hclosing : inside = true → Text.trimList s ≠ [')'])
    (hread : "require ".toList <+: Text.trimList s ∨ inside = true) :
    scan source inside (Text.trim (String.ofList s) :: rest) =
      ( entry? source (Text.trim (String.ofList s))).toList ++ scan source inside rest := by
  have hends : ¬ (Text.trim (String.ofList s) == ")" && inside) = true := by
    simp only [beq_trim, Bool.and_eq_true, decide_eq_true_eq]
    exact fun h => hclosing h.2 h.1
  have hstarts : (Text.startsWith (Text.trim (String.ofList s)) "require " || inside) = true := by
    simpa only [Text.startsWith, Text.trim, String.toList_ofList, Bool.or_eq_true, List.isPrefixOf_iff_prefix] using hread
  rw [scan, if_neg (by simpa only [beq_trim, decide_eq_true_eq] using hopening), if_neg hends, if_pos hstarts]
  cases entry? source (Text.trim (String.ofList s)) <;> rfl

theorem scan_other (hopening : Text.trimList s ≠ "require (".toList) (hsingle : ¬ "require ".toList <+: Text.trimList s) :
    scan source false (Text.trim (String.ofList s) :: rest) = scan source false rest := by
  have hstarts : ¬ (Text.startsWith (Text.trim (String.ofList s)) "require " || false) = true := by
    simpa only [Text.startsWith, Text.trim, String.toList_ofList, Bool.or_false, List.isPrefixOf_iff_prefix] using hsingle
  rw [scan, if_neg (by simpa only [beq_trim, decide_eq_true_eq] using hopening), if_neg (by simp), if_neg hstarts]

end Lines

section Single
variable {m : Required} {lead s : List Char}

theorem words_single (hlead : Blank lead) (hs : m.OnText s) :
    wordsFrom [] (lead ++ (keyword ++ ' ' :: s)) = [keyword, m.path, m.version] := by
  have hspace : wordsFrom [] (' ' :: s) = [m.path, m.version] := hs.words
  rw [Text.wordsFrom_blank_append hlead, Text.wordsFrom_word (by decide) isBlank_of_mem_keyword, hspace]
  simp only [List.head?_cons, Option.mem_some_iff, forall_eq']
  decide

theorem words_without_single (hlead : Blank lead) (s : List Char) :
    wordsFrom [] (without keyword (lead ++ (keyword ++ ' ' :: s))) = wordsFrom [] (without keyword s) := by
  have hforeign : ∀ c ∈ lead, c ∉ keyword := fun c hc hk => hlead.not_mem (isBlank_of_mem_keyword c hk) hc
  have hspace : without keyword (' ' :: s) = ' ' :: without keyword s :=
    Text.without_append_cons (a := []) (by decide) (by decide)
  rw [Text.without_foreign_append (by decide) hforeign, Text.without_key_append (by decide), hspace,
    Text.wordsFrom_blank_append hlead]
  rfl

/-- What stands behind the keyword keeps the space in front of it from being trimmed. -/
theorem prefix_trimList_single (hlead : Blank lead) (hs : m.OnText s) :
    "require ".toList <+: Text.trimList (lead ++ (keyword ++ ' ' :: s)) := by
  obtain ⟨lead', gap, trail, rfl, -, -, -⟩ := hs
  obtain ⟨c, path, hpath⟩ := List.exists_cons_of_ne_nil m.path_ne_nil
  have hc : Text.isBlank c = false := m.isBlank_of_mem_path c (by rw [hpath]; exact List.mem_cons_self)
  have htrim := Text.trimList_between (show Text.isBlank 'r' = false by decide) hc ("equire ".toList ++ lead')
    (path ++ (gap ++ (m.version ++ trail)))
  have hstart : ∀ t, keyword ++ ' ' :: t = 'r' :: ("equire ".toList ++ t) := fun t => rfl
  rw [Text.trimList_blank_append hlead, hstart, hpath, List.cons_append, ← List.append_assoc "equire ".toList, htrim,
    List.append_assoc]
  exact List.prefix_append "require ".toList _

end Single

/-- Each module that is listed gives one dependency, in order. -/
theorem scan_listed (source : String) {inside : Bool} {ms : List Required} {ls : List (List Char)} (h : Lists inside ms ls) :
    scan source inside (ls.map fun l => Text.trim (String.ofList l)) = ms.map (Required.found source) := by
  induction h with
  | nil => rfl
  | opening hlead htrail _ ih =>
    rw [List.map_cons, scan_opening (Text.trimList_around hlead htrail (by rintro c ⟨⟩; decide) (by rintro c ⟨⟩; decide)), ih]
  | closing hlead htrail _ ih =>
    rw [List.map_cons, scan_closing (Text.trimList_around hlead htrail (by rintro c ⟨⟩; decide) (by rintro c ⟨⟩; decide)), ih]
  | listed hs _ ih =>
    obtain ⟨hopening, hclosing⟩ := ne_of_words hs.words
    rw [List.map_cons, scan_entry hopening (fun _ => hclosing) (.inr rfl), entry?_of_words hs.words_without, ih]
    rfl
  | @single m ms ls lead s hlead hs _ ih =>
    have hwords : wordsFrom [] (without keyword (lead ++ (keyword ++ ' ' :: s))) = _ :=
      (words_without_single hlead s).trans hs.words_without
    have hopening : Text.trimList (lead ++ (keyword ++ ' ' :: s)) ≠ "require (".toList := by
      intro h
      have htwo : (wordsFrom [] "require (".toList).length = 2 := by decide
      rw [← h, Text.wordsFrom_trimList, words_single hlead hs] at htwo
      cases htwo
    have houtside : false = true → Text.trimList (lead ++ (keyword ++ ' ' :: s)) ≠ [')'] := nofun
    rw [List.map_cons, scan_entry hopening houtside (.inl (prefix_trimList_single hlead hs)), entry?_of_words hwords, ih]
    rfl
  | @empty ms ls s hs _ ih =>
    have htrim : Text.trimList s = [] := by
      simpa using Text.trimList_around (x := []) hs (show Blank [] by decide) (by simp) (by simp)
    have hentry : entry? source (Text.trim (String.ofList s)) = none := by
      rw [Text.trim, String.toList_ofList, htrim]
      rfl
    rw [List.map_cons, scan_entry (by rw [htrim]; decide) (fun _ => by rw [htrim]; decide) (.inr rfl), hentry, ih]
    rfl
  | other hblock hsingle _ ih => rw [List.map_cons, scan_other hblock hsingle, ih]

/-! ## What is read, and what was declared -/

/-- A module is read as it was declared exactly if the keyword is not in it. -/
theorem found_eq_iff {source : String} {m : Required} : m.found source = m.dependency source ↔ m.Spared := by
  have hkey : keyword ≠ [] := by decide
  unfold Required.Spared
  rw [← Text.without_eq_self_iff hkey, ← Text.without_eq_self_iff hkey, Required.found, Required.dependency]
  cases hpath : without keyword m.path with
  | nil =>
    -- the version that is recorded is none
    have hunknown : "unknown" ≠ String.ofList m.version := by
      intro h
      have hstart := m.version_start
      rw [← String.toList_ofList (l := m.version), ← h] at hstart
      exact absurd hstart (by decide)
    simp [hunknown, m.path_ne_nil.symm]
  | cons c rest => simp only [Dependency.mk.injEq, String.ofList_inj, and_true]

theorem dependencies_listed {d : Disk} {path script : String} {ms : List Required}
    (hscript : Lists false ms (Text.storedLines script.toList))
    (hread : d.read (Path.join (Path.folder path) "go.mod") = .ok (.text script)) :
    d.dependencies path "go" = ms.map (Required.found "go.mod") := by
  have hdependencies : d.dependencies path "go" = Manifest.dependenciesIn d (Path.folder path) Manifest.modules := by
    simp [Disk.dependencies, Manifest.forLanguage]
  have hlines : (Text.lines (String.ofList (Text.uniformLines script.toList))).map Text.trim =
      (Text.storedLines script.toList).map fun l => Text.trim (String.ofList l) := by
    rw [Text.lines, String.toList_ofList, List.map_map]
    rfl
  rw [hdependencies, @Manifest.dependenciesIn_of_read d (Path.folder path) _ Manifest.modules hread]
  dsimp only [Manifest.modules]
  rw [read, hlines, scan_listed "go.mod" hscript]

/-- Each module that a file requires gives one dependency, in order, of its path and its version without the keyword. These
are the modules as they were declared exactly if the keyword occurs in none of the paths and versions. -/
theorem required_modules_read_back_iff (d : Disk) (path script : String) (ms : List Required)
    (hscript : Lists false ms (Text.storedLines script.toList))
    (hread : d.read (Path.join (Path.folder path) "go.mod") = .ok (.text script)) :
    d.dependencies path "go" = ms.map (Required.found "go.mod") ∧
      (d.dependencies path "go" = ms.map (Required.dependency "go.mod") ↔ ∀ m ∈ ms, m.Spared) := by
  have hfound := dependencies_listed hscript hread
  refine ⟨hfound, ?_⟩
  rw [hfound]
  simp only [List.map_inj_left, found_eq_iff]

namespace Server

def disk (text : String) : Disk := ⟨[(["go.mod"], .file (.text text) none)]⟩

def logging : Required where
  path := "go.uber.org/zap".toList
  version := "v1.27.0".toList
  path_ne_nil := by decide
  path_chars := by simp; decide
  version_start := rfl
  version_chars := by simp; decide

def text : Required where
  path := "golang.org/x/text".toList
  version := "v0.3.0-rc.1+b".toList
  path_ne_nil := by decide
  path_chars := by simp; decide
  version_start := rfl
  version_chars := by simp; decide

def checks : Required where
  path := "github.com/alecthomas/require".toList
  version := "v1.2.3".toList
  path_ne_nil := by decide
  path_chars := by simp; decide
  version_start := rfl
  version_chars := by simp; decide

/-- A block with a blank line in it, and a line of its own. -/
def script : String := "module m\r\n\r\nrequire (\r\n\tgo.uber.org/zap v1.27.0\r\n\r\n)\nrequire golang.org/x/text  v0.3.0-rc.1+b\n"

theorem script_lists : Lists false [logging, text] (Text.storedLines script.toList) := by
  have hlines : Text.storedLines script.toList =
      ["module m".toList, [], [] ++ ("require (".toList ++ []), "\t".toList ++ (logging.path ++ ([' '] ++ (logging.version ++ []))),
        [], [] ++ ([')'] ++ []), [] ++ (keyword ++ ' ' :: ([] ++ (text.path ++ ("  ".toList ++ (text.version ++ []))))), []] := by
    decide
  rw [hlines]
  refine .other (by decide) (by decide) (.other (by decide) (by decide) (.opening (by decide) (by decide) ?_))
  refine .listed ⟨_, _, _, rfl, by decide, Text.isGap_space, by decide⟩ (.empty (by decide) ?_)
  have hgap : IsGap "  ".toList := ⟨by decide, show Blank "  ".toList by decide⟩
  refine .closing (by decide) (by decide) (.single (by decide) ⟨_, _, _, rfl, by decide, hgap, by decide⟩ ?_)
  exact .other (by decide) (by decide) .nil

theorem modules_of_server_read_back :
    (disk script).dependencies "/main.go" "go" =
      [⟨"go.uber.org/zap", "v1.27.0", none, "go.mod"⟩, ⟨"golang.org/x/text", "v0.3.0-rc.1+b", none, "go.mod"⟩] := by
  have hspared : ∀ m ∈ [logging, text], m.Spared := by
    intro m hm
    rcases List.mem_pair.mp hm with rfl | rfl <;> exact ⟨by decide, by decide⟩
  exact (required_modules_read_back_iff (disk script) "/main.go" script [logging, text] script_lists rfl).2.mpr hspared

/-- A module with the keyword as the last part of its path. -/
def checkedScript : String := "require github.com/alecthomas/require v1.2.3\n"

theorem keyword_cut_from_path :
    Lists false [checks] (Text.storedLines checkedScript.toList) ∧
    (disk checkedScript).dependencies "/main.go" "go" = [⟨"github.com/alecthomas/", "v1.2.3", none, "go.mod"⟩] ∧
    (disk checkedScript).dependencies "/main.go" "go" ≠ [checks.dependency "go.mod"] := by
  have hlines : Text.storedLines checkedScript.toList =
      [[] ++ (keyword ++ ' ' :: ([] ++ (checks.path ++ ([' '] ++ (checks.version ++ []))))), []] := by
    decide
  have hlists : Lists false [checks] (Text.storedLines checkedScript.toList) := by
    rw [hlines]
    refine .single (by decide) ⟨_, _, _, rfl, by decide, Text.isGap_space, by decide⟩ ?_
    exact .other (by decide) (by decide) .nil
  have hfound := @dependencies_listed (disk checkedScript) "/main.go" checkedScript [checks] hlists rfl
  have hread : [checks].map (Required.found "go.mod") = [⟨"github.com/alecthomas/", "v1.2.3", none, "go.mod"⟩] := by
    decide
  rw [hread] at hfound
  refine ⟨hlists, hfound, ?_⟩
  rw [hfound]
  decide

end Server
end ThreatScan.ModuleFile
