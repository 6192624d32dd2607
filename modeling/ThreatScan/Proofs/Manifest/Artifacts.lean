import ThreatScan.Proofs.Manifest.Requirements
/-!
Artifacts that a build script declares are read back.

Group, artifact and version of a coordinate hold no colon (`Artifact`), so although the group and then the artifact take as
much as they can, the two colons that divide them are the only places to cut (`lastSplit?_append_colon`, `ofText?_text`).
The first quote on a line of the block opens its coordinate (`onLine?_artifact`), and the first closing brace ends the block,
since no line has one. A block with nothing in it is passed over, which makes no difference if none follows.
-/
namespace ThreatScan.Coordinates

def Ends (c : Char) : Prop := c = '\x7d' ∨ c = '\n' ∨ c = '\r'

def InLine (s : List Char) : Prop := '\x7d' ∉ s ∧ Text.OneLine s

instance (s : List Char) : Decidable (InLine s) := inferInstanceAs (Decidable (_ ∧ _))

theorem InLine.not_mem {s : List Char} {c : Char} (h : InLine s) (hc : Ends c) : c ∉ s := by
  rcases hc with rfl | rfl | rfl
  · exact h.1
  · exact h.2.1
  · exact h.2.2

/-- A text that can stand between the colons of a coordinate. -/
structure IsPart (s : List Char) : Prop where
  ne_nil : s ≠ []
  no_colon : ':' ∉ s
  no_quote : ∀ c ∈ s, Requirement.isQuote c = false
  inLine : InLine s

structure Artifact where
  group : List Char
  artifact : List Char
  version : List Char
  group_isPart : IsPart group
  artifact_isPart : IsPart artifact
  version_isPart : IsPart version

namespace Artifact

def text (a : Artifact) : List Char := a.group ++ ':' :: (a.artifact ++ ':' :: a.version)

def dependency (source : String) (a : Artifact) : Dependency where
  name := String.ofList (a.group ++ ':' :: a.artifact)
  version := String.ofList a.version
  constraint := none
  source := source

end Artifact

/-! ## The colons -/

section LastSplit
variable {α : Type} {readRest : List Char → Option α} {p s : List Char}

theorem lastSplit?_cons (c : Char) (hs : s.head? ≠ some ':') :
    lastSplit? readRest (c :: s) = (lastSplit? readRest s).map fun x => (c :: x.1, x.2) := by
  cases s with
  | nil => rfl
  | cons d rest =>
    have hd : d ≠ ':' := by simpa using hs
    rw [lastSplit?.eq_def]
    dsimp only
    cases lastSplit? readRest (d :: rest) with
    | none => simp [hd]
    | some x => rfl

theorem lastSplit?_of_not_mem (h : ':' ∉ s) : lastSplit? readRest s = none := by
  induction s with
  | nil => rfl
  | cons c rest ih =>
    have hrest := List.not_mem_of_not_mem_cons h
    rw [lastSplit?_cons c fun hhead => hrest (List.mem_of_mem_head? hhead), ih hrest]
    rfl

/-- If no later colon will do, the text is cut at the first one or not at all. -/
theorem lastSplit?_append_colon (hne : p ≠ []) (hp : ':' ∉ p) (hlast : lastSplit? readRest (':' :: s) = none) :
    lastSplit? readRest (p ++ ':' :: s) = (readRest s).map fun r => (p, r) := by
  induction p with
  | nil => exact absurd rfl hne
  | cons c rest ih =>
    cases rest with
    | nil => rw [List.cons_append, List.nil_append, lastSplit?, hlast]
    | cons d rest =>
      have hd : d ≠ ':' := (List.ne_of_not_mem_cons (List.not_mem_of_not_mem_cons hp)).symm
      rw [List.cons_append, lastSplit?_cons c (by simpa using hd),
        ih (List.cons_ne_nil d rest) (List.not_mem_of_not_mem_cons hp), Option.map_map]
      rfl

end LastSplit

theorem head?_ne_colon {s t : List Char} (hs : IsPart s) : (s ++ t).head? ≠ some ':' := by
  obtain ⟨c, rest, rfl⟩ := List.exists_cons_of_ne_nil hs.ne_nil
  simpa using (List.ne_of_not_mem_cons hs.no_colon).symm

theorem ofText?_text (a : Artifact) : ofText? a.text = some (a.group, a.artifact, a.version) := by
  have hversion : ∀ {α : Type} {readRest : List Char → Option α}, lastSplit? readRest (':' :: a.version) = none := by
    intro α readRest
    have hhead : a.version.head? ≠ some ':' := by simpa using @head?_ne_colon a.version [] a.version_isPart
    rw [lastSplit?_cons ':' hhead, lastSplit?_of_not_mem a.version_isPart.no_colon]
    rfl
  have hinner : lastSplit? nonEmpty? (a.artifact ++ ':' :: a.version) = some (a.artifact, a.version) := by
    rw [lastSplit?_append_colon a.artifact_isPart.ne_nil a.artifact_isPart.no_colon hversion]
    simp [nonEmpty?, a.version_isPart.ne_nil]
  -- behind the second colon there is no other, so the group cannot reach over the first
  have hreach : lastSplit? (lastSplit? nonEmpty?) (':' :: (a.artifact ++ ':' :: a.version)) = none := by
    rw [lastSplit?_cons ':' (head?_ne_colon a.artifact_isPart),
      lastSplit?_append_colon a.artifact_isPart.ne_nil a.artifact_isPart.no_colon hversion,
      lastSplit?_of_not_mem a.version_isPart.no_colon]
    rfl
  unfold ofText? Artifact.text
  rw [lastSplit?_append_colon a.group_isPart.ne_nil a.group_isPart.no_colon hreach, hinner]
  rfl

/-! ## The lines of the block -/

theorem onLine?_append {lead : List Char} (h : ∀ c ∈ lead, Requirement.isQuote c = false) (source : String) (s : List Char) :
    onLine? source (lead ++ s) = onLine? source s := by
  induction lead with
  | nil => rfl
  | cons c rest ih =>
    rw [List.cons_append, onLine?, h c List.mem_cons_self]
    exact ih fun d hd => h d (List.mem_cons_of_mem c hd)

theorem onLine?_of_not_quote {s : List Char} (h : ∀ c ∈ s, Requirement.isQuote c = false) (source : String) :
    onLine? source s = none := by
  rw [← List.append_nil s, onLine?_append h]
  rfl

theorem Artifact.not_isQuote_of_mem_text {a : Artifact} : ∀ c ∈ a.text, Requirement.isQuote c = false := by
  intro c hc
  simp only [text, List.mem_append, List.mem_cons] at hc
  rcases hc with hc | rfl | hc | rfl | hc
  · exact a.group_isPart.no_quote c hc
  · decide
  · exact a.artifact_isPart.no_quote c hc
  · decide
  · exact a.version_isPart.no_quote c hc

/-- The first quote on a line opens its coordinate; what follows the coordinate does not matter. -/
theorem onLine?_artifact {lead : List Char} {quote : Char} (hlead : ∀ c ∈ lead, Requirement.isQuote c = false)
    (hquote : Requirement.isQuote quote = true) (source : String) (a : Artifact) (trail : List Char) :
    onLine? source (lead ++ quote :: (a.text ++ quote :: trail)) = some (a.dependency source) := by
  obtain ⟨htake, hdrop⟩ := Text.span_append (p := (!Requirement.isQuote ·)) (a := a.text) (b := quote :: trail)
    (fun c hc => by simp [Artifact.not_isQuote_of_mem_text c hc]) (by simp [hquote])
  rw [onLine?_append hlead, onLine?, htake, hdrop, ofText?_text]
  simp [hquote, Artifact.dependency]

/-- Lines that declare the artifacts in order, each in quotes behind a configuration or whatever else is before them. Lines
without quotes may stand among them. -/
inductive Lists : List Artifact → List (List Char) → Prop
  | nil : Lists [] []
  | artifact {a : Artifact} {as : List Artifact} {ls : List (List Char)} {lead trail : List Char} {quote : Char}
      (hlead : ∀ c ∈ lead, Requirement.isQuote c = false) (hquote : Requirement.isQuote quote = true)
      (hline : InLine (lead ++ trail)) (hrest : Lists as ls) :
      Lists (a :: as) ((lead ++ quote :: (a.text ++ quote :: trail)) :: ls)
  | other {as : List Artifact} {ls : List (List Char)} {s : List Char} (hs : ∀ c ∈ s, Requirement.isQuote c = false)
      (hline : InLine s) (hrest : Lists as ls) : Lists as (s :: ls)

theorem filterMap_onLine? (source : String) {as : List Artifact} {ls : List (List Char)} (h : Lists as ls) :
    ls.filterMap (onLine? source) = as.map (Artifact.dependency source) := by
  induction h with
  | nil => rfl
  | artifact hlead hquote _ _ ih =>
    rw [List.filterMap_cons_some (onLine?_artifact hlead hquote source _ _), ih, List.map_cons]
  | other hs _ _ ih => rw [List.filterMap_cons_none (onLine?_of_not_quote hs source), ih]

theorem Artifact.not_mem_text {a : Artifact} {c : Char} (hc : Ends c) : c ∉ a.text := by
  have hcolon : c ≠ ':' := by rcases hc with rfl | rfl | rfl <;> decide
  simp [text, hcolon, a.group_isPart.inLine.not_mem hc, a.artifact_isPart.inLine.not_mem hc,
    a.version_isPart.inLine.not_mem hc]

theorem Lists.not_mem {as : List Artifact} {ls : List (List Char)} {c : Char} (h : Lists as ls) (hc : Ends c) :
    ∀ l ∈ ls, c ∉ l := by
  induction h with
  | nil => simp
  | @artifact a as ls lead trail quote _ hquote hline _ ih =>
    intro l hl
    rcases List.mem_cons.mp hl with rfl | hl
    · have hq : c ≠ quote := by
        rintro rfl
        rcases hc with rfl | rfl | rfl <;> exact absurd hquote (by decide)
      have hends := hline.not_mem hc
      rw [List.mem_append, not_or] at hends
      simp [hends, hq, Artifact.not_mem_text hc]
    · exact ih l hl
  | other _ hline _ ih =>
    intro l hl
    rcases List.mem_cons.mp hl with rfl | hl
    · exact hline.not_mem hc
    · exact ih l hl

/-! ## The block -/

/-- The first block of the script lists the artifacts. If nothing is in it, no other follows. -/
def Declares (as : List Artifact) (script : List Char) : Prop :=
  ∃ before gap ls after,
    script = before ++ ("dependencies".toList ++ (gap ++ '\x7b' :: (Text.joinWith ['\n'] ls ++ '\x7d' :: after))) ∧
    ¬ "dependencies".toList <:+: before ∧ Text.Blank gap ∧ Lists as ls ∧
    (Text.joinWith ['\n'] ls = [] → ¬ "dependencies".toList <:+: after)

theorem blockOf?_eq (key s : List Char) :
    blockOf? key s = Text.readAfter? key (fun s => (blockStart? s).bind untilBrace?) s := by
  induction s with
  | nil => rfl
  | cons c rest ih =>
    rw [blockOf?, Text.readAfter?, ih]
    generalize (if key.isPrefixOf (c :: rest) then (blockStart? ((c :: rest).drop key.length)).bind untilBrace? else none) = read
    cases read <;> rfl

theorem blockStart?_gap {gap : List Char} (hgap : Text.Blank gap) (s : List Char) :
    blockStart? (gap ++ '\x7b' :: s) = some s := by
  simp [blockStart?, hgap.dropWhile (c := '\x7b') (by decide)]

theorem untilBrace?_append {inside : List Char} (h : '\x7d' ∉ inside) (after : List Char) :
    untilBrace? (inside ++ '\x7d' :: after) = nonEmpty? inside := by
  rw [untilBrace?, Text.breakAt?_append_cons h]
  cases inside <;> rfl

theorem blockOf?_declared {as : List Artifact} {script : List Char} (h : Declares as script) :
    ∃ ls, blockOf? "dependencies".toList script = nonEmpty? (Text.joinWith ['\n'] ls) ∧ Lists as ls := by
  obtain ⟨before, gap, ls, after, rfl, hfirst, hgap, hls, hempty⟩ := h
  have hkey : Text.Unbordered "dependencies".toList := by decide
  have hinside : '\x7d' ∉ Text.joinWith ['\n'] ls := Text.not_mem_joinWith (by decide) (hls.not_mem (.inl rfl))
  refine ⟨ls, ?_, hls⟩
  rw [blockOf?_eq, Text.readAfter?_append hkey hfirst, Text.readAfter?_key hkey (by decide), blockStart?_gap hgap]
  · exact untilBrace?_append hinside after
  · by_cases hnil : Text.joinWith ['\n'] ls = []
    · right
      intro hlater
      rw [hnil, List.nil_append, List.append_cons, List.append_cons] at hlater
      have hbetween : 'd' ∉ gap ++ ['\x7b'] ++ ['\x7d'] := by simp [hgap.not_mem (c := 'd') (by decide)]
      exact hempty hnil (Text.infix_of_infix_append hbetween hlater)
    · left
      rw [blockStart?_gap hgap, Option.bind_some, untilBrace?_append hinside]
      simp [nonEmpty?, hnil]

/-- A script that declares artifacts still does when it is read back from a file. -/
theorem Declares.uniformLines {as : List Artifact} {script : List Char} (h : Declares as script) :
    Declares as (Text.uniformLines script) := by
  obtain ⟨before, gap, ls, after, rfl, hfirst, hgap, hls, hempty⟩ := h
  have hkey : Text.OneLine "dependencies".toList := by decide
  have hreturn : '\r' ∉ Text.joinWith ['\n'] ls := Text.not_mem_joinWith (by decide) (hls.not_mem (.inr (.inr rfl)))
  refine ⟨Text.uniformLines before, Text.uniformLines gap, ls, Text.uniformLines after, ?_, ?_, hgap.uniformLines, hls, ?_⟩
  · rw [Text.uniformLines_around hkey (by decide), Text.uniformLines_append gap (by simp), Text.uniformLines_cons (by decide),
      Text.uniformLines_append_of_not_mem hreturn, Text.uniformLines_cons (by decide)]
  · rwa [Text.infix_uniformLines_iff hkey]
  · rwa [Text.infix_uniformLines_iff hkey]

theorem ofBlock_declared (source : String) {as : List Artifact} {script : List Char} (h : Declares as script) :
    ofBlock source (String.ofList (Text.uniformLines script)) = as.map (Artifact.dependency source) := by
  obtain ⟨ls, hblock, hls⟩ := blockOf?_declared h.uniformLines
  have hlines : (Text.cutAt '\n' (Text.joinWith ['\n'] ls)).filterMap (onLine? source) = as.map (Artifact.dependency source) := by
    rw [Text.filterMap_cutAt_joinWith rfl (hls.not_mem (.inr (.inl rfl))), filterMap_onLine? source hls]
  rw [ofBlock, String.toList_ofList (l := Text.uniformLines script), hblock, ← hlines]
  -- a block with nothing in it is not found, and has one empty line
  cases Text.joinWith ['\n'] ls <;> rfl

/-- Artifacts that a build script declares, one to a line, are the dependencies of a directory without a project
description, in order. -/
theorem declared_artifacts_read_back (d : Disk) (path script : String) (as : List Artifact)
    (hscript : Declares as script.toList)
    (hread : d.read (Path.join (Path.folder path) "build.gradle") = .ok (.text script))
    (hmissing : d.has (Path.join (Path.folder path) "pom.xml") = false) :
    d.dependencies path "java" = as.map (Artifact.dependency "build.gradle") := by
  have hdescription := @Manifest.dependenciesIn_of_missing d (Path.folder path) Manifest.description hmissing
  have hbuild := @Manifest.dependenciesIn_of_read d (Path.folder path) _ Manifest.buildScript hread
  rw [Manifest.dependencies_java, hdescription, hbuild, List.nil_append]
  dsimp only [Manifest.buildScript]
  exact ofBlock_declared "build.gradle" hscript

namespace ServiceBuild

def library : Artifact where
  group := "org.ow2".toList
  artifact := "asm [x]".toList
  version := "9.+".toList
  group_isPart := by constructor <;> simp [InLine, Text.OneLine, Requirement.isQuote]
  artifact_isPart := by constructor <;> simp [InLine, Text.OneLine, Requirement.isQuote]
  version_isPart := by constructor <;> simp [InLine, Text.OneLine, Requirement.isQuote]

def tests : Artifact where
  group := "junit".toList
  artifact := "junit".toList
  version := "4.13".toList
  group_isPart := by constructor <;> simp [InLine, Text.OneLine, Requirement.isQuote]
  artifact_isPart := by constructor <;> simp [InLine, Text.OneLine, Requirement.isQuote]
  version_isPart := by constructor <;> simp [InLine, Text.OneLine, Requirement.isQuote]

/-- A line for each artifact, with either kind of quotes, between two lines without any. -/
def lines : List (List Char) :=
  [[], "  api ".toList ++ '"' :: (library.text ++ ['"']), "  test ".toList ++ '\'' :: (tests.text ++ '\'' :: " // a:b".toList), []]

def script : String :=
  String.ofList ("// build\r\n".toList ++ ("dependencies".toList ++
    ([' '] ++ '\x7b' :: (Text.joinWith ['\n'] lines ++ '\x7d' :: ['\n']))))

def disk : Disk := ⟨[(["build.gradle"], .file (.text script) none)]⟩

theorem script_declares : Declares [library, tests] script.toList := by
  have hend : Lists [] [[]] := .other (by simp) (by decide) .nil
  have hrest := @Lists.artifact tests [] _ "  test ".toList " // a:b".toList '\'' (by simp [Requirement.isQuote]) rfl
    (by decide) hend
  have hlines := @Lists.artifact library _ _ "  api ".toList [] '"' (by simp [Requirement.isQuote]) rfl (by decide) hrest
  have hall : Lists [library, tests] lines := .other (by simp) (by decide) hlines
  exact ⟨"// build\r\n".toList, [' '], lines, ['\n'], String.toList_ofList, by decide, by decide, hall, fun _ => by decide⟩

theorem build_script_read_back :
    disk.dependencies "/Main.java" "java" =
      [⟨"org.ow2:asm [x]", "9.+", none, "build.gradle"⟩, ⟨"junit:junit", "4.13", none, "build.gradle"⟩] :=
  declared_artifacts_read_back disk "/Main.java" script [library, tests] script_declares rfl rfl

end ServiceBuild
end ThreatScan.Coordinates
