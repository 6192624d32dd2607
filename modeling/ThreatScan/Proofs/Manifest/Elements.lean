import ThreatScan.Proofs.Manifest.Requirements
import ThreatScan.Proofs.Text.Cut
/-!
Dependencies that a project description lists.

A block of a description has a group, an artifact and possibly a version, in this order, and between them whatever holds none
of the marks that the reader goes by (`Block.Begins`, `Block.Ends`). The reader looks for each mark behind the one before it,
and does not stop at the end of a block. So a block without a version is read on into the next block that has one: its name
is taken together with that version, and the names between them are lost. What is read is known for every list of blocks
(`paired`, `ofElements_described`). It is what the blocks declare if no block without a version comes before one with a version
(`paired_eq_of_versionsFirst`), and if the names differ, only then (`versionsFirst_of_paired_eq`).
-/
namespace ThreatScan.Coordinates

open Text (breakAt? trimList)

def marks : List String :=
  ["<dependency>", "<groupId>", "</groupId>", "<artifactId>", "</artifactId>", "<version>", "</version>", "</dependency>"]

def Unmarked (s : List Char) : Prop := ∀ m ∈ marks, ¬ m.toList <:+: s

instance (s : List Char) : Decidable (Unmarked s) := inferInstanceAs (Decidable (∀ m ∈ marks, ¬ m.toList <:+: s))

structure Block where
  group : List Char
  artifact : List Char
  version : Option (List Char)
  group_text : '<' ∉ group
  artifact_text : '<' ∉ artifact
  version_text : ∀ v ∈ version, '<' ∉ v

namespace Block

def name (b : Block) : String := String.ofList (trimList b.group ++ ':' :: trimList b.artifact)

def dependency? (source : String) (b : Block) : Option Dependency :=
  b.version.map fun v => ⟨b.name, String.ofList (trimList v), none, source⟩

def Begins (b : Block) (s : List Char) : Prop :=
  ∃ gap gap' gap'', s = "<dependency>".toList ++ (gap ++ ("<groupId>".toList ++ (b.group ++ ("</groupId>".toList ++
    (gap' ++ ("<artifactId>".toList ++ (b.artifact ++ ("</artifactId>".toList ++ gap'')))))))) ∧
    Unmarked gap ∧ Unmarked gap' ∧ Unmarked gap''

/-- The text of a block from its version on, or without one. -/
inductive Ends : Option (List Char) → List Char → Prop
  | bare : Ends none "</dependency>".toList
  | versioned {v gap : List Char} (hgap : Unmarked gap) :
      Ends (some v) ("<version>".toList ++ (v ++ ("</version>".toList ++ (gap ++ "</dependency>".toList))))

end Block

/-- The blocks one after the other, with something unmarked behind each of them. -/
inductive Blocks : List Block → List Char → Prop
  | nil : Blocks [] []
  | cons {b : Block} {bs : List Block} {front ending gap rest : List Char} (hfront : b.Begins front)
      (hending : Block.Ends b.version ending) (hgap : Unmarked gap) (hrest : Blocks bs rest) :
      Blocks (b :: bs) (front ++ (ending ++ (gap ++ rest)))

/-- The description consists of the blocks, and of a head in front of them. -/
def Describes (bs : List Block) (s : List Char) : Prop :=
  ∃ head rest, s = head ++ rest ∧ ¬ "<dependency>".toList <:+: head ∧ Blocks bs rest

/-- What is read of blocks. `name` is one that was read and still lacks a version. -/
def paired (source : String) : Option String → List Block → List Dependency
  | _, [] => []
  | name, b :: rest =>
    match b.version with
    | some v => ⟨name.getD b.name, String.ofList (trimList v), none, source⟩ :: paired source none rest
    | none => paired source (some (name.getD b.name)) rest

/-! ## Marks -/

section Marks
variable {m m' : String} {a b s : List Char}

theorem unbordered_of_mem_marks : ∀ m ∈ marks, Text.Unbordered m.toList ∧ m.toList ≠ [] := by decide

/-- Every mark begins with a bracket, and has no other of its kind. -/
theorem exists_of_mem_marks (hm : m ∈ marks) : ∃ x, m.toList = '<' :: x ∧ '<' ∉ x := by
  have hall : ∀ m ∈ marks, m.toList = '<' :: m.toList.tail ∧ '<' ∉ m.toList.tail := by decide
  exact ⟨m.toList.tail, hall m hm⟩

theorem not_isPrefix_of_ne : ∀ m ∈ marks, ∀ m' ∈ marks, m ≠ m' → ¬ m.toList <+: m'.toList := by decide

theorem head?_mark_append (hm : m ∈ marks) (s : List Char) : ∀ c ∈ (m.toList ++ s).head?, c = '<' := by
  obtain ⟨x, hx, -⟩ := exists_of_mem_marks hm
  rw [hx]
  exact fun c hc => (Option.some.inj hc).symm

theorem not_isInfix_text (hm : m ∈ marks) (hs : '<' ∉ s) : ¬ m.toList <:+: s := by
  obtain ⟨x, hx, -⟩ := exists_of_mem_marks hm
  intro h
  exact hs (h.subset (by rw [hx]; exact List.mem_cons_self))

theorem not_isInfix_append (hm : m ∈ marks) (ha : ¬ m.toList <:+: a) (hb : ¬ m.toList <:+: b)
    (hhead : ∀ c ∈ b.head?, c = '<') : ¬ m.toList <:+: a ++ b := by
  obtain ⟨x, hx, hnot⟩ := exists_of_mem_marks hm
  rw [hx] at ha hb ⊢
  intro h
  exact (Text.infix_append_of_head hnot hhead h).elim ha hb

/-- One mark does not run over into another. -/
theorem not_isInfix_mark_append (hm : m ∈ marks) (hm' : m' ∈ marks) (hne : m ≠ m') (hs : ¬ m.toList <:+: s) :
    ¬ m.toList <:+: m'.toList ++ s := by
  have hstart : ¬ m.toList <+: m'.toList ++ s := by
    intro h
    rcases List.prefix_or_prefix_of_prefix h (List.prefix_append m'.toList s) with h | h
    · exact not_isPrefix_of_ne m hm m' hm' hne h
    · exact not_isPrefix_of_ne m' hm' m hm hne.symm h
  obtain ⟨x, hx, -⟩ := exists_of_mem_marks hm
  obtain ⟨y, hy, hnot⟩ := exists_of_mem_marks hm'
  rw [hx, hy, List.cons_append] at hstart
  rw [hx] at hs
  rw [hx, hy, List.cons_append, List.infix_cons_iff, not_or]
  exact ⟨hstart, fun h => hs (Text.infix_of_infix_append hnot h)⟩

theorem breakAt?_mark (hm : m ∈ marks) (hfirst : ¬ m.toList <:+: a) (s : List Char) :
    breakAt? m.toList (a ++ (m.toList ++ s)) = some (a, s) :=
  Text.breakAt?_append (unbordered_of_mem_marks m hm).1 (unbordered_of_mem_marks m hm).2 hfirst s

theorem between?_marks {text : List Char} (hm : m ∈ marks) (hm' : m' ∈ marks) (hfirst : ¬ m.toList <:+: a) (htext : '<' ∉ text)
    (s : List Char) : between? m m' (a ++ (m.toList ++ (text ++ (m'.toList ++ s)))) = some (text, s) := by
  unfold between?
  rw [breakAt?_mark hm hfirst]
  exact breakAt?_mark hm' (not_isInfix_text hm' htext) s

end Marks

/-! ## The two halves of a dependency -/

def opening? (s : List Char) : Option (String × List Char) := do
  let (_, s) ← breakAt? "<dependency>".toList s
  let (group, s) ← between? "<groupId>" "</groupId>" s
  let (artifact, s) ← between? "<artifactId>" "</artifactId>" s
  some (String.ofList (trimList group ++ ':' :: trimList artifact), s)

def closing? (s : List Char) : Option (String × List Char) := do
  let (version, s) ← between? "<version>" "</version>" s
  let (_, s) ← breakAt? "</dependency>".toList s
  some (String.ofList (trimList version), s)

theorem nextElement?_eq (source : String) (s : List Char) :
    nextElement? source s =
      (opening? s).bind fun x => (closing? x.2).map fun y => (⟨x.1, y.1, none, source⟩, y.2) := by
  simp only [nextElement?, opening?, closing?, bind, Option.bind_assoc, Option.map_bind, Option.bind_some, Function.comp_def,
    Option.map_some]

def resume (source name : String) (fuel : Nat) (s : List Char) : List Dependency :=
  match closing? s with
  | some (version, rest) => ⟨name, version, none, source⟩ :: elements source fuel rest
  | none => []

variable {source name : String} {fuel : Nat} {b : Block} {bs : List Block} {front before rest s : List Char}

theorem elements_of_opening {x : String × List Char} (h : opening? s = some x) :
    elements source (fuel + 1) s = resume source x.1 fuel x.2 := by
  rw [elements, nextElement?_eq, h, Option.bind_some, resume]
  cases closing? x.2 <;> rfl

theorem elements_of_not_isInfix (h : ¬ "<dependency>".toList <:+: s) : elements source fuel s = [] := by
  cases fuel with
  | zero => rfl
  | succ fuel =>
    have hnext : nextElement? source s = none := by
      rw [nextElement?, Text.breakAt?_of_not_isInfix h]
      rfl
    rw [elements, hnext]

theorem closing?_of_not_isInfix (h : ¬ "<version>".toList <:+: s) : closing? s = none := by
  rw [closing?, between?, Text.breakAt?_of_not_isInfix h]
  rfl

theorem closing?_version {v gap : List Char} (hbefore : ¬ "<version>".toList <:+: before) (hv : '<' ∉ v) (hgap : Unmarked gap)
    (s : List Char) :
    closing? (before ++ ("<version>".toList ++ (v ++ ("</version>".toList ++ (gap ++ ("</dependency>".toList ++ s)))))) =
      some (String.ofList (trimList v), s) := by
  have hend : "</dependency>" ∈ marks := by decide
  rw [closing?, between?_marks (by decide) (by decide) hbefore hv]
  dsimp only [bind, Option.bind_some]
  rw [breakAt?_mark hend (hgap _ hend)]
  rfl

theorem opening?_front (hfront : b.Begins front) (hbefore : ¬ "<dependency>".toList <:+: before) (s : List Char) :
    ∃ gap, Unmarked gap ∧ gap.length < front.length ∧ opening? (before ++ (front ++ s)) = some (b.name, gap ++ s) := by
  obtain ⟨gap, gap', gap'', rfl, hgap, hgap', hgap''⟩ := hfront
  have hmark : 0 < "<dependency>".toList.length := by decide
  refine ⟨gap'', hgap'', by simp only [List.length_append]; omega, ?_⟩
  simp only [List.append_assoc]
  rw [opening?, breakAt?_mark (by decide) hbefore]
  dsimp only [bind, Option.bind_some]
  rw [between?_marks (by decide) (by decide) (hgap _ (by decide)) b.group_text]
  dsimp only [Option.bind_some]
  rw [between?_marks (by decide) (by decide) (hgap' _ (by decide)) b.artifact_text]
  rfl

/-- The text of a block up to its version holds no mark of a version. -/
theorem not_isInfix_front (hfront : b.Begins front) : ¬ "<version>".toList <:+: front := by
  have hm : "<version>" ∈ marks := by decide
  have hstep : ∀ {m' : String} {s : List Char}, m' ∈ marks → "<version>" ≠ m' → ¬ "<version>".toList <:+: s →
      ∀ {a : List Char}, ¬ "<version>".toList <:+: a → ¬ "<version>".toList <:+: a ++ (m'.toList ++ s) :=
    fun hm' hne hs _ ha => not_isInfix_append hm ha (not_isInfix_mark_append hm hm' hne hs) (head?_mark_append hm' _)
  obtain ⟨gap, gap', gap'', rfl, hgap, hgap', hgap''⟩ := hfront
  refine not_isInfix_mark_append hm (by decide) (by decide) ?_
  refine hstep (by decide) (by decide) ?_ (hgap _ hm)
  refine hstep (by decide) (by decide) ?_ (not_isInfix_text hm b.group_text)
  refine hstep (by decide) (by decide) ?_ (hgap' _ hm)
  exact hstep (by decide) (by decide) (hgap'' _ hm) (not_isInfix_text hm b.artifact_text)

theorem head?_front (hfront : b.Begins front) (s : List Char) : ∀ c ∈ (front ++ s).head?, c = '<' := by
  obtain ⟨gap, gap', gap'', rfl, -⟩ := hfront
  rw [List.append_assoc]
  exact head?_mark_append (by decide) _

/-! ## All blocks -/

/-- What is read of the blocks in `rest`, by a reader that looks for a block and by one that looks for a version. -/
structure ReadAs (source : String) (bs : List Block) (rest : List Char) : Prop where
  elements_eq : ∀ {before fuel}, ¬ "<dependency>".toList <:+: before → (before ++ rest).length ≤ fuel →
    elements source fuel (before ++ rest) = paired source none bs
  resume_eq : ∀ {before fuel} (name : String), ¬ "<version>".toList <:+: before → (before ++ rest).length ≤ fuel →
    resume source name fuel (before ++ rest) = paired source (some name) bs

theorem readAs_nil : ReadAs source [] [] where
  elements_eq hbefore _ := by
    rw [List.append_nil, elements_of_not_isInfix hbefore]
    rfl
  resume_eq name hbefore _ := by
    rw [List.append_nil, resume, closing?_of_not_isInfix hbefore]
    rfl

/-- A name is taken together with the version of the block, or with one behind it. -/
theorem ReadAs.resume_ending {ending gap : List Char} (h : ReadAs source bs rest) (hending : Block.Ends b.version ending)
    (hgap : Unmarked gap) (hbefore : ¬ "<version>".toList <:+: before)
    (hfuel : (before ++ (ending ++ (gap ++ rest))).length ≤ fuel) :
    resume source name fuel (before ++ (ending ++ (gap ++ rest))) = paired source (some name) (b :: bs) := by
  have hv := b.version_text
  rw [paired]
  generalize b.version = version at hending hv
  cases hending with
  | bare =>
    have hversion : "<version>" ∈ marks := by decide
    have hend : ¬ "<version>".toList <:+: "</dependency>".toList ++ gap :=
      not_isInfix_mark_append hversion (by decide) (by decide) (hgap _ hversion)
    have hbefore' := not_isInfix_append hversion hbefore hend (head?_mark_append (by decide) _)
    rw [← List.append_assoc _ gap rest, ← List.append_assoc before] at hfuel ⊢
    exact h.resume_eq name hbefore' hfuel
  | @versioned v gap' hgap' =>
    have hlength : (gap ++ rest).length ≤ fuel := by
      simp only [List.length_append] at hfuel ⊢
      omega
    simp only [List.append_assoc]
    rw [resume, closing?_version hbefore (hv v rfl) hgap']
    dsimp only
    rw [h.elements_eq (hgap _ (by decide)) hlength]
    rfl

theorem ReadAs.cons {ending gap : List Char} (h : ReadAs source bs rest) (hfront : b.Begins front)
    (hending : Block.Ends b.version ending) (hgap : Unmarked gap) :
    ReadAs source (b :: bs) (front ++ (ending ++ (gap ++ rest))) where
  elements_eq := by
    intro before fuel hbefore hfuel
    obtain ⟨gap', hgap', hshort, hopening⟩ := opening?_front hfront hbefore (ending ++ (gap ++ rest))
    rw [← List.append_assoc, List.length_append, List.length_append] at hfuel
    obtain ⟨fuel, rfl⟩ := Nat.exists_eq_add_one_of_ne_zero (n := fuel) (by omega)
    have hfuel' : (gap' ++ (ending ++ (gap ++ rest))).length ≤ fuel := by
      rw [List.length_append]
      omega
    rw [elements_of_opening hopening, h.resume_ending hending hgap (hgap' _ (by decide)) hfuel', paired, paired]
    rfl
  resume_eq := by
    intro before fuel name hbefore hfuel
    have hfirst := not_isInfix_append (by decide) hbefore (not_isInfix_front hfront)
      (by simpa using head?_front hfront [])
    rw [← List.append_assoc] at hfuel ⊢
    exact h.resume_ending hending hgap hfirst hfuel

theorem Blocks.readAs (source : String) (h : Blocks bs rest) : ReadAs source bs rest := by
  induction h with
  | nil => exact readAs_nil
  | cons hfront hending hgap _ ih => exact ih.cons hfront hending hgap

theorem ofElements_described {text : String} (h : Describes bs text.toList) : ofElements source text = paired source none bs := by
  obtain ⟨head, rest, htext, hhead, hrest⟩ := h
  rw [ofElements, htext]
  exact (hrest.readAs source).elements_eq hhead (Nat.le_refl _)

theorem dependencies_described {d : Disk} {path script : String} (hscript : Describes bs (Text.uniformLines script.toList))
    (hread : d.read (Path.join (Path.folder path) "pom.xml") = .ok (.text script))
    (hmissing : d.has (Path.join (Path.folder path) "build.gradle") = false) :
    d.dependencies path "java" = paired "pom.xml" none bs := by
  have hdescription := @Manifest.dependenciesIn_of_read d (Path.folder path) _ Manifest.description hread
  have hbuild := @Manifest.dependenciesIn_of_missing d (Path.folder path) Manifest.buildScript hmissing
  rw [Manifest.dependencies_java, hdescription, hbuild, List.append_nil]
  dsimp only [Manifest.description]
  exact ofElements_described (by rwa [String.toList_ofList])

/-! ## Blocks without a version -/

def VersionsFirst (bs : List Block) : Prop := bs.Pairwise fun b c => b.version = none → c.version = none

theorem paired_eq_nil {name : Option String} (h : ∀ b ∈ bs, b.version = none) : paired source name bs = [] := by
  induction bs generalizing name with
  | nil => rfl
  | cons b bs ih =>
    rw [paired, h b List.mem_cons_self]
    exact ih fun c hc => h c (List.mem_cons_of_mem b hc)

theorem filterMap_dependency?_eq_nil (h : ∀ b ∈ bs, b.version = none) : bs.filterMap (Block.dependency? source) = [] := by
  refine List.filterMap_eq_nil_iff.mpr fun b hb => ?_
  rw [Block.dependency?, h b hb]
  rfl

theorem paired_eq_of_versionsFirst (h : VersionsFirst bs) : paired source none bs = bs.filterMap (Block.dependency? source) := by
  induction bs with
  | nil => rfl
  | cons b bs ih =>
    obtain ⟨hfirst, hrest⟩ := List.pairwise_cons.mp h
    rw [paired, List.filterMap_cons, Block.dependency?]
    cases hv : b.version with
    | none =>
      have hnone : ∀ c ∈ bs, c.version = none := fun c hc => hfirst c hc hv
      exact (paired_eq_nil hnone).trans (filterMap_dependency?_eq_nil hnone).symm
    | some v => exact congrArg (_ :: ·) (ih hrest)

/-- A name that no block has goes with none of the versions. -/
theorem version_eq_none_of_paired_eq (hname : ∀ b ∈ bs, b.name ≠ name)
    (h : paired source (some name) bs = bs.filterMap (Block.dependency? source)) : ∀ b ∈ bs, b.version = none := by
  induction bs with
  | nil => exact fun _ hb => absurd hb List.not_mem_nil
  | cons b bs ih =>
    rw [paired, List.filterMap_cons, Block.dependency?] at h
    cases hv : b.version with
    | none =>
      rw [hv] at h
      exact List.forall_mem_cons.mpr ⟨hv, ih (fun c hc => hname c (List.mem_cons_of_mem b hc)) h⟩
    | some v =>
      rw [hv] at h
      have hsame : name = b.name := congrArg Dependency.name (List.cons.inj h).1
      exact absurd hsame.symm (hname b List.mem_cons_self)

theorem versionsFirst_of_paired_eq (hnodup : (bs.map Block.name).Nodup)
    (h : paired source none bs = bs.filterMap (Block.dependency? source)) : VersionsFirst bs := by
  induction bs with
  | nil => exact List.Pairwise.nil
  | cons b bs ih =>
    rw [List.map_cons, List.nodup_cons] at hnodup
    rw [paired, List.filterMap_cons, Block.dependency?] at h
    cases hv : b.version with
    | none =>
      rw [hv] at h
      have hothers : ∀ c ∈ bs, c.name ≠ b.name := fun c hc hsame => hnodup.1 (List.mem_map.mpr ⟨c, hc, hsame⟩)
      have hnone := version_eq_none_of_paired_eq hothers h
      have hrest : VersionsFirst bs := ih hnodup.2 (by rw [paired_eq_nil hnone, filterMap_dependency?_eq_nil hnone])
      exact List.pairwise_cons.mpr ⟨fun c hc _ => hnone c hc, hrest⟩
    | some v =>
      rw [hv] at h
      exact List.pairwise_cons.mpr ⟨fun c _ hb => absurd (hv.symm.trans hb) (Option.some_ne_none v), ih hnodup.2 (List.cons.inj h).2⟩

/-- What is read of the blocks of a project description: a name goes with the next version, in its own block or in a later
one. So blocks are read as they declare if no block without a version comes before one with a version, and only then if
their names differ. -/
theorem described_blocks_paired (d : Disk) (path script : String) (bs : List Block)
    (hscript : Describes bs (Text.uniformLines script.toList))
    (hread : d.read (Path.join (Path.folder path) "pom.xml") = .ok (.text script))
    (hmissing : d.has (Path.join (Path.folder path) "build.gradle") = false) :
    d.dependencies path "java" = paired "pom.xml" none bs ∧
      (VersionsFirst bs → d.dependencies path "java" = bs.filterMap (Block.dependency? "pom.xml")) ∧
      ((bs.map Block.name).Nodup → d.dependencies path "java" = bs.filterMap (Block.dependency? "pom.xml") →
        VersionsFirst bs) := by
  have hpaired := dependencies_described hscript hread hmissing
  rw [hpaired]
  exact ⟨rfl, paired_eq_of_versionsFirst, versionsFirst_of_paired_eq⟩

namespace Shop

def lead (b : Block) : List Char :=
  "<dependency>".toList ++ ("\n  ".toList ++ ("<groupId>".toList ++ (b.group ++ ("</groupId>".toList ++
    ("\n  ".toList ++ ("<artifactId>".toList ++ (b.artifact ++ ("</artifactId>".toList ++ "\n".toList))))))))

def ending : Option (List Char) → List Char
  | none => "</dependency>".toList
  | some v => "<version>".toList ++ (v ++ ("</version>".toList ++ ("<scope/>".toList ++ "</dependency>".toList)))

def written : List Block → List Char
  | [] => []
  | b :: bs => lead b ++ (ending b.version ++ ("\n".toList ++ written bs))

theorem blocks_written (bs : List Block) : Blocks bs (written bs) := by
  induction bs with
  | nil => exact .nil
  | cons b bs ih =>
    have hending : ∀ version, Block.Ends version (ending version) := fun version =>
      match version with
      | none => .bare
      | some v => .versioned (by decide)
    exact .cons ⟨_, _, _, rfl, by decide, by decide, by decide⟩ (hending b.version) (by decide) ih

def script (bs : List Block) : String := String.ofList ("<project>\n".toList ++ written bs)

def disk (bs : List Block) : Disk := ⟨[(["pom.xml"], .file (.text (script bs)) none)]⟩

theorem describes_script {bs : List Block} (h : '\r' ∉ written bs) : Describes bs (Text.uniformLines (script bs).toList) := by
  have hline : '\r' ∉ "<project>\n".toList ++ written bs := List.not_mem_append (by decide) h
  have htext : (script bs).toList = "<project>\n".toList ++ written bs := String.toList_ofList
  rw [htext, Text.uniformLines_of_not_mem hline]
  exact ⟨_, _, rfl, by decide, blocks_written bs⟩

def logging : Block where
  group := " org.slf4j".toList
  artifact := "slf4j-api".toList
  version := some "2.0.9".toList
  group_text := by decide
  artifact_text := by decide
  version_text := by decide

/-- A block whose version is declared elsewhere. -/
def tests : Block where
  group := "junit".toList
  artifact := "junit".toList
  version := none
  group_text := by decide
  artifact_text := by decide
  version_text := by decide

theorem description_of_shop_read_back :
    (disk [logging, tests]).dependencies "/Main.java" "java" = [⟨"org.slf4j:slf4j-api", "2.0.9", none, "pom.xml"⟩] := by
  have hscript : Describes [logging, tests] (Text.uniformLines (script [logging, tests]).toList) :=
    describes_script (by decide)
  have hfirst : VersionsFirst [logging, tests] := List.pairwise_pair.mpr fun _ => rfl
  exact (described_blocks_paired (disk [logging, tests]) "/Main.java" _ _ hscript rfl rfl).2.1 hfirst

theorem name_paired_with_later_version :
    Describes [tests, logging] (Text.uniformLines (script [tests, logging]).toList) ∧
    (disk [tests, logging]).dependencies "/Main.java" "java" = [⟨"junit:junit", "2.0.9", none, "pom.xml"⟩] ∧
    (disk [tests, logging]).dependencies "/Main.java" "java" ≠
      [tests, logging].filterMap (Block.dependency? "pom.xml") := by
  have hscript : Describes [tests, logging] (Text.uniformLines (script [tests, logging]).toList) :=
    describes_script (by decide)
  have hpaired : (disk [tests, logging]).dependencies "/Main.java" "java" = [⟨"junit:junit", "2.0.9", none, "pom.xml"⟩] :=
    dependencies_described hscript rfl rfl
  refine ⟨hscript, hpaired, ?_⟩
  rw [hpaired]
  decide

end Shop
end ThreatScan.Coordinates
