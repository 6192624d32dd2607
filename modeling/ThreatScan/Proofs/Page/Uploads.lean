import ThreatScan.Page.Home
import ThreatScan.Proofs.Analysis.Untouched
import ThreatScan.Proofs.Language
import ThreatScan.Proofs.Page.BatchDisplay
/-!
The analysis of an uploaded file.

The page keeps an upload under a temporary name (`uploadPath`), whose extension is that of Python whatever the upload is called,
and the language of the results is that of the temporary name. The results are in the session as soon as the analysis has
ended: what the page does after that only adds to what is shown (`OnlyAdds`) or to other places of the session (`Keeps`).
Before the analysis, the page reads the choices of the visitor and leaves them and the host as they are (`Yields`). Together,
a visit in which an upload with code is to be analysed comes to an end with results in the session, and these are of a Python
file (`exists_gives_home`).
-/
namespace ThreatScan.Page

/-! ## Showing results -/

section Shown

open OnlyAdds

theorem onlyAdds_readText (path : String) : OnlyAdds (onHost (Host.readText path)) := by
  intro v
  refine ⟨[], ?_⟩
  have hread : ((Host.readText path).outcome v.host).2 = v.host := by
    have hrun : (Host.readText path).outcome v.host =
        (Act.check Host.textError (v.host.disk.readText path)).outcome v.host := rfl
    rw [hrun]
    cases v.host.disk.readText path <;> rfl
  rw [outcome_onHost, hread, v.adding_nil]

theorem onlyAdds_remembered (name : String) : OnlyAdds (remembered name) := by
  refine .bind' (.bind' .get' fun v => .pure' _) fun o => ?_
  split
  · exact .pure' _
  · exact .fail _

theorem onlyAdds_showRisk (risk : Value) : OnlyAdds (showRisk risk) := by
  refine .bind' (.valid _) fun score => .bind' (.valid _) fun level => .bind' (.valid _) fun count => ?_
  refine .bind' (.record _) fun _ => .bind' (.record _) fun _ => .bind' (.record _) fun _ => ?_
  refine .bind' (.within _ (.record _)) fun _ => .bind' (.within _ ?_) fun _ => .within _ (.record _)
  exact .bind' (.valid _) fun word => .record _

theorem onlyAdds_showBreakdown (risk : Value) : OnlyAdds (showBreakdown risk) := by
  refine .bind' (.valid _) fun breakdown => .bind' (.record _) fun _ => .bind' (.record _) fun _ => ?_
  refine .bind' (.valid _) fun _ => .bind' (.record _) fun _ => .bind' (.valid _) fun _ => .bind' (.record _) fun _ => ?_
  exact .bind' (.valid _) fun _ => .bind' (.record _) fun _ => .bind' (.valid _) fun _ => .record _

theorem onlyAdds_sourceOf (file : Value) : OnlyAdds (sourceOf file) := by
  refine .bind' (.valid _) fun path => ?_
  split
  · next p =>
    refine .bind' .get' fun v => .ite' ?_ (onlyAdds_remembered _)
    refine .bind' (.attempt (onlyAdds_lenientText p)) fun source => ?_
    split
    · exact .pure' _
    · exact onlyAdds_remembered _
  · exact onlyAdds_remembered _

theorem onlyAdds_showThreat (number : Nat) (threat : Value) : OnlyAdds (showThreat number threat) := by
  have hevidence : OnlyAdds (showEvidence threat) := by
    refine .bind' (.valid _) fun evidence => .ite' ?_ (.pure' ())
    refine .bind' (.valid _) fun count => .expander _ (.bind' (.valid _) fun items => ?_)
    exact .forM (fun item => .record _) items
  refine .bind' (.valid _) fun kind => .bind' (.valid _) fun severity => .bind' (.valid _) fun word => ?_
  refine .bind' (.record _) fun _ => .bind' (.record _) fun _ => .bind' (.valid _) fun description => ?_
  exact .bind' (.record _) fun _ => .bind' (.valid _) fun lines => .bind' (.record _) fun _ => hevidence

theorem onlyAdds_showThreats (threats file : Value) : OnlyAdds (showThreats threats file) := by
  have hfrom : ∀ (n : Nat) (ts : List Value), OnlyAdds (showThreatsFrom n ts) := by
    intro n ts
    induction ts generalizing n with
    | nil => exact .pure' ()
    | cons t rest ih => exact .bind' (onlyAdds_showThreat n t) fun _ => ih (n + 1)
  refine .ite' ?_ (.record _)
  refine .bind' (.record _) fun _ => .bind' (.record _) fun _ => .bind' (.valid _) fun items => ?_
  refine .bind' (.mapM (fun t => .valid _) items) fun rows => .bind' (.record _) fun _ => ?_
  refine .bind' (onlyAdds_sourceOf file) fun source => ?_
  refine .bind' (.expander _ (onlyAdds_showSnippets _ _ _ _)) fun _ => ?_
  exact .expander _ (.bind' (.valid _) fun items => hfrom 1 items)

theorem onlyAdds_showStatic (aggregated : Value) : OnlyAdds (showStatic aggregated) := by
  have hmatch : ∀ found, OnlyAdds (showMatch found) := fun found =>
    .bind' (.valid _) fun name => .bind' (.valid _) fun line => .record _
  refine .bind' (.valid _) fun static => .bind' (.valid _) fun found => .ite' ?_ (.pure' ())
  refine .bind' (.record _) fun _ => .expander _ ?_
  refine .bind' (.valid _) fun _ => .bind' (.record _) fun _ => .bind' (.valid _) fun _ => .bind' (.record _) fun _ => ?_
  refine .bind' (.valid _) fun _ => .bind' (.record _) fun _ => .bind' (.valid _) fun syntaxOk => ?_
  refine .bind' (.record _) fun _ => .bind' (.record _) fun _ => .bind' (.valid _) fun items => ?_
  exact .forM hmatch items

/-- A list under a heading that may be left out, and what comes after it. -/
theorem onlyAdds_list {c : Prop} [Decidable c] (heading : String) (items : Except Fault (List Value))
    {f : Value → Page Unit} {rest : Unit → Page Unit} (hf : ∀ v, OnlyAdds (f v)) (hrest : ∀ u, OnlyAdds (rest u)) :
    OnlyAdds (if c then markdown heading >>= fun _ => valid items >>= fun vs => vs.forM f >>= fun u => rest u
      else rest ()) :=
  .ite' (.bind' (.record _) fun _ => .bind' (.valid _) fun vs => .bind' (.forM hf vs) hrest) (hrest ())

theorem onlyAdds_showDynamic (aggregated : Value) : OnlyAdds (showDynamic aggregated) := by
  have hactivity : ∀ activity, OnlyAdds (showActivity activity) := fun activity =>
    .bind' (.valid _) fun kind => .bind' (.valid _) fun target => .record _
  have hrun : ∀ run, OnlyAdds (showFuzzRun run) := fun run =>
    .bind' (.valid _) fun _ => .bind' (.valid _) fun _ => .bind' (.valid _) fun _ => .bind' (.valid _) fun _ => .record _
  refine .bind' (.valid _) fun dynamic => .bind' (.valid _) fun any => .ite' ?_ (.pure' ())
  refine .bind' (.record _) fun _ => .expander _ ?_
  refine .bind' (.valid _) fun calls => .bind' (.valid _) fun networks => .bind' (.valid _) fun fuzzes => ?_
  refine .bind' (.record _) fun _ => .bind' (.valid _) fun _ => .bind' (.record _) fun _ => ?_
  refine .bind' (.valid _) fun _ => .bind' (.record _) fun _ => .bind' (.valid _) fun _ => .bind' (.record _) fun _ => ?_
  refine onlyAdds_list _ _ hactivity fun _ => onlyAdds_list _ _ (fun _ => .record _) fun _ => ?_
  exact .ite' (.bind' (.record _) fun _ => .bind' (.valid _) fun items => .forM hrun items) (.pure' ())

theorem onlyAdds_showReports (results : Value) : OnlyAdds (showReports results) := by
  have hoffer : ∀ reports format column label mime, OnlyAdds (offerReport reports format column label mime) := by
    intro reports format column label mime
    refine .bind' (.valid _) fun report => .ite' ?_ (.pure' ())
    exact .bind' (.valid _) fun p => .bind' (onlyAdds_readText p) fun text => .record _
  refine .bind' (.record _) fun _ => .bind' (.record _) fun _ => .bind' (.valid _) fun reports => ?_
  refine .bind' (.record _) fun _ => .bind' (hoffer _ _ _ _ _) fun _ => ?_
  exact .bind' (hoffer _ _ _ _ _) fun _ => hoffer _ _ _ _ _

/-- Whatever the results, showing them changes nothing but what is shown. -/
theorem onlyAdds_showResults (results file : Value) : OnlyAdds (showResults results file) := by
  refine .bind' (.valid _) fun risk => .bind' (.valid _) fun threats => .bind' (.valid _) fun aggregated => ?_
  refine .bind' (onlyAdds_showRisk risk) fun _ => .bind' (onlyAdds_showBreakdown risk) fun _ => ?_
  refine .bind' (onlyAdds_showThreats threats file) fun _ => .bind' (onlyAdds_showStatic aggregated) fun _ => ?_
  exact .bind' (onlyAdds_showDynamic aggregated) fun _ => onlyAdds_showReports results

end Shown

/-! ## What the page remembers -/

/-- The action leaves what is remembered under the name, whether it fails or not. -/
def Keeps {α : Type} (name : String) (x : Page α) : Prop :=
  ∀ v, Value.fieldOf? name (outcome x v).2.session = Value.fieldOf? name v.session

namespace Keeps

variable {α β : Type} {name : String}

theorem of_onlyAdds {x : Page α} (hx : OnlyAdds x) : Keeps name x := by
  intro v
  obtain ⟨more, hmore⟩ := hx v
  rw [hmore]
  rfl

theorem onHost (x : Act α) : Keeps name (onHost x) := fun _ => rfl

theorem remember {other : String} (hne : name ≠ other) (w : Value) : Keeps name (remember other w) := fun v =>
  Value.fieldOf?_setField_ne w v.session hne

theorem bind' {x : Page α} {f : α → Page β} (hx : Keeps name x) (hf : ∀ a, Keeps name (f a)) : Keeps name (x >>= f) := by
  intro v
  rw [outcome_bind, ← hx v]
  rcases outcome x v with ⟨e | a, v₁⟩
  · rfl
  · exact hf a v₁

end Keeps

theorem gives_call (name : String) (args : List Value) (named : List (String × Value)) (v : Visit) :
    Gives (call name args named) v () (v.adding [.call name args named]) := rfl

theorem gives_say (name text : String) (v : Visit) : Gives (say name text) v () (v.adding [.call name [.str text] []]) := rfl

theorem gives_remember (name : String) (w : Value) (v : Visit) :
    Gives (remember name w) v () { v with session := Value.setField name w v.session } := rfl

/-- What goes on while a notice is shown comes to the same as without the notice. -/
theorem gives_spinner {α : Type} {x : Act α} {v : Visit} {a : α} {h' : Host} (notice : String)
    (hx : Act.Gives x v.host a h') :
    ∃ more, Gives (spinner notice (onHost x)) v a (Visit.adding { v with host := h' } more) := by
  let opened := (v.adding [.call "spinner" [.str notice] []]).adding [.enter "spinner"]
  have hinside : Gives (onHost x) opened a { opened with host := h' } := gives_onHost hx
  refine ⟨[.call "spinner" [.str notice] []] ++ [.enter "spinner"] ++ [.leave "spinner"], ?_⟩
  refine gives_bind.mpr ⟨(), _, gives_say "spinner" notice v, ?_⟩
  rw [Gives, outcome_within, hinside, ← Visit.adding_adding, ← Visit.adding_adding]
  rfl

theorem outcome_of_gives {α β : Type} {x : Page α} {f : α → Page β} {v w : Visit} {a : α} (hx : Gives x v a w) :
    outcome (x >>= f) v = outcome (f a) w := by
  rw [outcome_bind, hx]

/-! ## The temporary file -/

def uploadName (n : Nat) : String := "tmp" ++ Text.padded 8 n ++ ".py"

def uploadPath (n : Nat) : String := Path.temp ++ "/" ++ uploadName n

theorem not_mem_uploadName (n : Nat) : '/' ∉ (uploadName n).toList := by
  have hdigits : '/' ∉ (Text.padded 8 n).toList := by
    intro h
    cases Text.isDigit_of_mem_padded h
  simp [uploadName, hdigits]

theorem splitExt_uploadName (n : Nat) : (Path.splitExt (uploadName n)).2 = ".py" := by
  have hparts : (uploadName n).toList = [] ++ ("tmp".toList ++ (Text.padded 8 n).toList ++ '.' :: ['p', 'y']) := by
    have hend : ".py".toList = '.' :: ['p', 'y'] := by decide
    rw [uploadName, String.toList_append, String.toList_append, hend, List.nil_append]
  have hslash := not_mem_uploadName n
  have hext : Path.HasExtension (uploadName n).toList ['p', 'y'] := by
    refine ⟨[], _, hparts, .inl rfl, ?_, ⟨'t', ?_, by decide⟩, by decide⟩
    · rwa [hparts] at hslash
    · exact List.mem_append_left _ (by decide)
  rw [← String.toList_inj, Path.splitExt_of_hasExtension hext]
  decide

/-- Whatever was uploaded, the file that it is kept in is taken for Python. -/
theorem detect_uploadPath (n : Nat) (d : Disk) : Language.detect d (uploadPath n) = "python" := by
  refine Language.detect_of_extension (e := (".py", "python")) (by decide) (.inr ⟨Path.temp, rfl⟩) ?_ d
  rw [splitExt_uploadName]
  decide

theorem pieces_uploadPath (n : Nat) : Path.pieces (uploadPath n) = Path.pieces Path.temp ++ [uploadName n] := by
  have hslash : (uploadPath n).toList = Path.temp.toList ++ '/' :: (uploadName n).toList := by
    rw [uploadPath, String.toList_append, String.toList_append, Path.slash_toList]
    simp
  rw [Path.pieces_eq, hslash, Text.cutAt_append_sep, Text.cutAt_of_not_mem (not_mem_uploadName n), Path.pieces_eq]
  simp

theorem pieces_temp : Path.pieces Path.temp = ["", "var", "lib", "threatscan", "temp"] := by decide

theorem tempPlace_eq : Disk.tempPlace = ["var", "lib", "threatscan", "temp"] := by decide

/-- The directory for temporary files can be walked to on every disk. -/
theorem walk_temp (d : Disk) : d.walk [] ["var", "lib", "threatscan", "temp"] = .ok Disk.tempPlace := by
  have hroots : ∀ l ∈ [[], ["var"], ["var", "lib"], ["var", "lib", "threatscan"]], l ∈ Disk.roots := by decide
  have hstep : ∀ {l k : Location} {name : String} {names : List String}, l ∈ Disk.roots → name.utf8ByteSize ≤ Disk.nameLimit →
      d.walk (Disk.descend l name) names = .ok k → d.walk l (name :: names) = .ok k := fun hl hname h =>
    Disk.walk_cons_eq_ok.mpr ⟨Disk.get?_root d hl, hname, h⟩
  rw [tempPlace_eq]
  refine hstep (hroots _ (by decide)) (by decide) (hstep (hroots _ (by decide)) (by decide) ?_)
  exact hstep (hroots _ (by decide)) (by decide) (hstep (hroots _ (by decide)) (by decide) rfl)

theorem uploadName_ne (n : Nat) : uploadName n ∉ ["", ".", ".."] := by
  intro h
  have hstart : "tmp".toList <+: (uploadName n).toList := by
    rw [uploadName, String.toList_append, String.toList_append, List.append_assoc]
    exact List.prefix_append _ _
  have hall : ∀ s ∈ ["", ".", ".."], ¬ "tmp".toList <+: s.toList := by decide
  exact hall _ h hstart

theorem descend_uploadName (l : Location) (n : Nat) : Disk.descend l (uploadName n) = l ++ [uploadName n] := by
  have hne := uploadName_ne n
  simp only [List.mem_cons, List.not_mem_nil, or_false, not_or] at hne
  simp [Disk.descend, hne]

theorem split_uploadPath (n : Nat) :
    Disk.split (uploadPath n) = ([], ["", "var", "lib", "threatscan", "temp", uploadName n]) := by
  have habsolute : Path.isAbsolute (uploadPath n) = true := by
    have htemp : "/".toList <+: Path.temp.toList := by decide
    rw [Path.isAbsolute, Text.startsWith, List.isPrefixOf_iff_prefix, uploadPath, String.toList_append, String.toList_append,
      List.append_assoc]
    exact htemp.trans (List.prefix_append _ _)
  rw [Disk.split, habsolute, pieces_uploadPath, pieces_temp]
  rfl

/-- Where the file goes, on every disk that takes it. -/
theorem locate_uploadPath {d : Disk} {n : Nat} {l : Location} (h : d.locate (uploadPath n) = .ok l) :
    l = Disk.tempPlace ++ [uploadName n] := by
  obtain ⟨-, -, -, hwalk⟩ := Disk.locate_eq_ok.mp h
  rw [split_uploadPath, pieces_uploadPath, pieces_temp] at hwalk
  obtain ⟨-, -, hwalk⟩ := Disk.walk_cons_eq_ok.mp hwalk
  have hwalk : d.walk [] (["var", "lib", "threatscan", "temp"] ++ [uploadName n]) = .ok l := hwalk
  obtain ⟨m, hm, hlast⟩ := Disk.walk_append_eq_ok.mp hwalk
  cases (walk_temp d).symm.trans hm
  obtain ⟨-, -, hend⟩ := Disk.walk_cons_eq_ok.mp hlast
  rw [descend_uploadName] at hend
  exact (Except.ok.inj hend).symm

theorem plant_uploadPath (d : Disk) (n : Nat) (e : Entry) :
    d.plant (uploadPath n) e = d.set (Disk.tempPlace ++ [uploadName n]) e := by
  have hnames : ["", "var", "lib", "threatscan", "temp", uploadName n].filter (fun s => !s.isEmpty && s != ".") =
      ["var", "lib", "threatscan", "temp"] ++ [uploadName n] := by
    have hne := uploadName_ne n
    simp only [List.mem_cons, List.not_mem_nil, or_false, not_or] at hne
    simp [hne]
  have halong := Disk.makeAlong_of_walk (walk_temp d) (Disk.get?_root d (by decide))
  rw [Disk.plant, split_uploadPath]
  dsimp only
  rw [hnames, List.dropLast_concat, halong, tempPlace_eq]
  rfl

/-! ## Keeping an upload -/

theorem entry?_plant_uploadPath {d : Disk} {n : Nat} {c : Content} (hr : d.read (uploadPath n) = .ok c) (e : Content)
    (denial : Option Denial) : Disk.entry? (d.plant (uploadPath n) (.file e denial)) (uploadPath n) = some (.file e denial) := by
  obtain ⟨hslash, l, hl, hfile⟩ := Disk.exists_of_read hr
  have hnot : d.get? l ≠ some .dir := by simp [hfile]
  rw [plant_uploadPath, ← locate_uploadPath hl]
  refine Disk.entry?_of_get? hslash (Disk.locate_set hnot hl) (Disk.get?_set_self d _ ?_)
  simpa using Disk.not_mem_roots_of_get? hnot

/-- Where the temporary file can be written, the text of an upload is kept there; the file may get locked. -/
theorem gives_keepUpload {u : Upload} {text : String} {v : Visit} (htext : u.text = .ok text)
    (ha : v.host.disk.Accepts (uploadPath (v.host.named + 1))) :
    ∃ v' denial, Gives (keepUpload u) v (uploadPath (v.host.named + 1)) v' ∧ v'.session = v.session ∧
      v'.host.disk.entry? (uploadPath (v.host.named + 1)) = some (.file (.text text) denial) := by
  generalize hpath : uploadPath (v.host.named + 1) = path at ha ⊢
  have htarget : Path.temp ++ "/tmp" ++ Text.padded 8 (v.host.named + 1) ++ ".py" = path := by
    rw [← hpath, ← String.toList_inj]
    simp [uploadPath, uploadName]
  obtain ⟨d₁, hd₁⟩ := ha.exists_write (.text "")
  obtain ⟨d₂, hd₂⟩ := (ha.of_write hd₁).exists_write (.text text)
  have hread : d₂.read path = .ok (.text text) := Disk.read_write hd₂
  let h₁ : Host := { v.host with named := v.host.named + 1 }
  let written : Visit := { v with host := { h₁ with disk := d₂ } }
  -- it is made empty, then written, and then locked, if it is one to be locked
  have hkept : ∀ v', Gives (lock path) written () v' → Gives (keepUpload u) v path v' := by
    intro v' hlock
    refine gives_bind.mpr ⟨_, { v with host := h₁ }, gives_onHost (Act.gives_always.mpr rfl), ?_⟩
    dsimp only
    rw [htarget]
    refine gives_bind.mpr ⟨(), { v with host := { h₁ with disk := d₁ } }, gives_onHost ?_, ?_⟩
    · exact Act.gives_onDisk.mpr ⟨d₁, hd₁, rfl⟩
    · rw [htext]
      refine gives_bind.mpr ⟨(), written, gives_onHost ?_, gives_bind.mpr ⟨(), v', hlock, rfl⟩⟩
      exact Act.gives_onDisk.mpr ⟨d₂, hd₂, rfl⟩
  cases hlocked : v.locked path with
  | none =>
    refine ⟨written, none, hkept _ (gives_bind.mpr ⟨written, written, rfl, ?_⟩), rfl, Disk.entry?_of_read hread⟩
    have hfree : written.locked path = none := hlocked
    rw [hfree]
    rfl
  | some denial =>
    refine ⟨{ written with host := { h₁ with disk := d₂.plant path (.file (.text text) (some denial)) } }, some denial,
      hkept _ (gives_bind.mpr ⟨written, written, rfl, ?_⟩), rfl, ?_⟩
    · have hlock : written.locked path = some denial := hlocked
      have hread : written.host.disk.read path = .ok (.text text) := hread
      rw [hlock, hread]
      rfl
    · rw [← hpath] at hread ⊢
      exact entry?_plant_uploadPath hread _ _

/-! ## The analysis of an upload -/

theorem isEffectivelyEmpty_of_text {d : Disk} {path text : String} {denial : Option Denial}
    (he : d.entry? path = some (.file (.text text) denial))
    (hcode : Analysis.isEmptyText (String.ofList (Text.uniformLines text.toList)) = false) :
    Analysis.isEffectivelyEmpty d path = false := by
  have hne : text.isEmpty = false := by
    rw [Bool.eq_false_iff]
    intro hempty
    rw [String.isEmpty_iff] at hempty
    subst hempty
    cases hcode
  unfold Analysis.isEffectivelyEmpty
  rw [he]
  simp [Analysis.isEmptyContent, Disk.lenientTextOf, hne, hcode]

/-- A file keeps the language that it begins with, however its analysis ends. -/
theorem language_of_runSteps (s : Settings) (path language : String) (h : Host) :
    (Host.after (Analysis.runSteps (Analysis.steps s) (.start path language)) h).1.language = language := by
  have hstep : ∀ step ∈ Analysis.steps s, ∀ r h r' h', r.language = language → Act.Gives (step r) h r' h' →
      r'.language = language := fun step hm r h r' h' hr hg => (Analysis.frame_of_mem_steps hm hg).2.1.trans hr
  rcases Analysis.passes_or_breaks (Analysis.steps s) (.start path language) h with ⟨r, h', hp, hr⟩ | ⟨r, e, h', hb, hr⟩
  · rw [hr]
    exact hp.invariant hstep rfl
  · rw [hr]
    have hlanguage : r.language = language := hb.invariant hstep rfl
    exact hlanguage

def configuration (fields : List (String × Value)) (rules : Value) : Value :=
  .dict [("settings", .dict fields), ("rules", rules)]

theorem exists_gives_analyze {fields : List (String × Value)} {rules : Value} {h : Host} {n : Nat} {text : String}
    {denial : Option Denial} (he : h.disk.entry? (uploadPath n) = some (.file (.text text) denial))
    (hcode : Analysis.isEmptyText (String.ofList (Text.uniformLines text.toList)) = false) :
    ∃ r h', Act.Gives (Analysis.analyze (some (configuration fields rules)) (uploadPath n)) h r h' ∧
      r.language = "python" := by
  obtain ⟨s, hs⟩ : ∃ s, Settings.ofConfig (configuration fields rules) = .ok s := ⟨_, rfl⟩
  have hbegins : Analysis.Begins (configuration fields rules) (uploadPath n) h s "python" :=
    ⟨isEffectivelyEmpty_of_text he hcode, hs, detect_uploadPath n h.disk, by decide⟩
  refine ⟨_, _, Act.gives_bind.mpr ⟨_, h, Act.gives_pure.mpr ⟨rfl, rfl⟩, Analysis.gives_runSteps hbegins⟩, ?_⟩
  exact language_of_runSteps s _ _ h

/-- The results are remembered as soon as they are there, and they stay, whether or not they can be shown. -/
theorem remembered_analyzeUpload {config : Value} {path : String} {r : AnalysisResult} {v : Visit} {h' : Host}
    (hr : Act.Gives (Analysis.analyze (some config) path) v.host r h') :
    Value.fieldOf? "analysis_results" (outcome (analyzeUpload config path) v).2.session = some r.toValue := by
  have hkeeps : ∀ w : Visit, Value.fieldOf? "analysis_results" w.session = some r.toValue →
      Value.fieldOf? "analysis_results" (outcome (do
        remember "current_file_path" (.str path)
        remember "source_code" (.str (← onHost (Host.readText path)))
        showResults r.toValue (.str path)) w).2.session = some r.toValue := by
    intro w hw
    rw [← hw]
    refine Keeps.bind' (.remember (by decide) _) (fun _ => .bind' (.onHost _) fun source => ?_) w
    exact .bind' (.remember (by decide) _) fun _ => .of_onlyAdds (onlyAdds_showResults _ _)
  unfold analyzeUpload
  rw [outcome_of_gives (gives_call ..), outcome_of_gives (gives_call ..), outcome_of_gives (gives_say ..),
    outcome_of_gives (gives_call ..)]
  generalize hbefore : ((((v.adding _).adding _).adding _).adding _) = before
  have hhost : before.host = v.host := by
    rw [← hbefore]
    rfl
  rw [← hhost] at hr
  obtain ⟨more, hspinner⟩ := gives_spinner "⏳ 正在分析文件，请稍候..." hr
  rw [outcome_of_gives hspinner, outcome_of_gives (gives_call ..), outcome_of_gives (gives_say ..),
    outcome_of_gives (gives_remember ..)]
  exact hkeeps _ (Value.fieldOf?_setField_self ..)

/-! ## The page with an upload -/

/-- The second visit has the host and the choices of the first. -/
structure Alike (v w : Visit) : Prop where
  host : w.host = v.host
  choices : w.choices = v.choices

def Yields {α : Type} (x : Page α) (v : Visit) (a : α) : Prop := ∃ w, Gives x v a w ∧ Alike v w

namespace Yields

variable {α β : Type} {v : Visit}

theorem pure' (a : α) : Yields (pure a) v a := ⟨v, rfl, rfl, rfl⟩

theorem record (e : Event) : Yields (record e) v () := ⟨_, rfl, rfl, rfl⟩

theorem valid {x : Except Fault α} {a : α} (hx : x = .ok a) : Yields (valid x) v a := ⟨v, gives_valid hx v, rfl, rfl⟩

theorem get_bind {f : Visit → Page β} {b : β} (hf : Yields (f v) v b) : Yields (get >>= f) v b := by
  obtain ⟨w, hw, halike⟩ := hf
  exact ⟨w, gives_bind.mpr ⟨v, v, rfl, hw⟩, halike⟩

/-- What follows finds another visit, but one with the same host and the same choices. -/
theorem exists_bind {x : Page α} {f : α → Page β} {a : α} {b : β} {P : Visit → Prop} {w : Visit} (hv : Alike v w)
    (hx : Yields x w a) (hf : ∀ w', Alike v w' → ∃ v', Gives (f a) w' b v' ∧ P v') :
    ∃ v', Gives (x >>= f) w b v' ∧ P v' := by
  obtain ⟨w', hw', halike⟩ := hx
  obtain ⟨v', hv', hP⟩ := hf w' ⟨halike.host.trans hv.host, halike.choices.trans hv.choices⟩
  exact ⟨v', gives_bind.mpr ⟨a, w', hw', hv'⟩, hP⟩

theorem bind' {x : Page α} {f : α → Page β} {a : α} {b : β} (hx : Yields x v a) (hf : ∀ w, Alike v w → Yields (f a) w b) :
    Yields (x >>= f) v b := by
  refine exists_bind ⟨rfl, rfl⟩ hx fun w hw => ?_
  obtain ⟨w', hw', halike⟩ := hf w hw
  exact ⟨w', hw', halike.host.trans hw.host, halike.choices.trans hw.choices⟩

end Yields

theorem yields_prepareSession (v : Visit) : Yields prepareSession v () := by
  have hfirst : ∀ (name : String) (x : Value) (w : Visit), Yields (rememberFirst name x) w () := by
    intro name x w
    refine .get_bind ?_
    unfold Option.isNone
    split
    · exact .pure' ()
    · exact ⟨_, rfl, rfl, rfl⟩
  refine .bind' (hfirst _ _ _) fun _ _ => .bind' (hfirst _ _ _) fun _ _ => .bind' (hfirst _ _ _) fun _ _ => ?_
  exact .bind' (hfirst _ _ _) fun _ _ => .bind' (hfirst _ _ _) fun _ _ => hfirst _ _ _

structure Asks (v : Visit) (u : Upload) : Prop where
  language : v.choices.language = none ∨ ∃ o ∈ languageOptions, v.choices.language = some (.str o.1)
  mode : (v.choices.mode.getD (.str singleMode)).same (.str singleMode) = true
  file : v.choices.file = some u
  pressed : ((Value.fieldOf? "🔍 开始分析" v.choices.buttons).getD (.bool false)).truthy = true

theorem yields_chooseMode {v w : Visit} (hw : Alike v w) : Yields chooseMode w (v.choices.mode.getD (.str singleMode)) := by
  refine .bind' (.record _) fun w' hw' => .get_bind ?_
  rw [hw'.choices, hw.choices]
  exact .pure' _

section Asked
variable {v w : Visit} {u : Upload} (ha : Asks v u) (hw : Alike v w)
include ha hw

theorem exists_yields_chooseLanguage : ∃ language, Yields chooseLanguage w language := by
  have hchoice : ∃ o ∈ languageOptions, v.choices.language.getD (.str "自动检测") = .str o.1 := by
    rcases ha.language with h | ⟨o, ho, h⟩
    · exact ⟨("自动检测", none), by decide, by rw [h]; rfl⟩
    · exact ⟨o, ho, by rw [h]; rfl⟩
  obtain ⟨o, ho, hchoice⟩ := hchoice
  obtain ⟨found, hfound⟩ : ∃ found, languageOptions.find? (fun x => x.1 == o.1) = some found :=
    Option.isSome_iff_exists.mp (List.find?_isSome.mpr ⟨o, ho, by simp⟩)
  refine ⟨found.2.getD "", .bind' (.record _) fun w' hw' => .get_bind ?_⟩
  rw [hw'.choices, hw.choices, hchoice]
  refine .bind' (.valid rfl) fun _ _ => ?_
  dsimp only
  rw [hfound]
  exact .pure' _

theorem yields_receiveUpload (language : String) :
    Yields (receiveUpload (v.choices.mode.getD (.str singleMode)) language) w (.file u) := by
  unfold receiveUpload
  rw [if_pos ha.mode]
  refine .bind' (.record _) fun w' hw' => .get_bind ?_
  rw [hw'.choices, hw.choices, ha.file]
  exact .pure' _

theorem yields_button (named : List (String × Value)) : Yields (button "sidebar.button" "🔍 开始分析" none named) w true := by
  refine .bind' (.record _) fun w' hw' => .get_bind ?_
  rw [hw'.choices, hw.choices]
  have hpressed := ha.pressed
  dsimp only [Option.getD_none]
  rw [hpressed]
  exact .pure' _

end Asked

/-- The options that the visitor chooses are set in the record of settings. -/
theorem exists_yields_chooseOptions (fields : List (String × Value)) (rules mode : Value) (v : Visit) :
    ∃ fields', Yields (chooseOptions (configuration fields rules) mode) v (configuration fields' rules) := by
  let setting := fun key => (Value.fieldOf? key fields).getD (.bool true)
  let chosen := fun label value => (Value.fieldOf? label v.choices.checks).getD value
  let static := chosen "静态分析" (setting "enable_static_analysis")
  let dynamic := chosen "动态分析" (if mode.same (.str archiveMode) then .bool false else setting "enable_dynamic_analysis")
  let sandbox := chosen "启用沙箱执行" (setting "enable_sandbox")
  have hoption : ∀ {w : Visit}, Alike v w → ∀ label value help, Yields (option label value help) w (chosen label value) := by
    intro w hw label value help
    refine .bind' (.record _) fun w' hw' => .get_bind ?_
    rw [hw'.choices, hw.choices]
    exact .pure' _
  refine ⟨Value.setField "enable_sandbox" sandbox (Value.setField "enable_dynamic_analysis" dynamic
    (Value.setField "enable_static_analysis" static fields)), ?_⟩
  refine Yields.exists_bind ⟨rfl, rfl⟩ (.record _) fun w₁ h₁ => Yields.exists_bind h₁ (.valid rfl) fun w₂ h₂ => ?_
  refine Yields.exists_bind h₂ (.valid rfl) fun w₃ h₃ => Yields.exists_bind h₃ (.valid rfl) fun w₄ h₄ => ?_
  refine Yields.exists_bind h₄ (hoption h₄ _ _ _) fun w₅ h₅ => Yields.exists_bind h₅ (hoption h₅ _ _ _) fun w₆ h₆ => ?_
  refine Yields.exists_bind h₆ (.valid rfl) fun w₇ h₇ => Yields.exists_bind h₇ (hoption h₇ _ _ _) fun w₈ h₈ => ?_
  exact ⟨w₈, rfl, h₈⟩

/-- A page that shows an upload remembers the results of its analysis, which are those of a Python file. -/
theorem exists_gives_showUpload {v : Visit} {u : Upload} {text : String} (fields : List (String × Value)) (rules : Value)
    (htext : u.text = .ok text)
    (hcode : Analysis.isEmptyText (String.ofList (Text.uniformLines text.toList)) = false)
    (haccepts : v.host.disk.Accepts (uploadPath (v.host.named + 1))) :
    ∃ v', Gives (showUpload u (configuration fields rules) true) v () v' ∧
      ∃ r : AnalysisResult, Value.fieldOf? "analysis_results" v'.session = some r.toValue ∧ r.language = "python" := by
  have hfailure : ∀ e, Displays (showFailure e) := fun e =>
    .bind' (.record _) fun _ => .bind' (.record _) fun _ => .within _ (.record _)
  let shown := v.adding [.call "info" [.str ("📄 **文件名称：** " ++ u.name ++ " | **文件大小：** " ++ toString u.size ++ " 字节")] []]
  have haccepts : shown.host.disk.Accepts (uploadPath (shown.host.named + 1)) := haccepts
  obtain ⟨kept, denial, hkept, -, hentry⟩ := gives_keepUpload htext haccepts
  obtain ⟨r, h', hr, hlanguage⟩ := exists_gives_analyze hentry hcode
  have hremembered := remembered_analyzeUpload hr
  have hattempt := gives_attempt (analyzeUpload (configuration fields rules) (uploadPath (shown.host.named + 1))) kept
  generalize outcome (analyzeUpload (configuration fields rules) _) kept = ended at hremembered hattempt
  obtain ⟨e | _, after⟩ := ended
  · -- the failure is shown below what is remembered
    obtain ⟨_, more, hshown⟩ := hfailure e after
    refine ⟨after.adding more, gives_bind.mpr ⟨(), shown, gives_say .., ?_⟩, r, hremembered, hlanguage⟩
    exact gives_bind.mpr ⟨_, kept, hkept, gives_bind.mpr ⟨_, after, hattempt, hshown⟩⟩
  · refine ⟨after, gives_bind.mpr ⟨(), shown, gives_say .., ?_⟩, r, hremembered, hlanguage⟩
    exact gives_bind.mpr ⟨_, kept, hkept, gives_bind.mpr ⟨_, after, hattempt, rfl⟩⟩

theorem exists_gives_home {v : Visit} {u : Upload} {text : String} {fields : List (String × Value)} {rules : Value}
    (ha : Asks v u) (hconfig : Act.Gives (Host.loadConfig "config") v.host (configuration fields rules) v.host)
    (htext : u.text = .ok text) (hcode : Analysis.isEmptyText (String.ofList (Text.uniformLines text.toList)) = false)
    (haccepts : v.host.disk.Accepts (uploadPath (v.host.named + 1))) :
    ∃ v', Gives home v () v' ∧
      ∃ r : AnalysisResult, Value.fieldOf? "analysis_results" v'.session = some r.toValue ∧ r.language = "python" := by
  have hload : ∀ {w : Visit}, Alike v w → Yields (onHost (Host.loadConfig "config")) w (configuration fields rules) := by
    intro w hw
    refine ⟨w, gives_onHost ?_, rfl, rfl⟩
    rw [hw.host]
    exact hconfig
  refine Yields.exists_bind ⟨rfl, rfl⟩ (.record _) fun w₁ h₁ => Yields.exists_bind h₁ (hload h₁) fun w₂ h₂ => ?_
  refine Yields.exists_bind h₂ (yields_prepareSession w₂) fun w₃ h₃ => Yields.exists_bind h₃ (.record _) fun w₄ h₄ => ?_
  obtain ⟨language, hlanguage⟩ := exists_yields_chooseLanguage ha h₄
  refine Yields.exists_bind h₄ hlanguage fun w₅ h₅ => Yields.exists_bind h₅ (yields_chooseMode h₅) fun w₆ h₆ => ?_
  refine Yields.exists_bind h₆ (yields_receiveUpload ha h₆ language) fun w₇ h₇ => ?_
  obtain ⟨fields', hoptions⟩ := exists_yields_chooseOptions fields rules (v.choices.mode.getD (.str singleMode)) w₇
  refine Yields.exists_bind h₇ hoptions fun w₈ h₈ => Yields.exists_bind h₈ (yields_button ha h₈ _) fun w₉ h₉ => ?_
  refine exists_gives_showUpload fields' rules htext hcode ?_
  rw [h₉.host]
  exact haccepts

/-- Whatever the name of an uploaded file with code, the results of its analysis that the page remembers are those of a Python
file. So among the names with the extension of a language that can be analysed, these results have the language of the name
exactly for those with the extension of Python. -/
theorem upload_taken_for_python {v : Visit} {u : Upload} {text : String} {fields : List (String × Value)} {rules : Value}
    (ha : Asks v u) (hconfig : Act.Gives (Host.loadConfig "config") v.host (configuration fields rules) v.host)
    (htext : u.text = .ok text) (hcode : Analysis.isEmptyText (String.ofList (Text.uniformLines text.toList)) = false)
    (haccepts : v.host.disk.Accepts (uploadPath (v.host.named + 1))) :
    ∃ v' results, Gives home v () v' ∧ Value.fieldOf? "analysis_results" v'.session = some results ∧
      results.field? "language" = some (.str "python") ∧
      (isSourceName u.name = true → ∀ d : Disk, results.field? "language" = some (.str (Language.detect d u.name)) ↔
        Text.lower (Path.splitExt u.name).2 = ".py") := by
  obtain ⟨v', hhome, r, hstored, hlanguage⟩ := exists_gives_home ha hconfig htext hcode haccepts
  have hfield : r.toValue.field? "language" = some (.str "python") := by
    rw [← hlanguage]
    rfl
  refine ⟨v', r.toValue, hhome, hstored, hfield, fun hname d => ?_⟩
  rw [isSourceName] at hname
  obtain ⟨e, he, -, hext⟩ := Language.exists_extension hname
  rw [hfield, Language.detect_of_name he hext d, hext, Option.some.injEq, Value.str.injEq, eq_comm, Language.eq_python_iff he]

namespace NamedUpload

def upload (name : String) : Upload := ⟨name, .file (.text "package main\n")⟩

/-- A first visit, without a configuration, in which the analysis of the upload is asked for. -/
def visit (name : String) : Visit where
  host := Analysis.refusingHost []
  session := []
  choices := { Choices.none with buttons := [("🔍 开始分析", .bool true)], file := some (upload name) }
  charts := ⟨none, true⟩
  locked := fun _ => none
  events := []

theorem asks (name : String) : Asks (visit name) (upload name) := by
  have hmode : (Value.str singleMode).same (.str singleMode) = true := by decide
  exact ⟨.inl rfl, hmode, rfl, rfl⟩

def settings : List (String × Value) :=
  [("timeout", .int 30), ("log_path", .str "data/logs/"), ("report_path", .str "data/reports/"),
    ("enable_dynamic_analysis", .bool true), ("enable_static_analysis", .bool true), ("enable_sandbox", .bool true)]

theorem gives_loadConfig (name : String) :
    Act.Gives (Host.loadConfig "config") (visit name).host (configuration settings noRules) (visit name).host := by
  have hload : ∀ path default, (Analysis.refusingHost []).disk.has path = false →
      Act.Gives (Host.loadValue path default) (Analysis.refusingHost []) default (Analysis.refusingHost []) := by
    intro path default hmissing
    refine Act.gives_bind.mpr ⟨_, _, rfl, ?_⟩
    rw [if_neg (Bool.eq_false_iff.mp hmissing)]
    rfl
  refine Act.gives_bind.mpr ⟨_, _, hload _ _ (by decide), ?_⟩
  exact Act.gives_bind.mpr ⟨_, _, hload _ _ (by decide), rfl⟩

theorem isEmptyText_upload : Analysis.isEmptyText (String.ofList (Text.uniformLines "package main\n".toList)) = false := by
  decide +kernel

theorem accepts_uploadPath : (Analysis.refusingHost []).disk.Accepts (uploadPath 1) := by
  decide +kernel

/-- A file with the extension of Python, in upper case, is taken for what it is. -/
theorem python_upload_taken_for_python :
    Asks (visit "X.PY") (upload "X.PY") ∧ isSourceName (upload "X.PY").name = true ∧
    ∃ v' results, Gives home (visit "X.PY") () v' ∧ Value.fieldOf? "analysis_results" v'.session = some results ∧
      results.field? "language" = some (.str (Language.detect v'.host.disk "X.PY")) := by
  have hname : isSourceName (upload "X.PY").name = true := by decide
  obtain ⟨v', results, hhome, hstored, -, hsame⟩ := upload_taken_for_python (asks "X.PY") (gives_loadConfig "X.PY") rfl
    isEmptyText_upload accepts_uploadPath
  exact ⟨asks "X.PY", hname, v', results, hhome, hstored, (hsame hname v'.host.disk).mpr (by decide)⟩

/-- A file of Go is taken for one of Python. -/
theorem go_upload_taken_for_python :
    ∃ v' results, Gives home (visit "x.go") () v' ∧ Value.fieldOf? "analysis_results" v'.session = some results ∧
      results.field? "language" = some (.str "python") ∧ Language.detect v'.host.disk "x.go" = "go" := by
  obtain ⟨v', hhome, r, hstored, hlanguage⟩ := exists_gives_home (asks "x.go") (gives_loadConfig "x.go") rfl
    isEmptyText_upload accepts_uploadPath
  have hgo : (".go", "go") ∈ Language.extensions := by decide
  refine ⟨v', r.toValue, hhome, hstored, ?_, Language.detect_of_name hgo (by decide) v'.host.disk⟩
  rw [← hlanguage]
  rfl

end NamedUpload

end ThreatScan.Page
