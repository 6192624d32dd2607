import ThreatScan.Proofs.Analysis.Judgement
import ThreatScan.Proofs.Sandbox.Run
import ThreatScan.Proofs.Threat.Added
import ThreatScan.Proofs.Threat.Injection
/-!
Analyses with and without a run in the sandbox.

A file analysed twice, once with a run of the program and once without, has at least the threats and the score of the text
the second time, if the run survives (`Survives`): its files can be written, the child process can be started, the time limit
is a number, and the numbers in the log can be read. It does not matter how the process ends, or that it removes the log. A
run that does not survive takes all threats of the text with it (`kept_iff_survives`): its failure ends the analysis before
threats are looked for.
-/
namespace ThreatScan.Analysis

open Act Sandbox

/-! ## The results of a run -/

/-- The connections in a log, and the lines that they name, can be read. -/
def Legible (d : Disk) (log : String) : Prop := ∃ as, NetworkLog.read d log = .ok as ∧ ∀ a ∈ as, Threat.Readable a

/-- The run of a program comes to results that can be judged. -/
structure Survives (timeout : Value) (path : String) (h : Host) : Prop where
  prepared : ∃ d, Sandbox.prepared h path [] timeout = .ok d ∧ Legible (left h d) (defaultLog h.now)
  starts : Starts h
  limit : timeout.isNumber = true

section Decidable
variable {ε α : Type}

/-- Whether a computation succeeds with a result of some sort can be found out by making it. -/
def decidableExistsOk (x : Except ε α) (P : α → Prop) [DecidablePred P] : Decidable (∃ a, x = .ok a ∧ P a) :=
  match x with
  | .ok a => decidable_of_iff (P a) (by simp)
  | .error _ => isFalse (by simp)

instance (a : NetworkActivity) : Decidable (Threat.Readable a) :=
  have := decidableExistsOk (Threat.markedLine a.line.toList) fun _ => True
  decidable_of_iff (∃ l, Threat.markedLine a.line.toList = .ok l ∧ True) (by simp [Threat.Readable])

instance (d : Disk) (log : String) : Decidable (Legible d log) := decidableExistsOk _ _

instance (timeout : Value) (path : String) (h : Host) : Decidable (Survives timeout path h) :=
  have := decidableExistsOk (Sandbox.prepared h path [] timeout) fun d => Legible (left h d) (defaultLog h.now)
  decidable_of_iff ((∃ d, Sandbox.prepared h path [] timeout = .ok d ∧ Legible (left h d) (defaultLog h.now)) ∧
    (h.runs h.started).failure = none ∧ timeout.isNumber = true)
    ⟨fun ⟨hp, hs, hl⟩ => ⟨hp, hs, hl⟩, fun ⟨hp, hs, hl⟩ => ⟨hp, hs, hl⟩⟩

end Decidable

def Records (as : List NetworkActivity) (v : Value) : Prop :=
  ∃ (entries : List Value) (zs : List FuzzResult) (log : String) (more : List (String × Value)),
    v = dynamicRecord entries (as.map NetworkActivity.toValue) (zs.map FuzzResult.toValue) log more

theorem exists_shortLimit_iff {timeout : Value} : (∃ v, shortLimit timeout = .ok v) ↔ timeout.isNumber = true := by
  unfold shortLimit Value.lessThan
  cases timeout.isNumber with
  | true => exact ⟨fun _ => rfl, fun _ => ⟨_, rfl⟩⟩
  | false => exact ⟨fun ⟨v, hv⟩ => (by cases hv), fun h => (by cases h)⟩

section Results
variable {s : Settings} {path : String} {h h' : Host}

theorem gives_sandboxResults {v : Value} (hg : Gives (sandboxResults s path) h v h') :
    (∃ d as, prepared h path [] s.timeout = .ok d ∧ NetworkLog.read (left h d) (defaultLog h.now) = .ok as ∧
      Records as v) ∧ Starts h ∧ s.timeout.isNumber = true := by
  obtain ⟨r, h₁, hrun, hg⟩ := gives_bind.mp hg
  obtain ⟨d, hd, hs, hlog, hleft⟩ := gives_run hrun
  obtain ⟨g, h₂, hget, hg⟩ := gives_bind.mp hg
  obtain ⟨rfl, rfl⟩ := gives_get.mp hget
  obtain ⟨as, h₃, hactivities, hg⟩ := gives_bind.mp hg
  obtain ⟨hread, rfl⟩ := gives_valid.mp hactivities
  obtain ⟨limit, h₄, hshort, hg⟩ := gives_bind.mp hg
  obtain ⟨hlimit, rfl⟩ := gives_valid.mp hshort
  obtain ⟨zs, h₅, -, hg⟩ := gives_bind.mp hg
  obtain ⟨rfl, -⟩ := gives_pure.mp hg
  -- the log that is read is the one that the run left
  rw [hleft, hlog] at hread
  have hrecords : Records as (dynamicRecord (syscallEntries r.logEntries) (as.map NetworkActivity.toValue)
      (zs.map FuzzResult.toValue) r.logFile [("sandbox_result", r.toValue)]) := ⟨_, zs, _, _, rfl⟩
  exact ⟨⟨d, as, hd, hread, hrecords⟩, hs, exists_shortLimit_iff.mp ⟨limit, hlimit⟩⟩

theorem exists_gives_sandboxResults {d : Disk} {as : List NetworkActivity} (hd : prepared h path [] s.timeout = .ok d)
    (has : NetworkLog.read (left h d) (defaultLog h.now) = .ok as) (hs : Starts h) (hn : s.timeout.isNumber = true) :
    ∃ v h', Gives (sandboxResults s path) h v h' := by
  obtain ⟨r, h₁, hrun⟩ := exists_gives_run hd hs
  obtain ⟨d', hd', -, hlog, hleft⟩ := gives_run hrun
  cases hd.symm.trans hd'
  rw [← hleft, ← hlog] at has
  obtain ⟨limit, hlimit⟩ := exists_shortLimit_iff.mpr hn
  obtain ⟨zs, h₂, hfuzz⟩ := Fuzz.succeeds_fuzz path 3 limit h₁
  exact ⟨_, h₂, gives_bind.mpr ⟨r, h₁, hrun, gives_bind.mpr ⟨h₁, h₁, gives_get.mpr ⟨rfl, rfl⟩,
    gives_bind.mpr ⟨as, h₁, gives_valid.mpr ⟨has, rfl⟩, gives_bind.mpr ⟨limit, h₁, gives_valid.mpr ⟨hlimit, rfl⟩,
      gives_bind.mpr ⟨zs, h₂, hfuzz, gives_pure.mpr ⟨rfl, rfl⟩⟩⟩⟩⟩⟩⟩

/-- Beside static results that can be judged, a run comes to results that can be judged exactly if it survives. -/
theorem judged_run_iff {static : Value} {a : Aggregate} {ts : List Threat} (hj : Judged static noRun a ts) :
    (∃ v h' b us, Gives (sandboxResults s path) h v h' ∧ Judged static v b us) ↔ Survives s.timeout path h := by
  constructor
  · rintro ⟨v, h', b, us, hg, hv⟩
    obtain ⟨⟨d, as, hd, has, entries, zs, log, more, rfl⟩, hs, hn⟩ := gives_sandboxResults hg
    exact ⟨⟨d, hd, as, has, (exists_judged_iff hj entries as zs log more).mp ⟨b, us, hv⟩⟩, hs, hn⟩
  · rintro ⟨⟨d, hd, as, has, hreadable⟩, hs, hn⟩
    obtain ⟨v, h', hg⟩ := exists_gives_sandboxResults hd has hs hn
    obtain ⟨⟨d', as', hd', has', entries, zs, log, more, rfl⟩, -, -⟩ := gives_sandboxResults hg
    cases hd.symm.trans hd'
    cases has.symm.trans has'
    obtain ⟨b, us, hv⟩ := (exists_judged_iff hj entries as zs log more).mpr hreadable
    exact ⟨_, h', b, us, hg, hv⟩

end Results

/-! ## Two analyses of a file -/

/-- Looking at the text of a Python file changes nothing on the host. -/
theorem onlyPrints_staticResults (s : Settings) (path : String) : OnlyPrints (staticResults s path "python") := by
  have hprepare : OnlyPrints (prepare path "python") := by
    refine (OnlyPrints.print _).bind' fun _ => (OnlyPrints.print _).bind' fun _ => OnlyPrints.get'.bind' fun _ => ?_
    refine (OnlyPrints.check _ _).bind' fun _ => (OnlyPrints.print _).bind' fun _ => ?_
    refine OnlyPrints.get'.bind' fun _ => OnlyPrints.get'.bind' fun _ => (OnlyPrints.check _ _).bind' fun _ => ?_
    exact (OnlyPrints.print _).bind' fun _ => (OnlyPrints.print _).bind' fun _ => OnlyPrints.pure' _
  have hpython : ∀ p, OnlyPrints (pythonResults s path p) := by
    intro p
    refine OnlyPrints.get'.bind' fun _ => OnlyPrints.get'.bind' fun _ => ?_
    refine ((OnlyPrints.valid _).bind' fun _ => OnlyPrints.pure' _).bind' fun _ => ?_
    have hdependencies : OnlyPrints (dependencyResults path "python") :=
      OnlyPrints.get'.bind' fun _ => (OnlyPrints.valid _).bind' fun _ => OnlyPrints.pure' _
    exact hdependencies.bind' fun _ => OnlyPrints.pure' _
  refine hprepare.bind' fun p => ?_
  split
  · exact OnlyPrints.pure' _
  · exact (OnlyPrints.print _).bind' fun _ => hpython p

section Found
variable {s : Settings} {path language : String} {h h₁ h₂ : Host} {static : Value}
  (hs : Gives (staticResults s path language) h static h₁)
include hs

theorem found_of_gives {v : Value} (hd : Gives (dynamicResults s path language) h₁ v h₂) :
    found ((judgement s path language).outcome h).1 = found (judged static v) := by
  rw [judgement, outcome_bind, hs]
  dsimp only
  rw [outcome_bind, hd]
  dsimp only
  cases judged static v <;> rfl

theorem found_of_fails {e : Failure} (hd : Fails (dynamicResults s path language) h₁ e h₂) :
    found ((judgement s path language).outcome h).1 = [] := by
  have hj : Fails (judgement s path language) h e h₂ := fails_bind.mpr (.inr ⟨static, h₁, hs, fails_bind.mpr (.inl hd)⟩)
  rw [hj]
  rfl

end Found

/-- Where a run is asked for, it is what the dynamic analysis consists of. -/
theorem outcome_dynamicResults {s : Settings} (hd : s.dynamic = true) (hb : s.sandbox = true) (path : String) (h : Host) :
    (dynamicResults s path "python").outcome h =
      (sandboxResults s path).outcome (said "[INFO] Performing dynamic analysis..." h) := by
  have hsay : (say "[INFO] Performing dynamic analysis...").outcome h =
      (.ok (), said "[INFO] Performing dynamic analysis..." h) := rfl
  unfold dynamicResults
  simp only [hd, hb, Bool.not_true, Bool.false_eq_true, if_false, bne_self_eq_false, if_true]
  rw [outcome_bind, hsay]

/-- Every kind of threat in the first result is in the second, and the second scores no less. -/
def Keeps (r r' : AnalysisResult) : Prop := (∀ t ∈ r.threats, ∃ u ∈ r'.threats, u.kind = t.kind) ∧ r.score ≤ r'.score

section Keeps
variable {r r' : AnalysisResult} {ts us : List Threat} (hr : Shows r ts)
include hr

theorem keeps_of_nil (r' : AnalysisResult) (h : ts = []) : Keeps r r' := by
  refine ⟨fun t ht => ?_, ?_⟩
  · rw [hr.1, h] at ht
    cases ht
  · rw [hr.2, h, threatScore_nil]
    exact Nat.zero_le _

theorem keeps_of_subperm (hr' : Shows r' us) (h : (ts.map Threat.kind).Subperm (us.map Threat.kind)) : Keeps r r' := by
  refine ⟨fun t ht => ?_, ?_⟩
  · rw [hr.1] at ht
    obtain ⟨u, hu, hk⟩ := List.mem_map.mp (h.subset (List.mem_map_of_mem ht))
    exact ⟨u, by rw [hr'.1]; exact hu, hk⟩
  · rw [hr.2, hr'.2]
    exact threatScore_mono h

theorem nil_of_keeps (hr' : Shows r' []) (h : Keeps r r') : ts = [] := by
  rw [List.eq_nil_iff_forall_not_mem]
  intro t ht
  obtain ⟨u, hu, -⟩ := h.1 t (by rw [hr.1]; exact ht)
  rw [hr'.1] at hu
  cases hu

end Keeps

section Runs
variable {s : Settings} {path : String} {h h₁ : Host} {static : Value}
  (hs : Gives (staticResults s path "python") h static h₁)
include hs

theorem found_without_run (hd : s.dynamic = false) :
    found ((judgement s path "python").outcome h).1 = found (judged static noRun) := by
  have hnone : Gives (dynamicResults s path "python") h₁ noRun h₁ := by
    unfold dynamicResults
    rw [hd]
    exact gives_pure.mpr ⟨rfl, rfl⟩
  exact found_of_gives hs hnone

variable {a : Aggregate} {ts : List Threat} (hj : Judged static noRun a ts) (hd : s.dynamic = true) (hb : s.sandbox = true)
include hj hd hb

/-- What is found with a run: no less than without it if it survives, and nothing if it does not. -/
theorem found_with_run :
    (Survives s.timeout path h ∧
      (ts.map Threat.kind).Subperm ((found ((judgement s path "python").outcome h).1).map Threat.kind)) ∨
    (¬ Survives s.timeout path h ∧ found ((judgement s path "python").outcome h).1 = []) := by
  obtain ⟨text, rfl⟩ := (onlyPrints_staticResults s path).host_of_gives hs
  let g := said "[INFO] Performing dynamic analysis..." { h with printed := text }
  have hrun := outcome_dynamicResults hd hb path { h with printed := text }
  -- what was printed before does not matter to a run
  have hsame : Survives s.timeout path g ↔ Survives s.timeout path h :=
    ⟨fun ⟨hp, hs, hl⟩ => ⟨hp, hs, hl⟩, fun ⟨hp, hs, hl⟩ => ⟨hp, hs, hl⟩⟩
  rw [← hsame, ← judged_run_iff hj]
  rcases gives_or_fails (sandboxResults s path) g with ⟨v, h', hg⟩ | ⟨e, h', hf⟩
  · rw [found_of_gives hs (hrun.trans hg)]
    cases hv : judged static v with
    | ok us =>
      obtain ⟨b, hv⟩ := judged_eq_ok.mp hv
      obtain ⟨⟨d, as, -, -, entries, zs, log, more, rfl⟩, -, -⟩ := gives_sandboxResults hg
      exact .inl ⟨⟨_, h', b, us, hg, hv⟩, hj.kinds_subperm hv (fewer_noRun entries as zs log more)⟩
    | error f =>
      refine .inr ⟨?_, rfl⟩
      rintro ⟨v', h'', b, us, hg', hv'⟩
      cases hg.symm.trans hg'
      cases hv.symm.trans (judged_eq_ok.mpr ⟨b, hv'⟩)
  · refine .inr ⟨?_, found_of_fails hs (hrun.trans hf)⟩
    rintro ⟨v', h'', b, us, hg', -⟩
    exact hg'.not_fails hf

end Runs

theorem found_of_not_starts {s : Settings} (hd : s.dynamic = true) (hb : s.sandbox = true) {path : String} {h : Host}
    (hstart : ¬ Starts h) : found ((judgement s path "python").outcome h).1 = [] := by
  rcases gives_or_fails (staticResults s path "python") h with ⟨static, h₁, hs⟩ | ⟨e, h₁, hs⟩
  · obtain ⟨text, rfl⟩ := (onlyPrints_staticResults s path).host_of_gives hs
    have hrun := outcome_dynamicResults hd hb path { h with printed := text }
    rcases gives_or_fails (sandboxResults s path) (said "[INFO] Performing dynamic analysis..." { h with printed := text })
      with ⟨v, h', hg⟩ | ⟨e, h', hf⟩
    · exact absurd (gives_sandboxResults hg).2.1 hstart
    · exact found_of_fails hs (hrun.trans hf)
  · have hj : Fails (judgement s path "python") h e h₁ := fails_bind.mpr (.inl hs)
    rw [hj]
    rfl

theorem keeps_iff_of_nil {r : AnalysisResult} (r' : AnalysisResult) (hr : Shows r []) (P : Prop) :
    Keeps r r' ↔ r.threats = [] ∨ P :=
  ⟨fun _ => .inl hr.1, fun _ => keeps_of_nil hr r' rfl⟩

theorem keeps_iff {s : Settings} (hb : s.sandbox = true) {path : String} {h : Host} {r r' : AnalysisResult}
    (hr : Shows r (found ((judgement { s with dynamic := false } path "python").outcome h).1))
    (hr' : Shows r' (found ((judgement { s with dynamic := true } path "python").outcome h).1)) :
    Keeps r r' ↔ r.threats = [] ∨ Survives s.timeout path h := by
  -- the static results do not depend on whether a run is asked for
  rcases gives_or_fails (staticResults s path "python") h with ⟨static, h₁, hs⟩ | ⟨e, h₁, hs⟩
  · have hoff : Gives (staticResults { s with dynamic := false } path "python") h static h₁ := hs
    have hon : Gives (staticResults { s with dynamic := true } path "python") h static h₁ := hs
    rw [found_without_run hoff rfl] at hr
    cases hj : judged static noRun with
    | error f =>
      rw [hj] at hr
      exact keeps_iff_of_nil r' hr _
    | ok ts =>
      rw [hj] at hr
      obtain ⟨a, hj⟩ := judged_eq_ok.mp hj
      rcases found_with_run hon hj rfl hb with ⟨hsurvives, hkinds⟩ | ⟨hsurvives, hnil⟩
      · exact ⟨fun _ => .inr hsurvives, fun _ => keeps_of_subperm hr hr' hkinds⟩
      · rw [hnil] at hr'
        constructor
        · intro hkeeps
          exact .inl (hr.1.trans (nil_of_keeps hr hr' hkeeps))
        · rintro (hnil | hsurvives')
          · exact keeps_of_nil hr r' (hr.1.symm.trans hnil)
          · exact absurd hsurvives' hsurvives
  · -- without static results there is nothing to lose
    have hoff : Fails (judgement { s with dynamic := false } path "python") h e h₁ := fails_bind.mpr (.inl hs)
    rw [hoff] at hr
    exact keeps_iff_of_nil r' hr _

/-- A Python file analysed without and with a run in the sandbox, under settings that else agree: the second result has all
kinds of threat of the first and scores no less exactly if there was no threat or the run survives. -/
theorem kept_iff_survives {off on : Value} {s : Settings} (hoff : Settings.ofConfig off = .ok { s with dynamic := false })
    (hon : Settings.ofConfig on = .ok { s with dynamic := true }) (hb : s.sandbox = true) {path : String} {h : Host}
    (hl : Language.detect h.disk path = "python") :
    ∃ r h₁ r' h₂, Gives (analyze (some off) path) h r h₁ ∧ Gives (analyze (some on) path) h r' h₂ ∧
      (Keeps r r' ↔ r.threats = [] ∨ Survives s.timeout path h) := by
  have hpython : Language.isSupported "python" = true := by decide
  obtain ⟨r, h₁, hg, hr⟩ := exists_gives_analyzeWith hoff hl hpython
  obtain ⟨r', h₂, hg', hr'⟩ := exists_gives_analyzeWith hon hl hpython
  refine ⟨r, h₁, r', h₂, gives_bind.mpr ⟨off, h, rfl, hg⟩, gives_bind.mpr ⟨on, h, rfl, hg'⟩, ?_⟩
  unfold threatsOf at hr hr'
  split at hr
  · exact keeps_iff_of_nil r' hr _
  · next hcode =>
    rw [if_neg hcode] at hr'
    exact keeps_iff hb hr hr'

namespace UnstartedRun

open StoredArgument (statementAt elementAt)

def disk : Disk :=
  ⟨[(Disk.workPlace ++ ["data"], .dir), (Disk.workPlace ++ ["data", "logs"], .dir),
    (Disk.workPlace ++ ["a.py"], .file (.text "os.system(sys.argv[1])\n") none)]⟩

/-- The tree of the file runs an argument as a command. The child process behaves as given. -/
def hostWith (run : ChildRun) : Host :=
  { refusingHost [] with
    disk := disk
    parser := fun _ => ⟨some (StoredArgument.moduleOf [statementAt 3 0 (elementAt 3 10)]), none, none⟩
    runs := fun _ => run }

def unstarted : ChildRun := ⟨0, "", "", [], false, some "boom", false, .ofRatio false 0 1⟩

def hanging : ChildRun := ⟨0, "", "", [], true, none, true, .ofRatio false 0 1⟩

def settings (dynamic : Bool) : Value := .dict [("settings", .dict [("enable_dynamic_analysis", .bool dynamic)])]

def common : Settings := ⟨true, true, true, .int 30, .str "data/reports/", .dict []⟩

theorem kinds_without_run :
    (threatsOf { common with dynamic := false } "a.py" "python" (hostWith unstarted)).map Threat.kind =
      [.remoteExecution, .commandInjection] := by
  decide +kernel

/-- A run that cannot be started hides both threats of the text. -/
theorem unstarted_run_hides_threats : ∃ r h₁ r' h₂,
    Gives (analyze (some (settings false)) "a.py") (hostWith unstarted) r h₁ ∧
    Gives (analyze (some (settings true)) "a.py") (hostWith unstarted) r' h₂ ∧
    r.threats.map Threat.kind = [.remoteExecution, .commandInjection] ∧ r'.threats = [] ∧ r'.score < r.score := by
  have hoff : Settings.ofConfig (settings false) = .ok { common with dynamic := false } := rfl
  have hon : Settings.ofConfig (settings true) = .ok { common with dynamic := true } := rfl
  have hl : Language.detect (hostWith unstarted).disk "a.py" = "python" := by decide
  obtain ⟨r, h₁, hg, hr⟩ := exists_gives_analyzeWith hoff hl (by decide)
  obtain ⟨r', h₂, hg', hr'⟩ := exists_gives_analyzeWith hon hl (by decide)
  have hkinds := kinds_without_run
  have hnil : threatsOf { common with dynamic := true } "a.py" "python" (hostWith unstarted) = [] := by
    unfold threatsOf
    rw [found_of_not_starts rfl rfl (by simp [Starts, hostWith, unstarted]), ite_self]
  rw [hnil] at hr'
  refine ⟨r, h₁, r', h₂, gives_bind.mpr ⟨_, _, rfl, hg⟩, gives_bind.mpr ⟨_, _, rfl, hg'⟩, ?_, hr'.1, ?_⟩
  · rw [hr.1, hkinds]
  · rw [hr.2, hr'.2, threatScore_nil]
    apply threatScore_pos
    rintro hnone
    rw [hnone] at hkinds
    cases hkinds

/-- A run that hangs and removes its log leaves the threats of the text as they are. -/
theorem hanging_run_keeps_threats :
    Settings.ofConfig (settings false) = .ok { common with dynamic := false } ∧
    Settings.ofConfig (settings true) = .ok { common with dynamic := true } ∧ common.sandbox = true ∧
    Language.detect (hostWith hanging).disk "a.py" = "python" ∧ Survives common.timeout "a.py" (hostWith hanging) ∧
    ∃ r h₁ r' h₂, Gives (analyze (some (settings false)) "a.py") (hostWith hanging) r h₁ ∧
      Gives (analyze (some (settings true)) "a.py") (hostWith hanging) r' h₂ ∧ Keeps r r' := by
  have hoff : Settings.ofConfig (settings false) = .ok { common with dynamic := false } := rfl
  have hon : Settings.ofConfig (settings true) = .ok { common with dynamic := true } := rfl
  have hl : Language.detect (hostWith hanging).disk "a.py" = "python" := by decide
  have hsurvives : Survives common.timeout "a.py" (hostWith hanging) := by decide +kernel
  obtain ⟨r, h₁, r', h₂, hg, hg', hiff⟩ := kept_iff_survives hoff hon rfl hl
  exact ⟨hoff, hon, rfl, hl, hsurvives, r, h₁, r', h₂, hg, hg', hiff.mpr (.inr hsurvives)⟩

end UnstartedRun

end ThreatScan.Analysis
