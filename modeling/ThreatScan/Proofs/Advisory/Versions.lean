import ThreatScan.Advisory.Basic
import ThreatScan.Advisory.Shipped
import ThreatScan.Proofs.Checked
import ThreatScan.Proofs.Text.Search
/-!
Advisories on a range of versions.

A dotted version is a list of numbers (`Version.ofText?`), and one version is older than another if its number is smaller at
the first place where they differ (`Version.Older`). An advisory with the range `<X` is meant for the versions older than
`X`.

The findings of a database are those of each advisory that concerns a dependency (`mem_findings`). A range is looked for
in the version as a text, so an advisory with a range is reported for a dependency of its name exactly if the version of that
dependency is not known or itself holds the range. A dotted version holds no `<`: whatever the numbers are, no range is ever
reported for it, and the report agrees with the order of versions only where the version is not an older one.
-/
namespace ThreatScan

/-! ## Versions -/

namespace Version

def isNumber (s : List Char) : Bool := !s.isEmpty && s.all Char.isDigit

def numberOf (s : List Char) : Nat := s.foldl (fun n c => 10 * n + (c.toNat - '0'.toNat)) 0

def ofText? (s : String) : Option (List Nat) :=
  let pieces := Text.cutAt '.' s.toList
  if pieces.all isNumber then some (pieces.map numberOf) else none

/-- At the first place where the versions differ the number of the first is smaller; a missing number is zero. -/
def Older (v w : List Nat) : Prop := ∃ i, v.getD i 0 < w.getD i 0 ∧ ∀ j < i, v.getD j 0 = w.getD j 0

def older : List Nat → List Nat → Bool
  | _, [] => false
  | [], n :: w => decide (0 < n) || older [] w
  | m :: v, n :: w => decide (m < n) || (m == n && older v w)

theorem older_cons_iff {v w : List Nat} {m n : Nat} : Older (m :: v) (n :: w) ↔ m < n ∨ m = n ∧ Older v w := by
  constructor
  · rintro ⟨i, hlt, heq⟩
    cases i with
    | zero => exact .inl hlt
    | succ i =>
      refine .inr ⟨heq 0 (Nat.succ_pos i), i, hlt, ?_⟩
      intro j hj
      exact heq (j + 1) (Nat.succ_lt_succ hj)
  · rintro (h | ⟨rfl, i, hlt, heq⟩)
    · exact ⟨0, h, fun j hj => absurd hj (Nat.not_lt_zero j)⟩
    · refine ⟨i + 1, hlt, ?_⟩
      intro j hj
      cases j with
      | zero => rfl
      | succ j => exact heq j (Nat.lt_of_succ_lt_succ hj)

/-- A version without numbers is all zeros. -/
theorem older_nil_cons_iff {w : List Nat} {n : Nat} : Older [] (n :: w) ↔ Older [0] (n :: w) := by
  unfold Older
  refine exists_congr fun i => ?_
  have hzero : ∀ j, ([] : List Nat).getD j 0 = [0].getD j 0 := by
    intro j
    cases j <;> simp
  simp only [hzero]

theorem not_older_nil (v : List Nat) : ¬ Older v [] := by
  rintro ⟨i, hlt, -⟩
  simp at hlt

theorem older_iff (v w : List Nat) : older v w = true ↔ Older v w := by
  fun_induction older v w with
  | case1 v => simp [not_older_nil]
  | case2 n w ih =>
    rw [older_nil_cons_iff, older_cons_iff, Bool.or_eq_true, decide_eq_true_iff, ih]
    constructor
    · rintro (h | h)
      · exact .inl h
      · by_cases hn : 0 < n
        · exact .inl hn
        · exact .inr ⟨by omega, h⟩
    · rintro (h | ⟨-, h⟩)
      · exact .inl h
      · exact .inr h
  | case3 m v n w ih => rw [older_cons_iff, Bool.or_eq_true, decide_eq_true_iff, Bool.and_eq_true, beq_iff_eq, ih]

instance (v w : List Nat) : Decidable (Older v w) := decidable_of_iff _ (older_iff v w)

theorem isDigit_of_ofText? {s : String} {v : List Nat} (h : ofText? s = some v) {c : Char} (hc : c ∈ s.toList)
    (hdot : c ≠ '.') : c.isDigit = true := by
  unfold ofText? at h
  dsimp only at h
  split at h
  · next hall =>
    obtain ⟨piece, hp, hmem⟩ := (Text.mem_iff_of_cutAt hdot s.toList).mpr hc
    have hpiece := List.all_eq_true.mp hall piece hp
    exact List.all_eq_true.mp (Bool.and_eq_true_iff.mp hpiece).2 c hmem
  · cases h

theorem not_contains_range {s : String} {v : List Nat} (h : ofText? s = some v) (bound : String) :
    Text.contains s ("<" ++ bound) = false := by
  rw [Bool.eq_false_iff]
  intro hrange
  have hmark : '<' ∈ ("<" ++ bound).toList := by simp
  have hdigit := isDigit_of_ofText? h ((Text.contains_iff.mp hrange).subset hmark) (by decide)
  revert hdigit
  decide

end Version

/-! ## The findings of a database -/

namespace Advisory

structure Declares (dep : Value) (name version : String) : Prop where
  name : dep.get "name" (.str "") = .ok (.str name)
  version : dep.get "version" (.str "unknown") = .ok (.str version)

/-- The advisory is on this package, and on versions that are given by this text. -/
structure Warns (entry : Value) (package versions : String) : Prop where
  package : entry.get "package" (.str "") = .ok (.str package)
  versions : entry.get "vulnerable_versions" (.str "") = .ok (.str versions)

theorem fields_of_finding {dep entry record : Value} (h : finding dep entry = .ok record) :
    record.field? "dependency" = some dep ∧
      ∃ versions, entry.get "vulnerable_versions" (.str "") = .ok versions ∧
        record.field? "vulnerable_versions" = some versions := by
  obtain ⟨id, -, h⟩ := Checked.bind_eq_ok.mp h
  obtain ⟨description, -, h⟩ := Checked.bind_eq_ok.mp h
  obtain ⟨severity, -, h⟩ := Checked.bind_eq_ok.mp h
  obtain ⟨versions, hversions, h⟩ := Checked.bind_eq_ok.mp h
  obtain ⟨fixed, -, h⟩ := Checked.bind_eq_ok.mp h
  rw [← Checked.pure_eq_ok.mp h]
  exact ⟨rfl, versions, hversions, rfl⟩

theorem Warns.exists_finding {entry : Value} {package versions : String} (hw : Warns entry package versions)
    (dep : Value) : ∃ record, finding dep entry = .ok record := by
  cases entry with
  | dict fields => exact ⟨_, rfl⟩
  | _ => cases hw.package

/-! When an advisory concerns a dependency. -/

/-- One of the two names holds the other, whatever the case of their letters. -/
def namesMeet (name package : String) : Bool :=
  Text.contains (Text.lower name) (Text.lower package) || Text.contains (Text.lower package) (Text.lower name)

/-- The version is not known, or holds the text that gives the vulnerable versions. -/
def versionMeets (version versions : String) : Bool :=
  versions.isEmpty || version == "unknown" || Text.contains version versions

theorem lowerName_of_get {record : Value} {key name : String} (h : record.get key (.str "") = .ok (.str name)) :
    lowerName record key = .ok (Text.lower name) := by
  unfold lowerName
  rw [h]
  rfl

theorem coversVersion_eq {entry : Value} {version versions : String}
    (h : entry.get "vulnerable_versions" (.str "") = .ok (.str versions)) :
    coversVersion entry (.str version) = .ok (versionMeets version versions) := by
  have hsame : (Value.str version).same (.str "unknown") = (version == "unknown") := by rw [Value.same]
  have htruthy : (Value.str versions).truthy = !versions.isEmpty := rfl
  unfold coversVersion versionMeets
  rw [h, Checked.ok_bind, hsame, htruthy, Bool.not_not]
  split
  · next hmeets => rw [hmeets, Bool.true_or]; rfl
  · next hmeets => rw [Bool.eq_false_iff.mpr hmeets, Bool.false_or]; rfl

theorem concerns_eq {entry : Value} {package versions : String} (hw : Warns entry package versions)
    (name version : String) :
    concerns (Text.lower name) (.str version) entry = .ok (namesMeet name package && versionMeets version versions) := by
  unfold concerns namesMeet
  rw [lowerName_of_get hw.package, Checked.ok_bind]
  split
  · next hmeet => rw [coversVersion_eq hw.versions, hmeet, Bool.true_and]
  · next hmeet => rw [Bool.eq_false_iff.mpr hmeet, Bool.false_and]; rfl

theorem versionMeets_of_concerns {name : String} {entry : Value} {version versions : String}
    (hv : entry.get "vulnerable_versions" (.str "") = .ok (.str versions))
    (h : concerns name (.str version) entry = .ok true) : versionMeets version versions = true := by
  unfold concerns at h
  obtain ⟨package, -, h⟩ := Checked.bind_eq_ok.mp h
  split at h
  · rw [coversVersion_eq hv] at h
    exact Except.ok.inj h
  · cases Checked.pure_eq_ok.mp h

/-! Whole databases. -/

theorem mem_flatten_iff_of_mapM {α β : Type} {f : α → Except Fault (List β)} {xs : List α} {yss : List (List β)}
    (h : xs.mapM f = .ok yss) (y : β) : y ∈ yss.flatten ↔ ∃ x ∈ xs, ∃ ys, f x = .ok ys ∧ y ∈ ys := by
  rw [List.mem_flatten]
  simp only [Checked.mem_iff_of_mapM_eq_ok h]
  constructor
  · rintro ⟨ys, ⟨x, hx, hf⟩, hy⟩
    exact ⟨x, hx, ys, hf, hy⟩
  · rintro ⟨x, hx, ys, hf, hy⟩
    exact ⟨ys, ⟨x, hx, hf⟩, hy⟩

theorem mem_of_findingsOf {dep version entry record : Value} {name : String} {found : List Value}
    (h : findingsOf dep name version entry = .ok found) :
    record ∈ found ↔ concerns name version entry = .ok true ∧ finding dep entry = .ok record := by
  unfold findingsOf at h
  obtain ⟨b, hb, h⟩ := Checked.bind_eq_ok.mp h
  rw [hb]
  cases b with
  | true =>
    obtain ⟨record', hr, h⟩ := Checked.bind_eq_ok.mp h
    rw [← Checked.pure_eq_ok.mp h, hr, List.mem_singleton]
    simp [eq_comm]
  | false =>
    rw [← Checked.pure_eq_ok.mp h]
    simp

theorem mem_findings {entries deps found : List Value} (h : findings (.list entries) (.list deps) = .ok found)
    (record : Value) : record ∈ found ↔ ∃ dep ∈ deps, ∃ entry ∈ entries, ∃ name version,
      lowerName dep "name" = .ok name ∧ dep.get "version" (.str "unknown") = .ok version ∧
      concerns name version entry = .ok true ∧ finding dep entry = .ok record := by
  obtain ⟨ds, hds, h⟩ := Checked.bind_eq_ok.mp h
  cases hds
  obtain ⟨rss, hrss, h⟩ := Checked.bind_eq_ok.mp h
  rw [← Checked.pure_eq_ok.mp h, mem_flatten_iff_of_mapM hrss]
  refine exists_congr fun dep => and_congr_right fun hdep => ?_
  obtain ⟨rs, hrs⟩ := Checked.exists_of_mapM_eq_ok hrss hdep
  obtain ⟨name, hname, hrs'⟩ := Checked.bind_eq_ok.mp hrs
  obtain ⟨version, hversion, hrs'⟩ := Checked.bind_eq_ok.mp hrs'
  obtain ⟨es, hes, hrs'⟩ := Checked.bind_eq_ok.mp hrs'
  cases hes
  obtain ⟨fss, hfss, hrs'⟩ := Checked.bind_eq_ok.mp hrs'
  have hflat := mem_flatten_iff_of_mapM hfss record
  rw [Checked.pure_eq_ok.mp hrs'] at hflat
  constructor
  · rintro ⟨rs', hrs₂, hr⟩
    cases hrs.symm.trans hrs₂
    obtain ⟨entry, he, fs, hfs, hr⟩ := hflat.mp hr
    exact ⟨entry, he, name, version, hname, hversion, (mem_of_findingsOf hfs).mp hr⟩
  · rintro ⟨entry, he, name', version', hname', hversion', hr⟩
    cases hname.symm.trans hname'
    cases hversion.symm.trans hversion'
    obtain ⟨fs, hfs⟩ := Checked.exists_of_mapM_eq_ok hfss he
    exact ⟨rs, hrs, hflat.mpr ⟨entry, he, fs, hfs, (mem_of_findingsOf hfs).mpr hr⟩⟩

theorem exists_findings {entries deps : List Value} (he : ∀ entry ∈ entries, ∃ package versions, Warns entry package versions)
    (hd : ∀ dep ∈ deps, ∃ name version, Declares dep name version) :
    ∃ found, findings (.list entries) (.list deps) = .ok found := by
  have hfor : ∀ dep ∈ deps, ∃ found, findingsFor (.list entries) dep = .ok found := by
    intro dep hdep
    obtain ⟨name, version, hdeclares⟩ := hd dep hdep
    have hof : ∀ entry ∈ entries, ∃ found, findingsOf dep (Text.lower name) (.str version) entry = .ok found := by
      intro entry hentry
      obtain ⟨package, versions, hw⟩ := he entry hentry
      obtain ⟨record, hrecord⟩ := hw.exists_finding dep
      unfold findingsOf
      rw [concerns_eq hw, hrecord]
      cases namesMeet name package && versionMeets version versions with
      | true => exact ⟨_, rfl⟩
      | false => exact ⟨_, rfl⟩
    obtain ⟨fss, hfss⟩ := Checked.exists_mapM_eq_ok hof
    refine ⟨fss.flatten, ?_⟩
    exact Checked.bind_eq_ok.mpr ⟨_, lowerName_of_get hdeclares.name, Checked.bind_eq_ok.mpr ⟨_, hdeclares.version,
      Checked.bind_eq_ok.mpr ⟨entries, rfl, Checked.bind_eq_ok.mpr ⟨fss, hfss, rfl⟩⟩⟩⟩
  obtain ⟨rss, hrss⟩ := Checked.exists_mapM_eq_ok hfor
  exact ⟨rss.flatten, Checked.bind_eq_ok.mpr ⟨deps, rfl, Checked.bind_eq_ok.mpr ⟨rss, hrss, rfl⟩⟩⟩

/-! ## Ranges -/

def Reports (found : List Value) (dep entry : Value) : Prop := ∃ record ∈ found, finding dep entry = .ok record

/-- An advisory on a package is reported for a dependency of that name exactly if the versions meet. -/
theorem reports_iff {entries deps found : List Value} (h : findings (.list entries) (.list deps) = .ok found)
    {dep entry : Value} (hdep : dep ∈ deps) (hentry : entry ∈ entries) {name version package versions : String}
    (hd : Declares dep name version) (hw : Warns entry package versions) (hname : Text.lower name = Text.lower package) :
    Reports found dep entry ↔ versionMeets version versions = true := by
  constructor
  · rintro ⟨record, hmem, hrecord⟩
    obtain ⟨dep', -, entry', -, name', version', -, hversion, hconcerns, hrecord'⟩ := (mem_findings h record).mp hmem
    -- another advisory may have given the same record, but then for the same dependency and the same versions
    obtain ⟨hdep₁, v₁, hv₁, hfield₁⟩ := fields_of_finding hrecord
    obtain ⟨hdep₂, v₂, hv₂, hfield₂⟩ := fields_of_finding hrecord'
    cases Option.some.inj (hdep₁.symm.trans hdep₂)
    cases Option.some.inj (hfield₁.symm.trans hfield₂)
    cases hversion.symm.trans hd.version
    exact versionMeets_of_concerns (hv₂.trans (hv₁.symm.trans hw.versions)) hconcerns
  · intro hmeets
    obtain ⟨record, hrecord⟩ := hw.exists_finding dep
    have hconcerns : concerns (Text.lower name) (.str version) entry = .ok true := by
      rw [concerns_eq hw, hmeets, namesMeet, hname, Text.contains_self]
      rfl
    exact ⟨record, (mem_findings h record).mpr
      ⟨dep, hdep, entry, hentry, _, _, lowerName_of_get hd.name, hd.version, hconcerns, hrecord⟩, hrecord⟩

/-- An advisory on the versions below a bound is reported for a dependency of its name exactly if the version of that
dependency is not known or holds the range as a text. So it is never reported for a dotted version, and the report agrees
with the order of versions exactly where the version is not older than the bound. -/
theorem range_reported_iff {entries deps : List Value} (he : ∀ entry ∈ entries, ∃ package versions, Warns entry package versions)
    (hd : ∀ dep ∈ deps, ∃ name version, Declares dep name version) :
    ∃ found, findings (.list entries) (.list deps) = .ok found ∧
      ∀ dep ∈ deps, ∀ entry ∈ entries, ∀ name version package bound, Declares dep name version →
        Warns entry package ("<" ++ bound) → Text.lower name = Text.lower package →
        (Reports found dep entry ↔ version = "unknown" ∨ Text.contains version ("<" ++ bound) = true) ∧
        ∀ v x, Version.ofText? version = some v → Version.ofText? bound = some x →
          ¬ Reports found dep entry ∧ ((Reports found dep entry ↔ Version.Older v x) ↔ ¬ Version.Older v x) := by
  obtain ⟨found, hfound⟩ := exists_findings he hd
  refine ⟨found, hfound, ?_⟩
  intro dep hdep entry hentry name version package bound hdeclares hwarns hname
  have hrange : (("<" ++ bound).isEmpty) = false := by
    rw [String.isEmpty_eq_false_iff]
    intro hempty
    have hlist := congrArg String.toList hempty
    simp at hlist
  have hreports : Reports found dep entry ↔ version = "unknown" ∨ Text.contains version ("<" ++ bound) = true := by
    rw [reports_iff hfound hdep hentry hdeclares hwarns hname, versionMeets, hrange, Bool.false_or, Bool.or_eq_true,
      beq_iff_eq]
  refine ⟨hreports, ?_⟩
  intro v x hv hx
  have hunknown : version ≠ "unknown" := by
    rintro rfl
    have hnone : Version.ofText? "unknown" = none := by decide
    cases hnone.symm.trans hv
  have hnot : ¬ Reports found dep entry := by
    rw [hreports, Version.not_contains_range hv]
    simp [hunknown]
  refine ⟨hnot, ?_⟩
  simp [hnot]

namespace OldRequests

def dependency : Value := .dict [("name", .str "Requests"), ("version", .str "2.28.0")]

def advisory : Value := entry "requests" "CVE-2023-32681" "Requests library vulnerable to SSRF" "high" "<2.31.0" "2.31.0"

/-- The range covers the version, but the advisory is not reported. -/
theorem range_not_reported :
    ∃ found, findings (.list [advisory]) (.list [dependency]) = .ok found ∧ ¬ Reports found dependency advisory ∧
      ((Reports found dependency advisory ↔ Version.Older [2, 28, 0] [2, 31, 0]) ↔
        ¬ Version.Older [2, 28, 0] [2, 31, 0]) := by
  have hwarns : Warns advisory "requests" ("<" ++ "2.31.0") := ⟨rfl, rfl⟩
  have hdeclares : Declares dependency "Requests" "2.28.0" := ⟨rfl, rfl⟩
  have he : ∀ e ∈ [advisory], ∃ package versions, Warns e package versions := by
    intro e hmem
    rw [List.mem_singleton.mp hmem]
    exact ⟨_, _, hwarns⟩
  have hd : ∀ d ∈ [dependency], ∃ name version, Declares d name version := by
    intro d hmem
    rw [List.mem_singleton.mp hmem]
    exact ⟨_, _, hdeclares⟩
  obtain ⟨found, hfound, hall⟩ := range_reported_iff he hd
  obtain ⟨-, hrange⟩ := hall dependency List.mem_cons_self advisory List.mem_cons_self "Requests" "2.28.0" "requests" "2.31.0"
    hdeclares hwarns (by decide)
  exact ⟨found, hfound, hrange [2, 28, 0] [2, 31, 0] (by decide) (by decide)⟩

/-- The version is older than the bound of the shipped advisory, and the shipped database has nothing to report. -/
theorem old_version_not_reported :
    (∃ entries, shippedDatabase = .list entries ∧ advisory ∈ entries) ∧ Declares dependency "Requests" "2.28.0" ∧
    Warns advisory "requests" "<2.31.0" ∧ Text.lower "Requests" = Text.lower "requests" ∧
    Version.ofText? "2.28.0" = some [2, 28, 0] ∧ Version.ofText? "2.31.0" = some [2, 31, 0] ∧
    Version.Older [2, 28, 0] [2, 31, 0] ∧ findings shippedDatabase (.list [dependency]) = .ok [] :=
  ⟨⟨_, rfl, List.mem_cons_self⟩, ⟨rfl, rfl⟩, ⟨rfl, rfl⟩, by decide, by decide, by decide,
    by decide, by rfl⟩

end OldRequests
end Advisory
end ThreatScan
