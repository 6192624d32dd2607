import ThreatScan.Analysis.Dynamic
import ThreatScan.Proofs.Regex.Words
import ThreatScan.Proofs.Rule.LineOrder
import ThreatScan.Proofs.Sandbox.Run
import ThreatScan.Proofs.Value.Parts
/-!
What the records of results are made of.

A dependency is recorded with its version, a finding of an advisory with the name of the advisory. No other record of an
analysis has fields of these names (`dependencyKeys`), apart from what a rule brings along in its own fields, which are passed on
to its matches as they were written. So static results are a record whose flows, structures and symbols are clear of these keys
(`yields_staticResults`), and dynamic results are clear of them altogether (`yields_dynamicResults`).
-/
namespace ThreatScan

/-! ## Results of actions -/

namespace Act

def Yields {α : Type} (P : α → Prop) (x : Act α) : Prop := ∀ h a h', Gives x h a h' → P a

namespace Yields
variable {α β : Type} {P : α → Prop} {Q : β → Prop} {x : Act α} {f : α → Act β}

theorem pure' {a : α} (ha : P a) : Yields P (pure a) := by
  intro h b h' hg
  obtain ⟨rfl, -⟩ := gives_pure.mp hg
  exact ha

theorem bind' (hx : Yields P x) (hf : ∀ a, P a → Yields Q (f a)) : Yields Q (x >>= f) := by
  intro h b h' hg
  obtain ⟨a, h₁, hg, hg'⟩ := gives_bind.mp hg
  exact hf a (hx h a h₁ hg) h₁ b h' hg'

theorem after (hf : ∀ a, Yields Q (f a)) : Yields Q (x >>= f) :=
  bind' (P := fun _ => True) (fun _ _ _ _ => trivial) fun a _ => hf a

theorem valid {y : Except Fault α} (hy : ∀ a, y = .ok a → P a) : Yields P (Act.valid y) := by
  intro h a h' hg
  exact hy a (gives_valid.mp hg).1

theorem mapM {g : β → Act α} (hg : ∀ b, Yields P (g b)) (bs : List β) : Yields (fun as => ∀ a ∈ as, P a) (bs.mapM g) := by
  induction bs with
  | nil => exact pure' fun _ ha => absurd ha List.not_mem_nil
  | cons b bs ih =>
    rw [List.mapM_cons]
    refine bind' (hg b) fun a ha => bind' ih fun as has => pure' ?_
    exact List.forall_mem_cons.mpr ⟨ha, has⟩

end Yields
end Act

open Act Value

/-- The fields that tell dependencies and findings of advisories from all other records. -/
def dependencyKeys : List String := ["version", "cve_id"]

@[simp] theorem mem_dependencyKeys {key : String} : key ∈ dependencyKeys ↔ key = "version" ∨ key = "cve_id" := by
  simp [dependencyKeys]

def IsDependency (v : Value) : Prop := ∃ key ∈ dependencyKeys, v.field? key ≠ none

theorem Value.Clear.not_isDependency {v w : Value} (hw : Clear dependencyKeys w) (hv : v ∈ w.parts) : ¬ IsDependency v := by
  rintro ⟨key, hkey, hne⟩
  exact hne (hw v hv key hkey)

/-! ## Dependencies and findings of advisories -/

theorem Dependency.isDependency (d : Dependency) : IsDependency d.toValue :=
  ⟨"version", by simp, by simp [Dependency.toValue, field?, fieldOf?]⟩

namespace Advisory

theorem isDependency_finding {dep entry v : Value} (h : finding dep entry = .ok v) : IsDependency v := by
  obtain ⟨id, -, h⟩ := Checked.bind_eq_ok.mp h
  obtain ⟨text, -, h⟩ := Checked.bind_eq_ok.mp h
  obtain ⟨severity, -, h⟩ := Checked.bind_eq_ok.mp h
  obtain ⟨vulnerable, -, h⟩ := Checked.bind_eq_ok.mp h
  obtain ⟨fixed, -, h⟩ := Checked.bind_eq_ok.mp h
  rw [← Checked.pure_eq_ok.mp h]
  exact ⟨"cve_id", by simp, by simp [field?, fieldOf?]⟩

theorem isDependency_findingsOf {dep version entry : Value} {name : String} {vs : List Value}
    (h : findingsOf dep name version entry = .ok vs) : ∀ v ∈ vs, IsDependency v := by
  obtain ⟨b, -, h⟩ := Checked.bind_eq_ok.mp h
  cases b with
  | false =>
    rw [← Checked.pure_eq_ok.mp h]
    exact fun _ hv => absurd hv List.not_mem_nil
  | true =>
    obtain ⟨v, hv, h⟩ := Checked.bind_eq_ok.mp h
    rw [← Checked.pure_eq_ok.mp h]
    exact List.forall_mem_singleton.mpr (isDependency_finding hv)

theorem isDependency_findings {database deps : Value} {vs : List Value} (h : findings database deps = .ok vs) :
    ∀ v ∈ vs, IsDependency v := by
  intro v hv
  obtain ⟨xs, -, h⟩ := Checked.bind_eq_ok.mp h
  obtain ⟨yss, hyss, h⟩ := Checked.bind_eq_ok.mp h
  rw [← Checked.pure_eq_ok.mp h] at hv
  obtain ⟨ys, hys, hv⟩ := List.mem_flatten.mp hv
  obtain ⟨dep, -, hdep⟩ := (Checked.mem_iff_of_mapM_eq_ok hyss ys).mp hys
  -- the same once more, for the advisories on one dependency
  obtain ⟨name, -, hdep⟩ := Checked.bind_eq_ok.mp hdep
  obtain ⟨version, -, hdep⟩ := Checked.bind_eq_ok.mp hdep
  obtain ⟨entries, -, hdep⟩ := Checked.bind_eq_ok.mp hdep
  obtain ⟨zss, hzss, hdep⟩ := Checked.bind_eq_ok.mp hdep
  rw [← Checked.pure_eq_ok.mp hdep] at hv
  obtain ⟨zs, hzs, hv⟩ := List.mem_flatten.mp hv
  obtain ⟨entry, -, hentry⟩ := (Checked.mem_iff_of_mapM_eq_ok hzss zs).mp hzs
  exact isDependency_findingsOf hentry v hv

end Advisory

/-! ## Matches of rules -/

namespace Rule

/-- The rule of a finding is one of those that were read. -/
theorem exists_record_of_mem_scanValue {source rules : Value} {found : List RuleMatch}
    (h : scanValue source rules = .ok found) {m : RuleMatch} (hm : m ∈ found) :
    ∃ records, rules.items = .ok records ∧ ∃ v ∈ records, ofValue v = .ok m.rule := by
  obtain ⟨text, records, rs, -, hrecords, hrs, hm⟩ := exists_of_mem_scanValue h hm
  rw [scanAll, List.mem_mergeSort, List.mem_flatMap] at hm
  obtain ⟨r, hr, hm⟩ := hm
  rw [(mem_scan hm).1]
  exact ⟨records, hrecords, (Checked.mem_iff_of_mapM_eq_ok hrs r).mp hr⟩

theorem mem_of_selectFor {language : String} {records chosen : List Value} (h : selectFor language records = .ok chosen) :
    ∀ v ∈ chosen, v ∈ records := by
  induction records generalizing chosen with
  | nil =>
    cases h
    exact fun _ hv => hv
  | cons r rest ih =>
    obtain ⟨keep, -, h⟩ := Checked.bind_eq_ok.mp h
    obtain ⟨others, hothers, h⟩ := Checked.bind_eq_ok.mp h
    rw [← Checked.pure_eq_ok.mp h]
    intro v hv
    cases keep with
    | false => exact List.mem_cons_of_mem r (ih hothers v hv)
    | true =>
      rcases List.mem_cons.mp hv with rfl | hv
      · exact List.mem_cons_self
      · exact List.mem_cons_of_mem r (ih hothers v hv)

theorem clear_match {v : Value} (hv : Clear dependencyKeys v) {m : RuleMatch} (h : ofValue v = .ok m.rule) :
    Clear dependencyKeys m.toValue := by
  obtain ⟨id, hid, h⟩ := Checked.bind_eq_ok.mp h
  obtain ⟨name, hname, h⟩ := Checked.bind_eq_ok.mp h
  obtain ⟨pattern, -, h⟩ := Checked.bind_eq_ok.mp h
  obtain ⟨severity, hseverity, h⟩ := Checked.bind_eq_ok.mp h
  obtain ⟨description, hdescription, h⟩ := Checked.bind_eq_ok.mp h
  have hrule := Checked.pure_eq_ok.mp h
  simp [RuleMatch.toValue, ← hrule, hv.get (clear_str _) hid, hv.get (clear_str _) hname,
    hv.get (clear_str _) hseverity, hv.get (clear_str _) hdescription]

end Rule

/-! ## Records that are clear -/

section Records

theorem TaintFlow.clear (f : TaintFlow) : Clear dependencyKeys f.toValue := by
  unfold toValue
  cases f.via <;> simp

theorem LineFlow.clear (f : LineFlow) : Clear dependencyKeys f.toValue := by
  simp [toValue]

theorem FlowStructure.clear (s : FlowStructure) : Clear dependencyKeys s.toValue := by
  unfold toValue
  cases s.head <;> simp [lineList]

theorem FunctionSymbol.clear (f : FunctionSymbol) : Clear dependencyKeys f.toValue := by
  unfold toValue
  cases f.owner <;> simp

theorem ImportSymbol.clear (i : ImportSymbol) : Clear dependencyKeys i.toValue := by
  unfold toValue
  cases i.name <;> simp

theorem Symbols.clear (s : Symbols) : Clear dependencyKeys s.toValue := by
  simp [toValue, FunctionSymbol.clear, ImportSymbol.clear, VariableSymbol.toValue, ClassSymbol.toValue]

theorem GoFile.clear (f : GoFile) : Clear dependencyKeys f.toValue := by
  simp [toValue, Block.toValue, Declared.toValue]

theorem JavaFile.clear (f : JavaFile) : Clear dependencyKeys f.toValue := by
  simp [toValue, Block.toValue, Declared.toValue]

theorem NetworkActivity.clear (a : NetworkActivity) : Clear dependencyKeys a.toValue := by
  have haddress : Clear dependencyKeys a.address.toValue := by
    unfold Address.toValue
    cases a.address <;> simp
  simp [toValue, haddress]

theorem FuzzResult.clear {r : FuzzResult} (h : r.elapsed.isNumber = true) : Clear dependencyKeys r.toValue := by
  have helapsed : Clear dependencyKeys r.elapsed := clear_of_isNumber h
  unfold toValue
  cases r.failure <;> simp [helapsed, NetworkActivity.clear]

end Records

/-! ## How long a run takes -/

namespace Sandbox

theorem isNumber_elapsed {target : String} {args : List String} {timeout : Value} (ht : timeout.isNumber = true) :
    Yields (fun r => r.elapsed.isNumber = true) (run target args timeout none) := by
  intro h r h' hg
  obtain ⟨d, -, -, rfl, -⟩ := gives_run_for hg
  unfold childResult
  dsimp only
  split
  · exact ht
  · rfl

end Sandbox

namespace Fuzz

theorem isNumber_elapsed {target : String} {count : Int} {timeout : Value} (ht : timeout.isNumber = true) :
    Yields (fun zs => ∀ z ∈ zs, z.elapsed.isNumber = true) (run target count timeout) := by
  refine .after fun inputs => .mapM (fun input => ?_) inputs
  intro h z h' hg
  have hobserve : Yields (fun ra => ra.1.elapsed.isNumber = true) (observe target timeout input) :=
    .bind' (Sandbox.isNumber_elapsed ht) fun r hr => .after fun _ => .after fun _ => .pure' hr
  have htest := gives_always.mp hg
  rw [test, Host.after_bind, after_attempt] at htest
  rcases gives_or_fails (observe target timeout input) h with ⟨⟨r, as⟩, h₁, hg⟩ | ⟨e, h₁, hf⟩
  · rw [hg] at htest
    rw [← (Prod.mk.inj htest).1]
    exact hobserve h (r, as) h₁ hg
  · rw [hf] at htest
    rw [← (Prod.mk.inj htest).1]
    rfl

end Fuzz

namespace Analysis

theorem isNumber_of_shortLimit {timeout limit : Value} (h : shortLimit timeout = .ok limit) : limit.isNumber = true := by
  obtain ⟨less, hless, h⟩ := Checked.bind_eq_ok.mp h
  rw [← Checked.pure_eq_ok.mp h]
  unfold lessThan at hless
  split at hless
  · next hnumbers =>
    have hboth := (Bool.and_eq_true _ _).mp hnumbers
    split
    · exact hboth.1
    · exact hboth.2
  · cases hless

/-! ## Static results -/

theorem clear_listsOf {record : Value} (hr : Clear dependencyKeys record) {keys : List String} {xs : List Value}
    (h : listsOf record keys = .ok xs) : ∀ x ∈ xs, Clear dependencyKeys x := by
  induction keys generalizing xs with
  | nil =>
    cases h
    exact fun _ hx => absurd hx List.not_mem_nil
  | cons key keys ih =>
    obtain ⟨v, hv, h⟩ := Checked.bind_eq_ok.mp h
    obtain ⟨ys, hys, h⟩ := Checked.bind_eq_ok.mp h
    obtain ⟨zs, hzs, h⟩ := Checked.bind_eq_ok.mp h
    rw [← Checked.pure_eq_ok.mp h]
    have hclear : Clear dependencyKeys v := hr.get (by simp) hv
    exact List.forall_mem_append.mpr ⟨hclear.items hys, ih hzs⟩

theorem clear_outlineSummary {type : String} {keys : List String} (hkeys : ∀ key ∈ keys, key ∉ dependencyKeys)
    {outline summary : Value} (ho : Clear dependencyKeys outline) (h : outlineSummary type keys outline = .ok summary) :
    Clear dependencyKeys summary := by
  obtain ⟨package, hpackage, h⟩ := Checked.bind_eq_ok.mp h
  obtain ⟨imports, himports, h⟩ := Checked.bind_eq_ok.mp h
  obtain ⟨is, his, h⟩ := Checked.bind_eq_ok.mp h
  obtain ⟨lists, hlists, h⟩ := Checked.bind_eq_ok.mp h
  obtain ⟨source, hsource, h⟩ := Checked.bind_eq_ok.mp h
  have hitems := (ho.get (by simp) himports).items his
  have hfields : ∀ f ∈ keys.zip lists, f.1 ∉ dependencyKeys ∧ Clear dependencyKeys f.2 := by
    rintro ⟨key, v⟩ hf
    obtain ⟨k, -, hv⟩ := (Checked.mem_iff_of_mapM_eq_ok hlists v).mp (List.of_mem_zip hf).2
    exact ⟨hkeys key (List.of_mem_zip hf).1, ho.get (by simp) hv⟩
  rw [← Checked.pure_eq_ok.mp h, clear_dict]
  refine List.forall_mem_append.mpr ⟨List.forall_mem_append.mpr ⟨?_, hfields⟩, ?_⟩
  · simpa [ho.get (clear_str _) hpackage] using hitems
  · simp [ho.get (clear_str _) hsource]

theorem yields_prepare (path language : String) :
    Yields (fun p => Clear dependencyKeys p.symbols) (prepare path language) := by
  refine .after fun _ => .after fun _ => .after fun _ => .after fun source => ?_
  split
  · refine .after fun _ => .after fun _ => .after fun _ => .after fun tree => .after fun _ => .after fun _ => ?_
    exact .pure' tree.symbols.clear
  all_goals
    refine .after fun _ => .after fun _ => .after fun file => ?_
    refine .bind' (.valid fun _ => clear_outlineSummary (by decide) file.clear) fun summary hsummary => ?_
    exact .bind' (.valid fun _ => clear_listsOf hsummary) fun xs hxs => .pure' (clear_list.mpr hxs)

inductive IsStatic (rules : List Value) : Value → Prop
  | record {ms : List RuleMatch} {flows structures errors deps findings : List Value} {valid : Bool} {p : Prepared}
      (hrules : ∀ m ∈ ms, ∃ v ∈ rules, Rule.ofValue v = .ok m.rule) (hflows : ∀ x ∈ flows, Clear dependencyKeys x)
      (hstructures : ∀ x ∈ structures, Clear dependencyKeys x) (hsymbols : Clear dependencyKeys p.symbols)
      (hdeps : ∀ v ∈ deps ++ findings, IsDependency v) :
      IsStatic rules (staticRecord (ms.map RuleMatch.toValue) flows structures valid errors p deps findings)

theorem yields_ruleMatches (source : String) (rules : List Value) :
    Yields (fun found => ∃ ms : List RuleMatch, found = ms.map RuleMatch.toValue ∧
      ∀ m ∈ ms, ∃ v ∈ rules, Rule.ofValue v = .ok m.rule) (ruleMatches source rules) := by
  refine .bind' (P := fun ms => ∀ m ∈ ms, ∃ v ∈ rules, Rule.ofValue v = .ok m.rule) (.valid fun ms hms m hm => ?_)
    fun ms hms => .pure' ⟨ms, rfl, hms⟩
  obtain ⟨records, hrecords, hrule⟩ := Rule.exists_record_of_mem_scanValue hms hm
  cases hrecords
  exact hrule

theorem yields_dependencyResults (path language : String) :
    Yields (fun ds => ∀ v ∈ ds.1 ++ ds.2, IsDependency v) (dependencyResults path language) := by
  refine .after fun h => .bind' (.valid fun vs hvs => Advisory.isDependency_findings hvs) fun vs hvs => .pure' ?_
  refine List.forall_mem_append.mpr ⟨fun v hv => ?_, hvs⟩
  obtain ⟨d, -, rfl⟩ := List.mem_map.mp hv
  exact d.isDependency

theorem yields_staticResults {s : Settings} (hs : s.static = true) (path language : String) :
    Yields (IsStatic (Rule.listOf s.rules)) (staticResults s path language) := by
  have hpython : ∀ p : Prepared, Clear dependencyKeys p.symbols →
      Yields (IsStatic (Rule.listOf s.rules)) (pythonResults s path p) := by
    intro p hp
    refine .after fun _ => .after fun _ => .bind' (yields_ruleMatches _ _) fun found hfound => ?_
    obtain ⟨ms, rfl, hms⟩ := hfound
    refine .bind' (yields_dependencyResults _ _) fun ⟨deps, findings⟩ hdeps => .pure' (.record hms ?_ ?_ hp hdeps)
    · exact List.forall_mem_map.mpr fun f _ => f.clear
    · exact List.forall_mem_map.mpr fun t _ => t.clear
  have hother : ∀ language check words p, Clear dependencyKeys (Prepared.symbols p) →
      Yields (IsStatic (Rule.listOf s.rules)) (otherResults s path language check words p) := by
    intro language check words p hp
    refine .after fun _ => .bind' (.valid fun _ => Rule.mem_of_selectFor) fun rules hrules => ?_
    refine .bind' (yields_ruleMatches _ _) fun found hfound => .after fun _ => ?_
    obtain ⟨ms, rfl, hms⟩ := hfound
    have hms' : ∀ m ∈ ms, ∃ v ∈ Rule.listOf s.rules, Rule.ofValue v = .ok m.rule := by
      intro m hm
      obtain ⟨v, hv, hrule⟩ := hms m hm
      exact ⟨v, hrules v hv, hrule⟩
    refine .bind' (yields_dependencyResults _ _) fun ⟨deps, findings⟩ hdeps => .pure' (.record hms' ?_ ?_ hp hdeps)
    · exact List.forall_mem_map.mpr fun f _ => f.clear
    · exact fun _ hx => absurd hx List.not_mem_nil
  refine .bind' (yields_prepare path language) fun p hp => ?_
  rw [hs]
  refine .after fun _ => ?_
  split
  · exact hpython p hp
  · exact hother _ _ _ p hp
  · exact hother _ _ _ p hp

/-! ## Dynamic results -/

inductive IsDynamic : Value → Prop
  | record {syscalls activities fuzz : List Value} {log : String} {more : List (String × Value)}
      (hsyscalls : ∀ x ∈ syscalls, Clear dependencyKeys x) (hactivities : ∀ x ∈ activities, Clear dependencyKeys x)
      (hfuzz : ∀ x ∈ fuzz, Clear dependencyKeys x) : IsDynamic (dynamicRecord syscalls activities fuzz log more)

theorem yields_dynamicResults (s : Settings) (path language : String) :
    Yields IsDynamic (dynamicResults s path language) := by
  have hnone : ∀ x ∈ ([] : List Value), Clear dependencyKeys x := fun _ hx => absurd hx List.not_mem_nil
  have hempty : ∀ more, IsDynamic (dynamicRecord [] [] [] "" more) := fun _ => .record hnone hnone hnone
  unfold dynamicResults
  split
  · exact .pure' (hempty [])
  · split
    · exact .after fun _ => .pure' (hempty _)
    · refine .after fun _ => ?_
      split
      · refine .after fun result => .after fun _ => .after fun activities => ?_
        refine .bind' (.valid fun _ => isNumber_of_shortLimit) fun limit hlimit => ?_
        refine .bind' (Fuzz.isNumber_elapsed hlimit) fun fuzz hfuzz => .pure' (.record ?_ ?_ ?_)
        · exact List.forall_mem_map.mpr fun e _ => clear_str _
        · exact List.forall_mem_map.mpr fun a _ => a.clear
        · exact List.forall_mem_map.mpr fun z hz => z.clear (hfuzz z hz)
      · exact .pure' (hempty _)

end Analysis
end ThreatScan
