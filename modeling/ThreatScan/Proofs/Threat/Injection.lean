import ThreatScan.Proofs.Taint.Flows
import ThreatScan.Proofs.Taint.Views
import ThreatScan.Proofs.Threat.Judged
/-!
When a command injection is reported.

A flow supports a command injection if its source is written as an element of the command line arguments and its sink is
`os.system`. A flow through a variable is written as the variable, so what was assigned to the variable is lost, and a sum
makes no flow at all. What is proved: a command injection is reported on a line exactly if a call of `os.system` on that line
is given an element of the arguments itself, or a tainted variable whose own name starts like one
(`injection_reported_iff`). A module that keeps an element in a variable and runs a command made of it is therefore reported
only for the sake of another argument on the same line (`injection_reported_iff_other_argument`).
-/
namespace ThreatScan

/-- An element of the command line arguments. -/
def Tree.isArgvElement (t : Tree) : Bool := t.is "Subscript" && (t.part "value").asDotted? == some ("sys", "argv")

/-- The argument is an element of the command line arguments, or a variable tainted before the call whose name starts like
one. -/
def WrittenArgv (ns : List Tree) (a : SinkArgument) : Prop :=
  a.arg.isArgvElement = true ∨
    ∃ v ∈ a.arg.variableName?, TaintedBefore ns a.position v ∧ Text.startsWith v "sys.argv" = true

/-! ## How arguments are written -/

theorem Text.startsWith_iff {s start : String} : startsWith s start = true ↔ start.toList <+: s.toList := by
  unfold startsWith
  exact List.isPrefixOf_iff_prefix

theorem Text.startsWith_append (s rest : String) : startsWith (s ++ rest) s = true := by
  rw [startsWith_iff, String.toList_append]
  exact List.prefix_append _ _

namespace Tree

theorem isInput_of_isArgvElement {t : Tree} (h : t.isArgvElement = true) : t.isInput = true := by
  obtain ⟨hs, hv⟩ := Bool.and_eq_true_iff.mp h
  unfold isInput
  rw [if_pos hs]
  exact hv

theorem startsWith_outline_of_isArgvElement {t : Tree} (h : t.isArgvElement = true) :
    Text.startsWith t.outline "sys.argv" = true := by
  obtain ⟨hs, hv⟩ := Bool.and_eq_true_iff.mp h
  rw [outline_of_subscript hs (beq_iff_eq.mp hv)]
  exact Text.startsWith_append "sys.argv" "[...]"

/-- An input that is not an element of the arguments is a line that is read, and is written as that. -/
theorem isArgvElement_of_startsWith {t : Tree} (hi : t.isInput = true)
    (h : Text.startsWith t.outline "sys.argv" = true) : t.isArgvElement = true := by
  unfold isInput at hi
  split at hi
  · next hs => exact Bool.and_eq_true_iff.mpr ⟨hs, hi⟩
  · split at hi
    · next hc =>
      cases hf : (t.part "func").asName? with
      | none => simp [hf] at hi
      | some n =>
        rw [outline_of_call hc hf] at h
        simp only [hf, Bool.or_eq_true, beq_iff_eq] at hi
        rcases hi with rfl | rfl
        · exact absurd h (by decide)
        · exact absurd h (by decide)
    · simp at hi

theorem mem_of_dangerousCall? {t : Tree} {sink : String} (h : t.dangerousCall? = some sink) :
    sink ∈ ["eval", "exec", "os.system", "os.popen", "subprocess.call", "subprocess.run", "subprocess.Popen"] := by
  unfold dangerousCall? at h
  split at h
  · obtain ⟨hn, ⟨⟩⟩ := Option.ite_none_right_eq_some.mp h
    simp only [Bool.or_eq_true, beq_iff_eq] at hn
    rcases hn with rfl | rfl <;> decide
  · split at h
    · next ho =>
      cases h
      simp only [Bool.and_eq_true, Bool.or_eq_true, beq_iff_eq] at ho
      rcases ho.2 with rfl | rfl <;> decide
    · obtain ⟨hs, ⟨⟩⟩ := Option.ite_none_right_eq_some.mp h
      simp only [Bool.and_eq_true, Bool.or_eq_true, beq_iff_eq] at hs
      rcases hs.2 with (rfl | rfl) | rfl <;> decide
  · simp at h

/-- Of the dangerous functions, one alone is written like `os.system`. -/
theorem startsWith_iff_of_dangerousCall? {t : Tree} {sink : String} (h : t.dangerousCall? = some sink) :
    Text.startsWith sink "os.system" = true ↔ sink = "os.system" := by
  have hsink := mem_of_dangerousCall? h
  simp only [List.mem_cons, List.not_mem_nil, or_false] at hsink
  rcases hsink with rfl | rfl | rfl | rfl | rfl | rfl | rfl <;> decide

end Tree

/-! ## The flows that support a threat -/

theorem dangerousCall?_of_mem_sinkArguments {ns : List Tree} {a : SinkArgument} (h : a ∈ sinkArguments ns) :
    a.call.dangerousCall? = some a.sink := by
  obtain ⟨⟨n, p⟩, -, ha⟩ := List.mem_flatMap.mp h
  unfold sinkArgumentsAt at ha
  split at ha
  · split at ha
    · next hd =>
      obtain ⟨arg, -, rfl⟩ := List.mem_map.mp ha
      exact hd
    · simp at ha
  · simp at ha

theorem WrittenArgv.reached {ns : List Tree} {a : SinkArgument} (h : WrittenArgv ns a) : Reached ns a := by
  rcases h with h | ⟨v, hv, ht, -⟩
  · exact .inl (Tree.isInput_of_isArgvElement h)
  · exact .inr ⟨v, hv, ht⟩

/-- What is recorded as the source of a flow starts like an element of the arguments exactly if the argument is written
so. -/
theorem FlowRecord.startsWith_iff {ns : List Tree} {a : SinkArgument} {r : Value} (h : FlowRecord ns a r) :
    Text.startsWith a.arg.outline "sys.argv" = true ↔ WrittenArgv ns a := by
  constructor
  · intro hs
    cases h with
    | direct hi => exact .inl (Tree.isArgvElement_of_startsWith hi hs)
    | @through v i n _ hv hl _ =>
      rw [Tree.outline_of_variableName? hv] at hs
      exact .inr ⟨v, hv, ⟨i, hl.1, hl.2.1⟩, hs⟩
  · rintro (he | ⟨v, hv, -, hs⟩)
    · exact Tree.startsWith_outline_of_isArgvElement he
    · rw [Tree.outline_of_variableName? hv]
      exact hs

theorem FlowRecord.fields {ns : List Tree} {a : SinkArgument} {r : Value} (h : FlowRecord ns a r) :
    r.get "source" (.str "") = .ok (.str a.arg.outline) ∧ r.get "sink" (.str "") = .ok (.str a.sink) ∧
    r.get "sink_line" (.int 0) = .ok (.int a.call.line) := by
  cases h with
  | direct _ => exact ⟨rfl, rfl, rfl⟩
  | through _ _ _ _ => exact ⟨rfl, rfl, rfl⟩

namespace Threat

section Record
variable {ns : List Tree} {a : SinkArgument} {r : Value} (h : FlowRecord ns a r)
include h

theorem clueAt_of_record : clueAt r "sink_line" = .ok ⟨r, some (.int a.call.line)⟩ := by
  obtain ⟨-, -, hline⟩ := h.fields
  exact Checked.bind_eq_ok.mpr ⟨_, hline, rfl⟩

theorem injectionFlow_of_record : injectionFlow r =
    .ok (if Text.startsWith a.arg.outline "sys.argv" && Text.startsWith a.sink "os.system"
      then some ⟨r, some (.int a.call.line)⟩ else none) := by
  obtain ⟨hsource, hsink, -⟩ := h.fields
  refine Checked.bind_eq_ok.mpr ⟨_, hsource, ?_⟩
  refine Checked.bind_eq_ok.mpr ⟨a.arg.outline, rfl, ?_⟩
  cases Text.startsWith a.arg.outline "sys.argv" with
  | false => rfl
  | true =>
    refine Checked.bind_eq_ok.mpr ⟨_, hsink, ?_⟩
    refine Checked.bind_eq_ok.mpr ⟨a.sink, rfl, ?_⟩
    cases Text.startsWith a.sink "os.system" with
    | false => rfl
    | true => exact Checked.bind_eq_ok.mpr ⟨_, clueAt_of_record h, rfl⟩

theorem executionFlow_of_record : executionFlow r =
    .ok (if Text.startsWith a.sink "os.system" || Text.contains a.sink "subprocess"
      then some ⟨r, some (.int a.call.line)⟩ else none) := by
  obtain ⟨-, hsink, -⟩ := h.fields
  refine Checked.bind_eq_ok.mpr ⟨_, hsink, ?_⟩
  refine Checked.bind_eq_ok.mpr ⟨a.sink, rfl, ?_⟩
  cases Text.startsWith a.sink "os.system" || Text.contains a.sink "subprocess" with
  | false => rfl
  | true => exact Checked.bind_eq_ok.mpr ⟨_, clueAt_of_record h, rfl⟩

end Record

/-- The clues to a command injection are the calls of `os.system` whose argument is written as an element of the
arguments. -/
theorem supports_injection_iff {t : Tree} {f : Findings} (hf : f.taintFlows.items = .ok (t.taintFlows.map TaintFlow.toValue))
    (l : Value) : (∃ c, Supports f .commandInjection c ∧ c.line = some l) ↔
      ∃ a ∈ sinkArguments t.events, a.sink = "os.system" ∧ WrittenArgv t.events a ∧ l = .int a.call.line := by
  constructor
  · rintro ⟨c, ⟨s, hs, xs, hxs, r, hr, hc⟩, hl⟩
    rw [clueSources, List.mem_singleton] at hs
    subst hs
    rw [hf] at hxs
    cases hxs
    obtain ⟨a, ha, hrec⟩ := exists_argument_of_mem_flows hr
    have hc : injectionFlow r = .ok (some c) := hc
    rw [injectionFlow_of_record hrec] at hc
    obtain ⟨hboth, ⟨⟩⟩ := Option.ite_none_right_eq_some.mp (Except.ok.inj hc)
    obtain ⟨hsource, hsink⟩ := Bool.and_eq_true_iff.mp hboth
    have hd := dangerousCall?_of_mem_sinkArguments ha
    exact ⟨a, ha, (Tree.startsWith_iff_of_dangerousCall? hd).mp hsink, hrec.startsWith_iff.mp hsource,
      (Option.some.inj hl).symm⟩
  · rintro ⟨a, ha, hsink, hw, rfl⟩
    obtain ⟨r, hr, hrec⟩ := exists_flow_of_reached ha hw.reached
    refine ⟨⟨r, some (.int a.call.line)⟩, ⟨_, List.mem_singleton_self _, _, hf, r, hr, ?_⟩, rfl⟩
    have hd := dangerousCall?_of_mem_sinkArguments ha
    show injectionFlow r = _
    rw [injectionFlow_of_record hrec, if_pos]
    exact Bool.and_eq_true_iff.mpr ⟨hrec.startsWith_iff.mpr hw, (Tree.startsWith_iff_of_dangerousCall? hd).mpr hsink⟩

theorem int_mem_lines {ls out : List Value} (h : sortedLines ls = .ok out) (hls : ∀ l ∈ ls, ∃ n : Int, l = .int n) {n : Int}
    (hn : .int n ∈ ls) (hpos : 0 < n) : .int n ∈ out := by
  have hp : isPositive (.int n) = .ok true := by rw [isPositive_int, decide_eq_true hpos]
  obtain ⟨u, hu, hsame⟩ := exists_same_of_mem h hn hp
  obtain ⟨m, rfl⟩ := hls u (mem_of_mem_sortedLines h hu).1
  have hmn : n = m := by simpa [Value.same, Value.compareNumbers?, Value.int?] using hsame
  rw [hmn]
  exact hu

end Threat

/-- A command injection is reported on a line exactly if a call of `os.system` there has an argument that is written as an
element of the arguments. -/
theorem injection_reported_iff {t : Tree} {static dynamic : Value} {a : Aggregate} {ts : List Threat}
    (h : Judged static dynamic a ts) (hf : findingsAt static "taint_flows" = t.taintFlows.map TaintFlow.toValue)
    (line : Nat) : (∃ u ∈ ts, u.kind = .commandInjection ∧ .int line ∈ u.lines) ↔
      0 < line ∧ ∃ b ∈ sinkArguments t.events, b.sink = "os.system" ∧ WrittenArgv t.events b ∧ b.call.line = line := by
  obtain ⟨-, hflows, -⟩ := Aggregate.items_of_ofResults h.aggregated
  rw [hf] at hflows
  obtain ⟨os, hos, rfl⟩ := h.threats
  constructor
  · rintro ⟨u, hu, hk, hl⟩
    obtain ⟨-, hof⟩ := (Threat.mem_threats_iff hos u).mp hu
    rw [hk] at hof
    obtain ⟨ls, hls, hmem⟩ := Threat.lines_of_ofKind hof
    obtain ⟨hl, hpos⟩ := Threat.mem_of_mem_sortedLines hls hl
    rw [Threat.isPositive_int] at hpos
    obtain ⟨b, hb, hsink, hw, hline⟩ := (Threat.supports_injection_iff hflows _).mp ((hmem _).mp hl)
    have hpos : (0 : Int) < line := of_decide_eq_true (Except.ok.inj hpos)
    have hline : (line : Int) = b.call.line := Value.int.inj hline
    exact ⟨by omega, b, hb, hsink, hw, by omega⟩
  · rintro ⟨hpos, b, hb, hsink, hw, rfl⟩
    have hsupp := (Threat.supports_injection_iff hflows (.int b.call.line)).mpr ⟨b, hb, hsink, hw, rfl⟩
    obtain ⟨o, ho⟩ := Checked.exists_of_mapM_eq_ok (Checked.mapM_eq_ok.mpr hos) (ThreatKind.mem_all .commandInjection)
    obtain ⟨u, rfl⟩ : ∃ u, o = some u := by
      obtain ⟨c, hc, -⟩ := hsupp
      exact Option.isSome_iff_exists.mp ((Threat.ofKind_isSome_iff ho).mpr ⟨c, hc⟩)
    obtain ⟨ls, hls, hmem⟩ := Threat.lines_of_ofKind ho
    have hk := Threat.kind_of_ofKind ho
    refine ⟨u, (Threat.mem_threats_iff hos u).mpr ?_, hk, ?_⟩
    · rw [hk]
      exact ⟨ThreatKind.mem_all .commandInjection, ho⟩
    · -- all clues point at whole numbers, so the line is kept as it is and not as an equal number of another kind
      refine Threat.int_mem_lines hls ?_ ((hmem _).mpr hsupp) (by omega)
      intro l hl
      obtain ⟨d, -, -, -, hd⟩ := (Threat.supports_injection_iff hflows l).mp ((hmem l).mp hl)
      exact ⟨_, hd⟩

/-! ## Flows alone -/

def flowResults (t : Tree) : Value := .dict [("taint_flows", .list (t.taintFlows.map TaintFlow.toValue))]

namespace Threat

theorem exists_cluesIn_flows (t : Tree) {clue? : Value → Except Fault (Option Clue)} {p : SinkArgument → Bool}
    (h : ∀ a r, FlowRecord t.events a r → clue? r = .ok (if p a then some ⟨r, some (.int a.call.line)⟩ else none)) :
    ∃ cs, cluesIn (.list (t.taintFlows.map TaintFlow.toValue)) clue? = .ok cs ∧
      ∀ c ∈ cs, ∀ l ∈ c.line, l.isNumber = true := by
  refine exists_cluesIn fun r hr => ?_
  obtain ⟨a, -, hrec⟩ := exists_argument_of_mem_flows hr
  refine ⟨_, h a r hrec, ?_⟩
  intro c hc l hl
  obtain ⟨-, ⟨⟩⟩ := Option.ite_none_right_eq_some.mp hc
  cases hl
  rfl

theorem exists_ofKind_flows (t : Tree) (kind : ThreatKind) :
    ∃ o, ofKind ⟨.list [], .list (t.taintFlows.map TaintFlow.toValue), .list [], .list [], .list []⟩ kind = .ok o := by
  cases kind with
  | remoteExecution =>
    obtain ⟨cs, hcs, hl⟩ := exists_cluesIn_flows t fun a r h => executionFlow_of_record (a := a) h
    -- the matches and the logged calls are empty lists, so the flows bring all clues
    have hall : clues ⟨.list [], .list (t.taintFlows.map TaintFlow.toValue), .list [], .list [], .list []⟩
        .remoteExecution = .ok ([] ++ cs ++ []) := by
      refine Checked.bind_eq_ok.mpr ⟨[], rfl, ?_⟩
      exact Checked.bind_eq_ok.mpr ⟨cs, hcs, rfl⟩
    exact exists_ofKind hall (by simpa using hl)
  | commandInjection =>
    obtain ⟨cs, hcs, hl⟩ := exists_cluesIn_flows t fun a r h => injectionFlow_of_record (a := a) h
    exact exists_ofKind hcs hl
  | webShell => exact ⟨none, rfl⟩
  | backdoor => exact ⟨none, rfl⟩
  | sqlInjection => exact ⟨none, rfl⟩
  | exfiltration => exact ⟨none, rfl⟩
  | fileRisk => exact ⟨none, rfl⟩
  | crash => exact ⟨none, rfl⟩

end Threat

theorem exists_judged_flowResults (t : Tree) : ∃ a ts, Judged (flowResults t) .null a ts := by
  obtain ⟨os, hos⟩ := Checked.exists_mapM_eq_ok fun kind (_ : kind ∈ ThreatKind.all) => Threat.exists_ofKind_flows t kind
  exact ⟨_, _, rfl, Checked.bind_eq_ok.mpr ⟨_, rfl, Checked.bind_eq_ok.mpr ⟨os, hos, rfl⟩⟩⟩

/-! ## Elements kept in a variable -/

/-- Constants and names, and sums of them. -/
inductive Joined : Tree → Prop
  | constant {e : Tree} (hk : e.is "Constant" = true) : Joined e
  | name {e : Tree} {x : String} (hx : e.asName? = some x) : Joined e
  | plus {e : Tree} (hk : e.is "BinOp" = true) (ho : (e.part "op").is "Add" = true) (hl : Joined (e.part "left"))
      (hr : Joined (e.part "right")) : Joined e

/-- A variable, or a sum of constants and names in which it occurs. -/
inductive JoinedWith (v : String) : Tree → Prop
  | self {e : Tree} (hv : e.asName? = some v) : JoinedWith v e
  | left {e : Tree} (hk : e.is "BinOp" = true) (ho : (e.part "op").is "Add" = true) (hl : JoinedWith v (e.part "left"))
      (hr : Joined (e.part "right")) : JoinedWith v e
  | right {e : Tree} (hk : e.is "BinOp" = true) (ho : (e.part "op").is "Add" = true) (hl : Joined (e.part "left"))
      (hr : JoinedWith v (e.part "right")) : JoinedWith v e

/-- A module that assigns an element of the arguments to a variable and, in a later statement, runs a command made of the
variable. What else it assigns does not matter. -/
structure RunsStored (t : Tree) (v : String) (assign stmt call arg : Tree) : Prop where
  module : t.is "Module" = true
  ordered : [assign, stmt].Sublist (t.partItems "body")
  assigns : assign.is "Assign" = true
  stores : v ∈ assign.assignedNames
  element : (assign.part "value").isArgvElement = true
  states : stmt.is "Expr" = true
  runs : stmt.part "value" = call
  calls : call.is "Call" = true
  system : (call.part "func").asDotted? = some ("os", "system")
  single : call.partItems "args" = [arg]
  joined : JoinedWith v arg
  plain : '.' ∉ v.toList

theorem asName?_of_is {e : Tree} {k : String} (hk : e.is k = true) (hn : k ≠ "Name") : e.asName? = none := by
  have hk : e.kind = k := beq_iff_eq.mp hk
  simp [Tree.asName?, Tree.is, hk, hn]

theorem asDotted?_of_is {e : Tree} {k : String} (hk : e.is k = true) (hn : k ≠ "Attribute") : e.asDotted? = none := by
  have hk : e.kind = k := beq_iff_eq.mp hk
  simp [Tree.asDotted?, Tree.asAttribute?, Tree.is, hk, hn]

theorem is_of_asName? {e : Tree} {x : String} (h : e.asName? = some x) : e.is "Name" = true := by
  obtain ⟨hk, -⟩ := Option.ite_none_right_eq_some.mp h
  exact hk

theorem startsWith_of_plain {v : String} (h : '.' ∉ v.toList) : Text.startsWith v "sys.argv" = false := by
  rw [Bool.eq_false_iff]
  intro hs
  exact h ((Text.startsWith_iff.mp hs).subset (by decide))

/-- A command made of a plain variable is never written as an element of the arguments. -/
theorem not_writtenArgv_of_joinedWith {ns : List Tree} {v : String} {b : SinkArgument} (h : JoinedWith v b.arg)
    (hv : '.' ∉ v.toList) : ¬ WrittenArgv ns b := by
  -- a sum is neither an element nor a variable, whatever it is made of
  have hsum : b.arg.is "BinOp" = true → ¬ WrittenArgv ns b := by
    intro hk hw
    have hkind : b.arg.kind = "BinOp" := beq_iff_eq.mp hk
    rcases hw with he | ⟨x, hx, -⟩
    · simp [Tree.isArgvElement, Tree.is, hkind] at he
    · simp [Tree.variableName?, asName?_of_is hk, asDotted?_of_is hk] at hx
  cases h with
  | self hx =>
    have hkind : b.arg.kind = "Name" := beq_iff_eq.mp (is_of_asName? hx)
    rintro (he | ⟨y, hy, -, hs⟩)
    · simp [Tree.isArgvElement, Tree.is, hkind] at he
    · have hy : v = y := by simpa [Tree.variableName?, hx] using hy
      rw [← hy, startsWith_of_plain hv] at hs
      simp at hs
  | left hk _ _ _ => exact hsum hk
  | right hk _ _ _ => exact hsum hk

/-! ## Statements are met in order -/

section Stored
variable {t : Tree} {v : String} {assign stmt call arg : Tree} (h : RunsStored t v assign stmt call arg)
include h

theorem RunsStored.events_sublist : [assign, call].Sublist t.events := by
  have hbody := (Tree.preorderItems_sublist h.ordered).trans (Tree.preorderItems_partItems_sublist t "body")
  have hassign := Tree.mem_preorder_of_is h.assigns (by decide)
  have hcall : call ∈ stmt.preorder := by
    have hpart := Tree.preorder_part_sublist stmt "value"
    rw [h.runs] at hpart
    exact hpart.subset (Tree.mem_preorder_of_is h.calls (by decide))
  have hpair : [assign, call].Sublist t.preorder := by
    refine List.Sublist.trans ?_ hbody
    simp only [Tree.preorderItems, List.append_nil]
    exact (List.singleton_sublist.mpr hassign).append (List.singleton_sublist.mpr hcall)
  have hkept := hpair.filter fun n => n.is "Assign" || n.is "Call"
  simpa [Tree.events, h.assigns, h.calls] using hkept

theorem RunsStored.dangerousCall? : call.dangerousCall? = some "os.system" := by
  have hfunc : (call.part "func").asName? = none := by
    cases hn : (call.part "func").asName? with
    | none => rfl
    | some x =>
      have hd := h.system
      rw [asDotted?_of_is (is_of_asName? hn) (by decide)] at hd
      simp at hd
  simp [Tree.dangerousCall?, hfunc, h.system]

/-- The command is met after the assignment, as an argument of its call. -/
theorem RunsStored.exists_sinkArgument : ∃ b ∈ sinkArguments t.events, b.call = call ∧ b.sink = "os.system" ∧ b.arg = arg ∧
    TaintedBefore t.events b.position v := by
  obtain ⟨before, after, hevents, hassign, hcall⟩ := List.cons_sublist_iff.mp h.events_sublist
  obtain ⟨i, hi, hget⟩ := List.getElem_of_mem hassign
  obtain ⟨j, hj, hgetj⟩ := List.getElem_of_mem (List.singleton_sublist.mp hcall)
  have hati : t.events[i]? = some assign := by
    rw [hevents, List.getElem?_append_left hi, List.getElem?_eq_getElem hi, hget]
  have hatj : t.events[before.length + j]? = some call := by
    rw [hevents, List.getElem?_append_right (by omega), Nat.add_sub_cancel_left, List.getElem?_eq_getElem hj, hgetj]
  refine ⟨⟨before.length + j, call, "os.system", arg⟩, ?_, rfl, rfl, rfl, i, by show i < before.length + j; omega, ?_⟩
  · refine List.mem_flatMap.mpr ⟨(call, before.length + j), List.mem_zipIdx_iff_getElem?.mpr hatj, ?_⟩
    simp [sinkArgumentsAt, h.calls, h.dangerousCall?, h.single]
  · exact ⟨.input hati h.assigns (Tree.isInput_of_isArgvElement h.element), assign, hati, h.stores⟩

/-- The flow from the variable itself is found, under the name of the variable. -/
theorem RunsStored.exists_flow (hv : arg.asName? = some v) :
    ∃ f ∈ t.taintFlows, f.source = v ∧ f.sink = "os.system" ∧ f.sinkLine = call.line := by
  obtain ⟨b, hb, hbcall, hsink, harg, ht⟩ := h.exists_sinkArgument
  have hname : b.arg.variableName? = some v := by rw [harg, Tree.variableName?, hv]
  obtain ⟨r, hr, hrec⟩ := exists_flow_of_reached hb (.inr ⟨v, hname, ht⟩)
  obtain ⟨f, hf, rfl⟩ := List.mem_map.mp hr
  obtain ⟨hsource, hsink', hline⟩ := hrec.fields
  rw [Tree.outline_of_variableName? hname] at hsource
  rw [hsink] at hsink'
  rw [hbcall] at hline
  have hsource : f.source = v := Value.str.inj (Except.ok.inj hsource)
  have hsink' : f.sink = "os.system" := Value.str.inj (Except.ok.inj hsink')
  have hline : (f.sinkLine : Int) = call.line := Value.int.inj (Except.ok.inj hline)
  exact ⟨f, hf, hsource, hsink', by omega⟩

/-- A module that keeps an element of the arguments in a variable and runs a command made of it is reported for a command
injection on that line exactly if the line also has another argument that is written as an element. The command itself does
not count, although the flow from the variable is found. The flows alone can always be judged. -/
theorem injection_reported_iff_other_argument :
    (∃ a ts, Judged (flowResults t) .null a ts) ∧
    (arg.asName? = some v → ∃ f ∈ t.taintFlows, f.source = v ∧ f.sink = "os.system" ∧ f.sinkLine = call.line) ∧
    ∀ static dynamic a ts, Judged static dynamic a ts →
      findingsAt static "taint_flows" = t.taintFlows.map TaintFlow.toValue →
      ((∃ u ∈ ts, u.kind = .commandInjection ∧ .int call.line ∈ u.lines) ↔ 0 < call.line ∧
        ∃ b ∈ sinkArguments t.events, b.arg ≠ arg ∧ b.sink = "os.system" ∧ WrittenArgv t.events b ∧
          b.call.line = call.line) := by
  refine ⟨exists_judged_flowResults t, h.exists_flow, ?_⟩
  intro static dynamic a ts hj hf
  rw [injection_reported_iff hj hf]
  refine and_congr_right fun _ => exists_congr fun b => and_congr_right fun _ => ?_
  constructor
  · rintro ⟨hsink, hw, hline⟩
    have hne : b.arg ≠ arg := by
      intro harg
      have hjoined := h.joined
      rw [← harg] at hjoined
      exact not_writtenArgv_of_joinedWith hjoined h.plain hw
    exact ⟨hne, hsink, hw, hline⟩
  · rintro ⟨-, hrest⟩
    exact hrest

end Stored

/-! ## Small modules -/

namespace StoredArgument

def nameAt (line column : Nat) (x : String) : Tree :=
  .node "Name" (some ⟨line, column⟩) [("id", .name x), ("ctx", .node "Load" none [])]

def attributeAt (line column : Nat) (x a : String) : Tree :=
  .node "Attribute" (some ⟨line, column⟩) [("value", nameAt line column x), ("attr", .name a), ("ctx", .node "Load" none [])]

def elementAt (line column : Nat) : Tree :=
  .node "Subscript" (some ⟨line, column⟩) [("value", attributeAt line column "sys" "argv"),
    ("slice", .node "Constant" (some ⟨line, column + 9⟩) [("value", .constant "1"), ("kind", .absent)]),
    ("ctx", .node "Load" none [])]

/-- `cmd = sys.argv[1]` -/
def assignment : Tree :=
  .node "Assign" (some ⟨2, 0⟩) [("targets", .list [nameAt 2 0 "cmd"]), ("value", elementAt 2 6), ("type_comment", .absent)]

def callAt (line column : Nat) (arg : Tree) : Tree :=
  .node "Call" (some ⟨line, column⟩) [("func", attributeAt line column "os" "system"), ("args", .list [arg]),
    ("keywords", .list [])]

def statementAt (line column : Nat) (arg : Tree) : Tree :=
  .node "Expr" (some ⟨line, column⟩) [("value", callAt line column arg)]

def moduleOf (statements : List Tree) : Tree :=
  .node "Module" none [("body", .list (assignment :: statements)), ("type_ignores", .list [])]

/-- `"echo " + cmd` -/
def echo : Tree :=
  .node "BinOp" (some ⟨3, 10⟩) [("left", .node "Constant" (some ⟨3, 10⟩) [("value", .constant "'echo '"), ("kind", .absent)]),
    ("op", .node "Add" none []), ("right", nameAt 3 20 "cmd")]

theorem runsStored {statements : List Tree} {arg : Tree} (h : statementAt 3 0 arg ∈ statements) (hj : JoinedWith "cmd" arg) :
    RunsStored (moduleOf statements) "cmd" assignment (statementAt 3 0 arg) (callAt 3 0 arg) arg where
  module := rfl
  ordered := (List.singleton_sublist.mpr h).cons_cons assignment
  assigns := rfl
  stores := by decide
  element := by decide
  states := rfl
  runs := rfl
  calls := rfl
  system := rfl
  single := rfl
  joined := hj
  plain := by decide

theorem joinedWith_name : JoinedWith "cmd" (nameAt 3 10 "cmd") := .self rfl

theorem joinedWith_echo : JoinedWith "cmd" echo := .right rfl rfl (.constant rfl) (.self rfl)

/-- `os.system(cmd)` and `os.system("echo " + cmd)` after the one assignment: no command injection is reported. -/
theorem stored_argument_not_reported :
    (RunsStored (moduleOf [statementAt 3 0 (nameAt 3 10 "cmd")]) "cmd" assignment (statementAt 3 0 (nameAt 3 10 "cmd"))
        (callAt 3 0 (nameAt 3 10 "cmd")) (nameAt 3 10 "cmd") ∧
      ((moduleOf [statementAt 3 0 (nameAt 3 10 "cmd")]).events.filter (·.is "Assign")).length = 1 ∧
      ∃ a ts, Judged (flowResults (moduleOf [statementAt 3 0 (nameAt 3 10 "cmd")])) .null a ts ∧
        ts.map Threat.kind = [.remoteExecution]) ∧
    RunsStored (moduleOf [statementAt 3 0 echo]) "cmd" assignment (statementAt 3 0 echo) (callAt 3 0 echo) echo ∧
      ((moduleOf [statementAt 3 0 echo]).events.filter (·.is "Assign")).length = 1 ∧
      ∃ a ts, Judged (flowResults (moduleOf [statementAt 3 0 echo])) .null a ts ∧ ts.map Threat.kind = [] := by
  refine ⟨⟨runsStored List.mem_cons_self joinedWith_name, rfl, _, _, ⟨rfl, rfl⟩, rfl⟩, ?_⟩
  exact ⟨runsStored List.mem_cons_self joinedWith_echo, rfl, _, _, ⟨rfl, rfl⟩, rfl⟩

/-- `os.system(cmd); os.system(sys.argv[1])`: the second call brings the line in. -/
def besideElement : Tree := moduleOf [statementAt 3 0 (nameAt 3 10 "cmd"), statementAt 3 16 (elementAt 3 26)]

theorem stored_argument_reported_beside_element :
    RunsStored besideElement "cmd" assignment (statementAt 3 0 (nameAt 3 10 "cmd")) (callAt 3 0 (nameAt 3 10 "cmd"))
      (nameAt 3 10 "cmd") ∧
    ∃ a ts, Judged (flowResults besideElement) .null a ts ∧
      ∃ u ∈ ts, u.kind = .commandInjection ∧ .int 3 ∈ u.lines := by
  have h : RunsStored besideElement "cmd" assignment (statementAt 3 0 (nameAt 3 10 "cmd"))
      (callAt 3 0 (nameAt 3 10 "cmd")) (nameAt 3 10 "cmd") := runsStored List.mem_cons_self joinedWith_name
  obtain ⟨⟨a, ts, hj⟩, -, hiff⟩ := injection_reported_iff_other_argument h
  refine ⟨h, a, ts, hj, (hiff _ _ a ts hj rfl).mpr ⟨by decide, ?_⟩⟩
  have hargs : sinkArguments besideElement.events = [⟨1, callAt 3 0 (nameAt 3 10 "cmd"), "os.system", nameAt 3 10 "cmd"⟩,
      ⟨2, callAt 3 16 (elementAt 3 26), "os.system", elementAt 3 26⟩] := rfl
  rw [hargs]
  refine ⟨_, List.mem_cons_of_mem _ List.mem_cons_self, ?_, rfl, .inl rfl, rfl⟩
  intro heq
  simp [elementAt, nameAt] at heq

end StoredArgument

end ThreatScan
