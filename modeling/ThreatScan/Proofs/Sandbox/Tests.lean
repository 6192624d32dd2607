import ThreatScan.Proofs.Sandbox.Run
import ThreatScan.Proofs.Text.Search
/-!
What a series of tests reports.

A test reports its argument, and reports a crash exactly if its run breaks off or the child process crashes (`Tested`): whatever
becomes of the run, the test itself comes to its end. The tests of a series follow one another, each on the host that the one
before it left (`Series`), so there is a result for each argument and in their order. The arguments are random texts over the
alphabet (`IsRandom`), and behind them as many injections as there are.
-/
namespace ThreatScan

/-- A child process crashes if it exceeds its time, ends with an error code, or writes about an error. -/
def ChildRun.Crashes (run : ChildRun) : Prop :=
  run.timedOut = true ∨ run.code ≠ 0 ∨ "Traceback".toList <:+: run.errors.toList ∨ "Error".toList <:+: run.errors.toList

namespace Fuzz

open Act

/-! ## One test -/

section Test
variable {target input : String} {timeout : Value} {h h' : Host}

/-- The run with an argument fails, or its log cannot be understood. -/
def BreaksOff (target : String) (timeout : Value) (input : String) (h : Host) : Prop :=
  (∃ e h', Fails (Sandbox.run target [input] timeout none) h e h') ∨
  ∃ r h' f, Gives (Sandbox.run target [input] timeout none) h r h' ∧ NetworkLog.read h'.disk r.logFile = .error f

/-- A test that begins on one host and leaves another. -/
structure Tested (target : String) (timeout : Value) (input : String) (h : Host) (r : FuzzResult) (h' : Host) : Prop where
  after_test : Host.after (test target timeout input) h = (r, h')
  input_eq : r.input = input
  crashed_iff : r.crashed = true ↔ BreaksOff target timeout input h ∨ (h.runs h.started).Crashes

theorem gives_observe {r : SandboxResult} {activities : List NetworkActivity} :
    Gives (observe target timeout input) h (r, activities) h' ↔
      Gives (Sandbox.run target [input] timeout none) h r h' ∧ NetworkLog.read h'.disk r.logFile = .ok activities := by
  constructor
  · intro hg
    obtain ⟨r', h₁, hrun, hg⟩ := gives_bind.mp hg
    obtain ⟨g, h₂, hget, hg⟩ := gives_bind.mp hg
    obtain ⟨rfl, rfl⟩ := gives_get.mp hget
    obtain ⟨as, h₃, hvalid, hg⟩ := gives_bind.mp hg
    obtain ⟨hread, rfl⟩ := gives_valid.mp hvalid
    obtain ⟨hpair, rfl⟩ := gives_pure.mp hg
    obtain ⟨rfl, rfl⟩ := Prod.mk.inj hpair
    exact ⟨hrun, hread⟩
  · rintro ⟨hrun, hread⟩
    refine gives_bind.mpr ⟨r, h', hrun, gives_bind.mpr ⟨h', h', gives_get.mpr ⟨rfl, rfl⟩, ?_⟩⟩
    exact gives_bind.mpr ⟨activities, h', gives_valid.mpr ⟨hread, rfl⟩, gives_pure.mpr ⟨rfl, rfl⟩⟩

theorem breaksOff_iff : BreaksOff target timeout input h ↔ ∃ e h', Fails (observe target timeout input) h e h' := by
  constructor
  · rintro (⟨e, h', hf⟩ | ⟨r, h', f, hg, hread⟩)
    · exact ⟨e, h', fails_bind.mpr (.inl hf)⟩
    · have hvalid : Fails (valid (NetworkLog.read h'.disk r.logFile)) h' (.fault f) h' := fails_check.mpr ⟨f, hread, rfl, rfl⟩
      refine ⟨.fault f, h', fails_bind.mpr (.inr ⟨r, h', hg, ?_⟩)⟩
      exact fails_bind.mpr (.inr ⟨h', h', gives_get.mpr ⟨rfl, rfl⟩, fails_bind.mpr (.inl hvalid)⟩)
  · rintro ⟨e, h', hf⟩
    -- a run with a log that can be understood would have been observed
    rcases gives_or_fails (Sandbox.run target [input] timeout none) h with ⟨r, h₁, hg⟩ | hfails
    · cases hread : NetworkLog.read h₁.disk r.logFile with
      | ok activities => exact absurd hf (gives_observe.mpr ⟨hg, hread⟩).not_fails
      | error f => exact .inr ⟨r, h₁, f, hg, hread⟩
    · exact .inl hfails

theorem breaksOff_of_refused (hrefused : ¬ Sandbox.Starts h) : BreaksOff target timeout input h := by
  rcases gives_or_fails (Sandbox.run target [input] timeout none) h with ⟨r, h', hg⟩ | hfails
  · obtain ⟨-, -, hstarts, -⟩ := Sandbox.gives_run_for hg
    exact absurd hstarts hrefused
  · exact .inl hfails

theorem isCrash_childResult (log : String) (timeout : Value) (h : Host) :
    isCrash (Sandbox.childResult log timeout h) = true ↔ (h.runs h.started).Crashes := by
  unfold Sandbox.childResult isCrash ChildRun.Crashes
  dsimp only
  cases ht : (h.runs h.started).timedOut with
  | true => simp
  | false => simp [Text.contains_iff, or_assoc]

/-- A test comes to an end whatever becomes of its run. -/
theorem Tested.of_after {r : FuzzResult} (ht : Host.after (test target timeout input) h = (r, h')) :
    Tested target timeout input h r h' := by
  have hreport : (Host.after (test target timeout input) h).1 = r := congrArg Prod.fst ht
  rw [test, Host.after_bind, after_attempt] at hreport
  rcases gives_or_fails (observe target timeout input) h with ⟨⟨result, activities⟩, h₁, hg⟩ | ⟨e, h₁, hf⟩
  · have hbreaks : ¬ BreaksOff target timeout input h := by
      intro hb
      obtain ⟨e, h₂, hf⟩ := breaksOff_iff.mp hb
      exact hg.not_fails hf
    obtain ⟨d, -, -, hresult, -⟩ := Sandbox.gives_run_for (gives_observe.mp hg).1
    rw [hg] at hreport
    refine ⟨ht, ?_, ?_⟩
    · rw [← hreport]
      rfl
    · rw [or_iff_right hbreaks, ← hreport, ← isCrash_childResult _ timeout { h with named := h.named + 1, disk := d }, ← hresult]
      rfl
  · rw [hf] at hreport
    refine ⟨ht, ?_, ?_⟩
    · rw [← hreport]
      rfl
    · rw [← hreport]
      exact iff_of_true rfl (.inl (breaksOff_iff.mpr ⟨e, h₁, hf⟩))

end Test

/-! ## A series of tests -/

/-- Tests with some arguments, one after the other, and their results. -/
inductive Series (target : String) (timeout : Value) : Host → List String → List FuzzResult → Host → Prop
  | nil {h : Host} : Series target timeout h [] [] h
  | cons {input : String} {inputs : List String} {r : FuzzResult} {rs : List FuzzResult} {h h₁ h₂ : Host}
      (ht : Tested target timeout input h r h₁) (hs : Series target timeout h₁ inputs rs h₂) :
      Series target timeout h (input :: inputs) (r :: rs) h₂

namespace Series

variable {target : String} {timeout : Value} {inputs : List String} {results : List FuzzResult} {h h' : Host}

theorem inputs_eq (hs : Series target timeout h inputs results h') : results.map FuzzResult.input = inputs := by
  induction hs with
  | nil => rfl
  | cons ht _ ih => rw [List.map_cons, ht.input_eq, ih]

theorem of_gives (hg : Gives (inputs.mapM fun input => always (test target timeout input)) h results h') :
    Series target timeout h inputs results h' := by
  induction inputs generalizing h results with
  | nil =>
    rw [List.mapM_nil] at hg
    obtain ⟨rfl, rfl⟩ := gives_pure.mp hg
    exact .nil
  | cons input inputs ih =>
    rw [List.mapM_cons] at hg
    obtain ⟨r, h₁, htest, hg⟩ := gives_bind.mp hg
    obtain ⟨rs, h₂, hrest, hg⟩ := gives_bind.mp hg
    obtain ⟨rfl, rfl⟩ := gives_pure.mp hg
    exact .cons (.of_after (gives_always.mp htest)) (ih hrest)

end Series

/-! ## The arguments -/

structure IsRandom (text : String) : Prop where
  one_le_length : 1 ≤ text.length
  length_le : text.length ≤ 50
  mem_alphabet : ∀ c ∈ text.toList, c ∈ alphabet

section Random
variable {h h' : Host}

theorem gives_randomBetween {low high n : Int} (hg : Gives (Host.randomBetween low high) h n h') : low ≤ n ∧ n ≤ high := by
  by_cases hempty : high < low
  · have hfails : Fails (Host.randomBetween low high) h .emptyRange h := by
      unfold Host.randomBetween
      rw [if_pos hempty]
      rfl
    exact absurd hfails hg.not_fails
  · have hdrawn : Gives (Host.randomBetween low high) h (low + Int.emod (h.draws h.drawn) (high - low + 1))
        { h with drawn := h.drawn + 1 } := by
      unfold Host.randomBetween
      rw [if_neg hempty]
      rfl
    cases hg.symm.trans hdrawn
    have hnonneg := Int.emod_nonneg (h.draws h.drawn) (show high - low + 1 ≠ 0 by omega)
    have hlt := Int.emod_lt_of_pos (h.draws h.drawn) (show 0 < high - low + 1 by omega)
    change 0 ≤ Int.emod _ _ at hnonneg
    change Int.emod _ _ < _ at hlt
    omega

theorem randomItem_mem {α : Type} (default : α) {items : List α} (hitems : items ≠ []) (h : Host) :
    (Host.after (Host.randomItem default items) h).1 ∈ items := by
  have hlt : h.draws h.drawn % items.length < items.length := Nat.mod_lt _ (List.length_pos_iff.mpr hitems)
  change (items[h.draws h.drawn % items.length]?).getD default ∈ items
  rw [List.getElem?_eq_getElem hlt]
  exact List.getElem_mem hlt

theorem alphabet_ne_nil : alphabet ≠ [] := by decide

theorem randomChars_mem (n : Nat) (h : Host) : (Host.after (randomChars n) h).1.length = n ∧
    ∀ c ∈ (Host.after (randomChars n) h).1, c ∈ alphabet := by
  induction n generalizing h with
  | zero => exact ⟨rfl, fun c hc => absurd hc List.not_mem_nil⟩
  | succ n ih =>
    let first := Host.after (Host.randomItem 'a' alphabet) h
    obtain ⟨hlength, hmem⟩ := ih first.2
    have hcons : (Host.after (randomChars (n + 1)) h).1 = first.1 :: (Host.after (randomChars n) first.2).1 := rfl
    rw [hcons]
    refine ⟨by rw [List.length_cons, hlength], fun c hc => ?_⟩
    rcases List.mem_cons.mp hc with rfl | hc
    · exact randomItem_mem 'a' alphabet_ne_nil h
    · exact hmem c hc

theorem isRandom_randomText {text : String} (hg : Gives (randomText 1 50) h text h') : IsRandom text := by
  obtain ⟨n, h₁, hn, hg⟩ := gives_bind.mp hg
  obtain ⟨cs, h₂, hcs, hg⟩ := gives_bind.mp hg
  obtain ⟨rfl, rfl⟩ := gives_pure.mp hg
  obtain ⟨hlow, hhigh⟩ := gives_randomBetween hn
  obtain ⟨hlength, hmem⟩ := randomChars_mem n.toNat h₁
  rw [gives_always.mp hcs] at hlength hmem
  have hchars : (String.ofList cs).length = n.toNat := by rw [String.length_ofList, hlength]
  refine ⟨by omega, by omega, ?_⟩
  rw [String.toList_ofList]
  exact hmem

theorem isRandom_randomTexts {n : Nat} {texts : List String} (hg : Gives (randomTexts n) h texts h') :
    texts.length = n ∧ ∀ text ∈ texts, IsRandom text := by
  induction n generalizing h texts with
  | zero =>
    obtain ⟨rfl, -⟩ := gives_pure.mp hg
    exact ⟨rfl, fun text ht => absurd ht List.not_mem_nil⟩
  | succ n ih =>
    obtain ⟨text, h₁, htext, hg⟩ := gives_bind.mp hg
    obtain ⟨rest, h₂, hrest, hg⟩ := gives_bind.mp hg
    obtain ⟨rfl, rfl⟩ := gives_pure.mp hg
    obtain ⟨hlength, hrandom⟩ := ih hrest
    exact ⟨by rw [List.length_cons, hlength], List.forall_mem_cons.mpr ⟨isRandom_randomText htext, hrandom⟩⟩

end Random

theorem front_of_nonneg {α : Type} {n : Int} (hn : 0 ≤ n) (xs : List α) : front n xs = xs.take n.toNat :=
  if_neg (by omega)

/-- Neither cut takes anything away but the injections beyond the number of random texts. -/
theorem gives_cases {count : Int} (hcount : 0 ≤ count) {inputs : List String} {h h' : Host}
    (hg : Gives (cases count) h inputs h') : ∃ random, inputs = random ++ injections.take count.toNat ∧
      random.length = count.toNat ∧ ∀ text ∈ random, IsRandom text := by
  obtain ⟨random, h₁, hrandom, hg⟩ := gives_bind.mp hg
  obtain ⟨rfl, rfl⟩ := gives_pure.mp hg
  obtain ⟨hlength, hrandom⟩ := isRandom_randomTexts hrandom
  have hmin : (min count injections.length).toNat = min count.toNat injections.length := by omega
  refine ⟨random, ?_, hlength, hrandom⟩
  rw [front_of_nonneg (by omega), front_of_nonneg (by omega), hmin, ← List.take_eq_take_min]
  refine List.take_of_length_le ?_
  rw [List.length_append, List.length_take, hlength]
  omega

/-- A series of tests comes to its end, with one result for each argument, in their order; a crash is reported exactly where the
run broke off or the child process crashed. A number of tests that is not negative is that of the random arguments; as many
injections follow, of the nine that there are. -/
theorem fuzz_reports_each_argument (target : String) (count : Int) (timeout : Value) (h : Host) :
    ∃ inputs h₀ results h', Gives (cases count) h inputs h₀ ∧ Gives (run target count timeout) h results h' ∧
      results.map FuzzResult.input = inputs ∧ Series target timeout h₀ inputs results h' ∧
      (0 ≤ count → inputs.length = count.toNat + min count.toNat 9 ∧ (∀ text ∈ inputs.take count.toNat, IsRandom text) ∧
        inputs.drop count.toNat = injections.take count.toNat) := by
  obtain ⟨results, h', hrun⟩ := succeeds_fuzz target count timeout h
  obtain ⟨inputs, h₀, hcases, htests⟩ := gives_bind.mp hrun
  have hseries := Series.of_gives htests
  refine ⟨inputs, h₀, results, h', hcases, hrun, hseries.inputs_eq, hseries, fun hcount => ?_⟩
  obtain ⟨random, rfl, hlength, hrandom⟩ := gives_cases hcount hcases
  refine ⟨?_, ?_, ?_⟩
  · rw [List.length_append, List.length_take, hlength]
    rfl
  · rw [← hlength, List.take_left]
    exact hrandom
  · rw [← hlength, List.drop_left]

namespace OneRefused

def child (n : Nat) : ChildRun :=
  ⟨0, "", "", [], true, if n = 0 then some "Permission denied" else none, false, .ofRatio false 0 1⟩

def host : Host := Sandbox.bareHost child

theorem cases_host : Gives (cases 1) host ["a", "; ls"] { host with drawn := 2 } := rfl

/-- The refused run takes its place among the results, as a crash, and the next argument is tested behind it. -/
theorem refused_run_reported : (0 : Int) ≤ 1 ∧ ¬ Sandbox.Starts host ∧ ∃ r₁ r₂ h',
    Gives (run "a.py" 1 (.int 5)) host [r₁, r₂] h' ∧ r₁.input = "a" ∧ IsRandom "a" ∧ r₁.crashed = true ∧ r₂.input = "; ls" := by
  have hrefused : ¬ Sandbox.Starts host := fun hs => nomatch hs
  obtain ⟨inputs, h₀, results, h', hcases, hrun, -, hseries, hrandom⟩ := fuzz_reports_each_argument "a.py" 1 (.int 5) host
  cases hcases.symm.trans cases_host
  obtain ⟨-, hrandom, -⟩ := hrandom (by decide)
  cases hseries with
  | cons ht₁ hseries =>
    cases hseries with
    | cons ht₂ hseries =>
      cases hseries
      refine ⟨by decide, hrefused, _, _, h', hrun, ht₁.input_eq, hrandom "a" List.mem_cons_self, ?_, ht₂.input_eq⟩
      exact ht₁.crashed_iff.mpr (.inl (breaksOff_of_refused hrefused))

end OneRefused

end Fuzz
end ThreatScan
