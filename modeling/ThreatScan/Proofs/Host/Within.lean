import ThreatScan.Host.Build
import ThreatScan.Proofs.Disk.Scope
import ThreatScan.Proofs.Sandbox.Run
/-!
Actions that keep to a scope.

`Within now scope x` says that `x`, begun at the time `now`, keeps the clock and works on the disk within the scope, whether it
fails or not. This passes from the parts of an action to the whole, so it is enough to know which paths the parts touch. A
check by a compiler touches a copy in a temporary directory or a class file, and a run in the sandbox its log and its script
(`Tools`).
-/
namespace ThreatScan

open Disk (Worked)

variable {α β ε : Type} {now : Instant} {scope : Scope}

/-- The clock is kept, and the disk is worked on within the scope. -/
def Host.Within (now : Instant) (scope : Scope) (x : StateM Host α) : Prop :=
  ∀ h : Host, h.now = now → (Host.after x h).2.now = now ∧ Worked scope h.disk (Host.after x h).2.disk

def Act.Within (now : Instant) (scope : Scope) (x : Act α) : Prop := Host.Within now scope (Act.attempt x)

namespace Host.Within

theorem pure' (a : α) : Within now scope (pure a) := fun _ hn => ⟨hn, .idle⟩

theorem bind' {x : StateM Host α} {f : α → StateM Host β} (hx : Within now scope x) (hf : ∀ a, Within now scope (f a)) :
    Within now scope (x >>= f) := by
  intro h hn
  obtain ⟨hn₁, hw₁⟩ := hx h hn
  obtain ⟨hn₂, hw₂⟩ := hf (after x h).1 (after x h).2 hn₁
  exact ⟨hn₂, hw₁.andThen hw₂⟩

/-- What follows an action may count on what is known of the results of the action. -/
theorem bind_attempt {x : Act α} {f : Except Failure α → StateM Host β} {P : α → Prop} (hx : Act.Within now scope x)
    (hP : ∀ h a h', Act.Gives x h a h' → P a) (hok : ∀ a, P a → Within now scope (f (.ok a)))
    (herr : ∀ e, Within now scope (f (.error e))) : Within now scope (Act.attempt x >>= f) := by
  intro h hn
  obtain ⟨hn₁, hw₁⟩ := hx h hn
  rw [Act.after_attempt] at hn₁ hw₁
  rw [after_bind, Act.after_attempt]
  rcases Act.gives_or_fails x h with ⟨a, h₁, hg⟩ | ⟨e, h₁, hf⟩
  · rw [hg] at hn₁ hw₁ ⊢
    obtain ⟨hn₂, hw₂⟩ := hok a (hP h a h₁ hg) h₁ hn₁
    exact ⟨hn₂, hw₁.andThen hw₂⟩
  · rw [hf] at hn₁ hw₁ ⊢
    obtain ⟨hn₂, hw₂⟩ := herr e h₁ hn₁
    exact ⟨hn₂, hw₁.andThen hw₂⟩

theorem of_still {x : StateM Host α} (hx : ∀ h, (after x h).2.now = h.now ∧ (after x h).2.disk = h.disk) :
    Within now scope x := by
  intro h hn
  obtain ⟨hnow, hdisk⟩ := hx h
  rw [hnow, hdisk]
  exact ⟨hn, .idle⟩

theorem get' : Within now scope get := of_still fun _ => ⟨rfl, rfl⟩

theorem print (line : String) : Within now scope (print line) := of_still fun _ => ⟨rfl, rfl⟩

theorem worked_without {path : String} (hp : scope.files path) (canRemove : Bool) (d : Disk) :
    Worked scope d (Sandbox.without canRemove path d) := by
  rw [Sandbox.without]
  split
  · split
    · next hd => exact .remove hp hd
    · exact .idle
  · exact .idle

theorem worked_touchLog {log : String} (hlog : scope.files log) (run : ChildRun) (d : Disk) :
    Worked scope d (Sandbox.touchLog run log d) := by
  have hdrop : ∀ d₁ : Disk, Worked scope d₁ (if run.dropsLog then (d₁.remove log).toOption.getD d₁ else d₁) := by
    intro d₁
    split
    · cases hremove : d₁.remove log with
      | ok d₂ => exact .remove hlog hremove
      | error e => exact .idle
    · exact .idle
  rw [Sandbox.touchLog_eq]
  cases happend : d.append log (String.join (run.log.map (· ++ "\n"))) with
  | ok d₁ => exact (Worked.append hlog happend).andThen (hdrop d₁)
  | error e => exact hdrop d

theorem remove {path : String} (hp : scope.files path) : Within now scope (remove path) := by
  intro h hn
  rw [Sandbox.after_remove]
  exact ⟨hn, worked_without hp _ _⟩

end Host.Within

namespace Act.Within

theorem of_onlyPrints {x : Act α} (hx : OnlyPrints x) : Within now scope x := by
  intro h hn
  obtain ⟨text, htext⟩ := hx h
  rw [after_attempt, htext]
  exact ⟨hn, .idle⟩

theorem pure' (a : α) : Within now scope (pure a : Act α) := of_onlyPrints (.pure' a)

theorem check (wrap : ε → Failure) (x : Except ε α) : Within now scope (check wrap x) := of_onlyPrints (.check wrap x)

theorem valid (x : Except Fault α) : Within now scope (valid x) := check .fault x

theorem always {x : StateM Host α} (hx : Host.Within now scope x) : Within now scope (always x) := hx

theorem bind_gives {x : Act α} {f : α → Act β} {P : α → Prop} (hx : Within now scope x)
    (hP : ∀ h a h', Gives x h a h' → P a) (hf : ∀ a, P a → Within now scope (f a)) : Within now scope (x >>= f) :=
  Host.Within.bind_attempt (f := fun r => ExceptT.bindCont f r) hx hP hf fun _ _ hn => ⟨hn, .idle⟩

theorem bind' {x : Act α} {f : α → Act β} (hx : Within now scope x) (hf : ∀ a, Within now scope (f a)) :
    Within now scope (x >>= f) := bind_gives (P := fun _ => True) hx (fun _ _ _ _ => trivial) fun a _ => hf a

theorem bind_get {f : Host → Act β} (hf : ∀ g, g.now = now → Within now scope (f g)) : Within now scope (get >>= f) :=
  fun h hn => hf h hn h hn

theorem mapM {f : α → Act β} (hf : ∀ a, Within now scope (f a)) (xs : List α) : Within now scope (xs.mapM f) := by
  induction xs with
  | nil => exact pure' []
  | cons x rest ih =>
    rw [List.mapM_cons]
    exact bind' (hf x) fun b => bind' ih fun bs => pure' (b :: bs)

theorem forM {f : α → Act Unit} (hf : ∀ a, Within now scope (f a)) (xs : List α) : Within now scope (xs.forM f) := by
  induction xs with
  | nil => exact pure' ()
  | cons x rest ih =>
    show Within now scope (f x >>= fun _ => rest.forM f)
    exact bind' (hf x) fun _ => ih

theorem onDisk {operation : Disk → Except DiskError Disk} (ho : ∀ d d', operation d = .ok d' → Worked scope d d') :
    Within now scope (Host.onDisk operation) := by
  intro h hn
  rw [after_attempt]
  cases hd : operation h.disk with
  | ok d =>
    have hg : Gives (Host.onDisk operation) h () { h with disk := d } := gives_onDisk.mpr ⟨d, hd, rfl⟩
    rw [hg]
    exact ⟨hn, ho h.disk d hd⟩
  | error e =>
    have hf : Fails (Host.onDisk operation) h (.disk e) h := fails_onDisk.mpr ⟨e, hd, rfl, rfl⟩
    rw [hf]
    exact ⟨hn, .idle⟩

theorem writeText {path text : String} (hp : scope.files path) : Within now scope (Host.writeText path text) :=
  onDisk fun _ _ h => .write hp h

theorem makeDirs {path : String} (hp : ∀ q : String, q.toList <+: path.toList → scope.made q) :
    Within now scope (Host.makeDirs path) := onDisk fun _ _ h => .makeDirs hp h

theorem readText (path : String) : Within now scope (Host.readText path) := bind_get fun _ _ => check _ _

end Act.Within

/-! ## Compilers and the sandbox -/

/-- The scope has room for the tools that work on a file: for directories anywhere, for a copy and a class file of the file, and
for the log and the script of the sandbox. -/
structure Tools (now : Instant) (path : String) (scope : Scope) : Prop where
  made : ∀ q, scope.made q
  dropped : ∀ q, scope.dropped q
  copy : ∀ dir, scope.files (Path.join dir (Path.baseName path))
  classFile : scope.files (Host.classFile path)
  log : scope.files (Sandbox.defaultLog now)
  script : ∀ name, scope.files (Path.temp ++ "/hook_runner_" ++ name ++ ".py")

namespace Tools

open Act (Within)

variable {path : String} (ht : Tools now path scope)
include ht

theorem copyToTemp : Within now scope (Host.copyToTemp path) := by
  refine .bind' (Host.Within.of_still fun _ => ⟨rfl, rfl⟩) fun name => ?_
  refine .bind' (.onDisk fun _ _ h => .makeDir (ht.made _) h) fun _ => ?_
  refine .bind' (.readText path) fun text => ?_
  exact .bind' (.writeText (ht.copy _)) fun _ => .pure' _

theorem dropTemp {file dir : String} (hf : scope.files file) : Host.Within now scope (Host.dropTemp file dir) := by
  refine .bind' (.remove hf) fun removed => ?_
  split
  · exact fun h hn => ⟨hn, .removeDir (ht.dropped dir)⟩
  · exact .pure' _

theorem checkGo : Host.Within now scope (Host.checkGo path) := by
  have hcopy : ∀ h copy h', Act.Gives (Host.copyToTemp path) h copy h' →
      copy.1 = Path.join copy.2 (Path.baseName path) := by
    intro h copy h' hg
    obtain ⟨name, h₁, -, hg⟩ := Act.gives_bind.mp hg
    obtain ⟨_, h₂, -, hg⟩ := Act.gives_bind.mp hg
    obtain ⟨text, h₃, -, hg⟩ := Act.gives_bind.mp hg
    obtain ⟨_, h₄, -, hg⟩ := Act.gives_bind.mp hg
    rw [← (Act.gives_pure.mp hg).1]
  refine .bind' .get' fun g => ?_
  dsimp only
  split
  · exact .pure' _
  · refine .bind_attempt ht.copyToTemp hcopy (fun copy hfile => ?_) fun e => .pure' _
    obtain ⟨file, dir⟩ := copy
    obtain rfl : file = Path.join dir (Path.baseName path) := hfile
    dsimp only
    split
    · exact .pure' _
    · exact .pure' _
    · exact .bind' (ht.dropTemp (ht.copy dir)) fun _ => .pure' _

theorem leaveClass (leaves : Bool) : Within now scope (Host.leaveClass path leaves) := by
  unfold Host.leaveClass
  split
  · exact .writeText ht.classFile
  · exact .pure' _

theorem checkJava : Host.Within now scope (Host.checkJava path) := by
  refine .bind' .get' fun g => ?_
  dsimp only
  split
  · exact .pure' _
  · split
    · exact .pure' _
    · exact .pure' _
    · refine .bind' (ht.leaveClass _) fun result => ?_
      split
      · exact .pure' _
      · refine .bind' .get' fun g => ?_
        split
        · exact .bind' (.remove ht.classFile) fun _ => .pure' _
        · exact .pure' _

theorem runChild (timeout : Value) : Within now scope (Sandbox.runChild (Sandbox.defaultLog now) timeout) := by
  intro h hn
  have hrun : (Host.after (Act.attempt (Sandbox.runChild (Sandbox.defaultLog now) timeout)) h).2 =
      Sandbox.afterChild (Sandbox.defaultLog now) h := congrArg Prod.snd (Sandbox.outcome_runChild _ timeout h)
  rw [hrun, Sandbox.afterChild]
  exact ⟨hn, Host.Within.worked_touchLog ht.log (h.runs h.started) h.disk⟩

theorem writeScript (target : String) (args : List String) :
    Within now scope (Sandbox.writeScript target (Sandbox.defaultLog now) args) := by
  refine .bind' (Host.Within.of_still fun _ => ⟨rfl, rfl⟩) fun name => ?_
  exact .bind' (.writeText (ht.script name)) fun _ => .pure' _

omit ht in
theorem cleanUp {script : String} (hs : scope.files script) : Host.Within now scope (Sandbox.cleanUp script) := by
  intro h hn
  rw [Sandbox.after_cleanUp]
  exact ⟨hn, Host.Within.worked_without hs _ _⟩

theorem run (target : String) (args : List String) (timeout : Value) :
    Within now scope (Sandbox.run target args timeout none) := by
  refine .bind_get fun g hg => ?_
  subst hg
  refine .bind' (.makeDirs fun q _ => ht.made q) fun _ => ?_
  refine .bind' (.writeText ht.log) fun _ => ?_
  have hscript : ∀ h path h', Act.Gives (Sandbox.writeScript target (Sandbox.defaultLog g.now) args) h path h' →
      scope.files path := by
    intro h path h' hg
    rw [(Sandbox.gives_writeScript.mp hg).1]
    exact ht.script _
  refine .bind_gives (ht.writeScript target args) hscript fun script hs => ?_
  refine .bind' (ht.runChild timeout) fun result => ?_
  exact .bind' (cleanUp hs) fun _ => .check _ _

theorem test (target : String) (timeout : Value) (input : String) :
    Host.Within now scope (Fuzz.test target timeout input) := by
  have hobserve : Within now scope (Fuzz.observe target timeout input) :=
    .bind' (ht.run target [input] timeout) fun r => .bind_get fun _ _ => .bind' (.valid _) fun _ => .pure' _
  refine .bind' hobserve fun result => ?_
  split
  · exact .pure' _
  · exact .pure' _

omit ht in
theorem randomChars (n : Nat) : Host.Within now scope (Fuzz.randomChars n) := by
  induction n with
  | zero => exact .pure' _
  | succ n ih => exact .bind' (.of_still fun _ => ⟨rfl, rfl⟩) fun _ => .bind' ih fun _ => .pure' _

omit ht in
theorem randomTexts (n : Nat) : Within now scope (Fuzz.randomTexts n) := by
  have hlength : Within now scope (Host.randomBetween 1 50) := Host.Within.of_still fun _ => ⟨rfl, rfl⟩
  have htext : Within now scope (Fuzz.randomText 1 50) := by
    refine .bind' hlength fun length => ?_
    exact .bind' (.always (randomChars length.toNat)) fun _ => .pure' _
  induction n with
  | zero => exact Act.Within.pure' []
  | succ n ih => exact .bind' htext fun text => .bind' ih fun texts => .pure' (text :: texts)

theorem fuzz (target : String) (count : Int) (timeout : Value) : Within now scope (Fuzz.run target count timeout) := by
  have hcases : Within now scope (Fuzz.cases count) := .bind' (randomTexts _) fun _ => .pure' _
  refine .bind' hcases fun inputs => ?_
  exact .mapM (fun input => .always (ht.test target timeout input)) inputs

end Tools
end ThreatScan
