import ThreatScan.Language
import ThreatScan.Proofs.Host.Within
import ThreatScan.Proofs.Text.Words
/-!
What a check by the Java compiler leaves on the disk.

The compiler may leave a class file, and behind a compiler that came to an end the check removes what stands at the path of the
class file, whoever put it there. No other place is touched (`touches_checkJava`). If the compiler overwrites nothing, a file is
lost exactly if it stood at that path (`java_check_keeps_files_iff`).

The path is that of the source with `.java` replaced in it. A source whose path does not hold this text, such as one with the
extension in capitals, is taken for its own class file.
-/
namespace ThreatScan

open Sandbox (without)

/-- The compiler is there and comes to an end, with any exit code. -/
def Compiler.Finishes (c : Compiler) : Prop :=
  c.available = true ∧ ∃ code errors leaves, c.outcome = .finished code errors leaves

namespace Disk

variable {d d₁ d' : Disk} {path : String}

/-- Every file of the first disk stands on the second, with its content. -/
def Keeps (d d' : Disk) : Prop := ∀ l c denial, d.get? l = some (.file c denial) → d'.get? l = some (.file c denial)

/-- The disks differ at most at the place that the path leads to. -/
def Touches (path : String) (d d' : Disk) : Prop :=
  d' = d ∨ Text.endsWith path "/" = false ∧ ∃ m, d.locate path = .ok m ∧ OnlyAt m d d'

namespace Touches

theorem write {c : Content} (h : d.write path c = .ok d') : Touches path d d' := by
  obtain ⟨hslash, m, hm, hfree, rfl⟩ := write_eq_ok.mp h
  exact .inr ⟨hslash, m, hm, .set hfree.not_dir _⟩

theorem without (canRemove : Bool) (path : String) (d : Disk) : Touches path d (without canRemove path d) := by
  unfold Sandbox.without
  split
  · split
    · next d' hd =>
      obtain ⟨hslash, m, c, denial, hm, hfile, rfl⟩ := remove_eq_ok.mp hd
      exact .inr ⟨hslash, m, hm, .erase (by simp [hfile])⟩
    · exact .inl rfl
  · exact .inl rfl

theorem trans (h : Touches path d d₁) (h' : Touches path d₁ d') : Touches path d d' := by
  rcases h with rfl | ⟨hslash, m, hm, ho⟩
  · exact h'
  · rcases h' with rfl | ⟨-, m', hm', ho'⟩
    · exact .inr ⟨hslash, m, hm, ho⟩
    · -- the first change kept all directories, so the path still leads to the same place
      cases hm'.symm.trans (locate_of_dirs ho.dirs hm)
      exact .inr ⟨hslash, m, hm, ho.not_dir, fun k hk => (ho'.same k hk).trans (ho.same k hk)⟩

theorem get?_eq (h : Touches path d d') {l : Location} (hl : d.locate path ≠ .ok l) : d'.get? l = d.get? l := by
  rcases h with rfl | ⟨-, m, hm, ho⟩
  · rfl
  · refine ho.same l ?_
    rintro rfl
    exact hl hm

theorem keeps (h : Touches path d d') (hn : d.isFile path = false) : d.Keeps d' := by
  rcases h with rfl | ⟨hslash, m, hm, ho⟩
  · exact fun _ _ _ hl => hl
  · intro l c denial hl
    have hne : l ≠ m := by
      rintro rfl
      have hfile : d.isFile path = true :=
        isFile_iff_remove.mpr ⟨_, remove_eq_ok.mpr ⟨hslash, l, c, denial, hm, hl, rfl⟩⟩
      rw [hn] at hfile
      cases hfile
    rw [ho.same l hne, hl]

end Touches

theorem not_keeps_of_remove (h : d.remove path = .ok d') : ¬ d.Keeps d' := by
  intro hkeeps
  obtain ⟨-, l, c, denial, hl, hfile, rfl⟩ := remove_eq_ok.mp h
  have hdir : d.get? l ≠ some .dir := by simp [hfile]
  cases (get?_erase_self d (not_mem_roots_of_get? hdir)).symm.trans (hkeeps l c denial hfile)

end Disk

namespace Host

variable {h : Host} {path : String}

/-- The compiler leaves a class file only where no file is. -/
def OverwritesNothing (h : Host) (path : String) : Prop :=
  ∀ code errors, h.javaCompiler.outcome = .finished code errors true → h.disk.isFile (classFile path) = false

/-- A file stands at the path of the class file, and the check comes to remove it. -/
def Discards (h : Host) (path : String) : Prop :=
  h.javaCompiler.Finishes ∧ h.canRemove = true ∧ h.disk.isFile (classFile path) = true

def compiled (path : String) (leaves : Bool) (d : Disk) : Except DiskError Disk :=
  if leaves then d.write (classFile path) (.text "") else .ok d

theorem after_checkJava_of_not (hn : ¬ h.javaCompiler.Finishes) : (after (checkJava path) h).2 = h := by
  unfold checkJava
  rw [after_bind, after_get]
  dsimp only
  split
  · rfl
  · next ha =>
    split
    · rfl
    · rfl
    · next ho => exact absurd ⟨by simpa using ha, _, _, _, ho⟩ hn

theorem gives_leaveClass {leaves : Bool} {d : Disk} (hd : compiled path leaves h.disk = .ok d) :
    Act.Gives (leaveClass path leaves) h () { h with disk := d } := by
  cases leaves with
  | true =>
    rw [compiled, if_pos rfl] at hd
    rw [leaveClass, if_pos rfl]
    exact Act.gives_onDisk.mpr ⟨d, hd, rfl⟩
  | false =>
    cases hd
    exact Act.gives_pure.mpr ⟨rfl, rfl⟩

theorem fails_leaveClass {leaves : Bool} {reason : DiskError} (hd : compiled path leaves h.disk = .error reason) :
    Act.Fails (leaveClass path leaves) h (.disk reason) h := by
  cases leaves with
  | true =>
    rw [compiled, if_pos rfl] at hd
    rw [leaveClass, if_pos rfl]
    exact Act.fails_onDisk.mpr ⟨reason, hd, rfl, rfl⟩
  | false => cases hd

section Finished
variable {code : Int} {errors : String} {leaves : Bool} (ha : h.javaCompiler.available = true)
  (ho : h.javaCompiler.outcome = .finished code errors leaves)
include ha ho

theorem disk_checkJava {d : Disk} (hd : compiled path leaves h.disk = .ok d) :
    (after (checkJava path) h).2.disk = without h.canRemove (classFile path) d := by
  unfold checkJava
  rw [after_bind, after_get]
  simp only [ha, ho, Bool.not_true, Bool.false_eq_true, if_false]
  rw [after_bind, Act.after_attempt, gives_leaveClass hd]
  dsimp only
  rw [after_bind, after_get]
  dsimp only
  split
  · rw [after_bind, Sandbox.after_remove]
    rfl
  · next hmissing =>
    rw [Sandbox.without_of_missing _ hmissing]
    rfl

/-- A class file that cannot be written breaks the check off. -/
theorem disk_checkJava_of_error {reason : DiskError} (hd : compiled path leaves h.disk = .error reason) :
    (after (checkJava path) h).2.disk = h.disk := by
  unfold checkJava
  rw [after_bind, after_get]
  simp only [ha, ho, Bool.not_true, Bool.false_eq_true, if_false]
  rw [after_bind, Act.after_attempt, fails_leaveClass hd]
  rfl

end Finished

theorem touches_checkJava (h : Host) (path : String) :
    Disk.Touches (classFile path) h.disk (after (checkJava path) h).2.disk := by
  by_cases hf : h.javaCompiler.Finishes
  · obtain ⟨ha, code, errors, leaves, ho⟩ := hf
    cases hd : compiled path leaves h.disk with
    | error reason =>
      rw [disk_checkJava_of_error ha ho hd]
      exact .inl rfl
    | ok d =>
      rw [disk_checkJava ha ho hd]
      refine .trans ?_ (.without h.canRemove (classFile path) d)
      cases leaves with
      | true =>
        rw [compiled, if_pos rfl] at hd
        exact .write hd
      | false => exact .inl (Except.ok.inj hd).symm
  · rw [after_checkJava_of_not hf]
    exact .inl rfl

/-- A class file that was there is not left by the compiler, so only the check deals with it. -/
theorem disk_checkJava_of_isFile (ho : h.OverwritesNothing path) (hf : h.javaCompiler.Finishes)
    (hfile : h.disk.isFile (classFile path) = true) :
    (after (checkJava path) h).2.disk = without h.canRemove (classFile path) h.disk := by
  obtain ⟨ha, code, errors, leaves, houtcome⟩ := hf
  cases leaves with
  | true => cases hfile.symm.trans (ho code errors houtcome)
  | false => exact disk_checkJava ha houtcome rfl

theorem remove_of_discards (ho : h.OverwritesNothing path) (hd : h.Discards path) :
    h.disk.remove (classFile path) = .ok (after (checkJava path) h).2.disk := by
  obtain ⟨hf, hremove, hfile⟩ := hd
  obtain ⟨d, hd⟩ := Disk.isFile_iff_remove.mp hfile
  rw [disk_checkJava_of_isFile ho hf hfile, without, hremove, if_pos rfl, hd]

theorem keeps_of_not_discards (ho : h.OverwritesNothing path) (hn : ¬ h.Discards path) :
    h.disk.Keeps (after (checkJava path) h).2.disk := by
  cases hfile : h.disk.isFile (classFile path) with
  | false => exact (touches_checkJava h path).keeps hfile
  | true =>
    by_cases hf : h.javaCompiler.Finishes
    · have hremove : ¬ h.canRemove = true := fun hr => hn ⟨hf, hr, hfile⟩
      rw [disk_checkJava_of_isFile ho hf hfile, without, if_neg hremove]
      exact fun _ _ _ hl => hl
    · rw [after_checkJava_of_not hf]
      exact fun _ _ _ hl => hl

theorem classFile_eq_self (hp : Text.contains path ".java" = false) : classFile path = path := by
  have hnot : ¬ ".java".toList <:+: path.toList := by
    rw [← Text.contains_iff, hp]
    exact Bool.false_ne_true
  rw [classFile, Text.replace, Text.replaceFrom_of_not_infix _ hnot, String.ofList_toList]

/-- A check with the Java compiler touches the place of the class file only. If the compiler overwrites nothing, all files are kept
exactly if the check does not discard one that was there; such a file is gone afterwards. It is the checked file itself if its path
does not hold `.java`. -/
theorem java_check_keeps_files_iff (ho : h.OverwritesNothing path) :
    (∀ l, h.disk.locate (classFile path) ≠ .ok l → (after (checkJava path) h).2.disk.get? l = h.disk.get? l) ∧
    (h.disk.Keeps (after (checkJava path) h).2.disk ↔ ¬ h.Discards path) ∧
    (h.Discards path → (after (checkJava path) h).2.disk.entry? (classFile path) = none) ∧
    (Text.contains path ".java" = false → classFile path = path) := by
  refine ⟨fun l hl => (touches_checkJava h path).get?_eq hl, ⟨fun hkeeps hd => ?_, keeps_of_not_discards ho⟩, fun hd => ?_,
    classFile_eq_self⟩
  · exact Disk.not_keeps_of_remove (remove_of_discards ho hd) hkeeps
  · exact Disk.entry?_of_remove (remove_of_discards ho hd)

/-- A host with files of these names, on which the Java compiler ends like this. -/
def compilingHost (outcome : BuildOutcome) (names : List String) : Host :=
  { Sandbox.bareHost fun _ => ⟨0, "", "", [], false, none, false, .ofRatio false 0 1⟩ with
    disk := ⟨names.map fun name => (Disk.workPlace ++ [name], .file (.text name) none)⟩
    javaCompiler := ⟨true, outcome⟩ }

/-- The class file that the compiler leaves goes, and the files from before stay. -/
theorem files_kept_beside_new_class :
    let h := compilingHost (.finished 0 "" true) ["A.java", "B.class"]
    h.OverwritesNothing "A.java" ∧ ¬ h.Discards "A.java" ∧ h.disk.Keeps (after (checkJava "A.java") h).2.disk := by
  intro h
  have hfile : h.disk.isFile (classFile "A.java") = false := by decide
  have ho : h.OverwritesNothing "A.java" := fun _ _ _ => hfile
  have hn : ¬ h.Discards "A.java" := fun hd => by cases hfile.symm.trans hd.2.2
  obtain ⟨-, hkeeps, -⟩ := java_check_keeps_files_iff ho
  exact ⟨ho, hn, hkeeps.mpr hn⟩

/-- A class file from before is lost though the compiler fails and writes nothing. A source with its extension in capitals, which
is a Java file too, is lost itself. -/
theorem old_class_file_and_source_lost :
    let h := compilingHost (.finished 1 "error" false) ["A.java", "A.class", "B.JAVA"]
    (h.OverwritesNothing "A.java" ∧ ¬ h.disk.Keeps (after (checkJava "A.java") h).2.disk) ∧
    Language.detect h.disk "B.JAVA" = "java" ∧ h.OverwritesNothing "B.JAVA" ∧
      h.disk.isFile "B.JAVA" = true ∧ (after (checkJava "B.JAVA") h).2.disk.has "B.JAVA" = false := by
  intro h
  have ho : ∀ path, h.OverwritesNothing path := fun _ _ _ houtcome => by cases houtcome
  have hfinishes : h.javaCompiler.Finishes := ⟨rfl, 1, "error", false, rfl⟩
  have hdiscards : h.Discards "A.java" := ⟨hfinishes, rfl, by decide⟩
  refine ⟨⟨ho _, Disk.not_keeps_of_remove (remove_of_discards (ho _) hdiscards)⟩, ?_, ho _, ?_, ?_⟩
  · decide
  · decide
  · decide

end Host

end ThreatScan
