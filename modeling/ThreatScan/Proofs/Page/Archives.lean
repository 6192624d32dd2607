import Mathlib.Data.List.Nodup
import ThreatScan.Page.Archive
import ThreatScan.Proofs.Analysis.Batch
import ThreatScan.Proofs.Host.Within
import ThreatScan.Proofs.Language
import ThreatScan.Proofs.Page.Display
/-!
The source files of an uploaded archive, by language.

A file is listed for the extension of its name, and its language is found from its whole path; the two agree
(`language_of_sourceFile`). On a proper disk the paths of the files below a directory are all different
(`nodup_paths_sourceFiles`), and unpacking keeps a disk proper. Which language is chosen makes no difference to what is unpacked
(`takeArchive_cases`), so the lists for the languages are the parts of one list.
-/
namespace ThreatScan.Page

/-! ## The files below a directory -/

theorem files_sublist (d : Disk) : d.files.Sublist (d.entries.map Prod.fst) := by
  unfold Disk.files
  induction d.entries with
  | nil => exact List.Sublist.slnil
  | cons e rest ih =>
    obtain ⟨l, content | _⟩ := e
    · exact ih.cons_cons l
    · exact ih.cons l

section Proper
variable {d : Disk} (hd : d.Proper)
include hd

theorem nodup_filesBelow (dir : String) : (filesBelow d dir).Nodup := by
  unfold filesBelow
  split
  · next l hl =>
    rw [(List.mergeSort_perm _ _).nodup_iff]
    refine List.Nodup.filterMap (fun f f' names hf hf' => ?_) (hd.once.sublist (files_sublist d))
    -- both files are the names behind the location of the directory
    obtain ⟨hl, hf⟩ := Option.ite_none_right_eq_some.mp hf
    obtain ⟨hl', hf'⟩ := Option.ite_none_right_eq_some.mp hf'
    rw [Bool.and_eq_true, List.isPrefixOf_iff_prefix] at hl hl'
    calc f = l ++ f.drop l.length := List.prefix_append_drop hl.1
      _ = l ++ f'.drop l.length := by rw [Option.some.inj hf, Option.some.inj hf']
      _ = f' := (List.prefix_append_drop hl'.1).symm
  · exact List.nodup_nil

theorem named_of_mem_filesBelow {dir : String} {names : List String} (h : names ∈ filesBelow d dir) :
    names ≠ [] ∧ Disk.Named names := by
  unfold filesBelow at h
  split at h
  · next l hl =>
    obtain ⟨f, hf, hnames⟩ := List.mem_filterMap.mp (List.mem_mergeSort.mp h)
    obtain ⟨hbelow, hnames⟩ := Option.ite_none_right_eq_some.mp hnames
    rw [Bool.and_eq_true, List.isPrefixOf_iff_prefix, bne_iff_ne] at hbelow
    cases hnames
    constructor
    · intro hnil
      exact hbelow.2 (hbelow.1.eq_of_length_le (List.drop_eq_nil_iff.mp hnil))
    · obtain ⟨e, he, rfl⟩ := List.mem_map.mp ((files_sublist d).subset hf)
      exact fun name hname => hd.named e he name (List.mem_of_mem_drop hname)
  · cases h

theorem nodup_paths_sourceFiles (dir : String) : ((sourceFiles d dir).map SourceFile.path).Nodup := by
  unfold sourceFiles
  rw [List.map_map]
  refine List.Nodup.map_on ?_ ((nodup_filesBelow hd dir).filter _)
  intro names hnames others hothers hpath
  obtain ⟨hne, hnamed⟩ := named_of_mem_filesBelow hd (List.mem_filter.mp hnames).1
  obtain ⟨hne', hnamed'⟩ := named_of_mem_filesBelow hd (List.mem_filter.mp hothers).1
  have hjoin : Text.join "/" names = Text.join "/" others := by
    have hlists := congrArg String.toList hpath
    simp only [Function.comp, sourceFile, String.toList_append, List.append_cancel_left_eq] at hlists
    exact String.toList_inj.mp hlists
  have hcut : ∀ {l : List String}, l ≠ [] → Disk.Named l →
      Text.cutAt '/' (Text.join "/" l).toList = l.map String.toList := by
    intro l hl hplain
    rw [Text.join, String.toList_ofList, Path.slash_toList, Text.cutAt_joinWith (by simpa using hl)]
    intro piece hpiece
    obtain ⟨name, hname, rfl⟩ := List.mem_map.mp hpiece
    exact hplain name hname
  have hmaps := hcut hne hnamed
  rw [hjoin, hcut hne' hnamed'] at hmaps
  exact (List.map_injective_iff.mpr (fun _ _ => String.toList_inj.mp) hmaps).symm

end Proper

/-! ## Their languages -/

/-- The last of the names is what the path ends in, behind a slash. -/
theorem exists_join_eq {names : List String} (hne : names ≠ []) :
    ∃ above, Text.join "/" names = above ++ names.getLastD "" ∧ (above = "" ∨ ∃ a, above = a ++ "/") := by
  obtain ⟨init, last, rfl⟩ := (List.eq_nil_or_concat names).resolve_left hne
  have hlast : (init.concat last).getLastD "" = last := by simp
  refine ⟨String.ofList ((init.map String.toList).flatMap (· ++ ['/'])), ?_, ?_⟩
  · rw [hlast, ← String.toList_inj, Text.join, List.concat_eq_append, List.map_append, List.map_singleton, Path.slash_toList,
      Text.joinWith_append_cons]
    simp
  · rcases List.eq_nil_or_concat init with rfl | ⟨above, name, rfl⟩
    · exact .inl rfl
    · refine .inr ⟨String.ofList ((above.map String.toList).flatMap (· ++ ['/']) ++ name.toList), ?_⟩
      rw [← String.toList_inj]
      simp [Path.slash_toList]

/-- A file that is listed for its extension has one of the languages that can be analysed. -/
theorem language_of_sourceFile {names : List String} (hne : names ≠ []) (hname : isSourceName (names.getLastD "") = true)
    (d : Disk) (dir : String) : (sourceFile d dir names).language ∈ Language.supported := by
  obtain ⟨above, hjoin, habove⟩ := exists_join_eq hne
  rw [isSourceName] at hname
  obtain ⟨e, he, hsupported, hext⟩ := Language.exists_extension hname
  have hdir : dir ++ "/" ++ above = "" ∨ ∃ a, dir ++ "/" ++ above = a ++ "/" := by
    rcases habove with rfl | ⟨a, rfl⟩
    · exact .inr ⟨dir, String.append_empty⟩
    · exact .inr ⟨dir ++ "/" ++ a, String.append_assoc.symm⟩
  have hlanguage : (sourceFile d dir names).language = Language.detect d (dir ++ "/" ++ above ++ names.getLastD "") := by
    rw [String.append_assoc, ← hjoin]
    rfl
  rw [hlanguage, Language.detect_of_extension he hdir hext d]
  exact hsupported

/-- The parts of a list by their keys, put together. -/
theorem flatMap_filter_perm {α κ : Type} [DecidableEq κ] (key : α → κ) {keys : List κ} (hk : keys.Nodup) (l : List α) :
    (keys.flatMap fun k => l.filter fun a => key a == k).Perm (l.filter fun a => keys.contains (key a)) := by
  induction keys with
  | nil => simp
  | cons k rest ih =>
    obtain ⟨hnot, hrest⟩ := List.nodup_cons.mp hk
    have hsplit := List.filter_append_perm (fun a => key a == k) (l.filter fun a => (k :: rest).contains (key a))
    have hfirst : (l.filter fun a => (k :: rest).contains (key a)).filter (fun a => key a == k) =
        l.filter fun a => key a == k := by
      rw [List.filter_filter]
      refine List.filter_congr fun a _ => ?_
      by_cases ha : key a = k <;> simp [ha]
    have hothers : (l.filter fun a => (k :: rest).contains (key a)).filter (fun a => !(key a == k)) =
        l.filter fun a => rest.contains (key a) := by
      rw [List.filter_filter]
      refine List.filter_congr fun a _ => ?_
      by_cases ha : key a = k
      · simp [ha, hnot]
      · simp [ha]
    rw [hfirst, hothers] at hsplit
    exact ((ih hrest).append_left _).trans hsplit

/-! ## Taking an archive in -/

def anywhere : Scope := ⟨fun _ => True, fun _ => True, fun _ => True⟩

section Receive
variable {now : Instant}

open Act (Within)

theorem within_placeMember (dir name : String) {content : Act Content} (hc : Within now anywhere content) :
    Within now anywhere (placeMember dir name content) := by
  have hparent : Within now anywhere (makeParent (memberPath dir name)) := by
    refine .bind_get fun h _ => ?_
    split
    · exact .makeDirs fun _ _ => trivial
    · exact .pure' ()
  refine .bind' hparent fun _ => ?_
  split
  · refine .bind_get fun h _ => ?_
    split
    · exact .onDisk fun _ _ hm => .makeDir trivial hm
    · exact .pure' ()
  · exact .bind' hc fun c => .onDisk fun _ _ hw => .write trivial hw

theorem within_unpackMember (dir : String) (b : Archive.Bytes) (m : Archive.Member) :
    Within now anywhere (unpackMember dir b m) := by
  refine within_placeMember dir m.name (.bind' (.check _ _) fun place => ?_)
  obtain ⟨start, storage⟩ := place
  refine .bind' (.onDisk fun _ _ hw => .write trivial hw) fun _ => ?_
  exact .bind' (.check _ _) fun bytes => .pure' _

theorem within_unpack (dir : String) (u : Upload) : Within now anywhere (unpack dir u) := by
  unfold unpack
  split
  · next c _ =>
    refine .bind' (.check _ _) fun members => ?_
    exact .forM (within_unpackMember dir (contentBytes c).toArray) members
  · refine .forM (fun m => ?_) _
    exact within_placeMember dir m.1 (.pure' (Content.text m.2))

theorem within_receive (u : Upload) (language : String) : Within now anywhere (receive u language) := by
  refine .bind' (.makeDirs fun _ _ => trivial) fun _ => .bind' (.makeDirs fun _ _ => trivial) fun _ => ?_
  refine .bind' (.onDisk fun _ _ hw => .write trivial hw) fun _ => .bind' (within_unpack archiveDir u) fun _ => ?_
  exact .bind_get fun _ _ => .pure' _

end Receive

/-- The language that is chosen only chooses among the files. -/
theorem receive_eq (u : Upload) (language : String) :
    receive u language = receive u "" >>= fun files => pure (ofLanguage language files) := by
  unfold receive
  simp only [bind_assoc, pure_bind]
  rfl

theorem gives_receive {u : Upload} {h h' : Host} {files : List SourceFile} (hg : Act.Gives (receive u "") h files h')
    (language : String) :
    Act.Gives (receive u language) h (ofLanguage language (sourceFiles h'.disk archiveDir)) h' := by
  have hfiles : files = sourceFiles h'.disk archiveDir := by
    obtain ⟨_, h₁, -, hg⟩ := Act.gives_bind.mp hg
    obtain ⟨_, h₂, -, hg⟩ := Act.gives_bind.mp hg
    obtain ⟨_, h₃, -, hg⟩ := Act.gives_bind.mp hg
    obtain ⟨_, h₄, -, hg⟩ := Act.gives_bind.mp hg
    obtain ⟨g, h₅, hget, hg⟩ := Act.gives_bind.mp hg
    obtain ⟨rfl, rfl⟩ := Act.gives_get.mp hget
    obtain ⟨rfl, rfl⟩ := Act.gives_pure.mp hg
    rfl
  rw [hfiles] at hg
  rw [receive_eq]
  exact Act.gives_bind.mpr ⟨_, h', hg, Act.gives_pure.mpr ⟨rfl, rfl⟩⟩

theorem fails_receive {u : Upload} {h h' : Host} {e : Failure} (hf : Act.Fails (receive u "") h e h') (language : String) :
    Act.Fails (receive u language) h e h' := by
  rw [receive_eq]
  exact Act.fails_bind.mpr (.inl hf)

/-- An archive is taken in, or a failure is shown; the language that is chosen makes no difference to that. -/
theorem takeArchive_cases (u : Upload) (v : Visit) :
    (∃ v', (∀ language, Gives (takeArchive u language) v (ofLanguage language (sourceFiles v'.host.disk archiveDir)) v') ∧
      v'.events = v.events ∧ Disk.Worked anywhere v.host.disk v'.host.disk) ∨
    ∃ v' message, (∀ language, Gives (takeArchive u language) v [] v') ∧
      v'.events = v.events ++ [.call "error" [.str message] []] := by
  rcases Act.gives_or_fails (receive u "") v.host with ⟨files, h', hg⟩ | ⟨e, h', hf⟩
  · left
    have hworked : Disk.Worked anywhere v.host.disk h'.disk := by
      obtain ⟨-, hworked⟩ := within_receive u "" v.host rfl
      have hafter : Host.after (Act.attempt (receive u "")) v.host = (.ok files, h') := hg
      rwa [hafter] at hworked
    let dirs := ((Value.fieldOf? "zip_temp_dirs" v.session).getD (.list [])).items.toOption.getD []
    let session := Value.setField "zip_temp_dirs" (.list (dirs ++ [.str archiveDir])) v.session
    refine ⟨{ v with host := h', session := session }, fun language => ?_, rfl, hworked⟩
    have hattempt := gives_attempt (onHost (receive u language)) v
    rw [gives_onHost (gives_receive hg language)] at hattempt
    exact gives_bind.mpr ⟨_, _, hattempt, rfl⟩
  · right
    let notice : Event := .call "error" [.str ("❌ ZIP 文件处理失败：" ++ e.message)] []
    refine ⟨Visit.adding { v with host := h' } [notice], _, fun language => ?_, rfl⟩
    have hattempt := gives_attempt (onHost (receive u language)) v
    rw [outcome_onHost, fails_receive hf language] at hattempt
    exact gives_bind.mpr ⟨_, _, hattempt, rfl⟩

namespace MixedArchive

def place : Location := Disk.workPlace ++ ["data", "uploads", "zip_1234567890abcdef1234567890abcdef"]

/-- A disk where an earlier file is left in the directory of the archive, beside a directory with a dot in its name. -/
def disk : Disk :=
  ⟨[(Disk.workPlace ++ ["data"], .dir), (Disk.workPlace ++ ["data", "uploads"], .dir), (place, .dir),
    (place ++ ["old.PY"], .file (.text "") none), (place ++ ["d.v"], .dir)]⟩

def visit : Visit where
  host := { Analysis.refusingHost [] with disk := disk }
  session := []
  choices := .none
  charts := ⟨none, true⟩
  locked := fun _ => none
  events := []

def upload : Upload := ⟨"x.zip", .archive [("d.v/b.c.Go", "")]⟩

def unpacked : Disk :=
  ⟨disk.entries ++ [(place ++ ["x.zip"], .file (.bytes [80, 75, 3, 4]) none),
    (place ++ ["d.v", "b.c.Go"], .file (.text "") none)]⟩

theorem filesBelow_unpacked : filesBelow unpacked archiveDir = [["old.PY"], ["x.zip"], ["d.v", "b.c.Go"]] := by
  have hplace : unpacked.locate archiveDir = .ok place := Checked.toOption_eq_some.mp (by decide)
  have hfiles : (unpacked.files.filterMap fun f => if place.isPrefixOf f && place != f then some (f.drop place.length) else none) =
      [["old.PY"], ["x.zip"], ["d.v", "b.c.Go"]] := by decide
  rw [filesBelow, hplace]
  dsimp only
  rw [hfiles]
  exact List.mergeSort_of_pairwise (by decide)

end MixedArchive
end ThreatScan.Page
