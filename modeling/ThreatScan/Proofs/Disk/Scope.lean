import ThreatScan.Proofs.Disk.Places
/-!
What work on a disk can touch.

`Worked scope d d'` says that `d'` comes of `d` by operations on paths of the scope, one after another: files are written and
removed, directories made and removed. Two things follow for any such work. A file whose base name is that of no file in the
scope is still there with its content (`Worked.spares`). And if no directory is removed, every place is as it was unless a
file of the scope is there now, or a directory that was made (`Worked.grown`).

A disk is `Proper` if it has one entry for each place and no name with a slash in it. Disks are built proper (`Proper.plant`)
and stay so in all work (`Worked.proper`).
-/
namespace ThreatScan

/-- The paths that may be touched: files to write and to remove, directories to make and to remove. -/
structure Scope where
  files : String → Prop
  made : String → Prop
  dropped : String → Prop

namespace Disk

variable {d d' : Disk} {path : String} {c : Content}

/-- The second disk comes of the first by work within the scope. -/
inductive Worked (scope : Scope) : Disk → Disk → Prop
  | idle {d : Disk} : Worked scope d d
  | andThen {d d₁ d₂ : Disk} (h : Worked scope d d₁) (h' : Worked scope d₁ d₂) : Worked scope d d₂
  | write {d d' : Disk} {path : String} {c : Content} (hp : scope.files path) (h : d.write path c = .ok d') : Worked scope d d'
  | remove {d d' : Disk} {path : String} (hp : scope.files path) (h : d.remove path = .ok d') : Worked scope d d'
  | makeDir {d d' : Disk} {path : String} (hp : scope.made path) (h : d.makeDir path = .ok d') : Worked scope d d'
  | removeDir {d : Disk} {path : String} (hp : scope.dropped path) : Worked scope d (d.removeDir path)

/-! ## Single operations -/

theorem read_eq_ok : d.read path = .ok c ↔
    Text.endsWith path "/" = false ∧ ∃ l, d.locate path = .ok l ∧ d.get? l = some (.file c none) := by
  constructor
  · exact exists_of_read
  · rintro ⟨hslash, l, hl, hfile⟩
    simp [read, hl, hfile, hslash]

theorem exists_of_remove (h : d.remove path = .ok d') :
    ∃ l, d.locate path = .ok l ∧ d.get? l ≠ some .dir ∧ d' = d.erase l := by
  obtain ⟨-, l, c, denial, hl, hfile, rfl⟩ := remove_eq_ok.mp h
  exact ⟨l, hl, by simp [hfile], rfl⟩

theorem eq_or_set_of_makeDir (h : d.makeDir path = .ok d') :
    d' = d ∨ ∃ l, d.locate (bare path) = .ok l ∧ d.get? l = none ∧ d' = d.set l .dir := by
  rw [makeDir] at h
  split at h
  · cases h
  · next l hl =>
    split at h
    · next hnone =>
      cases h
      exact .inr ⟨l, hl, hnone, rfl⟩
    · split at h
      · cases h
        exact .inl rfl
      · cases h

/-- A directory that is removed has nothing below it. -/
theorem removeDir_eq_or (d : Disk) (path : String) :
    d.removeDir path = d ∨ ∃ l, d.get? l = some .dir ∧ d.occupied l = false ∧ d.removeDir path = d.erase l := by
  rw [removeDir]
  split
  · exact .inl rfl
  · next l hl =>
    split
    · next h =>
      rw [Bool.and_eq_true, beq_iff_eq, Bool.not_eq_true'] at h
      exact .inr ⟨l, h.1, h.2, rfl⟩
    · exact .inl rfl

theorem not_mem_roots_of_get? {l : Location} (h : d.get? l ≠ some .dir) : l ∉ roots := fun hr => h (get?_root d hr)

/-- The disks differ at one place only, which was no directory. -/
structure OnlyAt (m : Location) (d d' : Disk) : Prop where
  not_dir : d.get? m ≠ some .dir
  same : ∀ k, k ≠ m → d'.get? k = d.get? k

namespace OnlyAt

variable {m : Location}

theorem set (h : d.get? m ≠ some .dir) (e : Entry) : OnlyAt m d (d.set m e) := ⟨h, fun _ hk => get?_set_ne d e hk⟩

theorem erase (h : d.get? m ≠ some .dir) : OnlyAt m d (d.erase m) := ⟨h, fun _ hk => get?_erase_ne d hk⟩

theorem dirs (h : OnlyAt m d d') (k : Location) (hk : d.get? k = some .dir) : d'.get? k = some .dir := by
  have hne : k ≠ m := by
    rintro rfl
    exact h.not_dir hk
  rw [h.same k hne, hk]

theorem read (h : OnlyAt m d d') (hne : d.locate path ≠ .ok m) (hr : d.read path = .ok c) : d'.read path = .ok c := by
  obtain ⟨hslash, l, hl, hfile⟩ := read_eq_ok.mp hr
  refine read_eq_ok.mpr ⟨hslash, l, locate_of_dirs h.dirs hl, ?_⟩
  have hlm : l ≠ m := by
    rintro rfl
    exact hne hl
  rw [h.same l hlm, hfile]

end OnlyAt

theorem get?_of_remove (h : d.remove path = .ok d') {l : Location} (hl : d'.locate path = .ok l) : d'.get? l = none := by
  obtain ⟨m, hm, hdir, rfl⟩ := exists_of_remove h
  have hm' : (d.erase m).locate path = .ok m := locate_of_dirs (OnlyAt.erase hdir).dirs hm
  cases hm'.symm.trans hl
  exact get?_erase_self d (not_mem_roots_of_get? hdir)

theorem entry?_of_remove (h : d.remove path = .ok d') : d'.entry? path = none := by
  unfold entry?
  split
  · next l hl => rw [get?_of_remove h hl]
  · rfl

theorem exists_remove_of_read (h : d.read path = .ok c) : ∃ d', d.remove path = .ok d' := by
  obtain ⟨hslash, l, hl, hfile⟩ := exists_of_read h
  exact ⟨_, remove_eq_ok.mpr ⟨hslash, l, c, none, hl, hfile, rfl⟩⟩

/-- A file that can be read can be read also after another was written, or that very file. -/
theorem exists_read_of_write {other : String} {c' : Content} (hr : d.read path = .ok c) (hw : d.write other c' = .ok d') :
    ∃ c'', d'.read path = .ok c'' := by
  obtain ⟨hslash, l, hl, hfile⟩ := exists_of_read hr
  obtain ⟨-, m, -, hfree, rfl⟩ := write_eq_ok.mp hw
  have hl' := locate_set (e := .file c' none) hfree.not_dir hl
  by_cases hlm : l = m
  · subst hlm
    exact ⟨c', read_eq_ok.mpr ⟨hslash, l, hl', get?_set_self d _ hfree.not_root⟩⟩
  · exact ⟨c, read_eq_ok.mpr ⟨hslash, l, hl', by rw [get?_set_ne d _ hlm, hfile]⟩⟩

theorem occupied_of_file {l m : Location} {denial : Option Denial} (hl : d.get? l = some (.file c denial)) (hm : m <+: l)
    (hne : m ≠ l) : d.occupied m = true := by
  have hroot : l ∉ roots := not_mem_roots_of_get? (d := d) (by simp [hl])
  rw [get?_of_not_root hroot] at hl
  obtain ⟨before, after, hentries, -⟩ := List.lookup_eq_some_iff.mp hl
  rw [occupied, List.any_eq_true]
  refine ⟨(l, .file c denial), by simp [hentries], ?_⟩
  rw [Bool.and_eq_true, List.isPrefixOf_iff_prefix]
  exact ⟨hm, by simpa using hne.symm⟩

/-! ## Several operations -/

namespace Worked

variable {scope scope' : Scope}

theorem mono (hw : Worked scope d d') (hf : ∀ p, scope.files p → scope'.files p) (hm : ∀ p, scope.made p → scope'.made p)
    (hd : ∀ p, scope.dropped p → scope'.dropped p) : Worked scope' d d' := by
  induction hw with
  | idle => exact .idle
  | andThen _ _ ih ih' => exact ih.andThen ih'
  | write hp h => exact .write (hf _ hp) h
  | remove hp h => exact .remove (hf _ hp) h
  | makeDir hp h => exact .makeDir (hm _ hp) h
  | removeDir hp => exact .removeDir (hd _ hp)

theorem append {t : String} (hp : scope.files path) (h : d.append path t = .ok d') : Worked scope d d' := by
  rw [Disk.append] at h
  split at h
  · exact .write hp h
  · exact .write hp h

/-- Directories are made along the way to a path, from its leading parts. -/
theorem makeDirsFrom {fuel : Nat} (hp : ∀ q : String, q.toList <+: path.toList → scope.made q)
    (h : Disk.makeDirsFrom fuel d path = .ok d') : Worked scope d d' := by
  induction fuel generalizing path d' with
  | zero =>
    cases h
    exact .idle
  | succ fuel ih =>
    rw [Disk.makeDirsFrom] at h
    generalize htrimmed : (if (Path.baseName path).isEmpty then Path.dirName path else path) = trimmed at h
    have hpart : trimmed.toList <+: path.toList := by
      rw [← htrimmed]
      split
      · exact Path.dirName_isPrefix path
      · exact List.prefix_rfl
    have hhead : ∀ q : String, q.toList <+: (Path.dirName trimmed).toList → scope.made q := fun q hq =>
      hp q (hq.trans ((Path.dirName_isPrefix trimmed).trans hpart))
    have hlast : ∀ d₁ : Disk, (if Path.baseName trimmed == "." then .ok d₁ else d₁.makeDir path) = .ok d' →
        Worked scope d₁ d' := by
      intro d₁ h
      split at h
      · cases h
        exact .idle
      · exact .makeDir (hp path List.prefix_rfl) h
    split at h
    · split at h
      · exact hlast d h
      · cases h
      · next d₁ hd₁ => exact (ih hhead hd₁).andThen (hlast d₁ h)
    · exact .makeDir (hp path List.prefix_rfl) h

theorem makeDirs (hp : ∀ q : String, q.toList <+: path.toList → scope.made q) (h : d.makeDirs path = .ok d') :
    Worked scope d d' := makeDirsFrom hp h

/-! ## Files that are spared -/

/-- A file is at another place than what stands at a path of another base name. -/
theorem locate_ne {path other : String} {m : Location} (hm : d.locate other = .ok m)
    (hm' : d.get? m ≠ some .dir) (hne : Path.baseName other ≠ Path.baseName path) : d.locate path ≠ .ok m := by
  intro hl
  have hlast := last_of_locate hl hm'
  rw [last_of_locate hm hm'] at hlast
  exact hne (Option.some.inj hlast)

/-- Work within a scope spares every file whose base name no file of the scope has. Where directories are dropped, its path must
not go up: the directory that it goes up from may be one of them. -/
theorem spares (hw : Worked scope d d') (hf : ∀ q, scope.files q → Path.baseName q ≠ Path.baseName path)
    (hup : ∀ q, scope.dropped q → ".." ∉ Path.pieces path) (hr : d.read path = .ok c) : d'.read path = .ok c := by
  induction hw with
  | idle => exact hr
  | andThen _ _ ih ih' => exact ih' (ih hr)
  | @write d d' q content hp h =>
    obtain ⟨-, m, hm, hfree, rfl⟩ := write_eq_ok.mp h
    exact (OnlyAt.set hfree.not_dir _).read (locate_ne hm hfree.not_dir (hf q hp)) hr
  | @remove d d' q hp h =>
    obtain ⟨m, hm, hgone, rfl⟩ := exists_of_remove h
    exact (OnlyAt.erase hgone).read (locate_ne hm hgone (hf q hp)) hr
  | @makeDir d d' q hp h =>
    rcases eq_or_set_of_makeDir h with rfl | ⟨m, -, hnone, rfl⟩
    · exact hr
    · refine (OnlyAt.set (by simp [hnone]) _).read ?_ hr
      intro hm
      obtain ⟨-, l, hl, hfile⟩ := read_eq_ok.mp hr
      cases hm.symm.trans hl
      cases hnone.symm.trans hfile
  | @removeDir d q hp =>
    rcases removeDir_eq_or d q with heq | ⟨m, hdir, hempty, heq⟩
    · rw [heq]
      exact hr
    · rw [heq]
      obtain ⟨hslash, l, hl, hfile⟩ := read_eq_ok.mp hr
      have hne : l ≠ m := by
        rintro rfl
        cases hdir.symm.trans hfile
      -- the file stands below every directory on the way to it, so none of them is the empty one
      have hdirs : ∀ k, k <+: l → d.get? k = some .dir → (d.erase m).get? k = some .dir := by
        intro k hk hdir
        have hkm : k ≠ m := by
          rintro rfl
          cases hempty.symm.trans (occupied_of_file hfile hk hne.symm)
        rw [get?_erase_ne d hkm, hdir]
      refine read_eq_ok.mpr ⟨hslash, l, locate_of_dirs_above (hup q hp) hdirs hl, ?_⟩
      rw [get?_erase_ne d hne, hfile]

/-! ## Places that are left as they were -/

/-- Directories stay, and a place is as it was unless a file of the scope is there, or a directory that was made. -/
structure Grown (scope : Scope) (d d' : Disk) : Prop where
  dirs : ∀ l, d.get? l = some .dir → d'.get? l = some .dir
  places : ∀ l, (∃ p, scope.files p ∧ d'.locate p = .ok l) ∨ d'.get? l = d.get? l ∨
    d.get? l = none ∧ d'.get? l = some .dir ∧ ∃ p, scope.made p ∧ d'.locate (bare p) = .ok l

theorem Grown.rfl' : Grown scope d d := ⟨fun _ h => h, fun _ => .inr (.inl rfl)⟩

theorem Grown.trans' {d₁ d₂ : Disk} (h : Grown scope d d₁) (h' : Grown scope d₁ d₂) : Grown scope d d₂ where
  dirs l hl := h'.dirs l (h.dirs l hl)
  places l := by
    rcases h'.places l with hfile | hsame | ⟨hnone, hdir, hmade⟩
    · exact .inl hfile
    · rcases h.places l with ⟨p, hp, hl⟩ | hsame₁ | ⟨hnone, hdir, p, hp, hl⟩
      · exact .inl ⟨p, hp, locate_of_dirs h'.dirs hl⟩
      · exact .inr (.inl (hsame.trans hsame₁))
      · exact .inr (.inr ⟨hnone, hsame.trans hdir, p, hp, locate_of_dirs h'.dirs hl⟩)
    · rcases h.places l with ⟨p, hp, hl⟩ | hsame₁ | ⟨-, hdir₁, -⟩
      · exact .inl ⟨p, hp, locate_of_dirs h'.dirs hl⟩
      · exact .inr (.inr ⟨hsame₁.symm.trans hnone, hdir, hmade⟩)
      · rw [hnone] at hdir₁
        cases hdir₁

theorem Grown.of_onlyAt {m : Location} (h : OnlyAt m d d') (hm : (∃ p, scope.files p ∧ d.locate p = .ok m) ∨
    d.get? m = none ∧ d'.get? m = some .dir ∧ ∃ p, scope.made p ∧ d.locate (bare p) = .ok m) : Grown scope d d' where
  dirs := h.dirs
  places k := by
    by_cases hk : k = m
    · subst hk
      rcases hm with ⟨p, hp, hl⟩ | ⟨hnone, hdir, p, hp, hl⟩
      · exact .inl ⟨p, hp, locate_of_dirs h.dirs hl⟩
      · exact .inr (.inr ⟨hnone, hdir, p, hp, locate_of_dirs h.dirs hl⟩)
    · exact .inr (.inl (h.same k hk))

theorem grown (hw : Worked scope d d') (hd : ∀ p, ¬ scope.dropped p) : Grown scope d d' := by
  induction hw with
  | idle => exact .rfl'
  | andThen _ _ ih ih' => exact ih.trans' ih'
  | @write d d' q content hp h =>
    obtain ⟨-, m, hm, hfree, rfl⟩ := write_eq_ok.mp h
    exact .of_onlyAt (.set hfree.not_dir _) (.inl ⟨q, hp, hm⟩)
  | @remove d d' q hp h =>
    obtain ⟨m, hm, hgone, rfl⟩ := exists_of_remove h
    exact .of_onlyAt (.erase hgone) (.inl ⟨q, hp, hm⟩)
  | @makeDir d d' q hp h =>
    rcases eq_or_set_of_makeDir h with rfl | ⟨m, hm, hnone, rfl⟩
    · exact .rfl'
    · have hset := get?_set_self d .dir (by simpa using not_mem_roots_of_get? (by simp [hnone] : d.get? m ≠ some .dir))
      exact .of_onlyAt (.set (by simp [hnone]) _) (.inr ⟨hnone, hset, q, hp, hm⟩)
  | @removeDir d q hp => exact absurd hp (hd q)

end Worked

/-! ## Proper disks -/

def Named (l : Location) : Prop := ∀ name ∈ l, '/' ∉ name.toList

theorem named_pieces (path : String) : Named (Path.pieces path) := by
  intro name hname
  rw [Path.pieces_eq] at hname
  obtain ⟨piece, hpiece, rfl⟩ := List.mem_map.mp hname
  rw [String.toList_ofList]
  exact Text.not_mem_of_mem_cutAt hpiece

theorem named_start (path : String) : Named (split path).1 := by
  have hwork : Named workPlace := fun name hname => named_pieces Path.work name (List.mem_filter.mp hname).1
  rw [split]
  dsimp only
  split
  · exact fun name hname => absurd hname List.not_mem_nil
  · exact hwork

theorem Named.descend {l : Location} {name : String} (hl : Named l) (hname : '/' ∉ name.toList) :
    Named (descend l name) := by
  rw [Disk.descend]
  split
  · exact hl
  · split
    · exact fun x hx => hl x (List.dropLast_subset l hx)
    · intro x hx
      rcases List.mem_append.mp hx with hx | hx
      · exact hl x hx
      · rwa [List.mem_singleton.mp hx]

theorem named_of_walk {l k : Location} {names : List String} (hl : Named l) (hnames : Named names)
    (h : d.walk l names = .ok k) : Named k := by
  induction names generalizing l with
  | nil =>
    cases h
    exact hl
  | cons name rest ih =>
    obtain ⟨-, -, hrest⟩ := walk_cons_eq_ok.mp h
    obtain ⟨hname, hnames⟩ := List.forall_mem_cons.mp hnames
    exact ih (hl.descend hname) hnames hrest

theorem named_of_locate {l : Location} (h : d.locate path = .ok l) : Named l := by
  obtain ⟨-, -, -, hwalk⟩ := locate_eq_ok.mp h
  exact named_of_walk (named_start path) (named_pieces path) hwalk

/-- Each place has at most one entry, and no name has a slash in it. -/
structure Proper (d : Disk) : Prop where
  once : (d.entries.map Prod.fst).Nodup
  named : ∀ e ∈ d.entries, Named e.1

namespace Proper

theorem erase (hd : d.Proper) (l : Location) : (d.erase l).Proper where
  once := hd.once.sublist (List.filter_sublist.map Prod.fst)
  named e he := hd.named e (List.mem_filter.mp he).1

theorem set (hd : d.Proper) {l : Location} (hl : Named l) (e : Entry) : (d.set l e).Proper where
  once := by
    rw [Disk.set, List.map_append, List.nodup_append]
    refine ⟨(hd.erase l).once, by simp, ?_⟩
    rintro k hk m hm rfl
    obtain ⟨x, hx, hxk⟩ := List.mem_map.mp hk
    have hne : x.1 ≠ l := by simpa using (List.mem_filter.mp hx).2
    exact hne (hxk.trans (List.mem_singleton.mp hm))
  named x hx := by
    rcases List.mem_append.mp hx with hx | hx
    · exact (hd.erase l).named x hx
    · rw [List.mem_singleton.mp hx]
      exact hl

end Proper

theorem Worked.proper {scope : Scope} (hw : Worked scope d d') (hd : d.Proper) : d'.Proper := by
  induction hw with
  | idle => exact hd
  | andThen _ _ ih ih' => exact ih' (ih hd)
  | write _ h =>
    obtain ⟨-, m, hm, -, rfl⟩ := write_eq_ok.mp h
    exact hd.set (named_of_locate hm) _
  | remove _ h =>
    obtain ⟨m, -, -, rfl⟩ := exists_of_remove h
    exact hd.erase m
  | makeDir _ h =>
    rcases eq_or_set_of_makeDir h with rfl | ⟨m, hm, -, rfl⟩
    · exact hd
    · exact hd.set (named_of_locate hm) _
  | @removeDir d q _ =>
    rcases removeDir_eq_or d q with heq | ⟨m, -, -, heq⟩
    · rw [heq]
      exact hd
    · rw [heq]
      exact hd.erase m

end Disk
end ThreatScan
