import ThreatScan.Disk.Basic
/-!
Files on a disk.

A file that was written can be read back (`read_write`): a walk to a location goes through directories only, so putting a
file where no directory is does not change it. For the same reason a file that can be written at a path (`Accepts`) can be
written there also after others. A file that can be read stands at its path, and one that is not there cannot be removed.
A file that grows at its end (`Holds`) can always grow further (`Holds.append`).
-/
namespace ThreatScan.Disk

theorem get?_set_self (d : Disk) {l : Location} (e : Entry) (h : roots.contains l = false) : (d.set l e).get? l = some e := by
  have herased : (d.erase l).entries.lookup l = none := by
    rw [List.lookup_eq_none_iff]
    intro x hx
    have hne : x.1 ≠ l := by simpa using (List.mem_filter.mp hx).2
    simpa using hne.symm
  unfold get? set
  rw [h]
  simp [List.lookup_append, herased]

/-! ## The way to a location -/

section
variable {d : Disk} {l k : Location} {name path : String} {names : List String}

/-- A step of a walk leaves a directory by a name that is not too long. -/
theorem walk_cons_eq_ok : d.walk l (name :: names) = .ok k ↔
    d.get? l = some .dir ∧ name.utf8ByteSize ≤ nameLimit ∧ d.walk (descend l name) names = .ok k := by
  rw [walk]
  split
  · next hl => simp [hl]
  · next hl => simp [hl]
  · next hl =>
    split
    · next hlong => simp [Nat.not_le.mpr hlong]
    · next hfits => simp [hl, Nat.not_lt.mp hfits]

theorem locate_eq_ok : d.locate path = .ok l ↔
    path.isEmpty = false ∧ path.toList.contains (Char.ofNat 0) = false ∧ path.utf8ByteSize ≤ pathLimit ∧
      d.walk (split path).1 (Path.pieces path) = .ok l := by
  rw [locate]
  split
  · next h => simp [h]
  · next hempty =>
    split
    · next h => simp only [h]; simp
    · next hnull =>
      split
      · next h => simp [Nat.not_le.mpr h]
      · next h =>
        rw [Bool.not_eq_true] at hempty hnull
        simp only [hempty, hnull, Nat.not_lt.mp h, true_and]
        rfl

end

/-- A walk goes through directories only, so what is put where none is does not change it. -/
theorem walk_set {d : Disk} {l m k : Location} {names : List String} {e : Entry} (hl : d.get? l ≠ some .dir)
    (h : d.walk m names = .ok k) : (d.set l e).walk m names = .ok k := by
  induction names generalizing m with
  | nil => exact h
  | cons name rest ih =>
    obtain ⟨hm, hfits, hrest⟩ := walk_cons_eq_ok.mp h
    -- the way goes on from a directory, so this is not the place that is set
    have hne : m ≠ l := by
      rintro rfl
      exact hl hm
    refine walk_cons_eq_ok.mpr ⟨?_, hfits, ih hrest⟩
    rw [get?_set_ne d e hne, hm]

theorem locate_set {d : Disk} {path : String} {l k : Location} {e : Entry} (hl : d.get? l ≠ some .dir)
    (h : d.locate path = .ok k) : (d.set l e).locate path = .ok k := by
  obtain ⟨hempty, hnull, hfits, hwalk⟩ := locate_eq_ok.mp h
  exact locate_eq_ok.mpr ⟨hempty, hnull, hfits, walk_set hl hwalk⟩

/-! ## Written files -/

/-- A file may be put at the location: nothing is there, or a file that can be opened. -/
def Free (d : Disk) (l : Location) : Prop := d.get? l = none ∨ ∃ c, d.get? l = some (.file c none)

theorem Free.not_dir {d : Disk} {l : Location} (h : d.Free l) : d.get? l ≠ some .dir := by
  rcases h with h | ⟨c, h⟩ <;> simp [h]

theorem Free.not_root {d : Disk} {l : Location} (h : d.Free l) : roots.contains l = false := by
  cases hr : roots.contains l with
  | false => rfl
  | true => exact absurd (by rw [get?, hr]; rfl) h.not_dir

/-- What a write does: it puts the file at the location of the path, if it may be put there. -/
theorem write_eq_ok {d d' : Disk} {path : String} {c : Content} : d.write path c = .ok d' ↔
    Text.endsWith path "/" = false ∧ ∃ l, d.locate path = .ok l ∧ d.Free l ∧ d' = d.set l (.file c none) := by
  unfold write
  split
  · next hslash => simp [hslash]
  · next hslash =>
    rw [Bool.not_eq_true] at hslash
    split
    · next b hb => simp [hb]
    · next l hl =>
      simp only [hslash, hl, true_and, Except.ok.injEq, exists_eq_left']
      unfold Free
      split
      · next h => simp [h]
      · next h => simp [h]
      · next h => simp [h]
      · next hdir hdenied hfailed =>
        have hfree : d.get? l = none ∨ ∃ c, d.get? l = some (.file c none) := by
          match hget : d.get? l with
          | none => exact .inl rfl
          | some .dir => exact absurd hget hdir
          | some (.file c none) => exact .inr ⟨c, rfl⟩
          | some (.file c (some .permission)) => exact absurd hget (hdenied c)
          | some (.file c (some .failure)) => exact absurd hget (hfailed c)
        rw [Except.ok.injEq, eq_comm, and_iff_right hfree]

theorem read_write {d d' : Disk} {path : String} {c : Content} (h : d.write path c = .ok d') : d'.read path = .ok c := by
  obtain ⟨hslash, l, hlocate, hfree, rfl⟩ := write_eq_ok.mp h
  unfold read
  rw [locate_set hfree.not_dir hlocate]
  dsimp only
  rw [get?_set_self d _ hfree.not_root]
  dsimp only
  rw [hslash]
  rfl

def Accepts (d : Disk) (path : String) : Prop := ∃ d', d.write path (.text "") = .ok d'

instance (d : Disk) (path : String) : Decidable (d.Accepts path) :=
  match h : d.write path (.text "") with
  | .ok d' => isTrue ⟨d', h⟩
  | .error _ => isFalse (by rintro ⟨d', hd⟩; cases h.symm.trans hd)

/-- Whether a file can be written does not depend on what is written. -/
theorem Accepts.exists_write {d : Disk} {path : String} (h : d.Accepts path) (c : Content) :
    ∃ d', d.write path c = .ok d' := by
  obtain ⟨d', hd⟩ := h
  obtain ⟨hslash, l, hlocate, hfree, -⟩ := write_eq_ok.mp hd
  exact ⟨_, write_eq_ok.mpr ⟨hslash, l, hlocate, hfree, rfl⟩⟩

/-- Writing one file does not keep another from being written. -/
theorem Accepts.of_write {d d' : Disk} {path other : String} {c : Content} (h : d.Accepts path)
    (hw : d.write other c = .ok d') : d'.Accepts path := by
  obtain ⟨_, hd⟩ := h
  obtain ⟨hslash, l, hlocate, hfree, -⟩ := write_eq_ok.mp hd
  obtain ⟨-, m, -, hother, rfl⟩ := write_eq_ok.mp hw
  -- either the same file is written again, or its place is as it was
  have hfree' : (d.set m (.file c none)).Free l := by
    unfold Free
    by_cases hlm : l = m
    · subst hlm
      exact .inr ⟨c, get?_set_self d _ hfree.not_root⟩
    · rw [get?_set_ne d _ hlm]
      exact hfree
  exact ⟨_, write_eq_ok.mpr ⟨hslash, l, locate_set hother.not_dir hlocate, hfree', rfl⟩⟩

theorem readText_of_read {d : Disk} {path text : String} (h : d.read path = .ok (.text text)) :
    d.readText path = .ok (String.ofList (Text.uniformLines text.toList)) := by
  unfold readText
  rw [h]
  rfl

theorem readText_write {d d' : Disk} {path text : String} (h : d.write path (.text text) = .ok d') :
    d'.readText path = .ok (String.ofList (Text.uniformLines text.toList)) :=
  readText_of_read (read_write h)

theorem exists_of_read {d : Disk} {path : String} {c : Content} (h : d.read path = .ok c) :
    Text.endsWith path "/" = false ∧ ∃ l, d.locate path = .ok l ∧ d.get? l = some (.file c none) := by
  unfold read at h
  split at h
  · cases h
  · next l hl =>
    split at h
    · cases h
    · cases h
    · next c' denial hfile =>
      split at h
      · cases h
      · next hslash =>
        cases denial with
        | none => exact ⟨by simpa using hslash, l, hl, by rw [hfile, Except.ok.inj h]⟩
        | some kind => cases kind <;> cases h

theorem entry?_of_get? {d : Disk} {path : String} {l : Location} {c : Content} {denial : Option Denial}
    (hslash : Text.endsWith path "/" = false) (hl : d.locate path = .ok l) (hfile : d.get? l = some (.file c denial)) :
    d.entry? path = some (.file c denial) := by
  unfold entry?
  rw [hl]
  dsimp only
  rw [hfile]
  dsimp only
  rw [hslash]
  rfl

theorem entry?_of_read {d : Disk} {path : String} {c : Content} (h : d.read path = .ok c) :
    d.entry? path = some (.file c none) := by
  obtain ⟨hslash, l, hl, hfile⟩ := exists_of_read h
  exact entry?_of_get? hslash hl hfile

theorem exists_error_of_missing {d : Disk} {path : String} (h : d.entry? path = none) :
    ∃ e, d.readText path = .error e := by
  unfold readText
  cases hread : d.read path with
  | error e => exact ⟨_, rfl⟩
  | ok c =>
    rw [entry?_of_read hread] at h
    cases h

/-- What a removal does: it takes the file away from the location of the path. -/
theorem remove_eq_ok {d d' : Disk} {path : String} : d.remove path = .ok d' ↔ Text.endsWith path "/" = false ∧
    ∃ l c denial, d.locate path = .ok l ∧ d.get? l = some (.file c denial) ∧ d' = d.erase l := by
  unfold remove
  split
  · next b hb => simp [hb]
  · next l hl =>
    split
    · next h => simp [hl, h]
    · next h => simp [hl, h]
    · next c denial h => cases Text.endsWith path "/" <;> simp [hl, h, eq_comm]

theorem has_of_remove {d d' : Disk} {path : String} (h : d.remove path = .ok d') : d.has path = true := by
  obtain ⟨hslash, l, c, denial, hl, hfile, -⟩ := remove_eq_ok.mp h
  rw [has, entry?_of_get? hslash hl hfile]
  rfl

/-- Exactly the files can be removed. -/
theorem isFile_iff_remove {d : Disk} {path : String} : d.isFile path = true ↔ ∃ d', d.remove path = .ok d' := by
  constructor
  · intro h
    unfold isFile at h
    split at h
    · next c denial hentry =>
      unfold entry? at hentry
      split at hentry
      · next l hl =>
        split at hentry
        · next hfile =>
          split at hentry
          · cases hentry
          · next hslash => exact ⟨_, remove_eq_ok.mpr ⟨by simpa using hslash, l, _, _, hl, hfile, rfl⟩⟩
        · next hother => exact absurd hentry (hother _ _)
      · cases hentry
    · cases h
  · rintro ⟨d', hd⟩
    obtain ⟨hslash, l, c, denial, hl, hfile, -⟩ := remove_eq_ok.mp hd
    rw [isFile, entry?_of_get? hslash hl hfile]

/-! ## Files that grow -/

theorem accepts_of_read {d : Disk} {path : String} {c : Content} (h : d.read path = .ok c) : d.Accepts path := by
  obtain ⟨hslash, l, hl, hfile⟩ := exists_of_read h
  exact ⟨_, write_eq_ok.mpr ⟨hslash, l, hl, .inr ⟨c, hfile⟩, rfl⟩⟩

/-- The file holds the text, and more can be put behind it. A file with no text in it may still be missing. -/
def Holds (d : Disk) (path text : String) : Prop :=
  d.read path = .ok (.text text) ∨ text = "" ∧ d.entry? path = none ∧ d.Accepts path

theorem Holds.append {d : Disk} {path text : String} (h : d.Holds path text) (more : String) :
    ∃ d', d.append path more = .ok d' ∧ d'.Holds path (text ++ more) := by
  unfold Disk.append
  rcases h with hread | ⟨rfl, hmissing, haccepts⟩
  · obtain ⟨d', hd⟩ := (accepts_of_read hread).exists_write (.text (text ++ more))
    rw [entry?_of_read hread]
    exact ⟨d', hd, .inl (read_write hd)⟩
  · obtain ⟨d', hd⟩ := haccepts.exists_write (.text more)
    rw [hmissing]
    refine ⟨d', hd, .inl ?_⟩
    rw [read_write hd, String.empty_append]

end ThreatScan.Disk
