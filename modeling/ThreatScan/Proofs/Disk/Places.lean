import ThreatScan.Proofs.Disk.Paths
/-!
The places that paths lead to.

A walk goes through directories, and everything above a place that it reaches is a directory (`above_of_walk`). So a file can
only be reached by a path whose base name is the last name of its place (`last_of_locate`): a base name that stays or goes up
ends at a directory. Files at paths of different base names are therefore different files.

Where a path leads depends on directories only (`locate_of_dirs`); if the path never goes up, it depends on those above
the place that it leads to (`locate_of_dirs_above`).
-/
namespace ThreatScan.Disk

variable {d d' : Disk} {k l m : Location} {name path : String} {names : List String}

/-! ## Single entries -/

theorem get?_root (d : Disk) (h : l ∈ roots) : d.get? l = some .dir := by
  rw [get?, if_pos (List.contains_iff_mem.mpr h)]

theorem get?_of_not_root (h : l ∉ roots) : d.get? l = d.entries.lookup l := by
  rw [get?, if_neg (by simpa using h)]

theorem get?_erase_ne (d : Disk) (h : m ≠ l) : (d.erase l).get? m = d.get? m := by
  by_cases hr : m ∈ roots
  · rw [get?_root _ hr, get?_root _ hr]
  · have hset := get?_set_ne d .dir h
    rw [get?_of_not_root hr, set, List.lookup_append] at hset
    have hne : (m == l) = false := by simpa using h
    rw [List.lookup_cons, hne] at hset
    rw [get?_of_not_root hr, ← hset]
    simp

theorem get?_erase_self (d : Disk) (h : l ∉ roots) : (d.erase l).get? l = none := by
  rw [get?_of_not_root h, erase, List.lookup_eq_none_iff]
  intro e he
  have hne : e.1 ≠ l := by simpa using (List.mem_filter.mp he).2
  simpa using hne.symm

/-! ## Walks -/

theorem walk_append_eq_ok {more : List String} :
    d.walk l (names ++ more) = .ok k ↔ ∃ m, d.walk l names = .ok m ∧ d.walk m more = .ok k := by
  induction names generalizing l with
  | nil =>
    constructor
    · exact fun h => ⟨l, rfl, h⟩
    · rintro ⟨m, hm, h⟩
      cases hm
      exact h
  | cons name rest ih => simp only [List.cons_append, walk_cons_eq_ok, ih, and_assoc, exists_and_left]

def Above (d : Disk) (l : Location) : Prop := ∀ k, k <+: l → k ≠ l → d.get? k = some .dir

theorem above_start (d : Disk) (path : String) : d.Above (split path).1 := by
  have hroots : ∀ k, k <+: workPlace → k ∈ roots := by
    intro k hk
    rw [List.prefix_iff_eq_take.mp hk]
    refine List.mem_flatMap.mpr ⟨workPlace, List.mem_cons_self, List.mem_map.mpr ⟨k.length, ?_, rfl⟩⟩
    rw [List.mem_range]
    exact Nat.lt_succ_of_le hk.length_le
  intro k hk hne
  rw [split] at hk hne
  dsimp only at hk hne
  split at hk
  · next habs =>
    rw [if_pos habs] at hne
    exact absurd (List.prefix_nil.mp hk) hne
  · exact get?_root d (hroots k hk)

/-- Going down from a directory or up from it keeps directories above. -/
theorem Above.descend (ha : d.Above l) (hl : d.get? l = some .dir) (name : String) : d.Above (descend l name) := by
  intro k hk hne
  rw [Disk.descend] at hk hne
  split at hk
  · next hstay =>
    rw [if_pos hstay] at hne
    exact ha k hk hne
  · next hstay =>
    rw [if_neg hstay] at hne
    split at hk
    · next hup =>
      have hkl := hk.trans (List.dropLast_prefix l)
      by_cases heq : k = l
      · rw [heq, hl]
      · exact ha k hkl heq
    · next hup =>
      rw [if_neg hup] at hne
      rcases List.prefix_concat_iff.mp hk with heq | hkl
      · exact absurd heq hne
      · by_cases heq : k = l
        · rw [heq, hl]
        · exact ha k hkl heq

theorem above_of_walk (ha : d.Above l) (h : d.walk l names = .ok k) : d.Above k := by
  induction names generalizing l with
  | nil =>
    cases h
    exact ha
  | cons name rest ih =>
    obtain ⟨hl, -, hrest⟩ := walk_cons_eq_ok.mp h
    exact ih (ha.descend hl name) hrest

theorem pieces_eq_concat (path : String) : ∃ names, Path.pieces path = names ++ [Path.baseName path] := by
  have hne : Path.pieces path ≠ [] := by
    rw [Path.pieces, Text.cut]
    simp [Text.cutFrom_ne_nil]
  refine ⟨(Path.pieces path).dropLast, ?_⟩
  rw [Path.baseName, List.getLastD_eq_getLast?, List.getLast?_eq_some_getLast hne, Option.getD_some,
    List.dropLast_concat_getLast hne]

/-- What is no directory has the base name of every path to it as its last name. -/
theorem last_of_locate (h : d.locate path = .ok l) (hl : d.get? l ≠ some .dir) :
    l.getLast? = some (Path.baseName path) := by
  obtain ⟨-, -, -, hwalk⟩ := locate_eq_ok.mp h
  obtain ⟨names, hnames⟩ := pieces_eq_concat path
  rw [hnames] at hwalk
  obtain ⟨m, hm, hlast⟩ := walk_append_eq_ok.mp hwalk
  obtain ⟨hdir, -, hend⟩ := walk_cons_eq_ok.mp hlast
  have habove := above_of_walk (above_start d path) hm
  cases hend
  rw [descend] at hl ⊢
  split
  · next hstay =>
    rw [if_pos hstay] at hl
    exact absurd hdir hl
  · next hstay =>
    rw [if_neg hstay] at hl
    split
    · next hup =>
      rw [if_pos hup] at hl
      by_cases heq : m.dropLast = m
      · rw [heq] at hl
        exact absurd hdir hl
      · exact absurd (habove _ (List.dropLast_prefix m) heq) hl
    · simp

theorem makeAlong_of_walk (h : d.walk l names = .ok k) (hk : d.get? k = some .dir) : d.makeAlong l names = .ok d := by
  induction names generalizing l with
  | nil => rfl
  | cons name rest ih =>
    obtain ⟨-, -, hrest⟩ := walk_cons_eq_ok.mp h
    have hnext : d.get? (descend l name) = some .dir := by
      cases rest with
      | nil =>
        cases hrest
        exact hk
      | cons next rest => exact (walk_cons_eq_ok.mp hrest).1
    rw [makeAlong, hnext]
    exact ih hrest

/-! ## What a walk depends on -/

/-- A walk leads to the same place where the directories are kept. -/
theorem walk_of_dirs (hd : ∀ m, d.get? m = some .dir → d'.get? m = some .dir) (h : d.walk l names = .ok k) :
    d'.walk l names = .ok k := by
  induction names generalizing l with
  | nil => exact h
  | cons name rest ih =>
    obtain ⟨hl, hfits, hrest⟩ := walk_cons_eq_ok.mp h
    exact walk_cons_eq_ok.mpr ⟨hd l hl, hfits, ih hrest⟩

theorem locate_of_dirs (hd : ∀ m, d.get? m = some .dir → d'.get? m = some .dir) (h : d.locate path = .ok k) :
    d'.locate path = .ok k := by
  obtain ⟨hempty, hnull, hfits, hwalk⟩ := locate_eq_ok.mp h
  exact locate_eq_ok.mpr ⟨hempty, hnull, hfits, walk_of_dirs hd hwalk⟩

theorem isPrefix_of_walk (hup : ".." ∉ names) (h : d.walk l names = .ok k) : l <+: k := by
  induction names generalizing l with
  | nil =>
    cases h
    exact List.prefix_rfl
  | cons name rest ih =>
    obtain ⟨hname, hrest⟩ : ".." ≠ name ∧ ".." ∉ rest := by simpa using hup
    obtain ⟨-, -, h⟩ := walk_cons_eq_ok.mp h
    have hdown : l <+: descend l name := by
      rw [descend]
      split
      · exact List.prefix_rfl
      · rw [if_neg (by simpa using hname.symm)]
        exact List.prefix_append l [name]
    exact hdown.trans (ih hrest h)

theorem walk_of_dirs_above (hup : ".." ∉ names) (hd : ∀ m, m <+: k → d.get? m = some .dir → d'.get? m = some .dir)
    (h : d.walk l names = .ok k) : d'.walk l names = .ok k := by
  induction names generalizing l with
  | nil => exact h
  | cons name rest ih =>
    -- the place that is left now is one of those above the end
    have hl := isPrefix_of_walk hup h
    obtain ⟨hdir, hfits, hrest⟩ := walk_cons_eq_ok.mp h
    exact walk_cons_eq_ok.mpr ⟨hd l hl hdir, hfits, ih (fun hmem => hup (List.mem_cons_of_mem name hmem)) hrest⟩

theorem locate_of_dirs_above (hup : ".." ∉ Path.pieces path)
    (hd : ∀ m, m <+: k → d.get? m = some .dir → d'.get? m = some .dir) (h : d.locate path = .ok k) :
    d'.locate path = .ok k := by
  obtain ⟨hempty, hnull, hfits, hwalk⟩ := locate_eq_ok.mp h
  exact locate_eq_ok.mpr ⟨hempty, hnull, hfits, walk_of_dirs_above hup hd hwalk⟩

end ThreatScan.Disk
