import ThreatScan.Value.Basic
/-!
The values inside a value.

`parts` lists a value and all that is inside it, at any depth. A value is `Clear` of some keys if no record among its parts has
a field of that name. Clearness is decided from the outside in: scalars are clear, lists if their items are, and records if
they have other keys and their fields are clear (`clear_dict`).
-/
namespace ThreatScan.Value

mutual

/-- A value and what is inside it. -/
def parts : Value → List Value
  | .list xs => .list xs :: partsOfItems xs
  | .tuple xs => .tuple xs :: partsOfItems xs
  | .dict fields => .dict fields :: partsOfFields fields
  | v => [v]

def partsOfItems : List Value → List Value
  | [] => []
  | x :: xs => parts x ++ partsOfItems xs

def partsOfFields : List (String × Value) → List Value
  | [] => []
  | (_, v) :: rest => parts v ++ partsOfFields rest

end

theorem partsOfItems_eq (xs : List Value) : partsOfItems xs = xs.flatMap parts := by
  induction xs with
  | nil => rfl
  | cons x xs ih =>
    rw [List.flatMap_cons, ← ih]
    rfl

theorem partsOfFields_eq (fields : List (String × Value)) : partsOfFields fields = fields.flatMap fun f => f.2.parts := by
  induction fields with
  | nil => rfl
  | cons f fields ih =>
    rw [List.flatMap_cons, ← ih]
    rfl

theorem parts_list (xs : List Value) : (Value.list xs).parts = .list xs :: xs.flatMap parts := by
  rw [← partsOfItems_eq]
  rfl

theorem parts_tuple (xs : List Value) : (Value.tuple xs).parts = .tuple xs :: xs.flatMap parts := by
  rw [← partsOfItems_eq]
  rfl

theorem parts_dict (fields : List (String × Value)) :
    (Value.dict fields).parts = .dict fields :: fields.flatMap fun f => f.2.parts := by
  rw [← partsOfFields_eq]
  rfl

theorem self_mem_parts (v : Value) : v ∈ v.parts := by
  cases v <;> exact List.mem_cons_self

theorem mem_parts_list {v : Value} {xs : List Value} : v ∈ (Value.list xs).parts ↔ v = .list xs ∨ ∃ x ∈ xs, v ∈ x.parts := by
  rw [parts_list, List.mem_cons, List.mem_flatMap]

theorem mem_parts_tuple {v : Value} {xs : List Value} :
    v ∈ (Value.tuple xs).parts ↔ v = .tuple xs ∨ ∃ x ∈ xs, v ∈ x.parts := by
  rw [parts_tuple, List.mem_cons, List.mem_flatMap]

theorem mem_parts_dict {v : Value} {fields : List (String × Value)} :
    v ∈ (Value.dict fields).parts ↔ v = .dict fields ∨ ∃ f ∈ fields, v ∈ f.2.parts := by
  rw [parts_dict, List.mem_cons, List.mem_flatMap]

theorem mem_parts_of_item {v x : Value} {xs : List Value} (hx : x ∈ xs) (hv : v ∈ x.parts) : v ∈ (Value.list xs).parts :=
  mem_parts_list.mpr (.inr ⟨x, hx, hv⟩)

theorem mem_parts_of_field (key : String) {v w : Value} {fields : List (String × Value)} (hf : (key, w) ∈ fields)
    (hv : v ∈ w.parts) : v ∈ (Value.dict fields).parts :=
  mem_parts_dict.mpr (.inr ⟨(key, w), hf, hv⟩)

/-! ## Values without certain fields -/

theorem fieldOf?_eq_none {key : String} {fields : List (String × Value)} :
    fieldOf? key fields = none ↔ ∀ f ∈ fields, f.1 ≠ key := by
  induction fields with
  | nil => simp [fieldOf?]
  | cons f rest ih =>
    obtain ⟨k, w⟩ := f
    by_cases hk : k = key
    · simp [fieldOf?, hk]
    · simp [fieldOf?, hk, ih]

theorem mem_of_fieldOf? {key : String} {fields : List (String × Value)} {v : Value} (h : fieldOf? key fields = some v) :
    (key, v) ∈ fields := by
  induction fields with
  | nil => cases h
  | cons f rest ih =>
    obtain ⟨k, w⟩ := f
    unfold fieldOf? at h
    split at h
    · next hk =>
      rw [hk, Option.some.inj h]
      exact List.mem_cons_self
    · exact List.mem_cons_of_mem _ (ih h)

/-- No record inside the value has a field with one of the keys. -/
def Clear (keys : List String) (v : Value) : Prop := ∀ w ∈ v.parts, ∀ key ∈ keys, w.field? key = none

section Clear
variable {keys : List String}

theorem clear_of_parts {v : Value} (hparts : v.parts = [v]) (hfield : ∀ key, v.field? key = none) : Clear keys v := by
  intro w hw key _
  rw [hparts, List.mem_singleton] at hw
  rw [hw, hfield]

@[simp] theorem clear_bool (b : Bool) : Clear keys (.bool b) := clear_of_parts rfl fun _ => rfl

@[simp] theorem clear_int (n : Int) : Clear keys (.int n) := clear_of_parts rfl fun _ => rfl

@[simp] theorem clear_float (x : Binary64) : Clear keys (.float x) := clear_of_parts rfl fun _ => rfl

@[simp] theorem clear_str (s : String) : Clear keys (.str s) := clear_of_parts rfl fun _ => rfl

theorem clear_of_isNumber {v : Value} (h : v.isNumber = true) : Clear keys v := by
  cases v <;> simp [isNumber] at h ⊢

@[simp] theorem clear_list {xs : List Value} : Clear keys (.list xs) ↔ ∀ x ∈ xs, Clear keys x := by
  constructor
  · exact fun h x hx w hw => h w (mem_parts_of_item hx hw)
  · intro h w hw
    rcases mem_parts_list.mp hw with rfl | ⟨x, hx, hw⟩
    · exact fun _ _ => rfl
    · exact h x hx w hw

@[simp] theorem clear_tuple {xs : List Value} : Clear keys (.tuple xs) ↔ ∀ x ∈ xs, Clear keys x := by
  constructor
  · exact fun h x hx w hw => h w (mem_parts_tuple.mpr (.inr ⟨x, hx, hw⟩))
  · intro h w hw
    rcases mem_parts_tuple.mp hw with rfl | ⟨x, hx, hw⟩
    · exact fun _ _ => rfl
    · exact h x hx w hw

@[simp] theorem clear_dict {fields : List (String × Value)} :
    Clear keys (.dict fields) ↔ ∀ f ∈ fields, f.1 ∉ keys ∧ Clear keys f.2 := by
  constructor
  · intro h f hf
    refine ⟨fun hkey => ?_, fun w hw => h w (mem_parts_of_field f.1 hf hw)⟩
    exact fieldOf?_eq_none.mp (h _ (self_mem_parts _) f.1 hkey) f hf rfl
  · intro h w hw key hkey
    rcases mem_parts_dict.mp hw with rfl | ⟨f, hf, hw⟩
    · refine fieldOf?_eq_none.mpr fun f hf heq => (h f hf).1 ?_
      rw [heq]
      exact hkey
    · exact (h f hf).2 w hw key hkey

theorem Clear.get {v w default : Value} {key : String} (hv : Clear keys v) (hd : Clear keys default)
    (h : v.get key default = .ok w) : Clear keys w := by
  cases v with
  | dict fields =>
    cases hf : fieldOf? key fields with
    | none =>
      rw [Value.get, hf] at h
      rw [← Except.ok.inj h]
      exact hd
    | some x =>
      rw [Value.get, hf] at h
      rw [← Except.ok.inj h]
      exact (clear_dict.mp hv _ (mem_of_fieldOf? hf)).2
  | _ => cases h

/-- The items of a clear value are clear. Those of a record are its keys, those of a text its characters. -/
theorem Clear.items {v : Value} {xs : List Value} (hv : Clear keys v) (h : v.items = .ok xs) : ∀ x ∈ xs, Clear keys x := by
  intro x hx
  cases v with
  | list ys =>
    cases h
    exact clear_list.mp hv x hx
  | tuple ys =>
    cases h
    exact clear_tuple.mp hv x hx
  | dict fields =>
    cases h
    obtain ⟨f, -, rfl⟩ := List.mem_map.mp hx
    exact clear_str f.1
  | str s =>
    cases h
    obtain ⟨c, -, rfl⟩ := List.mem_map.mp hx
    exact clear_str _
  | _ => cases h

end Clear

end ThreatScan.Value
