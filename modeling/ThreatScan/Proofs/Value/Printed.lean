import ThreatScan.Proofs.Clock
import ThreatScan.Value.Printer
/-!
Angle brackets in indented documents.

A document escapes quotes, backslashes and control characters only, and the texts of numbers have no brackets. So the
brackets of the document of a value are those of its keys and texts, in their order, as they are (`kept_indented`).

`outlined` leaves the kinds and the keys of a value and replaces its texts: `shape` by nothing, `bare` by their brackets.
The brackets of a document depend on the bare value only (`kept_indented_of_bare`), and documents of values of one shape differ
in the number of their brackets as the texts of the values do (`length_kept_indented`).
-/
namespace ThreatScan

namespace Markup

def isAngle (c : Char) : Bool := c == '<' || c == '>'

theorem not_isAngle_of_isDigit {c : Char} (h : c.isDigit = true) : isAngle c = false := by
  have hlt : c ≠ '<' := by rintro rfl; revert h; decide
  have hgt : c ≠ '>' := by rintro rfl; revert h; decide
  simp [isAngle, hlt, hgt]

end Markup

open Markup (isAngle not_isAngle_of_isDigit)
open Text (kept kept_append kept_ofList kept_eq_nil)

/-! ## Numbers -/

namespace Binary64

theorem mem_of_mem_dropZeros {c : Char} {ds : List Char} {p : Int} (h : c ∈ (dropZeros ds p).1) : c ∈ ds := by
  fun_induction dropZeros ds p with
  | case1 p => exact h
  | case2 p rest ih => exact List.mem_cons_of_mem _ (ih h)
  | case3 => exact h

theorem isDigit_of_mem_shortestDigits {m : Nat} {e : Int} {c : Char} (h : c ∈ (shortestDigits m e).1) :
    c.isDigit = true := by
  have hdigits := mem_of_mem_dropZeros (List.mem_reverse.mp h)
  exact Nat.isDigit_of_mem_toDigits (by decide) (by decide) (List.mem_reverse.mp hdigits)

/-- A digit, a point, a sign or the mark of an exponent. -/
def isNumeral (c : Char) : Bool := c.isDigit || ['.', '-', '+', 'e'].contains c

theorem not_isAngle_of_isNumeral {c : Char} (h : isNumeral c = true) : isAngle c = false := by
  have hsigns : ∀ x ∈ ['.', '-', '+', 'e'], isAngle x = false := by simp [isAngle]
  simp only [isNumeral, Bool.or_eq_true, List.contains_iff_mem] at h
  rcases h with h | h
  · exact not_isAngle_of_isDigit h
  · exact hsigns c h

section Digits
variable {ds : List Char} (hds : ∀ c ∈ ds, c.isDigit = true) {p : Int} {c : Char}
include hds

theorem isNumeral_of_mem_positional (h : c ∈ positional ds p) : isNumeral c = true := by
  have hdigit : ∀ x ∈ ds, isNumeral x = true := fun x hx => by simp [isNumeral, hds x hx]
  have hzero : isNumeral '0' = true := by decide
  have hpoint : isNumeral '.' = true := by decide
  unfold positional at h
  split at h
  · simp only [List.mem_append, List.mem_replicate, List.mem_cons, List.not_mem_nil, or_false] at h
    rcases h with (h | ⟨-, rfl⟩) | rfl | rfl
    · exact hdigit c h
    · exact hzero
    · exact hpoint
    · exact hzero
  · simp only at h
    split at h
    · rcases List.mem_append.mp h with h | h
      · exact hdigit c (List.mem_of_mem_take h)
      · rcases List.mem_cons.mp h with rfl | h
        · exact hpoint
        · exact hdigit c (List.mem_of_mem_drop h)
    · simp only [List.mem_cons, List.mem_append, List.mem_replicate] at h
      rcases h with rfl | rfl | ⟨-, rfl⟩ | h
      · exact hzero
      · exact hpoint
      · exact hzero
      · exact hdigit c h

theorem isNumeral_of_mem_scientific (h : c ∈ scientific ds p) : isNumeral c = true := by
  have hdigit : ∀ x ∈ ds, isNumeral x = true := fun x hx => by simp [isNumeral, hds x hx]
  have hexponent : ∀ (n : Nat) (x : Char), x ∈ (Text.padded 2 n).toList → isNumeral x = true := fun n x hx => by
    simp [isNumeral, Text.isDigit_of_mem_padded hx]
  unfold scientific at h
  rcases List.mem_append.mp h with h | h
  · split at h
    · rw [List.mem_singleton.mp h]
      decide
    · exact hdigit c h
    · rcases List.mem_cons.mp h with rfl | h
      · exact hdigit c List.mem_cons_self
      · rcases List.mem_cons.mp h with rfl | h
        · decide
        · exact hdigit c (List.mem_cons_of_mem _ h)
  · rcases List.mem_cons.mp h with rfl | h
    · decide
    · rcases List.mem_cons.mp h with h | h
      · rw [h]
        split <;> decide
      · exact hexponent _ c h

end Digits

theorem kept_text_finite (neg : Bool) (m : Nat) (e : Int) : kept isAngle (text (.finite neg m e)) = [] := by
  have hdigits : ∀ c ∈ (shortestDigits m e).1, c.isDigit = true := fun c hc => isDigit_of_mem_shortestDigits hc
  rw [kept_eq_nil]
  intro c hc
  apply not_isAngle_of_isNumeral
  unfold text at hc
  rw [String.toList_ofList] at hc
  generalize shortestDigits m e = shortest at hc hdigits
  have hbody : ∀ {body : List Char}, (∀ x ∈ body, isNumeral x = true) →
      c ∈ (if neg then '-' :: body else body) → isNumeral c = true := by
    intro body hb hc
    split at hc
    · rcases List.mem_cons.mp hc with rfl | hc
      · decide
      · exact hb c hc
    · exact hb c hc
  refine hbody ?_ hc
  intro x hx
  split at hx
  · simp only [List.mem_cons, List.not_mem_nil, or_false] at hx
    rcases hx with rfl | rfl | rfl <;> decide
  · simp only at hx
    split at hx
    · exact isNumeral_of_mem_positional hdigits hx
    · exact isNumeral_of_mem_scientific hdigits hx

end Binary64

namespace Value

theorem kept_displayInt (n : Int) : kept isAngle (displayInt n) = [] := by
  have hnat : ∀ k : Nat, kept isAngle (toString k) = [] := by
    intro k
    rw [kept_eq_nil, Nat.toString_eq_ofList_toDigits, String.toList_ofList]
    intro c hc
    exact not_isAngle_of_isDigit (Nat.isDigit_of_mem_toDigits (by decide) (by decide) hc)
  unfold displayInt
  split
  · rw [kept_append, hnat]
    rfl
  · exact hnat _

theorem kept_jsonFloat (x : Binary64) : kept isAngle (jsonFloat x) = [] := by
  cases x with
  | nan => rfl
  | infinite neg => cases neg <;> rfl
  | finite neg m e => exact Binary64.kept_text_finite neg m e

/-! ## Texts -/

theorem filter_hexDigits (width n : Nat) : (Text.hexDigits width n).filter isAngle = [] := by
  have hdigit : ∀ d < 16, isAngle (Nat.digitChar d) = false := by decide
  induction width generalizing n with
  | zero => rfl
  | succ width ih =>
    rw [Text.hexDigits, List.filter_append, ih]
    simp [hdigit (n % 16) (Nat.mod_lt _ (by decide))]

theorem filter_jsonChar (c : Char) : (jsonChar c).filter isAngle = [c].filter isAngle := by
  by_cases hangle : isAngle c = true
  · have hc : c = '<' ∨ c = '>' := by simpa [isAngle] using hangle
    rcases hc with rfl | rfl <;> decide
  · have hself : [c].filter isAngle = [] := List.filter_cons_of_neg hangle
    have hname : ∀ n, ('\\' :: 'u' :: Text.hexDigits 4 n).filter isAngle = [] := fun n => filter_hexDigits 4 n
    have hchoice : ∀ {q : Prop} [Decidable q] {cs ds : List Char}, cs.filter isAngle = [] → ds.filter isAngle = [] →
        (if q then cs else ds).filter isAngle = [] := by
      intro q _ cs ds hcs hds
      split
      · exact hcs
      · exact hds
    rw [hself, jsonChar]
    -- Quotes, backslashes, line breaks, tabs and two more controls have names of their own.
    refine hchoice rfl (hchoice rfl (hchoice rfl (hchoice rfl (hchoice rfl (hchoice rfl (hchoice rfl ?_))))))
    refine hchoice (hname _) ?_
    cases Text.halfOf? c with
    | none => exact hself
    | some n => exact hname n

theorem kept_jsonText (s : String) : kept isAngle (jsonText s) = kept isAngle s := by
  unfold jsonText kept
  rw [String.toList_ofList, List.filter_cons_of_neg (by decide), List.filter_append, List.filter_flatMap]
  simp only [filter_jsonChar]
  rw [← List.filter_flatMap]
  simp [isAngle]

/-! ## Documents -/

mutual

/-- The brackets of the keys of a value and of each of its texts what `f` takes of it, in the order of the document. -/
def brackets (f : String → List Char) : Value → List Char
  | .str s => f s
  | .list xs => bracketsItems f xs
  | .tuple xs => bracketsItems f xs
  | .dict fields => bracketsFields f fields
  | _ => []

def bracketsItems (f : String → List Char) : List Value → List Char
  | [] => []
  | x :: xs => brackets f x ++ bracketsItems f xs

def bracketsFields (f : String → List Char) : List (String × Value) → List Char
  | [] => []
  | (k, v) :: rest => kept isAngle k ++ brackets f v ++ bracketsFields f rest

/-- The kinds and keys of a value, and for each of its texts the text that `f` gives. -/
def outlined (f : String → String) : Value → Value
  | .null => .null
  | .bool _ => .bool false
  | .int _ => .int 0
  | .float _ => .float .nan
  | .str s => .str (f s)
  | .list xs => .list (outlinedItems f xs)
  | .tuple xs => .tuple (outlinedItems f xs)
  | .dict fields => .dict (outlinedFields f fields)

def outlinedItems (f : String → String) : List Value → List Value
  | [] => []
  | x :: xs => outlined f x :: outlinedItems f xs

def outlinedFields (f : String → String) : List (String × Value) → List (String × Value)
  | [] => []
  | (k, v) :: rest => (k, outlined f v) :: outlinedFields f rest

/-- The texts in a value; keys are none. -/
def texts : Value → List String
  | .str s => [s]
  | .list xs => textsItems xs
  | .tuple xs => textsItems xs
  | .dict fields => textsFields fields
  | _ => []

def textsItems : List Value → List String
  | [] => []
  | x :: xs => texts x ++ textsItems xs

def textsFields : List (String × Value) → List String
  | [] => []
  | (_, v) :: rest => texts v ++ textsFields rest

end

def shape (v : Value) : Value := v.outlined fun _ => ""

/-- The kinds and keys of a value and the brackets of its texts. -/
def bare (v : Value) : Value := v.outlined fun s => String.ofList (kept isAngle s)

theorem kept_lineAt (depth : Nat) : kept isAngle (lineAt depth) = [] := by
  have hbreak : kept isAngle "\n" = [] := by decide
  have hblanks : kept isAngle (String.ofList (List.replicate (2 * depth) ' ')) = [] := by
    rw [kept_ofList, List.filter_replicate, if_neg (by decide)]
  rw [lineAt, kept_append, hbreak, hblanks, List.append_nil]

mutual

/-- What a document adds to the keys and the texts has no brackets. -/
theorem kept_indentedAt : ∀ (depth : Nat) (v : Value), kept isAngle (indentedAt depth v) = v.brackets (kept isAngle)
  | depth, .null => by rw [indentedAt]; rfl
  | depth, .bool b => by rw [indentedAt]; cases b <;> rfl
  | depth, .int n => by rw [indentedAt]; exact kept_displayInt n
  | depth, .float x => by rw [indentedAt]; exact kept_jsonFloat x
  | depth, .str s => by rw [indentedAt]; exact kept_jsonText s
  | depth, .list xs => by rw [indentedAt]; exact kept_indentedList depth xs
  | depth, .tuple xs => by rw [indentedAt]; exact kept_indentedList depth xs
  | depth, .dict [] => by rw [indentedAt]; rfl
  | depth, .dict (f :: fields) => by
    have hbraces : kept isAngle "\x7b" = [] ∧ kept isAngle "\x7d" = [] := by decide
    rw [indentedAt, brackets, kept_append, kept_append, kept_append, kept_append, kept_lineAt, kept_lineAt, hbraces.1,
      hbraces.2, kept_indentedFields (depth + 1) (f :: fields)]
    simp

theorem kept_indentedList : ∀ (depth : Nat) (xs : List Value),
    kept isAngle (indentedList depth xs) = bracketsItems (kept isAngle) xs
  | depth, [] => by rw [indentedList]; rfl
  | depth, x :: xs => by
    have hbrackets : kept isAngle "[" = [] ∧ kept isAngle "]" = [] := by decide
    rw [indentedList, kept_append, kept_append, kept_append, kept_append, kept_lineAt, kept_lineAt, hbrackets.1,
      hbrackets.2, kept_indentedItems (depth + 1) (x :: xs)]
    simp

theorem kept_indentedItems : ∀ (depth : Nat) (xs : List Value),
    kept isAngle (indentedItems depth xs) = bracketsItems (kept isAngle) xs
  | depth, [] => by rw [indentedItems]; rfl
  | depth, [x] => by
    rw [indentedItems, kept_indentedAt depth x, bracketsItems, bracketsItems, List.append_nil]
  | depth, x :: y :: rest => by
    have hcomma : kept isAngle "," = [] := by decide
    rw [indentedItems, kept_append, kept_append, kept_append, kept_indentedAt depth x, hcomma, kept_lineAt,
      kept_indentedItems depth (y :: rest)]
    · simp [bracketsItems]
    · simp

theorem kept_indentedFields : ∀ (depth : Nat) (fields : List (String × Value)),
    kept isAngle (indentedFields depth fields) = bracketsFields (kept isAngle) fields
  | depth, [] => by rw [indentedFields]; rfl
  | depth, [(k, v)] => by
    have hcolon : kept isAngle ": " = [] := by decide
    rw [indentedFields, kept_append, kept_append, kept_jsonText, hcolon, kept_indentedAt depth v, bracketsFields,
      bracketsFields]
    simp
  | depth, (k, v) :: f :: rest => by
    have hsigns : kept isAngle ": " = [] ∧ kept isAngle "," = [] := by decide
    rw [indentedFields, kept_append, kept_append, kept_append, kept_append, kept_append, kept_jsonText, hsigns.1, hsigns.2,
      kept_lineAt, kept_indentedAt depth v, kept_indentedFields depth (f :: rest)]
    · simp [bracketsFields]
    · simp

end

theorem kept_indented (v : Value) : kept isAngle v.indented = v.brackets (kept isAngle) := kept_indentedAt 0 v

section Brackets
variable (f : String → List Char)

section Outlined
variable (g : String → String)

mutual

theorem brackets_outlined : ∀ v : Value, (v.outlined g).brackets f = v.brackets (f ∘ g)
  | .null => rfl
  | .bool _ => rfl
  | .int _ => rfl
  | .float _ => rfl
  | .str _ => rfl
  | .list xs => bracketsItems_outlined xs
  | .tuple xs => bracketsItems_outlined xs
  | .dict fields => bracketsFields_outlined fields

theorem bracketsItems_outlined : ∀ xs : List Value, bracketsItems f (outlinedItems g xs) = bracketsItems (f ∘ g) xs
  | [] => rfl
  | x :: xs => by
    rw [outlinedItems, bracketsItems, bracketsItems, brackets_outlined x, bracketsItems_outlined xs]

theorem bracketsFields_outlined : ∀ fields : List (String × Value),
    bracketsFields f (outlinedFields g fields) = bracketsFields (f ∘ g) fields
  | [] => rfl
  | (k, v) :: rest => by
    rw [outlinedFields, bracketsFields, bracketsFields, brackets_outlined v, bracketsFields_outlined rest]

end
end Outlined

mutual

theorem length_brackets : ∀ v : Value,
    (v.brackets f).length = (v.brackets fun _ => []).length + (v.texts.flatMap f).length
  | .null => rfl
  | .bool _ => rfl
  | .int _ => rfl
  | .float _ => rfl
  | .str s => by simp [brackets, texts]
  | .list xs => length_bracketsItems xs
  | .tuple xs => length_bracketsItems xs
  | .dict fields => length_bracketsFields fields

theorem length_bracketsItems : ∀ xs : List Value,
    (bracketsItems f xs).length = (bracketsItems (fun _ => []) xs).length + ((textsItems xs).flatMap f).length
  | [] => rfl
  | x :: xs => by
    have hx := length_brackets x
    have hxs := length_bracketsItems xs
    simp only [bracketsItems, textsItems, List.flatMap_append, List.length_append]
    omega

theorem length_bracketsFields : ∀ fields : List (String × Value), (bracketsFields f fields).length =
    (bracketsFields (fun _ => []) fields).length + ((textsFields fields).flatMap f).length
  | [] => rfl
  | (k, v) :: rest => by
    have hv := length_brackets v
    have hrest := length_bracketsFields rest
    simp only [bracketsFields, textsFields, List.flatMap_append, List.length_append]
    omega

end
end Brackets

section Congr
variable {f g : String → String}

mutual

theorem outlined_congr : ∀ {v : Value}, (∀ s ∈ v.texts, f s = g s) → v.outlined f = v.outlined g
  | .null, _ => rfl
  | .bool _, _ => rfl
  | .int _, _ => rfl
  | .float _, _ => rfl
  | .str s, h => congrArg Value.str (h s List.mem_cons_self)
  | .list _, h => congrArg Value.list (outlinedItems_congr h)
  | .tuple _, h => congrArg Value.tuple (outlinedItems_congr h)
  | .dict _, h => congrArg Value.dict (outlinedFields_congr h)

theorem outlinedItems_congr : ∀ {xs : List Value}, (∀ s ∈ textsItems xs, f s = g s) →
    outlinedItems f xs = outlinedItems g xs
  | [], _ => rfl
  | x :: xs, h => by
    have hx : ∀ s ∈ x.texts, f s = g s := fun s hs => h s (List.mem_append_left _ hs)
    have hxs : ∀ s ∈ textsItems xs, f s = g s := fun s hs => h s (List.mem_append_right _ hs)
    rw [outlinedItems, outlinedItems, outlined_congr hx, outlinedItems_congr hxs]

theorem outlinedFields_congr : ∀ {fields : List (String × Value)}, (∀ s ∈ textsFields fields, f s = g s) →
    outlinedFields f fields = outlinedFields g fields
  | [], _ => rfl
  | (k, v) :: rest, h => by
    have hv : ∀ s ∈ v.texts, f s = g s := fun s hs => h s (List.mem_append_left _ hs)
    have hrest : ∀ s ∈ textsFields rest, f s = g s := fun s hs => h s (List.mem_append_right _ hs)
    rw [outlinedFields, outlinedFields, outlined_congr hv, outlinedFields_congr hrest]

end
end Congr

theorem kept_indented_of_bare {v w : Value} (h : v.bare = w.bare) : kept isAngle v.indented = kept isAngle w.indented := by
  have hbare : ∀ u : Value, u.brackets (kept isAngle) = u.bare.brackets (kept isAngle) := by
    intro u
    have hsame : (kept isAngle ∘ fun s => String.ofList (kept isAngle s)) = kept isAngle := by
      funext s
      simp [kept]
    rw [bare, brackets_outlined, hsame]
  rw [kept_indented, kept_indented, hbare v, hbare w, h]

/-- Between values of one shape, the documents gain as many brackets as the texts. -/
theorem length_kept_indented {v w : Value} (h : v.shape = w.shape) :
    (kept isAngle v.indented).length + (w.texts.flatMap (kept isAngle)).length =
      (kept isAngle w.indented).length + (v.texts.flatMap (kept isAngle)).length := by
  have hkeys : (v.brackets fun _ => []) = w.brackets fun _ => [] := by
    have hv := brackets_outlined (kept isAngle) (fun _ => "") v
    have hw := brackets_outlined (kept isAngle) (fun _ => "") w
    exact hv.symm.trans ((congrArg (brackets (kept isAngle)) h).trans hw)
  rw [kept_indented, kept_indented, length_brackets _ v, length_brackets _ w, hkeys]
  omega

/-- A value without brackets in its texts is bare as its shape is. -/
theorem bare_of_no_brackets {v : Value} (h : ∀ s ∈ v.texts, kept isAngle s = []) : v.bare = v.shape := by
  apply outlined_congr
  intro s hs
  rw [h s hs]

end Value
end ThreatScan
