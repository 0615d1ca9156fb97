import Criteria.Clause

/-! The placeholders that can be read in a text: each question mark with the digits behind it. Words
that stand between parts of a query neither make a placeholder nor change one, so a query is read
part by part. A clause shows its own numbers and no others (`placeholders_render`).
-/

set_option autoImplicit false

namespace Criteria

namespace Text

/-- Each mark with all digits that follow it, left to right. A mark without digits is skipped. -/
def placeholdersOf : List Char → List String
  | [] => []
  | c :: cs =>
    if c = '?' ∧ cs.takeWhile Char.isDigit ≠ [] then
      String.ofList (c :: cs.takeWhile Char.isDigit) :: placeholdersOf cs
    else placeholdersOf cs

def placeholders (t : String) : List String := placeholdersOf t.toList

def numbered (first count : Nat) : List String := (List.range' first count).map placeholder

def Separates (w : String) : Prop :=
  '?' ∉ w.toList ∧ w.toList ≠ [] ∧ w.toList.takeWhile Char.isDigit = []

instance (w : String) : Decidable (Separates w) :=
  inferInstanceAs (Decidable
    ('?' ∉ w.toList ∧ w.toList ≠ [] ∧ w.toList.takeWhile Char.isDigit = []))

@[simp] theorem length_numbered (first count : Nat) : (numbered first count).length = count := by
  simp [numbered]

theorem numbered_append (first k n : Nat) :
    numbered first k ++ numbered (first + k) n = numbered first (k + n) := by
  rw [numbered, numbered, ← List.map_append, List.range'_append_1, numbered]

theorem takeWhile_append_of_end (xs : List Char) {ys : List Char}
    (h : ys.takeWhile Char.isDigit = []) :
    (xs ++ ys).takeWhile Char.isDigit = xs.takeWhile Char.isDigit := by
  rw [List.takeWhile_append, h, List.append_nil]
  split
  · next hl => exact ((List.takeWhile_sublist _).eq_of_length hl).symm
  · rfl

theorem placeholdersOf_append (xs ys : List Char) (h : ys.takeWhile Char.isDigit = []) :
    placeholdersOf (xs ++ ys) = placeholdersOf xs ++ placeholdersOf ys := by
  induction xs with
  | nil => rfl
  | cons x xs ih =>
    simp only [List.cons_append, placeholdersOf, takeWhile_append_of_end xs h, ih]
    split
    · rfl
    · rfl

theorem placeholdersOf_append_of_notMem (xs ys : List Char) (h : '?' ∉ xs) :
    placeholdersOf (xs ++ ys) = placeholdersOf ys := by
  induction xs with
  | nil => rfl
  | cons x xs ih =>
    simp only [List.mem_cons, not_or] at h
    have hx : ¬ x = '?' := fun e => h.1 e.symm
    simp [placeholdersOf, hx, ih h.2]

theorem Separates.takeWhile_append {w : String} (h : Separates w) (u : String) :
    (w ++ u).toList.takeWhile Char.isDigit = [] := by
  obtain ⟨-, hn, hd⟩ := h
  rw [String.toList_append]
  cases e : w.toList with
  | nil => exact absurd e hn
  | cons c cs =>
    rw [e] at hd
    simpa [List.takeWhile_cons] using hd

theorem placeholders_separated (t u : String) {w : String} (h : Separates w) :
    placeholders (t ++ (w ++ u)) = placeholders t ++ placeholders u := by
  have hw := h.takeWhile_append u
  simp only [placeholders, String.toList_append] at hw ⊢
  rw [placeholdersOf_append _ _ hw, placeholdersOf_append_of_notMem _ _ h.1]

theorem toList_placeholder (n : Nat) : (placeholder n).toList = '?' :: Nat.toDigits 10 n := by
  simp [placeholder, placeholderMark, Nat.toString_eq_repr, Nat.toList_repr]

theorem isDigit_of_mem_digits {n : Nat} : ∀ c ∈ Nat.toDigits 10 n, c.isDigit = true := fun _ hc =>
  Nat.isDigit_of_mem_toDigits (by decide) (by decide) hc

theorem takeWhile_digits (n : Nat) {us : List Char} (h : us.takeWhile Char.isDigit = []) :
    (Nat.toDigits 10 n ++ us).takeWhile Char.isDigit = Nat.toDigits 10 n := by
  rw [List.takeWhile_append_of_pos isDigit_of_mem_digits, h, List.append_nil]

theorem placeholders_placeholder (n : Nat) : placeholders (placeholder n) = [placeholder n] := by
  have hl := toList_placeholder n
  have hm : '?' ∉ Nat.toDigits 10 n := fun h => absurd (isDigit_of_mem_digits _ h) (by decide)
  have ht : (Nat.toDigits 10 n).takeWhile Char.isDigit = Nat.toDigits 10 n := by
    simpa using @takeWhile_digits n [] rfl
  have hr : placeholdersOf (Nat.toDigits 10 n) = [] := by
    simpa [placeholdersOf] using placeholdersOf_append_of_notMem (Nat.toDigits 10 n) [] hm
  rw [placeholders, hl, placeholdersOf, ht, hr, if_pos ⟨rfl, Nat.toDigits_ne_nil⟩, ← hl,
    String.ofList_toList]

theorem placeholders_intercalate {w : String} (h : Separates w) (ts : List String) :
    placeholders (w.intercalate ts) = ts.flatMap placeholders := by
  induction ts with
  | nil => rfl
  | cons t ts ih =>
    cases ts with
    | nil => simp
    | cons u us =>
      rw [String.intercalate_cons_cons, String.append_assoc, placeholders_separated _ _ h, ih]
      rfl

theorem placeholders_enclosed (t : String) : placeholders ("(" ++ t ++ ")") = placeholders t := by
  have hc : Separates ")" := by decide
  have h := placeholders_separated ("(" ++ t) "" hc
  rw [String.append_empty] at h
  rw [h]
  simp [placeholders, placeholdersOf]

end Text

namespace Clause

open Text

def paths : Clause → List String
  | compare path _ | like path | within path | between path => [path]
  | likeAny paths => paths

theorem placeholders_likes (n : Nat) {ps : List String} (h : ∀ p ∈ ps, placeholders p = []) :
    (likes n ps).flatMap placeholders = numbered n ps.length := by
  induction ps generalizing n with
  | nil => rfl
  | cons p ps ih =>
    have hs : Separates " like " := by decide
    have hp := h p (List.mem_cons_self ..)
    rw [likes, List.flatMap_cons, ih (n + 1) fun q hq => h q (List.mem_cons_of_mem _ hq),
      String.append_assoc, placeholders_separated _ _ hs, hp, placeholders_placeholder]
    rfl

theorem placeholders_render (n : Nat) {c : Clause} (h : ∀ p ∈ c.paths, placeholders p = []) :
    placeholders (c.render n) = numbered n c.arity := by
  cases c with
  | compare p op =>
    have hp := h p (List.mem_singleton.2 rfl)
    have hs : Separates (" " ++ op.symbol ++ " ") := by cases op <;> decide
    have e : (compare p op).render n = p ++ ((" " ++ op.symbol ++ " ") ++ placeholder n) := by
      simp [render, String.append_assoc]
    rw [e, placeholders_separated _ _ hs, hp, placeholders_placeholder]
    rfl
  | like p =>
    have hp := h p (List.mem_singleton.2 rfl)
    have hs : Separates " like " := by decide
    rw [render, String.append_assoc, placeholders_separated _ _ hs, hp, placeholders_placeholder]
    rfl
  | likeAny ps =>
    have hs : Separates orWord := by decide
    have hl : (likes n ps).flatMap placeholders = numbered n ps.length :=
      placeholders_likes n h
    rw [render, placeholders_enclosed, placeholders_intercalate hs, hl]
    rfl
  | within p =>
    have hp := h p (List.mem_singleton.2 rfl)
    have hs : Separates " in " := by decide
    rw [render, String.append_assoc, placeholders_separated _ _ hs, hp, placeholders_placeholder]
    rfl
  | between p =>
    have hp := h p (List.mem_singleton.2 rfl)
    have hb : Separates " between " := by decide
    have ha : Separates " and " := by decide
    have e : (between p).render n =
        p ++ (" between " ++ (placeholder n ++ (" and " ++ placeholder (n + 1)))) := by
      simp [render, String.append_assoc]
    rw [e, placeholders_separated _ _ hb, placeholders_separated _ _ ha, hp,
      placeholders_placeholder, placeholders_placeholder]
    rfl

end Clause

end Criteria
