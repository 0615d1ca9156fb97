import Criteria.Text.Blank

set_option autoImplicit false

namespace Criteria

inductive Lexeme where
  | word (w : String)
  | opening
  | closing
  deriving DecidableEq

inductive Tree where
  | word (w : String)
  | group (ts : List Tree)

inductive Formula where
  | atom (ts : List Tree)
  | group (f : Formula)
  | and (f g : Formula)
  | or (f g : Formula)

namespace Lexeme

def quote : Char := '\''

def ofWord (w : List Char) : List Lexeme := if w.isEmpty then [] else [word (String.ofList w)]

def ending? (c : Char) : Option (List Lexeme) :=
  if Text.blankChar c then some []
  else if c = '(' then some [opening]
  else if c = ')' then some [closing]
  else none

/-- The lexemes from inside a word on. A literal in quotes is part of its word, whatever it holds,
and has to be closed. -/
def lex : List Char → Bool → List Char → Option (List Lexeme)
  | w, quoted, [] => if quoted then none else some (ofWord w)
  | w, quoted, c :: cs =>
    if c = quote then lex (w ++ [c]) (!quoted) cs
    else
      match if quoted then none else ending? c with
      | none => lex (w ++ [c]) quoted cs
      | some ks => (lex [] false cs).map fun ls => ofWord w ++ (ks ++ ls)

def Plain (c : Char) : Prop := c ≠ quote ∧ ending? c = none

instance (c : Char) : Decidable (Plain c) :=
  decidable_of_iff (c ≠ quote ∧ (ending? c).isNone) (by simp [Plain])

theorem plain_of_all {xs : List Char} (h : xs.all (fun c => decide (Plain c)) = true) :
    ∀ c ∈ xs, Plain c := by
  simpa using h

theorem lex_plain {xs : List Char} (h : ∀ c ∈ xs, Plain c) (w : List Char) :
    lex w false xs = some (ofWord (w ++ xs)) := by
  induction xs generalizing w with
  | nil => simp [lex]
  | cons c xs ih =>
    obtain ⟨hq, he⟩ := h c (List.mem_cons_self ..)
    have hxs := ih (fun x hx => h x (List.mem_cons_of_mem _ hx)) (w ++ [c])
    simpa [lex, hq, he] using hxs

/-- A word ends wherever the text outside a literal does, and the rest is read on its own. -/
theorem lex_append {w xs : List Char} {quoted : Bool} {ls ks : List Lexeme} {c : Char}
    (h : lex w quoted xs = some ls) (hq : c ≠ quote) (hc : ending? c = some ks) (cs : List Char) :
    lex w quoted (xs ++ c :: cs) = (lex [] false cs).map fun ms => ls ++ (ks ++ ms) := by
  induction xs generalizing w quoted ls with
  | nil =>
    cases quoted with
    | true => cases h
    | false =>
      cases h
      simp [lex, hq, hc]
  | cons x xs ih =>
    rw [List.cons_append, lex]
    rw [lex] at h
    split
    · next hx =>
      rw [if_pos hx] at h
      exact ih h
    · next hx =>
      rw [if_neg hx] at h
      cases he : if quoted = true then none else ending? x with
      | none =>
        simp only [he] at h
        exact ih h
      | some js =>
        simp only [he] at h
        obtain ⟨ms, hms, rfl⟩ := Option.map_eq_some_iff.1 h
        simp only [ih hms, Option.map_map, Function.comp_def, List.append_assoc]

end Lexeme

namespace Tree

abbrev Stack := List (List Tree)

def step : Stack → Lexeme → Option Stack
  | ts :: rest, .word w => some ((ts ++ [word w]) :: rest)
  | ts :: rest, .opening => some ([] :: ts :: rest)
  | inner :: ts :: rest, .closing => some ((ts ++ [group inner]) :: rest)
  | _, _ => none

def atop (us : List Tree) (rest : Stack) : Stack → Stack
  | [] => []
  | [ts] => (us ++ ts) :: rest
  | ts :: k => ts :: atop us rest k

theorem step_atop (us : List Tree) (rest : Stack) {k k' : Stack} {l : Lexeme}
    (h : step k l = some k') : step (atop us rest k) l = some (atop us rest k') := by
  match k with
  | [] => cases l <;> cases h
  -- No bracket closes here, though one may where the other stack is below.
  | [ts] =>
    cases l with
    | closing => cases h
    | _ =>
      cases h
      simp [atop, step]
  | [ts, vs] =>
    cases l <;> cases h <;> simp [atop, step]
  | ts :: vs :: ws :: k =>
    cases l <;> cases h <;> simp [atop, step]

theorem foldlM_atop (us : List Tree) (rest : Stack) {ls : List Lexeme} {k k' : Stack}
    (h : ls.foldlM step k = some k') :
    ls.foldlM step (atop us rest k) = some (atop us rest k') := by
  induction ls generalizing k with
  | nil =>
    cases h
    rfl
  | cons l ls ih =>
    rw [List.foldlM_cons] at h ⊢
    obtain ⟨j, hj, hk⟩ := Option.bind_eq_some_iff.1 h
    rw [step_atop us rest hj]
    exact ih hk

def ofLexemes (ls : List Lexeme) : Option (List Tree) :=
  match ls.foldlM step [[]] with
  | some [ts] => some ts
  | _ => none

theorem foldlM_of_some {ls : List Lexeme} {ts : List Tree} (h : ofLexemes ls = some ts)
    (us : List Tree) (rest : Stack) : ls.foldlM step (us :: rest) = some ((us ++ ts) :: rest) := by
  unfold ofLexemes at h
  split at h
  · next hk =>
    cases h
    simpa [atop] using foldlM_atop us rest hk
  · cases h

theorem ofLexemes_append {ls ms : List Lexeme} {ts us : List Tree} (hl : ofLexemes ls = some ts)
    (hm : ofLexemes ms = some us) : ofLexemes (ls ++ ms) = some (ts ++ us) := by
  have h := foldlM_of_some hm ts []
  simp [ofLexemes, List.foldlM_append, foldlM_of_some hl, h]

theorem ofLexemes_enclosed {ls : List Lexeme} {ts : List Tree} (h : ofLexemes ls = some ts) :
    ofLexemes (.opening :: (ls ++ [.closing])) = some [group ts] := by
  simp [ofLexemes, List.foldlM_append, step, foldlM_of_some h]

end Tree

namespace Text

def trees (t : String) : Option (List Tree) := (Lexeme.lex [] false t.toList).bind Tree.ofLexemes

theorem trees_word {w : String} (hw : w ≠ "") (h : ∀ c ∈ w.toList, Lexeme.Plain c) :
    trees w = some [.word w] := by
  have hn : w.toList.isEmpty = false := by simpa using hw
  rw [trees, Lexeme.lex_plain h]
  simp [Lexeme.ofWord, hn, Tree.ofLexemes, Tree.step]

theorem trees_spaced {t u : String} {ts us : List Tree} (ht : trees t = some ts)
    (hu : trees u = some us) : trees (t ++ (" " ++ u)) = some (ts ++ us) := by
  obtain ⟨ls, hl, ht⟩ := Option.bind_eq_some_iff.1 ht
  obtain ⟨ms, hm, hu⟩ := Option.bind_eq_some_iff.1 hu
  have he : Lexeme.ending? ' ' = some [] := by decide
  have hx := Lexeme.lex_append hl (by decide) he u.toList
  rw [hm] at hx
  have hs : (t ++ (" " ++ u)).toList = t.toList ++ ' ' :: u.toList := by simp
  rw [trees, hs, hx]
  exact Tree.ofLexemes_append ht hu

theorem trees_enclosed {t : String} {ts : List Tree} (h : trees t = some ts) :
    trees ("(" ++ t ++ ")") = some [.group ts] := by
  obtain ⟨ls, hl, ht⟩ := Option.bind_eq_some_iff.1 h
  have ho : Lexeme.ending? '(' = some [.opening] := by decide
  have hc : Lexeme.ending? ')' = some [.closing] := by decide
  have hn : Lexeme.lex [] false [] = some [] := rfl
  have open_eq := Lexeme.lex_append hn (by decide) ho (t.toList ++ [')'])
  have close_eq := Lexeme.lex_append hl (by decide) hc []
  have hs : ("(" ++ t ++ ")").toList = [] ++ '(' :: (t.toList ++ [')']) := by simp
  rw [trees, hs, open_eq, close_eq]
  exact Tree.ofLexemes_enclosed ht

end Text

namespace Formula

def holds (v : List Tree → Bool) : Formula → Bool
  | atom ts => v ts
  | group f => f.holds v
  | and f g => f.holds v && g.holds v
  | or f g => f.holds v || g.holds v

theorem holds_foldl_and (v : List Tree → Bool) (f : Formula) (fs : List Formula) :
    (fs.foldl and f).holds v = (f.holds v && fs.all (holds v)) := by
  induction fs generalizing f with
  | nil => simp
  | cons g gs ih => simp [ih, holds, Bool.and_assoc]

theorem holds_foldl_or (v : List Tree → Bool) (f : Formula) (fs : List Formula) :
    (fs.foldl or f).holds v = (f.holds v || fs.any (holds v)) := by
  induction fs generalizing f with
  | nil => simp
  | cons g gs ih => simp [ih, holds, Bool.or_assoc]

end Formula

def Formula.offers : Formula → Bool
  | or _ _ => true
  | _ => false

def Tree.reads (w : String) : Tree → Bool
  | word u => u == w
  | group _ => false

/-- Words that join comparisons count in upper and in lower case. -/
def Text.means (keyword w : String) : Bool := w.toList.map Char.toLower == keyword.toList

/-- What is read so far: the condition before the last `or`, the one before the last `and` behind it,
and the trees since then. -/
structure Reading where
  ors : Option Formula := none
  ands : Option Formula := none
  item : List Tree := []
  inner : Option Formula := none
  ranged : Bool := false

namespace Reading

open Text

def joined (join : Formula → Formula → Formula) : Option Formula → Formula → Formula
  | none, g => g
  | some f, g => join f g

def item? (r : Reading) : Option Formula :=
  if r.ranged then none
  else
    match r.item with
    | [] => none
    | [.group _] => r.inner.map .group
    | ts => some (.atom ts)

def conjunct? (r : Reading) : Option Formula := r.item?.map (joined .and r.ands)

def formula? (r : Reading) : Option Formula := r.conjunct?.map (joined .or r.ors)

def push (r : Reading) (t : Tree) (inner : Option Formula) (ranged : Bool) : Reading :=
  { r with item := r.item ++ [t], inner, ranged }

def step (r : Reading) (t : Tree) (inner : Option Formula) : Option Reading :=
  match t with
  | .group _ => some (r.push t inner r.ranged)
  | .word w =>
    if means "or" w then r.formula?.map fun f => { ors := some f }
    else if means "and" w && !r.ranged then
      r.conjunct?.map fun f => { ors := r.ors, ands := some f }
    else some (r.push t none (means "between" w || r.ranged && !means "and" w))

end Reading

mutual

def Tree.inner? : Tree → Option Formula
  | .word _ => none
  | .group ts => Formula.ofTrees? {} ts

/-- The condition that a row of trees makes behind what is read. -/
def Formula.ofTrees? (r : Reading) : List Tree → Option Formula
  | [] => r.formula?
  | t :: ts => (r.step t t.inner?).bind fun r => Formula.ofTrees? r ts

end

def Formula.read? (w : String) : Option Formula := (Text.trees w).bind (Formula.ofTrees? {})

namespace Reading

def after? (r : Reading) (ts : List Tree) : Option Reading :=
  ts.foldlM (fun r t => r.step t t.inner?) r

theorem ofTrees?_eq (r : Reading) (ts : List Tree) :
    Formula.ofTrees? r ts = (r.after? ts).bind formula? := by
  induction ts generalizing r with
  | nil => simp [Formula.ofTrees?, after?]
  | cons t ts ih =>
    rw [Formula.ofTrees?, after?, List.foldlM_cons]
    cases r.step t t.inner? with
    | none => rfl
    | some r' => exact ih r'

theorem after?_append (r : Reading) (ts us : List Tree) :
    r.after? (ts ++ us) = (r.after? ts).bind fun r => r.after? us := by
  rw [after?, List.foldlM_append]
  rfl

end Reading

example :
    (Formula.read? "a or b AND (c  or 'd and e')").map (Formula.holds fun ts =>
      ts.any (Tree.reads "b") || ts.any (Tree.reads "'d and e'")) = some true := by decide +kernel

end Criteria
