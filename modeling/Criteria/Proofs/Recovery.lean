import Criteria.Proofs.Outcome

/-! What can be read off a query. Every text here is read with whatever stands behind it, so that the
whole is taken apart from the left: up to the next space, up to the last digit, clause by clause.
Two queries on one base that are the same text come from the same clauses with the same numbers.
-/

set_option autoImplicit false

namespace Criteria

namespace Text

def IsWord (w : String) : Prop := ' ' ∉ w.toList ∧ w.toList.head? ≠ some '('

instance (w : String) : Decidable (IsWord w) :=
  inferInstanceAs (Decidable (' ' ∉ w.toList ∧ w.toList.head? ≠ some '('))

theorem word_append_inj {xs ys us vs : List Char} (hx : ' ' ∉ xs) (hy : ' ' ∉ ys)
    (h : xs ++ ' ' :: us = ys ++ ' ' :: vs) : xs = ys ∧ us = vs := by
  induction xs generalizing ys with
  | nil =>
    cases ys with
    | nil => simpa using h
    | cons y ys =>
      simp only [List.mem_cons, not_or] at hy
      exact absurd (List.cons.inj h).1 hy.1
  | cons x xs ih =>
    cases ys with
    | nil =>
      simp only [List.mem_cons, not_or] at hx
      exact absurd (List.cons.inj h).1.symm hx.1
    | cons y ys =>
      simp only [List.mem_cons, not_or] at hx hy
      simp only [List.cons_append, List.cons.injEq] at h
      obtain ⟨rfl, hu⟩ := ih hx.2 hy.2 h.2
      exact ⟨by rw [h.1], hu⟩

theorem digits_append_inj {n m : Nat} {us vs : List Char} (hu : us.takeWhile Char.isDigit = [])
    (hv : vs.takeWhile Char.isDigit = [])
    (h : Nat.toDigits 10 n ++ us = Nat.toDigits 10 m ++ vs) : n = m ∧ us = vs := by
  have hd : Nat.toDigits 10 n = Nat.toDigits 10 m := by
    rw [← takeWhile_digits n hu, h, takeWhile_digits m hv]
  have hn : n = m := by
    have e := congrArg (fun ds => Nat.ofDigitChars 10 ds 0) hd
    simpa [Nat.ofDigitChars_ten_toDigits] using e
  rw [hd] at h
  exact ⟨hn, List.append_cancel_left h⟩

theorem toList_intercalate_cons (w t : String) (ts : List String) :
    (w.intercalate (t :: ts)).toList = t.toList ++ ts.flatMap fun u => w.toList ++ u.toList := by
  induction ts generalizing t with
  | nil => simp
  | cons u us ih => simp [String.intercalate_cons_cons, ih]

end Text

namespace Clause

open Text

def single? : Clause → Option (String × String)
  | compare path op => some (path, op.symbol)
  | like path => some (path, "like")
  | within path => some (path, "in")
  | between path => some (path, "between")
  | likeAny _ => none

def ending (n : Nat) : Clause → String
  | between _ => " and " ++ placeholder (n + 1)
  | _ => ""

theorem eq_of_single {c d : Clause} (hc : c.single?.isSome) (h : c.single? = d.single?) : c = d := by
  cases c with
  | compare p op =>
    cases d with
    | compare q op' => cases op <;> cases op' <;> simp_all [single?, Comparison.symbol]
    | _ => cases op <;> simp_all [single?, Comparison.symbol]
  | likeAny ps => cases hc
  | _ =>
    cases d with
    | compare q op => cases op <;> simp_all [single?, Comparison.symbol]
    | _ => simp_all [single?]

theorem toList_render_of_single {c : Clause} {p w : String} (h : c.single? = some (p, w)) (n : Nat) :
    (c.render n).toList =
      p.toList ++ ' ' :: (w.toList ++ ' ' :: '?' :: (Nat.toDigits 10 n ++ (c.ending n).toList)) := by
  cases c with
  | likeAny ps => cases h
  | _ =>
    cases h
    simp [render, ending, toList_placeholder]

theorem spaceless_of_single {c : Clause} {p w : String} (h : c.single? = some (p, w)) :
    ' ' ∉ w.toList ∧ c.paths = [p] := by
  cases c with
  | compare q op =>
    cases h
    cases op <;> exact ⟨by decide, rfl⟩
  | likeAny ps => cases h
  | _ =>
    cases h
    exact ⟨by decide, rfl⟩

theorem takeWhile_ending {c : Clause} {n : Nat} {us : List Char}
    (hu : us.takeWhile Char.isDigit = []) :
    ((c.ending n).toList ++ us).takeWhile Char.isDigit = [] := by
  cases c with
  | between p => simp [ending, String.toList_append]
  | _ => exact hu

theorem single_append_inj {n m : Nat} {c d : Clause} {us vs : List Char} (hs : c.single?.isSome)
    (ht : d.single?.isSome) (hc : ∀ p ∈ c.paths, IsWord p) (hd : ∀ p ∈ d.paths, IsWord p)
    (hu : us.takeWhile Char.isDigit = []) (hv : vs.takeWhile Char.isDigit = [])
    (h : (c.render n).toList ++ us = (d.render m).toList ++ vs) : n = m ∧ c = d ∧ us = vs := by
  obtain ⟨⟨p, w⟩, hs⟩ := Option.isSome_iff_exists.1 hs
  obtain ⟨⟨q, x⟩, ht⟩ := Option.isSome_iff_exists.1 ht
  obtain ⟨hw, hp⟩ := spaceless_of_single hs
  obtain ⟨hx, hq⟩ := spaceless_of_single ht
  rw [hp] at hc
  rw [hq] at hd
  rw [toList_render_of_single hs, toList_render_of_single ht] at h
  simp only [List.append_assoc, List.cons_append] at h
  -- The path ends at the first space, the operator at the second, the number at the last digit.
  obtain ⟨path_eq, h⟩ := word_append_inj (hc p (by simp)).1 (hd q (by simp)).1 h
  obtain ⟨operator_eq, h⟩ := word_append_inj hw hx h
  simp only [List.cons.injEq, true_and] at h
  obtain ⟨rfl, h⟩ := digits_append_inj (takeWhile_ending hu) (takeWhile_ending hv) h
  have e : c = d := by
    refine eq_of_single (by rw [hs]; rfl) ?_
    rw [hs, ht, String.toList_inj.1 path_eq, String.toList_inj.1 operator_eq]
  subst e
  exact ⟨rfl, rfl, List.append_cancel_left h⟩

theorem takeWhile_likes (n : Nat) (ps : List String) (us : List Char) :
    (((likes n ps).flatMap fun t => orWord.toList ++ t.toList) ++
      ')' :: us).takeWhile Char.isDigit = [] := by
  cases ps <;> rfl

theorem likes_append_inj {n : Nat} {ps qs : List String} {us vs : List Char}
    (hp : ∀ p ∈ ps, IsWord p) (hq : ∀ q ∈ qs, IsWord q)
    (h : ((likes n ps).flatMap fun t => orWord.toList ++ t.toList) ++ ')' :: us =
      ((likes n qs).flatMap fun t => orWord.toList ++ t.toList) ++ ')' :: vs) :
    ps = qs ∧ us = vs := by
  induction ps generalizing n qs with
  | nil =>
    cases qs with
    | nil => simpa [likes] using h
    | cons q qs => simp [likes, orWord] at h
  | cons p ps ih =>
    cases qs with
    | nil => simp [likes, orWord] at h
    | cons q qs =>
      simp only [likes, List.flatMap_cons, List.append_assoc] at h
      have h := List.append_cancel_left h
      have hpw : ∀ x ∈ (like p).paths, IsWord x := fun x hx => hp x (by simp_all [paths])
      have hqw : ∀ x ∈ (like q).paths, IsWord x := fun x hx => hq x (by simp_all [paths])
      obtain ⟨-, e, h⟩ := single_append_inj (n := n) (m := n) (c := like p) (d := like q) rfl rfl
        hpw hqw (takeWhile_likes ..) (takeWhile_likes ..) h
      obtain ⟨rfl, rfl⟩ := ih (fun x hx => hp x (List.mem_cons_of_mem _ hx))
        (fun x hx => hq x (List.mem_cons_of_mem _ hx)) h
      cases e
      exact ⟨rfl, rfl⟩

theorem toList_render_likeAny (n : Nat) (p : String) (ps : List String) :
    ((likeAny (p :: ps)).render n).toList = '(' :: (((like p).render n).toList ++
      (((likes (n + 1) ps).flatMap fun t => orWord.toList ++ t.toList) ++ [')'])) := by
  have e : (orWord.intercalate (likes n (p :: ps))).toList = _ := toList_intercalate_cons ..
  simp only [render, String.toList_append, e]
  simp

theorem likeAny_append_inj {n m : Nat} {ps qs : List String} {us vs : List Char}
    (hn : ps ≠ []) (hm : qs ≠ []) (hp : ∀ p ∈ ps, IsWord p) (hq : ∀ q ∈ qs, IsWord q)
    (h : ((likeAny ps).render n).toList ++ us = ((likeAny qs).render m).toList ++ vs) :
    n = m ∧ ps = qs ∧ us = vs := by
  obtain ⟨p, ps, rfl⟩ := List.exists_cons_of_ne_nil hn
  obtain ⟨q, qs, rfl⟩ := List.exists_cons_of_ne_nil hm
  rw [toList_render_likeAny, toList_render_likeAny] at h
  simp only [List.append_assoc, List.cons_append, List.nil_append, List.cons.injEq,
    true_and] at h
  have hpw : ∀ x ∈ (like p).paths, IsWord x := fun x hx => hp x (by simp_all [paths])
  have hqw : ∀ x ∈ (like q).paths, IsWord x := fun x hx => hq x (by simp_all [paths])
  obtain ⟨rfl, e, h⟩ := single_append_inj (c := like p) (d := like q) rfl rfl hpw hqw
    (takeWhile_likes ..) (takeWhile_likes ..) h
  obtain ⟨rfl, rfl⟩ := likes_append_inj (fun x hx => hp x (List.mem_cons_of_mem _ hx))
    (fun x hx => hq x (List.mem_cons_of_mem _ hx)) h
  cases e
  exact ⟨rfl, rfl, rfl⟩

theorem head?_render_single {c : Clause} (hs : c.single?.isSome) (hc : ∀ p ∈ c.paths, IsWord p)
    (n : Nat) (us : List Char) : ((c.render n).toList ++ us).head? ≠ some '(' := by
  obtain ⟨⟨p, w⟩, hs⟩ := Option.isSome_iff_exists.1 hs
  rw [(spaceless_of_single hs).2] at hc
  have hp := (hc p (by simp)).2
  rw [toList_render_of_single hs]
  cases e : p.toList with
  | nil => simp
  | cons x xs =>
    rw [e] at hp
    simpa using hp

theorem head?_render_likeAny (n : Nat) (ps : List String) (us : List Char) :
    (((likeAny ps).render n).toList ++ us).head? = some '(' := by
  simp [render]

/-- A clause and its first number can be told from the text, and from where it ends. -/
theorem render_append_inj {n m : Nat} {c d : Clause} {us vs : List Char} (hn : 0 < c.arity)
    (hm : 0 < d.arity) (hc : ∀ p ∈ c.paths, IsWord p) (hd : ∀ p ∈ d.paths, IsWord p)
    (hu : us.takeWhile Char.isDigit = []) (hv : vs.takeWhile Char.isDigit = [])
    (h : (c.render n).toList ++ us = (d.render m).toList ++ vs) : c = d ∧ n = m ∧ us = vs := by
  have single_or : ∀ e : Clause, e.single?.isSome ∨ ∃ ps, e = likeAny ps := by
    intro e
    cases e with
    | likeAny ps => exact Or.inr ⟨ps, rfl⟩
    | _ => exact Or.inl rfl
  have heads := congrArg List.head? h
  rcases single_or c with hs | ⟨ps, rfl⟩
  · rcases single_or d with ht | ⟨qs, rfl⟩
    · obtain ⟨hnm, hcd, huv⟩ := single_append_inj hs ht hc hd hu hv h
      exact ⟨hcd, hnm, huv⟩
    · rw [head?_render_likeAny] at heads
      exact absurd heads (head?_render_single hs hc n us)
  · rcases single_or d with ht | ⟨qs, rfl⟩
    · rw [head?_render_likeAny] at heads
      exact absurd heads.symm (head?_render_single ht hd m vs)
    · obtain ⟨hnm, rfl, huv⟩ := likeAny_append_inj (List.length_pos_iff.1 hn)
        (List.length_pos_iff.1 hm) hc hd h
      exact ⟨rfl, hnm, huv⟩

end Clause

namespace Emission

open Text

def Told (e : Emission) : Prop := 0 < e.clause.arity ∧ ∀ p ∈ e.clause.paths, IsWord p

def numberedClause (e : Emission) : Clause × Nat := (e.clause, e.first)

def following (es : List Emission) (order : Option String) : List Char :=
  (es.flatMap fun e => andWord.toList ++ e.fragment.toList) ++ (orderPart order).toList

theorem takeWhile_following (es : List Emission) (order : Option String) :
    (following es order).takeWhile Char.isDigit = [] := by
  cases es with
  | nil => cases order <;> simp [following, orderPart, orderWord]
  | cons e es => simp [following, andWord]

theorem orderPart_inj {o w : Option String} (h : orderPart o = orderPart w) : o = w := by
  have e := congrArg String.toList h
  cases o <;> cases w <;> simp_all [orderPart, orderWord]

theorem following_inj {es fs : List Emission} {o w : Option String} (he : ∀ e ∈ es, e.Told)
    (hf : ∀ f ∈ fs, f.Told) (h : following es o = following fs w) :
    es.map numberedClause = fs.map numberedClause ∧ o = w := by
  induction es generalizing fs with
  | nil =>
    cases fs with
    | nil => exact ⟨rfl, orderPart_inj (String.toList_inj.1 h)⟩
    | cons f fs => cases o <;> simp [following, orderPart, orderWord, andWord] at h
  | cons e es ih =>
    cases fs with
    | nil => cases w <;> simp [following, orderPart, orderWord, andWord] at h
    | cons f fs =>
      simp only [following, List.flatMap_cons, List.append_assoc] at h
      have hef := he e (List.mem_cons_self ..)
      have hff := hf f (List.mem_cons_self ..)
      obtain ⟨clause_eq, first_eq, h⟩ := Clause.render_append_inj hef.1 hff.1 hef.2 hff.2
        (takeWhile_following es o) (takeWhile_following fs w) (List.append_cancel_left h)
      obtain ⟨rest_eq, order_eq⟩ := ih (fun x hx => he x (List.mem_cons_of_mem _ hx))
        (fun x hx => hf x (List.mem_cons_of_mem _ hx)) h
      simp only [List.map_cons, rest_eq, numberedClause, clause_eq, first_eq]
      exact ⟨trivial, order_eq⟩

theorem toList_assembled_cons (base : String) (e : Emission) (es : List Emission)
    (o : Option String) :
    (assembled base ((e :: es).map fragment) o).toList =
      base.toList ++ (whereWord.toList ++ (e.fragment.toList ++ following es o)) := by
  simp only [assembled, wherePart, List.map_cons, List.isEmpty_cons, Bool.false_eq_true, if_false,
    String.toList_append, toList_intercalate_cons, List.flatMap_map, List.append_assoc, following]

theorem assembled_inj {base : String} {es fs : List Emission} {o w : Option String}
    (he : ∀ e ∈ es, e.Told) (hf : ∀ f ∈ fs, f.Told)
    (h : assembled base (es.map fragment) o = assembled base (fs.map fragment) w) :
    es.map numberedClause = fs.map numberedClause ∧ o = w := by
  have h := congrArg String.toList h
  have none_eq : ∀ o, (assembled base ([].map fragment) o).toList =
      base.toList ++ (orderPart o).toList := by
    intro o
    simp [assembled, wherePart]
  cases es with
  | nil =>
    cases fs with
    | nil =>
      rw [none_eq, none_eq] at h
      exact ⟨rfl, orderPart_inj (String.toList_inj.1 (List.append_cancel_left h))⟩
    | cons f fs =>
      rw [none_eq, toList_assembled_cons] at h
      have h := List.append_cancel_left h
      cases o <;> simp [orderPart, orderWord, whereWord] at h
  | cons e es =>
    cases fs with
    | nil =>
      rw [none_eq, toList_assembled_cons] at h
      have h := List.append_cancel_left h
      cases w <;> simp [orderPart, orderWord, whereWord] at h
    | cons f fs =>
      rw [toList_assembled_cons, toList_assembled_cons] at h
      have h := List.append_cancel_left (List.append_cancel_left h)
      refine following_inj he hf ?_
      simp only [following, List.flatMap_cons, List.append_assoc] at h ⊢
      rw [h]

end Emission

open Text

theorem RequestAt.told_emissions {n : Nat} {ts : List RequestAt} (h : ∀ t ∈ ts, t.PathsAre IsWord) :
    ∀ e ∈ emissions n ts, e.Told := by
  intro e he
  obtain ⟨t, ht, k, hk⟩ := mem_emissions he
  obtain ⟨-, bs, hd, -⟩ := emission?_eq_some hk
  exact ⟨arity_pos hd, (h t ht).of_emission hk⟩

/-- Two queries on one base without a first condition that are the same text have the same clauses
with the same numbers, and the same order. -/
theorem clauses_eq_of_text_eq {p q : Plan} {s₁ s₂ t₁ t₂ u₁ u₂ : Session} {h₁ h₂ : Handle}
    {b₁ b₂ : Builder} {m₁ m₂ : Mark} {base : String} {xs ys : List RequestAt}
    (hm₁ : p.make.result s₁ = (.ok (.shared h₁), t₁)) (hb₁ : t₁.store.builder? h₁ = some b₁)
    (hm₂ : q.make.result s₂ = (.ok (.shared h₂), t₂)) (hb₂ : t₂.store.builder? h₂ = some b₂)
    (hp : p.base = .text m₁ base) (hq : q.base = .text m₂ base)
    (hcp : p.conditions = []) (hcq : q.conditions = [])
    (hx : ∀ x ∈ xs, x.PathsAre IsWord) (hy : ∀ y ∈ ys, y.PathsAre IsWord)
    (hox : ∀ x ∈ xs, x.Worded fun _ => True) (hoy : ∀ y ∈ ys, y.Worded fun _ => True)
    (hc₁ : Course h₁ t₁ xs u₁) (hc₂ : Course h₂ t₂ ys u₂) :
    ∃ c₁ c₂ text₁ text₂ args₁ args₂ index₁ index₂ size₁ size₂,
      u₁.store.builder? h₁ = some c₁ ∧ u₂.store.builder? h₂ = some c₂ ∧
      Seen c₁ u₁ text₁ args₁ index₁ size₁ ∧ Seen c₂ u₂ text₂ args₂ index₂ size₂ ∧
      (text₁ = text₂ →
        (RequestAt.emissions b₁.index xs).map Emission.numberedClause =
          (RequestAt.emissions b₂.index ys).map Emission.numberedClause ∧
        ∃ o, Builder.spelled? c₁.order = some o ∧ Builder.spelled? c₂.order = some o) := by
  obtain ⟨c₁, hc₁', seen₁⟩ := hc₁.seen hm₁ hb₁ hp hox
  obtain ⟨c₂, hc₂', seen₂⟩ := hc₂.seen hm₂ hb₂ hq hoy
  refine ⟨c₁, c₂, _, _, _, _, _, _, _, _, hc₁', hc₂', seen₁, seen₂, ?_⟩
  intro h
  rw [hcp, hcq, List.nil_append, List.nil_append] at h
  obtain ⟨clauses_eq, order_eq⟩ :=
    Emission.assembled_inj (RequestAt.told_emissions hx) (RequestAt.told_emissions hy) h
  have order₁ := hc₁.spelled?_order hm₁ hb₁ hc₁' hox
  have order₂ := hc₂.spelled?_order hm₂ hb₂ hc₂' hoy
  exact ⟨clauses_eq, _, order₁, by rw [order₂, order_eq]⟩

theorem clauses_eq_of_text_eq_compare :
    ∃ t u₁ u₂ c₁ c₂ text args₁ args₂ index₁ index₂ size₁ size₂,
      (Plan.of (.text none "from Foo") (.int none 1) [] .null (.text none "")).make.result {} =
        (.ok (.shared ⟨1⟩), t) ∧
      Course ⟨1⟩ t [⟨t.store, .compare .equal (.text none "a") (.int none 3)⟩] u₁ ∧
      Course ⟨1⟩ t [⟨t.store, .compare .equal (.text none "a") (.int none 4)⟩] u₂ ∧
      u₁.store.builder? ⟨1⟩ = some c₁ ∧ u₂.store.builder? ⟨1⟩ = some c₂ ∧
      Seen c₁ u₁ text args₁ index₁ size₁ ∧ Seen c₂ u₂ text args₂ index₂ size₂ ∧
      (RequestAt.emissions 1 [⟨t.store, .compare .equal (.text none "a") (.int none 3)⟩]).map
          Emission.numberedClause =
        (RequestAt.emissions 1 [⟨t.store, .compare .equal (.text none "a") (.int none 4)⟩]).map
          Emission.numberedClause := by
  let p : Plan := .of (.text none "from Foo") (.int none 1) [] .null (.text none "")
  let t : Session := (p.make.result {}).2
  have hm : p.make.result {} = (.ok (.shared ⟨1⟩), t) := rfl
  have hc := fun (v : Value) => Course.request (h := ⟨1⟩) (s := t)
    (r := .compare .equal (.text none "a") v) (Course.done _)
  have hf : ∀ v s, (⟨s, .compare .equal (.text none "a") v⟩ : RequestAt).request.form? s =
      some (.compare "a" .equal) := fun _ _ => rfl
  have hw : ∀ v s, ∀ x ∈ [(⟨s, .compare .equal (.text none "a") v⟩ : RequestAt)],
      x.Worded fun _ => True := fun v s => List.forall_mem_singleton.2
    (.of_form (hf v s) fun _ _ => trivial)
  have hx : ∀ v s, ∀ x ∈ [(⟨s, .compare .equal (.text none "a") v⟩ : RequestAt)],
      x.PathsAre IsWord := by
    intro v s
    refine List.forall_mem_singleton.2 ?_
    intro c hc
    cases hc
    decide
  obtain ⟨c₁, c₂, text₁, text₂, args₁, args₂, index₁, index₂, size₁, size₂, hc₁, hc₂, seen₁,
    seen₂, he⟩ := clauses_eq_of_text_eq hm rfl hm rfl rfl rfl rfl rfl (hx (.int none 3) _)
      (hx (.int none 4) _) (hw _ _) (hw _ _) (hc _) (hc _)
  have text₁_eq : text₁ = "from Foo where a = ?1" := by
    cases hc₁
    exact (seen₁.text_eq rfl rfl).trans (by decide)
  have text₂_eq : text₂ = "from Foo where a = ?1" := by
    cases hc₂
    exact (seen₂.text_eq rfl rfl).trans (by decide)
  subst text₁_eq text₂_eq
  exact ⟨_, _, _, c₁, c₂, _, args₁, args₂, index₁, index₂, size₁, size₂, hm, hc _, hc _, hc₁, hc₂,
    seen₁, seen₂, (he rfl).1⟩

end Criteria
