import Criteria.Proofs.SameBefore
import Criteria.Proofs.Memo

set_option autoImplicit false

namespace Criteria

def Builder.fieldOf (h : Handle) (name : String) : Operation Value := do
  Attribute.read (← Attribute.read (.shared h) "fields") name

def FieldSet.told (name : String) (v : Option Value) : Except Fault Value :=
  if name = "__class__" then .ok (.classOf (.named "SimpleNamespace"))
  else
    match v.or (Attribute.ofFieldSet? name) with
    | some w => .ok w
    | none => .error (.noAttribute "types.SimpleNamespace" name)

theorem FieldSet.told_eq_iff {name : String} {v w : Option Value} :
    told name v = told name w ↔ name = "__class__" ∨
      v.or (Attribute.ofFieldSet? name) = w.or (Attribute.ofFieldSet? name) := by
  unfold told
  by_cases h : name = "__class__"
  · simp [h]
  · cases v.or (Attribute.ofFieldSet? name) <;> cases w.or (Attribute.ofFieldSet? name) <;> simp [h]

def FieldSet.stays (name : String) : Bool := name = "__class__" || name = "__dict__"

theorem FieldSet.mapM_told_eq {es fs : List (String × Value)} {names : List String}
    (same : ∀ name ∈ names, es.lookup name = fs.lookup name) :
    (names.mapM fun name => told name (es.lookup name)) =
      names.mapM fun name => told name (fs.lookup name) := by
  induction names with
  | nil => rfl
  | cons name names ih =>
    rw [List.mapM_cons, List.mapM_cons, same name (List.mem_cons_self ..),
      ih fun n hn => same n (List.mem_cons_of_mem _ hn)]

/-- What callers do with a builder and with its fields. -/
inductive FieldsAct where
  | read (name : String)
  | assign (name : String) (value : Value)
  | erase (name : String)
  | ask (r : Request)
  /-- A request that is made of what the fields have under these names. -/
  | use (names : List String) (request : List Value → Request)

namespace FieldsAct

def perform (h : Handle) : FieldsAct → Operation Unit
  | read name => do
    let _ ← Builder.fieldOf h name
    return ()
  | assign name value => do Attribute.assign (← Attribute.read (.shared h) "fields") name value
  | erase name => do Attribute.erase (← Attribute.read (.shared h) "fields") name
  | ask r => Builder.request h r
  | use names request => do Builder.request h (request (← names.mapM (Builder.fieldOf h)))

def leaves (name : String) (v : Option Value) : FieldsAct → Option Value
  | assign other value => if other = name && !FieldSet.stays other then some value else v
  | erase other => if other = name && !FieldSet.stays other then none else v
  | _ => v

def request? (h : Handle) (s : Session) : FieldsAct → Option Request
  | ask r => some r
  | use names request => ((names.mapM (Builder.fieldOf h)).result s).1.toOption.map request
  | _ => none

end FieldsAct

/-- An act with the builder that it is done with. -/
structure ActBy where
  builder : Handle
  act : FieldsAct

namespace ActBy

def after : List ActBy → Session → Session
  | [], s => s
  | x :: xs, s => after xs ((x.act.perform x.builder).result s).2

def leave (name : String) : List ActBy → Option Value → Option Value
  | [], v => v
  | x :: xs, v => leave name xs (x.act.leaves name v)

def own (h : Handle) (xs : List ActBy) : List ActBy := xs.filter (·.builder = h)

def requests (h : Handle) : List ActBy → Session → List RequestAt
  | [], _ => []
  | x :: xs, s =>
    let rest := requests h xs ((x.act.perform x.builder).result s).2
    match x.act.request? h s with
    | some r => if x.builder = h then ⟨s.store, r⟩ :: rest else rest
    | none => rest

/-- Whenever a request is made of what is under names, the builder's own acts alone would have left
the same there. -/
def Undisturbed (h : Handle) (xs : List ActBy) (f g : String → Option Value) : Prop :=
  ∀ before after names request, xs = before ++ ⟨h, .use names request⟩ :: after →
    ∀ name ∈ names, leave name before (f name) = leave name (own h before) (g name)

theorem own_cons_self (h : Handle) (a : FieldsAct) (xs : List ActBy) :
    own h (⟨h, a⟩ :: xs) = ⟨h, a⟩ :: own h xs := by
  simp [own]

theorem own_cons_of_ne {h k : Handle} (e : k ≠ h) (a : FieldsAct) (xs : List ActBy) :
    own h (⟨k, a⟩ :: xs) = own h xs := by
  simp [own, e]

theorem requests_cons_of_ne {h k : Handle} (e : k ≠ h) (a : FieldsAct) (xs : List ActBy)
    (s : Session) :
    requests h (⟨k, a⟩ :: xs) s = requests h xs ((a.perform k).result s).2 := by
  simp only [requests, if_neg e]
  cases a.request? h s <;> rfl

theorem requests_cons_of_none {h : Handle} {a : FieldsAct} {s : Session} (i : a.request? h s = none)
    (xs : List ActBy) : requests h (⟨h, a⟩ :: xs) s = requests h xs ((a.perform h).result s).2 := by
  simp only [requests, i]

theorem requests_cons_of_some {h : Handle} {a : FieldsAct} {s : Session} {r : Request}
    (i : a.request? h s = some r) (xs : List ActBy) :
    requests h (⟨h, a⟩ :: xs) s = ⟨s.store, r⟩ :: requests h xs ((a.perform h).result s).2 := by
  simp only [requests, i, if_true]

theorem mem_requests_cons {h k : Handle} {a : FieldsAct} {xs : List ActBy} {s : Session}
    {t : RequestAt}
    (ht : t ∈ requests h xs ((a.perform k).result s).2) : t ∈ requests h (⟨k, a⟩ :: xs) s := by
  by_cases e : k = h
  · subst e
    cases i : a.request? k s with
    | none => rwa [requests_cons_of_none i]
    | some r =>
      rw [requests_cons_of_some i]
      exact List.mem_cons_of_mem _ ht
  · rwa [requests_cons_of_ne e]

theorem Undisturbed.tail {h k : Handle} {a : FieldsAct} {xs : List ActBy}
    {f g f' g' : String → Option Value}
    (d : Undisturbed h (⟨k, a⟩ :: xs) f g) (hf : ∀ name, f' name = a.leaves name (f name))
    (hg : ∀ name, g' name = if k = h then a.leaves name (g name) else g name) :
    Undisturbed h xs f' g' := by
  intro before after names request e name hn
  have same := d (⟨k, a⟩ :: before) after names request (by rw [e]; rfl) name hn
  rw [hf, hg]
  by_cases hk : k = h
  · subst hk
    rw [if_pos rfl]
    rwa [own_cons_self] at same
  · rw [if_neg hk]
    rwa [own_cons_of_ne hk] at same

end ActBy

theorem Attribute.lookup_erased {other name : String} (es : List (String × Value)) :
    (erased other es).lookup name = if other = name then none else es.lookup name := by
  induction es with
  | nil => simp [erased]
  | cons e es ih =>
    obtain ⟨m, v⟩ := e
    unfold erased at ih ⊢
    by_cases hm : m = other
    · rw [List.filter_cons_of_neg (by simp [hm]), ih]
      by_cases ho : other = name
      · simp [ho]
      · have hn : (name == m) = false := by simpa [hm] using fun e => ho e.symm
        simp [ho, List.lookup_cons, hn]
    · rw [List.filter_cons_of_pos (by simpa using hm), List.lookup_cons, List.lookup_cons, ih]
      by_cases hn : name = m
      · have ho : ¬ other = m := fun e => hm e.symm
        simp [hn, ho]
      · have hb : (name == m) = false := by simpa using hn
        simp [hb]

theorem lookup_putNamed {α : Type} (name other : String) (a : α) (es : List (String × α)) :
    (putNamed other a es).lookup name = if other = name then some a else es.lookup name := by
  by_cases h : other = name
  · rw [h, lookup_putNamed_self, if_pos rfl]
  · rw [lookup_putNamed_of_ne _ _ _ _ fun e => h e.symm, if_neg h]

structure Sharing (n : Handle) (hs : List Handle) (es : List (String × Value)) (s : Store) :
    Prop where
  fields : s.cell? n = some (.fieldSet es)
  builder : ∀ h ∈ hs, ∃ b, s.builder? h = some b ∧ b.fields = some (.shared n)

namespace Sharing

open Operation

variable {n h : Handle} {hs : List Handle} {es : List (String × Value)} {s : Session}

theorem result_fields (w : Sharing n hs es s.store) (hh : h ∈ hs) :
    (Attribute.read (.shared h) "fields").result s = (.ok (.shared n), s) := by
  obtain ⟨b, hb, hf⟩ := w.builder h hh
  have slot : Attribute.slot? b "fields" = some (.shared n) := hf
  have notClass : ¬ ("fields" = "__class__") := by decide
  have notIndex : ¬ ("fields" = "index") := by decide
  simp only [Attribute.read, result_bind, result_theStore, notClass, if_false, Store.cellOf?,
    Builder.builder?_eq_some.1 hb, Attribute.ofBuilder, notIndex, slot, Option.some_or, result_pure]

theorem result_fieldOf (w : Sharing n hs es s.store) (hh : h ∈ hs) (name : String) :
    (Builder.fieldOf h name).result s = (FieldSet.told name (es.lookup name), s) := by
  unfold Builder.fieldOf FieldSet.told
  rw [result_bind, w.result_fields hh]
  by_cases hn : name = "__class__"
  · have kind : Attribute.classOf s.store (.shared n) = .named "SimpleNamespace" := by
      simp only [Attribute.classOf, Store.shortName, w.fields]
      rfl
    simp only [Attribute.read, result_bind, result_theStore, hn, if_true, result_pure, kind]
  · have longName : s.store.longName (.shared n) = "types.SimpleNamespace" := by
      simp only [Store.longName, w.fields]
      rfl
    simp only [Attribute.read, result_bind, result_theStore, hn, if_false, Store.cellOf?, w.fields]
    cases es.lookup name with
    | none =>
      cases Attribute.ofFieldSet? name with
      | none => simp [Attribute.missing, result_bind, longName]
      | some v => rfl
    | some v => rfl

theorem result_assignEntry (name : String) (v : Value) :
    ((Attribute.assignEntry n es name v).result s).2 =
      if FieldSet.stays name then s
      else { s with store := s.store.put n (.fieldSet (putNamed name v es)) } := by
  unfold Attribute.assignEntry FieldSet.stays
  by_cases hc : name = "__class__"
  · subst hc
    cases v <;> rfl
  · by_cases hd : name = "__dict__" <;> simp [hc, hd]

theorem result_erase_entry (w : Sharing n hs es s.store) (name : String) :
    ((Attribute.erase (.shared n) name).result s).2 =
      if FieldSet.stays name || (es.lookup name).isNone then s
      else { s with store := s.store.put n (.fieldSet (Attribute.erased name es)) } := by
  unfold FieldSet.stays
  simp only [Attribute.erase, result_bind, result_theStore, Store.cellOf?, w.fields]
  by_cases hc : name = "__class__"
  · simp [hc]
  · by_cases hd : name = "__dict__"
    · simp [Attribute.eraseCell, result_bind, hd]
    · cases he : es.lookup name <;> simp [Attribute.eraseCell, result_bind, hc, hd, he]

theorem result_mapM_fieldOf (w : Sharing n hs es s.store) (hh : h ∈ hs) (names : List String) :
    (names.mapM (Builder.fieldOf h)).result s =
      (names.mapM fun name => FieldSet.told name (es.lookup name), s) := by
  induction names with
  | nil => rfl
  | cons name names ih =>
    simp only [List.mapM_cons, result_bind, w.result_fieldOf hh]
    cases FieldSet.told name (es.lookup name) with
    | error f => rfl
    | ok v =>
      simp only [ih]
      cases names.mapM fun name => FieldSet.told name (es.lookup name) <;> rfl

theorem perform_cases (w : Sharing n hs es s.store) (hh : h ∈ hs) (a : FieldsAct) :
    (((a.perform h).result s).2 = s ∧ a.request? h s = none ∧
      ∀ name, a.leaves name (es.lookup name) = es.lookup name) ∨
    (∃ fs, ((a.perform h).result s).2 = { s with store := s.store.put n (.fieldSet fs) } ∧
      a.request? h s = none ∧ ∀ name, fs.lookup name = a.leaves name (es.lookup name)) ∨
    ∃ r, ((a.perform h).result s).2 = ((Builder.request h r).result s).2 ∧
      a.request? h s = some r ∧ ∀ name v, a.leaves name v = v := by
  have told := w.result_fieldOf hh
  have fields := w.result_fields hh
  cases a with
  | read name =>
    refine .inl ⟨?_, rfl, fun _ => rfl⟩
    simp only [FieldsAct.perform, result_bind, told]
    cases FieldSet.told name (es.lookup name) <;> rfl
  | assign name v =>
    have performed : ((FieldsAct.perform h (.assign name v)).result s).2 =
        ((Attribute.assignEntry n es name v).result s).2 := by
      simp only [FieldsAct.perform, result_bind, fields, Attribute.assign, result_theStore,
        Store.cellOf?,
        w.fields, Attribute.assignCell]
    rw [performed, result_assignEntry]
    cases stays : FieldSet.stays name with
    | true => exact .inl ⟨rfl, rfl, fun _ => by simp [FieldsAct.leaves, stays]⟩
    | false =>
      refine .inr (.inl ⟨putNamed name v es, rfl, rfl, fun other => ?_⟩)
      simp [FieldsAct.leaves, stays, lookup_putNamed]
  | erase name =>
    have performed : ((FieldsAct.perform h (.erase name)).result s).2 =
        ((Attribute.erase (.shared n) name).result s).2 := by
      simp only [FieldsAct.perform, result_bind, fields]
    rw [performed, w.result_erase_entry]
    cases stays : FieldSet.stays name with
    | true => exact .inl ⟨rfl, rfl, fun _ => by simp [FieldsAct.leaves, stays]⟩
    | false =>
      cases he : es.lookup name with
      | none =>
        refine .inl ⟨rfl, rfl, fun other => ?_⟩
        by_cases e : name = other
        · simp [FieldsAct.leaves, ← e, he]
        · simp [FieldsAct.leaves, e]
      | some v =>
        refine .inr (.inl ⟨Attribute.erased name es, rfl, rfl, fun other => ?_⟩)
        simp [FieldsAct.leaves, stays, Attribute.lookup_erased]
  | ask r => exact .inr (.inr ⟨r, rfl, rfl, fun _ _ => rfl⟩)
  | use names request =>
    have told := w.result_mapM_fieldOf hh names
    cases e : names.mapM fun name => FieldSet.told name (es.lookup name) with
    | error f =>
      refine .inl ⟨?_, ?_, fun _ => rfl⟩
      · simp only [FieldsAct.perform, result_bind, told, e]
      · simp [FieldsAct.request?, told, e, Except.toOption]
    | ok vs =>
      refine .inr (.inr ⟨request vs, ?_, ?_, fun _ _ => rfl⟩)
      · simp only [FieldsAct.perform, result_bind, told, e]
      · simp [FieldsAct.request?, told, e, Except.toOption]

theorem perform_of_some (w : Sharing n hs es s.store) (hh : h ∈ hs) {a : FieldsAct} {r : Request}
    (i : a.request? h s = some r) :
    ((a.perform h).result s).2 = ((Builder.request h r).result s).2 := by
  rcases w.perform_cases hh a with ⟨-, none, -⟩ | ⟨fs, -, none, -⟩ | ⟨q, e, one, -⟩
  · cases none.symm.trans i
  · cases none.symm.trans i
  · cases one.symm.trans i
    exact e

theorem request (w : Sharing n hs es s.store) (hh : h ∈ hs) (r : Request) :
    Sharing n hs es ((Builder.request h r).result s).2.store ∧
      ∀ k ∈ hs, k ≠ h → ((Builder.request h r).result s).2.store.builder? k = s.store.builder? k := by
  obtain ⟨b, hb, hf⟩ := w.builder h hh
  have other : ∀ k ∈ hs, k ≠ h →
      ((Builder.request h r).result s).2.store.builder? k = s.store.builder? k := by
    intro k hk e
    obtain ⟨c, hc, -⟩ := w.builder k hk
    rw [hc, Builder.builder?_eq_some]
    exact Builder.cell?_request_of_ne r hb e.symm (Builder.builder?_eq_some.1 hc)
      fun _ _ => Cell.noConfusion
  refine ⟨⟨?_, fun k hk => ?_⟩, other⟩
  · have apart : h ≠ n := by
      rintro rfl
      cases w.fields.symm.trans (Builder.builder?_eq_some.1 hb)
    exact Builder.cell?_request_of_ne r hb apart w.fields fun _ _ => Cell.noConfusion
  · by_cases e : k = h
    · subst e
      refine ⟨_, Builder.builder?_request k b r s hb, ?_⟩
      rw [← hf]
      rcases (r.rule s.store).map (Ruling.startingAt b.index) with f | _ | _ | _ | _ <;> rfl
    · obtain ⟨c, hc, hf⟩ := w.builder k hk
      exact ⟨c, (other k hk e).trans hc, hf⟩

/-- An act leaves builders with one field set, and changes what is in it under its own name alone. It
changes its own builder when it is a request, and no other builder. -/
theorem perform (w : Sharing n hs es s.store) (hh : h ∈ hs) (a : FieldsAct) :
    (∃ fs, Sharing n hs fs ((a.perform h).result s).2.store ∧
      ∀ name, fs.lookup name = a.leaves name (es.lookup name)) ∧
    ∀ k ∈ hs, k ≠ h ∨ a.request? h s = none →
      ((a.perform h).result s).2.store.builder? k = s.store.builder? k := by
  rcases w.perform_cases hh a with ⟨e, -, leaves⟩ | ⟨fs, e, -, leaves⟩ | ⟨r, e, asked, leaves⟩
  · rw [e]
    exact ⟨⟨es, w, fun name => (leaves name).symm⟩, fun _ _ _ => rfl⟩
  · have kept : ∀ k ∈ hs, (s.store.put n (.fieldSet fs)).builder? k = s.store.builder? k := by
      intro k hk
      obtain ⟨b, hb, -⟩ := w.builder k hk
      have apart : n ≠ k := by
        rintro rfl
        cases w.fields.symm.trans (Builder.builder?_eq_some.1 hb)
      rw [Store.builder?, Store.builder?, Store.cell?_put_of_ne _ _ _ _ apart]
    rw [e]
    refine ⟨⟨fs, ⟨Store.cell?_put_self _ _ _ _ w.fields, fun k hk => ?_⟩, leaves⟩,
      fun k hk _ => kept k hk⟩
    obtain ⟨b, hb, hf⟩ := w.builder k hk
    exact ⟨b, (kept k hk).trans hb, hf⟩
  · rw [e]
    obtain ⟨shared, other⟩ := w.request hh r
    exact ⟨⟨es, shared, fun name => (leaves name _).symm⟩,
      fun k hk i => other k hk (i.resolve_right (by simp [asked]))⟩

theorem after (w : Sharing n hs es s.store) {xs : List ActBy} (hx : ∀ x ∈ xs, x.builder ∈ hs) :
    ∃ fs, Sharing n hs fs (ActBy.after xs s).store ∧
      ∀ name, fs.lookup name = ActBy.leave name xs (es.lookup name) := by
  induction xs generalizing es s with
  | nil => exact ⟨es, w, fun _ => rfl⟩
  | cons x xs ih =>
    obtain ⟨⟨fs, shared, leaves⟩, -⟩ := w.perform (hx x (List.mem_cons_self ..)) x.act
    obtain ⟨gs, rest, left⟩ := ih shared fun y hy => hx y (List.mem_cons_of_mem _ hy)
    refine ⟨gs, rest, fun name => ?_⟩
    rw [left, leaves]
    rfl

theorem course (w : Sharing n hs es s.store) (hh : h ∈ hs) {xs : List ActBy}
    (hx : ∀ x ∈ xs, x.builder ∈ hs) : Course h s (ActBy.requests h xs s) (ActBy.after xs s) := by
  induction xs generalizing es s with
  | nil => exact .done s
  | cons x xs ih =>
    obtain ⟨k, a⟩ := x
    have hb : k ∈ hs := hx ⟨k, a⟩ (List.mem_cons_self ..)
    obtain ⟨⟨fs, shared, -⟩, other⟩ := w.perform hb a
    have rest := ih shared fun y hy => hx y (List.mem_cons_of_mem _ hy)
    by_cases e : k = h
    · subst e
      cases i : a.request? k s with
      | none =>
        rw [ActBy.requests_cons_of_none i]
        exact .meanwhile (other k hb (.inr i)) rest
      | some r =>
        rw [ActBy.requests_cons_of_some i]
        rw [w.perform_of_some hb i] at rest ⊢
        unfold ActBy.after
        rw [w.perform_of_some hb i]
        exact .request rest
    · rw [ActBy.requests_cons_of_ne e]
      exact .meanwhile (other h hh (.inl fun i => e i.symm)) rest

theorem sameBefore_of_none (w : Sharing n hs es s.store) (hh : h ∈ hs) {a : FieldsAct} {m : Nat}
    (i : a.request? h s = none) (hm : m ≤ s.store.size) :
    s.store.SameBefore m ((a.perform h).result s).2.store := by
  rcases w.perform_cases hh a with ⟨e, -, -⟩ | ⟨fs, e, -, -⟩ | ⟨r, -, one, -⟩
  · rw [e]
    exact .refl hm
  · rw [e]
    exact .put hm w.fields (.fieldSet es fs)
  · cases i.symm.trans one

theorem request?_eq {fs : List (String × Value)} {u : Session} (w : Sharing n hs es s.store)
    (v : Sharing n hs fs u.store) (hh : h ∈ hs) {a : FieldsAct}
    (same : ∀ names request, a = .use names request →
      ∀ name ∈ names, es.lookup name = fs.lookup name) :
    a.request? h s = a.request? h u := by
  cases a with
  | use names request =>
    have told_eq := FieldSet.mapM_told_eq (same names request rfl)
    simp only [FieldsAct.request?, w.result_mapM_fieldOf hh, v.result_mapM_fieldOf hh, told_eq]
  | _ => rfl

/-- Undisturbed, a builder is asked the same with the acts of others and without them. -/
theorem matched {P : String → Prop} {m : Nat} {fs : List (String × Value)} {u : Session}
    {xs : List ActBy} (w : Sharing n hs es s.store) (v : Sharing n hs fs u.store)
    (sameBefore : u.store.SameBefore m s.store)
    (hh : h ∈ hs) (hx : ∀ x ∈ xs, x.builder ∈ hs)
    (lasting : ∀ k, k ≠ h → ∀ t ∈ ActBy.requests k xs s, t.Lasting)
    (rooted : ∀ t ∈ ActBy.requests h (ActBy.own h xs) u, t.Rooted m ∧ t.Spelled P)
    (same : ActBy.Undisturbed h xs (fun name => es.lookup name) fun name => fs.lookup name) :
    List.Forall₂ (RequestAt.Matched P m) (ActBy.requests h (ActBy.own h xs) u)
      (ActBy.requests h xs s) := by
  -- Two runs at once: in `s` all acts are made, in `u` the builder's own. Each of its own acts finds
  -- the same in both, and an act of another changes in `s` nothing that was there before.
  induction xs generalizing es fs s u with
  | nil => exact .nil
  | cons x xs ih =>
    obtain ⟨k, a⟩ := x
    have hb : k ∈ hs := hx ⟨k, a⟩ (List.mem_cons_self ..)
    have hxs : ∀ y ∈ xs, y.builder ∈ hs := fun y hy => hx y (List.mem_cons_of_mem _ hy)
    obtain ⟨⟨es', w', left⟩, -⟩ := w.perform hb a
    have lasting' : ∀ j, j ≠ h → ∀ t ∈ ActBy.requests j xs ((a.perform k).result s).2, t.Lasting :=
      fun j hj t ht => lasting j hj t (ActBy.mem_requests_cons ht)
    by_cases e : k = h
    · subst e
      obtain ⟨⟨fs', v', left'⟩, -⟩ := v.perform hb a
      have asked_eq : a.request? k s = a.request? k u :=
        w.request?_eq v hb fun names request e => same [] xs names request (by rw [e]; rfl)
      have tail := same.tail left fun name => (left' name).trans (if_pos rfl).symm
      rw [ActBy.own_cons_self] at rooted ⊢
      cases i : a.request? k s with
      | none =>
        rw [i] at asked_eq
        rw [ActBy.requests_cons_of_none asked_eq.symm] at rooted ⊢
        rw [ActBy.requests_cons_of_none i]
        have kin' := (v.sameBefore_of_none hb asked_eq.symm sameBefore.left).symm.trans
          (sameBefore.trans (w.sameBefore_of_none hb i sameBefore.right))
        exact ih w' v' kin' hxs lasting' rooted tail
      | some r =>
        rw [i] at asked_eq
        rw [ActBy.requests_cons_of_some asked_eq.symm] at rooted ⊢
        rw [ActBy.requests_cons_of_some i]
        obtain ⟨b, hu, -⟩ := v.builder k hb
        obtain ⟨c, hs, -⟩ := w.builder k hb
        obtain ⟨old, spelled⟩ := rooted _ (List.mem_cons_self ..)
        have kin' := sameBefore.request hu hs old
        rw [← w.perform_of_some hb i, ← v.perform_of_some hb asked_eq.symm] at kin'
        exact .cons ⟨rfl, sameBefore, old, spelled⟩ (ih w' v' kin' hxs lasting'
          (fun t ht => rooted t (List.mem_cons_of_mem _ ht)) tail)
    · have tail := same.tail left fun name => (if_neg e).symm
      have kept : s.store.SameBefore m ((a.perform k).result s).2.store := by
        cases i : a.request? k s with
        | none => exact w.sameBefore_of_none hb i sameBefore.right
        | some r =>
          obtain ⟨c, hs, -⟩ := w.builder k hb
          have quiet := lasting k e ⟨s.store, r⟩
            (by rw [ActBy.requests_cons_of_some i]; exact List.mem_cons_self ..)
          rw [w.perform_of_some hb i]
          exact (Store.SameBefore.of_lasting sameBefore.right quiet).trans
            (.of_request hs sameBefore.right)
      rw [ActBy.own_cons_of_ne e] at rooted ⊢
      rw [ActBy.requests_cons_of_ne e]
      exact ih w' v (sameBefore.trans kept) hxs lasting' rooted tail

end Sharing

end Criteria
