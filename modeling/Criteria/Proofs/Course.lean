import Criteria.Builder.Perform

/-! Courses of requests to one builder, and what the builder holds after them. Each comes
with the cells that it meets. The conditions, the arguments and the next number after a course are
read off the requests alone: `conditions_afterRequests`, `bound_afterRequests` and
`index_afterRequests`.
-/

set_option autoImplicit false

namespace Criteria

/-- A request with the cells that it meets. -/
structure RequestAt where
  store : Store
  request : Request

/-- A clause that entered, with the first of its numbers and its arguments. -/
structure Emission where
  first : Nat
  clause : Clause
  values : List Value

def Emission.fragment (e : Emission) : String := e.clause.render e.first

namespace Clause

def total : List Clause → Nat
  | [] => 0
  | c :: cs => c.arity + total cs

theorem total_append (cs ds : List Clause) : total (cs ++ ds) = total cs + total ds := by
  induction cs with
  | nil => simp [total]
  | cons c cs ih =>
    simp only [List.cons_append, total, ih]
    omega

end Clause

namespace Emission

def taken (es : List Emission) : Nat := Clause.total (es.map clause)

@[simp] theorem taken_nil : taken [] = 0 := rfl

@[simp] theorem taken_cons (e : Emission) (es : List Emission) :
    taken (e :: es) = e.clause.arity + taken es := rfl

theorem taken_append (es fs : List Emission) : taken (es ++ fs) = taken es + taken fs := by
  rw [taken, List.map_append, Clause.total_append, taken, taken]

end Emission

namespace RequestAt

def ruling (t : RequestAt) (index : Nat) : Except Fault Ruling :=
  (t.request.rule t.store).map (Ruling.startingAt index)

def emission? (t : RequestAt) (index : Nat) : Option Emission :=
  match t.ruling index with
  | .ok (.add clause bindings) => some ⟨index, clause, Builder.boundFrom t.store.size bindings⟩
  | _ => none

/-- How many numbers are handed out though no clause enters. -/
def lost (t : RequestAt) (index : Nat) : Nat :=
  match t.ruling index with
  | .ok (.tear spent _) => spent
  | _ => 0

def next (t : RequestAt) (index : Nat) : Nat :=
  index + Emission.taken (t.emission? index).toList + t.lost index

def order? (t : RequestAt) : Option (Option Value) :=
  match t.request.rule t.store with
  | .ok (.order clause) => some clause
  | _ => none

def emissions (index : Nat) : List RequestAt → List Emission
  | [] => []
  | t :: ts => (t.emission? index).toList ++ emissions (t.next index) ts

def allLost (index : Nat) : List RequestAt → Nat
  | [] => 0
  | t :: ts => t.lost index + allLost (t.next index) ts

theorem next_of_some {t : RequestAt} {index : Nat} {e : Emission} (h : t.emission? index = some e) :
    t.next index = index + e.clause.arity := by
  have hl : t.lost index = 0 := by
    unfold emission? at h
    unfold lost
    split at h
    · next hr => rw [hr]
    · cases h
  simp [next, h, hl]

theorem next_of_none {t : RequestAt} {index : Nat} (h : t.emission? index = none) :
    t.next index = index + t.lost index := by
  simp [next, h]

theorem order?_eq_ruling (t : RequestAt) (index : Nat) :
    t.order? = match t.ruling index with
      | .ok (.order clause) => some clause
      | _ => none := by
  unfold order? ruling
  cases t.request.rule t.store with
  | error f => rfl
  | ok ruling =>
    cases ruling with
    | skip path operation value => rfl
    | add clause bindings =>
      simp only [Except.map, Ruling.startingAt]
      by_cases h : Ruling.writable index clause.arity < clause.arity <;> simp [h]
    | tear spent fault =>
      simp only [Except.map, Ruling.startingAt]
      by_cases h : Ruling.writable index spent < spent <;> simp [h]
    | order clause => rfl

end RequestAt

def RequestAt.ofRequests (h : Handle) : List Request → Session → List RequestAt
  | [], _ => []
  | r :: rs, s => ⟨s.store, r⟩ :: ofRequests h rs ((Builder.request h r).result s).2

theorem RequestAt.request_mem_of_ofRequests {h : Handle} {rs : List Request} {s : Session}
    {x : RequestAt} (hx : x ∈ ofRequests h rs s) : x.request ∈ rs := by
  induction rs generalizing s with
  | nil => cases hx
  | cons r rs ih =>
    rcases List.mem_cons.1 hx with rfl | hx
    · exact List.mem_cons_self ..
    · exact List.mem_cons_of_mem _ (ih hx)

/-- Requests to the builder in the cell `h`, from a session to a later one. Whatever leaves the
builder as it is may be done in between. -/
inductive Course (h : Handle) : Session → List RequestAt → Session → Prop where
  | done (s : Session) : Course h s [] s
  | meanwhile {s u t : Session} {ts : List RequestAt} :
      u.store.builder? h = s.store.builder? h → Course h u ts t → Course h s ts t
  | request {s t : Session} {r : Request} {ts : List RequestAt} :
      Course h ((Builder.request h r).result s).2 ts t → Course h s (⟨s.store, r⟩ :: ts) t

namespace Builder

def afterRequest (b : Builder) (t : RequestAt) : Builder := b.after t.store.size (t.ruling b.index)

def afterRequests (b : Builder) : List RequestAt → Builder
  | [] => b
  | t :: ts => (b.afterRequest t).afterRequests ts

section Requests

variable (b : Builder) (t : RequestAt)

@[simp] theorem base_afterRequest : (b.afterRequest t).base = b.base := by
  unfold afterRequest
  rcases t.ruling b.index with f | _ | _ | _ | _ <;> rfl

@[simp] theorem reserved_afterRequest : (b.afterRequest t).reserved = b.reserved := by
  unfold afterRequest
  rcases t.ruling b.index with f | _ | _ | _ | _ <;> rfl

theorem conditions_afterRequest :
    (b.afterRequest t).conditions =
      b.conditions ++ (t.emission? b.index).toList.map Emission.fragment := by
  unfold afterRequest RequestAt.emission?
  rcases t.ruling b.index with f | _ | _ | _ | _ <;>
    simp [after, add, spend, orderBy, Emission.fragment]

theorem bound_afterRequest :
    (b.afterRequest t).bound = b.bound ++ (t.emission? b.index).toList.flatMap Emission.values := by
  unfold afterRequest RequestAt.emission?
  rcases t.ruling b.index with f | _ | _ | _ | _ <;> simp [after, add, spend, orderBy]

theorem index_afterRequest : (b.afterRequest t).index = t.next b.index := by
  unfold afterRequest RequestAt.next RequestAt.emission? RequestAt.lost
  rcases t.ruling b.index with f | _ | _ | _ | _ <;> simp [after, add, spend, orderBy]

theorem order_afterRequest : (b.afterRequest t).order = t.order?.getD b.order := by
  rw [t.order?_eq_ruling b.index]
  unfold afterRequest
  rcases t.ruling b.index with f | _ | _ | _ | _ <;> rfl

@[simp] theorem base_afterRequests (ts : List RequestAt) : (b.afterRequests ts).base = b.base := by
  induction ts generalizing b with
  | nil => rfl
  | cons t ts ih => simp [afterRequests, ih]

@[simp] theorem reserved_afterRequests (ts : List RequestAt) :
    (b.afterRequests ts).reserved = b.reserved := by
  induction ts generalizing b with
  | nil => rfl
  | cons t ts ih => simp [afterRequests, ih]

theorem conditions_afterRequests (ts : List RequestAt) :
    (b.afterRequests ts).conditions =
      b.conditions ++ (RequestAt.emissions b.index ts).map Emission.fragment := by
  induction ts generalizing b with
  | nil => simp [afterRequests, RequestAt.emissions]
  | cons t ts ih =>
    rw [afterRequests, ih, conditions_afterRequest, index_afterRequest, RequestAt.emissions,
      List.map_append,
      List.append_assoc]

theorem bound_afterRequests (ts : List RequestAt) :
    (b.afterRequests ts).bound =
      b.bound ++ (RequestAt.emissions b.index ts).flatMap Emission.values := by
  induction ts generalizing b with
  | nil => simp [afterRequests, RequestAt.emissions]
  | cons t ts ih =>
    rw [afterRequests, ih, bound_afterRequest, index_afterRequest, RequestAt.emissions,
      List.flatMap_append,
      List.append_assoc]

theorem index_afterRequests (ts : List RequestAt) :
    (b.afterRequests ts).index =
      b.index + Emission.taken (RequestAt.emissions b.index ts) + RequestAt.allLost b.index ts := by
  induction ts generalizing b with
  | nil => simp [afterRequests, RequestAt.emissions, RequestAt.allLost]
  | cons t ts ih =>
    have ht := index_afterRequest b t
    rw [afterRequests, ih, ht, RequestAt.emissions, RequestAt.allLost]
    simp only [RequestAt.next, Emission.taken_append]
    omega

end Requests

end Builder

namespace Course

theorem builder? {h : Handle} {s t : Session} {ts : List RequestAt} {b : Builder}
    (c : Course h s ts t) (hb : s.store.builder? h = some b) :
    t.store.builder? h = some (b.afterRequests ts) := by
  induction c generalizing b with
  | done s => exact hb
  | meanwhile hu _ ih => exact ih (hu.trans hb)
  | request _ ih => exact ih (Builder.builder?_request h b _ _ hb)

theorem of_requests (h : Handle) (rs : List Request) (s : Session) :
    Course h s (RequestAt.ofRequests h rs s) (Builder.requests h rs s) := by
  induction rs generalizing s with
  | nil => exact .done s
  | cons r rs ih => exact .request (ih _)

end Course

end Criteria
