import Criteria.Proofs.Construction
import Criteria.Proofs.Wording

set_option autoImplicit false

namespace Criteria

structure Seen (b : Builder) (u : Session) (text : String) (args : List Value)
    (index size : Nat) : Prop where
  text : ∃ k v, b.buildNoted.result u = (.ok (.text k text), v)
  args : b.args = args
  index : b.index = index
  size : b.size = size

theorem Seen.text_eq {b : Builder} {u : Session} {text base : String} {args : List Value}
    {index size : Nat} {m : Mark} {o : Option String} (h : Seen b u text args index size)
    (hb : b.base = .text m base) (ho : Builder.spelled? b.order = some o) :
    text = Text.assembled base b.conditions o := by
  obtain ⟨k, v, hk⟩ := h.text
  obtain ⟨l, w, hl⟩ := Builder.result_buildNoted u hb ho
  rw [hk] at hl
  cases hl
  rfl

theorem Course.spelled?_order {p : Plan} {s t u : Session} {h : Handle} {b c : Builder}
    {ts : List RequestAt} {P : String → Prop} (hm : p.make.result s = (.ok (.shared h), t))
    (hb : t.store.builder? h = some b) (hu : u.store.builder? h = some c)
    (hw : ∀ x ∈ ts, x.Worded P) (hc : Course h t ts u) :
    Builder.spelled? c.order = some (RequestAt.lastOrder ts) := by
  have fresh := Plan.Fresh.of_make hm hb
  have ho : Builder.spelled? b.order = some none := by rw [fresh.order]; rfl
  rw [hc.builder? hb, Option.some.injEq] at hu
  rw [← hu]
  exact RequestAt.spelled?_afterRequests ho hw

/-- What callers see of a builder with a text after a course, wherever the course starts. -/
theorem Course.seen_of_builder {s t : Session} {h : Handle} {b : Builder} {m : Mark} {base : String}
    {o : Option String} {ts : List RequestAt} {P : String → Prop} (hb : s.store.builder? h = some b)
    (base_eq : b.base = .text m base) (order_eq : Builder.spelled? b.order = some o)
    (hw : ∀ x ∈ ts, x.Worded P) (hc : Course h s ts t) :
    ∃ c, t.store.builder? h = some c ∧
      Seen c t
        (Text.assembled base
          (b.conditions ++ (RequestAt.emissions b.index ts).map Emission.fragment)
          ((ts.filterMap RequestAt.orderSet?).getLast?.getD o))
        (b.args ++ (RequestAt.emissions b.index ts).flatMap Emission.values)
        (b.index + Emission.taken (RequestAt.emissions b.index ts) + RequestAt.allLost b.index ts)
        (b.size + (RequestAt.emissions b.index ts).length) := by
  have base_eq : (b.afterRequests ts).base = .text m base := by
    rw [Builder.base_afterRequests, base_eq]
  have conditions_eq := Builder.conditions_afterRequests b ts
  refine ⟨b.afterRequests ts, hc.builder? hb, ?_, ?_, Builder.index_afterRequests b ts, ?_⟩
  · rw [← conditions_eq]
    exact Builder.result_buildNoted t base_eq (RequestAt.spelled?_afterRequests order_eq hw)
  · rw [Builder.args, Builder.reserved_afterRequests, Builder.bound_afterRequests, Builder.args,
      List.append_assoc]
  · rw [Builder.size, conditions_eq, List.length_append, List.length_map, Builder.size]

theorem Course.seen {p : Plan} {s t u : Session} {h : Handle} {b : Builder} {m : Mark}
    {base : String} {ts : List RequestAt} {P : String → Prop}
    (hm : p.make.result s = (.ok (.shared h), t)) (hb : t.store.builder? h = some b)
    (hp : p.base = .text m base) (hw : ∀ x ∈ ts, x.Worded P) (hc : Course h t ts u) :
    ∃ c, u.store.builder? h = some c ∧
      Seen c u
        (Text.assembled base
          (p.conditions ++ (RequestAt.emissions b.index ts).map Emission.fragment)
          (RequestAt.lastOrder ts))
        (b.reserved ++ (RequestAt.emissions b.index ts).flatMap Emission.values)
        (b.index + Emission.taken (RequestAt.emissions b.index ts) + RequestAt.allLost b.index ts)
        (p.conditions.length + (RequestAt.emissions b.index ts).length) := by
  have fresh := Plan.Fresh.of_make hm hb
  have order_eq : Builder.spelled? b.order = some none := by
    rw [fresh.order]
    rfl
  have seen := hc.seen_of_builder hb (fresh.base.trans hp) order_eq hw
  rwa [Builder.args, fresh.bound, List.append_nil, Builder.size, fresh.conditions] at seen

end Criteria
