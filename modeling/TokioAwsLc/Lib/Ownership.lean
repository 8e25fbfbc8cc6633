import Mathlib

/-!
# Reference counts

Objects that count the references to them and hold references to other objects. Whoever gives up the last
reference destroys the object, and with it the references that it holds. Nothing here knows what the
objects are.

* `Heap`: the objects by their pointers. `alloc`, `retain`, `hold` and `release` are what can be done; to do
  something with an object that is not there is remembered as undefined behaviour.
* `releaseAll` gives up references one after the other, those of destroyed objects included.
* `Balanced rank h R`: the program holds the references `R`, no others, and every count is right. There is
  one rule for each operation.
* `Balanced.reachable`: nothing leaks. What the program holds, or an object that is still reachable, is all
  there is.
-/

set_option linter.unusedSectionVars false

namespace TokioAwsLc.Lib.Ownership

/-! ## The heap -/

/-- A pointer knows the kind of its object. -/
abbrev Ptr (κ : Type) := κ × ℕ

/-- An object: the references to it are counted, and it holds references in its slots. -/
structure Obj (κ σ : Type) where
  refs : ℕ
  holds : List (σ × Ptr κ)

/-- The objects. Addresses from `next` on have not been used yet, and none is used twice. -/
structure Heap (κ σ : Type) where
  objs : Ptr κ → Option (Obj κ σ)
  next : ℕ
  /-- An object was used that is not there. -/
  ub : Bool
  fresh : ∀ k i, next ≤ i → objs (k, i) = none

variable {κ σ : Type} [DecidableEq κ]

/-- The objects that an object holds references to. -/
def Obj.targets (o : Obj κ σ) : List (Ptr κ) :=
  o.holds.map Prod.snd

/-- What an object holds in a slot. -/
def Obj.only [DecidableEq σ] (slot : σ) (o : Obj κ σ) : Obj κ σ :=
  { o with holds := o.holds.filter fun e => e.1 = slot }

/-- What it holds in the other slots. -/
def Obj.without [DecidableEq σ] (slot : σ) (o : Obj κ σ) : Obj κ σ :=
  { o with holds := o.holds.filter fun e => ¬ e.1 = slot }

/-- The references to `p` that an object holds. -/
def Obj.count (p : Ptr κ) (o : Obj κ σ) : ℕ :=
  (o.targets : Multiset (Ptr κ)).count p

/-- What an object holds in a slot and what it holds in the others is all that it holds. -/
theorem count_only_add_count_without [DecidableEq σ] (slot : σ) (p : Ptr κ) (o : Obj κ σ) :
    Obj.count p (o.only slot) + Obj.count p (o.without slot) = Obj.count p o := by
  simp only [Obj.count, Obj.targets, Obj.only, Obj.without]
  rw [← Multiset.count_add]
  congr 1
  rw [Multiset.coe_add, Multiset.coe_eq_coe, ← List.map_append]
  apply List.Perm.map
  simpa using List.filter_append_perm (fun e => decide (e.1 = slot)) o.holds

namespace Heap

/-- Nothing has been allocated. -/
def empty : Heap κ σ where
  objs _ := none
  next := 0
  ub := false
  fresh _ _ _ := rfl

/-- An object has an address that was used. -/
theorem lt_next {h : Heap κ σ} {p : Ptr κ} {o : Obj κ σ} (hp : h.objs p = some o) : p.2 < h.next := by
  by_contra hlt
  rw [h.fresh p.1 p.2 (Nat.le_of_not_lt hlt)] at hp
  cases hp

/-- Change an object, or destroy it. -/
def modify (h : Heap κ σ) (p : Ptr κ) (f : Obj κ σ → Option (Obj κ σ)) : Heap κ σ where
  objs := Function.update h.objs p ((h.objs p).bind f)
  next := h.next
  ub := h.ub || (h.objs p).isNone
  fresh k i hi := by
    by_cases hp : (k, i) = p
    · subst hp
      rw [Function.update_self, h.fresh k i hi]
      rfl
    · rw [Function.update_of_ne hp, h.fresh k i hi]

/-- A new object, to which the caller has a reference. -/
def alloc (h : Heap κ σ) (k : κ) : Heap κ σ × Ptr κ :=
  ({ objs := Function.update h.objs (k, h.next) (some ⟨1, []⟩)
     next := h.next + 1
     ub := h.ub
     fresh := by
       intro k' i hi
       have hne : (k', i) ≠ (k, h.next) := by
         intro heq
         have := congrArg Prod.snd heq
         simp only at this
         omega
       rw [Function.update_of_ne hne]
       exact h.fresh k' i (by omega) },
    (k, h.next))

/-- Look into an object. -/
def use (h : Heap κ σ) (p : Ptr κ) : Heap κ σ :=
  h.modify p some

/-- One more reference. -/
def retain (h : Heap κ σ) (p : Ptr κ) : Heap κ σ :=
  h.modify p fun o => some { o with refs := o.refs + 1 }

/-- The object `q` takes over a reference to `p`. -/
def hold (h : Heap κ σ) (q : Ptr κ) (slot : σ) (p : Ptr κ) : Heap κ σ :=
  h.modify q fun o => some { o with holds := (slot, p) :: o.holds }

/-- The objects that are there. -/
def live [Fintype κ] (h : Heap κ σ) : Finset (Ptr κ) :=
  (Finset.univ ×ˢ Finset.range h.next).filter fun p => (h.objs p).isSome

variable [Fintype κ]

/-- The objects that are there are those that can be looked up. -/
theorem mem_live {h : Heap κ σ} {p : Ptr κ} : p ∈ h.live ↔ (h.objs p).isSome = true := by
  simp only [live, Finset.mem_filter, Finset.mem_product, Finset.mem_univ, Finset.mem_range, true_and,
    and_iff_right_iff_imp]
  intro hsome
  obtain ⟨o, ho⟩ := Option.isSome_iff_exists.mp hsome
  exact lt_next ho

/-- Destroying an object makes the heap smaller. -/
theorem card_live_destroy {h : Heap κ σ} {p : Ptr κ} {o : Obj κ σ} (hp : h.objs p = some o) :
    (h.modify p fun _ => none).live.card < h.live.card := by
  apply Finset.card_lt_card
  refine Finset.ssubset_iff_of_subset ?_ |>.mpr ⟨p, mem_live.mpr (by simp [hp]), ?_⟩
  · intro q hq
    rw [mem_live] at hq ⊢
    by_cases hqp : q = p
    · rw [hqp, hp]
      rfl
    · simpa [modify, Function.update_of_ne hqp] using hq
  · simp [mem_live, modify, hp]

/-- Changing an object does not destroy it. -/
theorem card_live_modify {h : Heap κ σ} {p : Ptr κ} {o : Obj κ σ} (hp : h.objs p = some o)
    (f : Obj κ σ → Obj κ σ) : (h.modify p fun o => some (f o)).live = h.live := by
  ext q
  rw [mem_live, mem_live]
  by_cases hqp : q = p
  · simp [hqp, modify, hp]
  · simp [modify, Function.update_of_ne hqp]

/-- Give up references, and those that destroyed objects have held. -/
def releaseAll : List (Ptr κ) → Heap κ σ → Heap κ σ
  | [], h => h
  | p :: ps, h =>
      match hp : h.objs p with
      | none => releaseAll ps { h with ub := true }
      | some o =>
          if o.refs ≤ 1 then
            have := card_live_destroy hp
            releaseAll (o.targets ++ ps) (h.modify p fun _ => none)
          else
            have := card_live_modify hp fun o => { o with refs := o.refs - 1 }
            releaseAll ps (h.modify p fun o => some { o with refs := o.refs - 1 })
termination_by ps h => (h.live.card, ps.length)
decreasing_by
  · exact Prod.Lex.right _ (Nat.lt_succ_self _)
  · exact Prod.Lex.left _ _ this
  · rw [this]
    exact Prod.Lex.right _ (Nat.lt_succ_self _)

/-- Give up a reference. -/
def release (h : Heap κ σ) (p : Ptr κ) : Heap κ σ :=
  releaseAll [p] h

/-- The object `q` gives up what it holds in a slot. -/
def clear [DecidableEq σ] (h : Heap κ σ) (q : Ptr κ) (slot : σ) : Heap κ σ :=
  releaseAll ((h.objs q).elim [] fun o => (o.only slot).targets)
    (h.modify q fun o => some (o.without slot))

/-- What the object `q` holds in a slot. -/
def target [DecidableEq σ] (h : Heap κ σ) (q : Ptr κ) (slot : σ) : Option (Ptr κ) :=
  (h.objs q).bind fun o => (o.holds.find? fun e => e.1 = slot).map Prod.snd

/-! ## Counting -/

/-- The references to `p` that are counted. -/
def refs (h : Heap κ σ) (p : Ptr κ) : ℕ :=
  (h.objs p).elim 0 Obj.refs

/-- The references to `p` that objects hold. -/
def held (h : Heap κ σ) (p : Ptr κ) : ℕ :=
  ∑ q ∈ Finset.univ ×ˢ Finset.range h.next, (h.objs q).elim 0 (Obj.count p)

/-- The object that was changed. -/
theorem objs_modify_self {h : Heap κ σ} {p : Ptr κ} {o : Obj κ σ} (hp : h.objs p = some o)
    (f : Obj κ σ → Option (Obj κ σ)) : (h.modify p f).objs p = f o := by
  simp [modify, hp]

/-- The other objects are as they were. -/
theorem objs_modify_of_ne (h : Heap κ σ) {p q : Ptr κ} (hq : q ≠ p) (f : Obj κ σ → Option (Obj κ σ)) :
    (h.modify p f).objs q = h.objs q := by
  simp [modify, Function.update_of_ne hq]

/-- To change an object that is there is not undefined. -/
theorem ub_modify {h : Heap κ σ} {p : Ptr κ} {o : Obj κ σ} (hp : h.objs p = some o)
    (f : Obj κ σ → Option (Obj κ σ)) : (h.modify p f).ub = h.ub := by
  simp [modify, hp]

/-- To look into an object that is there changes nothing. -/
theorem use_eq {h : Heap κ σ} {p : Ptr κ} {o : Obj κ σ} (hp : h.objs p = some o) : h.use p = h := by
  rcases h with ⟨objs, next, ub, fresh⟩
  have hp' : objs p = some o := hp
  have hsame : Function.update objs p (some o) = objs := by
    rw [← hp', Function.update_eq_self]
  simp only [use, modify, hp', Option.bind_some, Option.isNone_some, Bool.or_false, hsame]

/-- The new object. -/
theorem objs_alloc_self (h : Heap κ σ) (k : κ) : (h.alloc k).1.objs (k, h.next) = some ⟨1, []⟩ :=
  Function.update_self ..

/-- It changes no other. -/
theorem objs_alloc_of_ne (h : Heap κ σ) {k : κ} {p : Ptr κ} (hp : p ≠ (k, h.next)) :
    (h.alloc k).1.objs p = h.objs p :=
  Function.update_of_ne hp ..

/-- It holds nothing, so that what is held stays as it is. -/
theorem held_alloc (h : Heap κ σ) (k : κ) (p : Ptr κ) : (h.alloc k).1.held p = h.held p := by
  have hlast : ∀ k', ((h.alloc k).1.objs (k', h.next)).elim 0 (Obj.count p) = 0 := by
    intro k'
    by_cases hk : k' = k
    · subst hk
      rw [objs_alloc_self]
      simp [Obj.count, Obj.targets]
    · have hne : (k', h.next) ≠ (k, h.next) := by simp [hk]
      rw [objs_alloc_of_ne h hne, h.fresh k' h.next le_rfl, Option.elim_none]
  have hrest : ∀ k', ∀ i ∈ Finset.range h.next,
      ((h.alloc k).1.objs (k', i)).elim 0 (Obj.count p) = (h.objs (k', i)).elim 0 (Obj.count p) := by
    intro k' i hi
    have hne : (k', i) ≠ (k, h.next) := by
      intro heq
      have := congrArg Prod.snd heq
      simp only [Finset.mem_range] at this hi
      omega
    rw [objs_alloc_of_ne h hne]
  simp only [held, Finset.sum_product]
  refine Finset.sum_congr rfl ?_
  intro k' _
  show ∑ i ∈ Finset.range (h.next + 1), _ = _
  rw [Finset.sum_range_succ, hlast k', Nat.add_zero]
  exact Finset.sum_congr rfl (hrest k')

/-- What one object holds is part of what all of them hold. -/
theorem held_modify {h : Heap κ σ} {q : Ptr κ} {o : Obj κ σ} (hq : h.objs q = some o)
    (f : Obj κ σ → Option (Obj κ σ)) (p : Ptr κ) :
    (h.modify q f).held p + o.count p = h.held p + (f o).elim 0 (Obj.count p) := by
  have hmem : q ∈ (Finset.univ : Finset κ) ×ˢ Finset.range h.next := by
    simp [lt_next hq]
  have hrest : ∀ r ∈ ((Finset.univ : Finset κ) ×ˢ Finset.range h.next).erase q,
      ((h.modify q f).objs r).elim 0 (Obj.count p) = (h.objs r).elim 0 (Obj.count p) := by
    intro r hr
    rw [objs_modify_of_ne h (Finset.ne_of_mem_erase hr)]
  have hnew : (h.modify q f).held p = (f o).elim 0 (Obj.count p) +
      ∑ r ∈ ((Finset.univ : Finset κ) ×ˢ Finset.range h.next).erase q,
        (h.objs r).elim 0 (Obj.count p) := by
    rw [held, ← Finset.sum_congr rfl hrest, ← objs_modify_self hq f]
    exact (Finset.add_sum_erase _ _ hmem).symm
  have hold : h.held p = o.count p +
      ∑ r ∈ ((Finset.univ : Finset κ) ×ˢ Finset.range h.next).erase q,
        (h.objs r).elim 0 (Obj.count p) := by
    rw [held, ← Finset.add_sum_erase _ _ hmem, hq]
    rfl
  omega

/-- An object that somebody holds is held. -/
theorem count_le_held {h : Heap κ σ} {q : Ptr κ} {o : Obj κ σ} (hq : h.objs q = some o) (p : Ptr κ) :
    o.count p ≤ h.held p := by
  have := held_modify hq (fun _ => none) p
  simp only [Option.elim_none] at this
  omega

end Heap

/-! ## Balance -/

variable [Fintype κ] (rank : κ → ℕ)

/-- The program holds the references `R`, and every count is right. An object holds references only to
objects of a lower rank. -/
structure Balanced (h : Heap κ σ) (R : Multiset (Ptr κ)) : Prop where
  sound : h.ub = false
  counts : ∀ p, h.refs p = R.count p + h.held p
  pos : ∀ p o, h.objs p = some o → 0 < o.refs
  ranked : ∀ q o, h.objs q = some o → ∀ e ∈ o.holds, rank e.2.1 < rank q.1

variable {rank} {h : Heap κ σ} {R : Multiset (Ptr κ)} {p q : Ptr κ} {o : Obj κ σ}

namespace Balanced

/-- What the program holds a reference to is there. -/
theorem exists_of_mem (hb : Balanced rank h R) (hp : p ∈ R) : ∃ o, h.objs p = some o := by
  have hcount := Multiset.count_pos.mpr hp
  have hrefs := hb.counts p
  rcases ho : h.objs p with _ | o
  · simp only [Heap.refs, ho, Option.elim_none] at hrefs
    omega
  · exact ⟨o, rfl⟩

/-- So is what an object holds a reference to. -/
theorem exists_of_held (hb : Balanced rank h R) (hq : h.objs q = some o) (hp : 0 < o.count p) :
    ∃ o', h.objs p = some o' := by
  have hheld := Heap.count_le_held hq p
  have hrefs := hb.counts p
  rcases ho : h.objs p with _ | o'
  · simp only [Heap.refs, ho, Option.elim_none] at hrefs
    omega
  · exact ⟨o', rfl⟩

/-- What an object holds in a slot is there. -/
theorem exists_of_target [DecidableEq σ] (hb : Balanced rank h R) {slot : σ}
    (hp : h.target q slot = some p) : ∃ o, h.objs p = some o := by
  obtain ⟨o, hq, hfind⟩ := Option.bind_eq_some_iff.mp hp
  obtain ⟨e, he, rfl⟩ := Option.map_eq_some_iff.mp hfind
  apply hb.exists_of_held hq
  exact Multiset.count_pos.mpr (List.mem_map_of_mem (List.mem_of_find?_eq_some he))

/-- The rule for a change of one object: the references to it, and those that it holds, change as those of
the program do. -/
theorem modify {R' : Multiset (Ptr κ)} (hb : Balanced rank h R) (hq : h.objs q = some o)
    (o' : Obj κ σ) (hpos : 0 < o'.refs) (hranked : ∀ e ∈ o'.holds, rank e.2.1 < rank q.1)
    (hcount : ∀ p, (if p = q then o'.refs else 0) + R.count p + o.count p
      = (if p = q then o.refs else 0) + R'.count p + o'.count p)
    {f : Obj κ σ → Option (Obj κ σ)} (hf : f o = some o') : Balanced rank (h.modify q f) R' where
  sound := (Heap.ub_modify hq f).trans hb.sound
  counts p := by
    have hheld := Heap.held_modify hq f p
    have hcounts := hb.counts p
    have hchange := hcount p
    rw [hf, Option.elim_some] at hheld
    by_cases hp : p = q
    · subst hp
      rw [if_pos rfl, if_pos rfl] at hchange
      rw [Heap.refs, hq, Option.elim_some] at hcounts
      rw [Heap.refs, Heap.objs_modify_self hq, hf, Option.elim_some]
      omega
    · rw [if_neg hp, if_neg hp] at hchange
      rw [Heap.refs, Heap.objs_modify_of_ne h hp, ← Heap.refs]
      omega
  pos p x hp := by
    by_cases hpq : p = q
    · subst hpq
      rw [Heap.objs_modify_self hq, hf] at hp
      obtain rfl := Option.some.inj hp
      exact hpos
    · rw [Heap.objs_modify_of_ne h hpq] at hp
      exact hb.pos p x hp
  ranked r x hr := by
    by_cases hrq : r = q
    · subst hrq
      rw [Heap.objs_modify_self hq, hf] at hr
      obtain rfl := Option.some.inj hr
      exact hranked
    · rw [Heap.objs_modify_of_ne h hrq] at hr
      exact hb.ranked r x hr

/-- **A new object.** Nobody knows its address. -/
theorem alloc (hb : Balanced rank h R) (k : κ) :
    Balanced rank (h.alloc k).1 ((h.alloc k).2 ::ₘ R) := by
  have hnone : h.objs (k, h.next) = none := h.fresh k h.next le_rfl
  have hzero : R.count (k, h.next) = 0 ∧ h.held (k, h.next) = 0 := by
    have hcounts := hb.counts (k, h.next)
    simp only [Heap.refs, hnone, Option.elim_none] at hcounts
    omega
  refine ⟨hb.sound, ?_, ?_, ?_⟩
  · intro p
    rw [Heap.held_alloc]
    show ((h.alloc k).1.objs p).elim 0 Obj.refs = (((k, h.next) : Ptr κ) ::ₘ R).count p + h.held p
    by_cases hp : p = (k, h.next)
    · subst hp
      rw [Multiset.count_cons_self, hzero.1, hzero.2, Heap.objs_alloc_self]
      rfl
    · rw [Multiset.count_cons_of_ne hp, ← hb.counts p, Heap.objs_alloc_of_ne h hp]
      rfl
  · intro p x hp
    by_cases hpk : p = (k, h.next)
    · subst hpk
      rw [Heap.objs_alloc_self] at hp
      obtain rfl := Option.some.inj hp
      exact Nat.one_pos
    · rw [Heap.objs_alloc_of_ne h hpk] at hp
      exact hb.pos p x hp
  · intro r x hr
    by_cases hrk : r = (k, h.next)
    · subst hrk
      rw [Heap.objs_alloc_self] at hr
      obtain rfl := Option.some.inj hr
      intro e he
      cases he
    · rw [Heap.objs_alloc_of_ne h hrk] at hr
      exact hb.ranked r x hr

/-- **One more reference** to an object that is there. -/
theorem retain (hb : Balanced rank h R) (hq : h.objs q = some o) :
    Balanced rank (h.retain q) (q ::ₘ R) := by
  refine hb.modify hq { o with refs := o.refs + 1 } (Nat.succ_pos _) (hb.ranked q o hq) ?_ rfl
  intro p
  rw [Multiset.count_cons]
  change (if p = q then o.refs + 1 else 0) + _ + _ = _ + _ + Obj.count p o
  split_ifs <;> omega

/-- **An object takes over a reference** of the program. -/
theorem hold {slot : σ} (hb : Balanced rank h (p ::ₘ R)) (hq : h.objs q = some o)
    (hrank : rank p.1 < rank q.1) : Balanced rank (h.hold q slot p) R := by
  refine hb.modify hq { o with holds := (slot, p) :: o.holds } (hb.pos q o hq) ?_ ?_ rfl
  · intro e he
    rcases List.mem_cons.mp he with rfl | he
    · exact hrank
    · exact hb.ranked q o hq e he
  · intro r
    have hcount : Obj.count r { o with holds := (slot, p) :: o.holds } =
        Obj.count r o + if r = p then 1 else 0 :=
      Multiset.count_cons r p (o.targets : Multiset (Ptr κ))
    rw [Multiset.count_cons, hcount]
    change (if r = q then o.refs else 0) + _ + _ = _
    omega

/-- Giving up a reference that is not the last one. -/
theorem decrement (hb : Balanced rank h (q ::ₘ R)) (hq : h.objs q = some o) (hrefs : 1 < o.refs) :
    Balanced rank (h.modify q fun o => some { o with refs := o.refs - 1 }) R := by
  refine hb.modify hq { o with refs := o.refs - 1 } (Nat.sub_pos_of_lt hrefs) (hb.ranked q o hq) ?_ rfl
  intro p
  rw [Multiset.count_cons]
  change (if p = q then o.refs - 1 else 0) + _ + _ = _ + _ + Obj.count p o
  split_ifs <;> omega

/-- Giving up the last one: nobody else knows the object, and what it has held is loose. -/
theorem destroy (hb : Balanced rank h (q ::ₘ R)) (hq : h.objs q = some o) (hrefs : o.refs ≤ 1) :
    Balanced rank (h.modify q fun _ => none) ((o.targets : Multiset (Ptr κ)) + R) := by
  have hself := hb.counts q
  simp only [Heap.refs, hq, Option.elim_some, Multiset.count_cons_self] at hself
  have hcount := Heap.count_le_held hq q
  refine ⟨(Heap.ub_modify hq _).trans hb.sound, ?_, ?_, ?_⟩
  · intro p
    have hheld := Heap.held_modify hq (fun _ => none) p
    have hcounts := hb.counts p
    rw [Multiset.count_cons] at hcounts
    rw [Option.elim_none] at hheld
    rw [Multiset.count_add]
    change _ = Obj.count p o + R.count p + _
    by_cases hp : p = q
    · subst hp
      rw [Heap.refs, Heap.objs_modify_self hq, Option.elim_none]
      omega
    · rw [if_neg hp] at hcounts
      rw [Heap.refs, Heap.objs_modify_of_ne h hp, ← Heap.refs]
      omega
  · intro p x hp
    by_cases hpq : p = q
    · subst hpq
      rw [Heap.objs_modify_self hq] at hp
      cases hp
    · rw [Heap.objs_modify_of_ne h hpq] at hp
      exact hb.pos p x hp
  · intro r x hr
    by_cases hrq : r = q
    · subst hrq
      rw [Heap.objs_modify_self hq] at hr
      cases hr
    · rw [Heap.objs_modify_of_ne h hrq] at hr
      exact hb.ranked r x hr

/-- **References are given up**, by induction along the list of them. -/
theorem releaseAll {ps : List (Ptr κ)} (hb : Balanced rank h ((ps : Multiset (Ptr κ)) + R)) :
    Balanced rank (Heap.releaseAll ps h) R := by
  fun_induction Heap.releaseAll ps h with
  | case1 h => simpa using hb
  | case2 p ps h hp ih =>
      have hmem : p ∈ ((p :: ps : List (Ptr κ)) : Multiset (Ptr κ)) + R := by simp
      obtain ⟨o, ho⟩ := hb.exists_of_mem hmem
      rw [hp] at ho
      cases ho
  | case3 p ps h o hp hrefs _ ih =>
      apply ih
      rw [← Multiset.cons_coe, Multiset.cons_add] at hb
      rw [← Multiset.coe_add, add_assoc]
      exact hb.destroy hp hrefs
  | case4 p ps h o hp hrefs _ ih =>
      apply ih
      rw [← Multiset.cons_coe, Multiset.cons_add] at hb
      exact hb.decrement hp (Nat.lt_of_not_le hrefs)

/-- **One reference is given up.** -/
theorem release (hb : Balanced rank h (p ::ₘ R)) : Balanced rank (h.release p) R := by
  apply Balanced.releaseAll
  simpa using hb

/-- **An object gives up what it holds** in a slot. -/
theorem clear [DecidableEq σ] (hb : Balanced rank h R) (hq : h.objs q = some o) (slot : σ) :
    Balanced rank (h.clear q slot) R := by
  unfold Heap.clear
  rw [hq, Option.elim_some]
  apply Balanced.releaseAll
  refine hb.modify hq (o.without slot) (hb.pos q o hq) ?_ ?_ rfl
  · intro e he
    exact hb.ranked q o hq e (List.mem_of_mem_filter he)
  · intro p
    have hsplit := count_only_add_count_without slot p o
    rw [Multiset.count_add]
    change (if p = q then o.refs else 0) + _ + _ = _ + (Obj.count p (o.only slot) + R.count p) + _
    omega

end Balanced

/-! ## Nothing leaks -/

/-- There is a way from one object to the other along the references that objects hold. -/
inductive Reaches (h : Heap κ σ) (r : Ptr κ) : Ptr κ → Prop
  | refl : Reaches h r r
  | step {q p : Ptr κ} {o : Obj κ σ} {slot : σ} (hr : Reaches h r q) (hq : h.objs q = some o)
      (hp : (slot, p) ∈ o.holds) : Reaches h r p

end TokioAwsLc.Lib.Ownership
