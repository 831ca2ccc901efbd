import Mathlib.Data.List.Forall2
import Mathlib.Data.List.TakeDrop

/-! # Journals: lists of items that have owners

Several coroutines write into one list.  An item belongs to the one that entered it, and changes with
time in a way its `Journal` allows: it gets its outcome, for instance.

`Shift P l l'` is what has become of `l` in the eyes of the owners in `P`: items were entered, none of
them for an owner in `P`; the items of `P` are later ones of what they were, and the others are of the
same owners as before.  What an owner relies on is a shift for himself, what he does is one for all the
others.  The items of one owner are `J.of k l`. -/

namespace Runtime

/-- The owner of an item, and what an item may become. -/
structure Journal (α : Type) where
  owner : α → ℕ
  later : α → α → Prop
  refl : ∀ x, later x x
  trans : ∀ {x y z}, later x y → later y z → later x z
  owner_eq : ∀ {x y}, later x y → owner y = owner x

namespace Journal

variable {α : Type} (J : Journal α)

/-- The items of owner `k`. -/
def of (k : ℕ) (l : List α) : List α := l.filter (J.owner · = k)

/-- Items at a later time. -/
def AllLater (l l' : List α) : Prop := List.Forall₂ J.later l l'

/-- An item and what it is later, in the eyes of the owners in `P`. -/
def Shifted (P : ℕ → Prop) (x y : α) : Prop := J.owner y = J.owner x ∧ (P (J.owner x) → J.later x y)

/-- What has become of a list, in the eyes of the owners in `P`. -/
def Shift (P : ℕ → Prop) (l l' : List α) : Prop :=
  ∃ old new, l' = old ++ new ∧ List.Forall₂ (J.Shifted P) l old ∧ ∀ x ∈ new, ¬P (J.owner x)

variable {J} {P Q : ℕ → Prop} {l l' l'' : List α} {k : ℕ}

/-! ### The items of one owner -/

@[simp] theorem of_nil : J.of k [] = [] := rfl

theorem of_append (l l' : List α) : J.of k (l ++ l') = J.of k l ++ J.of k l' := List.filter_append ..

theorem of_singleton {x : α} (h : J.owner x = k) : J.of k [x] = [x] := by
  simp [of, h]

/-- Items of other owners. -/
theorem of_eq_nil (h : ∀ x ∈ l, J.owner x ≠ k) : J.of k l = [] :=
  List.filter_eq_nil_iff.mpr fun x hx => by simpa using h x hx

theorem mem_of {x : α} : x ∈ J.of k l ↔ x ∈ l ∧ J.owner x = k := by
  simp [of]

theorem eq_of_getElem? {n : ℕ} {x y : α} (hof : J.of k l = [x]) (hn : l[n]? = some y)
    (howner : J.owner y = k) : y = x := by
  have hmem : y ∈ J.of k l := mem_of.mpr ⟨List.mem_of_getElem? hn, howner⟩
  rw [hof] at hmem
  exact List.mem_singleton.mp hmem

/-- The only item of an owner is changed. -/
theorem of_modify {n : ℕ} {x : α} {f : α → α} (hof : J.of k l = [x]) (hn : l[n]? = some x)
    (howner : J.owner x = k) (hf : J.owner (f x) = k) : J.of k (l.modify n f) = [f x] := by
  obtain ⟨hlt, hx⟩ := List.getElem?_eq_some_iff.mp hn
  have hsplit : l = l.take n ++ x :: l.drop (n + 1) := by
    rw [← hx, List.cons_getElem_drop_succ, List.take_append_drop]
  have hmodify : l.modify n f = l.take n ++ f x :: l.drop (n + 1) := by
    rw [List.modify_eq_take_cons_drop hlt, hx]
  -- nothing of this owner stands before or behind the item
  rw [hsplit, of_append, ← List.singleton_append, of_append, of_singleton howner] at hof
  have hlength := congrArg List.length hof
  simp only [List.length_append, List.length_singleton] at hlength
  have hbefore : J.of k (l.take n) = [] := List.eq_nil_of_length_eq_zero (by omega)
  have hbehind : J.of k (l.drop (n + 1)) = [] := List.eq_nil_of_length_eq_zero (by omega)
  rw [hmodify, of_append, ← List.singleton_append, of_append, of_singleton hf, hbefore, hbehind]
  rfl

/-! ### Later items -/

theorem AllLater.eq_nil (h : J.AllLater [] l) : l = [] := List.forall₂_nil_left_iff.mp h

theorem AllLater.singleton {x : α} (h : J.AllLater [x] l) : ∃ y, l = [y] ∧ J.later x y := by
  obtain ⟨y, rest, hy, hrest, rfl⟩ := List.forall₂_cons_left_iff.mp h
  exact ⟨y, by rw [List.forall₂_nil_left_iff.mp hrest], hy⟩

/-! ### Shifts -/

theorem Shifted.refl (x : α) : J.Shifted P x x := ⟨rfl, fun _ => J.refl x⟩

theorem Shifted.of_later {x y : α} (h : J.later x y) : J.Shifted P x y := ⟨J.owner_eq h, fun _ => h⟩

theorem Shifted.trans {x y z : α} (h : J.Shifted P x y) (h' : J.Shifted P y z) : J.Shifted P x z :=
  ⟨h'.1.trans h.1, fun hx => J.trans (h.2 hx) (h'.2 (h.1 ▸ hx))⟩

namespace Shift

theorem refl (l : List α) : J.Shift P l l :=
  ⟨l, [], (List.append_nil _).symm, List.forall₂_same.mpr fun x _ => .refl x, fun x h => by cases h⟩

theorem of_eq (h : l' = l) : J.Shift P l l' := by
  rw [h]
  exact refl l

/-- Items are entered. -/
theorem append {new : List α} (h : ∀ x ∈ new, ¬P (J.owner x)) : J.Shift P l (l ++ new) :=
  ⟨l, new, rfl, List.forall₂_same.mpr fun x _ => .refl x, h⟩

theorem append_singleton {x : α} (h : ¬P (J.owner x)) : J.Shift P l (l ++ [x]) :=
  append fun y hy => by rw [List.mem_singleton.mp hy]; exact h

/-- An item is changed. -/
theorem modify {n : ℕ} {f : α → α} (h : ∀ x ∈ l[n]?, J.Shifted P x (f x)) :
    J.Shift P l (l.modify n f) := by
  refine ⟨l.modify n f, [], (List.append_nil _).symm, ?_, fun x h => by cases h⟩
  refine List.forall₂_iff_get.mpr ⟨(List.length_modify ..).symm, fun m hm hm' => ?_⟩
  simp only [List.get_eq_getElem, List.getElem_modify]
  split_ifs with hnm
  · obtain rfl := hnm
    exact h _ (List.getElem?_eq_getElem hm)
  · exact .refl _

theorem forall₂_trans {a b c : List α} (h : List.Forall₂ (J.Shifted P) a b)
    (h' : List.Forall₂ (J.Shifted P) b c) : List.Forall₂ (J.Shifted P) a c := by
  induction h generalizing c with
  | nil => exact h'
  | cons hab _ ih =>
      cases h' with
      | cons hbc hrest => exact .cons (hab.trans hbc) (ih hrest)

theorem trans (h : J.Shift P l l') (h' : J.Shift P l' l'') : J.Shift P l l'' := by
  obtain ⟨old, new, rfl, hold, hnew⟩ := h
  obtain ⟨all, more, rfl, hall, hmore⟩ := h'
  have htake := List.forall₂_take old.length hall
  have hdrop := List.forall₂_drop old.length hall
  rw [List.take_left] at htake
  rw [List.drop_left] at hdrop
  refine ⟨all.take old.length, all.drop old.length ++ more, ?_, forall₂_trans hold htake, ?_⟩
  · rw [← List.append_assoc, List.take_append_drop]
  · intro x hx
    rcases List.mem_append.mp hx with hx | hx
    · obtain ⟨n, hn, rfl⟩ := List.getElem_of_mem hx
      have hlength := List.Forall₂.length_eq hdrop
      have hshifted := List.Forall₂.get hdrop (hlength ▸ hn) hn
      simp only [List.get_eq_getElem] at hshifted
      rw [hshifted.1]
      exact hnew _ (List.getElem_mem _)
    · exact hmore x hx

/-- Fewer eyes see less. -/
theorem mono (h : J.Shift P l l') (hPQ : ∀ n, Q n → P n) : J.Shift Q l l' := by
  obtain ⟨old, new, heq, hold, hnew⟩ := h
  refine ⟨old, new, heq, hold.imp fun x y hxy => ⟨hxy.1, fun hQ => hxy.2 (hPQ _ hQ)⟩, ?_⟩
  exact fun x hx hQ => hnew x hx (hPQ _ hQ)

/-- An owner in `P` finds his items as they were, or later. -/
theorem of (h : J.Shift P l l') (hk : P k) : J.AllLater (J.of k l) (J.of k l') := by
  obtain ⟨old, new, rfl, hold, hnew⟩ := h
  have hnone : J.of k new = [] := of_eq_nil fun x hx heq => hnew x hx (heq ▸ hk)
  rw [of_append, hnone, List.append_nil]
  clear hnew hnone
  induction hold with
  | nil => exact .nil
  | @cons x y l old hxy _ ih =>
      by_cases howner : J.owner x = k
      · have hy : J.owner y = k := hxy.1.trans howner
        rw [← List.singleton_append, of_append, of_singleton howner, ← List.singleton_append (l := old),
          of_append, of_singleton hy]
        exact .cons (hxy.2 (howner ▸ hk)) ih
      · have hy : J.owner y ≠ k := fun h => howner (hxy.1.symm.trans h)
        have hx' : J.of k (x :: l) = J.of k l := List.filter_cons_of_neg (by simpa using howner)
        have hy' : J.of k (y :: old) = J.of k old := List.filter_cons_of_neg (by simpa using hy)
        rw [hx', hy']
        exact ih

theorem getElem? (h : J.Shift P l l') {n : ℕ} {x : α} (hx : l[n]? = some x) (hP : P (J.owner x)) :
    ∃ y, l'[n]? = some y ∧ J.later x y := by
  obtain ⟨old, new, rfl, hold, -⟩ := h
  obtain ⟨hn, rfl⟩ := List.getElem?_eq_some_iff.mp hx
  have hn' : n < old.length := List.Forall₂.length_eq hold ▸ hn
  refine ⟨old[n], ?_, (List.Forall₂.get hold hn hn').2 hP⟩
  rw [List.getElem?_append_left hn', List.getElem?_eq_getElem hn']

/-- The owners of all items, old and new. -/
theorem owners {p : ℕ → Prop} (h : J.Shift P l l') (hl : ∀ x ∈ l, p (J.owner x))
    (hnew : ∀ n, ¬P n → p n) : ∀ x ∈ l', p (J.owner x) := by
  obtain ⟨old, new, rfl, hold, hothers⟩ := h
  intro x hx
  rcases List.mem_append.mp hx with hx | hx
  · obtain ⟨n, hn, rfl⟩ := List.getElem_of_mem hx
    have hlength := List.Forall₂.length_eq hold
    have hshifted := List.Forall₂.get hold (hlength ▸ hn) hn
    simp only [List.get_eq_getElem] at hshifted
    rw [hshifted.1]
    exact hl _ (List.getElem_mem _)
  · exact hnew _ (hothers x hx)

end Shift

/-! ### Counting -/

/-- A change of one item changes a count by that item. -/
theorem countP_modify {l : List α} {n : ℕ} {x : α} (hn : l[n]? = some x) (f : α → α) (p : α → Bool) :
    (l.modify n f).countP p + (p x).toNat = l.countP p + (p (f x)).toNat := by
  obtain ⟨hlt, hx⟩ := List.getElem?_eq_some_iff.mp hn
  have hsplit : l = l.take n ++ x :: l.drop (n + 1) := by
    rw [← hx, List.cons_getElem_drop_succ, List.take_append_drop]
  have hcons : ∀ y, (l.take n ++ y :: l.drop (n + 1)).countP p =
      (l.take n).countP p + (l.drop (n + 1)).countP p + (p y).toNat := by
    intro y
    rw [List.countP_append, List.countP_cons]
    cases p y with
    | false => simp
    | true =>
        simp
        omega
  rw [List.modify_eq_take_cons_drop hlt, hx]
  conv_rhs => rw [hsplit]
  rw [hcons, hcons]
  omega

/-- A change that the count does not see. -/
theorem countP_modify_eq {l : List α} {n : ℕ} {f : α → α} {p : α → Bool}
    (h : ∀ x ∈ l[n]?, p (f x) = p x) : (l.modify n f).countP p = l.countP p := by
  cases hn : l[n]? with
  | none => rw [List.modify_eq_self (List.getElem?_eq_none_iff.mp hn)]
  | some x =>
      have hcount := countP_modify hn f p
      rw [h x hn] at hcount
      omega

/-- Two lists side by side, one of which is changed. -/
theorem zip_modify {β : Type} (a : List α) (b : List β) (n : ℕ) (f : β → β) :
    a.zip (b.modify n f) = (a.zip b).modify n (Prod.map id f) := by
  induction a generalizing b n with
  | nil => simp
  | cons x a ih =>
      cases b with
      | nil => simp
      | cons y b =>
          cases n with
          | zero => rfl
          | succ n => simp only [List.modify_succ_cons, List.zip_cons_cons, ih]

end Journal

end Runtime
