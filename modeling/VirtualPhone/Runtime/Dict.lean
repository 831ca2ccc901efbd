import Mathlib.Data.List.Basic
import Mathlib.Data.List.Nodup

/-! # Insertion-ordered dictionaries

`Dict α β` is a finite map whose entries stay in the order in which their keys were first
written, as in the language of the modelled program: writing an existing key keeps its place,
erasing and writing it again moves it to the end.  The entries carry the proof that no key
occurs twice. -/

namespace Runtime

/-- A finite map with its entries in insertion order and no key twice. -/
structure Dict (α β : Type) where
  entries : List (α × β)
  nodup : (entries.map Prod.fst).Nodup

namespace Dict

variable {α β : Type} [DecidableEq α]

instance [DecidableEq β] : DecidableEq (Dict α β) := fun d e =>
  decidable_of_iff (d.entries = e.entries) (by cases d; cases e; simp)

omit [DecidableEq α] in
theorem ext_entries {d e : Dict α β} (h : d.entries = e.entries) : d = e := by
  cases d; cases e; cases h; rfl

/-- The empty dictionary. -/
def empty : Dict α β := ⟨[], List.nodup_nil⟩

/-- The keys in order. -/
def keys (d : Dict α β) : List α := d.entries.map Prod.fst

/-- The values in order. -/
def values (d : Dict α β) : List β := d.entries.map Prod.snd

/-- The value stored under `k`. -/
def get? (d : Dict α β) (k : α) : Option β := (d.entries.find? fun e => e.1 = k).map Prod.snd

/-- Replace the value of every entry by one computed from the entry. -/
def mapEntry (d : Dict α β) (f : α → β → β) : Dict α β :=
  ⟨d.entries.map fun e => (e.1, f e.1 e.2), by
    rw [List.map_map]
    exact d.nodup⟩

/-- Apply `f` to the value under `k`, in place. -/
def modify (d : Dict α β) (k : α) (f : β → β) : Dict α β :=
  d.mapEntry fun k' v => if k' = k then f v else v

/-- Write `v` under `k`: in place when the key is there, at the end otherwise. -/
def set (d : Dict α β) (k : α) (v : β) : Dict α β :=
  if h : k ∈ d.keys then d.modify k fun _ => v
  else ⟨d.entries ++ [(k, v)], by
    rw [List.map_append, List.map_singleton]
    refine List.nodup_append.mpr ⟨d.nodup, List.nodup_singleton k, ?_⟩
    intro a ha b hb hab
    have hk : b = k := List.mem_singleton.mp hb
    exact h (hk ▸ hab ▸ ha)⟩

/-- Remove the entry under `k`. -/
def erase (d : Dict α β) (k : α) : Dict α β :=
  ⟨d.entries.filter fun e => e.1 ≠ k, by
    exact d.nodup.sublist (List.Sublist.map _ List.filter_sublist)⟩

/-- The dictionary with the entries of a list, later entries winning. -/
def ofList (l : List (α × β)) : Dict α β := l.foldl (fun d e => d.set e.1 e.2) empty

@[simp] theorem get?_empty (k : α) : (empty : Dict α β).get? k = none := rfl

omit [DecidableEq α] in
@[simp] theorem keys_empty : (empty : Dict α β).keys = [] := rfl

omit [DecidableEq α] in
theorem mem_keys_of_mem {d : Dict α β} {k : α} {v : β} (h : (k, v) ∈ d.entries) : k ∈ d.keys :=
  List.mem_map.mpr ⟨(k, v), h, rfl⟩

theorem get?_eq_some_iff (d : Dict α β) (k : α) (v : β) :
    d.get? k = some v ↔ (k, v) ∈ d.entries := by
  obtain ⟨l, hl⟩ := d
  unfold get?
  induction l with
  | nil => simp
  | cons e l ih =>
      obtain ⟨hn, hl'⟩ := List.nodup_cons.mp hl
      by_cases h : e.1 = k
      · rw [List.find?_cons_of_pos (by simpa using h)]
        constructor
        · intro hv
          have hv' : e.2 = v := by simpa using hv
          exact List.mem_cons.mpr (Or.inl (by rw [← h, ← hv']))
        · intro hv
          rcases List.mem_cons.mp hv with hv | hv
          · simp [← hv]
          · exact absurd (List.mem_map.mpr ⟨(k, v), hv, rfl⟩) (h ▸ hn)
      · rw [List.find?_cons_of_neg (by simpa using h), ih hl']
        constructor
        · exact fun hv => List.mem_cons_of_mem e hv
        · intro hv
          rcases List.mem_cons.mp hv with hv | hv
          · exact absurd (by rw [← hv]) h
          · exact hv

theorem get?_eq_none_iff (d : Dict α β) (k : α) : d.get? k = none ↔ k ∉ d.keys := by
  constructor
  · intro h hk
    obtain ⟨⟨k', v⟩, hm, rfl⟩ := List.mem_map.mp hk
    rw [(d.get?_eq_some_iff k' v).mpr hm] at h
    exact absurd h (by simp)
  · intro h
    cases hv : d.get? k with
    | none => rfl
    | some v => exact absurd (mem_keys_of_mem ((d.get?_eq_some_iff k v).mp hv)) h

theorem mem_keys_iff (d : Dict α β) (k : α) : k ∈ d.keys ↔ ∃ v, d.get? k = some v := by
  rw [← Option.isSome_iff_exists, ← Option.ne_none_iff_isSome, ne_eq, get?_eq_none_iff, not_not]

theorem mem_keys_of_get? {d : Dict α β} {k : α} {v : β} (h : d.get? k = some v) : k ∈ d.keys :=
  (d.mem_keys_iff k).mpr ⟨v, h⟩

/-- Of a dictionary, the entries with one key. -/
theorem filter_key {d : Dict α β} {p : α × β → Bool} {k : α} {v : β}
    (hmem : (k, v) ∈ d.entries) (hp : ∀ e ∈ d.entries, p e = true ↔ e.1 = k) :
    d.entries.filter p = [(k, v)] := by
  have hnodup : d.entries.Nodup := List.Nodup.of_map Prod.fst d.nodup
  refine List.perm_singleton.mp ((List.perm_ext_iff_of_nodup (hnodup.filter p)
    (List.nodup_singleton _)).mpr fun e => ?_)
  rw [List.mem_filter, List.mem_singleton]
  constructor
  · rintro ⟨he, hpe⟩
    have hkey := (hp e he).mp hpe
    have hval := (d.get?_eq_some_iff e.1 e.2).mpr he
    rw [hkey, (d.get?_eq_some_iff k v).mpr hmem] at hval
    exact Prod.ext hkey (Option.some.inj hval).symm
  · rintro rfl
    exact ⟨hmem, (hp _ hmem).mpr rfl⟩

omit [DecidableEq α] in
@[simp] theorem keys_mapEntry (d : Dict α β) (f : α → β → β) : (d.mapEntry f).keys = d.keys := by
  simp [keys, mapEntry, Function.comp_def]

@[simp] theorem get?_mapEntry (d : Dict α β) (f : α → β → β) (k : α) :
    (d.mapEntry f).get? k = (d.get? k).map (f k) := by
  ext v
  simp only [get?_eq_some_iff, mapEntry, List.mem_map, Option.map_eq_some_iff]
  constructor
  · rintro ⟨⟨k', w⟩, hm, heq⟩
    obtain ⟨rfl, rfl⟩ := Prod.mk.inj heq
    exact ⟨w, hm, rfl⟩
  · rintro ⟨w, hm, rfl⟩
    exact ⟨(k, w), hm, rfl⟩

@[simp] theorem keys_modify (d : Dict α β) (k : α) (f : β → β) : (d.modify k f).keys = d.keys :=
  d.keys_mapEntry _

theorem get?_modify (d : Dict α β) (k k' : α) (f : β → β) :
    (d.modify k f).get? k' = if k' = k then (d.get? k').map f else d.get? k' := by
  unfold modify
  rw [get?_mapEntry]
  split_ifs with h
  · simp
  · simp

theorem keys_set (d : Dict α β) (k : α) (v : β) :
    (d.set k v).keys = if k ∈ d.keys then d.keys else d.keys ++ [k] := by
  unfold set
  split_ifs with h
  · exact d.keys_modify k _
  · simp [keys]

theorem mem_keys_set (d : Dict α β) (k k' : α) (v : β) :
    k' ∈ (d.set k v).keys ↔ k' = k ∨ k' ∈ d.keys := by
  rw [keys_set]
  split_ifs with h
  · exact ⟨Or.inr, fun h' => h'.elim (fun e => e ▸ h) id⟩
  · rw [List.mem_append, List.mem_singleton, or_comm]

theorem get?_set (d : Dict α β) (k k' : α) (v : β) :
    (d.set k v).get? k' = if k' = k then some v else d.get? k' := by
  unfold set
  split_ifs with h hk hk
  · rw [get?_modify, if_pos hk, hk]
    obtain ⟨w, hw⟩ := (d.mem_keys_iff k).mp h
    rw [hw]; rfl
  · rw [get?_modify, if_neg hk]
  · rw [get?_eq_some_iff, hk]
    exact List.mem_append_right _ (List.mem_singleton.mpr rfl)
  · unfold get?
    rw [List.find?_append]
    cases d.entries.find? fun e => e.1 = k' with
    | none => simp [Ne.symm hk]
    | some e => rfl

omit [DecidableEq α] in
/-- A dictionary is its keys and its values. -/
theorem ext_values {d e : Dict α β} (hkeys : d.keys = e.keys) (hvalues : d.values = e.values) : d = e := by
  refine ext_entries ?_
  have hzip : ∀ d : Dict α β, d.entries = d.keys.zip d.values := fun d =>
    List.zip_of_prod rfl rfl
  rw [hzip d, hzip e, hkeys, hvalues]

theorem ext_get? {d e : Dict α β} (hkeys : d.keys = e.keys) (hget : ∀ k ∈ d.keys, d.get? k = e.get? k) :
    d = e := by
  have hvalues : ∀ d : Dict α β, d.values.map some = d.keys.map d.get? := by
    intro d
    unfold values keys
    rw [List.map_map, List.map_map]
    exact List.map_congr_left fun e he => ((d.get?_eq_some_iff e.1 e.2).mpr he).symm
  refine ext_values hkeys (List.map_injective_iff.mpr (fun _ _ => Option.some.inj) ?_)
  rw [hvalues d, hvalues e, ← hkeys]
  exact List.map_congr_left hget

/-- Changing an entry that is there is writing its new value. -/
theorem modify_eq_set {d : Dict α β} {k : α} {v : β} (h : d.get? k = some v) (f : β → β) :
    d.modify k f = d.set k (f v) := by
  rw [set, dif_pos (mem_keys_of_get? h)]
  refine ext_entries (List.map_congr_left ?_)
  rintro ⟨k', v'⟩ hmem
  by_cases hk : k' = k
  · subst hk
    obtain rfl := Option.some.inj (((get?_eq_some_iff ..).mpr hmem).symm.trans h)
    rfl
  · simp only [if_neg hk]

@[simp] theorem get?_set_self (d : Dict α β) (k : α) (v : β) : (d.set k v).get? k = some v := by
  rw [get?_set, if_pos rfl]

theorem get?_set_ne (d : Dict α β) {k k' : α} (v : β) (h : k' ≠ k) :
    (d.set k v).get? k' = d.get? k' := by
  rw [get?_set, if_neg h]

theorem get?_erase (d : Dict α β) (k k' : α) :
    (d.erase k).get? k' = if k' = k then none else d.get? k' := by
  split_ifs with h
  · rw [get?_eq_none_iff]
    intro hk
    obtain ⟨e, he, hek⟩ := List.mem_map.mp hk
    have := (List.mem_filter.mp he).2
    simp only [ne_eq, decide_not, Bool.not_eq_eq_eq_not, Bool.not_true, decide_eq_false_iff_not]
      at this
    exact this (hek.trans h)
  · ext v
    simp only [get?_eq_some_iff, erase, List.mem_filter]
    simp [h]

@[simp] theorem get?_erase_self (d : Dict α β) (k : α) : (d.erase k).get? k = none := by
  rw [get?_erase, if_pos rfl]

theorem get?_erase_ne (d : Dict α β) {k k' : α} (h : k' ≠ k) :
    (d.erase k).get? k' = d.get? k' := by
  rw [get?_erase, if_neg h]

theorem mem_keys_erase (d : Dict α β) (k k' : α) :
    k' ∈ (d.erase k).keys ↔ k' ≠ k ∧ k' ∈ d.keys := by
  rw [mem_keys_iff, mem_keys_iff, get?_erase]
  split_ifs with h
  · simp [h]
  · simp [h]

theorem mem_values_iff (d : Dict α β) (v : β) : v ∈ d.values ↔ ∃ k, d.get? k = some v := by
  simp only [values, List.mem_map, get?_eq_some_iff]
  constructor
  · rintro ⟨⟨k, w⟩, h, rfl⟩
    exact ⟨k, h⟩
  · rintro ⟨k, h⟩
    exact ⟨(k, v), h, rfl⟩

/-- A list without repeated keys becomes the entries of its dictionary. -/
theorem ofList_entries {l : List (α × β)} (h : (l.map Prod.fst).Nodup) : (ofList l).entries = l := by
  have hfold : ∀ (l : List (α × β)) (d : Dict α β), ((d.entries ++ l).map Prod.fst).Nodup →
      (l.foldl (fun d e => d.set e.1 e.2) d).entries = d.entries ++ l := by
    intro l
    induction l with
    | nil => simp
    | cons e l ih =>
        intro d hd
        have hk : e.1 ∉ d.keys := by
          intro hmem
          rw [List.map_append, List.map_cons] at hd
          exact (List.nodup_append.mp hd).2.2 e.1 hmem e.1 (by simp) rfl
        have hset : (d.set e.1 e.2).entries = d.entries ++ [e] := by
          unfold set
          rw [dif_neg hk]
        rw [List.foldl_cons, ih (d.set e.1 e.2) (by rw [hset, List.append_assoc]; exact hd), hset,
          List.append_assoc]
        rfl
  exact hfold l empty h

/-- An entry of a dictionary made from a list is in the list. -/
theorem mem_of_mem_ofList {l : List (α × β)} {k : α} {v : β} (h : (ofList l).get? k = some v) :
    (k, v) ∈ l := by
  have hfold : ∀ (l : List (α × β)) (d : Dict α β),
      (l.foldl (fun d e => d.set e.1 e.2) d).get? k = some v → d.get? k = some v ∨ (k, v) ∈ l := by
    intro l
    induction l with
    | nil => exact fun d hd => Or.inl hd
    | cons e l ih =>
        intro d hd
        rcases ih _ hd with hset | hmem
        · rw [get?_set] at hset
          split_ifs at hset with hk
          · obtain rfl := Option.some.inj hset
            exact Or.inr (hk ▸ List.mem_cons_self)
          · exact Or.inl hset
        · exact Or.inr (List.mem_cons_of_mem e hmem)
  exact (hfold l empty h).resolve_left (by simp)

theorem get?_ofList {l : List (α × β)} (h : (l.map Prod.fst).Nodup) (k : α) (v : β) :
    (ofList l).get? k = some v ↔ (k, v) ∈ l := by
  rw [get?_eq_some_iff, ofList_entries h]

end Dict

end Runtime
