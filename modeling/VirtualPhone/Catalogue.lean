import VirtualPhone.Euicc

/-! # Catalogues of profiles

What the profile store is for, in its own terms: a `Catalogue` is the partial map from ICCIDs to
profiles, and `Catalogue.Step` lists what a call may do to it, including how far it may get before
a crash.  At most one profile of a well-formed catalogue is enabled; every step keeps it so
(`Step.wellFormed`) and touches nothing else than it is meant to (`Step.frame`, `Step.added`,
`Step.removed`). -/

namespace VirtualPhone

open Runtime

/-- The installed profiles. -/
abbrev Catalogue := Text → Option Isdp

namespace Catalogue

/-- Profile `i` is installed and enabled. -/
def Enabled (c : Catalogue) (i : Text) : Prop := ∃ p, c i = some p ∧ p.state = .enabled

/-- Profiles stand under their own ICCID, which is never empty, and at most one is enabled. -/
structure WellFormed (c : Catalogue) : Prop where
  keyed : ∀ i p, c i = some p → p.iccid = i
  nonempty : c [] = none
  unique : ∀ i j, c.Enabled i → c.Enabled j → i = j

/-- The catalogue with `x` under `i`. -/
def put (c : Catalogue) (i : Text) (x : Option Isdp) : Catalogue := fun j => if j = i then x else c j

/-- The catalogue with the state of profile `i` changed. -/
def switch (c : Catalogue) (i : Text) (st : ProfileState) : Catalogue :=
  c.put i ((c i).map fun p => p.withState st)

@[simp] theorem put_self (c : Catalogue) (i : Text) (x : Option Isdp) : c.put i x i = x := if_pos rfl

theorem put_ne (c : Catalogue) {i j : Text} (x : Option Isdp) (h : j ≠ i) : c.put i x j = c j :=
  if_neg h

theorem put_enabled {c : Catalogue} {i j : Text} {x : Option Isdp} :
    (c.put i x).Enabled j ↔
      if j = i then ∃ p, x = some p ∧ p.state = .enabled else c.Enabled j := by
  unfold Enabled put
  split_ifs <;> rfl

theorem switch_apply (c : Catalogue) (i j : Text) (st : ProfileState) :
    c.switch i st j = if j = i then (c i).map fun p => p.withState st else c j := rfl

theorem switch_enabled {c : Catalogue} {i j : Text} {st : ProfileState} :
    (c.switch i st).Enabled j ↔
      if j = i then st = .enabled ∧ (c i).isSome else c.Enabled j := by
  rw [switch, put_enabled]
  split_ifs
  · cases c i with
    | none => simp
    | some p => simp
  · rfl

/-- The catalogue after the enabled profile, if any, has been disabled. -/
def Released (c c' : Catalogue) : Prop :=
  (∃ j, c.Enabled j ∧ c' = c.switch j .disabled) ∨ ((∀ j, ¬ c.Enabled j) ∧ c' = c)

/-- What a call may do to the catalogue, in full or cut off between two file operations. -/
inductive Step (c : Catalogue) : EuiccOp → Catalogue → Prop
  | stay (op : EuiccOp) : Step c op c
  | install (data : ProfileData) (uuid : Text) (p : Isdp) : data.iccid = some p.iccid →
      c p.iccid = none → p.state = .disabled → Step c (.install data uuid) (c.put p.iccid (some p))
  | release (i : Text) (c' : Catalogue) : (c i).isSome → ¬ c.Enabled i → c.Released c' →
      Step c (.enable i) c'
  | enable (i : Text) (c' : Catalogue) : (c i).isSome → ¬ c.Enabled i → c.Released c' →
      Step c (.enable i) (c'.switch i .enabled)
  | disable (i : Text) : Step c (.disable i) (c.switch i .disabled)
  | delete (i : Text) : Step c (.delete i) (c.put i none)

/-- The state a call is meant to give to profile `i`. -/
def Switches (c : Catalogue) (op : EuiccOp) (i : Text) (st : ProfileState) : Prop :=
  match op with
  | .enable j => (i = j ∧ st = .enabled) ∨ (i ≠ j ∧ c.Enabled i ∧ st = .disabled)
  | .disable j => i = j ∧ st = .disabled
  | _ => False

theorem Released.not_enabled {c c' : Catalogue} (hc : c.WellFormed) (h : c.Released c') (j : Text) :
    ¬ c'.Enabled j := by
  rcases h with ⟨k, hk, rfl⟩ | ⟨hnone, rfl⟩
  · intro hj
    rw [switch_enabled] at hj
    split_ifs at hj with hjk
    · exact absurd hj.1 (by decide)
    · exact hjk (hc.unique j k hj hk)
  · exact hnone j

/-- A release touches the state of the enabled profile only. -/
theorem Released.frame {c c' : Catalogue} (h : c.Released c') (i : Text) :
    c' i = c i ∨ (c.Enabled i ∧ c' i = (c i).map fun p => p.withState .disabled) := by
  rcases h with ⟨k, hk, rfl⟩ | ⟨-, rfl⟩
  · rw [switch_apply]
    split_ifs with hik
    · subst hik
      exact Or.inr ⟨hk, rfl⟩
    · exact Or.inl rfl
  · exact Or.inl rfl

theorem keyed_switch {c : Catalogue} (h : ∀ i p, c i = some p → p.iccid = i) (k : Text)
    (st : ProfileState) : ∀ i p, c.switch k st i = some p → p.iccid = i := by
  intro i p hp
  rw [switch_apply] at hp
  split_ifs at hp with hik
  · obtain ⟨q, hq, rfl⟩ := Option.map_eq_some_iff.mp hp
    exact (h k q hq).trans hik.symm
  · exact h i p hp

theorem nonempty_switch {c : Catalogue} (h : c [] = none) (k : Text) (st : ProfileState) :
    c.switch k st [] = none := by
  rw [switch_apply]
  split_ifs with hk
  · rw [← hk, h]
    rfl
  · exact h

theorem Released.wellFormed {c c' : Catalogue} (hc : c.WellFormed) (h : c.Released c') :
    c'.WellFormed := by
  refine ⟨?_, ?_, fun i j hi => absurd hi (h.not_enabled hc i)⟩
  · rcases h with ⟨k, -, rfl⟩ | ⟨-, rfl⟩
    · exact keyed_switch hc.keyed k _
    · exact hc.keyed
  · rcases h with ⟨k, -, rfl⟩ | ⟨-, rfl⟩
    · exact nonempty_switch hc.nonempty k _
    · exact hc.nonempty

/-- **Every step keeps a catalogue well formed.** -/
theorem Step.wellFormed {c c' : Catalogue} {op : EuiccOp} (hc : c.WellFormed) (hsafe : op.Safe)
    (h : c.Step op c') : c'.WellFormed := by
  cases h with
  | stay => exact hc
  | install data uuid p hdata hnone hst =>
      refine ⟨?_, ?_, ?_⟩
      · intro i q hq
        by_cases hi : i = p.iccid
        · subst hi
          obtain rfl : p = q := by simpa using hq
          rfl
        · exact hc.keyed i q (by rwa [put_ne c _ hi] at hq)
      · have hne : [] ≠ p.iccid := fun he => (hsafe p.iccid hdata).1 he.symm
        rw [put_ne c _ hne, hc.nonempty]
      · have hold : ∀ i, (c.put p.iccid (some p)).Enabled i → c.Enabled i := by
          intro i hi
          rw [put_enabled] at hi
          split_ifs at hi with hip
          · obtain ⟨q, hq, hen⟩ := hi
            obtain rfl := Option.some.inj hq
            rw [hst] at hen
            exact absurd hen (by decide)
          · exact hi
        exact fun i j hi hj => hc.unique i j (hold i hi) (hold j hj)
  | release i _ _ _ hrel => exact hrel.wellFormed hc
  | enable i c₁ hsome _ hrel =>
      have hc₁ := hrel.wellFormed hc
      refine ⟨keyed_switch hc₁.keyed i _, nonempty_switch hc₁.nonempty i _, ?_⟩
      have honly : ∀ j, (c₁.switch i .enabled).Enabled j → j = i := by
        intro j hj
        rw [switch_enabled] at hj
        split_ifs at hj with hji
        · exact hji
        · exact absurd hj (hrel.not_enabled hc j)
      exact fun j k hj hk => (honly j hj).trans (honly k hk).symm
  | disable i =>
      refine ⟨keyed_switch hc.keyed i _, nonempty_switch hc.nonempty i _, ?_⟩
      have hold : ∀ j, (c.switch i .disabled).Enabled j → c.Enabled j := by
        intro j hj
        rw [switch_enabled] at hj
        split_ifs at hj with hji
        · exact absurd hj.1 (by decide)
        · exact hj
      exact fun j k hj hk => hc.unique j k (hold j hj) (hold k hk)
  | delete i =>
      have hold : ∀ j p, c.put i none j = some p → c j = some p := by
        intro j p hp
        by_cases hj : j = i
        · subst hj
          simp at hp
        · rwa [put_ne c _ hj] at hp
      refine ⟨fun j p hp => hc.keyed j p (hold j p hp), ?_, ?_⟩
      · unfold put
        split_ifs
        · rfl
        · exact hc.nonempty
      · rintro j k ⟨p, hp, hpe⟩ ⟨q, hq, hqe⟩
        exact hc.unique j k ⟨p, hold j p hp, hpe⟩ ⟨q, hold k q hq, hqe⟩

/-- **Frame.**  A profile that stays installed keeps every field but its state, and its state
changes only as the call is meant to change it. -/
theorem Step.frame {c c' : Catalogue} {op : EuiccOp} (h : c.Step op c') {i : Text} {p q : Isdp}
    (hp : c i = some p) (hq : c' i = some q) :
    q = p.withState q.state ∧ (q.state = p.state ∨ c.Switches op i q.state) := by
  have hsame : c' i = c i → q = p.withState q.state ∧
      (q.state = p.state ∨ c.Switches op i q.state) := by
    intro he
    obtain rfl : p = q := by rw [he, hp] at hq; exact Option.some.inj hq
    exact ⟨rfl, Or.inl rfl⟩
  cases h with
  | stay => exact hsame rfl
  | install data uuid r hdata hnone hst =>
      refine hsame (put_ne c _ ?_)
      rintro rfl
      rw [hnone] at hp
      cases hp
  | release j _ hsome hnot hrel =>
      rcases hrel.frame i with he | ⟨hen, he⟩
      · exact hsame he
      · rw [he, hp] at hq
        obtain rfl := Option.some.inj hq
        refine ⟨rfl, Or.inr (Or.inr ⟨?_, hen, rfl⟩)⟩
        rintro rfl
        exact hnot hen
  | enable j c₁ hsome hnot hrel =>
      by_cases hij : i = j
      · subst hij
        have hc₁ : c₁ i = c i := by
          rcases hrel.frame i with he | ⟨hen, -⟩
          · exact he
          · exact absurd hen hnot
        rw [switch_apply, if_pos rfl, hc₁, hp] at hq
        obtain rfl := Option.some.inj hq
        exact ⟨rfl, Or.inr (Or.inl ⟨rfl, rfl⟩)⟩
      · rw [switch_apply, if_neg hij] at hq
        rcases hrel.frame i with he | ⟨hen, he⟩
        · rw [he, hp] at hq
          obtain rfl := Option.some.inj hq
          exact ⟨rfl, Or.inl rfl⟩
        · rw [he, hp] at hq
          obtain rfl := Option.some.inj hq
          exact ⟨rfl, Or.inr (Or.inr ⟨hij, hen, rfl⟩)⟩
  | disable j =>
      by_cases hij : i = j
      · subst hij
        rw [switch_apply, if_pos rfl, hp] at hq
        obtain rfl := Option.some.inj hq
        exact ⟨rfl, Or.inr ⟨rfl, rfl⟩⟩
      · exact hsame (by rw [switch_apply, if_neg hij])
  | delete j =>
      refine hsame (put_ne c _ ?_)
      rintro rfl
      simp at hq

theorem isSome_switch (c : Catalogue) (k j : Text) (st : ProfileState) :
    (c.switch k st j).isSome = (c j).isSome := by
  rw [switch_apply]
  split_ifs with h
  · rw [h, Option.isSome_map]
  · rfl

theorem Released.isSome {c c' : Catalogue} (h : c.Released c') (j : Text) :
    (c' j).isSome = (c j).isSome := by
  rcases h with ⟨k, -, rfl⟩ | ⟨-, rfl⟩
  · exact isSome_switch c k j _
  · rfl

/-- Only an installation adds a profile, under its own ICCID. -/
theorem Step.added {c c' : Catalogue} {op : EuiccOp} (h : c.Step op c') {i : Text}
    (hi : c i = none) (hi' : (c' i).isSome) :
    ∃ data uuid, op = .install data uuid ∧ data.iccid = some i := by
  have hnot : (c i).isSome = false := by rw [hi]; rfl
  cases h with
  | stay => rw [hi] at hi'; cases hi'
  | install data uuid p hdata _ _ =>
      by_cases hip : i = p.iccid
      · exact ⟨data, uuid, rfl, by rw [hdata, hip]⟩
      · rw [put_ne c _ hip, hi] at hi'
        cases hi'
  | release _ _ _ _ hrel => rw [hrel.isSome, hnot] at hi'; cases hi'
  | enable _ _ _ _ hrel => rw [isSome_switch, hrel.isSome, hnot] at hi'; cases hi'
  | disable _ => rw [isSome_switch, hnot] at hi'; cases hi'
  | delete j =>
      unfold put at hi'
      split_ifs at hi'
      · cases hi'
      · rw [hnot] at hi'; cases hi'

/-- Only a deletion removes a profile, the one it names. -/
theorem Step.removed {c c' : Catalogue} {op : EuiccOp} (h : c.Step op c') {i : Text}
    (hi : (c i).isSome) (hi' : c' i = none) : op = .delete i := by
  have hnot : (c' i).isSome = false := by rw [hi']; rfl
  cases h with
  | stay => rw [hnot] at hi; cases hi
  | install data uuid p _ hnone _ =>
      by_cases hip : i = p.iccid
      · rw [hip, hnone] at hi; cases hi
      · rw [put_ne c _ hip] at hnot
        rw [hnot] at hi; cases hi
  | release _ _ _ _ hrel => rw [hrel.isSome, hi] at hnot; cases hnot
  | enable _ _ _ _ hrel => rw [isSome_switch, hrel.isSome, hi] at hnot; cases hnot
  | disable _ => rw [isSome_switch, hi] at hnot; cases hnot
  | delete j =>
      unfold put at hnot
      split_ifs at hnot with hij
      · rw [hij]
      · rw [hnot] at hi; cases hi

/-- A call of `enable i`, complete or cut off, enables nothing but `i`. -/
theorem Step.enabled_enable {c c' : Catalogue} {i j : Text} (hc : c.WellFormed)
    (h : c.Step (.enable i) c') (hj : c'.Enabled j) : c.Enabled j ∨ j = i := by
  cases h with
  | stay => exact Or.inl hj
  | release _ _ _ _ hrel => exact absurd hj (hrel.not_enabled hc j)
  | enable _ c₁ _ _ hrel =>
      rw [switch_enabled] at hj
      split_ifs at hj with hji
      · exact Or.inr hji
      · exact absurd hj (hrel.not_enabled hc j)

theorem Step.isSome_enable {c c' : Catalogue} {i : Text} (h : c.Step (.enable i) c') (j : Text) :
    (c' j).isSome = (c j).isSome := by
  cases h with
  | stay => rfl
  | release _ _ _ _ hrel => exact hrel.isSome j
  | enable _ _ _ _ hrel => rw [isSome_switch, hrel.isSome]

end Catalogue

end VirtualPhone
