import VirtualPhone.Runtime.Dict
import VirtualPhone.Runtime.Py

/-! # Two programs side by side

`Py.Simulates R Q x y` compares two programs: from states that `R` relates they come to states that `R`
relates, and they raise the same exception or return results that `Q` relates.  There is one rule for
each kind of statement, so that the proof follows the two programs line by line.

`Dict.Alike R` relates two dictionaries with the same keys in the same order, whose values `R`
relates. -/

namespace Runtime

namespace Py

variable {σ τ α β γ δ : Type}

/-- The same exception, or related results. -/
inductive SameOutcome (Q : α → β → Prop) : Except PyError α → Except PyError β → Prop
  | ok {a : α} {b : β} : Q a b → SameOutcome Q (.ok a) (.ok b)
  | error (e : PyError) : SameOutcome Q (.error e) (.error e)

/-- From related states, two programs come to related states and outcomes. -/
def Simulates (R : σ → τ → Prop) (Q : α → β → Prop) (x : Py σ α) (y : Py τ β) : Prop :=
  ∀ s t, R s t → SameOutcome Q (x.run s).1 (y.run t).1 ∧ R (x.run s).2 (y.run t).2

namespace Simulates

variable {R : σ → τ → Prop} {Q : α → β → Prop} {Q' : γ → δ → Prop}

theorem pure {a : α} {b : β} (h : Q a b) :
    Simulates R Q (Pure.pure a : Py σ α) (Pure.pure b : Py τ β) := fun _ _ hR => ⟨.ok h, hR⟩

theorem raise (e : PyError) : Simulates R Q (Py.raise e) (Py.raise e) := fun _ _ hR => ⟨.error e, hR⟩

theorem get : Simulates R R Py.get Py.get := fun _ _ hR => ⟨.ok hR, hR⟩

theorem modify {f : σ → σ} {g : τ → τ} (h : ∀ s t, R s t → R (f s) (g t)) :
    Simulates R (fun _ _ => True) (Py.modify f) (Py.modify g) := fun s t hR => ⟨.ok trivial, h s t hR⟩

theorem bind {x : Py σ α} {y : Py τ β} {f : α → Py σ γ} {g : β → Py τ δ} (hx : Simulates R Q x y)
    (hf : ∀ a b, Q a b → Simulates R Q' (f a) (g b)) : Simulates R Q' (x >>= f) (y >>= g) := by
  intro s t hR
  obtain ⟨hout, hR'⟩ := hx s t hR
  rcases hrun : x.run s with ⟨r, s'⟩
  rcases hrun' : y.run t with ⟨r', t'⟩
  rw [hrun, hrun'] at hout hR'
  cases hout with
  | ok hQ =>
      rw [run_bind_ok hrun, run_bind_ok hrun']
      exact hf _ _ hQ s' t' hR'
  | error e =>
      rw [run_bind_error hrun, run_bind_error hrun']
      exact ⟨.error e, hR'⟩

end Simulates

end Py

namespace Dict

variable {α β γ : Type} [DecidableEq α]

/-- The same keys in the same order, and related values. -/
structure Alike (R : β → γ → Prop) (d : Dict α β) (e : Dict α γ) : Prop where
  keys : d.keys = e.keys
  values : ∀ k v w, d.get? k = some v → e.get? k = some w → R v w

theorem keys_erase (d : Dict α β) (k : α) : (d.erase k).keys = d.keys.filter (· ≠ k) := by
  unfold erase Dict.keys
  rw [List.filter_map]
  rfl

namespace Alike

variable {R : β → γ → Prop} {d : Dict α β} {e : Dict α γ}

theorem empty : Alike R (Dict.empty : Dict α β) Dict.empty := ⟨rfl, fun k v w h => by cases h⟩

theorem get? (h : Alike R d e) (k : α) :
    (d.get? k = none ∧ e.get? k = none) ∨ ∃ v w, d.get? k = some v ∧ e.get? k = some w ∧ R v w := by
  cases hd : d.get? k with
  | none =>
      refine .inl ⟨rfl, (get?_eq_none_iff _ _).mpr ?_⟩
      rw [← h.keys]
      exact (get?_eq_none_iff _ _).mp hd
  | some v =>
      have hmem := mem_keys_of_get? hd
      rw [h.keys] at hmem
      obtain ⟨w, hw⟩ := (mem_keys_iff _ _).mp hmem
      exact .inr ⟨v, w, rfl, hw, h.values k v w hd hw⟩

theorem set (h : Alike R d e) (k : α) {v : β} {w : γ} (hR : R v w) :
    Alike R (d.set k v) (e.set k w) := by
  refine ⟨?_, fun k' v' w' hv hw => ?_⟩
  · rw [keys_set, keys_set, h.keys]
  · rw [get?_set] at hv hw
    split_ifs at hv hw
    · obtain rfl := Option.some.inj hv
      obtain rfl := Option.some.inj hw
      exact hR
    · exact h.values k' v' w' hv hw

theorem modify (h : Alike R d e) (k : α) {f : β → β} {g : γ → γ} (hR : ∀ v w, R v w → R (f v) (g w)) :
    Alike R (d.modify k f) (e.modify k g) := by
  refine ⟨?_, fun k' v' w' hv hw => ?_⟩
  · rw [keys_modify, keys_modify, h.keys]
  · rw [get?_modify] at hv hw
    split_ifs at hv hw
    · obtain ⟨v, hold, rfl⟩ := Option.map_eq_some_iff.mp hv
      obtain ⟨w, hold', rfl⟩ := Option.map_eq_some_iff.mp hw
      exact hR v w (h.values k' v w hold hold')
    · exact h.values k' v' w' hv hw

theorem erase (h : Alike R d e) (k : α) : Alike R (d.erase k) (e.erase k) := by
  refine ⟨?_, fun k' v' w' hv hw => ?_⟩
  · rw [keys_erase, keys_erase, h.keys]
  · rw [get?_erase] at hv hw
    split_ifs at hv hw
    exact h.values k' v' w' hv hw

end Alike

end Dict

end Runtime
