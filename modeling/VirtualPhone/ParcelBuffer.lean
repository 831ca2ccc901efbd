import Mathlib.Data.List.TakeWhile
import VirtualPhone.Parcel

/-! # The buffer of a Parcel (`parcel_t`)

A `parcel_t` is a block of memory with its capacity, a position to write at and one to read from.  The
block grows by doubling, and what `realloc` adds may hold anything.  A store past the end of the block
is undefined: here it fails.

The octets before the write position are the Parcel that `parcelBytes` lays out, as long as the writes
begin at a multiple of four (`writeItem_spec`), and no store fails.  Reading takes the values out again
(`parcel_codec`). -/

namespace VirtualPhone

open Runtime

/-- `parcel_t`. -/
structure Parcel where
  buf : Bytes
  cap : ℕ
  len : ℕ
  pos : ℕ
deriving DecidableEq

namespace Parcel

/-! ### Writing -/

/-- `parcel_init(p, cap)`. -/
def init (cap : ℕ) : Parcel := { buf := List.replicate cap 0, cap := cap, len := 0, pos := 0 }

/-- `p->buf[i] = b`. -/
def store (i : ℕ) (b : UInt8) (p : Parcel) : Option Parcel :=
  if i < p.buf.length then some { p with buf := p.buf.set i b } else none

/-- `memcpy(p->buf + i, data, ..)`. -/
def copy (i : ℕ) : Bytes → Parcel → Option Parcel
  | [], p => some p
  | b :: data, p => (p.store i b).bind (copy (i + 1) data)

/-- Octets stored at the write position, which moves behind them. -/
def put (data : Bytes) (p : Parcel) : Option Parcel :=
  (p.copy p.len data).map fun p => { p with len := p.len + data.length }

section

variable (fresh : ℕ → ℕ → UInt8)

/-- `p->cap *= 2` and `realloc`; the octets past the old ones hold what `fresh` says of the new
capacity. -/
def grow (p : Parcel) : Parcel :=
  { p with
    buf := p.buf ++ (List.range (p.cap * 2 - p.buf.length)).map (fresh (p.cap * 2))
    cap := p.cap * 2 }

/-- `parcel_ensure(p, need)`; it does not end for a Parcel without capacity. -/
def ensure (need : ℕ) (p : Parcel) : Option Parcel :=
  if p.len + need ≤ p.cap then some p
  else if p.cap = 0 then none
  else ensure need (p.grow fresh)
termination_by p.len + need - p.cap
decreasing_by
  simp only [grow]
  omega

/-- `parcel_write_i32(p, v)`. -/
def writeI32 (v : ℤ) (p : Parcel) : Option Parcel := (p.ensure fresh 4).bind (put (le32 v))

/-- The loop over the characters of a string. -/
def putUnits : Text → Parcel → Option Parcel
  | [], p => some p
  | c :: s, p => (p.put [UInt8.ofNat c.toNat, 0]).bind (putUnits s)

/-- `while (p->len % 4) p->buf[p->len++] = 0`. -/
def padZeros (p : Parcel) : Option Parcel :=
  if p.len % 4 = 0 then some p
  else match p.store p.len 0 with
    | none => none
    | some q => padZeros { q with len := p.len + 1 }
termination_by (4 - p.len % 4) % 4
decreasing_by
  omega

/-- `parcel_write_str16(p, s)`. -/
def writeStr16 : Option Text → Parcel → Option Parcel
  | none, p => p.writeI32 fresh (-1)
  | some s, p => do
      let s := cstr s
      let charCount := s.length
      let p ← p.writeI32 fresh charCount
      let byteLen := (charCount + 1) * 2
      let padded := (byteLen + 3) / 4 * 4
      let p ← p.ensure fresh padded
      let p ← p.putUnits s
      let p ← p.put [0, 0]
      p.padZeros

/-- The write of a value. -/
def writeItem : ParcelItem → Parcel → Option Parcel
  | .i32 v, p => p.writeI32 fresh v
  | .str16 s, p => p.writeStr16 fresh s

/-- The writes of the values, one after the other. -/
def writeAll : List ParcelItem → Parcel → Option Parcel
  | [], p => some p
  | item :: items, p => (p.writeItem fresh item).bind (writeAll items)

end

/-! ### Reading -/

/-- `parcel_read_i32(p)`. -/
def readI32 (p : Parcel) : ℤ × Parcel :=
  if p.pos + 4 > p.len then (0, p)
  else (fromLE32 ((p.buf.drop p.pos).take 4), { p with pos := p.pos + 4 })

/-- A unit as a character. -/
def asciiOfUnit (low high : UInt8) : Char :=
  let c := low.toNat + 256 * high.toNat
  if c < 128 then Char.ofNat c else '?'

/-- `parcel_read_str16(p)`. -/
def readStr16 (p : Parcel) : Option Text × Parcel :=
  let (charCount, p) := p.readI32
  if charCount < 0 then (none, p)
  else
    let byteLen := (charCount.toNat + 1) * 2
    let padded := (byteLen + 3) / 4 * 4
    if p.pos + padded > p.len then (none, { p with pos := p.len })
    else
      let out := (List.range charCount.toNat).map fun i =>
        asciiOfUnit (p.buf.getD (p.pos + i * 2) 0) (p.buf.getD (p.pos + i * 2 + 1) 0)
      (some out, { p with pos := p.pos + padded })

end Parcel

/-- The kinds of values. -/
inductive ParcelKind
  | i32
  | str16
deriving DecidableEq

def ParcelItem.kind : ParcelItem → ParcelKind
  | i32 _ => .i32
  | str16 _ => .str16

namespace Parcel

/-- The read of a value of a kind. -/
def readItem (p : Parcel) : ParcelKind → ParcelItem × Parcel
  | .i32 => (.i32 p.readI32.1, p.readI32.2)
  | .str16 => (.str16 p.readStr16.1, p.readStr16.2)

/-- The reads of values of these kinds, one after the other. -/
def readAll : List ParcelKind → Parcel → List ParcelItem
  | [], _ => []
  | kind :: kinds, p => (p.readItem kind).1 :: readAll kinds (p.readItem kind).2

/-! ### Stores -/

/-- The octets that have been written. -/
def contents (p : Parcel) : Bytes := p.buf.take p.len

/-- `q` is `p` with octets behind the others. -/
structure Extends (p : Parcel) (data : Bytes) (q : Parcel) : Prop where
  contents : q.contents = p.contents ++ data
  len : q.len = p.len + data.length
  pos : q.pos = p.pos

/-- The octets are in the same block. -/
structure Appends (p : Parcel) (data : Bytes) (q : Parcel) : Prop extends Extends p data q where
  alloc : q.buf.length = p.buf.length
  cap : q.cap = p.cap

theorem Extends.trans {p q r : Parcel} {d e : Bytes} (h : Extends p d q) (h' : Extends q e r) :
    Extends p (d ++ e) r where
  contents := by rw [h'.contents, h.contents, List.append_assoc]
  len := by rw [h'.len, h.len, List.length_append, Nat.add_assoc]
  pos := h'.pos.trans h.pos

theorem Appends.refl (p : Parcel) : Appends p [] p where
  contents := (List.append_nil _).symm
  len := rfl
  pos := rfl
  alloc := rfl
  cap := rfl

theorem Appends.trans {p q r : Parcel} {d e : Bytes} (h : Appends p d q) (h' : Appends q e r) :
    Appends p (d ++ e) r where
  toExtends := h.toExtends.trans h'.toExtends
  alloc := h'.alloc.trans h.alloc
  cap := h'.cap.trans h.cap

theorem copy_spec (data : Bytes) (i : ℕ) (p : Parcel) (h : i + data.length ≤ p.buf.length) :
    p.copy i data = some { p with buf := p.buf.take i ++ data ++ p.buf.drop (i + data.length) } := by
  induction data generalizing i p with
  | nil => simp [copy]
  | cons b data ih =>
      rw [List.length_cons] at h
      have hlt : i < p.buf.length := by omega
      rw [copy, store, if_pos hlt, Option.bind_some, ih _ _ (by simpa using by omega)]
      have htake : (p.buf.set i b).take (i + 1) = p.buf.take i ++ [b] := by
        rw [List.take_succ_eq_append_getElem (by simpa using hlt), List.take_set_of_le le_rfl]
        simp
      have hdrop : (p.buf.set i b).drop (i + 1 + data.length) = p.buf.drop (i + (b :: data).length) := by
        rw [List.drop_set_of_lt (by omega), List.length_cons]
        congr 1
        omega
      simp only [htake, hdrop, List.append_assoc, List.singleton_append]

theorem put_spec (data : Bytes) (p : Parcel) (h : p.len + data.length ≤ p.buf.length) :
    ∃ q, p.put data = some q ∧ Appends p data q := by
  refine ⟨_, by rw [put, copy_spec data p.len p h]; rfl, ?_⟩
  have hlength : (p.buf.take p.len).length = p.len := by
    rw [List.length_take]
    omega
  refine ⟨⟨?_, rfl, rfl⟩, ?_, rfl⟩
  · show (p.buf.take p.len ++ data ++ p.buf.drop (p.len + data.length)).take (p.len + data.length) = _
    rw [List.take_left' (by rw [List.length_append, hlength])]
    rfl
  · show (p.buf.take p.len ++ data ++ p.buf.drop (p.len + data.length)).length = _
    simp only [List.length_append, hlength, List.length_drop]
    omega

theorem putUnits_spec (s : Text) (p : Parcel) (h : p.len + 2 * s.length ≤ p.buf.length) :
    ∃ q, p.putUnits s = some q ∧ Appends p (units16 s) q := by
  induction s generalizing p with
  | nil => exact ⟨p, rfl, Appends.refl p⟩
  | cons c s ih =>
      rw [List.length_cons] at h
      obtain ⟨q, hq, happ⟩ := put_spec [UInt8.ofNat c.toNat, 0] p (by simpa using by omega)
      obtain ⟨r, hr, happ'⟩ := ih q (by rw [happ.len, happ.alloc]; simpa using by omega)
      refine ⟨r, by rw [putUnits, hq, Option.bind_some, hr], ?_⟩
      exact happ.trans happ'

theorem padZeros_spec (p : Parcel) (h : p.len + (4 - p.len % 4) % 4 ≤ p.buf.length) :
    ∃ q, p.padZeros = some q ∧ Appends p (List.replicate ((4 - p.len % 4) % 4) 0) q := by
  fun_induction padZeros p with
  | case1 p hzero =>
      refine ⟨p, rfl, ?_⟩
      rw [hzero]
      exact Appends.refl p
  | case2 p hne hstore =>
      rw [store, if_pos (by omega)] at hstore
      cases hstore
  | case3 p hne q hstore ih =>
      obtain ⟨r, hr, happ⟩ := put_spec [0] p (by rw [List.length_singleton]; omega)
      have hput : p.put [0] = some { q with len := p.len + 1 } := by
        have hlen : q.len = p.len := by
          rw [store, if_pos (by omega)] at hstore
          obtain rfl := Option.some.inj hstore
          rfl
        rw [put, copy, hstore, Option.bind_some, copy, Option.map_some, List.length_singleton, hlen]
      obtain rfl := Option.some.inj (hput.symm.trans hr)
      obtain ⟨t, ht, happ'⟩ := ih <| by
        rw [happ.alloc]
        show p.len + 1 + (4 - (p.len + 1) % 4) % 4 ≤ p.buf.length
        omega
      refine ⟨t, ht, ?_⟩
      have hzeros : List.replicate ((4 - p.len % 4) % 4) (0 : UInt8) =
          [0] ++ List.replicate ((4 - (p.len + 1) % 4) % 4) 0 := by
        rw [show (4 - p.len % 4) % 4 = (4 - (p.len + 1) % 4) % 4 + 1 by omega, List.replicate_succ]
        rfl
      rw [hzeros]
      exact happ.trans happ'

/-! ### Growing -/

/-- The block is as large as the capacity says, and holds what is written. -/
structure Ready (p : Parcel) : Prop where
  alloc : p.buf.length = p.cap
  cap : 0 < p.cap
  len : p.len ≤ p.cap

theorem Ready.contents_length {p : Parcel} (h : Ready p) : p.contents.length = p.len := by
  have halloc := h.alloc
  have hlen := h.len
  rw [contents, List.length_take]
  omega

theorem Appends.ready {p q : Parcel} {data : Bytes} (happ : Appends p data q) (h : Ready p)
    (hroom : p.len + data.length ≤ p.cap) : Ready q where
  alloc := by rw [happ.alloc, happ.cap, h.alloc]
  cap := happ.cap ▸ h.cap
  len := by rw [happ.len, happ.cap]; exact hroom

section

variable (fresh : ℕ → ℕ → UInt8)

theorem grow_ready {p : Parcel} (h : Ready p) : Ready (p.grow fresh) ∧ Extends p [] (p.grow fresh) := by
  have halloc := h.alloc
  have hcap := h.cap
  have hlen := h.len
  refine ⟨⟨?_, ?_, ?_⟩, ?_, rfl, rfl⟩
  · simp only [grow, List.length_append, List.length_map, List.length_range]
    omega
  · simp only [grow]
    omega
  · simp only [grow]
    omega
  · show (p.buf ++ _).take p.len = _
    rw [List.take_append_of_le_length (by omega), List.append_nil]
    rfl

/-- There is room after `parcel_ensure`, and what is written is still there. -/
theorem ensure_spec (need : ℕ) {p : Parcel} (h : Ready p) :
    ∃ q, p.ensure fresh need = some q ∧ Ready q ∧ Extends p [] q ∧ q.len + need ≤ q.cap := by
  fun_induction ensure fresh need p with
  | case1 p hroom => exact ⟨p, rfl, h, (Appends.refl p).toExtends, hroom⟩
  | case2 p hroom hzero => exact absurd h.cap (by omega)
  | case3 p hroom hcap ih =>
      obtain ⟨hready, hgrow⟩ := grow_ready fresh h
      obtain ⟨q, hq, hready', hext, hroom'⟩ := ih hready
      exact ⟨q, hq, hready', hgrow.trans hext, hroom'⟩

/-! ### Values -/

theorem writeI32_spec (v : ℤ) {p : Parcel} (h : Ready p) :
    ∃ q, p.writeI32 fresh v = some q ∧ Ready q ∧ Extends p (le32 v) q := by
  obtain ⟨q, hq, hready, hext, hroom⟩ := ensure_spec fresh 4 h
  have hfits : q.len + (le32 v).length ≤ q.cap := by rwa [le32_length]
  obtain ⟨r, hr, happ⟩ := put_spec (le32 v) q (by rwa [hready.alloc])
  refine ⟨r, by rw [writeI32, hq, Option.bind_some, hr], happ.ready hready hfits, ?_⟩
  exact hext.trans happ.toExtends

theorem cstr_eq_self {s : Text} (h : '\x00' ∉ s) : cstr s = s := by
  rw [cstr, List.takeWhile_eq_self_iff]
  exact fun c hc => decide_eq_true fun heq => h (heq ▸ hc)

/-- A string goes behind what is written, and ends at a multiple of four. -/
theorem writeStr16_spec {s : Text} (hs : '\x00' ∉ s) {p : Parcel} (h : Ready p) (haligned : p.len % 4 = 0) :
    ∃ q, p.writeStr16 fresh (some s) = some q ∧ Ready q ∧ q.len % 4 = 0 ∧ q.pos = p.pos ∧
      q.contents = (ParcelItem.str16 (some s)).write p.contents := by
  obtain ⟨q₁, hq₁, hready₁, hext₁⟩ := writeI32_spec fresh s.length h
  have hlen₁ := hext₁.len
  rw [le32_length] at hlen₁
  obtain ⟨q₂, hq₂, hready₂, hext₂, hroom⟩ := ensure_spec fresh (((s.length + 1) * 2 + 3) / 4 * 4) hready₁
  have hlen₂ := hext₂.len
  rw [List.length_nil, Nat.add_zero] at hlen₂
  have halloc := hready₂.alloc
  obtain ⟨q₃, hq₃, happ₃⟩ := putUnits_spec s q₂ (by omega)
  have hlen₃ := happ₃.len
  rw [units16_length] at hlen₃
  obtain ⟨q₄, hq₄, happ₄⟩ := put_spec [0, 0] q₃ (by
    rw [happ₃.alloc, List.length_cons, List.length_singleton]
    omega)
  have hlen₄ := happ₄.len
  rw [List.length_cons, List.length_singleton] at hlen₄
  have halloc₄ := happ₄.alloc.trans happ₃.alloc
  obtain ⟨q₅, hq₅, happ₅⟩ := padZeros_spec q₄ (by omega)
  have hlen₅ := happ₅.len
  rw [List.length_replicate] at hlen₅
  have happ := (happ₃.trans happ₄).trans happ₅
  have hext := (hext₁.trans hext₂).trans happ.toExtends
  refine ⟨q₅, ?_, happ.ready hready₂ ?_, by omega, hext.pos, ?_⟩
  · simp only [writeStr16, cstr_eq_self hs, hq₁, hq₂, hq₃, hq₄, hq₅, Option.bind_eq_bind, Option.bind_some]
  · simp only [List.length_append, units16_length, List.length_cons, List.length_nil, List.length_replicate]
    omega
  · have hlength := h.contents_length
    have hpad : (p.contents ++ le32 s.length ++ units16 s ++ [0, 0]).length % 4 = q₄.len % 4 := by
      simp only [List.length_append, le32_length, units16_length, List.length_cons, List.length_nil]
      omega
    rw [hext.contents, ParcelItem.write, pad4, hpad]
    simp only [List.append_assoc, List.append_nil]

end

end Parcel

/-- The values that can be read back: integers of 32 bits, null, and strings of ASCII characters. -/
def ParcelItem.Codable : ParcelItem → Prop
  | i32 v => -2 ^ 31 ≤ v ∧ v < 2 ^ 31
  | str16 none => True
  | str16 (some s) => ∀ c ∈ s, 0 < c.toNat ∧ c.toNat < 128

namespace Parcel

section

variable (fresh : ℕ → ℕ → UInt8)

/-- **One write**: it does what `ParcelItem.write` says, inside the block, and the length stays a
multiple of four. -/
theorem writeItem_spec {item : ParcelItem} (hitem : item.Codable) {p : Parcel} (h : Ready p)
    (haligned : p.len % 4 = 0) :
    ∃ q, p.writeItem fresh item = some q ∧ Ready q ∧ q.len % 4 = 0 ∧ q.pos = p.pos ∧
      q.contents = item.write p.contents := by
  have hinteger : ∀ v, ∃ q, p.writeI32 fresh v = some q ∧ Ready q ∧ q.len % 4 = 0 ∧ q.pos = p.pos ∧
      q.contents = p.contents ++ le32 v := by
    intro v
    obtain ⟨q, hq, hready, hext⟩ := writeI32_spec fresh v h
    have hlen := hext.len
    rw [le32_length] at hlen
    exact ⟨q, hq, hready, by omega, hext.pos, hext.contents⟩
  rcases item with v | _ | s
  · exact hinteger v
  · exact hinteger (-1)
  · refine writeStr16_spec fresh (fun hmem => ?_) h haligned
    exact absurd (hitem _ hmem).1 (by decide)

theorem writeAll_spec {items : List ParcelItem} (hitems : ∀ item ∈ items, item.Codable) {p : Parcel}
    (h : Ready p) (haligned : p.len % 4 = 0) :
    ∃ q, p.writeAll fresh items = some q ∧ Ready q ∧ q.len % 4 = 0 ∧ q.pos = p.pos ∧
      q.contents = items.foldl ParcelItem.write p.contents := by
  induction items generalizing p with
  | nil => exact ⟨p, rfl, h, haligned, rfl, rfl⟩
  | cons item items ih =>
      obtain ⟨q, hq, hready, haligned', hpos, hcontents⟩ :=
        writeItem_spec fresh (hitems item List.mem_cons_self) h haligned
      obtain ⟨r, hr, hready', haligned'', hpos', hcontents'⟩ :=
        ih (fun i hi => hitems i (List.mem_cons_of_mem item hi)) hready haligned'
      refine ⟨r, by rw [writeAll, hq, Option.bind_some, hr], hready', haligned'', hpos'.trans hpos, ?_⟩
      rw [hcontents', hcontents, List.foldl_cons]

theorem init_ready {cap : ℕ} (h : 0 < cap) : Ready (init cap) where
  alloc := List.length_replicate
  cap := h
  len := Nat.zero_le cap

end

/-! ### Blocks of octets -/

end Parcel

theorem fromLE32_le32 {v : ℤ} (h : -2 ^ 31 ≤ v ∧ v < 2 ^ 31) : fromLE32 (le32 v) = v := by
  unfold fromLE32 le32
  rw [List.reverse_reverse, fromBE_beBytes]
  have hnonneg : 0 ≤ v % 2 ^ 32 := Int.emod_nonneg _ (by decide)
  have hlt : (v % 2 ^ 32).toNat < 256 ^ 4 := by
    have := Int.emod_lt_of_pos v (show (0 : ℤ) < 2 ^ 32 by decide)
    norm_num
    omega
  rw [Nat.mod_eq_of_lt hlt, Int.toNat_of_nonneg hnonneg]
  have hbmod : (v % 2 ^ 32).bmod (2 ^ 32) = v.bmod (2 ^ 32) := by
    rw [← Int.emod_bmod v (2 ^ 32), Nat.cast_pow, Nat.cast_ofNat]
  rw [hbmod]
  exact Int.bmod_eq_of_le (by omega) (by omega)

theorem asciiOfUnits_units16 {s : Text} (h : ∀ c ∈ s, 0 < c.toNat ∧ c.toNat < 128) :
    asciiOfUnits (units16 s) = s := by
  induction s with
  | nil => rfl
  | cons c s ih =>
      obtain ⟨⟨-, hc⟩, hs⟩ := List.forall_mem_cons.mp h
      have hlow : (UInt8.ofNat c.toNat).toNat = c.toNat := by
        rw [UInt8.toNat_ofNat']
        omega
      have hunits : units16 (c :: s) = UInt8.ofNat c.toNat :: 0 :: units16 s := rfl
      rw [hunits, asciiOfUnits, ih hs, hlow, UInt8.toNat_zero, if_pos (by omega), Char.ofNat_toNat]

/-- The octets of a value at a multiple of four. -/
def ParcelItem.block (item : ParcelItem) : Bytes := item.write []

theorem ParcelItem.write_aligned {buf : Bytes} (h : buf.length % 4 = 0) (item : ParcelItem) :
    item.write buf = buf ++ item.block := by
  rcases item with v | _ | s
  · rfl
  · rfl
  · have hpad : (buf ++ le32 s.length ++ units16 s ++ [0, 0]).length % 4 =
        ([] ++ le32 s.length ++ units16 s ++ [0, 0]).length % 4 := by
      simp only [List.length_append, List.nil_append]
      omega
    rw [block, write, write, pad4, pad4, hpad]
    simp only [List.append_assoc, List.nil_append]

theorem ParcelItem.block_aligned (item : ParcelItem) : item.block.length % 4 = 0 := by
  rcases item with v | _ | s
  · rw [block, write, List.nil_append, le32_length]
  · rw [block, write, List.nil_append, le32_length]
  · rw [block, write, pad4, List.length_append, List.length_replicate]
    omega

theorem foldl_write_aligned (items : List ParcelItem) {buf : Bytes} (h : buf.length % 4 = 0) :
    items.foldl ParcelItem.write buf = buf ++ items.flatMap ParcelItem.block := by
  induction items generalizing buf with
  | nil => simp
  | cons item items ih =>
      have haligned : (buf ++ item.block).length % 4 = 0 := by
        rw [List.length_append]
        have := item.block_aligned
        omega
      rw [List.foldl_cons, item.write_aligned h, ih haligned, List.flatMap_cons, List.append_assoc]

theorem parcelReadI32_le32 {v : ℤ} (h : -2 ^ 31 ≤ v ∧ v < 2 ^ 31) (rest : Bytes) :
    parcelReadI32 (le32 v ++ rest) = (v, rest) := by
  have hlength : ¬(le32 v ++ rest).length < 4 := by
    rw [List.length_append, le32_length]
    omega
  rw [parcelReadI32, if_neg hlength, List.take_left' (le32_length v), List.drop_left' (le32_length v),
    fromLE32_le32 h]

/-- The block of a string: its length, its units, and zeros up to what `parcel_read_str16` skips. -/
theorem block_string (s : Text) :
    ∃ zeros, (ParcelItem.str16 (some s)).block = le32 s.length ++ (units16 s ++ zeros) ∧
      (units16 s ++ zeros).length = ((s.length + 1) * 2 + 3) / 4 * 4 := by
  refine ⟨[0, 0] ++ List.replicate ((4 - (le32 s.length ++ units16 s ++ [0, 0]).length % 4) % 4) 0, ?_, ?_⟩
  · rw [ParcelItem.block, ParcelItem.write, pad4, List.nil_append]
    simp only [List.append_assoc]
  · simp only [List.length_append, units16_length, le32_length, List.length_replicate, List.length_cons,
      List.length_nil]
    omega

theorem parcelReadStr16_block {s : Text} (hs : ∀ c ∈ s, 0 < c.toNat ∧ c.toNat < 128)
    (hlength : s.length < 2 ^ 31) (rest : Bytes) :
    parcelReadStr16 ((ParcelItem.str16 (some s)).block ++ rest) = (some s, rest) := by
  obtain ⟨zeros, hblock, hpadded⟩ := block_string s
  have hread := @parcelReadI32_le32 (s.length : ℤ) (by omega) ((units16 s ++ zeros) ++ rest)
  have hunits : (units16 s ++ zeros ++ rest).take (s.length * 2) = units16 s := by
    rw [List.append_assoc, List.take_left' (by rw [units16_length, Nat.mul_comm])]
  have hfits : ¬(units16 s ++ zeros ++ rest).length < ((s.length + 1) * 2 + 3) / 4 * 4 := by
    rw [List.length_append, hpadded]
    omega
  rw [parcelReadStr16, hblock, List.append_assoc, hread]
  dsimp only
  rw [if_neg (by omega), Int.toNat_natCast, if_neg hfits, hunits, asciiOfUnits_units16 hs,
    List.drop_left' hpadded]

theorem parcelReadStr16_null (rest : Bytes) :
    parcelReadStr16 ((ParcelItem.str16 none).block ++ rest) = (none, rest) := by
  have hread := @parcelReadI32_le32 (-1) (by decide) rest
  have hblock : (ParcelItem.str16 none).block = le32 (-1) := rfl
  rw [parcelReadStr16, hblock, hread]
  rfl

namespace Parcel

/-! ### Reading back -/

/-- The octets that have been written and not read. -/
def remaining (p : Parcel) : Bytes := p.contents.drop p.pos

/-- The positions are in order, and in the block. -/
structure Readable (p : Parcel) : Prop where
  pos : p.pos ≤ p.len
  len : p.len ≤ p.buf.length

theorem Readable.remaining_length {p : Parcel} (h : Readable p) : p.remaining.length = p.len - p.pos := by
  have hlen := h.len
  rw [remaining, contents, List.length_drop, List.length_take]
  omega

theorem take_remaining {p : Parcel} {n : ℕ} (hn : p.pos + n ≤ p.len) :
    (p.buf.drop p.pos).take n = p.remaining.take n := by
  rw [remaining, contents, List.drop_take, List.take_take, Nat.min_eq_left (by omega)]

theorem getD_remaining {p : Parcel} {i : ℕ} (hi : p.pos + i < p.len) :
    p.buf.getD (p.pos + i) 0 = p.remaining.getD i 0 := by
  simp only [remaining, contents, List.getD_eq_getElem?_getD, List.getElem?_drop, List.getElem?_take, hi,
    if_true]

theorem Readable.skip {p : Parcel} (h : Readable p) {n : ℕ} (hn : p.pos + n ≤ p.len) :
    Readable { p with pos := p.pos + n } ∧
      ({ p with pos := p.pos + n } : Parcel).remaining = p.remaining.drop n :=
  ⟨⟨hn, h.len⟩, by rw [remaining, remaining, List.drop_drop]; rfl⟩

/-- `parcel_read_i32` on the block is `parcelReadI32` on what has not been read. -/
theorem readI32_spec {p : Parcel} (h : Readable p) :
    p.readI32.1 = (parcelReadI32 p.remaining).1 ∧ p.readI32.2.remaining = (parcelReadI32 p.remaining).2 ∧
      Readable p.readI32.2 := by
  have hlength := h.remaining_length
  have hpos := h.pos
  unfold readI32 parcelReadI32
  by_cases hshort : p.pos + 4 > p.len
  · rw [if_pos hshort, if_pos (by omega)]
    exact ⟨rfl, rfl, h⟩
  · obtain ⟨hreadable, hskip⟩ := h.skip (n := 4) (by omega)
    rw [if_neg hshort, if_neg (by omega), take_remaining (by omega)]
    exact ⟨rfl, hskip, hreadable⟩

theorem asciiOfUnits_cons (low high : UInt8) (d : Bytes) :
    asciiOfUnits (low :: high :: d) = asciiOfUnit low high :: asciiOfUnits d := by
  rw [asciiOfUnits, asciiOfUnit]
  split
  · next hlt =>
      have hhigh : high.toNat = 0 := by omega
      simp [hhigh]
  · rfl

theorem asciiOfUnits_take (n : ℕ) (d : Bytes) (h : 2 * n ≤ d.length) :
    asciiOfUnits (d.take (n * 2)) =
      (List.range n).map fun i => asciiOfUnit (d.getD (i * 2) 0) (d.getD (i * 2 + 1) 0) := by
  induction n generalizing d with
  | zero => simp [asciiOfUnits]
  | succ n ih =>
      match d with
      | [] => simp at h
      | [_] =>
          simp only [List.length_cons, List.length_nil] at h
          omega
      | low :: high :: d =>
          have hrest := ih d (by simp only [List.length_cons] at h; omega)
          have htake : (low :: high :: d).take ((n + 1) * 2) = low :: high :: d.take (n * 2) := by
            rw [Nat.succ_mul]
            rfl
          rw [htake, asciiOfUnits_cons, hrest, List.range_succ_eq_map, List.map_cons, List.map_map]
          refine congrArg₂ List.cons rfl (List.map_congr_left fun i _ => ?_)
          rw [Function.comp_apply, Nat.succ_mul]
          rfl

/-- `parcel_read_str16` on the block is `parcelReadStr16` on what has not been read. -/
theorem readStr16_spec {p : Parcel} (h : Readable p) :
    p.readStr16.1 = (parcelReadStr16 p.remaining).1 ∧
      p.readStr16.2.remaining = (parcelReadStr16 p.remaining).2 ∧ Readable p.readStr16.2 := by
  obtain ⟨hcount, hremaining, hreadable⟩ := readI32_spec h
  have hpair : parcelReadI32 p.remaining = (p.readI32.1, p.readI32.2.remaining) :=
    Prod.ext hcount.symm hremaining.symm
  unfold readStr16 parcelReadStr16
  rw [hpair]
  generalize p.readI32 = r at hreadable ⊢
  obtain ⟨charCount, q⟩ := r
  dsimp only at hreadable ⊢
  by_cases hnull : charCount < 0
  · rw [if_pos hnull, if_pos hnull]
    exact ⟨rfl, rfl, hreadable⟩
  · have hlength := hreadable.remaining_length
    have hpos := hreadable.pos
    rw [if_neg hnull, if_neg hnull]
    by_cases hshort : q.pos + ((charCount.toNat + 1) * 2 + 3) / 4 * 4 > q.len
    · have hempty : ({ q with pos := q.len } : Parcel).remaining = [] :=
        List.drop_eq_nil_of_le (by rw [contents, List.length_take]; exact Nat.min_le_left _ _)
      rw [if_pos hshort, if_pos (by omega)]
      exact ⟨rfl, hempty, le_rfl, hreadable.len⟩
    · obtain ⟨hreadable', hskip⟩ := hreadable.skip (n := ((charCount.toNat + 1) * 2 + 3) / 4 * 4) (by omega)
      rw [if_neg hshort, if_neg (by omega), asciiOfUnits_take _ _ (by omega)]
      refine ⟨congrArg some (List.map_congr_left fun i hi => ?_), hskip, hreadable'⟩
      have hlt := List.mem_range.mp hi
      rw [getD_remaining (by omega), Nat.add_assoc, getD_remaining (by omega)]

theorem readItem_spec {item : ParcelItem} (hitem : item.Codable) {p : Parcel} (h : Readable p) {rest : Bytes}
    (hblock : p.remaining = item.block ++ rest) (hsize : item.block.length < 2 ^ 31) :
    (p.readItem item.kind).1 = item ∧ (p.readItem item.kind).2.remaining = rest ∧
      Readable (p.readItem item.kind).2 := by
  rcases item with v | _ | s
  · obtain ⟨hvalue, hremaining, hreadable⟩ := readI32_spec h
    rw [hblock] at hvalue hremaining
    have hread : parcelReadI32 ((ParcelItem.i32 v).block ++ rest) = (v, rest) := parcelReadI32_le32 hitem rest
    rw [hread] at hvalue hremaining
    exact ⟨congrArg ParcelItem.i32 hvalue, hremaining, hreadable⟩
  · obtain ⟨hvalue, hremaining, hreadable⟩ := readStr16_spec h
    rw [hblock, parcelReadStr16_null] at hvalue hremaining
    exact ⟨congrArg ParcelItem.str16 hvalue, hremaining, hreadable⟩
  · obtain ⟨hvalue, hremaining, hreadable⟩ := readStr16_spec h
    have hlength : s.length < 2 ^ 31 := by
      obtain ⟨zeros, hstring, hpadded⟩ := block_string s
      rw [hstring, List.length_append, le32_length, hpadded] at hsize
      omega
    rw [hblock, parcelReadStr16_block hitem hlength] at hvalue hremaining
    exact ⟨congrArg ParcelItem.str16 hvalue, hremaining, hreadable⟩

theorem readAll_spec {items : List ParcelItem} (hitems : ∀ item ∈ items, item.Codable) {p : Parcel}
    (h : Readable p) (hblocks : p.remaining = items.flatMap ParcelItem.block)
    (hsize : p.remaining.length < 2 ^ 31) : p.readAll (items.map ParcelItem.kind) = items := by
  induction items generalizing p with
  | nil => rfl
  | cons item items ih =>
      rw [List.flatMap_cons] at hblocks
      rw [hblocks, List.length_append] at hsize
      obtain ⟨hvalue, hremaining, hreadable⟩ :=
        readItem_spec (hitems item List.mem_cons_self) h hblocks (by omega)
      rw [List.map_cons, readAll, hvalue,
        ih (fun i hi => hitems i (List.mem_cons_of_mem item hi)) hreadable hremaining (by rw [hremaining]; omega)]

/-- **What is written is read back**, and after every write the length is a multiple of four in a block as
large as the capacity. -/
theorem parcel_codec (fresh : ℕ → ℕ → UInt8) {cap : ℕ} (hcap : 4 ≤ cap) {items : List ParcelItem}
    (hitems : ∀ item ∈ items, item.Codable) (hsize : (parcelBytes items).length < 2 ^ 31) :
    (∀ front, front <+: items → ∃ q, (init cap).writeAll fresh front = some q ∧ q.len % 4 = 0 ∧
        q.len ≤ q.cap ∧ q.buf.length = q.cap) ∧
      ∃ q, (init cap).writeAll fresh items = some q ∧
        readAll (items.map ParcelItem.kind) { q with pos := 0 } = items := by
  have hready := @init_ready cap (by omega)
  constructor
  · intro front hfront
    obtain ⟨q, hq, hready', haligned, -, -⟩ :=
      writeAll_spec fresh (fun i hi => hitems i (hfront.subset hi)) hready rfl
    exact ⟨q, hq, haligned, hready'.len, hready'.alloc⟩
  · obtain ⟨q, hq, hready', haligned, hpos, hcontents⟩ := writeAll_spec fresh hitems hready rfl
    refine ⟨q, hq, ?_⟩
    have hbytes : q.contents = parcelBytes items := hcontents
    have hblocks := @foldl_write_aligned items [] rfl
    have hremaining : ({ q with pos := 0 } : Parcel).remaining = q.contents := rfl
    have hlen : q.len ≤ q.buf.length := by rw [hready'.alloc]; exact hready'.len
    refine readAll_spec hitems ⟨Nat.zero_le _, hlen⟩ ?_ ?_
    · rw [hremaining, hcontents]
      exact hblocks
    · rwa [hremaining, hbytes]

/-- An integer, null and a string, in a block that has to grow. -/
theorem parcel_codec_three :
    let items := [ParcelItem.i32 (-7), .str16 none, .str16 (some "abc".toList)]
    (∀ front, front <+: items → ∃ q, (init 4).writeAll (fun _ _ => 0xAA) front = some q ∧ q.len % 4 = 0 ∧
        q.len ≤ q.cap ∧ q.buf.length = q.cap) ∧
      ∃ q, (init 4).writeAll (fun _ _ => 0xAA) items = some q ∧
        readAll (items.map ParcelItem.kind) { q with pos := 0 } = items := by
  refine parcel_codec _ (by decide) ?_ (by decide)
  rintro item hitem
  simp only [List.mem_cons, List.not_mem_nil, or_false] at hitem
  rcases hitem with rfl | rfl | rfl
  · exact ⟨by decide, by decide⟩
  · trivial
  · exact (forall_mem_of_all (by decide) : ∀ c ∈ "abc".toList, 0 < c.toNat ∧ c.toNat < 128)

end Parcel

end VirtualPhone
