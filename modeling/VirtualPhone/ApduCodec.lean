import VirtualPhone.ApduHandler

/-! # Writing and reading APDU commands (`euicc/apdu/handler.py`)

The short commands of ISO 7816-4 come in four cases: with data or not, with an expected length or not.
`to_bytes` returns when it has written the data, and so leaves out the expected length of a command that
has both.  `from_bytes` tells the cases apart by the length of the octets only; what the length octet
announces is taken as a slice, whether it is there or not, and what stands behind the expected length is
passed over. -/

namespace VirtualPhone

open Runtime

namespace ApduCommand

/-- `to_bytes()`. -/
def toBytes (c : ApduCommand) : Except PyError Bytes := do
  let header ← [c.cla, c.ins, c.p1, c.p2].mapM mkByte
  if c.data ≠ [] then do
    let lc ← mkByte c.data.length
    return header ++ [lc] ++ c.data
  else if c.le ≠ 0 then do
    let le ← mkByte (c.le &&& 0xFF)
    return header ++ [le]
  else return header

/-- A short command. -/
structure Short (c : ApduCommand) : Prop where
  cla : c.cla < 256
  ins : c.ins < 256
  p1 : c.p1 < 256
  p2 : c.p2 < 256
  data : c.data.length ≤ 255
  le : c.le ≤ 256

/-- The four octets in front. -/
def header (c : ApduCommand) : Bytes :=
  [UInt8.ofNat c.cla, UInt8.ofNat c.ins, UInt8.ofNat c.p1, UInt8.ofNat c.p2]

theorem Short.toBytes {c : ApduCommand} (h : c.Short) : c.toBytes = .ok (c.header ++
    if c.data ≠ [] then UInt8.ofNat c.data.length :: c.data
    else if c.le ≠ 0 then [UInt8.ofNat c.le] else []) := by
  have hheader : [c.cla, c.ins, c.p1, c.p2].mapM mkByte = .ok c.header := by
    simp only [List.mapM_cons, List.mapM_nil, mkByte_of_lt h.cla, mkByte_of_lt h.ins, mkByte_of_lt h.p1,
      mkByte_of_lt h.p2, ok_bind]
    rfl
  have hle : mkByte (c.le &&& 0xFF) = .ok (UInt8.ofNat c.le) := by
    have hmask : c.le &&& 0xFF = c.le % 256 := Nat.and_two_pow_sub_one_eq_mod _ 8
    rw [hmask, mkByte_of_lt (Nat.mod_lt _ (by decide))]
    exact congrArg Except.ok UInt8.ofNat_mod_size
  unfold ApduCommand.toBytes
  rw [hheader, ok_bind]
  by_cases hdata : c.data ≠ []
  · rw [if_pos hdata, if_pos hdata, mkByte_of_lt (Nat.lt_succ_of_le h.data), ok_bind, List.append_assoc]
    rfl
  · rw [if_neg hdata, if_neg hdata]
    by_cases hexpected : c.le ≠ 0
    · rw [if_pos hexpected, if_pos hexpected, hle, ok_bind]
      rfl
    · rw [if_neg hexpected, if_neg hexpected, List.append_nil]
      rfl

/-- The octet of an expected length is read back: 256 is written as 0. -/
theorem lengthOr256_ofNat {n : ℕ} (hpos : n ≠ 0) (hle : n ≤ 256) : lengthOr256 (UInt8.ofNat n) = n := by
  unfold lengthOr256
  by_cases hlt : n < 256
  · rw [toNat_ofNat_of_lt hlt, if_neg hpos]
  · obtain rfl : n = 256 := by omega
    rfl

theorem fromBytes_header {c : ApduCommand} (h : c.Short) (rest : Bytes) : fromBytes (c.header ++ rest) =
    match rest with
    | [] => .ok { c with data := [], le := 0 }
    | [le] => .ok { c with data := [], le := lengthOr256 le }
    | lc :: body =>
        .ok { c with
          data := body.take lc.toNat
          le := match body[lc.toNat]? with
            | some le => lengthOr256 le
            | none => 0 } := by
  unfold header
  simp only [List.cons_append, List.nil_append, fromBytes, toNat_ofNat_of_lt h.cla, toNat_ofNat_of_lt h.ins,
    toNat_ofNat_of_lt h.p1, toNat_ofNat_of_lt h.p2]
  cases rest with
  | nil => rfl
  | cons lc body =>
      cases body with
      | nil => rfl
      | cons b body => rfl

/-- **A short command is read back exactly if it has no data, or no expected length.** -/
theorem Short.fromBytes_toBytes_iff {c : ApduCommand} (h : c.Short) :
    c.toBytes >>= fromBytes = .ok c ↔ c.data = [] ∨ c.le = 0 := by
  obtain ⟨cla, ins, p1, p2, data, le⟩ := c
  rw [h.toBytes, ok_bind, fromBytes_header h]
  cases data with
  | nil =>
      refine iff_of_true ?_ (Or.inl rfl)
      rw [if_neg (not_not.mpr rfl)]
      by_cases hexpected : le ≠ 0
      · rw [if_pos hexpected]
        show Except.ok _ = _
        rw [lengthOr256_ofNat hexpected h.le]
      · rw [if_neg hexpected, not_not.mp hexpected]
  | cons b data =>
      have hlc : (UInt8.ofNat (b :: data).length).toNat = (b :: data).length :=
        toNat_ofNat_of_lt (Nat.lt_succ_of_le h.data)
      have hnone : (b :: data)[(b :: data).length]? = none := List.getElem?_eq_none_iff.mpr le_rfl
      rw [if_pos (List.cons_ne_nil b data)]
      show Except.ok _ = Except.ok _ ↔ _
      simp only [hlc, hnone, List.take_length, Except.ok.injEq, mk.injEq, true_and, reduceCtorEq, false_or]
      exact eq_comm

/-! ### Octets that are accepted -/

/-- The length octet of the data, where there is one. -/
def lcOf (d : Bytes) : ℕ := ((d[4]?).map UInt8.toNat).getD 0

/-- What is read from the octets has the data that the length octet announces, and is written as these
octets. -/
def Canonical (d : Bytes) : Prop :=
  ∀ c, fromBytes d = .ok c → (6 ≤ d.length → c.data.length = lcOf d) ∧ c.toBytes = .ok d

theorem lengthOr256_spec (b : UInt8) :
    lengthOr256 b ≠ 0 ∧ lengthOr256 b ≤ 256 ∧ UInt8.ofNat (lengthOr256 b) = b := by
  have hlt : b.toNat < 256 := b.toNat_lt
  unfold lengthOr256
  by_cases hzero : b.toNat = 0
  · rw [if_pos hzero]
    refine ⟨by omega, le_rfl, ?_⟩
    apply UInt8.toNat_inj.mp
    rw [hzero]
    rfl
  · rw [if_neg hzero]
    exact ⟨hzero, Nat.le_of_lt hlt, UInt8.ofNat_toNat⟩

/-- **What is accepted is written again as it was exactly if it ends with the data**, or has none and ends
with the expected length or before it. -/
theorem canonical_iff (d : Bytes) : Canonical d ↔ d.length ≤ 5 ∨ d.length = 5 + lcOf d := by
  rcases d with _ | ⟨cla, _ | ⟨ins, _ | ⟨p1, _ | ⟨p2, rest⟩⟩⟩⟩
  · exact iff_of_true nofun (Or.inl (by decide))
  · exact iff_of_true nofun (Or.inl (by simp))
  · exact iff_of_true nofun (Or.inl (by simp))
  · exact iff_of_true nofun (Or.inl (by simp))
  -- four octets at least: the command is short, and its header is these four
  have hshort : ∀ (data : Bytes) (le : ℕ), data.length ≤ 255 → le ≤ 256 →
      (⟨cla.toNat, ins.toNat, p1.toNat, p2.toNat, data, le⟩ : ApduCommand).Short := fun data le hdata hle =>
    ⟨cla.toNat_lt, ins.toNat_lt, p1.toNat_lt, p2.toNat_lt, hdata, hle⟩
  have hheader : ∀ (data : Bytes) (le : ℕ),
      (⟨cla.toNat, ins.toNat, p1.toNat, p2.toNat, data, le⟩ : ApduCommand).header = [cla, ins, p1, p2] := by
    intro data le
    simp only [header, UInt8.ofNat_toNat]
  rcases rest with _ | ⟨lc, _ | ⟨b, body⟩⟩
  · refine iff_of_true ?_ (Or.inl (by simp))
    rintro c ⟨⟩
    refine ⟨fun h => absurd h (by simp), ?_⟩
    rw [(hshort [] 0 (Nat.zero_le _) (Nat.zero_le _)).toBytes, hheader]
    rfl
  · refine iff_of_true ?_ (Or.inl (by simp))
    obtain ⟨hpos, hle, hread⟩ := lengthOr256_spec lc
    rintro c ⟨⟩
    refine ⟨fun h => absurd h (by simp), ?_⟩
    rw [(hshort [] (lengthOr256 lc) (Nat.zero_le _) hle).toBytes, hheader, if_neg (not_not.mpr rfl), if_pos hpos,
      hread]
    rfl
  · obtain ⟨le, hle⟩ : ∃ le : ℕ, le = match (b :: body)[lc.toNat]? with
        | some le => lengthOr256 le
        | none => 0 := ⟨_, rfl⟩
    have hread : fromBytes (cla :: ins :: p1 :: p2 :: lc :: b :: body) =
        .ok ⟨cla.toNat, ins.toNat, p1.toNat, p2.toNat, (b :: body).take lc.toNat, le⟩ := by
      rw [hle]
      rfl
    have hbound : le ≤ 256 := by
      rw [hle]
      split
      · exact (lengthOr256_spec _).2.1
      · exact Nat.zero_le _
    have hlc : lc.toNat < 256 := lc.toNat_lt
    have hdata : ((b :: body).take lc.toNat).length ≤ 255 := by
      rw [List.length_take]
      omega
    have hwritten := (hshort ((b :: body).take lc.toNat) le hdata hbound).toBytes
    rw [hheader] at hwritten
    have hlength : (cla :: ins :: p1 :: p2 :: lc :: b :: body).length = 5 + (b :: body).length := by
      simp only [List.length_cons]
      omega
    have hcanonical : Canonical (cla :: ins :: p1 :: p2 :: lc :: b :: body) ↔
        ((b :: body).take lc.toNat).length = lc.toNat ∧
          (if (b :: body).take lc.toNat ≠ [] then
            UInt8.ofNat ((b :: body).take lc.toNat).length :: (b :: body).take lc.toNat
          else if le ≠ 0 then [UInt8.ofNat le] else []) = lc :: b :: body := by
      constructor
      · intro h
        obtain ⟨hcount, hsame⟩ := h _ hread
        rw [hwritten] at hsame
        exact ⟨hcount (by rw [hlength, List.length_cons]; omega),
          List.append_cancel_left (Except.ok.inj hsame)⟩
      · rintro ⟨hcount, hsame⟩ c hc
        obtain rfl := Except.ok.inj (hread.symm.trans hc)
        refine ⟨fun _ => hcount, ?_⟩
        rw [hwritten, hsame]
        rfl
    rw [hcanonical, hlength, show lcOf (cla :: ins :: p1 :: p2 :: lc :: b :: body) = lc.toNat from rfl]
    have hpos : 0 < (b :: body).length := Nat.zero_lt_succ _
    constructor
    · rintro ⟨hcount, hsame⟩
      refine Or.inr ?_
      have hsize := congrArg List.length hsame
      by_cases hnone : (b :: body).take lc.toNat ≠ []
      · rw [if_pos hnone, List.length_cons, List.length_cons, hcount] at hsize
        omega
      · rw [if_neg hnone] at hsize
        split at hsize
        · simp only [List.length_cons, List.length_nil] at hsize
          omega
        · simp only [List.length_cons, List.length_nil] at hsize
          omega
    · intro hlen
      have hall : lc.toNat = (b :: body).length := by omega
      rw [hall, List.take_length, if_pos (List.cons_ne_nil b body)]
      refine ⟨rfl, ?_⟩
      rw [← hall, UInt8.ofNat_toNat]

/-! ### Both directions -/

/-- **Writing and reading.**  A short command is read back exactly if it has no data or no expected length;
and octets that are accepted have the data their length octet announces, and are written again as they
were, exactly if they have at most five octets or end with the data announced. -/
theorem apdu_codec {c : ApduCommand} (h : c.Short) (d : Bytes) :
    (c.toBytes >>= fromBytes = .ok c ↔ c.data = [] ∨ c.le = 0) ∧
      (Canonical d ↔ d.length ≤ 5 ∨ d.length = 5 + lcOf d) :=
  ⟨h.fromBytes_toBytes_iff, canonical_iff d⟩

/-- SELECT without an expected length, and its octets. -/
theorem apdu_codec_select :
    ((⟨0x00, 0xA4, 0x00, 0x00, [0x6F, 0x07], 0⟩ : ApduCommand).toBytes >>= fromBytes =
      .ok ⟨0x00, 0xA4, 0x00, 0x00, [0x6F, 0x07], 0⟩) ∧ Canonical [0x00, 0xA4, 0x00, 0x00, 0x02, 0x6F, 0x07] := by
  have hshort : (⟨0x00, 0xA4, 0x00, 0x00, [0x6F, 0x07], 0⟩ : ApduCommand).Short :=
    ⟨by decide, by decide, by decide, by decide, by decide, by decide⟩
  obtain ⟨hwritten, hread⟩ := apdu_codec hshort [0x00, 0xA4, 0x00, 0x00, 0x02, 0x6F, 0x07]
  exact ⟨hwritten.mpr (Or.inr rfl), hread.mpr (Or.inr rfl)⟩

/-- SELECT with data and an expected length is read back without the expected length; and a length octet
that announces more octets than there are is accepted. -/
theorem apdu_not_read_back :
    ((⟨0x00, 0xA4, 0x00, 0x00, [0x6F, 0x07], 256⟩ : ApduCommand).toBytes >>= fromBytes =
      .ok ⟨0x00, 0xA4, 0x00, 0x00, [0x6F, 0x07], 0⟩) ∧
    fromBytes [0x00, 0xA4, 0x00, 0x00, 0x02, 0x6F] = .ok ⟨0x00, 0xA4, 0x00, 0x00, [0x6F], 0⟩ ∧
    ¬Canonical [0x00, 0xA4, 0x00, 0x00, 0x02, 0x6F] := by
  refine ⟨by decide, by decide, fun h => ?_⟩
  have hcount : (1 : ℕ) = 2 := (h ⟨0x00, 0xA4, 0x00, 0x00, [0x6F], 0⟩ (by decide)).1 (by decide)
  omega

end ApduCommand

end VirtualPhone
