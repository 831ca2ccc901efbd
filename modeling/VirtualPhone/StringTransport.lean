import VirtualPhone.ShimReplies

/-! # Strings through the shim

The two ways of a string: from the bridge to the Android client, as the long name of the operator or as
the number or name of a call, and from the client to the bridge, in the Parcel of a request.

`passage_iff` puts the two together.  The shim neither decodes nor writes escapes, and it prints into
buffers of fixed sizes, so strings arrive exactly when they need no escapes and nothing was cut off. -/

namespace VirtualPhone

open Runtime

/-- A reply with strings that the shim takes to the client, or a Parcel it takes to the bridge. -/
inductive Passage
  | operator (token : ℤ) (o : OperatorInfo)
  | calls (token : ℤ) (cs : List RilCall)
  | request (payload : Bytes)

namespace Passage

/-- The strings arrive: the client decodes those of the bridge, the bridge reads those of the client. -/
def Faithful : Passage → Prop
  | operator token o =>
      ((AndroidRequest.mk 22 token none).clientStrings o.dumps).bind List.head? = some (some o.longName)
  | calls token cs =>
      (AndroidRequest.mk 9 token none).clientStrings (dumpsCalls cs) = some (cs.flatMap RilCall.strings)
  | request payload => ∀ t ∈ requestStrings payload, (readRequest payload).Carries t.2

/-- No string needs an escape, and every text fits into its buffer. -/
def Harmless : Passage → Prop
  | operator token o =>
      (∀ c ∈ o.longName, DumpsPlain c) ∧ (AndroidRequest.mk 22 token none).Arrives o.dumps
  | calls token cs => (∀ c ∈ cs, c.Plain) ∧ (AndroidRequest.mk 9 token none).Arrives (dumpsCalls cs)
  | request payload => ∀ t ∈ requestStrings payload, (readRequest payload).Fits t.1 t.2

end Passage

/-- **Strings cross the shim exactly when nothing of them has to be escaped or cut off.** -/
theorem passage_iff (p : Passage) : p.Faithful ↔ p.Harmless := by
  cases p with
  | operator token o => exact operator_iff rfl o
  | calls token cs => exact calls_iff rfl cs
  | request payload => exact forall₂_congr fun t ht => requestStrings_carries_iff ht

/-- The Parcel of a DIAL request. -/
def dialParcel (token : ℤ) (address : Text) : Bytes :=
  parcelBytes [.i32 10, .i32 token, .str16 (some address), .i32 0]

/-- An operator with an accented letter in its name, and an address with a quote. -/
theorem passage_spoilt :
    ¬(Passage.operator 7 ⟨"Café".toList, "Café".toList, "00101".toList⟩).Faithful ∧
      ¬(Passage.request (dialParcel 7 "5\"1".toList)).Faithful := by
  constructor
  · intro h
    exact absurd ((operator_iff rfl _).mp h |>.1 'é' (by decide)) (by decide)
  · intro h
    have hstrings : requestStrings (dialParcel 7 "5\"1".toList) =
        some (jsonBufSize, [("address", .str (some "5\"1".toList)), ("clir", .int 0)]) := by
      decide +kernel
    have hfits := (requestStrings_carries_iff hstrings).mp (h _ hstrings)
    exact absurd (hfits.plain _ List.mem_cons_self '"' (by decide)) (by decide)

end VirtualPhone
