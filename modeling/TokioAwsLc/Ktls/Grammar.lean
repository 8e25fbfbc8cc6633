import TokioAwsLc.Ktls.RecordQueue

/-!
# The grammar of the ancillary data

The control buffer of a receive has two slots, the reported length can be anything, and so can the
contents of the slots. `RecvControl::record_type` is built from the parser of one slot with a `min` and
a subtraction on that length. Here is what it accepts.

* `Control.IsType abi c t`: the slot holds a record-type message. `Control.recordType_eq_none_iff` and
  `Control.recordType_eq_some_iff` are the grammar of one slot.
* `RecvControl.recordType_of_le` and `RecvControl.recordType_of_lt` split the buffer at the end of its
  first slot; the second says that a longer buffer is accepted for application data only.
* `RecvControl.recordTypeChecked` is the same parser with the subtraction checked for underflow.
* `putCmsg` and `layout`: the buffer as the kernel fills it from a list of record types.
* `ancillary_grammar` is the result.
-/

namespace TokioAwsLc.Ktls

variable {abi : Abi} {len : ℕ} {flags : BitVec 32}

/-! ## One slot -/

/-- The slot holds a record-type message of type `t`. -/
structure Control.IsType (abi : Abi) (c : Control) (t : UInt8) : Prop where
  len : c.cmsgLen = abi.controlLen
  level : c.cmsgLevel = solTls
  type : c.cmsgType = tlsGetRecordType
  payload : c.payload = t

/-- The header fields that the parser compares. -/
def Control.IsTypeHeader (abi : Abi) (c : Control) : Prop :=
  c.cmsgLen = abi.controlLen ∧ c.cmsgLevel = solTls ∧ c.cmsgType = tlsGetRecordType

/-- A slot holds a type iff its header is the right one and its byte is the type. -/
theorem Control.isType_iff {c : Control} {t : UInt8} :
    c.IsType abi t ↔ c.IsTypeHeader abi ∧ c.payload = t := by
  constructor
  · intro h
    exact ⟨⟨h.len, h.level, h.type⟩, h.payload⟩
  · rintro ⟨⟨hlen, hlevel, htype⟩, hpayload⟩
    exact ⟨hlen, hlevel, htype, hpayload⟩

/-- What one slot is parsed to, branch by branch. -/
inductive Control.Parses (abi : Abi) (c : Control) (len : ℕ) (flags : BitVec 32) :
    IoResult (Option UInt8) → Prop
  | truncated {e : IoError} (htr : Truncated flags) (hkind : e.kind = .invalidData) :
      Parses abi c len flags (.error e)
  | empty (htr : ¬ Truncated flags) (hlen : len = 0) : Parses abi c len flags (.ok none)
  | invalid {e : IoError} (htr : ¬ Truncated flags) (hlen : len ≠ 0)
      (hmsg : ¬ (abi.controlLen ≤ len ∧ len ≤ abi.controlSpace ∧ c.IsTypeHeader abi))
      (hkind : e.kind = .invalidData) : Parses abi c len flags (.error e)
  | typed (htr : ¬ Truncated flags) (hlo : abi.controlLen ≤ len) (hhi : len ≤ abi.controlSpace)
      (hheader : c.IsTypeHeader abi) : Parses abi c len flags (.ok (some c.payload))

/-- The parser of a slot is an instance of the grammar. -/
theorem Control.recordType_parses (abi : Abi) (c : Control) (len : ℕ) (flags : BitVec 32) :
    c.Parses abi len flags (c.recordType abi len flags) := by
  unfold Control.recordType
  by_cases htr : Truncated flags
  · rw [if_pos htr]
    exact .truncated htr rfl
  rw [if_neg htr]
  by_cases hlen : len = 0
  · rw [if_pos hlen]
    exact .empty htr hlen
  rw [if_neg hlen]
  by_cases hmsg : abi.controlLen ≤ len ∧ len ≤ abi.controlSpace ∧ c.IsTypeHeader abi
  · obtain ⟨hlo, hhi, hheader⟩ := hmsg
    rw [if_neg (by simp [hlo, hhi, hheader.1, hheader.2.1, hheader.2.2])]
    exact .typed htr hlo hhi hheader
  · rw [if_pos]
    · exact .invalid htr hlen hmsg rfl
    · unfold Control.IsTypeHeader at hmsg
      tauto

/-- One slot reports no type iff nothing is truncated and it is empty. -/
theorem Control.recordType_eq_none_iff {c : Control} :
    c.recordType abi len flags = .ok none ↔ ¬ Truncated flags ∧ len = 0 := by
  have hpos := abi.controlLen_pos
  have h := c.recordType_parses abi len flags
  generalize c.recordType abi len flags = result at h ⊢
  cases h with
  | truncated htr => simp [htr]
  | empty htr hlen => simp [htr, hlen]
  | invalid htr hlen => simp [hlen]
  | typed htr hlo =>
      have hlen : len ≠ 0 := by omega
      simp [hlen]

/-- One slot reports a type iff nothing is truncated, the length is that of one message with or
without its padding, and the slot holds such a message. -/
theorem Control.recordType_eq_some_iff {c : Control} {t : UInt8} :
    c.recordType abi len flags = .ok (some t) ↔
      ¬ Truncated flags ∧ abi.controlLen ≤ len ∧ len ≤ abi.controlSpace ∧ c.IsType abi t := by
  have hpos := abi.controlLen_pos
  rw [Control.isType_iff]
  have h := c.recordType_parses abi len flags
  generalize c.recordType abi len flags = result at h ⊢
  cases h with
  | truncated htr => simp [htr]
  | empty htr hlen =>
      have hlo : ¬ abi.controlLen ≤ len := by omega
      simp [hlo]
  | invalid htr hlen hmsg =>
      constructor
      · intro h
        cases h
      · rintro ⟨-, hlo, hhi, hheader, -⟩
        exact absurd ⟨hlo, hhi, hheader⟩ hmsg
  | typed htr hlo hhi hheader => simp [htr, hlo, hhi, hheader]

/-- What one slot rejects is invalid data. -/
theorem Control.kind_of_recordType_error {c : Control} {e : IoError}
    (h : c.recordType abi len flags = .error e) : e.kind = .invalidData := by
  have hparses := c.recordType_parses abi len flags
  rw [h] at hparses
  cases hparses with
  | truncated _ hkind => exact hkind
  | invalid _ _ _ hkind => exact hkind

/-! ## Two slots -/

/-- Up to the end of the first slot the buffer is that slot. -/
theorem RecvControl.recordType_of_le (c : RecvControl) (h : len ≤ abi.controlSpace) :
    c.recordType abi len flags = c.first.recordType abi len flags := by
  unfold RecvControl.recordType
  rw [min_eq_left h]
  simp only [if_pos h]
  exact bind_pure _

/-- A buffer that runs into the second slot is accepted iff both slots report application data. -/
theorem RecvControl.recordType_of_lt (c : RecvControl) (h : abi.controlSpace < len)
    (t : Option UInt8) :
    c.recordType abi len flags = .ok t ↔
      t = some applicationData ∧
        c.first.recordType abi abi.controlSpace flags = .ok (some applicationData) ∧
        c.second.recordType abi (len - abi.controlSpace) flags = .ok (some applicationData) := by
  unfold RecvControl.recordType
  rw [min_eq_right h.le]
  rcases c.first.recordType abi abi.controlSpace flags with e | first
  · simp [bind, Except.bind]
  simp only [bind, Except.bind, if_neg h.not_ge]
  rcases c.second.recordType abi (len - abi.controlSpace) flags with e | second
  · simp
  simp only [pure, Except.pure, Except.ok.injEq]
  split_ifs with hdup
  · simp only [false_iff]
    rintro ⟨-, rfl, rfl⟩
    simp at hdup
  · push Not at hdup
    obtain ⟨rfl, rfl⟩ := hdup
    simp [eq_comm]

/-- What the parser rejects is invalid data. -/
theorem RecvControl.kind_of_recordType_error {c : RecvControl} {e : IoError}
    (h : c.recordType abi len flags = .error e) : e.kind = .invalidData := by
  unfold RecvControl.recordType at h
  rcases hfirst : c.first.recordType abi (min len abi.controlSpace) flags with e₁ | first
  · rw [hfirst] at h
    cases h
    exact Control.kind_of_recordType_error hfirst
  rw [hfirst] at h
  simp only [bind, Except.bind] at h
  split_ifs at h
  · cases h
  rcases hsecond : c.second.recordType abi (len - abi.controlSpace) flags with e₂ | second
  · rw [hsecond] at h
    cases h
    exact Control.kind_of_recordType_error hsecond
  rw [hsecond] at h
  simp only at h
  split_ifs at h
  · cases h
    rfl
  · cases h

/-- What a control buffer of this length says: nothing, one message, or application data twice. -/
def RecvControl.Says (abi : Abi) (c : RecvControl) (len : ℕ) : Option UInt8 → Prop
  | none => len = 0
  | some t =>
      (abi.controlLen ≤ len ∧ len ≤ abi.controlSpace ∧ c.first.IsType abi t) ∨
        (t = applicationData ∧ abi.controlSpace + abi.controlLen ≤ len ∧
          len ≤ 2 * abi.controlSpace ∧ c.first.IsType abi applicationData ∧
          c.second.IsType abi applicationData)

/-- **The parser reads what the buffer says**, unless something is truncated. -/
theorem RecvControl.recordType_eq_ok_iff (c : RecvControl) (t : Option UInt8) :
    c.recordType abi len flags = .ok t ↔ ¬ Truncated flags ∧ c.Says abi len t := by
  have hpos := abi.controlLen_pos
  have hle := abi.controlLen_le
  by_cases hlen : len ≤ abi.controlSpace
  · rw [c.recordType_of_le hlen]
    rcases t with _ | t
    · exact Control.recordType_eq_none_iff
    · rw [Control.recordType_eq_some_iff]
      unfold RecvControl.Says
      have htwo : ¬ abi.controlSpace + abi.controlLen ≤ len := by omega
      simp only [htwo, false_and, and_false, or_false]
  · have hlt : abi.controlSpace < len := not_le.mp hlen
    rw [c.recordType_of_lt hlt, Control.recordType_eq_some_iff, Control.recordType_eq_some_iff]
    rcases t with _ | t
    · have hne : len ≠ 0 := by omega
      simp [RecvControl.Says, hne]
    · have hlo : abi.controlLen ≤ len - abi.controlSpace ↔ abi.controlSpace + abi.controlLen ≤ len := by
        omega
      have hhi : len - abi.controlSpace ≤ abi.controlSpace ↔ len ≤ 2 * abi.controlSpace := by
        omega
      simp only [RecvControl.Says, Option.some.injEq, hlo, hhi, hlen, hle, le_refl, true_and,
        false_and, and_false, false_or]
      tauto

/-- The parser with its subtraction checked: an underflow would be a panic.
Source: `src/ktls/io.rs` `RecvControl::record_type` -/
def RecvControl.recordTypeChecked (abi : Abi) (c : RecvControl) (len : ℕ) (flags : BitVec 32) :
    Exit (IoResult (Option UInt8)) :=
  match c.first.recordType abi (min len abi.controlSpace) flags with
  | .error e => .returned (.error e)
  | .ok first =>
      if len ≤ abi.controlSpace then .returned (.ok first)
      else if len < abi.controlSpace then .panicked
      else
        match c.second.recordType abi (len - abi.controlSpace) flags with
        | .error e => .returned (.error e)
        | .ok second =>
            if first ≠ some applicationData ∨ second ≠ first then
              .returned (.error (.invalidData
                "conflicting or unsupported duplicate kTLS record-type messages"))
            else .returned (.ok first)

/-- The subtraction is reached with a long enough buffer only. -/
theorem RecvControl.recordTypeChecked_eq (c : RecvControl) :
    c.recordTypeChecked abi len flags = .returned (c.recordType abi len flags) := by
  unfold RecvControl.recordTypeChecked RecvControl.recordType
  rcases c.first.recordType abi (min len abi.controlSpace) flags with e | first
  · rfl
  by_cases hlen : len ≤ abi.controlSpace
  · simp only [if_pos hlen]
    rfl
  · have hlt : ¬ len < abi.controlSpace := by omega
    simp only [if_neg hlen, if_neg hlt, bind, Except.bind]
    rcases c.second.recordType abi (len - abi.controlSpace) flags with e | second
    · rfl
    · simp only
      split_ifs <;> rfl

/-! ## The buffer as the kernel fills it -/

/-- The fields of a message header that record-type messages are reported in. -/
structure MsgHeader where
  controllen : ℕ
  control : RecvControl
  flags : BitVec 32
  deriving DecidableEq, Repr

/-- The kernel's `put_cmsg` for one record type: the message and its padding go into the next slot;
what has no room left sets `MSG_CTRUNC`. -/
def putCmsg (abi : Abi) (m : MsgHeader) (t : UInt8) : MsgHeader :=
  if 2 * abi.controlSpace - m.controllen < abi.controlLen then
    { m with flags := m.flags ||| msgCtrunc }
  else if m.controllen = 0 then
    { m with
      controllen := m.controllen + abi.controlSpace
      control := { m.control with first := typeSlot abi t } }
  else
    { m with
      controllen := m.controllen + abi.controlSpace
      control := { m.control with second := typeSlot abi t } }

/-- The header of a receive that reports these record types, in an empty control buffer. -/
def layout (abi : Abi) (flags : BitVec 32) (ts : List UInt8) : MsgHeader :=
  ts.foldl (putCmsg abi) ⟨0, ⟨.new, .new⟩, flags⟩

/-- A slot that the kernel has filled holds its type, and no other. -/
@[simp] theorem isType_typeSlot {t u : UInt8} : (typeSlot abi t).IsType abi u ↔ t = u := by
  constructor
  · intro h
    exact h.payload
  · rintro rfl
    exact ⟨rfl, rfl, rfl, rfl⟩

/-- Flags are only ever added: a word is truncated as soon as a part of it is. -/
theorem truncated_or (flags other : BitVec 32) :
    Truncated (flags ||| other) ↔ Truncated flags ∨ Truncated other := by
  unfold Truncated
  rw [BitVec.and_or_distrib_right, ← not_and_or]
  exact not_congr BitVec.or_eq_zero_iff

/-- **Step lemma.** Further messages do not take truncation back. -/
theorem putCmsg_truncated {m : MsgHeader} (t : UInt8) (h : Truncated m.flags) :
    Truncated (putCmsg abi m t).flags := by
  unfold putCmsg
  split_ifs
  · exact (truncated_or _ _).mpr (.inl h)
  · exact h
  · exact h

/-- **Run lemma.** -/
theorem foldl_putCmsg_truncated {m : MsgHeader} (ts : List UInt8) (h : Truncated m.flags) :
    Truncated (ts.foldl (putCmsg abi) m).flags := by
  induction ts generalizing m with
  | nil => exact h
  | cons t ts ih =>
      rw [List.foldl_cons]
      exact ih (putCmsg_truncated t h)

/-- One type takes up the first slot. -/
theorem layout_one (t : UInt8) :
    layout abi flags [t] = ⟨abi.controlSpace, ⟨typeSlot abi t, .new⟩, flags⟩ := by
  have hle := abi.controlLen_le
  have hroom : ¬ 2 * abi.controlSpace - 0 < abi.controlLen := by omega
  simp only [layout, List.foldl_cons, List.foldl_nil, putCmsg, if_neg hroom, if_true, Nat.zero_add]

/-- Two types take up both slots. -/
theorem layout_two (t u : UInt8) :
    layout abi flags [t, u] =
      ⟨2 * abi.controlSpace, ⟨typeSlot abi t, typeSlot abi u⟩, flags⟩ := by
  have hpos := abi.controlLen_pos
  have hle := abi.controlLen_le
  have hroom : ¬ 2 * abi.controlSpace - abi.controlSpace < abi.controlLen := by omega
  have hne : abi.controlSpace ≠ 0 := by omega
  rw [show layout abi flags [t, u] = putCmsg abi (layout abi flags [t]) u from rfl, layout_one]
  simp only [putCmsg, if_neg hroom, if_neg hne]
  rw [two_mul]

/-- A third message has no room. -/
theorem layout_truncated (t u v : UInt8) (ts : List UInt8) :
    Truncated (layout abi flags (t :: u :: v :: ts)).flags := by
  have hpos := abi.controlLen_pos
  have hfull : 2 * abi.controlSpace - 2 * abi.controlSpace < abi.controlLen := by omega
  rw [show layout abi flags (t :: u :: v :: ts) =
    ts.foldl (putCmsg abi) (putCmsg abi (layout abi flags [t, u]) v) from rfl, layout_two]
  refine foldl_putCmsg_truncated ts ?_
  simp only [putCmsg, if_pos hfull]
  exact (truncated_or _ _).mpr (.inr (by decide))

/-- **What the parser accepts of the kernel's buffers**: no message, any one, and application data
twice. -/
theorem recordType_layout_iff (ts : List UInt8) (t : Option UInt8) :
    (layout abi flags ts).control.recordType abi (layout abi flags ts).controllen
        (layout abi flags ts).flags = .ok t ↔
      ¬ Truncated flags ∧ t = ts.head? ∧
        (ts = [] ∨ (∃ u, ts = [u]) ∨ ts = [applicationData, applicationData]) := by
  have hpos := abi.controlLen_pos
  have hle := abi.controlLen_le
  rw [RecvControl.recordType_eq_ok_iff]
  rcases ts with _ | ⟨u, _ | ⟨v, _ | ⟨x, ts⟩⟩⟩
  · -- no message
    rcases t with _ | t
    · simp [layout, RecvControl.Says]
    · simp [layout, RecvControl.Says, hpos.ne']
  · -- one message
    have htwo : ¬ abi.controlSpace + abi.controlLen ≤ abi.controlSpace := by omega
    rw [layout_one]
    rcases t with _ | t
    · have hne : abi.controlSpace ≠ 0 := by omega
      simp [RecvControl.Says, hne]
    · simp [RecvControl.Says, hle, hpos.ne', eq_comm]
  · -- two messages fill the buffer
    have hone : ¬ 2 * abi.controlSpace ≤ abi.controlSpace := by omega
    have htwo : abi.controlSpace + abi.controlLen ≤ 2 * abi.controlSpace := by omega
    rw [layout_two]
    rcases t with _ | t
    · have hne : abi.controlSpace ≠ 0 := by omega
      simp [RecvControl.Says, hne]
    · simp only [RecvControl.Says, hone, htwo, isType_typeSlot, le_refl, true_and, false_and,
        and_false, false_or, List.head?_cons, Option.some.injEq, List.cons.injEq, and_true,
        reduceCtorEq, exists_false, false_or]
      constructor
      · rintro ⟨htr, rfl, rfl, rfl⟩
        exact ⟨htr, rfl, rfl, rfl⟩
      · rintro ⟨htr, rfl, rfl, rfl⟩
        exact ⟨htr, rfl, rfl, rfl⟩
  · -- a third message sets `MSG_CTRUNC`
    simp [layout_truncated]

/-! ## The grammar -/

/-- What the parser makes of a control buffer: any reported length, any flags, any contents. -/
structure AncillaryGrammar (abi : Abi) (c : RecvControl) (len : ℕ) (flags : BitVec 32) : Prop where
  /-- No type is reported for an empty buffer only. -/
  none_iff : c.recordType abi len flags = .ok none ↔
    (flags &&& msgCtrunc = 0 ∧ flags &&& msgTrunc = 0) ∧ len = 0
  /-- A type is reported for one message, or for application data twice. -/
  some_iff : ∀ t, c.recordType abi len flags = .ok (some t) ↔
    (flags &&& msgCtrunc = 0 ∧ flags &&& msgTrunc = 0) ∧
      ((abi.controlLen ≤ len ∧ len ≤ abi.controlSpace ∧ c.first.IsType abi t) ∨
        (t = applicationData ∧ abi.controlSpace + abi.controlLen ≤ len ∧
          len ≤ 2 * abi.controlSpace ∧ c.first.IsType abi applicationData ∧
          c.second.IsType abi applicationData))
  /-- Everything else is an error, of the kind `InvalidData`. -/
  error_iff : (∃ e, c.recordType abi len flags = .error e ∧ e.kind = .invalidData) ↔
    ¬ ((flags &&& msgCtrunc = 0 ∧ flags &&& msgTrunc = 0) ∧ ∃ t, c.Says abi len t)
  /-- The subtraction on the length does not underflow. -/
  no_underflow : c.recordTypeChecked abi len flags = .returned (c.recordType abi len flags)
  /-- Of the buffers that the kernel fills, the empty one, those with one message and the one with
  application data twice are accepted; the type is that of the first message. -/
  layouts : ∀ (ts : List UInt8) (t : Option UInt8),
    (layout abi flags ts).control.recordType abi (layout abi flags ts).controllen
        (layout abi flags ts).flags = .ok t ↔
      (flags &&& msgCtrunc = 0 ∧ flags &&& msgTrunc = 0) ∧ t = ts.head? ∧
        (ts = [] ∨ (∃ u, ts = [u]) ∨ ts = [applicationData, applicationData])

/-- **The parser accepts exactly its grammar.** -/
theorem ancillary_grammar (abi : Abi) (c : RecvControl) (len : ℕ) (flags : BitVec 32) :
    AncillaryGrammar abi c len flags where
  none_iff := by
    rw [← not_truncated_iff]
    exact c.recordType_eq_ok_iff none
  some_iff t := by
    rw [← not_truncated_iff]
    exact c.recordType_eq_ok_iff (some t)
  error_iff := by
    rw [← not_truncated_iff]
    constructor
    · rintro ⟨e, he, -⟩ ⟨htr, t, ht⟩
      rw [(c.recordType_eq_ok_iff t).mpr ⟨htr, ht⟩] at he
      cases he
    · intro hnot
      rcases hresult : c.recordType abi len flags with e | t
      · exact ⟨e, rfl, RecvControl.kind_of_recordType_error hresult⟩
      · obtain ⟨htr, ht⟩ := (c.recordType_eq_ok_iff t).mp hresult
        exact absurd ⟨htr, t, ht⟩ hnot
  no_underflow := c.recordTypeChecked_eq
  layouts ts t := by
    rw [← not_truncated_iff]
    exact recordType_layout_iff ts t

end TokioAwsLc.Ktls
