import TokioAwsLc.Ktls.RecordReader
import TokioAwsLc.Lib.Trace

/-!
# What the record reader makes of a fragment

`consume` decides by the reader's fields, the message flags and the payload in an order of overlapping
guards. `expect` says what it is for, on an abstract reader that holds at most one alert byte: a table
over that byte and the fragment. `consume_expect` connects the two, and everything about the reader is
proved from the table.

* `Fragment`: the arguments of one `consume` call.
* `expect held f`: the table; its rows for data, for no result and for a clean end are
  `expect_data_iff`, `expect_more_iff` and `expect_eof_iff`.
* `Holds r held`: the reader is not terminal and holds this alert byte, or none.
* `after fs`, `outcome fs f`: the reader after a sequence of calls, and the result of the next.
* `fail_closed`: the contract of the reader for every sequence of calls, with no assumption about the
  kernel.
-/

namespace TokioAwsLc.Ktls

/-! ## Fragments -/

/-- The arguments of one `consume` call. -/
structure Fragment where
  recordType : Option UInt8
  flags : BitVec 32
  payload : Bytes
  deriving DecidableEq, Repr

/-- `RecordReader::consume` on a fragment. -/
def RecordReader.feed (r : RecordReader) (f : Fragment) :
    RecordReader × Exit (IoResult ReadOutcome) :=
  r.consume f.recordType f.flags f.payload

/-- An untruncated alert fragment with this payload, which ends its record or does not. -/
@[mk_iff]
structure Fragment.IsAlert (f : Fragment) (payload : Bytes) (eor : Bool) : Prop where
  type : f.recordType = some alertType
  payload : f.payload = payload
  untruncated : ¬ Truncated f.flags
  eor : EndOfRecord f.flags ↔ eor = true

/-- The two legacy alert levels. -/
def IsLevel (l : UInt8) : Prop :=
  l = 1 ∨ l = 2

instance : DecidablePred IsLevel := fun l => inferInstanceAs (Decidable (l = 1 ∨ l = 2))

/-! ## The table -/

/-- What the reader should make of a fragment. -/
inductive Expected
  | data (n : ℕ)
  /-- Nothing for the caller yet; the reader holds this alert byte, or none. -/
  | more (held : Option UInt8)
  | eof
  | fail (kind : ErrorKind)
  deriving DecidableEq, Repr

/-- The table for alert bytes, after those already held. -/
def expectAlert (eor : Prop) [Decidable eor] : Bytes → Expected
  | [l] => if eor then .fail .invalidData else .more (some l)
  | [l, d] => if eor ∧ IsLevel l ∧ d = 0 then .eof else .fail .invalidData
  | _ => .fail .invalidData

/-- What a reader that holds `held` should make of a fragment. -/
def expect (held : Option UInt8) (f : Fragment) : Expected :=
  if Truncated f.flags then .fail .invalidData
  else if f.payload = [] then
    if f.recordType = some applicationData ∧ held = none then .more none
    else if f.recordType.isSome ∨ EndOfRecord f.flags then .fail .invalidData
    else .fail .unexpectedEof
  else
    let recordType := f.recordType.getD applicationData
    if recordType = alertType then
      expectAlert (EndOfRecord f.flags) (held.toList ++ f.payload)
    else if held ≠ none then .fail .invalidData
    else if recordType = applicationData then .data f.payload.length
    else if recordType = handshakeType then .fail .unsupported
    else .fail .invalidData

/-- Only an explicit type makes a fragment an alert. -/
theorem getD_eq_alertType {t : Option UInt8} :
    t.getD applicationData = alertType ↔ t = some alertType := by
  rcases t with _ | t
  · simp [applicationData, alertType]
  · simp

/-- A missing type reads as application data. -/
theorem getD_eq_applicationData {t : Option UInt8} :
    t.getD applicationData = applicationData ↔ t = none ∨ t = some applicationData := by
  rcases t with _ | t <;> simp

/-- Alert bytes are never data. -/
theorem expectAlert_ne_data {eor : Prop} [Decidable eor] {bytes : Bytes} {n : ℕ} :
    expectAlert eor bytes ≠ .data n := by
  unfold expectAlert
  grind

/-- One byte of an unfinished record is kept. -/
theorem expectAlert_more_iff {eor : Prop} [Decidable eor] {bytes : Bytes} {kept : Option UInt8} :
    expectAlert eor bytes = .more kept ↔ ∃ l, kept = some l ∧ bytes = [l] ∧ ¬ eor := by
  unfold expectAlert
  grind

/-- Two bytes of a finished record close the stream, if they are a close_notify. -/
theorem expectAlert_eof_iff {eor : Prop} [Decidable eor] {bytes : Bytes} :
    expectAlert eor bytes = .eof ↔ ∃ l, IsLevel l ∧ bytes = [l, 0] ∧ eor := by
  unfold expectAlert
  grind

/-- The rows of the table that deliver data. -/
theorem expect_data_iff {held : Option UInt8} {f : Fragment} {n : ℕ} :
    expect held f = .data n ↔
      held = none ∧ ¬ Truncated f.flags ∧ f.payload ≠ [] ∧ n = f.payload.length ∧
        (f.recordType = none ∨ f.recordType = some applicationData) := by
  have : applicationData ≠ alertType := by decide
  simp only [expect, getD_eq_alertType, getD_eq_applicationData]
  grind [expectAlert_ne_data]

/-- The row of an alert fragment. -/
theorem expect_alert {held : Option UInt8} {f : Fragment} (ht : f.recordType = some alertType)
    (htr : ¬ Truncated f.flags) (hp : f.payload ≠ []) :
    expect held f = expectAlert (EndOfRecord f.flags) (held.toList ++ f.payload) := by
  unfold expect
  rw [if_neg htr, if_neg hp]
  simp only [getD_eq_alertType, if_pos ht]

/-- The row of a fragment that is neither application data nor an alert. -/
theorem expect_control {f : Fragment} {t : UInt8} (htr : ¬ Truncated f.flags) (hp : f.payload ≠ [])
    (ht : f.recordType = some t) (happ : t ≠ applicationData) (hal : t ≠ alertType) :
    expect none f = .fail (if t = handshakeType then .unsupported else .invalidData) := by
  unfold expect
  rw [if_neg htr, if_neg hp]
  simp only [ht, Option.getD_some, if_neg happ, if_neg hal, ne_eq, not_true_eq_false, if_false]
  split_ifs <;> rfl

/-- The rows of the table that leave the caller without a result. -/
theorem expect_more_iff {held kept : Option UInt8} {f : Fragment} :
    expect held f = .more kept ↔
      held = none ∧ ¬ Truncated f.flags ∧
        (kept = none ∧ f.payload = [] ∧ f.recordType = some applicationData ∨
          ∃ l, kept = some l ∧ f.IsAlert [l] false) := by
  have happ : applicationData ≠ alertType := by decide
  by_cases hal : f.recordType = some alertType ∧ ¬ Truncated f.flags ∧ f.payload ≠ []
  · obtain ⟨ht, htr, hp⟩ := hal
    rw [expect_alert ht htr hp, expectAlert_more_iff]
    have : ∀ l, held.toList ++ f.payload = [l] ↔ held = none ∧ f.payload = [l] := by
      rcases held with _ | b <;> simp [hp]
    grind [Fragment.isAlert_iff]
  · simp only [expect, getD_eq_alertType, getD_eq_applicationData]
    grind [Fragment.isAlert_iff]

/-- The rows of the table that end the stream cleanly. -/
theorem expect_eof_iff {held : Option UInt8} {f : Fragment} :
    expect held f = .eof ↔ ∃ l, IsLevel l ∧
      (held = none ∧ f.IsAlert [l, 0] true ∨ held = some l ∧ f.IsAlert [0] true) := by
  by_cases hal : f.recordType = some alertType ∧ ¬ Truncated f.flags ∧ f.payload ≠ []
  · obtain ⟨ht, htr, hp⟩ := hal
    rw [expect_alert ht htr hp, expectAlert_eof_iff]
    have : ∀ l, held.toList ++ f.payload = [l, 0] ↔
        held = none ∧ f.payload = [l, 0] ∨ held = some l ∧ f.payload = [0] := by
      rcases held with _ | b <;> simp
    grind [Fragment.isAlert_iff]
  · simp only [expect, getD_eq_alertType, getD_eq_applicationData]
    grind [Fragment.isAlert_iff]

/-! ## The reader against the table -/

/-- The reader is not terminal and holds this alert byte, or none. -/
def Holds (r : RecordReader) (held : Option UInt8) : Prop :=
  r.terminal = none ∧
    match held with
    | none => r.alertLen = 0
    | some l => r.alertLen = 1 ∧ r.alert[0]? = some l

/-- An empty alert buffer is no byte held. -/
theorem Holds.alertLen_eq_zero_iff {r : RecordReader} {held : Option UInt8} (h : Holds r held) :
    r.alertLen = 0 ↔ held = none := by
  obtain ⟨-, hh⟩ := h
  rcases held with _ | l
  · simpa using hh
  · simp [hh.1]

/-- A new reader holds no alert byte. -/
theorem holds_default : Holds RecordReader.default none :=
  ⟨rfl, rfl⟩

/-- A reader has done what was expected of it. -/
def Meets (r : RecordReader) (result : RecordReader × Exit (IoResult ReadOutcome)) :
    Expected → Prop
  | .data n => result = (r, .returned (.ok (.data n)))
  | .more held => result.2 = .returned (.ok .more) ∧ Holds result.1 held
  | .eof => result.2 = .returned (.ok .eof) ∧ result.1.terminal = some .closed
  | .fail kind => ∃ e, result.2 = .returned (.error e) ∧ e.kind = kind ∧
      result.1.terminal = some (.failed e.reproduce)

/-- What the caller gets, when it is not an error. -/
def Expected.outcome : Expected → Option ReadOutcome
  | .data n => some (.data n)
  | .more _ => some .more
  | .eof => some .eof
  | .fail _ => none

/-- The caller gets data iff the table says so. -/
@[simp] theorem Expected.outcome_eq_data {x : Expected} {n : ℕ} :
    x.outcome = some (.data n) ↔ x = .data n := by
  cases x <;> simp [Expected.outcome]

/-- The caller is told to go on iff the table has the reader go on. -/
@[simp] theorem Expected.outcome_eq_more {x : Expected} :
    x.outcome = some .more ↔ ∃ kept, x = .more kept := by
  cases x <;> simp [Expected.outcome]

/-- The caller sees the end iff the table has it. -/
@[simp] theorem Expected.outcome_eq_eof {x : Expected} : x.outcome = some .eof ↔ x = .eof := by
  cases x <;> simp [Expected.outcome]

/-- A reader that has done what was expected of it returns, and what it returns is in the table. -/
theorem Meets.returned {r : RecordReader} {result : RecordReader × Exit (IoResult ReadOutcome)}
    {x : Expected} (h : Meets r result x) :
    ∃ res, result.2 = .returned res ∧ ∀ o, res = .ok o ↔ x.outcome = some o := by
  rcases x with n | held | _ | kind
  · exact ⟨_, congrArg Prod.snd h, by simp [Expected.outcome]⟩
  · exact ⟨_, h.1, by simp [Expected.outcome]⟩
  · exact ⟨_, h.1, by simp [Expected.outcome]⟩
  · obtain ⟨e, he, -⟩ := h
    exact ⟨_, he, by simp [Expected.outcome]⟩

/-- How a result leaves the reader that was live before it. -/
def latch : IoResult ReadOutcome → Option Terminal
  | .ok .eof => some .closed
  | .ok _ => none
  | .error e => some (.failed e.reproduce)

/-- Only the end of the stream closes a reader. -/
@[simp] theorem latch_eq_closed {res : IoResult ReadOutcome} :
    latch res = some .closed ↔ res = .ok .eof := by
  rcases res with e | n | _ | _ <;> simp [latch]

/-- A live reader that has done what was expected of it is left as its result says. -/
theorem Meets.latched {r : RecordReader} {result : RecordReader × Exit (IoResult ReadOutcome)}
    {x : Expected} (h : Meets r result x) (hlive : r.terminal = none) :
    ∃ res, result.2 = .returned res ∧ result.1.terminal = latch res := by
  rcases x with n | held | _ | kind
  · obtain rfl : result = _ := h
    exact ⟨_, rfl, hlive⟩
  · exact ⟨_, h.1, h.2.1⟩
  · exact ⟨_, h.1, h.2⟩
  · obtain ⟨e, he, -, hterm⟩ := h
    exact ⟨_, he, hterm⟩

/-- A rejected fragment fails with `InvalidData`. -/
theorem meets_reject (r r' : RecordReader) (message : String) :
    Meets r (r'.reject message) (.fail .invalidData) :=
  ⟨_, rfl, rfl, rfl⟩

/-- The alert bytes after a copy: the payload from `start` on, the old ones elsewhere. -/
theorem copyAlert_getElem (alert : Vector UInt8 2) (start : ℕ) (payload : Bytes) (i : ℕ)
    (hi : i < 2) : (RecordReader.copyAlert alert start payload)[i] =
      if start ≤ i ∧ i < start + payload.length then payload.getD (i - start) 0 else alert[i] := by
  unfold RecordReader.copyAlert
  rw [Vector.getElem_ofFn]
  rfl

/-- The fragment that fills the alert buffer decides: it closes the stream or is rejected. -/
theorem consumeAlert_full (r : RecordReader) (flags : BitVec 32) (payload : Bytes) (l d : UInt8)
    (hlen : r.alertLen + payload.length = 2)
    (hl : (RecordReader.copyAlert r.alert r.alertLen payload)[0] = l)
    (hd : (RecordReader.copyAlert r.alert r.alertLen payload)[1] = d) :
    Meets r (r.consumeAlert flags payload)
      (if EndOfRecord flags ∧ IsLevel l ∧ d = 0 then .eof else .fail .invalidData) := by
  unfold RecordReader.consumeAlert
  rw [if_neg (by omega), if_neg (by omega)]
  simp only [hlen, hl, hd]
  rw [if_neg (by omega)]
  by_cases heor : EndOfRecord flags
  · simp only [heor, not_true_eq_false, if_false, ne_eq, true_and]
    by_cases hclose : IsLevel l ∧ d = 0
    · rw [if_pos hclose, if_pos (show (l = 1 ∨ l = 2) ∧ d = 0 from hclose)]
      exact ⟨rfl, rfl⟩
    · rw [if_neg hclose, if_neg (show ¬ ((l = 1 ∨ l = 2) ∧ d = 0) from hclose)]
      exact meets_reject r _ _
  · simp only [heor, not_false_eq_true, if_true, false_and, if_false]
    exact meets_reject r _ _

/-- The table for alert bytes is met. -/
theorem consumeAlert_meets {r : RecordReader} {held : Option UInt8} (hr : Holds r held)
    (flags : BitVec 32) {payload : Bytes} (hp : payload ≠ []) :
    Meets r (r.consumeAlert flags payload)
      (expectAlert (EndOfRecord flags) (held.toList ++ payload)) := by
  obtain ⟨hterm, hh⟩ := hr
  rcases held with _ | l
  · have hlen : r.alertLen = 0 := hh
    rcases payload with _ | ⟨l, _ | ⟨d, _ | ⟨x, rest⟩⟩⟩
    · exact absurd rfl hp
    · -- one byte: kept, unless the record ends with it
      unfold RecordReader.consumeAlert
      simp only [expectAlert, Option.toList_none, List.nil_append, hlen]
      by_cases heor : EndOfRecord flags
      · rw [if_pos heor]
        simp only [heor]
        exact meets_reject r _ _
      · rw [if_neg heor]
        simp [heor, Meets, Holds, hterm, copyAlert_getElem]
    · refine consumeAlert_full r flags [l, d] l d ?_ ?_ ?_
      · rw [hlen]
        rfl
      · simp [copyAlert_getElem, hlen]
      · simp [copyAlert_getElem, hlen]
    · unfold RecordReader.consumeAlert
      rw [hlen, if_neg (by omega), if_pos (by simp)]
      exact meets_reject r r _
  · obtain ⟨hlen, hbyte⟩ := hh
    have hl : r.alert[0] = l := by simpa using hbyte
    rcases payload with _ | ⟨d, _ | ⟨x, rest⟩⟩
    · exact absurd rfl hp
    · refine consumeAlert_full r flags [d] l d ?_ ?_ ?_
      · rw [hlen]
        rfl
      · simp [copyAlert_getElem, hlen, hl]
      · simp [copyAlert_getElem, hlen]
    · unfold RecordReader.consumeAlert
      rw [hlen, if_neg (by omega), if_pos (by simp)]
      exact meets_reject r r _

/-- **The reader meets the table.** -/
theorem consume_expect {r : RecordReader} {held : Option UInt8} (hr : Holds r held)
    (f : Fragment) : Meets r (r.feed f) (expect held f) := by
  have hfin : r.finished = none := by
    unfold RecordReader.finished
    rw [hr.1]
  have hlen := hr.alertLen_eq_zero_iff
  unfold RecordReader.feed RecordReader.consume expect
  rw [hfin]
  simp only [ne_eq, hlen]
  by_cases htr : Truncated f.flags
  · rw [if_pos htr, if_pos htr]
    exact meets_reject r r _
  rw [if_neg htr, if_neg htr]
  by_cases hp : f.payload = []
  · rw [if_pos hp, if_pos hp]
    split_ifs with hskip hmeta
    · exact ⟨rfl, hskip.2 ▸ hr⟩
    · exact meets_reject r r _
    · exact ⟨_, rfl, rfl, rfl⟩
  rw [if_neg hp, if_neg hp]
  generalize f.recordType.getD applicationData = t
  by_cases hal : t = alertType
  · have happ : alertType ≠ applicationData := by decide
    subst hal
    rw [if_neg (by simp), if_neg happ, if_pos rfl, if_pos rfl]
    exact consumeAlert_meets hr f.flags hp
  simp only [if_neg hal]
  by_cases hheld : held = none
  · simp only [hheld, not_true_eq_false, false_and, if_false]
    by_cases happ : t = applicationData
    · simp only [if_pos happ]
      exact rfl
    simp only [if_neg happ]
    by_cases hhs : t = handshakeType
    · simp only [if_pos hhs]
      exact ⟨_, rfl, rfl, rfl⟩
    · simp only [if_neg hhs]
      exact meets_reject r r _
  · simp only [if_pos hheld, if_pos (And.intro hheld hal)]
    exact meets_reject r r _

/-! ## Sequences of calls -/

/-- The reader after these calls on a default one. -/
def after (fs : List Fragment) : RecordReader :=
  fs.foldl (fun r f => (r.feed f).1) RecordReader.default

/-- What the call after these returns. -/
def outcome (fs : List Fragment) (f : Fragment) : Exit (IoResult ReadOutcome) :=
  ((after fs).feed f).2

/-- Before the first call the reader is the default one. -/
@[simp] theorem after_nil : after [] = RecordReader.default := rfl

/-- One more call. -/
@[simp] theorem after_concat (fs : List Fragment) (f : Fragment) :
    after (fs ++ [f]) = ((after fs).feed f).1 := by
  simp [after]

/-- A reader is terminal iff it has a final result. -/
theorem finished_eq_none_iff {r : RecordReader} : r.finished = none ↔ r.terminal = none := by
  unfold RecordReader.finished
  split <;> simp_all

/-- A terminal reader is not changed by a call, and repeats how it ended. -/
theorem feed_of_finished {r : RecordReader} {result : IoResult ReadOutcome}
    (h : r.finished = some result) (f : Fragment) : r.feed f = (r, .returned result) := by
  unfold RecordReader.feed RecordReader.consume
  rw [h]

/-- A terminal reader is not changed by a call. -/
theorem feed_of_terminal {r : RecordReader} (h : r.terminal ≠ none) (f : Fragment) :
    (r.feed f).1 = r := by
  obtain ⟨result, hfin⟩ := Option.ne_none_iff_exists'.mp (mt finished_eq_none_iff.mp h)
  rw [feed_of_finished hfin]

/-- **Step lemma.** A call that leaves the reader live leaves it holding the byte of a one-byte alert
fragment that does not end its record, or no byte. -/
theorem feed_holds {r : RecordReader} {held : Option UInt8} (hr : Holds r held) (f : Fragment)
    (hlive : (r.feed f).1.terminal = none) :
    ∃ kept, Holds (r.feed f).1 kept ∧ ∀ l, kept = some l ↔ f.IsAlert [l] false := by
  have hmeets := consume_expect hr f
  rcases hx : expect held f with n | kept | _ | kind
  · rw [hx] at hmeets
    obtain ⟨rfl, -, -, -, htype⟩ := expect_data_iff.mp hx
    have hr' : (r.feed f).1 = r := congrArg Prod.fst hmeets
    rw [hr']
    refine ⟨none, hr, fun l => ⟨nofun, fun hal => ?_⟩⟩
    rw [hal.type] at htype
    exact absurd htype (by decide)
  · rw [hx] at hmeets
    refine ⟨kept, hmeets.2, fun l => ?_⟩
    obtain ⟨-, -, ⟨rfl, hp, -⟩ | ⟨b, rfl, hb⟩⟩ := expect_more_iff.mp hx
    · refine ⟨nofun, fun hal => ?_⟩
      rw [hal.payload] at hp
      exact absurd hp (by simp)
    · constructor
      · rintro ⟨⟩
        exact hb
      · intro hal
        have : [b] = [l] := hb.payload.symm.trans hal.payload
        simp_all
  · rw [hx] at hmeets
    rw [hmeets.2] at hlive
    exact absurd hlive (by simp)
  · rw [hx] at hmeets
    obtain ⟨e, -, -, hterm⟩ := hmeets
    rw [hterm] at hlive
    exact absurd hlive (by simp)

/-- The last call left this alert byte behind. -/
def LeftByte (fs : List Fragment) (l : UInt8) : Prop :=
  ∃ g, fs.getLast? = some g ∧ g.IsAlert [l] false

/-- **Run lemma.** While the reader is live it holds exactly the byte that the last call left
behind. -/
theorem holds_after {fs : List Fragment} (hlive : (after fs).terminal = none) :
    ∃ held, Holds (after fs) held ∧ ∀ l, held = some l ↔ LeftByte fs l := by
  induction fs using List.reverseRecOn with
  | nil => exact ⟨none, holds_default, by simp [LeftByte]⟩
  | append_singleton fs f ih =>
      rw [after_concat] at hlive ⊢
      have hbefore : (after fs).terminal = none := by
        by_contra hne
        rw [feed_of_terminal hne] at hlive
        exact hne hlive
      obtain ⟨held, hheld, -⟩ := ih hbefore
      obtain ⟨kept, hkept, hiff⟩ := feed_holds hheld f hlive
      refine ⟨kept, hkept, fun l => (hiff l).trans ?_⟩
      simp [LeftByte]

/-- Once the reader is terminal, no call changes it. -/
theorem after_append_of_terminal {fs : List Fragment} (h : (after fs).terminal ≠ none)
    (gs : List Fragment) : after (fs ++ gs) = after fs := by
  induction gs using List.reverseRecOn with
  | nil => rw [List.append_nil]
  | append_singleton gs g ih =>
      rw [← List.append_assoc, after_concat, ih, feed_of_terminal h]

/-- The reader is live iff no step so far was terminal. -/
theorem live_iff_always {fs : List Fragment} :
    (after fs).terminal = none ↔ Lib.Trace.Always (fun u => (after u).terminal = none) fs := by
  constructor
  · rintro h u ⟨v, rfl⟩
    by_contra hne
    rw [after_append_of_terminal hne] at h
    exact hne h
  · intro h
    exact h fs (List.prefix_refl fs)

/-- A call on a live reader leaves it as the result says. -/
theorem outcome_latched {fs : List Fragment} (hlive : (after fs).terminal = none) (f : Fragment) :
    ∃ res, outcome fs f = .returned res ∧ (after (fs ++ [f])).terminal = latch res := by
  obtain ⟨held, hheld, -⟩ := holds_after hlive
  rw [after_concat]
  exact (consume_expect hheld f).latched hlive

/-- A call returns `Eof` iff it leaves the reader closed. -/
theorem outcome_eof_iff_closed {fs : List Fragment} {f : Fragment} :
    outcome fs f = .returned (.ok .eof) ↔ (after (fs ++ [f])).terminal = some .closed := by
  by_cases hlive : (after fs).terminal = none
  · obtain ⟨res, hres, hterm⟩ := outcome_latched hlive f
    rw [hres, hterm, latch_eq_closed, Exit.returned.injEq]
  · rw [after_concat]
    unfold outcome
    obtain ⟨t, ht⟩ := Option.ne_none_iff_exists'.mp hlive
    rcases t with _ | e
    · have hfin : (after fs).finished = some (.ok .eof) := by simp [RecordReader.finished, ht]
      simp [feed_of_finished hfin, ht]
    · have hfin : (after fs).finished = some (.error (copyError e)) := by
        simp [RecordReader.finished, ht]
      simp [feed_of_finished hfin, ht]

/-- No step so far returned `Eof`. -/
def NoEof (fs : List Fragment) : Prop :=
  Lib.Trace.Respects (fun u g => outcome u g ≠ .returned (.ok .eof)) fs

/-- The reader is closed iff some step has returned `Eof`. -/
theorem noEof_iff {fs : List Fragment} : NoEof fs ↔ (after fs).terminal ≠ some .closed := by
  induction fs using List.reverseRecOn with
  | nil => simp [NoEof, RecordReader.default]
  | append_singleton fs f ih =>
      unfold NoEof at ih ⊢
      rw [Lib.Trace.respects_concat, ih, Ne, Ne, outcome_eof_iff_closed]
      constructor
      · exact And.right
      · intro h
        refine ⟨fun hclosed => h ?_, h⟩
        rw [after_append_of_terminal (by simp [hclosed]), hclosed]

/-- What a terminal reader returns: neither data nor `More`. -/
theorem outcome_of_terminal {fs : List Fragment} (h : (after fs).terminal ≠ none) (f : Fragment) :
    ∃ res, (after fs).finished = some res ∧ outcome fs f = .returned res ∧
      ∀ o, res = .ok o → o = .eof := by
  obtain ⟨res, hfin⟩ := Option.ne_none_iff_exists'.mp (mt finished_eq_none_iff.mp h)
  refine ⟨res, hfin, by rw [outcome, feed_of_finished hfin], ?_⟩
  unfold RecordReader.finished at hfin
  split at hfin
  · simp at hfin
  · rintro o rfl
    simpa using hfin.symm
  · rintro o rfl
    simp at hfin

/-- Before the stream is closed, what a call returns without an error is in the table, for the byte the
last call left behind. -/
theorem outcome_ok_iff {fs : List Fragment} {f : Fragment} {o : ReadOutcome} :
    outcome fs f = .returned (.ok o) ∧ (after fs).terminal ≠ some .closed ↔
      ∃ held, Holds (after fs) held ∧ (∀ l, held = some l ↔ LeftByte fs l) ∧
        (expect held f).outcome = some o := by
  constructor
  · rintro ⟨hout, hopen⟩
    by_cases hlive : (after fs).terminal = none
    · obtain ⟨held, hheld, hleft⟩ := holds_after hlive
      obtain ⟨res, hres, hiff⟩ := (consume_expect hheld f).returned
      rw [outcome, hres, Exit.returned.injEq] at hout
      exact ⟨held, hheld, hleft, (hiff o).mp hout⟩
    · -- only a closed reader repeats a result that is not an error
      obtain ⟨res, -, hres, heof⟩ := outcome_of_terminal hlive f
      rw [hres, Exit.returned.injEq] at hout
      have ho : o = .eof := heof o hout
      rw [hout, ho] at hres
      have hclosed := outcome_eof_iff_closed.mp hres
      rw [after_append_of_terminal hlive] at hclosed
      exact absurd hclosed hopen
  · rintro ⟨held, hheld, -, ho⟩
    obtain ⟨res, hres, hiff⟩ := (consume_expect hheld f).returned
    refine ⟨?_, by simp [hheld.1]⟩
    rw [outcome, hres, (hiff o).mpr ho]

/-- The same for a result that is not `Eof`, which no closed reader returns. -/
theorem outcome_ok_iff_of_ne_eof {fs : List Fragment} {f : Fragment} {o : ReadOutcome}
    (ho : o ≠ .eof) :
    outcome fs f = .returned (.ok o) ↔
      ∃ held, Holds (after fs) held ∧ (∀ l, held = some l ↔ LeftByte fs l) ∧
        (expect held f).outcome = some o := by
  rw [← outcome_ok_iff, iff_self_and]
  intro hout hclosed
  have hterm : (after fs).terminal ≠ none := by simp [hclosed]
  obtain ⟨res, -, hres, heof⟩ := outcome_of_terminal hterm f
  rw [hres, Exit.returned.injEq] at hout
  exact ho (heof o hout)

/-- An error that a call returns is kept: the reader ends up failed with a copy of it. -/
theorem finished_of_outcome_error {fs : List Fragment} {f : Fragment} {e : IoError}
    (h : outcome fs f = .returned (.error e)) :
    (after (fs ++ [f])).finished = some (.error e.reproduce) := by
  by_cases hlive : (after fs).terminal = none
  · obtain ⟨res, hres, hterm⟩ := outcome_latched hlive f
    rw [hres, Exit.returned.injEq] at h
    subst h
    simp only [RecordReader.finished, hterm, latch, copyError, IoError.reproduce_reproduce]
  · obtain ⟨res, hfin, hres, -⟩ := outcome_of_terminal hlive f
    rw [hres, Exit.returned.injEq] at h
    subst h
    rw [after_append_of_terminal hlive, hfin]
    -- the error is itself a copy of the one that was kept
    unfold RecordReader.finished at hfin
    split at hfin
    · simp at hfin
    · simp at hfin
    · rw [Option.some_inj, Except.error.injEq] at hfin
      rw [← hfin, copyError, IoError.reproduce_reproduce]

/-- A final result is repeated by every later call. -/
theorem outcome_of_finished {fs : List Fragment} {res : IoResult ReadOutcome}
    (h : (after fs).finished = some res) (gs : List Fragment) (g : Fragment) :
    outcome (fs ++ gs) g = .returned res := by
  have hterm : (after fs).terminal ≠ none := by
    rw [Ne, ← finished_eq_none_iff, h]
    simp
  rw [outcome, after_append_of_terminal hterm, feed_of_finished h]

/-- The contract of the record reader: `f` comes after the calls `fs`. -/
structure Contract (fs : List Fragment) (f : Fragment) : Prop where
  /-- A live reader holds at most one alert byte. -/
  alertLen_le : (after fs).terminal = none → (after fs).alertLen ≤ 1
  /-- No subtraction or slice of the call is out of range. -/
  returns : ∃ res, outcome fs f = .returned res
  /-- The first `Eof` is returned for a complete close_notify alert only. -/
  eof : outcome fs f = .returned (.ok .eof) ∧ NoEof fs ↔
    Lib.Trace.Always (fun u => (after u).terminal = none) fs ∧ ∃ l, IsLevel l ∧
      ((after fs).alertLen = 0 ∧ f.IsAlert [l, 0] true ∨ LeftByte fs l ∧ f.IsAlert [0] true)
  /-- Bytes are delivered for untruncated application data only. -/
  data : ∀ n, outcome fs f = .returned (.ok (.data n)) ↔
    (after fs).terminal = none ∧ (after fs).alertLen = 0 ∧
      (f.flags &&& msgCtrunc = 0 ∧ f.flags &&& msgTrunc = 0) ∧
      f.payload ≠ [] ∧ n = f.payload.length ∧
      (f.recordType = none ∨ f.recordType = some applicationData)
  /-- Nothing is skipped but empty application-data records and the first byte of an alert. -/
  more : outcome fs f = .returned (.ok .more) ↔
    (after fs).terminal = none ∧ (after fs).alertLen = 0 ∧ ¬ Truncated f.flags ∧
      (f.payload = [] ∧ f.recordType = some applicationData ∨ ∃ l, f.IsAlert [l] false)
  /-- After the first `Eof` every call returns `Eof`. -/
  eof_latched : outcome fs f = .returned (.ok .eof) →
    ∀ gs g, outcome (fs ++ [f] ++ gs) g = .returned (.ok .eof)
  /-- After the first error every call returns a copy of it. -/
  error_latched : ∀ e, outcome fs f = .returned (.error e) →
    ∀ gs g, outcome (fs ++ [f] ++ gs) g = .returned (.error e.reproduce)

/-- **The reader fails closed**, for every sequence of calls. -/
theorem fail_closed (fs : List Fragment) (f : Fragment) : Contract fs f where
  alertLen_le hlive := by
    obtain ⟨held, ⟨-, hheld⟩, -⟩ := holds_after hlive
    rcases held with _ | l
    · exact le_of_eq_of_le hheld zero_le_one
    · exact le_of_eq hheld.1
  returns := by
    by_cases hlive : (after fs).terminal = none
    · obtain ⟨res, hres, -⟩ := outcome_latched hlive f
      exact ⟨res, hres⟩
    · obtain ⟨res, -, hres, -⟩ := outcome_of_terminal hlive f
      exact ⟨res, hres⟩
  eof := by
    rw [noEof_iff, ← live_iff_always, outcome_ok_iff]
    constructor
    · rintro ⟨held, hheld, hleft, hx⟩
      obtain ⟨l, hl, ⟨rfl, hal⟩ | ⟨rfl, hal⟩⟩ := expect_eof_iff.mp (Expected.outcome_eq_eof.mp hx)
      · exact ⟨hheld.1, l, hl, .inl ⟨hheld.alertLen_eq_zero_iff.mpr rfl, hal⟩⟩
      · exact ⟨hheld.1, l, hl, .inr ⟨(hleft l).mp rfl, hal⟩⟩
    · rintro ⟨hlive, l, hl, hal⟩
      obtain ⟨held, hheld, hleft⟩ := holds_after hlive
      refine ⟨held, hheld, hleft, Expected.outcome_eq_eof.mpr (expect_eof_iff.mpr ⟨l, hl, ?_⟩)⟩
      rwa [hheld.alertLen_eq_zero_iff, ← hleft l] at hal
  data n := by
    rw [outcome_ok_iff_of_ne_eof (by simp), ← not_truncated_iff]
    simp only [Expected.outcome_eq_data, expect_data_iff]
    constructor
    · rintro ⟨held, hheld, -, hnone, htr, hrest⟩
      exact ⟨hheld.1, hheld.alertLen_eq_zero_iff.mpr hnone, htr, hrest⟩
    · rintro ⟨hlive, hlen, htr, hrest⟩
      obtain ⟨held, hheld, hleft⟩ := holds_after hlive
      exact ⟨held, hheld, hleft, hheld.alertLen_eq_zero_iff.mp hlen, htr, hrest⟩
  more := by
    rw [outcome_ok_iff_of_ne_eof (by simp)]
    simp only [Expected.outcome_eq_more, expect_more_iff]
    constructor
    · rintro ⟨held, hheld, -, kept, hnone, htr, hrow⟩
      refine ⟨hheld.1, hheld.alertLen_eq_zero_iff.mpr hnone, htr, ?_⟩
      exact hrow.imp And.right (fun ⟨l, _, hal⟩ => ⟨l, hal⟩)
    · rintro ⟨hlive, hlen, htr, hrow⟩
      obtain ⟨held, hheld, hleft⟩ := holds_after hlive
      have hnone := hheld.alertLen_eq_zero_iff.mp hlen
      rcases hrow with hempty | ⟨l, hal⟩
      · exact ⟨held, hheld, hleft, none, hnone, htr, .inl ⟨rfl, hempty⟩⟩
      · exact ⟨held, hheld, hleft, some l, hnone, htr, .inr ⟨l, rfl, hal⟩⟩
  eof_latched h gs g := by
    refine outcome_of_finished ?_ gs g
    rw [RecordReader.finished, outcome_eof_iff_closed.mp h]
  error_latched e h gs g := outcome_of_finished (finished_of_outcome_error h) gs g

end TokioAwsLc.Ktls
