import Mathlib

/-!
# Frames that carry their length

A string over an alphabet `α` is cut into frames. The first symbol of a frame says, by `len : α → ℕ`,
how many more belong to it. Nothing here knows how a frame is read or what it holds.

* `Frame len`: a head and as many symbols as it announces. `write fs` is the string of some frames.
* `Stuck len w`: no frame can be taken off the front of `w`, because it is empty or ends too early.
* `Splits len w fs rest`: `w` is the frames `fs` and a stuck rest. `exists_splits` and `Splits.unique`:
  there is one way to do this. `Splits.initial_frames`: no other run of frames goes further.
* `WellFormed len w` and `IsLongest len u w`: a string of whole frames, and the longest such prefix.
  `Splits.isLongest` says that splitting finds it.
-/

namespace TokioAwsLc.Lib.Framing

variable {α : Type*} {len : α → ℕ}

/-! ## Frames -/

/-- A head and as many symbols as it announces. -/
structure Frame (len : α → ℕ) where
  head : α
  body : List α
  length_body : body.length = len head

/-- The frame as a string. -/
def Frame.symbols (f : Frame len) : List α :=
  f.head :: f.body

/-- The string of some frames, one after the other. -/
def write (fs : List (Frame len)) : List α :=
  fs.flatMap Frame.symbols

/-- No frames, no bytes. -/
@[simp] theorem write_nil : write ([] : List (Frame len)) = [] := rfl

/-- A frame is its head and its body, before the others. -/
@[simp] theorem write_cons (f : Frame len) (fs : List (Frame len)) :
    write (f :: fs) = f.head :: (f.body ++ write fs) := by
  simp [write, Frame.symbols]

/-- Frames are written one after the other. -/
@[simp] theorem write_append (fs gs : List (Frame len)) : write (fs ++ gs) = write fs ++ write gs := by
  simp [write]

/-- No frame can be taken off the front. -/
def Stuck (len : α → ℕ) (w : List α) : Prop :=
  w = [] ∨ ∃ a v, w = a :: v ∧ v.length < len a

/-- There is no frame at the end. -/
theorem stuck_nil : Stuck len [] :=
  .inl rfl

/-- A string that begins with a frame is not stuck. -/
theorem not_stuck_frame (f : Frame len) (v : List α) : ¬ Stuck len (f.head :: (f.body ++ v)) := by
  rintro (h | ⟨a, u, h, hlt⟩)
  · cases h
  · obtain ⟨rfl, rfl⟩ := List.cons.inj h
    rw [List.length_append, f.length_body] at hlt
    omega

/-- Frames are self-delimiting: two of them at the front of one string are the same. -/
theorem frame_unique {f g : Frame len} {v w : List α}
    (h : f.head :: (f.body ++ v) = g.head :: (g.body ++ w)) : f = g ∧ v = w := by
  obtain ⟨a, body, hbody⟩ := f
  obtain ⟨b, body', hbody'⟩ := g
  obtain ⟨rfl, htail⟩ := List.cons.inj h
  obtain ⟨rfl, rfl⟩ := List.append_inj htail (hbody.trans hbody'.symm)
  exact ⟨rfl, rfl⟩

/-! ## Splitting -/

/-- The string is these frames and a rest that is stuck. -/
structure Splits (len : α → ℕ) (w : List α) (fs : List (Frame len)) (rest : List α) : Prop where
  eq : w = write fs ++ rest
  stuck : Stuck len rest

/-- A stuck string splits into no frames. -/
theorem splits_stuck {w : List α} (h : Stuck len w) : Splits len w [] w :=
  ⟨rfl, h⟩

/-- A frame in front is one frame more. -/
theorem Splits.cons {w rest : List α} {fs : List (Frame len)} (h : Splits len w fs rest)
    (f : Frame len) : Splits len (f.head :: (f.body ++ w)) (f :: fs) rest := by
  refine ⟨?_, h.stuck⟩
  rw [h.eq, write_cons, List.cons_append, List.append_assoc]

/-- Every string splits. -/
theorem exists_splits (len : α → ℕ) (w : List α) : ∃ fs rest, Splits len w fs rest := by
  induction hn : w.length using Nat.strong_induction_on generalizing w with
  | _ n ih =>
      rcases w with _ | ⟨a, v⟩
      · exact ⟨[], [], splits_stuck stuck_nil⟩
      by_cases hlen : len a ≤ v.length
      · have hlt : (v.drop (len a)).length < n := by
          rw [← hn, List.length_drop, List.length_cons]
          omega
        obtain ⟨fs, rest, hsplits⟩ := ih _ hlt _ rfl
        have hframe := hsplits.cons ⟨a, v.take (len a), List.length_take_of_le hlen⟩
        rw [List.take_append_drop] at hframe
        exact ⟨_, rest, hframe⟩
      · exact ⟨[], a :: v, splits_stuck (.inr ⟨a, v, rfl, not_le.mp hlen⟩)⟩

/-- Other frames at the front of the string are a part of these. -/
theorem Splits.initial_frames {w rest : List α} {fs : List (Frame len)} (h : Splits len w fs rest)
    {gs : List (Frame len)} {v : List α} (hg : w = write gs ++ v) : gs <+: fs := by
  induction gs generalizing w fs with
  | nil => exact List.nil_prefix
  | cons g gs ih =>
      rw [write_cons, List.cons_append, List.append_assoc] at hg
      have heq := h.eq
      rcases fs with _ | ⟨f, fs⟩
      · -- nothing was split off: the rest begins with a frame
        rw [write_nil, List.nil_append, hg] at heq
        have hstuck := h.stuck
        rw [← heq] at hstuck
        exact absurd hstuck (not_stuck_frame g _)
      · rw [write_cons, List.cons_append, List.append_assoc, hg] at heq
        obtain ⟨rfl, htail⟩ := frame_unique heq
        exact (List.cons_prefix_cons).mpr ⟨rfl, ih ⟨htail, h.stuck⟩ rfl⟩

/-- A string splits in one way. -/
theorem Splits.unique {w rest rest' : List α} {fs fs' : List (Frame len)}
    (h : Splits len w fs rest) (h' : Splits len w fs' rest') : fs = fs' ∧ rest = rest' := by
  have hfs : fs = fs' :=
    (h'.initial_frames h.eq).eq_of_length_le (h.initial_frames h'.eq).length_le
  subst hfs
  exact ⟨rfl, List.append_cancel_left (h.eq.symm.trans h'.eq)⟩

/-! ## The longest well-formed prefix -/

/-- A string of whole frames. -/
def WellFormed (len : α → ℕ) (w : List α) : Prop :=
  ∃ fs : List (Frame len), w = write fs

/-- The longest prefix of a string that is well formed. -/
structure IsLongest (len : α → ℕ) (u w : List α) : Prop where
  isPrefix : u <+: w
  wellFormed : WellFormed len u
  longest : ∀ v, v <+: w → WellFormed len v → v.length ≤ u.length

/-- Splitting finds the longest well-formed prefix. -/
theorem Splits.isLongest {w rest : List α} {fs : List (Frame len)} (h : Splits len w fs rest) :
    IsLongest len (write fs) w where
  isPrefix := ⟨rest, h.eq.symm⟩
  wellFormed := ⟨fs, rfl⟩
  longest := by
    rintro v ⟨u, hv⟩ ⟨gs, rfl⟩
    obtain ⟨hs, rfl⟩ := h.initial_frames hv.symm
    rw [write_append, List.length_append]
    exact Nat.le_add_right _ _

/-- There is only one longest well-formed prefix. -/
theorem IsLongest.unique {u u' w : List α} (h : IsLongest len u w) (h' : IsLongest len u' w) :
    u = u' := by
  have hlen : u.length = u'.length :=
    le_antisymm (h'.longest u h.isPrefix h.wellFormed) (h.longest u' h'.isPrefix h'.wellFormed)
  exact (List.prefix_of_prefix_length_le h.isPrefix h'.isPrefix hlen.le).eq_of_length hlen

/-- Strings of frames determine the frames. -/
theorem write_injective : Function.Injective (write : List (Frame len) → List α) := by
  intro fs gs h
  exact (Splits.unique ⟨(List.append_nil _).symm, stuck_nil⟩ ⟨h.trans (List.append_nil _).symm,
    stuck_nil⟩).1

end TokioAwsLc.Lib.Framing
