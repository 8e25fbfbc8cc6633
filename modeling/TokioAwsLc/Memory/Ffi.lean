import TokioAwsLc.Config.Builder
import TokioAwsLc.Lib.Guard
import TokioAwsLc.Lib.Ownership

/-!
# The objects behind the pointers

The model of the builders in `TokioAwsLc.Config` knows the values that are put into a context. This layer
knows the objects: which of them AWS-LC allocates, who holds a reference to them, and who gives it up.

* `Kind` and `Slot`: the objects that the crate has to do with, and what they hold of one another. A session
  keeps its context alive, and a context its certificates, its key and the crate's ALPN buffer.
* `Owning`: a computation on the library's state and on the heap. `call` makes a computation of
  `TokioAwsLc.Config` one of these.
* `create`, `share` and `give` are the three ways in which the functions of AWS-LC that the crate calls treat
  references, as their documentation has it: they return a new one, they count one more, or they take over
  the caller's. `follow` is what the functions do that return a pointer the caller must not free.
* `Owns R`: the crate holds the references `R`, and all counts are right. `Keeps R m` says that `m` gives
  back what it takes, whether it fails or not.
* `State.aws` is the view for which `Simulates` relates this layer to the one below.
-/

set_option linter.unusedSectionVars false

namespace TokioAwsLc.Memory

open Config
open Ktls (Fault)
open Lib.Guard Lib.Ownership

/-! ## Objects -/

/-- The kinds of objects. All but the last are AWS-LC's; the last is the `Box<Vec<u8>>` of
`install_alpn_wire`.
Source: `src/ffi.rs`, `src/config/server.rs` `install_alpn_wire` -/
inductive Kind
  | sslCtx
  | ssl
  | bio
  | x509
  | evpPkey
  | alpnWire
  deriving DecidableEq, Repr

instance : Fintype Kind where
  elems := {.sslCtx, .ssl, .bio, .x509, .evpPkey, .alpnWire}
  complete k := by cases k <;> decide

/-- What objects hold of one another. -/
inductive Slot
  /-- The context of a session. -/
  | ctx
  /-- The BIO of a session, once for reading and writing. -/
  | bio
  /-- The certificate that the peer of a session has presented. -/
  | peer
  /-- The leaf certificate, the chain, the private key and the trust store of a context. -/
  | leaf
  | chain
  | key
  | store
  /-- The ex_data slot of a context that `alpn_ex_index` has registered, with `alpn_ex_free`. -/
  | exData
  deriving DecidableEq, Repr

/-- Objects hold references only downwards. -/
def Kind.rank : Kind → ℕ
  | .ssl => 2
  | .sslCtx => 1
  | _ => 0

/-- A raw pointer of the source, with the type it points to. -/
structure Raw (k : Kind) where
  addr : ℕ
  deriving DecidableEq, Repr

/-- The object that it points to. -/
def Raw.ptr {k : Kind} (p : Raw k) : Ptr Kind :=
  (k, p.addr)

instance {k : Kind} : CoeOut (Raw k) (Ptr Kind) :=
  ⟨Raw.ptr⟩

/-- What AWS-LC knows about the context under construction, and the objects. -/
structure State (Cert Key : Type) where
  aws : AwsState Cert Key
  heap : Heap Kind Slot

/-- Give up a reference: `SSL_CTX_free`, `SSL_free`, `BIO_free`, `X509_free`, `EVP_PKEY_free`, and the drop of
the ALPN buffer. -/
def State.drop {Cert Key : Type} (p : Ptr Kind) (s : State Cert Key) : State Cert Key :=
  { s with heap := s.heap.release p }

/-- A computation on the library's state and the objects. -/
abbrev Owning (Cert Key : Type) :=
  EStateM Fault (State Cert Key)

variable {Cert Key α β : Type} {k l : Kind}

/-! ## Operations on objects -/

/-- A computation that has nothing to do with objects. -/
def call (m : Configure Cert Key α) : Owning Cert Key α := fun s =>
  match m.run s.aws with
  | .ok a t => .ok a { s with aws := t }
  | .error e t => .error e { s with aws := t }

/-- The library allocates an object, and the caller has the reference to it. -/
def new (k : Kind) : Owning Cert Key (Raw k) := fun s =>
  .ok ⟨s.heap.next⟩ { s with heap := (s.heap.alloc k).1 }

/-- The library looks at an object. -/
def borrow (p : Ptr Kind) : Owning Cert Key PUnit :=
  modify fun s => { s with heap := s.heap.use p }

/-- The `_free` functions. -/
def free (p : Ptr Kind) : Owning Cert Key PUnit :=
  modify (State.drop p)

/-- The library counts one more reference. -/
def upRef (p : Ptr Kind) : Owning Cert Key PUnit :=
  modify fun s => { s with heap := s.heap.retain p }

/-- The pointer that an object holds in a slot, which stays its own. -/
def follow (q : Ptr Kind) (slot : Slot) : Owning Cert Key (Option (Ptr Kind)) := do
  borrow q
  let s ← get
  pure (s.heap.target q slot)

/-- An object takes over a reference of the caller. -/
def take (q : Raw k) (slot : Slot) (p : Raw l) : Owning Cert Key PUnit :=
  modify fun s => { s with heap := s.heap.hold q.ptr slot p.ptr }

/-- The library allocates an object that only the object `q` knows. -/
def adopt (q : Raw k) (slot : Slot) (l : Kind) : Owning Cert Key PUnit := do
  let p ← new l
  take q slot p

/-- An object gives up what it holds in a slot. -/
def clearSlot (q : Raw k) (slot : Slot) : Owning Cert Key PUnit :=
  modify fun s => { s with heap := s.heap.clear q.ptr slot }

/-- Calls on an object. -/
def within (p : Raw k) (m : Configure Cert Key α) : Owning Cert Key α := do
  borrow p
  call m

/-- Calls while a local variable owns an object, and has to drop it on the way out by `?`. -/
def guarding (p : Ptr Kind) (m : Owning Cert Key α) : Owning Cert Key α :=
  onError (State.drop p) m

/-! ## The functions of AWS-LC -/

section ffi

variable (aws : AwsLc Cert Key)

/-- A constructor, whose NULL the crate turns into an error: `SSL_CTX_new`, `SSL_new`, `BIO_new_mem_buf` and
`BIO_new_socket`. -/
def create (label : String) (k : Kind) (f : SslCtx Cert Key → SslCtx Cert Key) :
    Owning Cert Key (Raw k) := do
  call (setter aws label f)
  new k

/-- The functions that count one more reference when they succeed: `SSL_CTX_use_certificate` and
`SSL_CTX_use_PrivateKey`, which give up what was in the slot, and `X509_STORE_add_cert`, which does not. -/
def share (slot : Slot) (replace : Bool) (f : SslCtx Cert Key → SslCtx Cert Key) (ctx : Raw .sslCtx)
    (x : Raw k) : Owning Cert Key Bool := do
  borrow x
  let ok ← within ctx (attempt aws)
  if ok then do
    upRef x
    modify fun s => { s with heap := if replace then s.heap.clear ctx.ptr slot else s.heap }
    take ctx slot x
    call (update f)
    pure true
  else
    pure false

/-- The functions that take over the caller's reference when they succeed: `SSL_CTX_add0_chain_cert`, and
`SSL_CTX_set_ex_data` on a slot that is empty, as that of a new context is. -/
def give (slot : Slot) (f : SslCtx Cert Key → SslCtx Cert Key) (ctx : Raw .sslCtx) (x : Raw k) :
    Owning Cert Key Bool := do
  borrow x
  let ok ← within ctx (attempt aws)
  if ok then do
    take ctx slot x
    call (update f)
    pure true
  else
    pure false

/-- The crate's idiom for the first kind: the local reference is given up, and then the answer is looked
at. -/
def shareAndFree (label : String) (slot : Slot) (replace : Bool)
    (f : SslCtx Cert Key → SslCtx Cert Key) (ctx : Raw .sslCtx) (x : Raw k) : Owning Cert Key PUnit := do
  let ok ← share aws slot replace f ctx x
  free x
  if ok then pure ⟨⟩ else call (failWith aws label)

/-- Its idiom for the second kind: the local reference is given up only if it is still there. -/
def giveOrFree (label : String) (slot : Slot) (f : SslCtx Cert Key → SslCtx Cert Key)
    (ctx : Raw .sslCtx) (x : Raw k) : Owning Cert Key PUnit := do
  let ok ← give aws slot f ctx x
  if ok then
    pure ⟨⟩
  else do
    free x
    call (failWith aws label)

end ffi

/-! ## Balance -/

/-- The crate holds the references `R`, and all counts are right. -/
def Owns (R : Multiset (Ptr Kind)) (s : State Cert Key) : Prop :=
  Balanced Kind.rank s.heap R

/-- The object is there. -/
def Present (p : Ptr Kind) (s : State Cert Key) : Prop :=
  ∃ o, s.heap.objs p = some o

/-- Whether the computation fails or not, the crate holds what it has held. -/
def Keeps (R : Multiset (Ptr Kind)) (m : Owning Cert Key α) : Prop :=
  Triple (Owns R) m (fun _ => Owns R) fun _ => Owns R

section balance

variable {R : Multiset (Ptr Kind)} {p : Ptr Kind} {slot : Slot} {m : Owning Cert Key α}
  {E : Fault → State Cert Key → Prop}

/-- One computation after the other. -/
theorem Keeps.bind (hm : Keeps R m) {f : α → Owning Cert Key β} (hf : ∀ a, Keeps R (f a)) :
    Keeps R (m >>= f) :=
  Triple.bind hm hf

/-- A value costs nothing. -/
theorem keeps_pure (a : α) : Keeps R (pure a : Owning Cert Key α) :=
  triple_pure fun _ hs => hs

/-- Neither does an error. -/
theorem keeps_throw (e : Fault) : Keeps R (throw e : Owning Cert Key α) :=
  triple_throw fun _ hs => hs

/-- Both branches have to keep the balance. -/
theorem keeps_ite {c : Prop} [Decidable c] {m' : Owning Cert Key α} (h : Keeps R m) (h' : Keeps R m') :
    Keeps R (if c then m else m') :=
  triple_ite (fun _ => h) fun _ => h'

/-- What has nothing to do with objects leaves them alone. -/
theorem keeps_call (m : Configure Cert Key α) : Keeps R (call m) := by
  intro s hs
  change Ends _ _ (call m s)
  unfold call
  rcases m.run s.aws with ⟨a, t⟩ | ⟨e, t⟩
  · exact hs
  · exact hs

/-- Changing a value of the context changes no object. -/
theorem triple_update (f : SslCtx Cert Key → SslCtx Cert Key) :
    Triple (Owns R) (call (update f)) (fun _ => Owns R) E :=
  fun _ hs => hs

/-- The caller owns what it allocates. -/
theorem triple_new (k : Kind) :
    Triple (Owns R) (new k : Owning Cert Key (Raw k)) (fun p => Owns (p.ptr ::ₘ R)) E :=
  fun _ hs => hs.alloc k

/-- What the crate holds is there. -/
theorem Owns.present {s : State Cert Key} (h : Owns R s) (hp : p ∈ R) : Present p s :=
  Balanced.exists_of_mem h hp

/-- Dropping what the crate holds keeps the counts right. -/
theorem Owns.drop {s : State Cert Key} (h : Owns (p ::ₘ R) s) : Owns R (s.drop p) :=
  Balanced.release h

/-- A rule for objects that are there is one for those that the crate holds. -/
theorem triple_of_mem (hp : p ∈ R) {Q : α → State Cert Key → Prop}
    (h : Triple (fun s => Owns R s ∧ Present p s) m Q E) : Triple (Owns R) m Q E := by
  apply h.mono
  · intro s hs
    exact ⟨hs, hs.present hp⟩
  · exact fun _ _ hs => hs
  · exact fun _ _ hs => hs

/-- An object that is there can be looked at. -/
theorem triple_borrow_of_present :
    Triple (fun s => Owns R s ∧ Present p s) (borrow p : Owning Cert Key PUnit) (fun _ => Owns R) E := by
  apply triple_modify
  rintro s ⟨hs, o, ho⟩
  rw [Heap.use_eq ho]
  exact hs

/-- So can one that the crate holds. -/
theorem triple_borrow (hp : p ∈ R) :
    Triple (Owns R) (borrow p : Owning Cert Key PUnit) (fun _ => Owns R) E :=
  triple_of_mem hp triple_borrow_of_present

/-- **What is freed has to be held**, once for each call. -/
theorem triple_free :
    Triple (Owns (p ::ₘ R)) (free p : Owning Cert Key PUnit) (fun _ => Owns R) E := by
  apply triple_modify
  intro s hs
  exact hs.drop

/-- A reference to an object that is there is one more to be freed. -/
theorem triple_upRef_of_present :
    Triple (fun s => Owns R s ∧ Present p s) (upRef p : Owning Cert Key PUnit)
      (fun _ => Owns (p ::ₘ R)) E := by
  apply triple_modify
  rintro s ⟨hs, o, ho⟩
  exact hs.retain ho

/-- So is one to an object that the crate holds. -/
theorem triple_upRef (hp : p ∈ R) :
    Triple (Owns R) (upRef p : Owning Cert Key PUnit) (fun _ => Owns (p ::ₘ R)) E :=
  triple_of_mem hp triple_upRef_of_present

/-- A pointer that an object holds is NULL, or one to an object that is there. -/
theorem triple_follow {f : Option (Ptr Kind) → Owning Cert Key α} {Q : α → State Cert Key → Prop}
    (hnone : Triple (Owns R) (f none) Q E)
    (hsome : ∀ q, Triple (fun s => Owns R s ∧ Present q s) (f (some q)) Q E) :
    Triple (fun s => Owns R s ∧ Present p s) (follow p slot >>= f) Q E := by
  rintro s ⟨hs, o, ho⟩
  change Ends Q E ((f ((s.heap.use p).target p slot)).run { s with heap := s.heap.use p })
  rw [Heap.use_eq ho]
  rcases htarget : s.heap.target p slot with _ | q
  · exact hnone s hs
  · exact hsome q s ⟨hs, hs.exists_of_target htarget⟩

/-- What takes the reference is there, and is of a higher rank. -/
theorem triple_take {q : Raw k} {slot : Slot} {p : Raw l} (hq : q.ptr ∈ R) (hrank : l.rank < k.rank) :
    Triple (Owns (p.ptr ::ₘ R)) (take q slot p : Owning Cert Key PUnit) (fun _ => Owns R) E := by
  apply triple_modify
  intro s hs
  obtain ⟨o, ho⟩ := hs.exists_of_mem (Multiset.mem_cons_of_mem hq)
  exact hs.hold ho hrank

/-- An object that only another one knows is freed with that. -/
theorem triple_adopt {q : Raw k} {slot : Slot} (hq : q.ptr ∈ R) (hrank : l.rank < k.rank) :
    Triple (Owns R) (adopt q slot l : Owning Cert Key PUnit) (fun _ => Owns R) E :=
  (triple_new l).bind fun _ => triple_take hq hrank

/-- What is in a slot is given up. -/
theorem triple_clearSlot {q : Raw k} {slot : Slot} (hq : q.ptr ∈ R) :
    Triple (Owns R) (clearSlot q slot : Owning Cert Key PUnit) (fun _ => Owns R) E := by
  apply triple_modify
  intro s hs
  obtain ⟨o, ho⟩ := hs.exists_of_mem hq
  exact hs.clear ho slot

/-- Calls on an object that the crate holds. -/
theorem keeps_within {p : Raw k} (hp : p.ptr ∈ R) (m : Configure Cert Key α) : Keeps R (within p m) :=
  (triple_borrow hp).bind fun _ => keeps_call m

/-- The variable goes with the failure, and nothing else. -/
theorem triple_guarding {Q : α → State Cert Key → Prop}
    (h : Triple (Owns (p ::ₘ R)) m Q fun _ => Owns (p ::ₘ R)) :
    Triple (Owns (p ::ₘ R)) (guarding p m) Q fun _ => Owns R :=
  h.onError fun _ _ hs => hs.drop

variable {aws : AwsLc Cert Key} {label : String} {f : SslCtx Cert Key → SslCtx Cert Key}
  {ctx : Raw .sslCtx} {x : Raw k}

/-- To ask the library is not to fail. -/
theorem triple_within_attempt {p : Raw k} (hp : p.ptr ∈ R) :
    Triple (Owns R) (within p (attempt aws)) (fun _ => Owns R) E :=
  (triple_borrow hp).bind fun _ => fun _ hs => hs

/-- Making an error of the queue has nothing to do with objects. -/
theorem triple_failWith {Q : α → State Cert Key → Prop} :
    Triple (Owns R) (call (failWith aws label)) Q fun _ => Owns R := by
  intro s hs
  obtain ⟨message, hrun⟩ := run_failWith (α := α) aws label s.aws
  change Ends _ _ (call (failWith aws label) s)
  unfold call
  rw [hrun]
  exact hs

/-- A constructor returns an object, or nothing was allocated. -/
theorem triple_create :
    Triple (Owns R) (create aws label k f) (fun p => Owns (p.ptr ::ₘ R)) fun _ => Owns R :=
  Triple.bind (keeps_call _) fun _ => triple_new k

/-- The caller keeps its reference, whatever the answer. -/
theorem triple_share {replace : Bool} (hctx : ctx.ptr ∈ R) (hx : x.ptr ∈ R) (hk : k.rank = 0) :
    Triple (Owns R) (share aws slot replace f ctx x) (fun _ => Owns R) E := by
  apply (triple_borrow hx).bind
  intro _
  apply (triple_within_attempt hctx).bind
  intro ok
  apply triple_ite
  · intro _
    apply (triple_upRef hx).bind
    intro _
    refine Triple.bind (Q := fun _ => Owns (x.ptr ::ₘ R)) ?_ ?_
    · apply triple_modify
      intro s hs
      obtain ⟨o, ho⟩ := hs.exists_of_mem (Multiset.mem_cons_of_mem hctx)
      unfold Owns
      by_cases hreplace : replace = true
      · simp only [if_pos hreplace]
        exact hs.clear ho slot
      · simp only [if_neg hreplace]
        exact hs
    · intro _
      refine (triple_take hctx ?_).bind ?_
      · rw [hk]
        exact Nat.one_pos
      · intro _
        exact (triple_update f).bind fun _ => triple_pure fun _ hs => hs
  · intro _
    exact triple_pure fun _ hs => hs

/-- The caller's reference is gone if the answer is yes. -/
theorem triple_give (hctx : ctx.ptr ∈ R) (hk : k.rank = 0) :
    Triple (Owns (x.ptr ::ₘ R)) (give aws slot f ctx x)
      (fun ok => Owns (if ok then R else x.ptr ::ₘ R)) E := by
  apply (triple_borrow (Multiset.mem_cons_self _ _)).bind
  intro _
  apply (triple_within_attempt (Multiset.mem_cons_of_mem hctx)).bind
  intro ok
  apply triple_ite
  · intro _
    refine (triple_take hctx ?_).bind ?_
    · rw [hk]
      exact Nat.one_pos
    · intro _
      exact (triple_update f).bind fun _ => triple_pure fun _ hs => hs
  · intro _
    exact triple_pure fun _ hs => hs

/-- **The local reference is given up on every path.** -/
theorem triple_shareAndFree {replace : Bool} (hctx : ctx.ptr ∈ R) (hk : k.rank = 0) :
    Triple (Owns (x.ptr ::ₘ R)) (shareAndFree aws label slot replace f ctx x) (fun _ => Owns R)
      fun _ => Owns R := by
  apply (triple_share (Multiset.mem_cons_of_mem hctx) (Multiset.mem_cons_self _ _) hk).bind
  intro ok
  apply triple_free.bind
  intro _
  exact keeps_ite (keeps_pure _) (keeps_call _)

/-- **The reference is taken over, or given up**, on every path. -/
theorem triple_giveOrFree (hctx : ctx.ptr ∈ R) (hk : k.rank = 0) :
    Triple (Owns (x.ptr ::ₘ R)) (giveOrFree aws label slot f ctx x) (fun _ => Owns R)
      fun _ => Owns R := by
  apply (triple_give hctx hk).bind
  intro ok
  apply triple_ite
  · intro hok
    simp only [if_pos hok]
    exact keeps_pure _
  · intro hok
    simp only [if_neg hok]
    apply triple_free.bind
    intro _
    exact keeps_call _

end balance

/-! ## The view from below -/

section view

variable {aws : AwsLc Cert Key} {label : String} {slot : Slot} {f : SslCtx Cert Key → SslCtx Cert Key}
  {ctx : Raw .sslCtx} {x : Raw k} {m : Owning Cert Key α} {n : Configure Cert Key β} {r : α → β}

end view

end TokioAwsLc.Memory
