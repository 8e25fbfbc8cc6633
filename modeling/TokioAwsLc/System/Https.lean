import TokioAwsLc.System.Alpn

/-!
# The HTTPS connector

`HttpsConnector::call` makes a connection for hyper's client: it looks at the URI, has `HttpConnector` make
a TCP connection, and has `TlsConnector` make a TLS connection on top of that. What an attacker must not be
able to do is to get between these steps, or to have the certificate checked against another name than the
one in the URI.

* `Uri`, `bareHost`: what the connector reads in a URI, and the name it hands on.
* `Call` is a call that an executor polls. `poll` goes as far as the answers of `HttpConnector` and of
  libssl allow; the last step is the future of `TokioAwsLc.Handshake.Connect`.
* `Called` is what holds in every run, one constructor for each place the call can be at.
* `https_connector` is the result.
-/

set_option linter.unusedSectionVars false

namespace TokioAwsLc.System

open Config Handshake
open Ktls (Hash)

/-! ## URIs -/

/-- What is read in a URI. The TCP step is given all of it.
Source: `http::Uri` -/
structure Uri where
  schemeStr : Option String
  host : Option String
  deriving DecidableEq, Repr

/-- `{scheme:?}`. The characters of a scheme are none that `Debug` would escape. -/
def debugScheme : Option String → String
  | none => "None"
  | some scheme => s!"Some(\"{scheme}\")"

/-- The message for a URI of another scheme.
Source: `src/hyper.rs` `HttpsConnector::call` -/
def schemeMessage (uri : Uri) : String :=
  let scheme := debugScheme uri.schemeStr
  s!"HttpsConnector requires https://; got scheme {scheme}"

/-- `strip_prefix('[')`, then `strip_suffix(']')`, and the host as it is if one of them is missing.
Source: `src/hyper.rs` `HttpsConnector::call` -/
def bareHost (host : String) : String :=
  match host.toList with
  | '[' :: rest => if rest.getLast? = some ']' then String.ofList rest.dropLast else host
  | _ => host

/-- The brackets of an IPv6 literal are taken off. -/
theorem bareHost_brackets (a : String) : bareHost ("[" ++ a ++ "]") = a := by
  have hlist : ("[" ++ a ++ "]").toList = '[' :: (a.toList ++ [']']) := by
    simp
  unfold bareHost
  rw [hlist]
  simp

/-- A host without an opening bracket is handed on as it is. -/
theorem bareHost_of_ne {host : String} (h : host.toList.head? ≠ some '[') : bareHost host = host := by
  unfold bareHost
  split
  · rename_i rest hlist
    simp [hlist] at h
  · rfl

/-! ## The call -/

/-- All errors are `io::Error::other`, of a message or of another error. -/
inductive HttpsError
  | other (message : String)
  /-- The error of the `HttpConnector`. -/
  | tcp (message : String)
  | tls (e : Handshake.Error)
  deriving DecidableEq, Repr

section call

variable {Cert Key W : Type}

/-- What polling the future of the `HttpConnector` yields: nothing yet, an error, or a connected socket with
its readiness. The library is then in the state `lib`. -/
inductive TcpAnswer (Cert Key : Type)
  | pending
  | failed (message : String)
  | connected (fd : ℤ) (ready : Dir → Bool) (lib : AwsState Cert Key)

/-- Where a call is: before its first poll, in the TCP step, in the TLS step, or done. The socket and the
TLS step are kept when it is done. -/
inductive CallPhase (Cert Key W : Type)
  | start
  | tcp (host : String)
  | tls (host : String) (fd : ℤ) (c : Conn Cert Key W)
  | finished (last : Option (ℤ × Conn Cert Key W))

/-- A call, the calls of `HttpConnector` that it has made, and what it has returned. -/
structure Call (Cert Key W : Type) where
  phase : CallPhase Cert Key W
  dials : List Uri
  result : Option (Except HttpsError (Established Cert Key W))

/-- What the environment does during one poll. -/
structure CallTurn (Cert Key : Type) where
  tcp : TcpAnswer Cert Key
  tls : Handshake.Turn Cert

/-- The executor polls the future, or the socket becomes ready. -/
inductive CallOp (Cert Key W : Type)
  | poll (cx : W) (turn : CallTurn Cert Key)
  | event (d : Dir)

/-- The socket and the TLS step, once there are any. -/
def Call.conn (s : Call Cert Key W) : Option (ℤ × Conn Cert Key W) :=
  match s.phase with
  | .start => none
  | .tcp _ => none
  | .tls _ fd c => some (fd, c)
  | .finished last => last

namespace Call

variable [DecidableEq W]

/-- A call nobody has polled yet. -/
def new : Call Cert Key W :=
  ⟨.start, [], none⟩

/-- How a poll leaves things. -/
abbrev Left (Cert Key W : Type) :=
  Call Cert Key W × Exit (Poll (Except HttpsError (Established Cert Key W)))

/-- The future returns. -/
def finish (s : Call Cert Key W) (r : Except HttpsError (Established Cert Key W)) : Left Cert Key W :=
  ({ s with phase := .finished s.conn, result := some r }, .returned (.ready r))

variable (hkdfExpand : Hash → Bytes → Bytes → (len : ℕ) → ℤ × Vector UInt8 len)
variable {aws : AwsLc Cert Key} (tls : TlsConnector aws) (isIp : String → Bool)

/-- `tls.connect(host, tcp).await`. -/
def awaitTls (s : Call Cert Key W) (cx : W) (turn : Handshake.Turn Cert) (host : String) (fd : ℤ)
    (c : Conn Cert Key W) : Left Cert Key W :=
  let o := c.poll hkdfExpand (connect aws isIp tls.cfg (bareHost host) fd) cx turn
  let s := { s with phase := .tls host fd o.1 }
  match o.2 with
  | .returned (.ready (.ok e)) => s.finish (.ok e)
  | .returned (.ready (.error e)) => s.finish (.error (.tls e))
  | .returned .pending => (s, .returned .pending)
  | .panicked => (s, .panicked)
  | .running => (s, .running)

/-- `Service::<Uri>::call(&mut http, uri).await`. -/
def awaitTcp (s : Call Cert Key W) (cx : W) (turn : CallTurn Cert Key) (host : String) : Left Cert Key W :=
  match turn.tcp with
  | .pending => (s, .returned .pending)
  | .failed message => s.finish (.error (.tcp message))
  | .connected fd ready lib => s.awaitTls hkdfExpand tls isIp cx turn.tls host fd (.start lib ready)

/-- One poll of the future.
Source: `src/hyper.rs` `HttpsConnector::call` -/
def poll (uri : Uri) (s : Call Cert Key W) (cx : W) (turn : CallTurn Cert Key) : Left Cert Key W :=
  match s.phase with
  | .start =>
      if uri.schemeStr ≠ some "https" then
        s.finish (.error (.other (schemeMessage uri)))
      else
        match uri.host with
        | none => s.finish (.error (.other "URI is missing a host"))
        | some host =>
            { s with phase := .tcp host, dials := s.dials ++ [uri] }.awaitTcp hkdfExpand tls isIp cx turn
              host
  | .tcp host => s.awaitTcp hkdfExpand tls isIp cx turn host
  | .tls host fd c => s.awaitTls hkdfExpand tls isIp cx turn.tls host fd c
  | .finished _ => (s, .panicked)

/-- Readiness events between the polls. -/
def events (s : Call Cert Key W) (ds : List Dir) : Call Cert Key W :=
  match s.phase with
  | .tls host fd c => { s with phase := .tls host fd (c.events ds) }
  | .start => s
  | .tcp _ => s
  | .finished _ => s

/-- One operation; the flag says whether it completed. -/
def step (uri : Uri) (s : Call Cert Key W) : CallOp Cert Key W → Call Cert Key W × Bool
  | .poll cx turn =>
      let o := s.poll hkdfExpand tls isIp uri cx turn
      match o.2 with
      | .returned _ => (o.1.events turn.tls.script.leave, true)
      | .panicked => (o.1, false)
      | .running => (o.1, false)
  | .event d => (s.events [d], true)

/-- Play a list of operations, up to the first that does not complete. -/
def run (uri : Uri) (ops : List (CallOp Cert Key W)) : Call Cert Key W :=
  (Lib.Runs.exec (step hkdfExpand tls isIp uri) new ops).1

end Call

end call

/-! ## What holds in every run -/

section called

variable {Cert Key W : Type} [DecidableEq W] {aws : AwsLc Cert Key}
variable {hkdfExpand : Hash → Bytes → Bytes → (len : ℕ) → ℤ × Vector UInt8 len}
variable {tls : TlsConnector aws} {isIp : String → Bool} {uri : Uri} {s : Call Cert Key W}
  {host : String} {fd : ℤ} {c : Conn Cert Key W} {lib : AwsState Cert Key} {bits : ℕ}

/-- The URI is one of https, with this host. -/
structure Uri.Asks (uri : Uri) (host : String) : Prop where
  scheme : uri.schemeStr = some "https"
  host : uri.host = some host

/-- A URI that asks for a host has one. -/
theorem Uri.Asks.host_ne_none (h : uri.Asks host) : uri.host ≠ none := by
  rw [h.host]
  exact Option.some_ne_none host

/-- A call for `uri`, at each place it can be at. From the TLS step on there is a connection attempt on the
socket of the TCP step, for the name in the URI. -/
inductive Called (hkdfExpand : Hash → Bytes → Bytes → (len : ℕ) → ℤ × Vector UInt8 len)
    (tls : TlsConnector aws) (isIp : String → Bool) (uri : Uri) : Call Cert Key W → Prop
  | start : Called hkdfExpand tls isIp uri .new
  | scheme (h : uri.schemeStr ≠ some "https") :
      Called hkdfExpand tls isIp uri ⟨.finished none, [], some (.error (.other (schemeMessage uri)))⟩
  | noHost (hscheme : uri.schemeStr = some "https") (hhost : uri.host = none) :
      Called hkdfExpand tls isIp uri ⟨.finished none, [], some (.error (.other "URI is missing a host"))⟩
  | dialing {host : String} (huri : uri.Asks host) :
      Called hkdfExpand tls isIp uri ⟨.tcp host, [uri], none⟩
  | unreachable {host : String} {message : String} (huri : uri.Asks host) :
      Called hkdfExpand tls isIp uri ⟨.finished none, [uri], some (.error (.tcp message))⟩
  | handshaking {host : String} {fd : ℤ} {c : Conn Cert Key W} {lib : AwsState Cert Key} {bits : ℕ}
      (huri : uri.Asks host)
      (h : Attempt hkdfExpand (connect aws isIp tls.cfg (bareHost host) fd) lib bits c) :
      Called hkdfExpand tls isIp uri ⟨.tls host fd c, [uri], none⟩
  | done {host : String} {fd : ℤ} {c : Conn Cert Key W} {lib : AwsState Cert Key} {bits : ℕ}
      {r : Except Handshake.Error (Established Cert Key W)} (huri : uri.Asks host)
      (h : Attempt hkdfExpand (connect aws isIp tls.cfg (bareHost host) fd) lib bits c)
      (hr : c.result = some r) :
      Called hkdfExpand tls isIp uri ⟨.finished (some (fd, c)), [uri], some (r.mapError .tls)⟩

/-- The TLS step. -/
theorem called_awaitTls (huri : uri.Asks host)
    (h : Attempt hkdfExpand (connect aws isIp tls.cfg (bareHost host) fd) lib bits c)
    (phase : CallPhase Cert Key W) (cx : W) (turn : Handshake.Turn Cert) :
    Called hkdfExpand tls isIp uri
      ((Call.mk phase [uri] none).awaitTls hkdfExpand tls isIp cx turn host fd c).1 := by
  have hpoll := h.poll cx turn
  have hresult := @Conn.result_poll _ _ _ _ hkdfExpand (connect aws isIp tls.cfg (bareHost host) fd) c cx turn
  unfold Call.awaitTls
  generalize c.poll hkdfExpand (connect aws isIp tls.cfg (bareHost host) fd) cx turn = o at hpoll hresult
  rcases o with ⟨c', ((e | e) | _) | _ | _⟩
  · exact .done huri hpoll (hresult rfl)
  · exact .done huri hpoll (hresult rfl)
  · exact .handshaking huri hpoll
  · exact .handshaking huri hpoll
  · exact .handshaking huri hpoll

/-- The TCP step, and what follows it in the same poll. -/
theorem called_awaitTcp (huri : uri.Asks host) (cx : W) (turn : CallTurn Cert Key) :
    Called hkdfExpand tls isIp uri
      ((Call.mk (.tcp host) [uri] none).awaitTcp hkdfExpand tls isIp cx turn host).1 := by
  unfold Call.awaitTcp
  rcases turn.tcp with _ | message | ⟨fd, ready, lib⟩
  · exact .dialing huri
  · exact .unreachable huri
  · exact called_awaitTls huri (attempt_start _ lib ready) (.tcp host) cx turn.tls

/-- **One poll.** -/
theorem Called.poll (h : Called hkdfExpand tls isIp uri s) (cx : W) (turn : CallTurn Cert Key) :
    Called hkdfExpand tls isIp uri (s.poll hkdfExpand tls isIp uri cx turn).1 := by
  cases h with
  | start =>
      by_cases hscheme : uri.schemeStr = some "https"
      · rcases hhost : uri.host with _ | host
        · simp only [Call.poll, Call.new, hscheme, hhost, ne_eq, not_true_eq_false, if_false]
          exact .noHost hscheme hhost
        · simp only [Call.poll, Call.new, hscheme, hhost, ne_eq, not_true_eq_false, if_false]
          exact called_awaitTcp ⟨hscheme, hhost⟩ cx turn
      · simp only [Call.poll, Call.new, ne_eq, hscheme, not_false_eq_true, if_true]
        exact .scheme hscheme
  | scheme h => exact .scheme h
  | noHost hscheme hhost => exact .noHost hscheme hhost
  | dialing huri => exact called_awaitTcp huri cx turn
  | unreachable huri => exact .unreachable huri
  | handshaking huri h => exact called_awaitTls huri h _ cx turn.tls
  | done huri h hr => exact .done huri h hr

/-- Readiness events keep the invariant. -/
theorem Called.events (h : Called hkdfExpand tls isIp uri s) (ds : List Dir) :
    Called hkdfExpand tls isIp uri (s.events ds) := by
  cases h with
  | start => exact .start
  | scheme h => exact .scheme h
  | noHost hscheme hhost => exact .noHost hscheme hhost
  | dialing huri => exact .dialing huri
  | unreachable huri => exact .unreachable huri
  | handshaking huri h => exact .handshaking huri (h.events ds)
  | done huri h hr => exact .done huri h hr

/-- **One operation.** -/
theorem Called.step (h : Called hkdfExpand tls isIp uri s) (op : CallOp Cert Key W) :
    Called hkdfExpand tls isIp uri (s.step hkdfExpand tls isIp uri op).1 := by
  cases op with
  | event d => exact h.events [d]
  | poll cx turn =>
      have hpoll := h.poll cx turn
      simp only [Call.step]
      split
      · exact hpoll.events turn.tls.script.leave
      · exact hpoll
      · exact hpoll

/-- **Run lemma.** -/
theorem called_run (hkdfExpand : Hash → Bytes → Bytes → (len : ℕ) → ℤ × Vector UInt8 len)
    (tls : TlsConnector aws) (isIp : String → Bool) (uri : Uri) (ops : List (CallOp Cert Key W)) :
    Called hkdfExpand tls isIp uri (Call.run hkdfExpand tls isIp uri ops) := by
  apply Lib.Runs.exec_invariant (I := Called hkdfExpand tls isIp uri)
  · intro s op h
    exact h.step op
  · exact .start

end called

/-! ## The result -/

section result

variable {Cert Key W : Type} [DecidableEq W] {aws : AwsLc Cert Key}
variable (hkdfExpand : Hash → Bytes → Bytes → (len : ℕ) → ℤ × Vector UInt8 len)

/-- The history of the TLS step. -/
def Call.trace (s : Call Cert Key W) : List (Handshake.Act (Handle Cert Key) (Negotiated Cert) W) :=
  match s.conn with
  | none => []
  | some (_, c) => c.socket.trace

/-- What the runs of a call for `uri` show. -/
structure HttpsConnects (pki : Pki Cert) (tls : TlsConnector aws) (isIp : String → Bool) (uri : Uri)
    (s : Call Cert Key W) : Prop where
  /-- There is at most one TCP connection, for this URI. -/
  dials : s.dials = [] ∨ s.dials = [uri]
  /-- For a URI of another scheme there is none, and no handshake. -/
  scheme : uri.schemeStr ≠ some "https" → s.dials = [] ∧ calls s.trace = [] ∧
    ∀ r, s.result = some r → r = .error (.other (schemeMessage uri))
  /-- Nor for a URI without a host. -/
  no_host : uri.schemeStr = some "https" → uri.host = none → s.dials = [] ∧ calls s.trace = [] ∧
    ∀ r, s.result = some r → r = .error (.other "URI is missing a host")
  /-- libssl is called only on the socket of the TCP connection, and on a handle that is pinned to the host
  of the URI. -/
  pinned : ∀ ssl a, .doHandshake ssl a ∈ calls s.trace → s.dials = [uri] ∧ uri.schemeStr = some "https" ∧
    ∃ host fd c, uri.host = some host ∧ s.conn = some (fd, c) ∧
      ssl = pinned isIp tls.cfg.ctx (bareHost host) fd
  /-- An IPv6 literal is checked as an address, and is not announced. -/
  literal : ∀ a, uri.host = some ("[" ++ a ++ "]") → isIp a = true →
    ∀ ssl x, .doHandshake ssl x ∈ calls s.trace → ssl.ip = some a ∧ ssl.sni = none ∧ ssl.host = none
  /-- Another host is announced and checked as it stands in the URI. -/
  named : ∀ a, uri.host = some a → a.toList.head? ≠ some '[' → isIp a = false →
    ∀ ssl x, .doHandshake ssl x ∈ calls s.trace → ssl.sni = some a ∧ ssl.host = some a ∧ ssl.ip = none
  /-- A stream is handed out only after libssl has finished the handshake on that handle. -/
  finished : ∀ e, s.result = some (.ok e) → ∃ host fd c, uri.Asks host ∧ s.conn = some (fd, c) ∧
    (calls s.trace).getLast? =
      some (.doHandshake (Handshake.pinned isIp tls.cfg.ctx (bareHost host) fd) (.done e.session))
  /-- Unless verification was disabled, its peer has a chain to the anchors of the builder, and the name in
  the URI. -/
  authenticated : aws.clientCtx.TrustsNobody → Verifying pki s.trace → tls.builder.roots ≠ .disabled →
    ∀ e, s.result = some (.ok e) → ∃ host anchors leaf rest, uri.host = some host ∧
      tls.builder.roots.Reads aws anchors ∧ e.session.peerChain = leaf :: rest ∧
      pki.verifies anchors tls.builder.roots.isSystem (leaf :: rest) ∧ pki.names isIp leaf (bareHost host)

variable {hkdfExpand} {pki : Pki Cert} {tls : TlsConnector aws} {isIp : String → Bool} {uri : Uri}

/-- A call that has made no TCP connection, or has none yet. -/
theorem httpsConnects_of_quiet {s : Call Cert Key W} (hconn : s.conn = none)
    (hdials : s.dials = [] ∨ s.dials = [uri]) (hok : ∀ e, s.result ≠ some (.ok e))
    (hscheme : uri.schemeStr ≠ some "https" → s.dials = [] ∧
      ∀ r, s.result = some r → r = .error (.other (schemeMessage uri)))
    (hhost : uri.schemeStr = some "https" → uri.host = none → s.dials = [] ∧
      ∀ r, s.result = some r → r = .error (.other "URI is missing a host")) :
    HttpsConnects pki tls isIp uri s := by
  have htrace : s.trace = [] := by
    rw [Call.trace, hconn]
  have hcalls : calls s.trace = [] := by
    rw [htrace]
    rfl
  refine ⟨hdials, ?_, ?_, ?_, ?_, ?_, ?_, ?_⟩
  · intro h
    exact ⟨(hscheme h).1, hcalls, (hscheme h).2⟩
  · intro h h'
    exact ⟨(hhost h h').1, hcalls, (hhost h h').2⟩
  · intro ssl a hmem
    rw [hcalls] at hmem
    cases hmem
  · intro a _ _ ssl x hmem
    rw [hcalls] at hmem
    cases hmem
  · intro a _ _ _ ssl x hmem
    rw [hcalls] at hmem
    cases hmem
  · intro e he
    exact absurd he (hok e)
  · intro _ _ _ e he
    exact absurd he (hok e)

/-- A call in its TLS step, or behind it. -/
theorem httpsConnects_of_conn {s : Call Cert Key W} {host : String} {fd : ℤ} {c : Conn Cert Key W}
    (huri : uri.Asks host) (hconn : s.conn = some (fd, c)) (hdials : s.dials = [uri])
    (hresult : ∀ e, s.result = some (.ok e) → c.result = some (.ok e))
    (h : ConnectAuthenticates hkdfExpand pki isIp tls (bareHost host) fd c) :
    HttpsConnects pki tls isIp uri s := by
  have htrace : s.trace = c.socket.trace := by
    rw [Call.trace, hconn]
  have hpinned : ∀ ssl a, .doHandshake ssl a ∈ calls s.trace →
      ssl = Handshake.pinned isIp tls.cfg.ctx (bareHost host) fd := by
    intro ssl a hmem
    rw [htrace] at hmem
    exact h.pinned ssl a hmem
  refine ⟨.inr hdials, ?_, ?_, ?_, ?_, ?_, ?_, ?_⟩
  · intro hscheme
    exact absurd huri.scheme hscheme
  · intro _ hnone
    exact absurd hnone huri.host_ne_none
  · intro ssl a hmem
    exact ⟨hdials, huri.scheme, host, fd, c, huri.host, hconn, hpinned ssl a hmem⟩
  · intro a hhost hip ssl x hmem
    have hbare : bareHost host = a := by
      rw [huri.host] at hhost
      rw [Option.some.inj hhost, bareHost_brackets]
    rw [hpinned ssl x hmem, hbare, Handshake.pinned, if_pos hip]
    exact ⟨rfl, rfl, rfl⟩
  · intro a hhost hbracket hip ssl x hmem
    have hbare : bareHost host = a := by
      rw [huri.host] at hhost
      rw [Option.some.inj hhost, bareHost_of_ne hbracket]
    rw [hpinned ssl x hmem, hbare, Handshake.pinned, if_neg (by simp [hip])]
    exact ⟨rfl, rfl, rfl⟩
  · intro e he
    refine ⟨host, fd, c, huri, hconn, ?_⟩
    rw [htrace]
    exact (h.finished e (hresult e he)).1
  · intro hnew hverifying hroots e he
    rw [htrace] at hverifying
    obtain ⟨anchors, leaf, rest, hauth⟩ := h.authenticated hnew hverifying hroots e (hresult e he)
    exact ⟨host, anchors, leaf, rest, huri.host, hauth⟩

/-- **An HTTPS connection is a connection to the host of its URI**, in every run of the call, whatever the
URI is and whatever `HttpConnector` and libssl do. -/
theorem https_connector (pki : Pki Cert) (tls : TlsConnector aws) (isIp : String → Bool) (uri : Uri)
    (ops : List (CallOp Cert Key W)) :
    HttpsConnects pki tls isIp uri (Call.run hkdfExpand tls isIp uri ops) := by
  have h := called_run hkdfExpand tls isIp uri ops
  generalize Call.run hkdfExpand tls isIp uri ops = s at h
  cases h with
  | start =>
      refine httpsConnects_of_quiet rfl (.inl rfl) ?_ (fun _ => ⟨rfl, ?_⟩) fun _ _ => ⟨rfl, ?_⟩
      · intro e he
        cases he
      · intro r hr
        cases hr
      · intro r hr
        cases hr
  | scheme h =>
      refine httpsConnects_of_quiet rfl (.inl rfl) ?_ (fun _ => ⟨rfl, ?_⟩) fun hs => absurd hs h
      · intro e he
        cases he
      · intro r hr
        exact (Option.some.inj hr).symm
  | noHost hscheme hhost =>
      refine httpsConnects_of_quiet rfl (.inl rfl) ?_ (fun hs => absurd hscheme hs) fun _ _ => ⟨rfl, ?_⟩
      · intro e he
        cases he
      · intro r hr
        exact (Option.some.inj hr).symm
  | dialing huri =>
      refine httpsConnects_of_quiet rfl (.inr rfl) ?_ (fun hs => absurd huri.scheme hs) ?_
      · intro e he
        cases he
      · intro _ hnone
        exact absurd hnone huri.host_ne_none
  | unreachable huri =>
      refine httpsConnects_of_quiet rfl (.inr rfl) ?_ (fun hs => absurd huri.scheme hs) ?_
      · intro e he
        cases he
      · intro _ hnone
        exact absurd hnone huri.host_ne_none
  | handshaking huri h =>
      refine httpsConnects_of_conn huri rfl rfl ?_ (connectAuthenticates_of_attempted hkdfExpand h.attempted)
      intro e he
      cases he
  | @done host fd c lib bits r huri h hr =>
      refine httpsConnects_of_conn huri rfl rfl ?_ (connectAuthenticates_of_attempted hkdfExpand h.attempted)
      intro e he
      have hmap : r.mapError HttpsError.tls = .ok e := Option.some.inj he
      rcases r with e' | e'
      · cases hmap
      · obtain rfl := Except.ok.inj hmap
        exact hr

end result

namespace Sample

/-- `https://example.org` -/
def uri : Uri :=
  ⟨some "https", some "example.org"⟩

/-- `HttpConnector` connects in the first poll, and the handshake is finished in it, too. -/
def turn : CallTurn String Unit where
  tcp := .connected 3 (fun _ => false) Config.Sample.start
  tls := Handshake.Sample.turn

/-- One poll of the call. -/
def called : Call String Unit Unit :=
  .run Handshake.Sample.hkdfExpand Config.Sample.connector Handshake.Sample.isIp uri [.poll () turn]

/-- The call of the sample is the sample's handshake. -/
theorem trace_called : called.trace = Handshake.Sample.connected.socket.trace :=
  rfl

end Sample

/-- A call for `https://example.org` yields a stream whose peer has that name, and a chain to the anchors of
the builder. -/
theorem https_connector_sample : ∃ e anchors leaf rest, Sample.called.result = some (.ok e) ∧
    Config.Sample.client.roots.Reads Config.Sample.lib anchors ∧ e.session.peerChain = leaf :: rest ∧
    Handshake.Sample.pki.verifies anchors false (leaf :: rest) ∧
    Handshake.Sample.pki.names Handshake.Sample.isIp leaf "example.org" := by
  have h : HttpsConnects Handshake.Sample.pki Config.Sample.connector Handshake.Sample.isIp Sample.uri
      Sample.called :=
    https_connector Handshake.Sample.pki Config.Sample.connector Handshake.Sample.isIp Sample.uri
      [.poll () Sample.turn]
  have hverifying : Verifying Handshake.Sample.pki Sample.called.trace := by
    rw [Sample.trace_called]
    exact Handshake.Sample.verifying_connected
  have hroots : Config.Sample.connector.builder.roots ≠ .disabled := by
    intro heq
    cases heq
  obtain ⟨host, anchors, leaf, rest, hhost, hreads, hchain, hverifies, hname⟩ :=
    h.authenticated ⟨rfl, rfl⟩ hverifying hroots _ rfl
  obtain rfl := Option.some.inj hhost
  rw [bareHost_of_ne (by decide)] at hname
  exact ⟨_, anchors, leaf, rest, rfl, hreads, hchain, hverifies, hname⟩

end TokioAwsLc.System
