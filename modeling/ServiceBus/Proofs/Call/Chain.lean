import ServiceBus.Proofs.Call.Dispatch
import ServiceBus.Proofs.Call.Faults

/-!
Failures on their way back. A client stands in front of a binder, whose implementation may itself be
a client of a binder further on, and so forth. Every hop writes the failure anew and may put another
in its place, but it stays a failure, up to the outermost client. The exception is a failure that
says of itself that all is well: it is written as what it says.
-/
namespace ServiceBus

open Wire

/-- The call failed, with a status that says so. -/
def Fails {α : Type} (r : Except Status α) : Prop := ∃ e, r = .error e ∧ e.isOk = false

theorem Status.isOk_eq_false_iff (e : Status) : e.isOk = false ↔ e ≠ .ok := by
  simp [← Bool.not_eq_true]

theorem fails_of_error {α : Type} {r : Except Status α} {e : Status} (h : r = .error e)
    (n : e ≠ .ok) : Fails r :=
  ⟨e, h, e.isOk_eq_false_iff.2 n⟩

theorem Status.ofCode_eq_ok_iff (code : StatusCode) : ofCode code = .ok ↔ code = .ok := by
  cases code <;> simp [ofCode, Status.ext_iff]

theorem fails_of_code {α : Type} {r : Except Status α} {code : StatusCode}
    (h : r = .error (.ofCode code)) (n : code ≠ .ok) : Fails r :=
  fails_of_error h (mt (Status.ofCode_eq_ok_iff code).1 n)

/-- The header of a reply that goes well, without the value that should follow it. -/
def Wire.Payload.bareHeader : Payload := ⟨[0, 0, 0, 0], []⟩

theorem Method.result_fine {i : Interface} (m : Method i) :
    (Writer.result m.reply.wire.codec (.error .ok)).Adds ⟨0, 0⟩ .bareHeader := rfl

theorem Method.read_bareHeader {m : Method .tuner} (gives : m.reply ≠ .value .unit) :
    ∃ q, (Parcel.ofPayload .bareHeader).read .status = (.ok .ok, q) ∧
      (q.read m.reply.wire).1 = .error .notEnoughData := by
  refine ⟨_, rfl, ?_⟩
  cases m <;> first | rfl | exact absurd rfl gives

section

variable {b : Binder} {m : Method .tuner} {args : m.Args} {s : Bus}

theorem requestVia_of_died {i : Interface} {m : Method i} {args : m.Args}
    (waits : i.isOneWay = false) {handle : Handler} (short : Vals.Short m.params args)
    (alive : s.isAlive b = true) {p : Payload} {s' : Bus}
    (handled : handle m.code (m.request args) (s.deliver b m args) = (.ok p, s'))
    (died : s'.isAlive b = false) :
    requestVia b handle m args s = (.error (.ofCode .deadObject), s') := by
  apply requestVia_of_transactVia_error
  rw [transactVia_request waits handle short alive, handled]
  simp [Reaction.ok, died]

variable {invoke : (m : Method .tuner) → m.Args → Bus → Except Status m.Outcome × Bus}

/-- A failure that says that all is well reads as a reply that ends too early. -/
theorem requestVia_serve_fine (short : Vals.Short m.params args) (alive : s.isAlive b = true)
    {s' : Bus} (invoked : invoke m args (s.deliver b m args) = (.error .ok, s'))
    (alive' : s'.isAlive b = true) (gives : m.reply ≠ .value .unit) :
    requestVia b (serve .tuner invoke) m args s = (.error (.ofCode .notEnoughData), s') := by
  obtain ⟨q, header, value⟩ := m.read_bareHeader gives
  have handled : serve .tuner invoke m.code (m.request args) (s.deliver b m args) =
      (.ok .bareHeader, s') := by
    rw [serve_request invoke short, invoked]
    exact Prod.ext (Reaction.ofWriter_of_adds m.result_fine) rfl
  rw [requestVia_of_transactVia rfl (transactVia_of_reply rfl short alive handled alive'), header]
  simp only [Status.isOk_ok, if_true, value]

/-- One hop. If what stands behind a binder fails, so does the call in front of it. A failure that
says that all is well is noticed by a method that gives a value. -/
theorem fails_serve {e : Status} (failed : (invoke m args (s.deliver b m args)).1 = .error e)
    (noticed : e ≠ .ok ∨ m.reply ≠ .value .unit) :
    Fails (requestVia b (serve .tuner invoke) m args s).1 := by
  cases alive : s.isAlive b with
  | false => exact fails_of_code (congrArg Prod.fst (requestVia_of_dead alive)) (by decide)
  | true =>
    by_cases short : Vals.Short m.params args
    case neg =>
      exact fails_of_code (congrArg Prod.fst (requestVia_of_long short alive)) (by decide)
    rcases invoked : invoke m args (s.deliver b m args) with ⟨r, s'⟩
    rw [invoked] at failed
    cases failed
    -- The hop in front gets the failure itself, or one of its own if that cannot be sent.
    by_cases shortStatus : e.Short
    case neg =>
      have refused := (Codec.accepts_status e).refuses shortStatus ⟨0, 0⟩
      have hr := requestVia_serve_refused rfl short alive invoked rfl refused
      exact fails_of_code (congrArg Prod.fst hr) (by decide)
    cases alive' : s'.isAlive b with
    | false =>
      obtain ⟨p, written⟩ := (Codec.accepts_status e).adds shortStatus ⟨0, 0⟩
      have handled : serve .tuner invoke m.code (m.request args) (s.deliver b m args) =
          (.ok p, s') := by
        rw [serve_request invoke short, invoked]
        exact Prod.ext (Reaction.ofWriter_of_adds written) rfl
      have hr := requestVia_of_died rfl short alive handled alive'
      exact fails_of_code (congrArg Prod.fst hr) (by decide)
    | true =>
      by_cases fine : e = .ok
      · subst fine
        have gives : m.reply ≠ .value .unit := noticed.resolve_left fun n => n rfl
        have hr := requestVia_serve_fine short alive invoked alive' gives
        exact fails_of_code (congrArg Prod.fst hr) (by decide)
      · have hr := requestVia_serve_error rfl short alive invoked alive' shortStatus fine
        exact fails_of_error (congrArg Prod.fst hr) fine

end

theorem Wire.Malformed.ne_ok {e : StatusCode} (h : Malformed e) : e ≠ .ok := by
  cases h <;> nofun

theorem serve_ne_ok {i : Interface}
    {invoke : (m : Method i) → m.Args → Bus → Except Status m.Outcome × Bus} (code : UInt32)
    (request : Payload) (s : Bus) : (serve i invoke code request s).1.result ≠ .error .ok := by
  intro h
  have means := asksFor_decodeRequest i code request
  rcases hd : decodeRequest i code request with e | ⟨m, args⟩
  · rw [serve_of_error hd] at h
    cases h
    rw [hd] at means
    cases means with
    | unreadable start => exact (Parcel.malformed_of_consume Codec.steady_text start).ne_ok rfl
    | malformed start method rest =>
      rw [← Parcel.consume_vals] at rest
      exact (Parcel.malformed_of_consume (Vals.steady _) rest).ne_ok rfl
  · rw [serve_of_ok hd] at h
    cases eq_badValue_of_answer h

section

variable {b : Binder} {handle : Handler} {code : UInt32}

theorem dispatch_ne_ok {request : Payload} {s : Bus}
    (handled : (handle code request (s.record (.handled b code request))).1.result ≠ .error .ok) :
    (dispatch b handle code request s).1.result ≠ .error .ok := by
  unfold dispatch
  split
  · nofun
  · split
    · intro h
      have checked := (Codec.accepts_text b.descriptor).checked 0 0 .ok h
      cases checked
    · exact handled

theorem transactVia_ne_ok {fill : Writer} {s : Bus} (filled : (fill.run 0 0).1 ≠ .error .ok)
    (handled : (dispatch b handle code (fill.run 0 0).2 (s.record (.filled b code))).1.result ≠
      .error .ok) (flags : UInt32) :
    (transactVia b handle code flags fill s).1 ≠ .error .ok := by
  unfold transactVia
  split
  · nofun
  rcases hw : fill.run 0 0 with ⟨e | u, request⟩
  all_goals
    rw [hw] at filled handled
    dsimp only
  · intro h
    have fine : e = .ok := Except.error.inj h
    exact filled (congrArg Except.error fine)
  · split
    · split <;> nofun
    · split
      · next e he =>
        intro h
        have fine : e = .ok := Except.error.inj h
        exact handled (he.trans (congrArg Except.error fine))
      · split <;> nofun

theorem callVia_ne_ok {descriptor : String} {args : Writer} {s : Bus}
    (filled : ((Writer.token descriptor ++ args).run 0 0).1 ≠ .error .ok)
    (handled : (dispatch b handle code ((Writer.token descriptor ++ args).run 0 0).2
      (s.record (.filled b code))).1.result ≠ .error .ok) (flags : UInt32) :
    (callVia b handle descriptor code flags args s).1 ≠ .error .ok := by
  have transacted := transactVia_ne_ok filled handled flags
  unfold callVia
  split
  · next e _ ht =>
    rw [ht] at transacted
    intro h
    have he := (Status.ofCode_eq_ok_iff e).1 (Except.error.inj h)
    exact transacted (congrArg Except.error he)
  · split
    · nofun
    · split
      · next e _ hr =>
        have malformed := Parcel.malformed_of_consume WireType.status.steady hr
        intro h
        exact malformed.ne_ok ((Status.ofCode_eq_ok_iff e).1 (Except.error.inj h))
      · split
        · nofun
        · next status _ _ other =>
          intro h
          exact other (status.isOk_iff.2 (Except.error.inj h))

theorem requestVia_ne_ok {i : Interface} {m : Method i} (args : m.Args)
    (handled : ∀ request s, (handle m.code request s).1.result ≠ .error .ok) (s : Bus) :
    (requestVia b handle m args s).1 ≠ .error .ok := by
  have filled : ((m.fill args).run 0 0).1 ≠ .error .ok := by
    intro h
    have checked := (m.accepts_fill args).checked 0 0 .ok h
    cases checked
  rw [m.fill_eq] at filled
  have called := callVia_ne_ok (b := b) (s := s) filled (dispatch_ne_ok (handled _ _)) i.flags
  unfold requestVia
  split
  · next e _ hc =>
    rw [hc] at called
    intro h
    have he : e = .ok := Except.error.inj h
    exact called (congrArg Except.error he)
  · split
    · next reply _ _ e hr =>
      have malformed := Parcel.malformed_of_consume m.reply.wire.steady (Prod.ext hr rfl)
      intro h
      exact malformed.ne_ok ((Status.ofCode_eq_ok_iff e).1 (Except.error.inj h))
    · split
      · next ha =>
        obtain ⟨-, rfl⟩ := Reply.foreign_of_accept ha
        nofun
      · nofun

end

namespace Binder

def IsCustom (b : Binder) : Prop := ∃ id descriptor h, b = .custom id descriptor h

theorem handler_ne_ok {b : Binder} (served : ¬ b.IsCustom) (host : Host) (code : UInt32)
    (request : Payload) (s : Bus) : (b.handler host code request s).1.result ≠ .error .ok := by
  cases b with
  | custom id descriptor h => exact absurd ⟨id, descriptor, h, rfl⟩ served
  | native id i servant => exact serve_ne_ok code request s
  | relay id i remote => exact serve_ne_ok code request s

end Binder

/-- The innermost call behind a chain of binders fails: the implementation raises a status, a
handler fails with a code, or the call fails in any other way. -/
inductive Breakdown (host : Host) (m : Method .tuner) (args : m.Args) :
    Binder → Bus → Status → Prop
  | implementation {id : BinderId} {servant : ServantId} {s : Bus} {e : Status}
      (raised : (host.run servant m args (s.deliver (.native id .tuner servant) m args)).1 =
        .error e) : Breakdown host m args (.native id .tuner servant) s e
  | handler {id : BinderId} {descriptor : String} {h : ServantId} {s : Bus} {code : StatusCode}
      (failed : (host.handle h m.code (m.request args)
        (s.deliver (.custom id descriptor h) m args)).result.result = .error code) :
      Breakdown host m args (.custom id descriptor h) s (.ofCode code)
  | call {b : Binder} {s : Bus} {e : Status}
      (failed : (requestVia b (b.handler host) m args s).1 = .error e) : Breakdown host m args b s e
  | relay {id : BinderId} {remote : Binder} {s : Bus} {e : Status}
      (behind : Breakdown host m args remote (s.deliver (.relay id .tuner remote) m args) e) :
      Breakdown host m args (.relay id .tuner remote) s e

/-- The induction is on the chain. What every hop hands on is a failure; that it says of itself that
all is well can be only as long as no hop but the innermost has been passed. -/
theorem Breakdown.reported {host : Host} {m : Method .tuner} {args : m.Args} {b : Binder} {s : Bus}
    {e : Status} (h : Breakdown host m args b s e) (noticed : e ≠ .ok ∨ m.reply ≠ .value .unit) :
    ∃ e', (requestVia b (b.handler host) m args s).1 = .error e' ∧
      (e' = .ok → e = .ok ∧ b.IsCustom) := by
  induction h with
  | implementation raised =>
    obtain ⟨e', failed, bad⟩ := fails_serve raised noticed
    exact ⟨e', failed, fun fine => absurd fine (e'.isOk_eq_false_iff.1 bad)⟩
  | @handler id descriptor h s code failed =>
    let b := Binder.custom id descriptor h
    cases alive : s.isAlive b with
    | false =>
      exact ⟨_, congrArg Prod.fst (requestVia_of_dead alive), nofun⟩
    | true =>
      by_cases short : Vals.Short m.params args
      · have handled : b.handler host m.code (m.request args) (s.deliver b m args) =
            (⟨.error code, _⟩, _) := Prod.ext (congrArg (Reaction.mk · _) failed) rfl
        have hr := requestVia_of_error rfl short alive handled
        exact ⟨_, congrArg Prod.fst hr, fun fine => ⟨fine, id, descriptor, h, rfl⟩⟩
      · exact ⟨_, congrArg Prod.fst (requestVia_of_long short alive), nofun⟩
  | @call b s e failed =>
    refine ⟨e, failed, fun fine => ⟨fine, Classical.not_not.1 fun served => ?_⟩⟩
    subst fine
    exact requestVia_ne_ok args (fun request s => b.handler_ne_ok served host _ request s) s failed
  | relay behind ih =>
    obtain ⟨e₁, failed₁, fine₁⟩ := ih noticed
    have noticed₁ : e₁ ≠ .ok ∨ m.reply ≠ .value .unit := by
      by_cases hf : e₁ = .ok
      · exact .inr (noticed.resolve_left fun n => n (fine₁ hf).1)
      · exact .inl hf
    obtain ⟨e', failed, bad⟩ := fails_serve failed₁ noticed₁
    exact ⟨e', failed, fun fine => absurd fine (e'.isOk_eq_false_iff.1 bad)⟩

/-- A failure of the innermost call is a failure of the outermost, unless it says that all is well:
that is noticed if a value is missed, and if it was not the outermost binder itself that said so.
And a call of any kind fails with a status that says that all is well only if the request could not
be filled in, or the handler failed, for just that reason. -/
theorem fails_call (host : Host) (c : Connection .tuner) (m : Method .tuner) (args : m.Args)
    (s : Bus) :
    (∀ e, Breakdown host m args c.remote s e →
      e ≠ .ok ∨ (m.reply ≠ .value .unit ∧ ¬ c.remote.IsCustom) → Fails (c.call host m args s).1) ∧
    ∀ b descriptor code flags fill e,
      let filled := (Writer.token descriptor ++ fill).run 0 0
      let seen := (s.record (.filled b code)).record (.handled b code filled.2)
      (Binder.call host b descriptor code flags fill s).1 = .error e →
      filled.1 ≠ .error .ok →
      (∀ id d h, b = .custom id d h →
        (host.handle h code filled.2 seen).result.result ≠ .error .ok) → e.isOk = false := by
  constructor
  · intro e broken noticed
    obtain ⟨e', failed, fine⟩ := broken.reported (noticed.imp_right And.left)
    refine ⟨e', failed, e'.isOk_eq_false_iff.2 fun h => ?_⟩
    obtain ⟨rfl, custom⟩ := fine h
    exact noticed.elim (fun n => n rfl) fun n => n.2 custom
  · intro b descriptor code flags fill e filled seen failed hfill hhandle
    refine e.isOk_eq_false_iff.2 fun fine => ?_
    subst fine
    have handled : (b.handler host code filled.2 seen).1.result ≠ .error .ok := by
      by_cases custom : b.IsCustom
      · obtain ⟨id, d, h, rfl⟩ := custom
        exact hhandle id d h rfl
      · exact b.handler_ne_ok custom host code filled.2 seen
    exact callVia_ne_ok hfill (dispatch_ne_ok handled) flags failed

/-- A tuner that is in the wrong state, behind a relay; and a handler that lost its own remote. -/
theorem fails_call_relayed :
    let wrong : Status := .raised .illegalState (some "closed")
    let host : Host :=
      ⟨fun _ _ _ _ _ => ⟨.error wrong, 0, []⟩, fun _ _ _ _ => ⟨.fail .deadObject, 0, []⟩,
        fun _ _ _ => none⟩
    let inner := Bus.empty.publish (.hosted 5 : Peer .tuner)
    let outer := inner.2.publish (.remote ⟨0, inner.1⟩ : Peer .tuner)
    let c : Connection .tuner := ⟨1, outer.1⟩
    let b := Binder.custom 0 "remote" 7
    Breakdown host .close () c.remote outer.2 wrong ∧ Fails (c.call host .close () outer.2).1 ∧
      (b.call host "remote" 1 0 .done outer.2).1 = .error (.ofCode .deadObject) ∧
      (Status.ofCode .deadObject).isOk = false := by
  intro wrong host inner outer c b
  have h := fails_call host c .close () outer.2
  have broken : Breakdown host .close () c.remote outer.2 wrong := .relay (.implementation rfl)
  have failed : (b.call host "remote" 1 0 .done outer.2).1 = .error (.ofCode .deadObject) := rfl
  have handled : ∀ id d k, b = .custom id d k → (.error .deadObject : Except StatusCode Unit) ≠
      .error .ok := fun _ _ _ _ => nofun
  have unlike : wrong ≠ .ok := by decide
  exact ⟨broken, h.1 wrong broken (.inl unlike), failed,
    h.2 b "remote" 1 0 .done _ failed nofun handled⟩

/-- An implementation fails with a status that says that all is well, and its caller gets a value;
a handler does so, and its caller gets just that status. -/
theorem fine_call_close :
    let host : Host :=
      ⟨fun _ _ _ _ _ => ⟨.error .ok, 0, []⟩, fun _ _ _ _ => ⟨.fail .ok, 0, []⟩, fun _ _ _ => none⟩
    let made := Bus.empty.publish (.hosted 5 : Peer .tuner)
    let c : Connection .tuner := ⟨0, made.1⟩
    Breakdown host .close () c.remote made.2 .ok ∧ (c.call host .close () made.2).1 = .ok () ∧
      ((Binder.custom 0 "remote" 7).call host "remote" 1 0 .done made.2).1 = .error .ok ∧
      Status.ok.isOk = true := by
  intro host made c
  exact ⟨.implementation rfl, rfl, rfl, rfl⟩

end ServiceBus
