import ServiceBus.Proofs.Call.Exchange
import ServiceBus.Proofs.Parcel.Reading

/-!
Why a call fails while the binder that was called is alive. Either the request could not be written,
or the handler failed, or it sent the failure of the method, or what it sent is no reply of the
method. Only the handler itself can make it look as if the binder were gone.
-/
namespace ServiceBus

open Wire

/-- The transport failures that mean that the other side is gone. -/
inductive StatusCode.Gone : StatusCode → Prop
  | deadObject : Gone .deadObject
  | failedTransaction : Gone .failedTransaction

theorem Status.unreachable_iff (e : Status) :
    e.failureKind = some .unreachable ↔ ∃ code message, code.Gone ∧
      e = .transactionFailed code message := by
  constructor
  · intro h
    cases e with
    | ok => cases h
    | raised x message => cases x <;> cases h
    | serviceSpecific n message => cases h
    | transactionFailed code message =>
      refine ⟨code, message, ?_, rfl⟩
      cases code with
      | deadObject => exact .deadObject
      | failedTransaction => exact .failedTransaction
      | _ => cases h
  · rintro ⟨code, message, gone, rfl⟩
    cases gone <;> rfl

theorem Status.unreachable_ofCode_iff (code : StatusCode) :
    (ofCode code).failureKind = some .unreachable ↔ code.Gone := by
  constructor
  · intro h
    cases code with
    | deadObject => exact .deadObject
    | failedTransaction => exact .failedTransaction
    | _ => cases h
  · intro gone
    cases gone <;> rfl

/-- A binder that an outcome cannot be made of: a session at a binder of another interface. -/
def Reply.Foreign : (r : Reply) → r.wire.Val → Prop
  | value _, _ => False
  | session, b => b.descriptor ≠ Interface.tuner.descriptor

theorem Reply.accept_of_foreign {r : Reply} {v : r.wire.Val} (h : r.Foreign v) (s : Bus) :
    r.accept v s = (.error .badType, s) := by
  cases r with
  | value t => exact h.elim
  | session =>
    have hc : s.connect .tuner v = (.error .badType, s) := if_neg h
    simp only [accept, hc]

theorem Reply.foreign_of_accept {r : Reply} {v : r.wire.Val} {s s' : Bus} {e : StatusCode}
    (h : r.accept v s = (.error e, s')) : r.Foreign v ∧ e = .badType := by
  by_cases hf : r.Foreign v
  · rw [accept_of_foreign hf] at h
    cases h
    exact ⟨hf, rfl⟩
  · cases r with
    | value t => cases h
    | session =>
      have hd : Binder.descriptor v = Interface.tuner.descriptor := Decidable.not_not.1 hf
      have hc : s.connect .tuner v = _ := if_pos hd
      simp only [accept, hc] at h
      cases h

/-- What was sent is no reply of the method, with what the caller finds wrong with it. -/
inductive Method.Garbled {i : Interface} (m : Method i) (p : Payload) : StatusCode → Prop
  | header {e : StatusCode} {q : Parcel}
      (header : (Parcel.ofPayload p).read .status = (.error e, q)) : Garbled m p e
  | value {e : StatusCode} {q q' : Parcel}
      (header : (Parcel.ofPayload p).read .status = (.ok .ok, q))
      (value : q.read m.reply.wire = (.error e, q')) : Garbled m p e
  | foreign {v : m.reply.wire.Val} {q q' : Parcel}
      (header : (Parcel.ofPayload p).read .status = (.ok .ok, q))
      (value : q.read m.reply.wire = (.ok v, q')) (other : m.reply.Foreign v) :
      Garbled m p .badType

/-- Whatever is wrong with a reply, it is not that the other side is gone. -/
theorem Method.Garbled.kind {i : Interface} {m : Method i} {p : Payload} {e : StatusCode}
    (h : m.Garbled p e) : (Status.ofCode e).failureKind = some .other := by
  have malformed : ∀ {e}, Malformed e → (Status.ofCode e).failureKind = some .other := by
    intro e h
    cases h <;> rfl
  cases h with
  | header header => exact malformed (Parcel.malformed_of_consume WireType.status.steady header)
  | value header value => exact malformed (Parcel.malformed_of_consume m.reply.wire.steady value)
  | foreign header value other => rfl

/-- Why a call of a binder that is alive fails, by what its handler left behind. -/
inductive Faults {i : Interface} (m : Method i) (args : m.Args) (left : Reaction) : Status → Prop
  | unsent (long : ¬ Vals.Short m.params args) : Faults m args left (.ofCode .badValue)
  | failed {e : StatusCode} (short : Vals.Short m.params args) (failed : left.result = .error e) :
      Faults m args left (.ofCode e)
  | garbled {e : StatusCode} (short : Vals.Short m.params args) (replied : left.result = .ok ())
      (garbled : m.Garbled left.reply e) : Faults m args left (.ofCode e)
  | told {e : Status} {q : Parcel} (short : Vals.Short m.params args)
      (replied : left.result = .ok ())
      (header : (Parcel.ofPayload left.reply).read .status = (.ok e, q)) (fails : e ≠ .ok) :
      Faults m args left e

section

variable {i : Interface} {b : Binder} {handle : Handler} {m : Method i} {args : m.Args} {s : Bus}

/-- A call whose caller waits for the answer, of a binder that is alive before and after. -/
structure Attended (b : Binder) (handle : Handler) (m : Method i) (args : m.Args) (s : Bus) :
    Prop where
  waits : i.isOneWay = false
  alive : s.isAlive b = true
  stays : (requestVia b handle m args s).2.isAlive b = true

theorem requestVia_of_long (long : ¬ Vals.Short m.params args) (alive : s.isAlive b = true) :
    requestVia b handle m args s = (.error (.ofCode .badValue), s.record (.filled b m.code)) := by
  have hx := (m.accepts_fill args).refuses long ⟨0, 0⟩
  apply requestVia_of_transactVia_error
  rcases hr : (m.fill args).run 0 0 with ⟨e | u, p⟩
  all_goals
    rw [hr] at hx
    cases hx
  exact transactVia_of_unfilled alive hr

theorem requestVia_of_dead (dead : s.isAlive b = false) :
    requestVia b handle m args s = (.error (.ofCode .deadObject), s) := by
  exact requestVia_of_transactVia_error (transactVia_of_dead dead)

theorem Attended.transactVia (h : Attended b handle m args s) (short : Vals.Short m.params args)
    {p : Payload} {s' : Bus}
    (handled : handle m.code (m.request args) (s.deliver b m args) = (⟨.ok (), p⟩, s')) :
    ServiceBus.transactVia b handle m.code i.flags (m.fill args) s = (.ok (.ofPayload p), s') := by
  by_cases alive' : s'.isAlive b = true
  · exact transactVia_of_reply h.waits short h.alive handled alive'
  · have ht := transactVia_request h.waits handle short h.alive
    rw [handled] at ht
    have hr := requestVia_of_transactVia_error (ht.trans (if_neg alive'))
    have stays := h.stays
    rw [hr] at stays
    exact absurd stays alive'

theorem garbled_or_told (h : Attended b handle m args s) (short : Vals.Short m.params args)
    {p : Payload} {s' : Bus}
    (handled : handle m.code (m.request args) (s.deliver b m args) = (⟨.ok (), p⟩, s')) {e : Status}
    (hr : (requestVia b handle m args s).1 = .error e) :
    (∃ code, m.Garbled p code ∧ e = .ofCode code) ∨
      ∃ q, (Parcel.ofPayload p).read .status = (.ok e, q) ∧ e ≠ .ok := by
  rw [requestVia_of_transactVia h.waits (h.transactVia short handled)] at hr
  -- The reply is taken apart as the caller reads it.
  rcases header : (Parcel.ofPayload p).read .status with ⟨code | status, q⟩
  · rw [header] at hr
    cases hr
    exact .inl ⟨code, .header header, rfl⟩
  by_cases fine : status = .ok
  · subst fine
    rw [header] at hr
    dsimp only at hr
    rw [if_pos Status.isOk_ok] at hr
    rcases value : q.read m.reply.wire with ⟨code | v, q'⟩
    · rw [value] at hr
      cases hr
      exact .inl ⟨code, .value header value, rfl⟩
    · rw [value] at hr
      dsimp only at hr
      rcases accepted : m.reply.accept v s' with ⟨code | a, s''⟩
      · obtain ⟨other, rfl⟩ := Reply.foreign_of_accept accepted
        rw [accepted] at hr
        cases hr
        exact .inl ⟨.badType, .foreign header value other, rfl⟩
      · rw [accepted] at hr
        cases hr
  · rw [header] at hr
    dsimp only at hr
    rw [if_neg (mt status.isOk_iff.1 fine)] at hr
    cases hr
    exact .inr ⟨q, rfl, fine⟩

theorem faults_of_requestVia (h : Attended b handle m args s) {e : Status}
    (hr : (requestVia b handle m args s).1 = .error e) :
    Faults m args (handle m.code (m.request args) (s.deliver b m args)).1 e := by
  by_cases short : Vals.Short m.params args
  · rcases handled : handle m.code (m.request args) (s.deliver b m args) with ⟨⟨code | ⟨⟩, p⟩, s'⟩
    · rw [requestVia_of_error h.waits short h.alive handled] at hr
      cases hr
      exact .failed short rfl
    · obtain ⟨code, garbled, rfl⟩ | ⟨q, header, fails⟩ := garbled_or_told h short handled hr
      · exact .garbled short rfl garbled
      · exact .told short rfl header fails
  · rw [requestVia_of_long short h.alive] at hr
    cases hr
    exact .unsent short

theorem Faults.requestVia {e : Status} (h : Attended b handle m args s)
    (faults : Faults m args (handle m.code (m.request args) (s.deliver b m args)).1 e) :
    (requestVia b handle m args s).1 = .error e := by
  rcases handled : handle m.code (m.request args) (s.deliver b m args) with ⟨⟨r, p⟩, s'⟩
  rw [handled] at faults
  cases faults with
  | unsent long => rw [requestVia_of_long long h.alive]
  | failed short failed =>
    cases failed
    rw [requestVia_of_error h.waits short h.alive handled]
  | garbled short replied garbled =>
    cases replied
    rw [requestVia_of_transactVia h.waits (h.transactVia short handled)]
    cases garbled with
    | header header => rw [header]
    | value header value =>
      rw [header]
      dsimp only
      rw [if_pos Status.isOk_ok, value]
    | foreign header value other =>
      rw [header]
      dsimp only
      rw [if_pos Status.isOk_ok, value]
      dsimp only
      rw [Reply.accept_of_foreign other]
  | told short replied header fails =>
    cases replied
    rw [requestVia_of_transactVia h.waits (h.transactVia short handled), header]
    dsimp only
    rw [if_neg (mt e.isOk_iff.1 fails)]

end

end ServiceBus
