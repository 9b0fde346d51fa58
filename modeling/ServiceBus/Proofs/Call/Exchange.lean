import ServiceBus.Call
import ServiceBus.Proofs.Parcel.RoundTrip
import ServiceBus.Proofs.Wire.Short

/-!
The two halves of a call meet. What the calling side writes is what the answering side reads, and
back: a request is decoded to the method and the arguments it was made from, and a reply to the
outcome that was given.
-/
namespace ServiceBus

open Wire

namespace WireType

theorem faithful_of_dense {t : WireType false} (h : t.dense = true) : t.codec.Faithful :=
  t.recovers.congr fun a m _ _ _ _ => iff_true_intro (t.room_of_dense _ h a m)

end WireType

namespace Vals

/-- Every text, list and map in every one of the values is short. -/
def Short : (ts : List (WireType false)) → Vals ts → Prop
  | [], _ => True
  | t :: ts, v => t.Short v.1 ∧ Short ts v.2

theorem accepts {ts : List (WireType false)} (h : ∀ t ∈ ts, t.carriesBinders = false) :
    (codec ts).Accepts (Short ts) := by
  induction ts with
  | nil => exact Codec.accepts_unit
  | cons t ts ih =>
    exact (t.accepts (h t (by simp))).pair (ih fun u hu => h u (by simp [hu]))

theorem faithful {ts : List (WireType false)} (h : ∀ t ∈ ts, t.dense = true) :
    (codec ts).Faithful := by
  induction ts with
  | nil => exact Codec.faithful_unit
  | cons t ts ih =>
    exact (WireType.faithful_of_dense (h t (by simp))).pair (ih fun u hu => h u (by simp [hu]))

end Vals

namespace Method

variable {i : Interface} (m : Method i)

theorem dense_params : ∀ t ∈ m.params, t.dense = true := by
  cases m <;> decide

theorem plain_params : ∀ t ∈ m.params, t.carriesBinders = false := by
  cases m <;> decide

theorem dense_reply : m.reply.wire.dense = true := by
  cases m <;> rfl

theorem code_ne_ping : m.code ≠ Transaction.ping := by
  cases m <;> decide

theorem code_ne_describe : m.code ≠ Transaction.describe := by
  cases m <;> decide

def fill (args : m.Args) : Writer := .token i.descriptor ++ (Vals.codec m.params).write args

theorem fill_eq (args : m.Args) : m.fill args = .token i.descriptor ++ m.write args := by
  rw [fill, m.write_eq]

def request (args : m.Args) : Payload := ((m.fill args).run 0 0).2

theorem shortText_descriptor (i : Interface) : ShortText i.descriptor := by
  cases i <;> (unfold ShortText; decide)

theorem accepts_fill (args : m.Args) : (m.fill args).Accepts (Vals.Short m.params args) :=
  ((Codec.accepts_text _).append (Vals.accepts m.plain_params args)).congr
    (and_iff_right (shortText_descriptor i))

theorem run_fill {args : m.Args} (h : Vals.Short m.params args) :
    (m.fill args).run 0 0 = (.ok (), m.request args) := by
  obtain ⟨p, hp⟩ := (m.accepts_fill args).adds h ⟨0, 0⟩
  rw [Writer.Adds] at hp
  rw [request, hp]

end Method

theorem Wire.Reader.run_enforce {descriptor : String} {p : Payload} {m : Mark}
    (h : (Writer.token descriptor).Adds m p) {objects : List Binder}
    (ho : p.objects <+: objects.drop m.count) (tail : List UInt8) :
    (Reader.enforce descriptor).run objects ⟨m.size, p.bytes ++ tail⟩ =
      (.ok (), ⟨m.size + p.bytes.length, tail⟩) := by
  have hr := (Codec.faithful_text h ho tail).whole trivial
  simp only [Reader.enforce, Reader.run_bind, hr]
  simp

/-- The answering side finds the method and the arguments that the calling side wrote. -/
theorem decodeRequest_request {i : Interface} (m : Method i) {args : m.Args}
    (h : Vals.Short m.params args) :
    decodeRequest i m.code (m.request args) = .ok ⟨m, args⟩ := by
  have ha : (m.fill args).Adds ⟨0, 0⟩ (m.request args) := m.run_fill h
  obtain ⟨p, q, hp, hq, hr⟩ := Writer.adds_append.1 ha
  have ho : (p ++ q).objects <+: (m.request args).objects.drop 0 := by
    rw [hr]
    exact List.prefix_refl _
  obtain ⟨hop, hoq⟩ := append_isPrefix_drop ho
  have htoken := Reader.run_enforce hp hop q.bytes
  have hargs := (Vals.faithful m.dense_params hq hoq []).whole trivial
  rw [List.append_nil] at hargs
  have hbytes : (m.request args).bytes = p.bytes ++ q.bytes := by
    rw [hr]
    rfl
  rw [Mark.past_size] at hargs
  simp only [decodeRequest, hbytes, htoken, m.skeleton?_code, hargs, id]

namespace Bus

/-- The bus at the moment when the other side is given the request of a call. -/
def deliver (s : Bus) (b : Binder) {i : Interface} (m : Method i) (args : m.Args) : Bus :=
  (s.record (.filled b m.code)).record (.handled b m.code (m.request args))

variable {i : Interface} (s : Bus) (b : Binder) (m : Method i) (args : m.Args)

@[simp] theorem deliver_events :
    (s.deliver b m args).events =
      s.events ++ [.filled b m.code, .handled b m.code (m.request args)] := by
  simp [deliver]

end Bus

theorem dispatch_of_code (b : Binder) (handle : Handler) {code : UInt32} (request : Payload)
    (s : Bus) (ping : code ≠ Transaction.ping) (describe : code ≠ Transaction.describe) :
    dispatch b handle code request s =
      handle code request (s.record (.handled b code request)) := by
  rw [dispatch, if_neg ping, if_neg describe]

section

variable {b : Binder} {handle : Handler} {code flags : UInt32} {fill : Writer} {request : Payload}
  {s : Bus}

theorem transactVia_of_dead (dead : s.isAlive b = false) :
    transactVia b handle code flags fill s = (.error .deadObject, s) := by
  simp only [transactVia, dead]
  rfl

theorem transactVia_of_unfilled (alive : s.isAlive b = true) {e : StatusCode}
    (unfilled : fill.run 0 0 = (.error e, request)) :
    transactVia b handle code flags fill s = (.error e, s.record (.filled b code)) := by
  simp only [transactVia, alive, unfilled]
  rfl

theorem transactVia_of_waits (waits : Transaction.isOneWay flags = false) (handle : Handler)
    (alive : s.isAlive b = true) (filled : fill.run 0 0 = (.ok (), request)) :
    transactVia b handle code flags fill s =
      match dispatch b handle code request (s.record (.filled b code)) with
      | (reaction, s) =>
        match reaction.result with
        | .error e => (.error e, s)
        | .ok _ =>
          if s.isAlive b then (.ok (.ofPayload reaction.reply), s)
          else (.error .deadObject, s) := by
  simp only [transactVia, alive, filled, waits]
  rfl

/-- A failure that nobody waits for leaves a line in the log and nothing else. -/
theorem transactVia_of_oneWay (oneWay : Transaction.isOneWay flags = true) (handle : Handler)
    (alive : s.isAlive b = true) (filled : fill.run 0 0 = (.ok (), request)) :
    ∃ s', transactVia b handle code flags fill s = (.ok .empty, s') ∧
      s'.events = (dispatch b handle code request (s.record (.filled b code))).2.events ∧
      s'.live = (dispatch b handle code request (s.record (.filled b code))).2.live := by
  simp only [transactVia, alive, filled, oneWay]
  rcases dispatch b handle code request (s.record (.filled b code)) with ⟨⟨e | u, p⟩, s'⟩
  · exact ⟨_, rfl, rfl, rfl⟩
  · exact ⟨_, rfl, rfl, rfl⟩

theorem callVia_of_error {descriptor : String} {args : Writer} {e : StatusCode}
    (failed : (transactVia b handle code flags (.token descriptor ++ args) s).1 = .error e) :
    (callVia b handle descriptor code flags args s).1 = .error (.ofCode e) := by
  rw [callVia]
  split
  · next transacted =>
    rw [transacted] at failed
    cases failed
    rfl
  · next transacted =>
    rw [transacted] at failed
    cases failed

end

section

variable {i : Interface} {b : Binder} {m : Method i} {args : m.Args} {s s' : Bus}

theorem Interface.isOneWay_flags (i : Interface) :
    Transaction.isOneWay i.flags = i.isOneWay := by
  cases i <;> rfl

theorem transactVia_request (waits : i.isOneWay = false) (handle : Handler)
    (h : Vals.Short m.params args) (alive : s.isAlive b = true) :
    transactVia b handle m.code i.flags (m.fill args) s =
      match handle m.code (m.request args) (s.deliver b m args) with
      | (reaction, s) =>
        match reaction.result with
        | .error e => (.error e, s)
        | .ok _ =>
          if s.isAlive b then (.ok (.ofPayload reaction.reply), s)
          else (.error .deadObject, s) := by
  rw [transactVia_of_waits (i.isOneWay_flags.trans waits) handle alive (m.run_fill h),
    dispatch_of_code b handle _ _ m.code_ne_ping m.code_ne_describe]
  rfl

theorem transactVia_oneWay (oneWay : i.isOneWay = true) (handle : Handler)
    (short : Vals.Short m.params args) (alive : s.isAlive b = true) :
    ∃ s', transactVia b handle m.code i.flags (m.fill args) s = (.ok .empty, s') ∧
      s'.events = (handle m.code (m.request args) (s.deliver b m args)).2.events := by
  obtain ⟨s', transacted, events, -⟩ := transactVia_of_oneWay
    (i.isOneWay_flags.trans oneWay) handle alive (m.run_fill short)
  rw [dispatch_of_code b handle _ _ m.code_ne_ping m.code_ne_describe] at events
  exact ⟨s', transacted, events⟩

theorem serve_request (invoke : (m : Method i) → m.Args → Bus → Except Status m.Outcome × Bus)
    (h : Vals.Short m.params args) (s : Bus) :
    serve i invoke m.code (m.request args) s =
      match invoke m args s with
      | (r, s) => answer m.code m r s := by
  simp only [serve, decodeRequest_request m h]

theorem read_result_error {t : WireType false} {status : Status} {p : Payload}
    (h : (Writer.result t.codec (.error status)).Adds ⟨0, 0⟩ p) :
    ∃ q, (Parcel.ofPayload p).read .status = (.ok status, q) := by
  have hd : (Parcel.ofPayload p).data = [] ++ (p.bytes ++ []) := (List.append_nil _).symm
  have hr := Parcel.read_of_adds (t := .status) h hd rfl rfl (List.prefix_refl _)
  obtain ⟨q, hq, -⟩ := hr.1 trivial
  exact ⟨q, hq⟩

theorem read_result_ok {t : WireType false} (dense : t.dense = true) {v : t.Val} {p : Payload}
    (h : (Writer.result t.codec (.ok v)).Adds ⟨0, 0⟩ p) :
    ∃ q, (Parcel.ofPayload p).read .status = (.ok .ok, q) ∧ (q.read t).1 = .ok v := by
  obtain ⟨x, y, hx, hy, rfl⟩ := Writer.adds_append.1 h
  have hx' : (WireType.status.codec.write .ok).Adds ⟨0, 0⟩ x := hx
  have hd : (Parcel.ofPayload (x ++ y)).data = [] ++ (x.bytes ++ y.bytes) := rfl
  have hxy : x.objects ++ y.objects <+: List.drop 0 (x ++ y).objects := List.prefix_refl _
  obtain ⟨ho, ho'⟩ := append_isPrefix_drop hxy
  obtain ⟨q, hq, hqd, hqo, hqp⟩ := (Parcel.read_of_adds hx' hd rfl rfl ho).1 trivial
  have hd' : q.data = x.bytes ++ (y.bytes ++ []) := by
    rw [hqd, hd, List.append_nil, List.nil_append]
  have hr := Parcel.read_of_adds hy hd' hqp (Nat.zero_add _).symm (hqo ▸ ho')
  obtain ⟨q', hq', -⟩ := hr.1 (t.room_of_dense _ dense v _)
  exact ⟨q, hq, by rw [hq']⟩

theorem requestVia_of_transactVia (waits : i.isOneWay = false) {handle : Handler} {reply : Parcel}
    (h : transactVia b handle m.code i.flags (m.fill args) s = (.ok reply, s')) :
    requestVia b handle m args s =
      match reply.read .status with
      | (.error e, _) => (.error (.ofCode e), s')
      | (.ok status, reply) =>
        if status.isOk then
          match (reply.read m.reply.wire).1 with
          | .error e => (.error (.ofCode e), s')
          | .ok v =>
            match m.reply.accept v s' with
            | (.error e, s) => (.error (.ofCode e), s)
            | (.ok a, s) => (.ok a, s)
        else (.error status, s') := by
  have hflags := i.isOneWay_flags.trans waits
  rw [m.fill_eq] at h
  simp only [requestVia, callVia, h, hflags]
  rcases reply.read .status with ⟨e | status, q⟩
  · rfl
  · cases fine : status.isOk <;> simp only [fine] <;> rfl

theorem requestVia_of_transactVia_error {handle : Handler} {e : StatusCode}
    (h : transactVia b handle m.code i.flags (m.fill args) s = (.error e, s')) :
    requestVia b handle m args s = (.error (.ofCode e), s') := by
  rw [m.fill_eq] at h
  simp only [requestVia, callVia, h]

theorem requestVia_of_error (waits : i.isOneWay = false) {handle : Handler}
    (h : Vals.Short m.params args) (alive : s.isAlive b = true) {e : StatusCode} {p : Payload}
    (handled : handle m.code (m.request args) (s.deliver b m args) = (⟨.error e, p⟩, s')) :
    requestVia b handle m args s = (.error (.ofCode e), s') := by
  apply requestVia_of_transactVia_error
  rw [transactVia_request waits handle h alive, handled]

/-- A reply without a binder of its own leaves the bus to the two sides' own doing. -/
theorem requestVia_bus (waits : i.isOneWay = false) (handle : Handler)
    (h : Vals.Short m.params args) (alive : s.isAlive b = true)
    (plain : ∀ v s, (m.reply.accept v s).2 = s) :
    (requestVia b handle m args s).2 = (handle m.code (m.request args) (s.deliver b m args)).2 := by
  have ht := transactVia_request waits handle h alive
  rcases hh : handle m.code (m.request args) (s.deliver b m args) with ⟨⟨e | u, p⟩, s'⟩
  · rw [requestVia_of_error waits h alive hh]
  · rw [hh] at ht
    -- A binder that died meanwhile has its reply dropped, but what was done is done.
    by_cases alive' : s'.isAlive b = true
    · rw [requestVia_of_transactVia waits (ht.trans (if_pos alive'))]
      split
      · rfl
      · split
        · split
          · rfl
          · next v _ =>
            have ha := plain v s'
            rcases hv : m.reply.accept v s' with ⟨e | a, s''⟩
            all_goals
              rw [hv] at ha
              exact ha
        · rfl
    · rw [requestVia_of_transactVia_error (ht.trans (if_neg alive'))]

theorem serve_bus (waits : i.isOneWay = false)
    (invoke : (m : Method i) → m.Args → Bus → Except Status m.Outcome × Bus)
    (h : Vals.Short m.params args) (s : Bus) (plain : ∀ a s, (m.reply.present a s).2 = s) :
    (serve i invoke m.code (m.request args) s).2 = (invoke m args s).2 := by
  rw [serve_request invoke h]
  rcases invoke m args s with ⟨e | a, s'⟩
  · simp only [answer, waits]
    rfl
  · simp only [answer, waits]
    exact plain a s'

theorem Reaction.ofWriter_of_adds {w : Writer} {p : Payload} (h : w.Adds ⟨0, 0⟩ p) :
    Reaction.ofWriter w = .ok p := by
  rw [Writer.Adds] at h
  rw [Reaction.ofWriter, h]
  rfl

theorem Reaction.ofWriter_of_refuses {w : Writer} {e : StatusCode}
    (h : (w.run 0 0).1 = .error e) : ∃ p, Reaction.ofWriter w = ⟨.error e, p⟩ :=
  ⟨(w.run 0 0).2, by rw [← h]; rfl⟩

theorem transactVia_of_reply (waits : i.isOneWay = false) {handle : Handler}
    (h : Vals.Short m.params args) (alive : s.isAlive b = true) {p : Payload}
    (handled : handle m.code (m.request args) (s.deliver b m args) = (.ok p, s'))
    (alive' : s'.isAlive b = true) :
    transactVia b handle m.code i.flags (m.fill args) s = (.ok (.ofPayload p), s') := by
  rw [transactVia_request waits handle h alive, handled]
  simp only [Reaction.ok, alive']
  rfl

variable {invoke : (m : Method i) → m.Args → Bus → Except Status m.Outcome × Bus}

/-- A failure of the implementation is the failure of the call. -/
theorem requestVia_serve_error (waits : i.isOneWay = false) (h : Vals.Short m.params args)
    (alive : s.isAlive b = true) {status : Status}
    (invoked : invoke m args (s.deliver b m args) = (.error status, s'))
    (alive' : s'.isAlive b = true) (short : status.Short) (fails : status ≠ .ok) :
    requestVia b (serve i invoke) m args s = (.error status, s') := by
  obtain ⟨p, hp⟩ := (Codec.accepts_status status).adds short ⟨0, 0⟩
  have handled : serve i invoke m.code (m.request args) (s.deliver b m args) = (.ok p, s') := by
    rw [serve_request invoke h, invoked]
    simp only [answer, waits]
    exact Prod.ext (Reaction.ofWriter_of_adds hp) rfl
  obtain ⟨q, hq⟩ := read_result_error (t := m.reply.wire) hp
  rw [requestVia_of_transactVia waits (transactVia_of_reply waits h alive handled alive'), hq]
  exact if_neg (mt status.isOk_iff.1 fails)

theorem requestVia_serve_ok (waits : i.isOneWay = false) (h : Vals.Short m.params args)
    (alive : s.isAlive b = true) {a : m.Outcome} {s₁ : Bus} {v : m.reply.wire.Val}
    (invoked : invoke m args (s.deliver b m args) = (.ok a, s₁))
    (presented : m.reply.present a s₁ = (v, s')) (alive' : s'.isAlive b = true) {p : Payload}
    (written : (Writer.result m.reply.wire.codec (.ok v)).Adds ⟨0, 0⟩ p) :
    requestVia b (serve i invoke) m args s =
      match m.reply.accept v s' with
      | (.error e, s) => (.error (.ofCode e), s)
      | (.ok a, s) => (.ok a, s) := by
  have handled : serve i invoke m.code (m.request args) (s.deliver b m args) = (.ok p, s') := by
    rw [serve_request invoke h, invoked]
    simp only [answer, waits, presented]
    exact Prod.ext (Reaction.ofWriter_of_adds written) rfl
  obtain ⟨q, hq, hv⟩ := read_result_ok m.dense_reply written
  rw [requestVia_of_transactVia waits (transactVia_of_reply waits h alive handled alive'), hq]
  simp only [Status.isOk_ok, if_true, hv]

theorem requestVia_serve_refused (waits : i.isOneWay = false) (h : Vals.Short m.params args)
    (alive : s.isAlive b = true) {r : Except Status m.Outcome} {s₁ : Bus} {e : StatusCode}
    {w : Writer} (invoked : invoke m args (s.deliver b m args) = (r, s₁))
    (answered : answer m.code m r s₁ = (.ofWriter w, s')) (refused : (w.run 0 0).1 = .error e) :
    requestVia b (serve i invoke) m args s = (.error (.ofCode e), s') := by
  obtain ⟨p, hp⟩ := Reaction.ofWriter_of_refuses refused
  have handled : serve i invoke m.code (m.request args) (s.deliver b m args) =
      (⟨.error e, p⟩, s') := by
    rw [serve_request invoke h, invoked]
    simp only [answered, hp]
  exact requestVia_of_error waits h alive handled

end

end ServiceBus
