import ServiceBus.Proofs.Call.Transparency
import ServiceBus.Proofs.Parcel.Reading
import ServiceBus.Proofs.Wire.Refusal

/-!
What reaches an implementation. A request is read from its start: the descriptor, then, by the code,
the arguments of a method. The implementation behind a binder is called for a request that can be
read to the end of the arguments, once, and for no other; and nothing is written for the others.
-/
namespace ServiceBus

open Wire

/-- What a request comes to as it is read part by part: a method with its arguments, or the failure
of the first part that is not as it should be. -/
inductive AsksFor (i : Interface) (code : UInt32) (request : Payload) :
    Except StatusCode ((m : Method i) × m.Args) → Prop
  | unreadable {e : StatusCode} {q : Parcel}
      (start : (Parcel.ofPayload request).read .text = (.error e, q)) :
      AsksFor i code request (.error e)
  | foreign {token : String} {q : Parcel}
      (start : (Parcel.ofPayload request).read .text = (.ok token, q))
      (other : token ≠ i.descriptor) : AsksFor i code request (.error .badType)
  | unknown {q : Parcel} (start : (Parcel.ofPayload request).read .text = (.ok i.descriptor, q))
      (none : ∀ m : Method i, m.code ≠ code) :
      AsksFor i code request (.error .unknownTransaction)
  | malformed {q q' : Parcel} {m : Method i} {e : StatusCode}
      (start : (Parcel.ofPayload request).read .text = (.ok i.descriptor, q))
      (method : m.code = code) (rest : q.readVals m.params = (.error e, q')) :
      AsksFor i code request (.error e)
  | call {q q' : Parcel} {m : Method i} {args : m.Args}
      (start : (Parcel.ofPayload request).read .text = (.ok i.descriptor, q))
      (method : m.code = code) (rest : q.readVals m.params = (.ok args, q')) :
      AsksFor i code request (.ok ⟨m, args⟩)

theorem skeleton?_eq_none_iff {i : Interface} {code : UInt32} :
    i.skeleton? code = none ↔ ∀ m : Method i, m.code ≠ code := by
  constructor
  · rintro h m rfl
    rw [m.skeleton?_code] at h
    cases h
  · intro h
    cases hk : i.skeleton? code with
    | none => rfl
    | some k => exact absurd (code_of_skeleton? hk) (h k.method)

theorem Wire.Reader.run_enforce_eq (descriptor : String) (objects : List Binder) (c : Cursor) :
    (Reader.enforce descriptor).run objects c =
      match Codec.text.read.run objects c with
      | (.error e, d) => (.error e, d)
      | (.ok token, d) =>
        if token = descriptor then (.ok (), d) else (.error .badType, d) := by
  rw [Reader.enforce, Reader.run_bind]
  rcases Codec.text.read.run objects c with ⟨e | token, d⟩
  · rfl
  · dsimp only
    split <;> rfl

theorem decodeRequest_eq (i : Interface) (code : UInt32) (request : Payload) :
    decodeRequest i code request =
      match (Parcel.ofPayload request).read .text with
      | (.error e, _) => .error e
      | (.ok token, q) =>
        if token = i.descriptor then
          match i.skeleton? code with
          | none => .error .unknownTransaction
          | some k =>
            match (q.readVals k.types).1 with
            | .error e => .error e
            | .ok args => .ok ⟨k.method, k.args args⟩
        else .error .badType := by
  have hc := (Parcel.ofPayload request).cursor_consume (Codec.steady_text)
  have hx : ((Parcel.ofPayload request).read .text).1 =
    (Codec.text.read.run request.objects ⟨0, request.bytes⟩).1 := rfl
  have ho : ((Parcel.ofPayload request).read .text).2.objects = request.objects := rfl
  simp only [decodeRequest, Reader.run_enforce_eq]
  rcases hr : (Parcel.ofPayload request).read .text with ⟨e | token, q⟩
  all_goals
    rw [hr] at hx ho
    have hrun : Codec.text.read.run request.objects ⟨0, request.bytes⟩ = (_, q.cursor) :=
      Prod.ext hx.symm (hc.symm.trans (congrArg (fun x => x.2.cursor) hr))
    simp only [hrun]
  · by_cases ht : token = i.descriptor
    · simp only [if_pos ht]
      cases i.skeleton? code with
      | none => rfl
      | some k =>
        have hv : (q.readVals k.types).1 =
            ((Vals.codec k.types).read.run request.objects q.cursor).1 := by
          rw [← q.consume_vals, Parcel.consume_fst, ho]
        dsimp only
        rw [hv]
        rcases (Vals.codec k.types).read.run request.objects q.cursor with ⟨e | args, d⟩ <;> rfl
    · simp only [if_neg ht]

theorem AsksFor.decodeRequest_eq {i : Interface} {code : UInt32} {request : Payload}
    {r : Except StatusCode ((m : Method i) × m.Args)} (h : AsksFor i code request r) :
    decodeRequest i code request = r := by
  rw [ServiceBus.decodeRequest_eq]
  cases h with
  | unreadable start => rw [start]
  | foreign start other => simp only [start, if_neg other]
  | unknown start none => simp only [start, if_true, skeleton?_eq_none_iff.2 none]
  | malformed start method rest =>
    subst method
    simp only [start, if_true, Method.skeleton?_code, rest]
  | call start method rest =>
    subst method
    simp only [start, if_true, Method.skeleton?_code, rest, id]

theorem asksFor_decodeRequest (i : Interface) (code : UInt32) (request : Payload) :
    AsksFor i code request (decodeRequest i code request) := by
  rw [ServiceBus.decodeRequest_eq]
  rcases hr : (Parcel.ofPayload request).read .text with ⟨e | token, q⟩
  · exact .unreadable hr
  · dsimp only
    by_cases ht : token = i.descriptor
    · subst ht
      rw [if_pos rfl]
      cases hk : i.skeleton? code with
      | none => exact .unknown hr (skeleton?_eq_none_iff.1 hk)
      | some k =>
        obtain ⟨m, hcode, rfl⟩ := skeleton?_eq_some_iff.1 hk
        dsimp only
        rcases hv : q.readVals m.params with ⟨e | args, q'⟩
        · exact .malformed hr hcode hv
        · exact .call hr hcode hv
    · rw [if_neg ht]
      exact .foreign hr ht

theorem asksFor_iff {i : Interface} {code : UInt32} {request : Payload}
    {r : Except StatusCode ((m : Method i) × m.Args)} :
    AsksFor i code request r ↔ decodeRequest i code request = r :=
  ⟨AsksFor.decodeRequest_eq, fun h => h ▸ asksFor_decodeRequest i code request⟩

theorem decodeRequest_longer {i : Interface} {code : UInt32} {request : Payload}
    {x : (m : Method i) × m.Args} (h : decodeRequest i code request = .ok x) (more : List UInt8) :
    decodeRequest i code ⟨request.bytes ++ more, request.objects⟩ = .ok x := by
  have ht := Codec.steady_text.longer request.objects ⟨0, request.bytes⟩ more
  simp only [decodeRequest, Reader.run_enforce_eq] at h ⊢
  rcases hr : Codec.text.read.run request.objects ⟨0, request.bytes⟩ with ⟨e | token, c⟩
  · simp only [hr] at h
    cases h
  rw [hr] at ht
  obtain ⟨⟨⟩⟩ | ht := ht
  have ht' : Codec.text.read.run request.objects ⟨0, request.bytes ++ more⟩ =
      (.ok token, c.extend more) := ht
  simp only [hr] at h
  simp only [ht']
  by_cases hd : token = i.descriptor
  · simp only [if_pos hd] at h ⊢
    cases hk : i.skeleton? code with
    | none =>
      simp only [hk] at h
      cases h
    | some k =>
      simp only [hk] at h ⊢
      have hv := (Vals.steady k.types).longer request.objects c more
      rcases ha : (Vals.codec k.types).read.run request.objects c with ⟨e | args, d⟩
      · simp only [ha] at h
        cases h
      · rw [ha] at hv
        obtain ⟨⟨⟩⟩ | hv := hv
        simp only [hv]
        simpa only [ha] using h
  · simp only [if_neg hd] at h
    cases h

theorem Reply.present_events (r : Reply) (a : r.Outcome) (s : Bus) :
    (r.present a s).2.events = s.events := by
  cases r with
  | value t => rfl
  | session => cases a <;> rfl

theorem answer_events {i : Interface} (code : UInt32) (m : Method i) (r : Except Status m.Outcome)
    (s : Bus) : (answer code m r s).2.events = s.events := by
  unfold answer
  split
  · split <;> rfl
  · split
    · exact m.reply.present_events _ s
    · rfl

/-- An implementation that was called is answered for, unless its outcome cannot be written. -/
theorem eq_badValue_of_answer {i : Interface} {code : UInt32} {m : Method i}
    {r : Except Status m.Outcome} {s : Bus} {e : StatusCode}
    (h : (answer code m r s).1.result = .error e) : e = .badValue := by
  unfold answer at h
  split at h
  · split at h <;> cases h
  · split at h
    · exact checked_result m.reply.wire (.ok _) 0 0 e h
    · exact checked_result m.reply.wire (.error _) 0 0 e h

theorem serve_of_ok {i : Interface}
    {invoke : (m : Method i) → m.Args → Bus → Except Status m.Outcome × Bus} {code : UInt32}
    {request : Payload} {m : Method i} {args : m.Args}
    (h : decodeRequest i code request = .ok ⟨m, args⟩) (s : Bus) :
    serve i invoke code request s =
      answer code m (invoke m args s).1 (invoke m args s).2 := by
  simp only [serve, h]

theorem serve_of_error {i : Interface}
    {invoke : (m : Method i) → m.Args → Bus → Except Status m.Outcome × Bus} {code : UInt32}
    {request : Payload} {e : StatusCode} (h : decodeRequest i code request = .error e) (s : Bus) :
    serve i invoke code request s = (.fail e, s) := by
  simp only [serve, h]

theorem result_eq_unknown_iff {i : Interface}
    {invoke : (m : Method i) → m.Args → Bus → Except Status m.Outcome × Bus} {code : UInt32}
    {request : Payload} {s : Bus} :
    (serve i invoke code request s).1.result = .error .unknownTransaction ↔
      (∃ q, (Parcel.ofPayload request).read .text = (.ok i.descriptor, q)) ∧
        ∀ m : Method i, m.code ≠ code := by
  constructor
  · intro h
    have means := asksFor_decodeRequest i code request
    rcases hd : decodeRequest i code request with e | ⟨m, args⟩
    · rw [serve_of_error hd] at h
      cases h
      rw [hd] at means
      cases means with
      | unreadable start =>
        cases Parcel.malformed_of_consume Codec.steady_text start
      | unknown start none => exact ⟨⟨_, start⟩, none⟩
      | malformed start method rest =>
        rw [← Parcel.consume_vals] at rest
        cases Parcel.malformed_of_consume (Vals.steady _) rest
    · rw [serve_of_ok hd] at h
      cases eq_badValue_of_answer h
  · rintro ⟨⟨q, start⟩, none⟩
    rw [serve_of_error (asksFor_iff.1 (.unknown start none))]
    rfl

/-- A request at a binder that was made for an implementation. It comes to one thing. If that is a
method with arguments, the implementation is called with them, once, and what it gives is answered;
bytes behind the arguments make no difference. Otherwise nothing happens beyond the request itself,
nothing is written, and the failure is that of the first part that is not as it should be. -/
theorem dispatch_publish (host : Host) {i : Interface} (made s : Bus) (p : Peer i) (b : Binder)
    (code : UInt32) (request : Payload) (target : b = (made.publish p).1)
    (ping : code ≠ Transaction.ping) (describe : code ≠ Transaction.describe) :
    let seen := s.record (.handled b code request)
    let after := dispatch b (b.handler host) code request s
    (∃ r, ∀ r', AsksFor i code request r' ↔ r' = r) ∧
      (∀ m args, AsksFor i code request (.ok ⟨m, args⟩) →
        after = answer code m (p.call host m args seen).1 (p.call host m args seen).2 ∧
        ∀ more, AsksFor i code ⟨request.bytes ++ more, request.objects⟩ (.ok ⟨m, args⟩)) ∧
      (∀ e, AsksFor i code request (.error e) → after = (⟨.error e, .empty⟩, seen)) ∧
      (∀ servant, p = .hosted servant → ∀ m args, AsksFor i code request (.ok ⟨m, args⟩) ↔
        after.2.events = seen.events ++ [.invoked servant m args]) ∧
      (after.1.result = .error .unknownTransaction ↔
        (∃ q, (Parcel.ofPayload request).read .text = (.ok i.descriptor, q)) ∧
          ∀ m : Method i, m.code ≠ code) := by
  intro seen after
  have hafter : after = serve i (p.call host) code request seen := by
    rw [← handler_publish host made p, ← target]
    exact dispatch_of_code b _ request s ping describe
  have called : ∀ m args, decodeRequest i code request = .ok ⟨m, args⟩ →
      after = answer code m (p.call host m args seen).1 (p.call host m args seen).2 :=
    fun m args h => hafter.trans (serve_of_ok h seen)
  have refused : ∀ e, decodeRequest i code request = .error e →
      after = (⟨.error e, .empty⟩, seen) := fun e h => hafter.trans (serve_of_error h seen)
  refine ⟨⟨_, fun r' => asksFor_iff.trans eq_comm⟩, fun m args h => ?_, fun e h => ?_, ?_, ?_⟩
  · have hd := asksFor_iff.1 h
    exact ⟨called m args hd, fun more => asksFor_iff.2 (decodeRequest_longer hd more)⟩
  · exact refused e (asksFor_iff.1 h)
  · rintro servant rfl m args
    have invoked : ∀ m args, decodeRequest i code request = .ok ⟨m, args⟩ →
        after.2.events = seen.events ++ [.invoked servant m args] := by
      intro m args h
      rw [called m args h, answer_events]
      exact host.run_events servant m args seen
    refine asksFor_iff.trans ⟨invoked m args, fun h => ?_⟩
    rcases hd : decodeRequest i code request with e | ⟨m', args'⟩
    · rw [refused e hd] at h
      simp at h
    · -- What was called is told by the event.
      rw [invoked m' args' hd] at h
      have he := List.singleton_inj.1 (List.append_cancel_left h)
      cases he
      rfl
  · rw [hafter]
    exact result_eq_unknown_iff

/-- A tuner is asked to step down, with a byte left over behind the arguments. -/
theorem dispatch_publish_step :
    let host : Host :=
      ⟨fun _ _ _ _ _ => ⟨.error .ok, 0, []⟩, fun _ _ _ _ => ⟨.ok .empty, 0, []⟩, fun _ _ _ => none⟩
    let b := (Bus.empty.publish (.hosted 5 : Peer .tuner)).1
    let args : Method.step.Args := (true, false, ())
    let code := Method.step.code
    let asked := Method.step.request args
    let request : Payload := ⟨asked.bytes ++ [9], asked.objects⟩
    code ≠ Transaction.ping ∧ code ≠ Transaction.describe ∧
      (dispatch b (b.handler host) code request .empty).2.events =
        [.handled b code request, .invoked 5 .step args] := by
  intro host b args code asked request
  have ping : code ≠ Transaction.ping := Method.step.code_ne_ping
  have describe : code ≠ Transaction.describe := Method.step.code_ne_describe
  have asks : AsksFor .tuner code asked (.ok ⟨.step, args⟩) :=
    asksFor_iff.2 (decodeRequest_request .step ⟨trivial, trivial, trivial⟩)
  obtain ⟨-, longer, -⟩ :=
    dispatch_publish host .empty .empty (.hosted 5) b code asked rfl ping describe
  obtain ⟨-, -, -, events, -⟩ :=
    dispatch_publish host .empty .empty (.hosted 5) b code request rfl ping describe
  have h := (events 5 rfl .step args).1 ((longer .step args asks).2 [9])
  have seen : (Bus.empty.record (.handled b code request)).events = [.handled b code request] :=
    List.nil_append _
  exact ⟨ping, describe, h.trans (congrArg (fun l => l ++ [.invoked 5 .step args]) seen)⟩

end ServiceBus
