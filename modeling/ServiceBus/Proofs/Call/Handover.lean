import ServiceBus.Proofs.Call.Footprint

/-!
One transaction, whatever is asked and whoever answers. A request is filled in once if the binder is
alive, and handed over once if that went well. A caller who does not wait learns nothing of what
becomes of it; one who waits is given the reply as it was written, and a call the part of it that
stands behind the header.
-/
namespace ServiceBus

open Wire

theorem Transaction.isOneWay_iff (flags : UInt32) :
    isOneWay flags = true ↔ flags.toNat % 2 = 1 := by
  have masked : (flags &&& oneWay).toNat = flags.toNat % 2 := by
    rw [UInt32.toNat_and]
    exact Nat.and_two_pow_sub_one_eq_mod _ 1
  rw [isOneWay, bne_iff_ne, ne_eq, ← UInt32.toNat_inj, masked, UInt32.toNat_zero]
  omega

theorem Transaction.isOneWay_eq_false_iff (flags : UInt32) :
    isOneWay flags = false ↔ flags.toNat % 2 = 0 := by
  rw [Bool.eq_false_iff, ne_eq, isOneWay_iff]
  omega

def Event.fillOf? (b : Binder) : Event → Option UInt32
  | filled target code => if target = b then some code else none
  | _ => none

theorem Event.Among.fillOf? {l : List Binder} {e : Event} (h : e.Among l) {b : Binder}
    (out : b ∉ l) : e.fillOf? b = none := by
  cases e with
  | filled target code =>
    refine if_neg fun same => out ?_
    subst same
    exact h
  | _ => rfl

namespace Bus

/-- The codes of the requests that were filled in for a binder so far. -/
def fillsOf (s : Bus) (b : Binder) : List UInt32 := s.events.filterMap (Event.fillOf? b)

theorem fillsOf_congr {s s' : Bus} (h : s'.events = s.events) (b : Binder) :
    s'.fillsOf b = s.fillsOf b := by
  rw [fillsOf, fillsOf, h]

theorem Reached.fillsOf {l : List Binder} {s s' : Bus} {b : Binder} (h : Reached l s s')
    (out : b ∉ l) : s'.fillsOf b = s.fillsOf b :=
  Adds.filterMap_events h fun _ among => among.fillOf? out

variable (s : Bus) (b : Binder) (code : UInt32) (request : Payload)

@[simp] theorem fillsOf_filled : (s.record (.filled b code)).fillsOf b = s.fillsOf b ++ [code] := by
  simp [fillsOf, Event.fillOf?]

@[simp] theorem fillsOf_handled :
    (s.record (.handled b code request)).fillsOf b = s.fillsOf b := by
  simp [fillsOf, Event.fillOf?]

end Bus

/-- What a binder leaves behind that is given a request. It answers two codes by itself, and its
handler is given any other, with the request as it came. -/
inductive Binder.Leaves (host : Host) (b : Binder) :
    UInt32 → Payload → Bus → Reaction × Bus → Prop
  | ping (request : Payload) (s : Bus) :
      Leaves host b Transaction.ping request s (.ok .empty, s)
  | describe (request : Payload) (s : Bus) :
      Leaves host b Transaction.describe request s (.ofWriter (Codec.text.write b.descriptor), s)
  | handled {code : UInt32} (ping : code ≠ Transaction.ping)
      (describe : code ≠ Transaction.describe) (request : Payload) (s : Bus) :
      Leaves host b code request s
        (b.handler host code request (s.record (.handled b code request)))

section

variable {b : Binder} {host : Host} {code flags : UInt32} {request : Payload} {s : Bus}

theorem leaves_dispatch (host : Host) (b : Binder) (code : UInt32) (request : Payload) (s : Bus) :
    b.Leaves host code request s (dispatch b (b.handler host) code request s) := by
  by_cases ping : code = Transaction.ping
  · subst ping
    exact .ping request s
  by_cases describe : code = Transaction.describe
  · subst describe
    exact .describe request s
  · rw [dispatch_of_code b _ request s ping describe]
    exact .handled ping describe request s

/-- Behind a binder that is given a request nothing is filled in for it, and it is given no other.
The two codes that it answers by itself come to no handler. -/
theorem Binder.Leaves.asked {left : Reaction × Bus} (h : b.Leaves host code request s left) :
    left.2.fillsOf b = s.fillsOf b ∧
      left.2.requestsTo b = s.requestsTo b ++
        if code = Transaction.ping ∨ code = Transaction.describe then []
        else [(code, request)] := by
  cases h with
  | ping =>
    rw [if_pos (.inl rfl)]
    exact ⟨rfl, (List.append_nil _).symm⟩
  | describe =>
    rw [if_pos (.inr rfl)]
    exact ⟨rfl, (List.append_nil _).symm⟩
  | handled ping describe =>
    have reached := reached_handler host b code request (s.record (.handled b code request))
    rw [if_neg (not_or.2 ⟨ping, describe⟩), reached.fillsOf b.not_mem_behind,
      reached.requestsTo b.not_mem_behind, Bus.fillsOf_handled, Bus.requestsTo_handled]
    exact ⟨rfl, rfl⟩

variable {handle : Handler} {fill : Writer}

theorem transactVia_bus (flags : UInt32) (handle : Handler) (alive : s.isAlive b = true)
    (filled : fill.run 0 0 = (.ok (), request)) :
    let handled := dispatch b handle code request (s.record (.filled b code))
    (transactVia b handle code flags fill s).2.events = handled.2.events ∧
      (transactVia b handle code flags fill s).2.live = handled.2.live := by
  cases oneWay : Transaction.isOneWay flags with
  | true =>
    obtain ⟨s', transacted, events, live⟩ := transactVia_of_oneWay oneWay handle alive filled
    rw [transacted]
    exact ⟨events, live⟩
  | false =>
    rw [transactVia_of_waits oneWay handle alive filled]
    rcases dispatch b handle code request (s.record (.filled b code)) with ⟨⟨e | u, p⟩, s'⟩
    · exact ⟨rfl, rfl⟩
    · dsimp only
      split <;> exact ⟨rfl, rfl⟩

theorem asked_transact (flags : UInt32) (host : Host) (alive : s.isAlive b = true)
    (filled : fill.run 0 0 = (.ok (), request)) :
    (b.transact host code flags fill s).2.fillsOf b = s.fillsOf b ++ [code] ∧
      (b.transact host code flags fill s).2.requestsTo b = s.requestsTo b ++
        if code = Transaction.ping ∨ code = Transaction.describe then []
        else [(code, request)] := by
  obtain ⟨events, -⟩ := transactVia_bus flags (b.handler host) alive filled
  have leaves := leaves_dispatch host b code request (s.record (.filled b code))
  obtain ⟨fills, requests⟩ := leaves.asked
  rw [s.fillsOf_filled] at fills
  rw [s.requestsTo_filled] at requests
  exact ⟨(Bus.fillsOf_congr events b).trans fills, (Bus.requestsTo_congr events b).trans requests⟩

theorem transactVia_of_ended (waits : Transaction.isOneWay flags = false) (handle : Handler)
    (alive : s.isAlive b = true) (filled : fill.run 0 0 = (.ok (), request))
    (ended : (dispatch b handle code request (s.record (.filled b code))).1.result = .ok ())
    (survives : (dispatch b handle code request (s.record (.filled b code))).2.isAlive b = true) :
    (transactVia b handle code flags fill s).1 =
      .ok (.ofPayload (dispatch b handle code request (s.record (.filled b code))).1.reply) := by
  rw [transactVia_of_waits waits handle alive filled]
  rcases handled : dispatch b handle code request (s.record (.filled b code)) with ⟨⟨r, p⟩, s'⟩
  rw [handled] at ended survives
  cases ended
  exact congrArg Prod.fst (if_pos survives)

theorem position_of_transactVia {reply : Parcel}
    (replied : (transactVia b handle code flags fill s).1 = .ok reply) : reply.position = 0 := by
  unfold transactVia at replied
  split at replied
  · cases replied
  split at replied
  · cases replied
  dsimp only at replied
  split at replied
  · split at replied <;> (cases replied; rfl)
  split at replied
  · cases replied
  split at replied
  · cases replied
    rfl
  · cases replied

/-- A caller who does not wait cannot tell one handler from another. -/
theorem transactVia_blind (oneWay : Transaction.isOneWay flags = true) (handle handle' : Handler) :
    (transactVia b handle code flags fill s).1 = (transactVia b handle' code flags fill s).1 := by
  cases alive : s.isAlive b with
  | false => rw [transactVia_of_dead alive, transactVia_of_dead alive]
  | true =>
    rcases filled : fill.run 0 0 with ⟨e | u, request⟩
    · rw [transactVia_of_unfilled alive filled, transactVia_of_unfilled alive filled]
    · obtain ⟨_, left, -⟩ := transactVia_of_oneWay oneWay handle alive filled
      obtain ⟨_, right, -⟩ := transactVia_of_oneWay oneWay handle' alive filled
      rw [left, right]

variable {descriptor : String} {args : Writer}

theorem callVia_of_oneWay {reply : Parcel} (oneWay : Transaction.isOneWay flags = true)
    (replied : (transactVia b handle code flags (.token descriptor ++ args) s).1 = .ok reply) :
    (callVia b handle descriptor code flags args s).1 = .ok reply := by
  rcases transacted : transactVia b handle code flags (.token descriptor ++ args) s with ⟨r, s'⟩
  rw [transacted] at replied
  cases replied
  simp only [callVia, transacted, oneWay, if_true]

theorem callVia_blind (oneWay : Transaction.isOneWay flags = true) (handle handle' : Handler) :
    (callVia b handle descriptor code flags args s).1 =
      (callVia b handle' descriptor code flags args s).1 := by
  rcases told : (transactVia b handle code flags (.token descriptor ++ args) s).1 with e | reply
  all_goals have told' := (transactVia_blind oneWay handle' handle).trans told
  · rw [callVia_of_error told, callVia_of_error told']
  · rw [callVia_of_oneWay oneWay told, callVia_of_oneWay oneWay told']

theorem callVia_of_waits {reply : Parcel} (waits : Transaction.isOneWay flags = false)
    (replied : (transactVia b handle code flags (.token descriptor ++ args) s).1 = .ok reply) :
    (callVia b handle descriptor code flags args s).1 =
      match reply.read .status with
      | (.error e, _) => .error (.ofCode e)
      | (.ok status, rest) => if status.isOk then .ok rest else .error status := by
  rcases transacted : transactVia b handle code flags (.token descriptor ++ args) s with ⟨r, s'⟩
  rw [transacted] at replied
  cases replied
  simp only [callVia, transacted, waits]
  rcases reply.read .status with ⟨e | status, q⟩
  · rfl
  · cases fine : status.isOk <;> simp only [fine] <;> rfl

theorem read_status_header {reply : Parcel} (start : reply.position = 0) {status : Status}
    {header tail : Payload} (written : (Codec.status.write status).run 0 0 = (.ok (), header))
    (starts : reply.payload = header ++ tail) :
    ∃ q, reply.read .status = (.ok status, q) ∧ q.payload = reply.payload ∧
      q.position = header.bytes.length := by
  have adds : (WireType.status.codec.write status).Adds ⟨0, 0⟩ header := written
  have data : reply.data = [] ++ (header.bytes ++ tail.bytes) := congrArg Payload.bytes starts
  have objects : reply.objects = header.objects ++ tail.objects := congrArg Payload.objects starts
  obtain ⟨q, read, data', objects', position⟩ := (Parcel.read_of_adds adds data start rfl
    (objects ▸ List.prefix_append _ _)).1 trivial
  refine ⟨q, read, ?_, position.trans (Nat.zero_add _)⟩
  rw [Parcel.payload, Parcel.payload, data', objects']

/-- A call gives a reply with a fine header from behind the header, and fails otherwise. -/
theorem callVia_by_header {reply : Parcel} (waits : Transaction.isOneWay flags = false)
    (replied : (transactVia b handle code flags (.token descriptor ++ args) s).1 = .ok reply) :
    let called := (callVia b handle descriptor code flags args s).1
    (∀ e q, reply.read .status = (.error e, q) → called = .error (.ofCode e)) ∧
      (∀ status q, reply.read .status = (.ok status, q) → status ≠ .ok → called = .error status) ∧
      ∀ header tail, (Codec.status.write .ok).run 0 0 = (.ok (), header) →
        reply.payload = header ++ tail →
          ∃ q, called = .ok q ∧ q.payload = reply.payload ∧ q.position = header.bytes.length := by
  have told := callVia_of_waits waits replied
  refine ⟨fun e q read => ?_, fun status q read fails => ?_, fun header tail written starts => ?_⟩
  · rw [read] at told
    exact told
  · rw [read] at told
    exact told.trans (if_neg (mt status.isOk_iff.1 fails))
  · obtain ⟨q, read, payload, position⟩ :=
      read_status_header (position_of_transactVia replied) written starts
    rw [read] at told
    exact ⟨q, told, payload, position⟩

end

namespace Binder

/-- A transaction with any code, any flags, any request and any handlers. A binder that is dead is
left alone. One that is alive has the request filled in once; a failure of that is all the caller is
told, and the binder is given nothing. Otherwise it is given the request once, as it was filled in
and from its start, and what it leaves behind is what its handler makes of just that request, unless
it answers the code by itself. A caller who does not wait is given an empty reply, and cannot tell
handlers apart by what a transaction or a call gives. One who waits is given the reply as it was
written, if the handler succeeds and the binder is alive after it; a call gives the reply from
behind its header if that is fine, and the status in the header otherwise. -/
theorem delivers (host : Host) (b : Binder) (code flags : UInt32) (fill : Writer) (s : Bus) :
    let filled := Parcel.empty.append fill
    let request := filled.2.payload
    let seen := s.record (.filled b code)
    let after := b.transact host code flags fill s
    filled.2 = .ofPayload request ∧
      (s.isAlive b = false → after = (.error .deadObject, s)) ∧
      (s.isAlive b = true →
        after.2.fillsOf b = s.fillsOf b ++ [code] ∧
        (∀ e, filled.1 = .error e →
          after.1 = .error e ∧ after.2.requestsTo b = s.requestsTo b) ∧
        (filled.1 = .ok () → ∃ left, b.Leaves host code request seen left ∧
          (∀ id descriptor h, b = .custom id descriptor h →
            code ≠ Transaction.ping → code ≠ Transaction.describe →
              let given := seen.record (.handled b code request)
              let answer := host.handle h code request given
              left = (answer.result, given.absorb answer)) ∧
          after.2.events = left.2.events ∧ after.2.live = left.2.live ∧
          (after.2.requestsTo b = s.requestsTo b ++
            if code = Transaction.ping ∨ code = Transaction.describe then []
            else [(code, request)]) ∧
          (flags.toNat % 2 = 1 → after.1 = .ok .empty) ∧
          (flags.toNat % 2 = 0 → left.1.result = .ok () → left.2.isAlive b = true →
            after.1 = .ok (.ofPayload left.1.reply)))) ∧
      (flags.toNat % 2 = 1 → ∀ handle handle' : Handler,
        (transactVia b handle code flags fill s).1 = (transactVia b handle' code flags fill s).1 ∧
        ∀ descriptor args, (callVia b handle descriptor code flags args s).1 =
          (callVia b handle' descriptor code flags args s).1) ∧
      ∀ descriptor args, fill = .token descriptor ++ args →
        let called := (b.call host descriptor code flags args s).1
        (∀ e, after.1 = .error e → called = .error (.ofCode e)) ∧
        ∀ reply, after.1 = .ok reply → reply.position = 0 ∧
          (flags.toNat % 2 = 1 → called = .ok reply) ∧
          (flags.toNat % 2 = 0 →
            (∀ e q, reply.read .status = (.error e, q) → called = .error (.ofCode e)) ∧
            (∀ status q, reply.read .status = (.ok status, q) → status ≠ .ok →
              called = .error status) ∧
            ∀ header tail, (Codec.status.write .ok).run 0 0 = (.ok (), header) →
              reply.payload = header ++ tail →
                ∃ q, called = .ok q ∧ q.payload = reply.payload ∧
                  q.position = header.bytes.length) := by
  intro filled request seen after
  have oneWay := (Transaction.isOneWay_iff flags).2
  have waits := (Transaction.isOneWay_eq_false_iff flags).2
  refine ⟨rfl, transactVia_of_dead, fun alive => ?_, fun odd handle handle' => ?_, ?_⟩
  · rcases ran : fill.run 0 0 with ⟨e | u, given⟩
    · have failed : filled.1 = .error e := congrArg Prod.fst ran
      have transacted : after = (.error e, seen) := transactVia_of_unfilled alive ran
      rw [transacted, failed]
      refine ⟨s.fillsOf_filled b code, ?_, nofun⟩
      rintro _ ⟨⟩
      exact ⟨rfl, s.requestsTo_filled b code⟩
    · have succeeded : filled.1 = .ok () := congrArg Prod.fst ran
      have ran' : fill.run 0 0 = (.ok (), request) := Prod.ext succeeded rfl
      obtain ⟨events, live⟩ := transactVia_bus flags (b.handler host) alive ran'
      obtain ⟨fills, requests⟩ := asked_transact flags host alive ran'
      rw [succeeded]
      refine ⟨fills, nofun, fun _ => ⟨_, leaves_dispatch host b code request seen, ?_, events, live,
        requests, fun odd => ?_, fun even => ?_⟩⟩
      · rintro id descriptor h rfl ping describe
        exact dispatch_of_code _ _ request seen ping describe
      · obtain ⟨s', transacted, -⟩ := transactVia_of_oneWay (oneWay odd) (b.handler host) alive ran'
        exact congrArg Prod.fst transacted
      · exact transactVia_of_ended (waits even) (b.handler host) alive ran'
  · exact ⟨transactVia_blind (oneWay odd) handle handle',
      fun descriptor args => callVia_blind (oneWay odd) handle handle'⟩
  · rintro descriptor args rfl
    refine ⟨fun e => callVia_of_error, fun reply replied => ?_⟩
    refine ⟨position_of_transactVia replied, ?_, ?_⟩
    · exact fun odd => callVia_of_oneWay (oneWay odd) replied
    · exact fun even => callVia_by_header (waits even) replied

/-- A binder is asked twice. Its handler fails and dies when nobody waits; when somebody does, it
sends the request back behind a header that is fine. -/
theorem delivers_custom :
    let b := Binder.custom 0 "remote" 5
    let dying : Host :=
      ⟨fun _ _ _ _ _ => ⟨.error .ok, 0, []⟩, fun _ _ _ _ => ⟨.fail .badValue, 0, [b]⟩,
        fun _ _ _ => none⟩
    let host : Host :=
      ⟨fun _ _ _ _ _ => ⟨.error .ok, 0, []⟩,
        fun _ _ request _ => ⟨.ok (⟨[0, 0, 0, 0], []⟩ ++ request), 0, []⟩, fun _ _ _ => none⟩
    let s : Bus := ⟨[true], 0, [], []⟩
    let fill := Writer.token "remote" ++ .object b
    let request := (Parcel.empty.append fill).2.payload
    let sent := b.transact dying 9 3 fill s
    let asked := b.transact host 9 2 fill s
    s.isAlive b = true ∧ sent.1 = .ok .empty ∧ sent.2.isAlive b = false ∧
      request.objects = [b] ∧ asked.1 = .ok (.ofPayload (⟨[0, 0, 0, 0], []⟩ ++ request)) ∧
      asked.2.fillsOf b = [9] ∧ asked.2.requestsTo b = [(9, request)] ∧
      ∃ q, (b.call host "remote" 9 2 (.object b) s).1 = .ok q ∧ q.position = 4 := by
  intro b dying host s fill request sent asked
  have alive : s.isAlive b = true := rfl
  have filled : (Parcel.empty.append fill).1 = .ok () := rfl
  obtain ⟨-, -, lost, -⟩ := delivers dying b 9 3 fill s
  obtain ⟨-, -, kept, -, calls⟩ := delivers host b 9 2 fill s
  obtain ⟨_, -, -, -, -, -, oneWay, -⟩ := (lost alive).2.2 filled
  obtain ⟨fills, -, whole⟩ := kept alive
  obtain ⟨left, -, own, -, -, requests, -, replies⟩ := whole filled
  -- The handler is the binder's own, and was given the request that was filled in.
  obtain rfl := own 0 "remote" 5 rfl (by decide) (by decide)
  have told := replies rfl rfl rfl
  obtain ⟨-, headers⟩ := (calls "remote" (.object b) rfl).2 _ told
  obtain ⟨q, given, -, position⟩ := (headers.2 rfl).2.2 ⟨[0, 0, 0, 0], []⟩ request rfl rfl
  exact ⟨alive, oneWay rfl, rfl, rfl, told, fills, requests, q, given, position⟩

end Binder

end ServiceBus
