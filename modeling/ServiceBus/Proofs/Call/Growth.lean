import ServiceBus.Call

/-!
What whole calls inherit from single changes of the bus. A relation between an earlier and a later
bus that every change keeps to, whatever it is, is kept to by every call, however deep the binders
stand in front of each other.
-/
namespace ServiceBus

open Wire

namespace Bus

/-- A relation that holds over every change of the bus that a call may make, and over any number of
them in a row. -/
structure Lasting (R : Bus → Bus → Prop) : Prop where
  refl : ∀ s, R s s
  trans : ∀ {s t u}, R s t → R t u → R s u
  record : ∀ s e, R s (s.record e)
  say : ∀ s l t, R s (s.say l t)
  spawn : ∀ s, R s s.spawn.2
  connect : ∀ s i b, R s (s.connect i b).2
  absorb : ∀ {α : Type} s (a : Answer α), R s (s.absorb a)

namespace Lasting

variable {R : Bus → Bus → Prop} {i : Interface}

theorem publish (h : Lasting R) (s : Bus) (p : Peer i) : R s (s.publish p).2 := by
  cases p <;> exact h.spawn s

theorem publishHandler (h : Lasting R) (s : Bus) (descriptor : String) (handler : ServantId) :
    R s (s.publishHandler descriptor handler).2 := h.spawn s

theorem present (h : Lasting R) (r : Reply) (a : r.Outcome) (s : Bus) : R s (r.present a s).2 := by
  cases r with
  | value t => exact h.refl s
  | session =>
    cases a with
    | remote c => exact h.refl s
    | hosted servant => exact h.publish s _

theorem accept (h : Lasting R) (r : Reply) (v : r.wire.Val) (s : Bus) : R s (r.accept v s).2 := by
  cases r with
  | value t => exact h.refl s
  | session =>
    have hc := h.connect s .tuner v
    simp only [Reply.accept]
    split
    · next c s' e => rwa [e] at hc
    · next c s' e => rwa [e] at hc

theorem answer (h : Lasting R) (code : UInt32) (m : Method i) (r : Except Status m.Outcome)
    (s : Bus) : R s (ServiceBus.answer code m r s).2 := by
  unfold ServiceBus.answer
  split
  · split
    · exact h.refl s
    · exact h.say s _ _
  · split
    · exact h.present _ _ s
    · exact h.refl s

theorem run (h : Lasting R) (host : Host) (servant : ServantId) (m : Method i) (args : m.Args)
    (s : Bus) : R s (host.run servant m args s).2 :=
  h.trans (h.record s _) (h.absorb _ _)

theorem serve (h : Lasting R)
    {invoke : (m : Method i) → m.Args → Bus → Except Status m.Outcome × Bus}
    (k : ∀ m args s, R s (invoke m args s).2) (code : UInt32) (request : Payload) (s : Bus) :
    R s (ServiceBus.serve i invoke code request s).2 := by
  unfold ServiceBus.serve
  split
  · exact h.refl s
  · next m args _ => exact h.trans (k m args s) (h.answer code m _ _)

theorem dispatch (h : Lasting R) {b : Binder} {handle : Handler}
    (k : ∀ code request s, R s (handle code request s).2) (code : UInt32) (request : Payload)
    (s : Bus) : R s (ServiceBus.dispatch b handle code request s).2 := by
  unfold ServiceBus.dispatch
  split
  · exact h.refl s
  · split
    · exact h.refl s
    · exact h.trans (h.record s _) (k code request _)

theorem transactVia (h : Lasting R) {b : Binder} {handle : Handler}
    (k : ∀ code request s, R s (handle code request s).2) (code flags : UInt32) (fill : Writer)
    (s : Bus) : R s (ServiceBus.transactVia b handle code flags fill s).2 := by
  unfold ServiceBus.transactVia
  split
  · exact h.refl s
  · have filled := h.record s (.filled b code)
    dsimp only
    split
    · exact filled
    · next request _ =>
      have handled := h.trans filled (h.dispatch (b := b) k code request _)
      split
      · split
        · exact handled
        · exact h.trans handled (h.say _ _ _)
      · split
        · exact handled
        · split
          · exact handled
          · exact handled

theorem callVia (h : Lasting R) {b : Binder} {handle : Handler}
    (k : ∀ code request s, R s (handle code request s).2) (descriptor : String)
    (code flags : UInt32) (args : Writer) (s : Bus) :
    R s (ServiceBus.callVia b handle descriptor code flags args s).2 := by
  have ht := h.transactVia (b := b) k code flags (.token descriptor ++ args) s
  unfold ServiceBus.callVia
  split
  · next e => rwa [e] at ht
  · next e =>
    rw [e] at ht
    split
    · exact ht
    · split
      · exact ht
      · split <;> exact ht

theorem requestVia (h : Lasting R) {b : Binder} {handle : Handler}
    (k : ∀ code request s, R s (handle code request s).2) (m : Method i) (args : m.Args) (s : Bus) :
    R s (ServiceBus.requestVia b handle m args s).2 := by
  have hc := h.callVia (b := b) k i.descriptor m.code i.flags (m.write args) s
  unfold ServiceBus.requestVia
  split
  · next e => rwa [e] at hc
  · next e =>
    rw [e] at hc
    split
    · exact hc
    · next v _ =>
      have ha := h.trans hc (h.accept m.reply v _)
      split
      · next e' => rwa [e'] at ha
      · next e' => rwa [e'] at ha

/-- The induction is on how many binders stand in front of each other. -/
theorem handler (h : Lasting R) (host : Host) (b : Binder) (code : UInt32) (request : Payload)
    (s : Bus) : R s (b.handler host code request s).2 := by
  induction b generalizing code request s with
  | custom id descriptor handler => exact h.absorb s _
  | native id i servant => exact h.serve (h.run host servant) code request s
  | relay id i remote ih => exact h.serve (h.requestVia ih) code request s

theorem call (h : Lasting R) (host : Host) (p : Peer i) (m : Method i) (args : m.Args) (s : Bus) :
    R s (p.call host m args s).2 := by
  cases p with
  | hosted servant => exact h.run host servant m args s
  | remote c => exact h.requestVia (h.handler host c.remote) m args s

end Lasting

theorem foldl_kill {α : Type} {f : Bus → α} (h : ∀ s b, f (s.kill b) = f s) (l : List Binder)
    (s : Bus) : f (l.foldl kill s) = f s := by
  induction l generalizing s with
  | nil => rfl
  | cons b l ih => exact (ih (s.kill b)).trans (h s b)

@[simp] theorem absorb_events {α : Type} (s : Bus) (a : Answer α) :
    (s.absorb a).events = s.events := foldl_kill kill_events a.killed _

@[simp] theorem absorb_connections {α : Type} (s : Bus) (a : Answer α) :
    (s.absorb a).connections = s.connections := foldl_kill kill_connections a.killed _

theorem lasting_connections : Lasting fun s t => s.connections ≤ t.connections where
  refl _ := Nat.le_refl _
  trans := Nat.le_trans
  record _ _ := Nat.le_refl _
  say _ _ _ := Nat.le_refl _
  spawn _ := Nat.le_refl _
  connect s i b := by
    unfold connect
    split
    · exact Nat.le_succ _
    · exact Nat.le_refl _
  absorb s a := Nat.le_of_eq (s.absorb_connections a).symm

end Bus

theorem Host.run_events (host : Host) (servant : ServantId) {i : Interface} (m : Method i)
    (args : m.Args) (s : Bus) :
    (host.run servant m args s).2.events = s.events ++ [.invoked servant m args] := by
  simp [Host.run]

end ServiceBus
