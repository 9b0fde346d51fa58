import ServiceBus.Proofs.Call.Footprint

/-!
What a call is on its way. Whatever number of binders pass it on, under whatever interfaces, all
that they and the implementation behind them are given is the method that was called, with the
arguments that it was called with.
-/
namespace ServiceBus

open Wire

/-- The event belongs to a call of the method with the arguments. -/
inductive Event.Carries {i : Interface} (m : Method i) (args : m.Args) : Event → Prop
  | filled (b : Binder) : Carries m args (.filled b m.code)
  | handled (b : Binder) (short : Vals.Short m.params args) :
      Carries m args (.handled b m.code (m.request args))
  | invoked (servant : ServantId) : Carries m args (.invoked servant m args)

variable {i j : Interface} {m : Method i} {args : m.Args}

theorem decodeRequest_request_of_ne (short : Vals.Short m.params args) (other : j ≠ i)
    (code : UInt32) : decodeRequest j code (m.request args) = .error .badType := by
  have start := asksFor_iff.2 (decodeRequest_request m short)
  cases start with
  | call start _ _ =>
    refine asksFor_iff.1 (.foreign start fun same => other ?_)
    exact Interface.descriptor_injective same.symm

/-- Who reads a request as a call of some method reads the call that was made. -/
theorem eq_of_decodeRequest_request (short : Vals.Short m.params args) {n : Method j}
    {args' : n.Args} (h : decodeRequest j m.code (m.request args) = .ok ⟨n, args'⟩) :
    j = i ∧ HEq n m ∧ HEq args' args := by
  by_cases same : j = i
  · subst same
    rw [decodeRequest_request m short] at h
    cases h
    exact ⟨rfl, .rfl, .rfl⟩
  · rw [decodeRequest_request_of_ne short same] at h
    cases h

theorem carries_handler (host : Host) (b : Binder) (short : Vals.Short m.params args) (s : Bus) :
    Bus.Adds (Event.Carries m args) s (b.handler host m.code (m.request args) s).2 := by
  induction b generalizing s with
  | custom id descriptor handler => exact .of_events (Bus.absorb_events s _)
  | native id j servant =>
    refine adds_serve (fun n args' s h => ?_) s
    obtain ⟨rfl, ⟨⟩, ⟨⟩⟩ := eq_of_decodeRequest_request short h
    exact .of_event (host.run_events servant _ _ s) (.invoked servant)
  | relay id j remote ih =>
    refine adds_serve (fun n args' s h => ?_) s
    obtain ⟨rfl, ⟨⟩, ⟨⟩⟩ := eq_of_decodeRequest_request short h
    exact adds_requestVia (.filled remote) (fun _ => ⟨.handled remote short, ih⟩) s

/-- All that happens in a call is that it is made and passed on. -/
theorem carries_call (host : Host) (p : Peer i) (m : Method i) (args : m.Args) (s : Bus) :
    Bus.Adds (Event.Carries m args) s (p.call host m args s).2 := by
  cases p with
  | hosted servant => exact .of_event (host.run_events servant m args s) (.invoked servant)
  | remote c =>
    exact adds_requestVia (.filled c.remote)
      (fun short => ⟨.handled c.remote short, carries_handler host c.remote short⟩) s

end ServiceBus
