import ServiceBus.Proofs.Handle.Caching

/-!
What a handle has at hand from one moment to a later one. It is what it had at hand before, or a
connection that was made in between and that is told apart by its number from all that were made
earlier.
-/
namespace ServiceBus

open World

variable {i : Interface}

/-- What the handle has at hand later, it had before or it was made in between. -/
structure World.Renews (r : HandleRef i) (w w' : World) : Prop where
  connections : w.bus.connections ≤ w'.bus.connections
  cached : ∀ c, w'.cached? r = some c → w.cached? r = some c ∨
    (w.bus.connections ≤ c.serial ∧ c.serial < w'.bus.connections)

variable {host : Host} {r : HandleRef i} {w w' w'' : World}

namespace World.Renews

theorem of_kept (h : w'.cached? r = w.cached? r)
    (k : w.bus.connections ≤ w'.bus.connections) : Renews r w w' :=
  ⟨k, fun _ hc => .inl (h ▸ hc)⟩

theorem of_gone (h : w'.cached? r = none) (k : w.bus.connections ≤ w'.bus.connections) :
    Renews r w w' :=
  ⟨k, fun c hc => by cases h.symm.trans hc⟩

theorem refl (w : World) : Renews r w w := of_kept rfl (Nat.le_refl _)

theorem trans (h : Renews r w w') (k : Renews r w' w'') : Renews r w w'' where
  connections := Nat.le_trans h.connections k.connections
  cached c hc := by
    have h₁ := h.connections
    have h₂ := k.connections
    rcases k.cached c hc with hc' | ⟨ge, lt⟩
    · rcases h.cached c hc' with hc'' | ⟨ge, lt⟩
      · exact .inl hc''
      · exact .inr ⟨ge, by omega⟩
    · exact .inr ⟨by omega, lt⟩

end World.Renews

theorem renews_say (w : World) (l : Level) (t : String) : Renews r w (w.say l t) :=
  .of_kept rfl (Nat.le_refl _)

theorem renews_resolve (w : World) : Renews r w (w.resolve host r).2 := by
  refine ⟨resolve_connections host w r, fun c hc => ?_⟩
  cases h : w.cached? r with
  | some d =>
    rw [resolve_of_cached host h] at hc
    exact .inl (h.symm.trans hc)
  | none => exact .inr (resolve_serial host h ((cached?_resolve host w r).symm.trans hc))

theorem renews_invalidate (w : World) : Renews r w (w.invalidate r) :=
  .of_gone (cached?_invalidate w r) (Nat.le_of_eq (quiet_invalidate w r).connections.symm)

theorem renews_invalidateIf (w : World) (q : HandleRef i) (p : Peer i) :
    Renews r w (w.invalidateIf q p) := by
  have hb := Nat.le_of_eq (quiet_invalidateIf w q p).connections.symm
  by_cases hp : (w.cached? q).map Peer.remote = some p
  · obtain ⟨d, hd, rfl⟩ := Option.map_eq_some_iff.1 hp
    have hh : (w.invalidateIf q (.remote d)).handles = (w.setCached q none).handles := by
      rw [invalidateIf_of_cached hd, invalidate_handles hd]
    by_cases hq : r = q
    · subst hq
      exact .of_gone ((cached?_congr hh r).trans (cached?_setCached_none w r)) hb
    · refine .of_kept ((cached?_congr hh r).trans ?_) hb
      rw [cached?, cached?, handle?_setCached_of_ne hq]
  · exact .of_kept (cached?_congr (invalidateIf_handles_of_ne hp) r) hb

theorem renews_of_quiet (h : w.Quiet w') (k : w'.handles = w.handles) : Renews r w w' :=
  .of_kept (cached?_congr k r) (Nat.le_of_eq h.connections.symm)

theorem renews_call (host : Host) {j : Interface} (p : Peer j) (m : Method j) (args : m.Args)
    (w : World) :
    Renews r w { w with bus := (p.call host m args w.bus).2 } :=
  .of_kept rfl (Bus.lasting_connections.call host p m args w.bus)

end ServiceBus
