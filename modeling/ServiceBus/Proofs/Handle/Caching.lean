import ServiceBus.Handle
import ServiceBus.Proofs.Call.Growth

/-!
What the operations of a handle do to what it has at hand, and that they leave the rest alone:
every other handle, and all of the bus but the log. Only an empty handle gets a connection, and it
is always a new one.
-/
namespace ServiceBus.World

variable {i : Interface} {w w' w'' : World}

/-- The same world but for what the handles have at hand and what the log says. -/
structure Quiet (w w' : World) : Prop where
  live : w'.bus.live = w.bus.live
  connections : w'.bus.connections = w.bus.connections
  events : w'.bus.events = w.bus.events
  registries : w'.registries = w.registries

theorem Quiet.refl (w : World) : w.Quiet w := ⟨rfl, rfl, rfl, rfl⟩

theorem Quiet.trans (h : w.Quiet w') (k : w'.Quiet w'') : w.Quiet w'' where
  live := k.live.trans h.live
  connections := k.connections.trans h.connections
  events := k.events.trans h.events
  registries := k.registries.trans h.registries

theorem quiet_say (w : World) (l : Level) (t : String) : w.Quiet (w.say l t) :=
  ⟨rfl, rfl, rfl, rfl⟩

theorem quiet_setCached (w : World) (r : HandleRef i) (c : Option (Connection i)) :
    w.Quiet (w.setCached r c) := by
  unfold setCached
  split
  · exact Quiet.refl w
  · exact ⟨rfl, rfl, rfl, rfl⟩

theorem quiet_invalidate (w : World) (r : HandleRef i) : w.Quiet (w.invalidate r) := by
  unfold invalidate
  split
  · exact Quiet.refl w
  · split
    · exact (quiet_setCached w r none).trans (quiet_say _ _ _)
    · exact Quiet.refl w

theorem quiet_invalidateIf (w : World) (r : HandleRef i) (p : Peer i) :
    w.Quiet (w.invalidateIf r p) := by
  unfold invalidateIf
  split
  · exact Quiet.refl w
  · split
    · exact quiet_invalidate w r
    · exact quiet_say _ _ _

theorem cached?_congr (h : w'.handles = w.handles) (r : HandleRef i) :
    w'.cached? r = w.cached? r := by
  rw [cached?, cached?, handle?, handle?, h]

theorem setCached_handles_congr (h : w'.handles = w.handles) (r : HandleRef i)
    (c : Option (Connection i)) : (w'.setCached r c).handles = (w.setCached r c).handles := by
  have hr : w'.handle? r = w.handle? r := by
    rw [handle?, handle?, h]
  unfold setCached
  rw [hr]
  cases w.handle? r with
  | none => exact h
  | some x => simp only [setHandle, h]

@[simp] theorem cached?_setCached_none (w : World) (r : HandleRef i) :
    (w.setCached r none).cached? r = none := by
  rw [cached?_setCached_self]
  cases w.handle? r <;> rfl

theorem handle?_setCached_of_ne {q r : HandleRef i} (h : q ≠ r) (w : World)
    (c : Option (Connection i)) : (w.setCached r c).handle? q = w.handle? q := by
  have hi : r.index ≠ q.index := fun e => h (by cases q; cases r; exact congrArg _ e.symm)
  unfold setCached
  cases w.handle? r with
  | none => rfl
  | some x => simp [handle?, setHandle, hi]

theorem invalidate_handles {c : Connection i} {r : HandleRef i} (h : w.cached? r = some c) :
    (w.invalidate r).handles = (w.setCached r none).handles := by
  rw [cached?] at h
  unfold invalidate
  cases hr : w.handle? r with
  | none => simp [hr] at h
  | some x =>
    have hx : x.cached = some c := by simpa [hr] using h
    simp [hx]

theorem invalidateIf_of_cached {r : HandleRef i} {c : Connection i} (h : w.cached? r = some c) :
    w.invalidateIf r (.remote c) = w.invalidate r := by
  rw [cached?] at h
  unfold invalidateIf
  cases hr : w.handle? r with
  | none => simp [hr] at h
  | some x =>
    have hx : x.cached = some c := by simpa [hr] using h
    simp [hx]

theorem invalidateIf_handles_of_ne {r : HandleRef i} {p : Peer i}
    (h : (w.cached? r).map Peer.remote ≠ some p) : (w.invalidateIf r p).handles = w.handles := by
  rw [cached?] at h
  unfold invalidateIf
  cases hr : w.handle? r with
  | none => rfl
  | some x =>
    have hx : x.cached.map Peer.remote ≠ some p := by simpa [hr] using h
    simp [hx]

section

variable {R : Bus → Bus → Prop} (host : Host)

theorem lookup_handles (w : World) (directory : Directory) (name : String) :
    (w.lookup host directory name).2.handles = w.handles := by
  cases directory <;> rfl

theorem lasting_check (h : Bus.Lasting R) (r : Registry) (name : String) (s : Bus) :
    R s (r.check name s).2.2 := by
  unfold Registry.check
  split
  · exact h.refl s
  · split
    · exact h.refl s
    · exact h.say s _ _

theorem lasting_add (h : Bus.Lasting R) (r : Registry) (name : String) (b : Binder) (s : Bus) :
    R s (r.add name b s).2.2 := by
  unfold Registry.add
  split
  · exact h.refl s
  · dsimp only
    split
    · exact h.say s _ _
    · exact h.refl s

theorem lasting_lookup (h : Bus.Lasting R) (w : World) (directory : Directory) (name : String) :
    R w.bus (w.lookup host directory name).2.bus := by
  cases directory with
  | registry id => exact h.trans (lasting_check h _ name w.bus) (h.record _ _)
  | custom id => exact h.record w.bus _

theorem resolve_of_cached {r : HandleRef i} {c : Connection i} (h : w.cached? r = some c) :
    w.resolve host r = (some c, w) := by
  rw [cached?] at h
  unfold resolve
  cases hr : w.handle? r with
  | none => simp [hr] at h
  | some x =>
    have hx : x.cached = some c := by simpa [hr] using h
    simp only [hx]

/-- What becomes of a handle that has nothing at hand: nothing, or it gets a new connection. -/
theorem resolve_cases {w : World} {r : HandleRef i} {x : Handle i} (hx : w.handle? r = some x)
    (empty : x.cached = none) :
    ∃ w₁, w₁.handles = w.handles ∧ w.bus.connections ≤ w₁.bus.connections ∧
      (w.resolve host r = (none, w₁) ∨ ∃ b,
        w.resolve host r = (some ⟨w₁.bus.connections, b⟩,
          (({ w₁ with bus := { w₁.bus with connections := w₁.bus.connections + 1 } }).say .debug
            ("Resolved service '" ++ x.name ++ "'")).setCached r
              (some ⟨w₁.bus.connections, b⟩))) := by
  have hl := lookup_handles host w x.directory x.name
  have hb := lasting_lookup host Bus.lasting_connections w x.directory x.name
  -- Nothing is kept unless a binder is found and has the descriptor of the interface.
  rcases hw : w.lookup host x.directory x.name with ⟨_ | b, w₁⟩
  all_goals
    rw [hw] at hl hb
    simp only [resolve, hx, empty, hw]
  · exact ⟨w₁.say _ _, hl, hb, .inl rfl⟩
  · by_cases hd : b.descriptor = i.descriptor
    · refine ⟨w₁, hl, hb, .inr ⟨b, ?_⟩⟩
      simp only [onBus, Bus.connect, if_pos hd]
    · simp only [onBus, Bus.connect, if_neg hd]
      exact ⟨w₁.say _ _, hl, hb, .inl rfl⟩

theorem cached?_of_handle? {w : World} {r : HandleRef i} {x : Handle i} (h : w.handle? r = some x) :
    w.cached? r = x.cached := by
  rw [cached?, h, Option.bind_some]

theorem cached?_resolve (w : World) (r : HandleRef i) :
    (w.resolve host r).2.cached? r = (w.resolve host r).1 := by
  cases hr : w.handle? r with
  | none => simp [resolve, cached?, hr]
  | some x =>
    have hx := cached?_of_handle? hr
    cases hc : x.cached with
    | some c => rw [resolve_of_cached host (hx.trans hc), hx, hc]
    | none =>
      obtain ⟨w₁, hh, -, hw | ⟨b, hw⟩⟩ := resolve_cases host hr hc
      · rw [hw]
        exact (cached?_congr hh r).trans (hx.trans hc)
      · have hr' : w₁.handle? r = some x := by rw [← hr, handle?, handle?, hh]
        rw [hw, cached?_setCached_self]
        show (w₁.handle? r).bind _ = _
        rw [hr', Option.bind_some]

theorem cached?_of_resolve {r : HandleRef i} {c : Connection i}
    (resolved : w.resolve host r = (some c, w')) : w'.cached? r = some c := by
  have h := cached?_resolve host w r
  rwa [resolved] at h

theorem resolve_serial {w : World} {r : HandleRef i} (empty : w.cached? r = none)
    {c : Connection i} (h : (w.resolve host r).1 = some c) :
    w.bus.connections ≤ c.serial ∧ c.serial < (w.resolve host r).2.bus.connections := by
  cases hr : w.handle? r with
  | none => simp [resolve, hr] at h
  | some x =>
    have hx := cached?_of_handle? hr
    obtain ⟨w₁, -, hb, hw | ⟨b, hw⟩⟩ := resolve_cases host hr (hx.symm.trans empty)
    · rw [hw] at h
      cases h
    · rw [hw] at h ⊢
      cases h
      refine ⟨hb, ?_⟩
      rw [(quiet_setCached _ r _).connections]
      exact Nat.lt_succ_self _

theorem resolve_connections (w : World) (r : HandleRef i) :
    w.bus.connections ≤ (w.resolve host r).2.bus.connections := by
  cases hr : w.handle? r with
  | none => simp [resolve, hr]
  | some x =>
    have hx := cached?_of_handle? hr
    cases hc : x.cached with
    | some c =>
      have h := resolve_of_cached host (hx.trans hc)
      exact Nat.le_of_eq (by rw [h])
    | none =>
      obtain ⟨w₁, -, hb, hw | ⟨b, hw⟩⟩ := resolve_cases host hr hc
      · rwa [hw]
      · rw [hw, (quiet_setCached _ r _).connections]
        exact Nat.le_succ_of_le hb

end

end ServiceBus.World
