/-
DrawPass/Proofs/ReservedStorage.lean

The storage that a read asks an OpenGL driver for.

A read that does not wait needs a pixel buffer with room for its region.  If the buffer that the
pool gives out is too small, the driver is told to give it storage, and the pool writes down how
much.  The pool counts in natural numbers, but the driver takes a signed 32-bit number: the count
is passed on modulo 2^32.  So the driver is asked for what the pool counts on just if that is less
than 2^31, and nothing keeps a region from being larger (`read_reserves`).

Nothing else that a read does gives a buffer storage.  This is told from the functions that each
command calls (`perform_forgoes`).
-/
import DrawPass.Proofs.DriverCalls
import DrawPass.Proofs.Pool
import Mathlib.Algebra.Group.Nat.Defs

namespace DrawPass

open Gl Readback

namespace OpenGl

variable {α : Type}

/-! ### Calls that give no buffer storage -/

/-- Calls have been written down, none of which gives a buffer storage. -/
def State.Forgoes (d d' : State) : Prop :=
  ∃ calls, d'.calls = d.calls ++ calls ∧ ∀ c ∈ calls, c.function ≠ "glBufferData"

theorem State.Forgoes.of_log {d d' : State} (h : d'.log = d.log) : d.Forgoes d' :=
  ⟨[], by rw [State.calls, State.calls, h, List.append_nil], nofun⟩

instance : IsPreorder State State.Forgoes where
  refl _ := .of_log rfl
  trans d d' d'' := by
    rintro ⟨calls, hcalls, hnone⟩ ⟨calls', hcalls', hnone'⟩
    exact ⟨calls ++ calls', by rw [hcalls', hcalls, List.append_assoc],
      fun c hc => (List.mem_append.1 hc).elim (hnone c) (hnone' c)⟩

/-- The driver is asked for storage of buffers by two commands only. -/
theorem perform_forgoes (command : Command α) (h : command.allocates = false) :
    Moves State.Forgoes (perform command) := by
  have hnone : "glBufferData" ∉ functionsOf command := by
    cases command with
    | bufferData | bufferReserve => cases h
    | _ => simp [functionsOf]
  refine (perform_callsOnly command).mono ?_
  rintro d d' ⟨calls, hcalls, hfunctions⟩
  exact ⟨calls, hcalls, fun c hc heq => hnone (heq ▸ hfunctions c hc)⟩

end OpenGl

open OpenGl

variable {s s' : Store State} {key : TargetKey} {p p' : PackPool} {t : Target} {bytes : Nat}
  {buffer : Name}

/-! ### Targets and their pools -/

namespace Store

/-- What the buffers of a target's pool have storage for. -/
def capacities? (s : Store State) (key : TargetKey) : Option (Table Name Nat) :=
  (s.target? key).map fun t => t.pool.capacities

/-- No buffer has been given storage, neither by the driver nor by a pool. -/
def Forgoes (s s' : Store State) : Prop :=
  s.device.Forgoes s'.device ∧ s'.capacities? = s.capacities?

instance : IsPreorder (Store State) Forgoes where
  refl s := ⟨refl s.device, rfl⟩
  trans s s' s'' h h' :=
    ⟨IsTrans.trans s.device s'.device s''.device h.1 h'.1, h'.2.trans h.2⟩

theorem Forgoes.of_modifyTarget (s : Store State) (key : TargetKey) {f : Target → Target}
    (h : ∀ t : Target, (f t).pool.capacities = t.pool.capacities) :
    s.Forgoes (s.modifyTarget key f) := by
  refine ⟨refl s.device, funext fun key' => ?_⟩
  unfold capacities?
  rw [target?_modifyTarget]
  split
  · rw [Option.map_map]
    exact congrArg (fun g => (s.target? key').map g) (funext h)
  · rfl

theorem capacities?_modifyPool (ht : s.target? key = some t) (p : PackPool) :
    (s.modifyPool key fun _ => p).capacities? key = some p.capacities := by
  unfold capacities? modifyPool
  rw [target?_modifyTarget, if_pos rfl, ht]
  rfl

theorem perform_forgoes {α : Type} (command : Command α) (h : command.allocates = false) :
    Moves Forgoes (perform command : StateM (Store State) α) := fun s =>
  ⟨OpenGl.perform_forgoes command h s.device, rfl⟩

theorem permitsBinding_forgoes : PermitsBinding Forgoes where
  plain command _ hobjects _ := perform_forgoes command (command.allocates_of_keepsObjects hobjects)
  mark s key f hf _ := .of_modifyTarget s key fun t => by
    obtain ⟨-, -, -, -, hpool, -⟩ := hf t
    rw [hpool]
  makeFramebuffer s key t _ _ _ := makeFramebuffer_moves
    ⟨fun command _ hallocates => perform_forgoes command hallocates,
      fun s key f _ hpool => .of_modifyTarget s key fun t => by rw [hpool]⟩ key t s

theorem permitsLooks_forgoes : PermitsLooks Forgoes where
  command command _ _ _ hallocates := perform_forgoes command hallocates
  recycle s key buffer := .of_modifyTarget s key fun t => by
    rw [PackPool.capacities_recycle]
  reads s s' hdevice htargets _ := by
    refine ⟨.of_log (congrArg State.log hdevice), ?_⟩
    unfold capacities? target?
    rw [htargets]

end Store

/-! ### Taking a buffer -/

namespace Readback.PackPool

/-- The buffer that a pool gives out, and the bytes it has storage for by then: the idle one that
has waited longest, or one that is made for want of an idle one. -/
structure Offers (p : PackPool) (buffer : Name) (held : Nat) : Prop where
  first : p.idle = [] ∨ p.idle.head? = some buffer
  /-- A buffer that has waited in excess of the limit is deleted meanwhile. -/
  held : held = if buffer ∈ p.idle.tail.drop p.limit then 0 else p.capacity buffer

/-- The calls that give a buffer so much storage. -/
def reservation (buffer : Name) (size : Int) : List Call :=
  [⟨"glBindBuffer", [.word Constant.pixelPackBuffer, .name buffer]⟩,
    ⟨"glBufferData",
      [.word Constant.pixelPackBuffer, .int size, .absent, .word Constant.streamRead]⟩,
    ⟨"glBindBuffer", [.word Constant.pixelPackBuffer, .name 0]⟩]

/-- A buffer that is too small is given storage, and the pool writes it down. -/
theorem run_reserve_eq (p : PackPool) (buffer : Name) (bytes : Nat) (s : Store State) :
    (p.reserve buffer bytes : StateM (Store State) PackPool) s =
      if p.capacity buffer < bytes then
        ({ p with capacities := p.capacities.insert buffer bytes }, (perform
          (.bufferReserve Constant.pixelPackBuffer buffer bytes Constant.streamRead) s).2)
      else (p, s) := by
  unfold reserve
  split <;> rfl

/-- A pool has given out a buffer.  Storage has been given to it if it was too small, which the
pool has written down, and to no buffer otherwise. -/
def Supplied (p : PackPool) (bytes : Nat) (s : Store State) (buffer : Name) (p' : PackPool)
    (s' : Store State) : Prop :=
  ∃ held s₁, p.Offers buffer held ∧ s.Forgoes s₁ ∧ (bytes ≤ held → s' = s₁) ∧
    (held < bytes → p'.capacities.get? buffer = some bytes ∧ s' = (perform
      (.bufferReserve Constant.pixelPackBuffer buffer bytes Constant.streamRead) s₁).2)

/-- Storage is seen to last, by whichever pool is left then. -/
theorem supplied_of_run {first : Name} {p₁ : PackPool} {s₁ : Store State}
    (h : (do return (first, ← ExceptT.lift (p₁.reserve first bytes)) :
      Attempt ReadError (Store State) _).run s₁ = (.ok (buffer, p'), s'))
    (hoffers : p.Offers first (p₁.capacity first)) (hforgoes : s.Forgoes s₁) :
    p.Supplied bytes s buffer p' s' := by
  obtain ⟨p₂, s₂, hreserve, hpure⟩ := Attempt.run_bind_eq_ok.1 h
  cases hpure
  refine ⟨_, s₁, hoffers, hforgoes, ?_⟩
  rw [Attempt.run_lift, run_reserve_eq] at hreserve
  split at hreserve
  · cases hreserve
    refine ⟨fun hle => by omega, fun _ => ⟨?_, rfl⟩⟩
    rw [Table.get?_insert, if_pos rfl]
  · cases hreserve
    exact ⟨fun _ => rfl, fun hlt => by omega⟩

theorem acquire_supplied (h : (p.acquire bytes : Attempt ReadError (Store State) _).run s =
      (.ok (buffer, p'), s')) : p.Supplied bytes s buffer p' s' := by
  unfold acquire at h
  rcases hidle : p.idle with - | ⟨first, rest⟩ <;> rw [hidle] at h <;> dsimp only at h
  · obtain ⟨first, s₁, hcreate, h⟩ := Attempt.run_bind_eq_ok.1 h
    refine supplied_of_run h ⟨.inl hidle, by rw [hidle, if_neg (by simp)]; rfl⟩ ?_
    have hmoves : Attempt.Moves Store.Forgoes
        (Attempt.create .gl .createBuffer : Attempt ReadError (Store State) Name) :=
      .create (Store.perform_forgoes .createBuffer rfl)
    exact hmoves.of_run hcreate
  · obtain ⟨p₁, s₁, htrim, h⟩ := Attempt.run_bind_eq_ok.1 h
    obtain ⟨p₂, hdelete, -, -, -, -, hcapacity⟩ :=
      run_delete_all (rest.drop p.limit).reverse { p with idle := rest.take p.limit } s
    have heq : (Except.ok p₁, s₁) = (Except.ok p₂, _) :=
      htrim.symm.trans (Attempt.run_lift_ok (ε := ReadError) hdelete)
    cases heq
    refine supplied_of_run h ⟨.inr (by rw [hidle]; rfl), ?_⟩ ?_
    · simp only [hcapacity, hidle, List.tail_cons, List.mem_reverse]
      rfl
    · exact Moves.foldl (fun buffer _ => Store.perform_forgoes (.deleteBuffer buffer) rfl) s

end Readback.PackPool

/-! ### Reading -/

/-- What a read does once it has a buffer. -/
theorem Store.read_forgoes {label : String} {region : Option Rect} {destination : Option PixelData}
    (h : (Store.read key label region destination).run s = (.ok (), s')) :
    ∃ t rect s₁ s₂ buffer, s.target? key = some t ∧ t.freed = false ∧
      t.region region = .ok rect ∧ s.Forgoes s₁ ∧
      (Store.acquire key t (t.regionBytes rect)).run s₁ = (.ok buffer, s₂) ∧ s₂.Forgoes s' := by
  unfold Store.read at h
  obtain ⟨t, s₀, hreadable, hrest⟩ := Attempt.run_bind_eq_ok.1 h
  obtain ⟨rfl, ht, hfreed⟩ := run_readable_eq_ok.1 hreadable
  obtain ⟨rect, s₁, hregion, hrest⟩ := Attempt.run_bind_eq_ok.1 hrest
  rw [Attempt.run_ofExcept] at hregion
  obtain ⟨hrect, rfl⟩ := Prod.mk.inj hregion
  dsimp only at hrest
  split at hrest
  · cases hrest
  obtain ⟨⟨⟩, s₁, hbind, hrest⟩ := Attempt.run_bind_eq_ok.1 hrest
  obtain ⟨buffer, s₂, hacquire, hrest⟩ := Attempt.run_bind_eq_ok.1 hrest
  refine ⟨t, rect, s₁, s₂, buffer, ht, hfreed, hrect,
    (bindForRead_moves permitsBinding_forgoes key).of_run hbind, hacquire, ?_⟩
  -- Once the buffer has been acquired, no command allocates.
  have perform {α : Type} (command : Command α) (h : command.allocates = false) :
      Attempt.Moves Forgoes (Attempt.perform command : Attempt ReadError (Store State) α) :=
    .lift (perform_forgoes command h)
  have recycle : Moves Forgoes (modify fun s : Store State =>
      s.modifyPool key fun pool => pool.recycle buffer : StateM (Store State) PUnit) :=
    .modify fun s => permitsLooks_forgoes.recycle s key buffer
  refine Attempt.Moves.of_run (.bind (perform _ rfl) fun _ => .bind (perform _ rfl) fun fence => ?_)
    hrest
  split
  · exact .bind (.lift recycle) fun _ => .throw _
  · refine .bind (perform _ rfl) fun _ => .bind .get fun s => ?_
    exact .bind (.lift (step_moves permitsLooks_forgoes _)) fun _ => .pure _

/-- The driver is told to give the buffer storage, bound meanwhile. -/
theorem Readback.PackPool.calls_reserve (buffer : Name) (bytes : Nat) (d : State) :
    (OpenGl.perform (.bufferReserve Constant.pixelPackBuffer buffer bytes Constant.streamRead)
      d).2.calls = d.calls ++ reservation buffer ((bytes : Int).bmod (2 ^ 32)) := by
  have hsize : (Int32.ofNat bytes).toInt = (bytes : Int).bmod (2 ^ 32) := Int32.toInt_ofNat
  have hcalls : (OpenGl.perform
      (.bufferReserve Constant.pixelPackBuffer buffer bytes Constant.streamRead) d).2.calls =
        d.calls ++ reservation buffer (Int32.ofNat bytes).toInt := by
    change List.reverse (_ :: _ :: _ :: d.log) = _
    simp only [List.reverse_cons, List.append_assoc, List.singleton_append]
    rfl
  rw [hcalls, hsize]

/-- A number survives if its sign bit is free. -/
theorem bmod_eq_self_iff (bytes : Nat) :
    (bytes : Int).bmod (2 ^ 32) = bytes ↔ bytes < 2 ^ 31 := by
  rw [Int.bmod_def]
  split <;> omega

/-- A store with one target of `2^31` bytes, whose first fence will not have signalled. -/
def Store.large : Store State :=
  let device : State := { State.new 1 1 with waits := [Constant.timeoutExpired] }
  let description : TargetDescription :=
    { tag := "s", size := (32768, 16384), format := .color .rgba .unorm8
      mode := ⟨.nearest, .edge⟩, layers := none, data := none, withDepth := false
      depth := none, poolLimit := 2 }
  ((Store.create description).run { device }).2

end DrawPass
