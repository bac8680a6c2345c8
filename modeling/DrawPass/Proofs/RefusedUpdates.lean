/-
DrawPass/Proofs/RefusedUpdates.lean

What a refused change of a target leaves behind.

A change is refused before anything is done if its target is unknown or freed or if the data does
not fill it.  The companion that a target owns follows last, and whether it can follow is not known
before: when it has been freed under its target (`Store.HasLost`), the target has been given its
new storage by the time of the refusal, and only the target (`Store.Respecified`).  There is no
other refusal that changes anything (`refused_update_keeps_iff`).
-/
import DrawPass.Proofs.Extents

namespace DrawPass

open Gl Software

namespace Store

variable {s s' : Store State} {key : TargetKey} {t c : Target} {size : UInt32 × UInt32}
  {data : Option PixelData}

/-- A target in use owns a companion that has been freed. -/
structure HasLost (s : Store State) (key : TargetKey) (t c : Target) : Prop where
  target : s.target? key = some t
  live : t.freed = false
  lost : ∃ own, t.companion = .owned own ∧ s.target? own = some c ∧ c.freed = true

/-- One call has given one target, and no other, new storage. -/
structure Respecified (s s' : Store State) (key : TargetKey) (t : Target)
    (size : UInt32 × UInt32) (data : Option PixelData) : Prop where
  target : s'.target? key = some (t.resized size)
  others : ∀ other, other ≠ key → s'.target? other = s.target? other
  extent : s'.device.textureSize? t.texture.name =
    some (size.1, size.2, max (t.layers.getD 1) 1)
  textures : ∀ id, id ≠ t.texture.name →
    s'.device.textures.get? id = s.device.textures.get? id
  log : s'.device.log = .texImage t.texture.name size.1 size.2 t.layers
    t.info.layout.internalFormat data.isSome :: s.device.log

/-- New storage is for one target only. -/
theorem Owned.respecified (hs : s.Owned) (ht : s.target? key = some t) (hlive : t.freed = false) :
    s.Respecified (s.respecified key t size data) key t size data where
  target := target?_respecified_self ht
  others other hne := by rw [target?_respecified, if_neg (Ne.symm hne)]
  extent := by
    obtain ⟨texture, htexture⟩ := hs.exists_texture ht hlive
    rw [textureSize?_respecified, if_pos rfl, State.textureSize?_eq, htexture]
    rfl
  textures id hne := (Table.get?_modify ..).trans (if_neg (Ne.symm hne))
  log := by
    change _ :: s.device.log = _
    rw [Option.isSome_map]

/-- The refusal of a change names the companion that could not follow. -/
theorem update_lost (h : s.HasLost key t c)
    (hdata : checkData t.tag t.info size t.layers data = .ok ()) :
    (update key size data).run s =
      (.error (.freedTarget c.tag), s.respecified key t size data) := by
  obtain ⟨ht, hlive, own, hown, hc, hfreed⟩ := h
  have husable : (usable own).run (s.respecified key t size data) =
      (.error (.freedTarget c.tag), s.respecified key t size data) := by
    obtain ⟨c', hc', hsame⟩ :=
      @exists_target?_respecified s key t size data own c hc
    rw [run_usable, hc']
    rcases hsame with rfl | rfl <;> exact congrArg (·, _) (if_pos hfreed)
  rw [update_owner ht hlive hdata (congrArg Companion.ownedKey? hown), respecify]
  exact Attempt.run_bind_error husable

/-- A refusal without a lost companion changes nothing. -/
theorem Mounted.update_refused (hs : s.Mounted) {e : DrawError}
    (hrun : (update key size data).run s = (.error e, s')) :
    s' = s ∨ ∃ t c, s.HasLost key t c ∧
      checkData t.tag t.info size t.layers data = .ok () := by
  rcases update_error hrun with hsame | ⟨t, own, ht, hlive, hdata, hown, hgone, -⟩
  · exact .inl hsame
  obtain ⟨f, hf, -⟩ := hs.paired key t.frame own (frame?_of_target? ht) hown
  obtain ⟨c, hc, -⟩ := frame?_eq_some hf
  have howned : t.companion = .owned own := by
    cases hcompanion : t.companion <;> rw [hcompanion] at hown <;> cases hown
    rfl
  exact .inr ⟨t, c, ⟨ht, hlive, own, howned, hc, hgone c hc⟩, hdata⟩

end Store

/-- A refused change of a target changes nothing at all, whatever the reason, unless the target is
in use, the data fills it, and the companion that it owns has been freed.  Then the refusal names
the companion, and one call has been made that gives the target its new storage; its companion, as
every other target, keeps size and storage. -/
theorem refused_update_keeps_iff {r r' : Renderer State} (hr : Reachable r) {key : TargetKey}
    {size : UInt32 × UInt32} {data : Option PixelData} {e : DrawError}
    (hrun : (Renderer.tryOnStore (Store.update key size data)).run r = (.error e, r')) :
    (r' = r ↔ ¬ ∃ t c, r.store.HasLost key t c ∧
      checkData t.tag t.info size t.layers data = .ok ()) ∧
    ∀ t c, r.store.HasLost key t c → checkData t.tag t.info size t.layers data = .ok () →
      e = .freedTarget c.tag ∧ r' = { r with store := r'.store } ∧
      r.store.Respecified r'.store key t size data := by
  rcases hupdate : (Store.update key size data).run r.store with ⟨result, s'⟩
  rw [Renderer.run_tryOnStore, hupdate] at hrun
  cases hrun
  have hlost (t c : Target) (hlost : r.store.HasLost key t c)
      (hdata : checkData t.tag t.info size t.layers data = .ok ()) :
      e = .freedTarget c.tag ∧ r.store.Respecified s' key t size data := by
    rw [Store.update_lost hlost hdata] at hupdate
    cases hupdate
    exact ⟨rfl, hr.mounted.respecified hlost.target hlost.live⟩
  refine ⟨⟨?_, fun hnone => ?_⟩, fun t c hhas hdata => ?_⟩
  · rintro hsame ⟨t, c, hhas, hdata⟩
    -- A log with one more call is another log.
    have hlog := (hlost t c hhas hdata).2.log
    have hstore : s' = r.store := congrArg Renderer.store hsame
    rw [hstore] at hlog
    exact List.cons_ne_self _ _ hlog.symm
  · rcases hr.mounted.update_refused hupdate with hsame | hhas
    · rw [hsame]
    · exact absurd hhas hnone
  · obtain ⟨he, hrespecified⟩ := hlost t c hhas hdata
    exact ⟨he, rfl, hrespecified⟩

/-- A target with a depth companion, whose companion has been freed: a change of its size is
refused, and the target has the new size. -/
theorem refused_update_keeps_iff_of_freed_companion :
    ∃ (r r' : Renderer State) (t : Target), Reachable r ∧
      (Renderer.tryOnStore (Store.update ⟨1⟩ (2, 2) none)).run r =
        (.error (.freedTarget "s_depth"), r') ∧
      t.size = (1, 1) ∧ r.store.Respecified r'.store ⟨1⟩ t (2, 2) none ∧ r' ≠ r := by
  let spec : TargetSpec := { tag := "s", size := some (1, 1), format := some "rgba8+depth" }
  let r := Act.afterAll Renderer.onePixel [.draw .empty (.spec spec), .free ⟨0⟩]
  have hr : Reachable r := .onePixel _
  obtain ⟨t, ht, hlive, hown, hsize⟩ : ∃ t, r.store.target? ⟨1⟩ = some t ∧ t.freed = false ∧
      t.companion = .owned ⟨0⟩ ∧ t.size = (1, 1) :=
    ⟨_, by rfl, by decide +kernel, by decide +kernel, by decide +kernel⟩
  obtain ⟨c, hc, hfreed, htag⟩ : ∃ c, r.store.target? ⟨0⟩ = some c ∧ c.freed = true ∧
      c.tag = "s_depth" := ⟨_, by rfl, by decide +kernel, by decide +kernel⟩
  have hlost : r.store.HasLost ⟨1⟩ t c := ⟨ht, hlive, ⟨0⟩, hown, hc, hfreed⟩
  have hrun : (Renderer.tryOnStore (Store.update ⟨1⟩ (2, 2) none)).run r =
      (.error (.freedTarget "s_depth"),
        { r with store := r.store.respecified ⟨1⟩ t (2, 2) none }) := by
    rw [Renderer.run_tryOnStore, Store.update_lost hlost rfl, htag]
  obtain ⟨hiff, hleft⟩ := refused_update_keeps_iff hr hrun
  obtain ⟨-, -, hrespecified⟩ := hleft t c hlost rfl
  exact ⟨r, _, t, hr, hrun, hsize, hrespecified, fun hsame => hiff.1 hsame ⟨t, c, hlost, rfl⟩⟩

end DrawPass
