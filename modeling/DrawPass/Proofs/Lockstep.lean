/-
DrawPass/Proofs/Lockstep.lean

Depth companions stay in lockstep with their targets.

A host is hands-off if it leaves it to specs to change and to resets to free targets.
Whatever else it does, and whatever the device refuses, a target with a companion of its
own and the companion have the same size, on the device as well, and are freed together
(`depth_companion_in_lockstep`).  The specs and the resets reach principal targets only:
the single targets of tags, and the slots of stories.
-/
import DrawPass.Proofs.Companions
import DrawPass.Proofs.Origin
import DrawPass.Proofs.UseAfterDelete

namespace DrawPass

open Gl Software

/-- Whether an act leaves it to others to change and to free targets. -/
def Act.isHandsOff : Act → Bool
  | update .. | free _ => false
  | _ => true

/-! ### Entries -/

namespace Registry

variable {s s' : Store State} {registry : Registry} {spec : TargetSpec}

/-- The targets that stand alone for their tags are principal. -/
def Principal (registry : Registry) (s : Store State) : Prop :=
  ∀ tag key, registry.entries.get? tag = some (.single key) → s.IsPrincipal key

/-- All targets of an entry are principal. -/
theorem Principal.slots (h : registry.Principal s) (hlock : s.Lockstep) {tag : String}
    {entry : Entry} (hentry : registry.entries.get? tag = some entry) :
    ∀ key ∈ entry.slots s, s.IsPrincipal key := by
  intro key hkey
  cases entry with
  | single _ =>
    cases List.mem_singleton.1 hkey
    exact h tag key hentry
  | story story =>
    obtain ⟨slots, hstory, hkey⟩ := Entry.mem_slots_story.1 hkey
    exact hlock.slots story slots.slots (congrArg (Option.map _) hstory) key hkey

/-- The target of an entry is brought up to date together with its companion. -/
theorem refresh_locks {entry : Entry} (hs : s.Owned) (h : s.Lockstep)
    (hentry : ∀ key ∈ entry.slots s, s.IsPrincipal key) (size : UInt32 × UInt32)
    (data : Option PixelData) : s.Locked ((refresh entry size data).run s).2 := by
  unfold refresh
  rw [Attempt.run_bind_ok (Attempt.run_get s)]
  split
  · rename_i key hkey
    split
    · exact (Store.update_locks (P := (· = key)) rfl size data s hs h fun _ e =>
        e ▸ hentry key (writeSlot?_mem hkey)).2
    · exact h.locked
  · exact h.locked

/-- A preparation keeps a store in lockstep, and adds only principal targets to the tags. -/
theorem prepare_locked {result : Except DrawError (Resolved × Registry)} (hs : s.Owned)
    (h : s.Lockstep) (hprincipal : registry.Principal s)
    (hprepare : (registry.prepare spec).run s = (result, s')) :
    s.Locked s' ∧ registry.Principal s' ∧
      ∀ resolved registry', result = .ok (resolved, registry') → registry'.Principal s' := by
  have hkept (hlocked : s.Locked s') : registry.Principal s' := fun tag key hkey =>
    hlocked.principal key (hprincipal tag key hkey)
  -- An entry that is known is changed in place, so the tags keep their targets.
  have hrefresh {entry : Entry} {result : Except DrawError Unit}
      (hentry : registry.entries.get? spec.tag = some entry)
      (hrun : (refresh entry (spec.resolveSize (surface s)) spec.data).run s = (result, s')) :
      s.Locked s' := by
    have hlocked := refresh_locks hs h (hprincipal.slots h hentry)
      (spec.resolveSize (surface s)) spec.data
    rwa [hrun] at hlocked
  cases prepare_prepared hprepare with
  | refused hsame =>
    rw [hsame]
    exact ⟨h.locked, hprincipal, fun _ _ h => by cases h⟩
  | stale _ hentry hrun =>
    have hlocked := hrefresh hentry hrun
    exact ⟨hlocked, hkept hlocked, fun _ _ h => by cases h⟩
  | found _ hentry hrun =>
    have hlocked := hrefresh hentry hrun
    exact ⟨hlocked, hkept hlocked, fun _ _ hresult => by cases hresult; exact hkept hlocked⟩
  | short _ _ hrun =>
    obtain ⟨hlocked, -⟩ := Store.make_locked hs h hrun
    exact ⟨hlocked, hkept hlocked, fun _ _ h => by cases h⟩
  | made _ _ hrun =>
    obtain ⟨hlocked, hnew⟩ := Store.make_locked hs h hrun
    refine ⟨hlocked, hkept hlocked, fun _ _ hresult tag key hkey => ?_⟩
    cases hresult
    -- The tag has new targets, and the other tags keep theirs.
    rw [Table.get?_insert] at hkey
    split at hkey
    · cases hkey
      exact hnew key rfl
    · exact hkept hlocked tag key hkey

/-- Every target of an entry may be freed. -/
theorem freeEntry_locks {P : TargetKey → Prop} {entry : Entry}
    (hentry : ∀ key, entry = .single key → P key) :
    Moves (Store.Locks P) (freeEntry entry : StateM (Store State) Unit) := by
  unfold freeEntry
  cases entry with
  | single key => exact Store.free_locks (hentry key rfl)
  | story key =>
    refine .bind_get fun s hs h hprincipal => ?_
    cases hstory : s.story? key with
    | none => exact ⟨hs, h.locked⟩
    | some story =>
      dsimp only
      rw [run_forIn_bind]
      exact Moves.foldl (R := Store.Locks (· ∈ story.slots)) (fun _ hslot => Store.free_locks hslot)
        s hs h (h.slots key story.slots (congrArg (Option.map _) hstory))

/-- Every target of every tag may be freed. -/
theorem freeAll_locks (registry : Registry) :
    Moves (Store.Locks fun key => .single key ∈ registry.entries.values)
      (registry.freeAll : StateM (Store State) Registry) := by
  intro s
  unfold freeAll
  rw [run_forIn_bind]
  exact Moves.foldl (fun entry hentry => freeEntry_locks fun key hkey => hkey ▸ hentry) s

end Registry

/-! ### Acts -/

namespace Renderer

/-- The targets of a renderer and their companions are in lockstep. -/
structure Lockstep (r : Renderer State) : Prop where
  owned : r.store.Owned
  store : r.store.Lockstep
  tags : r.registry.Principal r.store

/-- What is in lockstep stays so. -/
def StaysInLockstep (r r' : Renderer State) : Prop := r.Lockstep → r'.Lockstep

variable {r r' : Renderer State} {bag : Params.Bag} {destination : Destination}

instance : IsPreorder (Renderer State) StaysInLockstep where
  refl _ h := h
  trans _ _ _ h h' hr := h' (h hr)

/-- The tags are the same, and no target has to be known to be principal. -/
theorem staysInLockstep_of_locks (hstore : Store.Locks (fun _ => False) r.store r'.store)
    (htags : r'.registry = r.registry) : StaysInLockstep r r' := by
  intro h
  obtain ⟨howned, hlocked⟩ := hstore h.owned h.store nofun
  refine ⟨howned, hlocked.lockstep, fun tag key hkey => ?_⟩
  rw [htags] at hkey
  exact hlocked.principal key (h.tags tag key hkey)

theorem staysInLockstep_of_over
    (h : Over r.geometry.buffer (Store.Locks fun _ => False) r r')
    (htags : r'.registry = r.registry) : StaysInLockstep r r' :=
  staysInLockstep_of_locks (h rfl).2.1 htags

/-- Settling on a target. -/
theorem Settled.staysInLockstep
    {result : Except DrawError (Plan × Option Blend.State × Resolved)}
    (h : Settled destination r r' result) (howning : Store.Owning r.store r'.store) :
    StaysInLockstep r r' := by
  intro hr
  cases h with
  | apart hstore htags =>
    refine staysInLockstep_of_locks ?_ htags hr
    rw [hstore]
    exact refl r.store
  | refused _ hprepare htags =>
    obtain ⟨hlocked, hprincipal, -⟩ := Registry.prepare_locked hr.owned hr.store hr.tags hprepare
    exact ⟨howning hr.owned, hlocked.lockstep, htags ▸ hprincipal⟩
  | prepared _ hprepare =>
    obtain ⟨hlocked, -, hprincipal⟩ := Registry.prepare_locked hr.owned hr.store hr.tags hprepare
    exact ⟨howning hr.owned, hlocked.lockstep, hprincipal _ _ rfl⟩

theorem settle_owning (bag : Params.Bag) (destination : Destination) (r : Renderer State) :
    Store.Owning r.store ((settle bag destination).run r).2.store :=
  (settle_moves Store.permits_owning bag (fun _ _ => trivial) r rfl).2.1

/-- What comes after the preparation of a draw. -/
theorem paint_staysInLockstep (plan : Plan) (blend : Option Blend.State) (resolved : Resolved) :
    Attempt.Moves StaysInLockstep
      (paint plan blend resolved : Attempt DrawError (Renderer State) Unit) := fun r =>
  staysInLockstep_of_over
    (paint_moves Store.permitsBinding_locks
      (fun _ _ _ s => Store.locks_of_steady
        (Store.command_owning _ rfl s) (Store.command_steady _ rfl rfl s))
      (fun command hobjects hspecifies s => Store.locks_of_steady
        (Store.command_owning command (command.keepsFrames_of_keepsObjects hobjects) s)
        (Store.command_steady command (command.keepsFrames_of_keepsObjects hobjects) hspecifies s))
      (fun key _ s => Store.rotate_locks s key) plan blend r)
    (paint_sameTags plan blend resolved r)

theorem draw_staysInLockstep (bag : Params.Bag) (destination : Destination) :
    Attempt.Moves StaysInLockstep
      (draw bag destination : Attempt DrawError (Renderer State) Resolved) := by
  rw [draw_eq]
  refine .bind (fun r => ?_) fun ⟨plan, blend, resolved⟩ => ?_
  · have howning := settle_owning bag destination r
    rcases hsettle : (settle bag destination).run r with ⟨result, r₁⟩
    rw [hsettle] at howning
    exact (settle_settled hsettle).staysInLockstep howning
  · dsimp only
    split
    · exact .pure _
    · exact .bind (paint_staysInLockstep plan blend resolved) fun _ => .pure _

/-- A reset frees targets together with their companions. -/
theorem reset_staysInLockstep (r : Renderer State) : StaysInLockstep r (reset r).2 := by
  intro hr
  rw [run_reset]
  have hcleared : Store.Locks (fun key => .single key ∈ r.registry.entries.values) r.store
      r.cleared := by
    refine Store.after_moves (fun command hcommand s => ?_) r.store
    obtain ⟨id, -, rfl⟩ := List.mem_map.1 hcommand
    exact Store.locks_of_steady (Store.command_owning _ rfl s) (Store.command_steady _ rfl rfl s)
  obtain ⟨howned, hlocked⟩ := IsTrans.trans _ _ _ hcleared
    (Registry.freeAll_locks r.registry r.cleared) hr.owned hr.store fun key hkey => by
      obtain ⟨⟨tag, entry⟩, hmem, rfl⟩ := List.mem_map.1 hkey
      exact hr.tags tag key (Table.get?_eq_some_iff.2 hmem)
  exact ⟨howned, hlocked.lockstep, nofun⟩

/-- A new renderer has no targets. -/
theorem lockstep_create {config : Config} {width height : UInt32}
    (hr : create config { device := State.new width height } = .ok r) : r.Lockstep := by
  have howned := (ReachableBy.start (P := fun _ => True) hr).owned
  obtain ⟨_, -, -, -, -, hstore⟩ := create_new hr
  have hnone (key : TargetKey) : r.store.body? key = none := by
    rw [hstore]
    rfl
  refine ⟨howned, ⟨fun key b own hb => ?_, fun key _ own hown => ?_, fun key b hb => ?_, ?_⟩, ?_⟩
  · rw [hnone] at hb
    cases hb
  · obtain ⟨b, hb, -⟩ := hown
    rw [hnone] at hb
    cases hb
  · rw [hnone] at hb
    cases hb
  · rw [hstore]
    nofun
  · unfold create at hr
    split at hr <;> cases hr
    nofun

end Renderer

/-- Every hands-off act keeps companions in lockstep. -/
theorem Act.after_staysInLockstep {act : Act} (hact : act.isHandsOff) (r : Renderer State) :
    r.StaysInLockstep (act.after r) := by
  have haside (hact : act.isAside) (hover : r.Over r.geometry.buffer (Store.Locks fun _ => False)
      (act.after r)) : r.StaysInLockstep (act.after r) :=
    Renderer.staysInLockstep_of_over hover (by rw [Act.after_aside hact])
  cases act with
  | update | free => cases hact
  | draw bag destination => exact Renderer.draw_staysInLockstep bag destination r
  | reset => exact Renderer.reset_staysInLockstep r
  | control change =>
    exact haside rfl fun hr =>
      ⟨hr, Store.locks_of_steady (change.owning r.store) (change.steady r.store), id⟩
  | _ =>
    exact haside rfl (Act.look_moves Store.permitsBinding_locks Store.permitsReads_locks
      (fun key _ s => Store.rotate_locks s key) rfl r)

/-- The renderers that hands-off acts reach are in lockstep. -/
theorem ReachableBy.lockstep {r : Renderer State} (hr : ReachableBy (fun act => act.isHandsOff) r) :
    r.Lockstep :=
  hr.invariant (fun _ _ _ _ hr => Renderer.lockstep_create hr)
    fun act r hact h => act.after_staysInLockstep hact r h

/-! ### Targets that own nothing -/

namespace Store

variable {s s' : Store State} {key other : TargetKey} {t : Target}

/-- The target of a key is as it was, and so is the size of its texture. -/
structure SameAt (key : TargetKey) (s s' : Store State) : Prop where
  target : s'.target? key = s.target? key
  extent : ∀ t, s.target? key = some t →
    s'.device.textureSize? t.texture.name = s.device.textureSize? t.texture.name

theorem SameAt.refl (key : TargetKey) (s : Store State) : SameAt key s s := ⟨rfl, fun _ _ => rfl⟩

/-- Targets have textures of their own. -/
theorem Owned.name_ne (hs : s.Owned) (ht : s.target? key = some t) (hne : other ≠ key)
    {t' : Target} (ht' : s.target? other = some t') : t'.texture.name ≠ t.texture.name :=
  fun hname => hne (hs.ownTexture other key _ _ (frame?_of_target? ht') (frame?_of_target? ht) hname)

variable (hs : s.Owned) (ht : s.target? key = some t) (halone : t.companion.ownedKey? = none)
include hs ht halone

/-- A change of a target that owns nothing changes no other target, an attached one neither. -/
theorem update_sameAt (hne : other ≠ key) (size : UInt32 × UInt32) (data : Option PixelData) :
    SameAt other s ((update key size data).run s).2 := by
  rcases hrun : (update key size data).run s with ⟨e | ⟨⟩, s'⟩
  · rcases update_error hrun with rfl | ⟨t', own, ht', -, -, hown, -, -⟩
    · exact .refl other s'
    · cases ht.symm.trans ht'
      rw [halone] at hown
      cases hown
  obtain ⟨t', ht', -, -, ⟨-, rfl⟩ | ⟨own, c, hown, -⟩⟩ := update_eq_ok hrun <;>
    cases ht.symm.trans ht'
  · refine ⟨?_, fun t' ht' => ?_⟩
    · rw [target?_respecified, if_neg (Ne.symm hne)]
    · rw [textureSize?_respecified, if_neg (Ne.symm (hs.name_ne ht hne ht'))]
  · rw [halone] at hown
    cases hown

/-- The end of a target that owns nothing changes no other target, an attached one neither. -/
theorem free_sameAt (hne : other ≠ key) :
    SameAt other s ((free key : StateM (Store State) Unit) s).2 := by
  cases hfreed : t.freed with
  | true =>
    rw [run_free_gone fun t' ht' => by cases ht.symm.trans ht'; exact hfreed]
    exact .refl other s
  | false =>
    obtain ⟨s', hrun, hend⟩ := run_free_alone ht hfreed (by simp [halone])
    rw [hrun]
    refine ⟨?_, fun t' ht' => ?_⟩
    · rw [hend.target, if_neg hne]
    · rw [hend.textureSize?, if_neg (hs.name_ne ht hne ht')]

end Store

/-! ### The companions of a run -/

namespace Store

/-- What a target with a companion of its own and the companion have in common. -/
structure DepthPair (s : Store State) (tag : String) (t c : Target) : Prop where
  tag : c.tag = tag ++ "_depth"
  format : c.format = .depth
  layers : c.layers = none
  size : c.size = t.size
  freed : c.freed = t.freed
  /-- Both are as large on the device. -/
  stored : t.freed = false →
    s.device.textureSize? t.texture.name =
      some (t.size.1, t.size.2, max (t.layers.getD 1) 1) ∧
    s.device.textureSize? c.texture.name = some (t.size.1, t.size.2, 1)

/-- The target of a key has a depth companion of its own, which no other target owns. -/
def HasOwnDepth (s : Store State) (key : TargetKey) (tag : String) : Prop :=
  ∃ t own c, s.target? key = some t ∧ t.companion = .owned own ∧ s.target? own = some c ∧
    s.DepthPair tag t c ∧
    ∀ key' t', s.target? key' = some t' → t'.companion.ownedKey? = some own → key' = key

/-- The target of a key owns no companion.  A change and the end of the target leave all others
alone, and so the one that is attached to it, if there is one. -/
def OwnsNone (s : Store State) (key : TargetKey) (attached : Option TargetKey) : Prop :=
  ∃ t, s.target? key = some t ∧ t.companion.ownedKey? = none ∧ t.companion.key? = attached ∧
    ∀ other, other ≠ key →
      (∀ size data, SameAt other s ((update key size data).run s).2) ∧
      SameAt other s ((free key : StateM (Store State) Unit) s).2

end Store

/-- However a hands-off host goes on after a target has been made for a spec, a target that was to
have a depth companion of its own has one, which has the size of the target and goes when the
target goes.  A target that was to have none, or was given one, owns none; also its making left
alone all targets that were there. -/
theorem depth_companion_in_lockstep {r made : Renderer State}
    (hr : ReachableBy (fun act => act.isHandsOff) r) {bag : Params.Bag} {spec : TargetSpec}
    {format : TargetFormat} {key : TargetKey} (hmade : r.MakesTarget bag spec format key made)
    {acts : List Act} (hacts : ∀ act ∈ acts, act.isHandsOff) :
    (format.withDepth = true ∧ spec.depth = none →
      (Act.afterAll made acts).store.HasOwnDepth key spec.tag) ∧
    (format.withDepth = false ∨ spec.depth.isSome →
      (Act.afterAll made acts).store.OwnsNone key spec.depth ∧
      ∀ other b, r.store.body? other = some b → made.store.body? other = some b) := by
  obtain ⟨b₁, size, hb₁, htag, hfrom, hkept⟩ := hmade.origin hr.owned
  have hr₁ : ReachableBy (fun act => act.isHandsOff) made := by
    rw [← hmade.draw]
    exact hr.step (.draw bag (.spec spec)) rfl
  obtain ⟨b, hb, houtlives⟩ := Act.outlives_afterAll acts hr₁.mounted hb₁
  obtain ⟨t, ht, rfl⟩ := Store.body?_eq_some hb
  have hcompanion : t.companion = b₁.companion := houtlives.companion
  obtain ⟨howned, hlock, -⟩ := (hr₁.afterAll hacts).lockstep
  refine ⟨fun ⟨hwith, hnone⟩ => ?_, fun hlent => ⟨?_, hkept⟩⟩
  · obtain ⟨own, hown⟩ := hfrom.owned (by
      change (spec.depth.isNone && format.withDepth) = true
      rw [hnone, hwith]
      rfl)
    have hkey : t.companion.ownedKey? = some own := by
      rw [hcompanion, hown]
      rfl
    -- The companion is a target too, and it has the tag, the size and the fate of its owner.
    obtain ⟨bc, hbc, hdepth⟩ := hlock.companion key t.body own hb hkey
    obtain ⟨c, hc, rfl⟩ := Store.body?_eq_some hbc
    refine ⟨t, own, c, ht, hcompanion.trans hown, hc, ?pair, fun key' t' ht' hown' =>
      hlock.sole key' key own ((Store.owns_iff ht').2 hown') ((Store.owns_iff ht).2 hkey)⟩
    refine ⟨?_, hdepth.format, hdepth.layers, hdepth.size, hdepth.freed, fun hfreed =>
      ⟨hlock.stored key t.body hb hfreed, ?_⟩⟩
    · rw [← htag, ← houtlives.texture]
      exact hdepth.tag
    · have hstored := hlock.stored own c.body hbc (hdepth.freed.trans hfreed)
      rw [Body.extent, hdepth.size, hdepth.layers] at hstored
      exact hstored
  · have hlent : b₁.companion = _ := hfrom.lent (by
      change (spec.depth.isNone && format.withDepth) = false
      rcases hlent with hwith | hsome
      · rw [hwith, Bool.and_false]
      · obtain ⟨depth, hdepth⟩ := Option.isSome_iff_exists.1 hsome
        rw [hdepth]
        rfl)
    have halone : t.companion.ownedKey? = none := by
      rw [hcompanion, hlent, TargetDescription.ownedKey?_lent]
    refine ⟨t, ht, halone, ?_, fun other hne => ⟨fun size data =>
      Store.update_sameAt howned ht halone hne size data, Store.free_sameAt howned ht halone hne⟩⟩
    rw [hcompanion, hlent, TargetDescription.key?_lent]
    rfl

/-- A target with a companion, which is drawn into at another size and freed by a reset. -/
theorem depth_companion_in_lockstep_of_reset :
    ∃ made, ReachableBy (fun act => act.isHandsOff) Renderer.onePixel ∧
      Renderer.onePixel.MakesTarget .empty { tag := "s", format := some "rgba8+depth" }
        ⟨.rgba8, true⟩ ⟨1⟩ made ∧
      (Act.afterAll made [.draw .empty (.spec { tag := "s", size := some (2, 3) }), .reset]
        ).store.HasOwnDepth ⟨1⟩ "s" := by
  have hr : ReachableBy (fun act => act.isHandsOff) Renderer.onePixel :=
    .start Renderer.create_onePixel
  have hmade : Renderer.onePixel.MakesTarget .empty { tag := "s", format := some "rgba8+depth" }
      ⟨.rgba8, true⟩ ⟨1⟩ _ := ⟨rfl, by decide +kernel, by decide +kernel, by decide +kernel⟩
  exact ⟨_, hr, hmade, (depth_companion_in_lockstep hr hmade (by decide)).1 ⟨rfl, rfl⟩⟩

end DrawPass
