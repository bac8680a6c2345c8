/-
DrawPass/Proofs/Readback.lean

Reads that do not wait hand over the right pixels, at most once.

A read that has begun is pending, delivered or dropped.  It is followed through the acts
of the host by two invariants together (`Store.Followed`): the store is sound, and either
the read is the only one of its label under way and its buffer holds what was copied into
it, or it is over and at most one array has been handed over under its label.  Looking at
any read keeps this, so a poll does, and so does every other act.

What is handed over is fixed when the read begins.  It is what a blocking read would have
returned at that moment, unless the device gives fewer bytes than the region has
(`Store.ReadsWhole` says when it does not).
-/
import DrawPass.Proofs.ReadStep
import Mathlib.Logic.ExistsUnique

namespace DrawPass

open Gl Readback Software

/-- What can have become of a read. -/
inductive Fate where
  | pending
  | delivered
  | dropped
  deriving DecidableEq

namespace Store

/-- The reads under way under a label. -/
def underWay (s : Store State) (label : String) : List PendingRead :=
  s.pending.filter fun read => read.label == label

/-- What has been handed over under a label, oldest first. -/
def handedOver (s : Store State) (label : String) : List PixelData :=
  (s.delivered.filter fun delivery => delivery.label == label).map Delivery.pixels

/-- What has become of the one read of a label, which hands over these pixels if any. -/
def HasFate (s : Store State) (label : String) (pixels : PixelData) : Fate → Prop
  | .pending => (s.underWay label).length = 1 ∧ s.handedOver label = []
  | .delivered => s.underWay label = [] ∧ s.handedOver label = [pixels]
  | .dropped => s.underWay label = [] ∧ s.handedOver label = []

/-- The three exclude each other. -/
theorem HasFate.eq {s : Store State} {label : String} {pixels : PixelData} {fate fate' : Fate}
    (h : s.HasFate label pixels fate) (h' : s.HasFate label pixels fate') : fate = fate' := by
  have hlength {l : List PendingRead} (hone : l.length = 1) (hnil : l = []) : False := by
    rw [hnil] at hone
    cases hone
  cases fate <;> cases fate' <;> first | rfl | skip
  · exact (hlength h.1 h'.1).elim
  · exact (hlength h.1 h'.1).elim
  · exact (hlength h'.1 h.1).elim
  · cases h.2.symm.trans h'.2
  · exact (hlength h'.1 h.1).elim
  · cases h'.2.symm.trans h.2

variable {index : Name} {first read : PendingRead} {data : Bytes} {reads reads' due : List PendingRead}
  {s s' : Store State} {fate fate' : Fate}

/-! ### Following one read -/

/-- Where a read stands, among all the reads under way. -/
inductive Tracked (first : PendingRead) (data : Bytes) (reads : List PendingRead)
    (s : Store State) : Fate → Prop where
  | pending (nextPoll : Nat)
      (hreads : (reads.filter fun read => read.label == first.label) = [{ first with nextPoll }])
      (hdelivered : s.handedOver first.label = []) (hholds : s.Holds first data) :
      Tracked first data reads s .pending
  | delivered (hreads : (reads.filter fun read => read.label == first.label) = [])
      (hdelivered : s.handedOver first.label = [first.array.writeBytes data]) :
      Tracked first data reads s .delivered
  | dropped (hreads : (reads.filter fun read => read.label == first.label) = [])
      (hdelivered : s.handedOver first.label = []) :
      Tracked first data reads s .dropped

theorem Tracked.hasFate (h : s.Tracked first data s.pending fate) :
    s.HasFate first.label (first.array.writeBytes data) fate := by
  cases h with
  | pending nextPoll hreads hdelivered =>
    refine ⟨?_, hdelivered⟩
    rw [underWay, hreads]
    rfl
  | delivered hreads hdelivered => exact ⟨hreads, hdelivered⟩
  | dropped hreads hdelivered => exact ⟨hreads, hdelivered⟩

/-- Nothing has happened to the read. -/
theorem Tracked.of (h : s.Tracked first data reads fate)
    (hreads : (reads'.filter fun read => read.label == first.label) =
      reads.filter fun read => read.label == first.label)
    (hdelivered : s'.handedOver first.label = s.handedOver first.label)
    (hholds : fate = .pending → s.Holds first data → s'.Holds first data) :
    s'.Tracked first data reads' fate := by
  cases h with
  | pending nextPoll h hnone hdata =>
    exact .pending nextPoll (hreads.trans h) (hdelivered.trans hnone) (hholds rfl hdata)
  | delivered h hone => exact .delivered (hreads.trans h) (hdelivered.trans hone)
  | dropped h hnone => exact .dropped (hreads.trans h) (hdelivered.trans hnone)

theorem handedOver_of_eq (h : s'.delivered = s.delivered) (label : String) :
    s'.handedOver label = s.handedOver label := by
  rw [handedOver, handedOver, h]

theorem Tracked.undisturbed (h : s.Tracked first data reads fate) (hsame : Undisturbed reads s s') :
    s'.Tracked first data reads fate := by
  refine h.of rfl (handedOver_of_eq hsame.delivered _) fun hpending hdata => ?_
  subst hpending
  cases h with
  | pending nextPoll hreads =>
    have hmem : ({ first with nextPoll } : PendingRead) ∈ reads :=
      (List.mem_filter.1 (hreads ▸ List.mem_singleton_self _)).1
    exact hsame.holds _ hmem data hdata

/-- How a fate may turn into another. -/
structure Proceeds (first : PendingRead) (s s' : Store State) (fate fate' : Fate) : Prop where
  final : fate ≠ .pending → fate' = fate
  freed : s.IsFreed first.target → fate' = .delivered → fate = .delivered
  stays : ∀ key, s.IsFreed key → s'.IsFreed key

theorem Proceeds.refl (s : Store State) (fate : Fate) : Proceeds first s s fate fate :=
  ⟨fun _ => rfl, fun _ => id, fun _ => id⟩

theorem Proceeds.trans {s'' : Store State} {fate'' : Fate} (h : Proceeds first s s' fate fate')
    (h' : Proceeds first s' s'' fate' fate'') : Proceeds first s s'' fate fate'' where
  final hover := by
    have hsame := h.final hover
    exact (h'.final (hsame ▸ hover)).trans hsame
  freed hfreed hdelivered := h.freed hfreed (h'.freed (h.stays _ hfreed) hdelivered)
  stays key hkey := h'.stays key (h.stays key hkey)

/-- The store is sound, and the read is where its fate says; some reads may be in hand. -/
structure Followed (index : Name) (first : PendingRead) (data : Bytes) (due : List PendingRead)
    (s : Store State) (fate : Fate) : Prop where
  sound : s.Sound index (due ++ s.pending)
  tracked : s.Tracked first data (due ++ s.pending) fate

theorem handedOver_append {delivery : Delivery} (h : s'.delivered = s.delivered ++ [delivery])
    (label : String) : s'.handedOver label = s.handedOver label ++
      if delivery.label = label then [delivery.pixels] else [] := by
  rw [handedOver, h, List.filter_append, List.map_append, handedOver]
  by_cases hlabel : delivery.label = label <;> simp [hlabel]

/-- A look at another read. -/
theorem Followed.step_other (h : Followed index first data (read :: due) s fate)
    (hlabel : read.label ≠ first.label) :
    Followed index first data due (step read s).2 fate := by
  have hother (nextPoll : Nat) :
      (({ read with nextPoll } : PendingRead).label == first.label) = false := beq_false_of_ne hlabel
  have hreads : ((read :: due ++ s.pending).filter fun read => read.label == first.label) =
      (due ++ s.pending).filter fun read => read.label == first.label := by
    rw [List.cons_append, List.filter_cons, hother read.nextPoll]
    rfl
  obtain ⟨hcases, -, hholds⟩ := step_sound h.sound
  rcases hcases with ⟨nextPoll, hsound, hpending, hdelivered⟩ | ⟨hsound, hpending, hdelivered⟩
  · constructor
    · rw [hpending, ← List.append_assoc]
      exact hsound
    · refine h.tracked.of ?_ (handedOver_of_eq hdelivered _) fun _ => hholds _ _
      rw [hpending, hreads, ← List.append_assoc, List.filter_append, List.filter_cons,
        hother nextPoll]
      exact List.append_nil _
  · constructor
    · rw [hpending]
      exact hsound
    · refine h.tracked.of (by rw [hpending, hreads]) ?_ fun _ => hholds _ _
      rcases hdelivered with hdelivered | ⟨-, hdelivered⟩
      · exact handedOver_of_eq hdelivered _
      · rw [handedOver_append hdelivered, if_neg hlabel, List.append_nil]

/-- A look at the read itself. -/
theorem Followed.step_self (hlength : data.length = first.length)
    (hfits : first.length ≤ first.array.bytes.length)
    (h : Followed index first data (read :: due) s fate) (hlabel : read.label = first.label) :
    ∃ fate', Followed index first data due (step read s).2 fate' ∧
      Proceeds first s (step read s).2 fate fate' := by
  have hself : (read.label == first.label) = true := beq_iff_eq.2 hlabel
  obtain ⟨hcases, hstays, hholds⟩ := step_sound h.sound
  obtain ⟨hsound, htracked⟩ := h
  cases htracked with
  | delivered hreads | dropped hreads =>
    rw [List.cons_append, List.filter_cons, hself, if_pos rfl] at hreads
    cases hreads
  | pending nextPoll hreads hnone hdata =>
    rw [List.cons_append, List.filter_cons, hself, if_pos rfl, List.cons.injEq] at hreads
    obtain ⟨hread, hothers⟩ := hreads
    have htarget : read.target = first.target := by rw [hread]
    rcases hcases with ⟨nextPoll', hsound', hpending, hdelivered⟩ |
      ⟨hsound', hpending, hdelivered | ⟨hvalid, hdelivered⟩⟩
    · refine ⟨.pending, ⟨?_, .pending nextPoll' ?_ ?_ (hholds _ _ hdata)⟩,
        fun hover => absurd rfl hover, fun _ => nofun, hstays⟩
      · rw [hpending, ← List.append_assoc]
        exact hsound'
      · rw [hpending, ← List.append_assoc, List.filter_append, hothers, hread]
        exact List.filter_eq_self.2 fun other hother =>
          List.mem_singleton.1 hother ▸ beq_self_eq_true _
      · exact (handedOver_of_eq hdelivered _).trans hnone
    · refine ⟨.dropped, ⟨hpending.symm ▸ hsound', .dropped (hpending.symm ▸ hothers) ?_⟩,
        fun hover => absurd rfl hover, fun _ => nofun, hstays⟩
      exact (handedOver_of_eq hdelivered _).trans hnone
    · have hreceived : s.received read = data := by
        subst hread
        exact received_eq hvalid hdata hlength hfits
      have harray : read.array = first.array := by
        subst hread
        rfl
      refine ⟨.delivered, ⟨hpending.symm ▸ hsound', .delivered (hpending.symm ▸ hothers) ?_⟩,
        fun hover => absurd rfl hover, fun hfreed => ?_, hstays⟩
      · rw [handedOver_append hdelivered, hnone, if_pos hlabel, hreceived, harray]
        rfl
      · -- The buffer of a read of a freed target is not good.
        exact absurd (htarget ▸ hsound.pooled.isLive hvalid) (isFreed_iff.1 hfreed).2

theorem Followed.step (hlength : data.length = first.length)
    (hfits : first.length ≤ first.array.bytes.length)
    (h : Followed index first data (read :: due) s fate) :
    ∃ fate', Followed index first data due (step read s).2 fate' ∧
      Proceeds first s (step read s).2 fate fate' := by
  by_cases hlabel : read.label = first.label
  · exact h.step_self hlength hfits hlabel
  · obtain ⟨-, hstays, -⟩ := step_sound h.sound
    exact ⟨fate, h.step_other hlabel, fun _ => rfl, fun _ => id, hstays⟩

/-! ### Following it through a poll -/

/-- A look at a read, with others in hand. -/
theorem Sound.step (h : s.Sound index (read :: due ++ s.pending)) :
    (DrawPass.Store.step read s).2.Sound index
      (due ++ (DrawPass.Store.step read s).2.pending) := by
  obtain ⟨⟨_, hsound, hpending, -⟩ | ⟨hsound, hpending, -⟩, -⟩ := step_sound h
  · rw [hpending, ← List.append_assoc]
    exact hsound
  · rw [hpending]
    exact hsound

theorem Sound.steps (n : Nat) (h : s.Sound index (due ++ s.pending)) :
    (due.foldlM (fun n read => do
      return if ← DrawPass.Store.step read then n + 1 else n) n s).2.Sound index
        (due.foldlM (fun n read => do
          return if ← DrawPass.Store.step read then n + 1 else n) n s).2.pending := by
  induction due generalizing n s with
  | nil => exact h
  | cons read due ih => exact ih (if (DrawPass.Store.step read s).1 then n + 1 else n) h.step

theorem Followed.steps (hlength : data.length = first.length)
    (hfits : first.length ≤ first.array.bytes.length) (n : Nat)
    (h : Followed index first data due s fate) :
    ∃ fate', Followed index first data []
        (due.foldlM (fun n read => do return if ← DrawPass.Store.step read then n + 1 else n) n s).2
          fate' ∧
      Proceeds first s
        (due.foldlM (fun n read => do return if ← DrawPass.Store.step read then n + 1 else n) n s).2
        fate fate' := by
  induction due generalizing n s fate with
  | nil => exact ⟨fate, h, .refl s fate⟩
  | cons read due ih =>
    obtain ⟨fate₁, h₁, hfirst⟩ := h.step hlength hfits
    obtain ⟨fate₂, h₂, hlater⟩ := ih (if (DrawPass.Store.step read s).1 then n + 1 else n) h₁
    exact ⟨fate₂, h₂, hfirst.trans hlater⟩

/-- The reads under way may be gone through in another order. -/
theorem Tracked.perm (h : s.Tracked first data reads fate) (hperm : reads'.Perm reads)
    (hdelivered : s'.delivered = s.delivered) (hholds : s.Holds first data → s'.Holds first data) :
    s'.Tracked first data reads' fate := by
  have hfilter := hperm.filter fun read => read.label == first.label
  refine h.of ?_ (handedOver_of_eq hdelivered _) fun _ => hholds
  cases h with
  | pending nextPoll hreads =>
    rw [hreads] at hfilter ⊢
    exact hfilter.eq_singleton
  | delivered hreads | dropped hreads =>
    rw [hreads] at hfilter ⊢
    exact hfilter.eq_nil

theorem Sound.perm (h : s.Sound index reads) (hperm : reads'.Perm reads) :
    s.Sound index reads' := ⟨h.wellFormed, h.attached, h.pooled.perm hperm⟩

/-- What is under way and what has been handed over may be put down elsewhere. -/
theorem Sound.of_eq (h : s.Sound index reads) (hkeeps : Keeps s s')
    (htargets : s'.targets = s.targets) (hdevice : s'.device = s.device) :
    s'.Sound index reads := by
  have hsame : SameTargets s s' := .of_eq (funext fun key => by rw [target?, htargets, target?])
  exact ⟨(hkeeps h.wellFormed).1, h.attached.of_same hsame.toSameFrames
      (congrArg (fun d : State => d.textures.keys) hdevice) (congrArg State.framebuffers hdevice)
      (Nat.le_of_eq (congrArg State.lastName hdevice).symm),
    h.pooled.of_same hsame.pool hsame.live (Nat.le_of_eq (congrArg State.lastName hdevice).symm)
      (congrArg State.buffers hdevice)⟩

theorem Sound.takeDue (h : s.Sound index s.pending) :
    s.takeDue.2.Sound index (s.takeDue.1 ++ s.takeDue.2.pending) :=
  (h.perm s.takeDue_perm).of_eq (permitsParts_keeps.reads s s.takeDue.2 rfl rfl rfl) rfl rfl

theorem Sound.poll (h : s.Sound index s.pending) :
    (DrawPass.Store.poll s).2.Sound index (DrawPass.Store.poll s).2.pending := h.takeDue.steps 0

theorem Followed.poll (hlength : data.length = first.length)
    (hfits : first.length ≤ first.array.bytes.length)
    (h : Followed index first data [] s fate) :
    ∃ fate', Followed index first data [] (DrawPass.Store.poll s).2 fate' ∧
      Proceeds first s (DrawPass.Store.poll s).2 fate fate' := by
  have hstart : Followed index first data s.takeDue.1 s.takeDue.2 fate :=
    ⟨Sound.takeDue h.sound, h.tracked.perm s.takeDue_perm rfl fun hholds => hholds.of_same rfl rfl⟩
  obtain ⟨fate', hend, hproceeds⟩ := hstart.steps hlength hfits 0
  refine ⟨fate', hend, hproceeds.final, hproceeds.freed, hproceeds.stays⟩

/-! ### Beginning to follow it -/

/-- Nothing is under way and nothing has been handed over under the label. -/
def IsNew (s : Store State) (label : String) : Prop :=
  s.underWay label = [] ∧ s.handedOver label = []

instance (s : Store State) (label : String) : Decidable (s.IsNew label) :=
  inferInstanceAs (Decidable (s.underWay label = [] ∧ s.handedOver label = []))

variable {key : TargetKey} {label : String} {region : Option Rect}
  {destination : Option PixelData} {s₁ s₂ : Store State} {t : Target} {rect : Rect}

/-- The array of a read takes all its bytes. -/
theorem Begun.length_le (h : Begun key label region destination s s₁ t rect read) :
    read.length ≤ read.array.bytes.length := by
  obtain ⟨fence, buffer, nextPoll, rfl⟩ := h.read
  rw [PixelData.length_bytes, PendingRead.array]
  cases hdestination : destination with
  | none =>
    let fresh := PixelData.zeroed t.info.array (t.regionBytes rect / t.info.array.byteSize)
    have hkind : fresh.kind = t.info.array := PixelData.kind_ofWords ..
    have hlength : fresh.length * fresh.kind.byteSize = t.regionBytes rect := by
      rw [hkind, PixelData.length_zeroed, Nat.div_mul_cancel (t.dvd_regionBytes rect)]
    exact Nat.le_of_eq hlength.symm
  | some d =>
    obtain ⟨hkind, hlength⟩ := h.fits d hdestination
    show t.elements rect * t.info.array.byteSize ≤ d.length * d.kind.byteSize
    rw [hkind]
    exact Nat.mul_le_mul_right _ hlength

/-- A read that has begun is followed from its first look on. -/
theorem Begun.followed (h : Begun key label region destination s s₁ t rect read)
    (hnew : s.IsNew label) (hs₂ : s₂.Sound index (read :: s.pending))
    (hsame : Undisturbed s.pending s s₂) (hlength : data.length = read.length)
    (hholds : s₂.Holds read data) :
    ∃ fate, Followed index read data [] (DrawPass.Store.step read s₂).2 fate := by
  have hlabel : read.label = label := by
    obtain ⟨_, _, _, rfl⟩ := h.read
    rfl
  have hself : (read.label == read.label) = true := beq_self_eq_true _
  have hothers : (s.pending.filter fun other => other.label == read.label) = [] := by
    rw [hlabel]
    exact hnew.1
  have hstart : Followed index read data [read] s₂ .pending := by
    constructor
    · rw [hsame.pending]
      exact hs₂
    · refine .pending read.nextPoll ?_ ?_ hholds
      · rw [hsame.pending, List.cons_append, List.filter_cons, hself, if_pos rfl, List.nil_append,
          hothers]
      · rw [handedOver_of_eq hsame.delivered, hlabel]
        exact hnew.2
  obtain ⟨fate, hfollowed, -⟩ := hstart.step_self hlength h.length_le rfl
  exact ⟨fate, hfollowed⟩

/-! ### What the device gives for the region -/

/-- The target is read through a companion that has been freed. -/
def SourceIsFreed (s : Store State) (t : Target) : Prop :=
  t.isFlatDepth = true ∧ ∃ own, t.companion.key? = some own ∧ s.IsFreed own

/-- The texture that a target is read through is there, if those of live targets are. -/
theorem mem_source (htextures : ∀ key f, s.frame? key = some f → s.IsLive key →
      f.name ∈ s.device.textures.keys) (ht : s.target? key = some t)
    (hlive : t.freed = false) (hsource : ¬ s.SourceIsFreed t) :
    s.source t.frame ∈ s.device.textures.keys := by
  have hframe := frame?_of_target? ht
  rw [Store.source]
  cases hc : t.frame.companion.key?.bind s.frame? with
  | none => exact htextures key _ hframe ((isLive_of_target? ht).2 hlive)
  | some c =>
    obtain ⟨own, hown, hc⟩ := Option.bind_eq_some_iff.1 hc
    by_cases hdepth : t.isFlatDepth = true
    · have hownlive : s.IsLive own := by
        refine Classical.byContradiction fun hdead => hsource ⟨hdepth, own, hown, ?_⟩
        exact isFreed_iff.2 ⟨hc ▸ rfl, hdead⟩
      show (if t.isFlatDepth = true then c.name else t.texture.name) ∈ _
      rw [if_pos hdepth]
      exact htextures own c hc hownlive
    · show (if t.isFlatDepth = true then c.name else t.texture.name) ∈ _
      rw [if_neg hdepth]
      exact htextures key _ hframe ((isLive_of_target? ht).2 hlive)

/-- The device gives the whole region. -/
theorem Sound.length_pixels (hs : s.Sound index reads)
    (h : Begun key label region destination s s₁ t rect read) (hends : rect.EndsWithin32Bits)
    (hsource : ¬ s.SourceIsFreed t) :
    (s₁.device.pixels rect t.info.layout.format t.info.layout.type).length =
      t.regionBytes rect := by
  have hbind : Attempt.Moves (Calm index reads)
      (bindForRead key : Attempt ReadError (Store State) Unit) :=
    bindForRead_moves permits_calm.toBinding key
  obtain ⟨hs₁, -⟩ := hbind.of_run h.bound hs
  obtain ⟨⟨id, hbound, hown⟩, hframes, -, hlives⟩ := bindForRead_ok h.bound
  have hframe : s₁.frame? key = some t.frame := hframes ▸ frame?_of_target? h.target
  obtain ⟨fb, hfb, hfirst⟩ := hs₁.attached.source key _ id hframe hown
  have hmem : s₁.source t.frame ∈ s₁.device.textures.keys := by
    obtain ⟨t', ht', hframe'⟩ := frame?_eq_some hframe
    obtain ⟨hdepth, hcompanion⟩ : t'.isFlatDepth = t.isFlatDepth ∧ t'.companion = t.companion :=
      ⟨congrArg Frame.isFlatDepth hframe', congrArg Frame.companion hframe'⟩
    have hlive : t'.freed = false := (isLive_of_target? ht').1
      (hlives ▸ (isLive_of_target? h.target).2 h.live)
    rw [← hframe']
    refine mem_source hs₁.attached.texture ht' hlive fun ⟨hflat, own, hkey, hfreed⟩ => hsource ?_
    refine ⟨hdepth ▸ hflat, own, hcompanion ▸ hkey, ?_⟩
    rw [isFreed_iff, ← hframes, ← hlives, ← isFreed_iff]
    exact hfreed
  obtain ⟨texture, htexture⟩ := Option.isSome_iff_exists.1 (Table.mem_keys_iff.1 hmem)
  rw [State.pixels, State.readSource?_eq hbound hfb hfirst, htexture]
  exact Target.length_read h.region hends texture

/-- What has been copied into the buffer is what a blocking read would have returned. -/
theorem Sound.readSync_eq (hs : s.Sound index reads)
    (h : Begun key label region destination s s₁ t rect read) (hends : rect.EndsWithin32Bits)
    (hsource : ¬ s.SourceIsFreed t) {content : Bytes} (hcontent : read.length ≤ content.length) :
    ∃ s', (readSync key region).run s = (.ok (PixelData.ofBytes t.info.array
      ((overwrite content (s₁.device.pixels rect t.info.layout.format
        t.info.layout.type)).take read.length)), s') := by
  have hpixels := hs.length_pixels h hends hsource
  have hread : read.length = t.regionBytes rect := by
    obtain ⟨_, _, _, rfl⟩ := h.read
    rfl
  obtain ⟨memory, s', hmemory, hrun⟩ := run_readSync h.target h.live h.region h.bound
  refine ⟨s', hrun.trans ?_⟩
  rw [overwrite_eq (Nat.le_of_eq (hpixels.trans hmemory.symm)), overwrite_eq (by omega),
    List.drop_of_length_le (by omega), List.append_nil, List.take_append_of_le_length (by omega),
    List.take_of_length_le (by omega)]

end Store

/-! ### Following it through all acts -/

open Store

/-- The label of a read that does not wait. -/
def Act.label? : Act → Option String
  | read _ label _ _ => some label
  | _ => none

variable {first : PendingRead} {data : Bytes} {fate : Fate}

/-- A renderer whose store is sound, and in which a read is where its fate says. -/
abbrev Renderer.Follows (r : Renderer State) (first : PendingRead) (data : Bytes)
    (fate : Fate) : Prop :=
  Followed r.geometry.buffer first data [] r.store fate

theorem Act.after_follows (hlength : data.length = first.length)
    (hfits : first.length ≤ first.array.bytes.length) {act : Act} (hplain : act.IsPlain)
    (hlabel : act.label? ≠ some first.label) {r : Renderer State}
    (h : r.Follows first data fate) :
    ∃ fate', (act.after r).Follows first data fate' ∧
      Proceeds first r.store (act.after r).store fate fate' := by
  -- An act that leaves the reads alone leaves the followed one where it is.
  have hundisturbed {s' : Store State} (hs' : s'.Sound r.geometry.buffer r.store.pending)
      (hsame : Undisturbed r.store.pending r.store s') :
      Followed r.geometry.buffer first data [] s' fate ∧ Proceeds first r.store s' fate fate :=
    ⟨⟨hsame.pending.symm ▸ hs', hsame.pending.symm ▸ h.tracked.undisturbed hsame⟩,
      fun _ => rfl, fun _ => id, hsame.freed⟩
  by_cases hcalm : act.isCalm
  · have hmoves : Renderer.Over r.geometry.buffer (Calm r.geometry.buffer r.store.pending) r
        (act.after r) := act.after_calm hplain hcalm r
    obtain ⟨hbuffer, hstep, -⟩ := hmoves rfl
    obtain ⟨hs', hsame⟩ := hstep h.sound
    obtain ⟨hfollowed, hproceeds⟩ := hundisturbed hs' hsame
    refine ⟨fate, ?_, hproceeds⟩
    rw [Renderer.Follows, hbuffer]
    exact hfollowed
  · cases act with
    | poll => exact h.poll hlength hfits
    | read key label region destination =>
      have hne : label ≠ first.label := fun heq => hlabel (congrArg some heq)
      have hafter : (Act.read key label region destination).after r = { r with store :=
          ((Store.read key label region destination).run r.store).2 } := rfl
      rw [hafter]
      rcases run_read h.sound key label region destination with ⟨e, s', hrun, hs', hsame⟩ |
        ⟨s₁, s₂, t, rect, read, content, hbegun, hrun, hs₂, hsame, -⟩ <;> rw [hrun]
      · exact ⟨fate, hundisturbed hs' hsame⟩
      · have hread : read.label ≠ first.label := by
          obtain ⟨_, _, _, rfl⟩ := hbegun.read
          exact hne
        have htracked := h.tracked.undisturbed hsame
        have hstart : Followed r.geometry.buffer first data [read] s₂ fate := by
          refine ⟨hsame.pending.symm ▸ hs₂, htracked.of ?_ rfl fun _ => id⟩
          rw [hsame.pending, List.cons_append, List.filter_cons, beq_false_of_ne hread]
          rfl
        -- The new read is looked at once, and it is not the one that is followed.
        obtain ⟨-, hstays, -⟩ := step_sound (hsame.pending.symm ▸ hs₂)
        exact ⟨fate, hstart.step_other hread, fun _ => rfl, fun _ => id,
          fun key hkey => hstays key (hsame.freed key hkey)⟩
    | _ => exact absurd rfl hcalm

theorem Act.afterAll_follows (hlength : data.length = first.length)
    (hfits : first.length ≤ first.array.bytes.length) {acts : List Act}
    (hacts : ∀ act ∈ acts, act.IsPlain ∧ act.label? ≠ some first.label) {r : Renderer State}
    (h : r.Follows first data fate) :
    ∃ fate', (Act.afterAll r acts).Follows first data fate' ∧
      Proceeds first r.store (Act.afterAll r acts).store fate fate' := by
  induction acts generalizing r fate with
  | nil => exact ⟨fate, h, .refl _ _⟩
  | cons act acts ih =>
    obtain ⟨⟨hplain, hlabel⟩, hacts⟩ := List.forall_mem_cons.1 hacts
    obtain ⟨fate₁, h₁, hfirst⟩ := Act.after_follows hlength hfits hplain hlabel h
    obtain ⟨fate₂, h₂, hlater⟩ := ih hacts h₁
    exact ⟨fate₂, h₂, hfirst.trans hlater⟩

/-- The store of every renderer that comes about with plain specs is sound. -/
theorem ReachableBy.sound {r : Renderer State} (hr : ReachableBy Act.IsPlain r) :
    r.store.Sound r.geometry.buffer r.store.pending := by
  refine ReachableBy.invariant (I := fun r => r.store.Sound r.geometry.buffer r.store.pending)
    (fun config width height r hr => ?_) (fun act r hplain hs => ?_) hr
  · have hwf := (ReachableBy.start (P := fun _ => True) hr).wellFormed
    obtain ⟨device, hname, htextures, -, hbuffer, hstore⟩ := Renderer.create_new hr
    rw [hstore] at hwf ⊢
    refine ⟨hwf, ⟨nofun, nofun, nofun, nofun, nofun, nofun, nofun⟩, ?_⟩
    have hindex : r.geometry.buffer ≤ device.lastName :=
      Nat.le_of_eq (hbuffer.trans hname.symm)
    exact ⟨hindex, nofun, nofun, nofun, nofun, nofun, fun _ _ => Nat.zero_le _, nofun, nofun⟩
  -- Only polls and reads are about the reads under way.
  · by_cases hcalm : act.isCalm
    · have hmoves : Renderer.Over r.geometry.buffer (Calm r.geometry.buffer r.store.pending) r
          (act.after r) := act.after_calm hplain hcalm r
      obtain ⟨hbuffer, hstep, -⟩ := hmoves rfl
      obtain ⟨hs', hsame⟩ := hstep hs
      rw [hbuffer, hsame.pending]
      exact hs'
    · cases act with
      | poll => exact hs.poll
      | read key label region destination =>
        show ((Store.read key label region destination).run r.store).2.Sound _
          ((Store.read key label region destination).run r.store).2.pending
        rcases run_read hs key label region destination with ⟨e, s', hrun, hs', hsame⟩ |
          ⟨s₁, s₂, t, rect, read, content, -, hrun, hs₂, hsame, -⟩ <;> rw [hrun]
        · exact hsame.pending.symm ▸ hs'
        · have hhand : s₂.Sound r.geometry.buffer (read :: [] ++ s₂.pending) :=
            hsame.pending.symm ▸ hs₂
          exact hhand.step
      | _ => exact absurd rfl hcalm

/-- The array that a read of a target fills: the caller's, or a fresh one of the region's size. -/
def Target.arrayFor (t : Target) (rect : Rect) (destination : Option PixelData) : PixelData :=
  destination.getD (PixelData.zeroed t.info.array (t.elements rect))

theorem Store.Begun.array_eq {key : TargetKey} {label : String} {region : Option Rect}
    {destination : Option PixelData} {s s₁ : Store State} {t : Target} {rect : Rect}
    {read : PendingRead} (h : Begun key label region destination s s₁ t rect read) :
    read.array = t.arrayFor rect destination := by
  obtain ⟨_, _, _, rfl⟩ := h.read
  have helements : t.regionBytes rect / t.info.array.byteSize = t.elements rect :=
    Nat.mul_div_cancel _ t.info.array.byteSize_pos
  show destination.getD (PixelData.zeroed _ (t.regionBytes rect / t.info.array.byteSize)) = _
  rw [helements]
  rfl

/-- Whatever the host does from here on, the one read of the label is pending, delivered or
dropped, and only one of these.  Once it is over it stays as it is, and it is not delivered any
more once its target has been freed. -/
def Renderer.HandsOverOnce (r : Renderer State) (key : TargetKey) (label : String)
    (pixels : PixelData) : Prop :=
  ∀ acts : List Act, (∀ act ∈ acts, act.IsPlain ∧ act.label? ≠ some label) →
    (∃! fate, (Act.afterAll r acts).store.HasFate label pixels fate) ∧
    ∀ later : List Act, (∀ act ∈ later, act.IsPlain ∧ act.label? ≠ some label) →
      ∀ fate fate', (Act.afterAll r acts).store.HasFate label pixels fate →
        (Act.afterAll r (acts ++ later)).store.HasFate label pixels fate' →
        (fate ≠ .pending → fate' = fate) ∧
        ((Act.afterAll r acts).store.IsFreed key → fate' = .delivered → fate = .delivered)

/-- A read that is followed is handed over at most once. -/
theorem Renderer.Follows.handsOverOnce (hlength : data.length = first.length)
    (hfits : first.length ≤ first.array.bytes.length) {r : Renderer State}
    (h : r.Follows first data fate) :
    r.HandsOverOnce first.target first.label (first.array.writeBytes data) := by
  intro acts hacts
  obtain ⟨fate₁, h₁, -⟩ := Act.afterAll_follows hlength hfits hacts h
  have hfate₁ := h₁.tracked.hasFate
  refine ⟨⟨fate₁, hfate₁, fun fate hfate => hfate.eq hfate₁⟩, ?_⟩
  intro later hlater fate fate' hfate hfate'
  obtain ⟨fate₂, h₂, hproceeds⟩ := Act.afterAll_follows hlength hfits hlater h₁
  have hfate₂ : (Act.afterAll r (acts ++ later)).store.HasFate first.label
      (first.array.writeBytes data) fate₂ := by
    rw [Act.afterAll, List.foldl_append]
    exact h₂.tracked.hasFate
  obtain rfl := hfate.eq hfate₁
  obtain rfl := hfate'.eq hfate₂
  exact ⟨hproceeds.final, hproceeds.freed⟩

/-- A read that does not wait and is not refused hands over the right pixels, at most once.

What it hands over begins with `data`, which fills the region; the rest of the array is as it was.
And `data` is what a blocking read of the same region would have returned at the moment of the
read, if the ends of the region can be computed in 32 bits and the texture that the target is read
through has not been freed. -/
theorem read_hands_over_once {r r₁ : Renderer State} (hr : ReachableBy Act.IsPlain r)
    {key : TargetKey} {label : String} {region : Option Rect} {destination : Option PixelData}
    (hnew : r.store.IsNew label)
    (hread : (Renderer.tryOnStore (Store.read key label region destination)).run r =
      (.ok (), r₁)) :
    ∃ (t : Target) (rect : Rect) (data : Bytes) (pixels : PixelData),
      r.store.target? key = some t ∧ t.region region = .ok rect ∧
      data.length = t.regionBytes rect ∧
      pixels.kind = (t.arrayFor rect destination).kind ∧
      pixels.bytes = data ++ (t.arrayFor rect destination).bytes.drop data.length ∧
      (rect.EndsWithin32Bits → ¬ r.store.SourceIsFreed t →
        ∃ r', (Renderer.tryOnStore (Store.readSync key region)).run r =
          (.ok (PixelData.ofBytes t.info.array data), r')) ∧
      r₁.HandsOverOnce key label pixels := by
  obtain ⟨hrun, hr₁⟩ : (Store.read key label region destination).run r.store = (.ok (), r₁.store) ∧
      r₁ = { r with store := r₁.store } := by
    injection hread with hok hstate
    subst hstate
    exact ⟨Prod.ext hok rfl, rfl⟩
  rcases run_read hr.sound key label region destination with ⟨e, s', hrefused, -⟩ |
    ⟨s₁, s₂, t, rect, read, content, hbegun, hok, hs₂, hsame, hcontent, hholds⟩
  · rw [hrefused] at hrun
    cases hrun
  have hlooked : (step read s₂).2 = r₁.store := by
    rw [hok] at hrun
    exact congrArg Prod.snd hrun
  -- What the buffer receives is what the region holds when the read begins.
  let data := (overwrite content
    (s₁.device.pixels rect t.info.layout.format t.info.layout.type)).take read.length
  obtain ⟨hlabel, htarget, hbytes⟩ : read.label = label ∧ read.target = key ∧
      read.length = t.regionBytes rect := by
    obtain ⟨_, _, _, rfl⟩ := hbegun.read
    exact ⟨rfl, rfl, rfl⟩
  have hlength : data.length = read.length := by
    rw [List.length_take, length_overwrite, Nat.min_eq_left hcontent]
  have hfits : data.length ≤ (t.arrayFor rect destination).bytes.length := by
    rw [hlength, ← hbegun.array_eq]
    exact hbegun.length_le
  refine ⟨t, rect, data, (t.arrayFor rect destination).writeBytes data, hbegun.target,
    hbegun.region, hlength.trans hbytes, PixelData.kind_writeBytes .., ?_, ?_, ?_⟩
  · rw [PixelData.bytes_writeBytes, overwrite_eq hfits]
  · intro hends hsource
    obtain ⟨s', hsync⟩ := hr.sound.readSync_eq hbegun hends hsource hcontent
    refine ⟨{ r with store := s' }, ?_⟩
    exact congrArg (fun p : Except ReadError PixelData × Store State =>
      (p.1, { r with store := p.2 })) hsync
  -- From here on the read is followed, whatever acts come after it.
  · obtain ⟨fate, hfirst⟩ := hbegun.followed hnew hs₂ hsame hlength hholds
    have hstart : r₁.Follows read data fate := by
      rw [hr₁, ← hlooked]
      exact hfirst
    rw [← hlabel, ← htarget, ← hbegun.array_eq]
    exact hstart.handsOverOnce hlength hbegun.length_le

/-- The first read of a new target. -/
theorem read_hands_over_once_of_first_read :
    ∃ r r₁ : Renderer State, ∃ pixels, ReachableBy Act.IsPlain r ∧
      (Renderer.tryOnStore (Store.read ⟨0⟩ "a" none none)).run r = (.ok (), r₁) ∧
      r₁.HandsOverOnce ⟨0⟩ "a" pixels := by
  have hr : ReachableBy Act.IsPlain (Act.afterAll Renderer.onePixel
      [.draw .empty (.spec { tag := "a" })]) := by
    refine (ReachableBy.start Renderer.create_onePixel).afterAll fun act hact => ?_
    rw [List.mem_singleton.1 hact]
    exact ⟨rfl, nofun⟩
  have hnew : (Act.afterAll Renderer.onePixel
      [.draw .empty (.spec { tag := "a" })]).store.IsNew "a" := by decide +kernel
  have hok : ((Renderer.tryOnStore (Store.read ⟨0⟩ "a" none none)).run (Act.afterAll
      Renderer.onePixel [.draw .empty (.spec { tag := "a" })])).1.toOption.isSome := by
    decide +kernel
  generalize Act.afterAll Renderer.onePixel [.draw .empty (.spec { tag := "a" })] = r at *
  rcases hread : (Renderer.tryOnStore (Store.read ⟨0⟩ "a" none none)).run r with ⟨e | _, r₁⟩ <;>
    rw [hread] at hok
  · cases hok
  · obtain ⟨_, _, _, pixels, -, -, -, -, -, -, hands⟩ := read_hands_over_once hr hnew hread
    exact ⟨r, r₁, pixels, hr, hread, hands⟩

end DrawPass
