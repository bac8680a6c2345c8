/-
DrawPass/Renderer/Draw.lean

One draw, from a bag of parameters to the instanced draw of the device.

A draw goes through the same stages whatever it draws into:

* the bag is read (`Plan.ofBag`), which asks nothing of the device;
* the target is found or made, and bound, which turns a story round;
* the view is cleared;
* the program is found or linked, and the fixed state is set;
* the uniforms are written and the strip is drawn;
* what was switched on is switched off again.

Everything that can be refused comes before the first capability of a draw is switched
on.  A draw into the target of a spec, without a colour to clear with and without
snippets, only prepares that target.
-/
import DrawPass.Params.Options
import DrawPass.Renderer.Basic
import DrawPass.Renderer.Toggles
import DrawPass.Shader.Upload

namespace DrawPass

open Gl DrawPass.Geometry Params Shader

/-- Where a draw goes. -/
inductive Destination where
  /-- The default framebuffer. -/
  | screen
  /-- The target of a spec, made on demand. -/
  | spec (spec : TargetSpec)
  /-- A target that the caller holds. -/
  | texture (key : TargetKey)
  /-- A story that the caller holds. -/
  | story (key : StoryKey)

/-- What has been drawn into can be drawn into again. -/
def Resolved.destination : Resolved → Destination
  | screen => .screen
  | texture key => .texture key
  | story key => .story key

/-- What a bag asks for, once it has been read. -/
structure Plan where
  options : Options
  uniforms : Uniform.Values
  vertices : UInt32
  instances : UInt32

/-- Read a bag. -/
def Plan.ofBag (bag : Bag) : Except DrawError Plan := do
  let (options, uniforms) ← split bag
  let vertices ← expect .mesh "a vertex count within i32"
    (vertexCount options.mesh.1 options.mesh.2)
  let instances ← expect .grid "an instance count within i32"
    (instanceCount options.grid.1 options.grid.2.1 options.grid.2.2)
  return { options, uniforms, vertices, instances }

/-- The capabilities that a draw needs. -/
def Plan.toggles (p : Plan) (blend : Option Blend.State) : Toggles where
  blend := blend.isSome
  depthTest := p.options.depthTest.enabled
  cullFace := p.options.face.isSome
  alphaCoverage := p.options.alphaCoverage

/-- The uniforms of a draw with those that every draw has: the view, its aspect, the grid and the
mesh. -/
def Plan.withBuiltins (p : Plan) (uniforms : Uniform.Values) (view : Rect) : Uniform.Values :=
  let aspect := aspectScale p.options.aspect (Single.ofInt view.width.toInt)
    (Single.ofInt view.height.toInt)
  let (columns, rows, layers) := p.options.grid
  uniforms
    |>.insert "View" (.intVector [view.x, view.y, view.width, view.height])
    |>.insert "Aspect" (.vector [aspect.1, aspect.2])
    |>.insert "Grid" (.intVector [columns.toInt32, rows.toInt32, layers.toInt32])
    |>.insert "Mesh" (.intVector [p.options.mesh.1.toInt32, p.options.mesh.2.toInt32])

namespace Renderer

variable {σ : Type}

/-- The blend equation of a spec. -/
def blendState (spec : Option String) : Attempt DrawError (Renderer σ) (Option Blend.State) := do
  match spec with
  | none => return none
  | some spec =>
    let (state, blends) := (← get).blends.parse spec
    modify fun r => { r with blends }
    match state with
    | .ok state => return state
    | .error cause => throw (.invalidBlend cause)

variable [Device σ]

/-- Find or make the target of a draw. -/
def resolve (destination : Destination) : Attempt DrawError (Renderer σ) Resolved := do
  match destination with
  | .screen => return .screen
  | .texture key => return .texture key
  | .story key => return .story key
  | .spec spec =>
    let (resolved, registry) ← tryOnStore ((← get).registry.prepare spec)
    modify fun r => { r with registry }
    return resolved

/-- The uniforms of a draw into a story, which reads its current slot as `Src` unless the caller
gave one. -/
def withSource (resolved : Resolved) (uniforms : Uniform.Values) :
    StateM (Renderer σ) Uniform.Values := do
  let store := (← get).store
  let source : Option Target :=
    match resolved with
    | .story _ => (resolved.target? store).bind store.target?
    | _ => none
  match source with
  | some t =>
    if uniforms.contains "Src" then return uniforms
    else return uniforms.insert "Src" (.sampler t.sampler)
  | none => return uniforms

/-- Bind what is drawn into; the answer is its size. A story is turned round first. -/
def bind (resolved : Resolved) : Attempt DrawError (Renderer σ) (UInt32 × UInt32) := do
  match resolved with
  | .screen =>
    Attempt.perform (.bindFramebuffer none)
    Attempt.perform .drawingBufferSize
  | .texture key => tryOnStore (Store.bindTarget key false)
  | .story key =>
    modify fun r => { r with store := r.store.rotate key }
    let some slot := resolved.target? (← get).store | throw (.freedTarget "")
    tryOnStore (Store.bindTarget slot false)

/-- Clear the view. -/
def clearView (view : Rect) (color : Color) : StateM (Renderer σ) Unit := do
  perform (.enable Constant.scissorTest)
  perform (.scissor view)
  perform (.clear color (Constant.colorBufferBit ||| Constant.depthBufferBit))
  perform (.disable Constant.scissorTest)

/-- Assemble the sources of a program. -/
def assemble (key : ProgramKey) (uniforms : Uniform.Values) : StateM (Renderer σ) Sources :=
  modifyGet fun r =>
    let (sources, assembler) :=
      r.assembler.assemble key.includes key.vertex key.fragment uniforms
    (sources, { r with assembler })

/-- The program of a draw. -/
def program (options : Options) (uniforms : Uniform.Values) :
    Attempt DrawError (Renderer σ) Program := do
  let key : ProgramKey := ⟨options.includes, options.vertex, options.fragment⟩
  let (program, programs) ← (← get).programs.resolve key (assemble key uniforms)
  modify fun r => { r with programs }
  return program

/-- Set the fixed state of a draw, and switch on the capabilities that it needs. -/
def setState (plan : Plan) (blend : Option Blend.State) : StateM (Renderer σ) Unit := do
  if let some state := blend then state.apply
  if let some face := plan.options.face then perform (.cullFace face.culled)
  for capability in (plan.toggles blend).capabilities do
    perform (.enable capability)

/-- Write the uniforms and draw the strip. -/
def drawStrip (plan : Plan) (program : Program) (uniforms : Uniform.Values) :
    StateM (Renderer σ) Unit := do
  let geometry ← (← get).geometry.ensure (max plan.vertices plan.instances)
  modify fun r => { r with geometry }
  geometry.bind
  let samplers ← onStore (program.applyUniforms uniforms (← get).samplers)
  modify fun r => { r with samplers }
  perform (.drawArraysInstanced Constant.triangleStrip 0 plan.vertices.toInt32
    plan.instances.toInt32)

/-- Switch off what a draw switched on. -/
def revertState (plan : Plan) (blend : Option Blend.State) : StateM (Renderer σ) Unit := do
  for capability in (plan.toggles blend).capabilities do
    perform (.disable capability)
  perform (.depthMask true)
  perform (.bindVertexArray none)

/-- Run the snippets of a draw over the view of the bound target. -/
def runStages (plan : Plan) (blend : Option Blend.State) (uniforms : Uniform.Values)
    (view : Rect) : Attempt DrawError (Renderer σ) Unit := do
  let program ← tryCatch (program plan.options uniforms) fun refusal => do
    Attempt.perform (.depthMask true)
    throw refusal
  ExceptT.lift do
    perform (.useProgram (some program.name))
    setState plan blend
    perform (.viewport view)
    drawStrip plan program (plan.withBuiltins uniforms view)
    revertState plan blend

/-- Whether a draw is over once its target is prepared. A target that the caller holds is bound
all the same. -/
def onlyPrepares (plan : Plan) (destination : Destination) : Bool :=
  match destination with
  | .spec _ => plan.options.isNoop
  | _ => false

/-- Draw. The answer is what was drawn into. -/
def draw (bag : Bag) (destination : Destination) : Attempt DrawError (Renderer σ) Resolved := do
  let plan ← Plan.ofBag bag
  let blend ← blendState plan.options.blend
  let resolved ← resolve destination
  if onlyPrepares plan destination then return resolved
  let uniforms ← ExceptT.lift (withSource resolved plan.uniforms)
  let (width, height) ← bind resolved
  let view := plan.options.viewRect width height
  Attempt.perform (.depthMask plan.options.depthTest.writes)
  if let some color := plan.options.clear then ExceptT.lift (clearView view color)
  if plan.options.hasStages then
    runStages plan blend uniforms view
  else
    Attempt.perform (.depthMask true)
  return resolved

end Renderer

end DrawPass
