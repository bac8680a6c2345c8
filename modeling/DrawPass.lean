import DrawPass.Binary.Format
import DrawPass.Binary.Single
import DrawPass.Blend.Spec
import DrawPass.Blend.State
import DrawPass.Color
import DrawPass.Config
import DrawPass.Error
import DrawPass.Geometry.Count
import DrawPass.Geometry.IndexArray
import DrawPass.Gl.Call
import DrawPass.Gl.Command
import DrawPass.Gl.Constant
import DrawPass.Gl.Handle
import DrawPass.Gl.Recorder
import DrawPass.OpenGl.Device
import DrawPass.Params.Bag
import DrawPass.Params.Options
import DrawPass.Pixel.Data
import DrawPass.Pixel.Format
import DrawPass.Pixel.Word
import DrawPass.Readback.PackPool
import DrawPass.Readback.Pending
import DrawPass.Renderer.Basic
import DrawPass.Renderer.Draw
import DrawPass.Renderer.Toggles
import DrawPass.Sampling.Mode
import DrawPass.Sampling.Sampler
import DrawPass.Session
import DrawPass.Shader.Assembler
import DrawPass.Shader.Comment
import DrawPass.Shader.Program
import DrawPass.Shader.Snippet
import DrawPass.Shader.Template
import DrawPass.Shader.UniformKind
import DrawPass.Shader.Upload
import DrawPass.Shader.Varying
import DrawPass.Software.Call
import DrawPass.Software.Device
import DrawPass.Software.Fragment
import DrawPass.Software.Program
import DrawPass.Software.Texel
import DrawPass.Software.Texture
import DrawPass.Table
import DrawPass.Target.Basic
import DrawPass.Target.Framebuffer
import DrawPass.Target.Lifecycle
import DrawPass.Target.Read
import DrawPass.Target.Registry
import DrawPass.Target.Sampling
import DrawPass.Target.Spec
import DrawPass.Target.Store
import DrawPass.Target.Story
import DrawPass.Text.Character
import DrawPass.Text.Line
import DrawPass.Text.Pattern
import DrawPass.Text.Ranges
import DrawPass.Uniform.Declaration
import DrawPass.Uniform.Value
import DrawPass.Proofs.Action
import DrawPass.Proofs.BlendGrammar
import DrawPass.Proofs.Command
import DrawPass.Proofs.FixedState
import DrawPass.Proofs.WellFormed
import DrawPass.Proofs.Creation
import DrawPass.Proofs.FailedPreparation
import DrawPass.Proofs.StoryOrder
import DrawPass.Proofs.Attached
import DrawPass.Proofs.PixelBytes
import DrawPass.Proofs.Pool
import DrawPass.Proofs.Pooled
import DrawPass.Proofs.ReadStep
import DrawPass.Proofs.Readback
import DrawPass.Proofs.Owned
import DrawPass.Proofs.Bag
import DrawPass.Proofs.StoryHistory
import DrawPass.Proofs.Naming
import DrawPass.Proofs.Kept
import DrawPass.Proofs.Orderly
import DrawPass.Proofs.OrderlyReads
import DrawPass.Proofs.OrderlyDraws
import DrawPass.Proofs.UseAfterDelete
import DrawPass.Proofs.Declared
import DrawPass.Proofs.FixedParts
import DrawPass.Proofs.Inferred
import DrawPass.Proofs.Compiles
import DrawPass.Proofs.TargetCommands
import DrawPass.Proofs.Strip
import DrawPass.Proofs.Setters
import DrawPass.Proofs.Upload
import DrawPass.Proofs.Programs
import DrawPass.Proofs.Screen
import DrawPass.Proofs.Sources
import DrawPass.Proofs.Scanned
import DrawPass.Proofs.Samplers
import DrawPass.Proofs.Values
import DrawPass.Proofs.Levels
import DrawPass.Proofs.Mounted
import DrawPass.Proofs.Current
import DrawPass.Proofs.MipLevels
import DrawPass.Proofs.Claimed
import DrawPass.Proofs.ParameterErrors
import DrawPass.Proofs.Preparing
import DrawPass.Proofs.Lockstep
import DrawPass.Proofs.Registered
import DrawPass.Proofs.Equipped
import DrawPass.Proofs.Closing
import DrawPass.Proofs.FramebufferHistory
import DrawPass.Proofs.Stocked
import DrawPass.Proofs.Accounted
import DrawPass.Proofs.Fences
import DrawPass.Proofs.Refusals
import DrawPass.Proofs.Stages
import DrawPass.Proofs.Builds
import DrawPass.Proofs.Counts
import DrawPass.Proofs.Indexed
import DrawPass.Proofs.MeshCover
import DrawPass.Proofs.Blended
import DrawPass.Proofs.Texels
import DrawPass.Proofs.Clears
import DrawPass.Proofs.ClearedView
import DrawPass.Proofs.RefusedUpdates
import DrawPass.Proofs.Parentheses
import DrawPass.Proofs.Hoisted
import DrawPass.Proofs.ReadSource
import DrawPass.Proofs.PixelWords
import DrawPass.Proofs.Crops
import DrawPass.Proofs.Exact
import DrawPass.Proofs.Singles
import DrawPass.Proofs.Transfers
import DrawPass.Proofs.UploadedTexels
import DrawPass.Proofs.RoundTrip
import DrawPass.Proofs.Commented
import DrawPass.Proofs.Searched
import DrawPass.Proofs.HoistedPlaces
import DrawPass.Proofs.Wrapped
import DrawPass.Proofs.Rescanned
import DrawPass.Proofs.Entrywise
import DrawPass.Proofs.Polled
import DrawPass.Proofs.Punctual
import DrawPass.Proofs.IntegerCounts
import DrawPass.Proofs.Recognized
import DrawPass.Proofs.DriverCalls
import DrawPass.Proofs.ReservedStorage
import DrawPass.Proofs.Applied
import DrawPass.Proofs.Bindings
import DrawPass.Proofs.HalfBuilt
import DrawPass.Proofs.FormatNames
import DrawPass.Proofs.ByteViews
import DrawPass.Proofs.Guarded
import DrawPass.Proofs.TextureStorage
import DrawPass.Proofs.Remembered
