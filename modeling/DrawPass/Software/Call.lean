/-
DrawPass/Software/Call.lean

What the device in memory writes down about the commands it carries out.

A call keeps what identifies the command; `Call.written` is its written form.
-/
import DrawPass.Gl.Call

namespace DrawPass.Software

open Gl

/-- A command as it is written down. -/
inductive Call where
  | pixelStore (parameter : UInt32) (value : Int32)
  | createTexture (id : Name)
  | deleteTexture (id : Name)
  | texImage (id : Name) (width height : UInt32) (layers : Option UInt32)
      (internalFormat : UInt32) (withData : Bool)
  | generateMipmap (id : Name)
  | bindTextureUnit (unit : UInt32) (texture : Option Name)
  | createSampler (minFilter magFilter wrap : UInt32)
  | deleteSampler (id : Name)
  | createFramebuffer (id : Name)
  | deleteFramebuffer (id : Name)
  | bindFramebuffer (id : Option Name)
  | framebufferTexture (attachment : UInt32) (texture : Name) (layer : Option UInt32)
  | drawBuffers (count : Nat)
  | compileShader (stage : Stage)
  | linkProgram (id : Name)
  | deleteProgram (id : Name)
  | useProgram (id : Option Name)
  | setUniform (name : String)
  | enable (capability : UInt32)
  | disable (capability : UInt32)
  | blendFunc (src dst : UInt32)
  | blendEquation (mode : UInt32)
  | cullFace (face : UInt32)
  | depthMask (write : Bool)
  | viewport (rect : Rect)
  | scissor (rect : Rect)
  | clear (color : Color) (mask : UInt32)
  | createBuffer (id : Name)
  | deleteBuffer (id : Name)
  | bufferData (id : Name) (size : Nat)
  | createVertexArray (id : Name)
  | deleteVertexArray (id : Name)
  | bindVertexArray (id : Option Name)
  | intAttribute (location divisor : UInt32)
  | drawArraysInstanced (mode : UInt32) (count instances : Int32)
  | readPixels (width height : Int32) (intoBuffer : Bool)
  | fenceSync (id : Name)
  | clientWaitSync (id : Name)
  | deleteSync (id : Name)
  | flush
  | getBufferSubData (id : Name) (length : Nat)
  deriving DecidableEq

namespace Call

open Argument in
/-- The written form of a call. -/
def written : Call → Gl.Call
  | pixelStore parameter value => ⟨"PixelStore", [word parameter, signed value]⟩
  | createTexture id => ⟨"CreateTexture", [name id]⟩
  | deleteTexture id => ⟨"DeleteTexture", [name id]⟩
  | texImage id width height layers internalFormat withData =>
    ⟨"TexImage", [name id, word width, word height, optional word layers, word internalFormat,
      truth withData]⟩
  | generateMipmap id => ⟨"GenerateMipmap", [name id]⟩
  | bindTextureUnit unit texture => ⟨"BindTextureUnit", [word unit, optional name texture]⟩
  | createSampler minFilter magFilter wrap =>
    ⟨"CreateSampler", [word minFilter, word magFilter, word wrap]⟩
  | deleteSampler id => ⟨"DeleteSampler", [name id]⟩
  | createFramebuffer id => ⟨"CreateFramebuffer", [name id]⟩
  | deleteFramebuffer id => ⟨"DeleteFramebuffer", [name id]⟩
  | bindFramebuffer id => ⟨"BindFramebuffer", [optional name id]⟩
  | framebufferTexture attachment texture layer =>
    ⟨"FramebufferTexture", [word attachment, name texture, optional word layer]⟩
  | drawBuffers count => ⟨"DrawBuffers", [int count]⟩
  | compileShader stage => ⟨"CompileShader", [text stage.label]⟩
  | linkProgram id => ⟨"LinkProgram", [name id]⟩
  | deleteProgram id => ⟨"DeleteProgram", [name id]⟩
  | useProgram id => ⟨"UseProgram", [optional name id]⟩
  | setUniform uniform => ⟨"SetUniform", [text uniform]⟩
  | enable capability => ⟨"Enable", [word capability]⟩
  | disable capability => ⟨"Disable", [word capability]⟩
  | blendFunc src dst => ⟨"BlendFunc", [word src, word dst]⟩
  | blendEquation mode => ⟨"BlendEquation", [word mode]⟩
  | cullFace face => ⟨"CullFace", [word face]⟩
  | depthMask write => ⟨"DepthMask", [truth write]⟩
  | viewport r => ⟨"Viewport", [rect r]⟩
  | scissor r => ⟨"Scissor", [rect r]⟩
  | clear c mask => ⟨"Clear", [color c, word mask]⟩
  | createBuffer id => ⟨"CreateBuffer", [name id]⟩
  | deleteBuffer id => ⟨"DeleteBuffer", [name id]⟩
  | bufferData id size => ⟨"BufferData", [name id, int size]⟩
  | createVertexArray id => ⟨"CreateVertexArray", [name id]⟩
  | deleteVertexArray id => ⟨"DeleteVertexArray", [name id]⟩
  | bindVertexArray id => ⟨"BindVertexArray", [optional name id]⟩
  | intAttribute location divisor => ⟨"IntAttribute", [word location, word divisor]⟩
  | drawArraysInstanced mode count instances =>
    ⟨"DrawArraysInstanced", [word mode, signed count, signed instances]⟩
  | readPixels width height intoBuffer =>
    ⟨"ReadPixels", [signed width, signed height, truth intoBuffer]⟩
  | fenceSync id => ⟨"FenceSync", [name id]⟩
  | clientWaitSync id => ⟨"ClientWaitSync", [name id]⟩
  | deleteSync id => ⟨"DeleteSync", [name id]⟩
  | flush => ⟨"Flush", []⟩
  | getBufferSubData id length => ⟨"GetBufferSubData", [name id, int length]⟩

end Call

end DrawPass.Software
