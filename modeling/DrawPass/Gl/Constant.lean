/-
DrawPass/Gl/Constant.lean

The numeric constants of the graphics interface that this library names.
-/

namespace DrawPass.Gl.Constant

/-! ### Capabilities and buffers to clear -/

/-- Blending. -/
@[match_pattern] abbrev blend : UInt32 := 3042
/-- The depth test. -/
@[match_pattern] abbrev depthTest : UInt32 := 2929
/-- Face culling. -/
@[match_pattern] abbrev cullFace : UInt32 := 2884
/-- Coverage from alpha. -/
@[match_pattern] abbrev sampleAlphaToCoverage : UInt32 := 32926
/-- The scissor box. -/
@[match_pattern] abbrev scissorTest : UInt32 := 3089
/-- Clear the colour buffers. -/
@[match_pattern] abbrev colorBufferBit : UInt32 := 16384
/-- Clear the depth buffer. -/
@[match_pattern] abbrev depthBufferBit : UInt32 := 256
/-- Front faces. -/
@[match_pattern] abbrev front : UInt32 := 1028
/-- Back faces. -/
@[match_pattern] abbrev back : UInt32 := 1029

/-! ### Blending -/

/-- Factor 0. -/
@[match_pattern] abbrev zero : UInt32 := 0
/-- Factor 1. -/
@[match_pattern] abbrev one : UInt32 := 1
/-- Source colour. -/
@[match_pattern] abbrev srcColor : UInt32 := 768
/-- One minus source colour. -/
@[match_pattern] abbrev oneMinusSrcColor : UInt32 := 769
/-- Source alpha. -/
@[match_pattern] abbrev srcAlpha : UInt32 := 770
/-- One minus source alpha. -/
@[match_pattern] abbrev oneMinusSrcAlpha : UInt32 := 771
/-- Destination alpha. -/
@[match_pattern] abbrev dstAlpha : UInt32 := 772
/-- One minus destination alpha. -/
@[match_pattern] abbrev oneMinusDstAlpha : UInt32 := 773
/-- Destination colour. -/
@[match_pattern] abbrev dstColor : UInt32 := 774
/-- One minus destination colour. -/
@[match_pattern] abbrev oneMinusDstColor : UInt32 := 775
/-- Constant colour. -/
@[match_pattern] abbrev constantColor : UInt32 := 32769
/-- One minus constant colour. -/
@[match_pattern] abbrev oneMinusConstantColor : UInt32 := 32770
/-- Constant alpha. -/
@[match_pattern] abbrev constantAlpha : UInt32 := 32771
/-- One minus constant alpha. -/
@[match_pattern] abbrev oneMinusConstantAlpha : UInt32 := 32772
/-- Weighted sum. -/
@[match_pattern] abbrev funcAdd : UInt32 := 32774
/-- Componentwise minimum. -/
@[match_pattern] abbrev min : UInt32 := 32775
/-- Componentwise maximum. -/
@[match_pattern] abbrev max : UInt32 := 32776
/-- Source minus destination. -/
@[match_pattern] abbrev funcSubtract : UInt32 := 32778
/-- Destination minus source. -/
@[match_pattern] abbrev funcReverseSubtract : UInt32 := 32779

/-! ### Component types -/

/-- Signed 8-bit. -/
@[match_pattern] abbrev byte : UInt32 := 5120
/-- Unsigned 8-bit. -/
@[match_pattern] abbrev unsignedByte : UInt32 := 5121
/-- Signed 16-bit. -/
@[match_pattern] abbrev short : UInt32 := 5122
/-- Unsigned 16-bit. -/
@[match_pattern] abbrev unsignedShort : UInt32 := 5123
/-- Signed 32-bit. -/
@[match_pattern] abbrev int : UInt32 := 5124
/-- Unsigned 32-bit. -/
@[match_pattern] abbrev unsignedInt : UInt32 := 5125
/-- Single precision. -/
@[match_pattern] abbrev float : UInt32 := 5126
/-- Half precision. -/
@[match_pattern] abbrev halfFloat : UInt32 := 5131

/-! ### Transfer formats -/

/-- Depth. -/
@[match_pattern] abbrev depthComponent : UInt32 := 6402
/-- One channel. -/
@[match_pattern] abbrev red : UInt32 := 6403
/-- Three channels. -/
@[match_pattern] abbrev rgb : UInt32 := 6407
/-- Four channels. -/
@[match_pattern] abbrev rgba : UInt32 := 6408
/-- Two channels. -/
@[match_pattern] abbrev rg : UInt32 := 33319
/-- Two integer channels. -/
@[match_pattern] abbrev rgInteger : UInt32 := 33320
/-- One integer channel. -/
@[match_pattern] abbrev redInteger : UInt32 := 36244
/-- Three integer channels. -/
@[match_pattern] abbrev rgbInteger : UInt32 := 36248
/-- Four integer channels. -/
@[match_pattern] abbrev rgbaInteger : UInt32 := 36249

/-! ### Storage formats -/

/-- 24-bit depth. -/
@[match_pattern] abbrev depthComponent24 : UInt32 := 33190
@[match_pattern] abbrev r8 : UInt32 := 33321
@[match_pattern] abbrev rg8 : UInt32 := 33323
@[match_pattern] abbrev rgb8 : UInt32 := 32849
@[match_pattern] abbrev rgba8 : UInt32 := 32856
@[match_pattern] abbrev r16f : UInt32 := 33325
@[match_pattern] abbrev rg16f : UInt32 := 33327
@[match_pattern] abbrev rgb16f : UInt32 := 34843
@[match_pattern] abbrev rgba16f : UInt32 := 34842
@[match_pattern] abbrev r32f : UInt32 := 33326
@[match_pattern] abbrev rg32f : UInt32 := 33328
@[match_pattern] abbrev rgb32f : UInt32 := 34837
@[match_pattern] abbrev rgba32f : UInt32 := 34836
@[match_pattern] abbrev r8i : UInt32 := 33329
@[match_pattern] abbrev rg8i : UInt32 := 33335
@[match_pattern] abbrev rgb8i : UInt32 := 36239
@[match_pattern] abbrev rgba8i : UInt32 := 36238
@[match_pattern] abbrev r16i : UInt32 := 33331
@[match_pattern] abbrev rg16i : UInt32 := 33337
@[match_pattern] abbrev rgb16i : UInt32 := 36233
@[match_pattern] abbrev rgba16i : UInt32 := 36232
@[match_pattern] abbrev r32i : UInt32 := 33333
@[match_pattern] abbrev rg32i : UInt32 := 33339
@[match_pattern] abbrev rgb32i : UInt32 := 36227
@[match_pattern] abbrev rgba32i : UInt32 := 36226
@[match_pattern] abbrev r8ui : UInt32 := 33330
@[match_pattern] abbrev rg8ui : UInt32 := 33336
@[match_pattern] abbrev rgb8ui : UInt32 := 36221
@[match_pattern] abbrev rgba8ui : UInt32 := 36220
@[match_pattern] abbrev r16ui : UInt32 := 33332
@[match_pattern] abbrev rg16ui : UInt32 := 33338
@[match_pattern] abbrev rgb16ui : UInt32 := 36215
@[match_pattern] abbrev rgba16ui : UInt32 := 36214
@[match_pattern] abbrev r32ui : UInt32 := 33334
@[match_pattern] abbrev rg32ui : UInt32 := 33340
@[match_pattern] abbrev rgb32ui : UInt32 := 36209
@[match_pattern] abbrev rgba32ui : UInt32 := 36208

/-! ### Textures and samplers -/

/-- A flat texture. -/
@[match_pattern] abbrev texture2D : UInt32 := 3553
/-- A layered texture. -/
@[match_pattern] abbrev texture2DArray : UInt32 := 35866
/-- The first texture unit. -/
@[match_pattern] abbrev texture0 : UInt32 := 33984
/-- The nearest texel. -/
@[match_pattern] abbrev nearest : UInt32 := 9728
/-- Texels interpolated. -/
@[match_pattern] abbrev linear : UInt32 := 9729
/-- Texels and mip levels interpolated. -/
@[match_pattern] abbrev linearMipmapLinear : UInt32 := 9987
/-- The filter for magnification. -/
@[match_pattern] abbrev textureMagFilter : UInt32 := 10240
/-- The filter for minification. -/
@[match_pattern] abbrev textureMinFilter : UInt32 := 10241
/-- Wrapping along the first axis. -/
@[match_pattern] abbrev textureWrapS : UInt32 := 10242
/-- Wrapping along the second axis. -/
@[match_pattern] abbrev textureWrapT : UInt32 := 10243
/-- Coordinates held at the edge. -/
@[match_pattern] abbrev clampToEdge : UInt32 := 33071
/-- Coordinates repeated. -/
@[match_pattern] abbrev repeated : UInt32 := 10497
/-- Coordinates repeated in alternating direction. -/
@[match_pattern] abbrev mirroredRepeat : UInt32 := 33648
/-- Row alignment when reading. -/
@[match_pattern] abbrev packAlignment : UInt32 := 3333
/-- Row alignment when uploading. -/
@[match_pattern] abbrev unpackAlignment : UInt32 := 3317

/-! ### Framebuffers, buffers and draws -/

/-- The framebuffer binding point. -/
@[match_pattern] abbrev framebuffer : UInt32 := 36160
/-- The first colour attachment. -/
@[match_pattern] abbrev colorAttachment0 : UInt32 := 36064
/-- The depth attachment. -/
@[match_pattern] abbrev depthAttachment : UInt32 := 36096
/-- The vertex data binding point. -/
@[match_pattern] abbrev arrayBuffer : UInt32 := 34962
/-- The pixel read binding point. -/
@[match_pattern] abbrev pixelPackBuffer : UInt32 := 35051
/-- Written once, drawn often. -/
@[match_pattern] abbrev staticDraw : UInt32 := 35044
/-- Filled by the device, read once. -/
@[match_pattern] abbrev streamRead : UInt32 := 35041
/-- A strip of triangles. -/
@[match_pattern] abbrev triangleStrip : UInt32 := 5

/-! ### Shader stages and fences -/

/-- The fragment stage. -/
@[match_pattern] abbrev fragmentShader : UInt32 := 35632
/-- The vertex stage. -/
@[match_pattern] abbrev vertexShader : UInt32 := 35633
/-- Signal when all earlier commands are done. -/
@[match_pattern] abbrev syncGpuCommandsComplete : UInt32 := 37143
/-- The fence had signalled before the wait. -/
@[match_pattern] abbrev alreadySignaled : UInt32 := 37146
/-- The fence did not signal in time. -/
@[match_pattern] abbrev timeoutExpired : UInt32 := 37147
/-- The fence signalled during the wait. -/
@[match_pattern] abbrev conditionSatisfied : UInt32 := 37148
/-- The wait went wrong. -/
@[match_pattern] abbrev waitFailed : UInt32 := 37149

/-! ### Uniform types -/

@[match_pattern] abbrev floatVec2 : UInt32 := 35664
@[match_pattern] abbrev floatVec3 : UInt32 := 35665
@[match_pattern] abbrev floatVec4 : UInt32 := 35666
@[match_pattern] abbrev intVec2 : UInt32 := 35667
@[match_pattern] abbrev intVec3 : UInt32 := 35668
@[match_pattern] abbrev intVec4 : UInt32 := 35669
@[match_pattern] abbrev bool : UInt32 := 35670
@[match_pattern] abbrev boolVec2 : UInt32 := 35671
@[match_pattern] abbrev boolVec3 : UInt32 := 35672
@[match_pattern] abbrev boolVec4 : UInt32 := 35673
@[match_pattern] abbrev floatMat2 : UInt32 := 35674
@[match_pattern] abbrev floatMat3 : UInt32 := 35675
@[match_pattern] abbrev floatMat4 : UInt32 := 35676
@[match_pattern] abbrev unsignedIntVec2 : UInt32 := 36294
@[match_pattern] abbrev unsignedIntVec3 : UInt32 := 36295
@[match_pattern] abbrev unsignedIntVec4 : UInt32 := 36296
@[match_pattern] abbrev sampler2D : UInt32 := 35678
@[match_pattern] abbrev sampler2DArray : UInt32 := 36289
@[match_pattern] abbrev intSampler2D : UInt32 := 36298
@[match_pattern] abbrev intSampler2DArray : UInt32 := 36303
@[match_pattern] abbrev unsignedIntSampler2D : UInt32 := 36306
@[match_pattern] abbrev unsignedIntSampler2DArray : UInt32 := 36311

end DrawPass.Gl.Constant
