/-
DrawPass/Shader/Template.lean

The fixed parts of every program: the helpers and built-in uniforms that both stages
share, the declarations in front of each stage, and the two main functions.
-/

namespace DrawPass.Shader

/-- Lines, each with its ending. -/
def ofLines (lines : List String) : String := String.join (lines.map fun l => l ++ "\n")

/-- Helpers and built-in uniforms of both stages. -/
def template : String := ofLines [
  "uniform ivec3 Grid;",
  "uniform ivec2 Mesh;",
  "uniform ivec4 View;",
  "#define ViewSize (View.zw)",
  "uniform vec2 Aspect;",
  "varying vec2 UV;",
  "#define XY (2.0*UV-1.0)",
  "",
  "const float PI  = radians(180.0);",
  "const float TAU = radians(360.0);",
  "",
  "// integer hash, each component in [0, 1]",
  "vec3 hash(ivec3 ix) \x7b",
  "    uvec3 x = uvec3(ix);",
  "    const uint k = 1103515245U;",
  "    x = ((x>>8U)^x.yzx)*k;",
  "    x = ((x>>8U)^x.yzx)*k;",
  "    x = ((x>>8U)^x.yzx)*k;",
  "    return vec3(x)*(1.0/float(0xffffffffU));",
  "\x7d",
  "",
  "mat2 rot2(float a) \x7b",
  "    float s = sin(a), c = cos(a);",
  "    return mat2(c, s, -s, c);",
  "\x7d",
  "",
  "// rotate p around unit axis ax by ro radians",
  "vec3 erot(vec3 p, vec3 ax, float ro) \x7b",
  "    return mix(dot(ax, p)*ax, p, cos(ro)) + cross(ax, p)*sin(ro);",
  "\x7d",
  "",
  "vec3 uv2sphere(vec2 uv) \x7b",
  "    uv *= vec2(-TAU, PI);",
  "    return vec3(vec2(cos(uv.x), sin(uv.x))*sin(uv.y), cos(uv.y));",
  "\x7d",
  "",
  "vec3 torus(vec2 uv, float r1, float r2) \x7b",
  "    uv *= TAU;",
  "    vec3 p = vec3(r1 + cos(uv.x)*r2, 0, sin(uv.x)*r2);",
  "    return vec3(p.xy*rot2(uv.y), p.z);",
  "\x7d",
  "",
  "vec3 cubeVert(vec2 xy, int side) \x7b",
  "    float x = xy.x, y = xy.y;",
  "    switch (side) \x7b",
  "        case 0: return vec3(x, y, 1);  case 1: return vec3(y, x, -1);",
  "        case 2: return vec3(y, 1, x);  case 3: return vec3(x, -1, y);",
  "        case 4: return vec3(1, x, y);  case 5: return vec3(-1, y, x);",
  "    \x7d;",
  "    return vec3(0.0);",
  "\x7d",
  "",
  "vec3 _surf_f(vec3 p, vec3 a, vec3 b, out vec3 normal) \x7b",
  "    normal = normalize(cross(a - p, b - p));",
  "    return p;",
  "\x7d",
  "#define SURF(f, uv, out_normal, eps) _surf_f(f(uv), f(uv + vec2(eps, 0)), f(uv + vec2(0, eps)), out_normal)",
  "",
  "vec4 _sample(sampler2D tex, vec2 uv) \x7b return texture(tex, uv); \x7d",
  "vec4 _sample(sampler2D tex, ivec2 xy) \x7b return texelFetch(tex, xy, 0); \x7d",
  "vec4 _sample(sampler2DArray tex, vec2 uv, int layer) \x7b return texture(tex, vec3(uv, layer)); \x7d",
  "vec4 _sample(sampler2DArray tex, ivec2 xy, int layer) \x7b return texelFetch(tex, ivec3(xy, layer), 0); \x7d",
  "ivec4 _sample(isampler2D tex, vec2 uv) \x7b return texture(tex, uv); \x7d",
  "ivec4 _sample(isampler2D tex, ivec2 xy) \x7b return texelFetch(tex, xy, 0); \x7d",
  "ivec4 _sample(isampler2DArray tex, ivec2 xy, int layer) \x7b return texelFetch(tex, ivec3(xy, layer), 0); \x7d",
  "uvec4 _sample(usampler2D tex, vec2 uv) \x7b return texture(tex, uv); \x7d",
  "uvec4 _sample(usampler2D tex, ivec2 xy) \x7b return texelFetch(tex, xy, 0); \x7d",
  "uvec4 _sample(usampler2DArray tex, ivec2 xy, int layer) \x7b return texelFetch(tex, ivec3(xy, layer), 0); \x7d",
  "",
  "#ifdef FRAG",
  "float isoline(float v) \x7b",
  "    float distToInt = abs(v - round(v));",
  "    return smoothstep(max(fwidth(v), 0.0001), 0.0, distToInt);",
  "\x7d",
  "",
  "float wireframe() \x7b",
  "    vec2 m = UV*vec2(Mesh);",
  "    float d1 = isoline(m.x - m.y), d2 = isoline(m.x + m.y);",
  "    float d = mix(d1, d2, float(int(m.y)%2));",
  "    return isoline(m.x) + isoline(m.y) + d;",
  "\x7d",
  "#endif"]

/-- What stands in front of the vertex stage. -/
def vertexHeader : String := ofLines [
  "#define VERT",
  "#define varying out",
  "#define VPos gl_Position",
  "layout(location = 0) in int VertexID;",
  "layout(location = 1) in int InstanceID;",
  "ivec2 VID;",
  "ivec3 ID;"]

/-- The main function of the vertex stage. It finds the place of a vertex in a triangle strip that
zigzags over the mesh, rows joined by degenerate triangles. -/
def vertexMain : String := ofLines [
  "void main() \x7b",
  "    // triangle-strip zigzag over a Mesh.x by Mesh.y grid, rows joined by degenerate triangles",
  "    int rowVertN = Mesh.x*2 + 3;",
  "    int rowI = VertexID/rowVertN;",
  "    int rowVertI = min(VertexID%rowVertN, rowVertN - 2);",
  "    int odd = rowI%2;",
  "    if (odd == 0) rowVertI = rowVertN - rowVertI - 2;",
  "    VID = ivec2(rowVertI>>1, rowI + (rowVertI + odd + 1)%2);",
  "    int ii = InstanceID;",
  "    ID.x = ii%Grid.x; ii /= Grid.x;",
  "    ID.y = ii%Grid.y; ii /= Grid.y;",
  "    ID.z = ii;",
  "    UV = vec2(VID)/vec2(Mesh);",
  "    VPos = vec4(XY, 0.0, 1.0);",
  "    vertex();",
  "    VPos.xy *= Aspect;",
  "\x7d"]

/-- What stands in front of the fragment stage. -/
def fragmentHeader : String := ofLines [
  "#define FRAG",
  "#define varying in",
  "layout(location = 0) out vec4 FOut;",
  "layout(location = 1) out vec4 FOut1;",
  "layout(location = 2) out vec4 FOut2;",
  "layout(location = 3) out vec4 FOut3;",
  "layout(location = 4) out vec4 FOut4;",
  "layout(location = 5) out vec4 FOut5;",
  "layout(location = 6) out vec4 FOut6;",
  "layout(location = 7) out vec4 FOut7;",
  "ivec2 I;"]

/-- The main function of the fragment stage. -/
def fragmentMain : String := ofLines [
  "void main() \x7b",
  "    I = ivec2(gl_FragCoord.xy);",
  "    fragment();",
  "\x7d"]

end DrawPass.Shader
