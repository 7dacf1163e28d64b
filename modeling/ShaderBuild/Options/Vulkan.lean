/-
  Vulkan versions as one number: the minor version in the ten bits above the lowest twelve, and the
  major version above them.

  * `Vulkan.encode`, `Vulkan.decode`;
  * `Vulkan.target?`: the versions that options can name.
-/
import ShaderBuild.Fault

namespace ShaderBuild.Vulkan

/-- The greatest minor version there is room for. -/
def maxMinor : Int := 1023

/-- The number of a version. -/
def encode (major minor : Int) : Except Fault Int :=
  if 0 ≤ minor ∧ minor ≤ maxMinor then .ok (major * 0x400000 + minor * 0x1000)
  else match Fault.writable minor with
    | .ok minor => .error (.value (.minorRange minor))
    | .error f => .error f

/-- The version of a number, whose lowest twelve bits do not count. -/
def decode (version : Int) : Int × Int := (version / 0x400000, version / 0x1000 % 0x400)

/-- The number of Vulkan 1.0. -/
def version1_0 : Int := 0x400000

/-- The versions that options can name. -/
def targets : List (String × Int) :=
  [("vulkan", version1_0), ("vulkan1_0", version1_0), ("vulkan1_1", 0x401000),
   ("vulkan1_2", 0x402000), ("vulkan1_3", 0x403000)]

/-- The number of a version that options name. -/
def target? (name : Text) : Option Int := (targets.find? fun t => text t.1 = name).map (·.2)

end ShaderBuild.Vulkan
