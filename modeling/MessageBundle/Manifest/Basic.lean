import MessageBundle.Round

/-!
# Manifests

A manifest is a configuration and a list of declared interfaces. Its structure is
checked before a round: names are not blank, a bundle has a project code, and
every parameter has a name. What the annotations mean is left to the round.
-/

namespace MessageBundle

/-- A configuration with the interfaces to generate from. -/
structure Manifest where
  config : Config := {}
  interfaces : List Interface := []
  deriving DecidableEq, Repr

/-- What is wrong with the structure of a manifest. -/
inductive StructureFault
  | unnamedInterface
  | emptyProjectCode (interface : String)
  | unnamedMethod (interface : String)
  | unnamedParameter (type interface method : String)
  deriving DecidableEq, Repr

/-- The wording of a fault. -/
def StructureFault.message : StructureFault → String
  | unnamedInterface => "Interface name cannot be empty"
  | emptyProjectCode interface => s!"Project code cannot be empty for bundle '{interface}'"
  | unnamedMethod interface => s!"Method name cannot be empty in '{interface}'"
  | unnamedParameter type interface method =>
    s!"Parameter of type '{type}' on '{interface}.{method}' has no name"

/-- Why a manifest is refused before its round. -/
inductive ManifestFault
  | config (fault : ConfigFault)
  | structural (fault : StructureFault)
  deriving DecidableEq, Repr

/-- The first fault of a method in an interface, if it has one. -/
def Method.structureFault? (interface : String) (m : Method) : Option StructureFault :=
  if Text.isAllBlank m.name then some (.unnamedMethod interface)
  else
    (m.parameters.find? fun p => Text.isAllBlank p.name).map fun p =>
      .unnamedParameter p.type interface m.name

/-- The first fault of an interface, if it has one. -/
def Interface.structureFault? (i : Interface) : Option StructureFault :=
  if Text.isAllBlank i.name then some .unnamedInterface
  else if i.projectCode = some "" then some (.emptyProjectCode i.name)
  else i.methods.findSome? (Method.structureFault? i.name)

namespace Manifest

/-- The interfaces that are bundles, counted. -/
def bundleCount (m : Manifest) : Nat :=
  (m.interfaces.filter fun i => i.projectCode.isSome).length

/-- The first fault of a manifest, if it has one: of its configuration, then of
its interfaces in order. -/
def fault? (m : Manifest) : Option ManifestFault :=
  match m.config.fault? with
  | some fault => some (.config fault)
  | none => (m.interfaces.findSome? Interface.structureFault?).map .structural

end Manifest

end MessageBundle
